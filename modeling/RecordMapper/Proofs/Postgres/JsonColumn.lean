import RecordMapper.Postgres.Bind
import RecordMapper.Postgres.Decode
import RecordMapper.Proofs.Column.Stored

/-!
JSON in columns of JSON. A value is stored as its text and bound to the column as the value that the
text writes; the cell that comes back decodes to the value. A column of that type reads it as it is,
but for strings: a string is taken for text once more.
-/

namespace RecordMapper.Postgres

theorem bytesText?_textBytes (s : String) : bytesText? (textBytes s) = some s := by
  have hvalid : s.toUTF8.IsValidUTF8 := s.isValidUTF8
  unfold bytesText? textBytes String.fromUTF8?
  rw [Array.toArray_toList, dif_pos hvalid]
  rfl

/-- The binary forms of a JSON value: a text that writes it, behind a version if the type has one. -/
inductive Carries (value : Json) : ValueType → Bytes → Prop where
  | json (s : String) (h : Json.ofString? s = some value) : Carries value .json (textBytes s)
  | jsonb (s : String) (h : Json.ofString? s = some value) : Carries value .jsonb (1 :: textBytes s)

variable {type : ValueType} {value : Json}

theorem Carries.decodeCell_eq {bytes : Bytes} (h : Carries value type bytes) :
    decodeCell type (some bytes) = .ok value := by
  cases h with
  | json s h => simp only [decodeCell, decodeBytes, bytesText?_textBytes, Option.bind_some, h, decoded]
  | jsonb s h =>
    simp only [decodeCell, decodeBytes, decodeJsonb, bytesText?_textBytes, Option.bind_some, h,
      decoded]

theorem bindChecked_print (htype : type = .json ∨ type = .jsonb) (hreads : value.ReadsBack) :
    ∃ bytes, bindChecked type (.text value.print) = .ok (some bytes) ∧ Carries value type bytes := by
  have hread := hreads.ofString?_print
  rcases htype with rfl | rfl
  · refine ⟨jsonBytes value, ?_, .json _ hread⟩
    simp only [bindChecked, ValueType.isBindable, if_true, bind, bindText, hread, Option.map_some,
      wellFormed, Except.map]
  · refine ⟨jsonbBytes value, ?_, .jsonb _ hread⟩
    simp only [bindChecked, ValueType.isBindable, if_true, bind, bindText, hread, Option.map_some,
      wellFormed, Except.map]

theorem parse_string (s : String) : ColumnType.json.parse (.string s) = Json.ofString? s :=
  rfl

theorem parse_eq_self_iff : ColumnType.json.parse value = some value ↔ ∀ s, value ≠ .string s := by
  cases value with
  | string s =>
    rw [parse_string]
    exact iff_of_false (Json.ofString?_ne_string s) fun h => h s rfl
  | null | bool _ | number _ | array _ | object _ => exact iff_of_true rfl (by simp)

/-- A value is stored in a column of JSON, and the cell that comes back decodes. It is read as the
value, unless the value is a string: then what is read is the value that the string writes. -/
theorem json_bound_and_read (htype : type = .json ∨ type = .jsonb) (hreads : value.ReadsBack) :
    ∃ scalar bytes, ColumnType.json.cast (some value) = some scalar ∧
      bindChecked type scalar = .ok (some bytes) ∧ Carries value type bytes ∧
      ∀ returned, Carries value type returned →
        ∃ stored, decodeCell type (some returned) = .ok stored ∧
          (ColumnType.json.parse stored = some value ↔ ∀ s, value ≠ .string s) ∧
          ∀ s, value = .string s → ColumnType.json.parse stored = Json.ofString? s := by
  obtain ⟨bytes, hbind, hcarries⟩ := bindChecked_print htype hreads
  refine ⟨.text value.print, bytes, rfl, hbind, hcarries, ?_⟩
  intro returned hreturned
  refine ⟨value, hreturned.decodeCell_eq, parse_eq_self_iff, ?_⟩
  rintro s rfl
  exact parse_string s

theorem json_bound_and_read_array :
    ∃ bytes, bindChecked .jsonb (.text ColumnType.ratioAndNull.print) = .ok (some bytes) ∧
      ∃ stored, decodeCell .jsonb (some bytes) = .ok stored ∧
        ColumnType.json.parse stored = some ColumnType.ratioAndNull := by
  obtain ⟨scalar, bytes, hcast, hbind, hcarries, hreturned⟩ :=
    json_bound_and_read (.inr rfl) ColumnType.readsBack_ratioAndNull
  obtain ⟨stored, hstored, hself, -⟩ := hreturned bytes hcarries
  cases hcast
  exact ⟨bytes, hbind, stored, hstored, hself.2 (by simp [ColumnType.ratioAndNull])⟩

/-- A word is no JSON text: it is stored as a string, and not read. -/
theorem word_not_read :
    (Json.string "hello").isNull = false ∧ (Json.string "hello").ReadsBack ∧
      ColumnType.json.cast (some (.string "hello")) = some (.text "\"hello\"") ∧
      ∃ bytes, bindChecked .jsonb (.text "\"hello\"") = .ok (some bytes) ∧
        Carries (.string "hello") .jsonb bytes ∧
        decodeCell .jsonb (some bytes) = .ok (.string "hello") ∧
        ColumnType.json.parse (.string "hello") = none := by
  have hreads : (Json.string "hello").ReadsBack := ⟨by decide, trivial, trivial⟩
  have hprint : (Json.string "hello").print = "\"hello\"" := by decide +kernel
  obtain ⟨bytes, hbind, hcarries⟩ := bindChecked_print (.inr rfl) hreads
  rw [hprint] at hbind
  refine ⟨rfl, hreads, ?_, bytes, hbind, hcarries, hcarries.decodeCell_eq, ?_⟩
  · rw [← hprint]
    rfl
  · exact Option.isNone_iff_eq_none.1 (by decide +kernel)

end RecordMapper.Postgres
