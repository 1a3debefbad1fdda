import RecordMapper.Proofs.Column.Form

/-!
Scalars of JSON values. A value has a scalar of its own, and a typed column stores a scalar for it;
for the values of some forms the two are the same.
-/

namespace RecordMapper

namespace SqlValue

theorem ofJson_ne_null {value : Json} (h : value.isNull = false) : ofJson value ≠ .null := by
  cases value with
  | null => cases h
  | number n =>
    rcases n with ⟨i, fits⟩ | x
    · cases hi : (Json.Number.integer i fits).int64? <;> simp [ofJson, ofJson?, hi]
    · cases hx : (Json.Number.real x).int64? <;> simp [ofJson, ofJson?, hx]
  | bool _ | string _ | array _ | object _ => simp [ofJson, ofJson?]

theorem ofJson?_integer (i : Int) (fits : FitsWord i) :
    ofJson? (.number (.integer i fits)) = some (ColumnType.bigIntScalar i) := by
  by_cases h : FitsInt64 i
  · simp only [ofJson?, Json.Number.int64?_integer h, ColumnType.bigIntScalar, if_pos h]
  · have hnone : (Json.Number.integer i fits).int64? = none := if_neg h
    simp only [ofJson?, hnone, ColumnType.bigIntScalar, if_neg h]

theorem ofJson_integer (i : Int) (fits : FitsWord i) :
    ofJson (.number (.integer i fits)) = ColumnType.bigIntScalar i := by
  rw [ofJson, ofJson?_integer, Option.getD_some]

theorem ofJson_large {i : Int} (fits : FitsWord i) (h : ¬ FitsInt64 i) :
    ofJson (.number (.integer i fits)) = .text (String.ofList (intDigits i)) := by
  rw [ofJson_integer, ColumnType.bigIntScalar, if_neg h]

theorem eq_bool_of_ofJson {value : Json} {b : Bool} (h : ofJson value = .bool b) :
    value = .bool b := by
  cases value with
  | bool b' =>
    cases h
    rfl
  | number n =>
    cases n with
    | integer i fits =>
      rw [ofJson_integer, ColumnType.bigIntScalar] at h
      split at h <;> cases h
    | real x => cases h
  | null | string _ | array _ | object _ => cases h

theorem integer_of_ofJson {value : Json} {n : Int64} (h : ofJson value = .int n) :
    ∃ i fits, FitsInt64 i ∧ value = .number (.integer i fits) := by
  cases value with
  | number n =>
    cases n with
    | integer i fits =>
      by_cases hfits : FitsInt64 i
      · exact ⟨i, fits, hfits, rfl⟩
      · rw [ofJson_large fits hfits] at h
        cases h
    | real x => cases h
  | null | bool _ | string _ | array _ | object _ => cases h

theorem real_of_ofJson {value : Json} {double : Double} (h : ofJson value = .float double) :
    ∃ x, value = .number (.real x) := by
  cases value with
  | number n =>
    cases n with
    | integer i fits =>
      rw [ofJson_integer, ColumnType.bigIntScalar] at h
      split at h <;> cases h
    | real x => exact ⟨x, rfl⟩
  | null | bool _ | string _ | array _ | object _ => cases h

theorem cases_of_ofJson_text {value : Json} {s : String} (h : ofJson value = .text s) :
    value = .string s ∨ (∃ i fits, ¬ FitsInt64 i ∧ value = .number (.integer i fits)) ∨
      (∃ elements, value = .array elements) ∨ ∃ members, value = .object members := by
  cases value with
  | number n =>
    cases n with
    | integer i fits =>
      by_cases hfits : FitsInt64 i
      · rw [ofJson_integer, ColumnType.bigIntScalar, if_pos hfits] at h
        cases h
      · exact .inr (.inl ⟨i, fits, hfits, rfl⟩)
    | real x => cases h
  | string s' =>
    cases h
    exact .inl rfl
  | array elements => exact .inr (.inr (.inl ⟨elements, rfl⟩))
  | object members => exact .inr (.inr (.inr ⟨members, rfl⟩))
  | null | bool _ => cases h

end SqlValue

namespace Json

theorem length_le_stringTail (cs : List Char) : cs.length + 1 ≤ (stringTail cs).length := by
  induction cs with
  | nil => simp [stringTail]
  | cons c cs ih =>
    have hescaped : 1 ≤ (escapedChar c).length := by
      unfold escapedChar
      split
      · simp
      · split <;> simp
    rw [stringTail, List.length_append, List.length_cons]
    omega

theorem print_string_ne (s : String) : (Json.string s).print ≠ s := by
  intro h
  -- the JSON text of a string is longer than the string
  have hlength := congrArg (fun text => text.toList.length) h
  have hle := length_le_stringTail s.toList
  simp only [print, text, stringText, String.toList_ofList, List.length_cons] at hlength
  omega

end Json

theorem Cast.holds_of_textToBigInt {cs : List Char} {i : Int} (h : textToBigInt cs = some i) :
    bigIntRange.Holds i := by
  unfold textToBigInt at h
  dsimp only at h
  split at h
  · cases h
    decide
  · split at h
    · next hread =>
      cases h
      exact IntegerRange.holds_of_read (by decide) hread
    · cases h

namespace ColumnType

/-- The values that a column of a type stores as their own scalars. -/
inductive StoresOwn : ColumnType → Json → Prop where
  | boolean (b : Bool) : StoresOwn .boolean (.bool b)
  | int (i : Int) (fits : FitsWord i) (h : FitsInt64 i) : StoresOwn .int (.number (.integer i fits))
  | float (x : FiniteDouble) : StoresOwn .float (.number (.real x))
  | bigInt (i : Int) (fits : FitsWord i) : StoresOwn .bigInt (.number (.integer i fits))
  | digits (i : Int) (h : Cast.bigIntRange.Holds i) (hlarge : ¬ FitsInt64 i) :
    StoresOwn .bigInt (.string (String.ofList (intDigits i)))
  | string (s : String) : StoresOwn .text (.string s)
  | large (type : ColumnType) (htype : type = .text ∨ type = .json) (i : Int) (fits : FitsWord i)
    (hlarge : ¬ FitsInt64 i) : StoresOwn type (.number (.integer i fits))
  | array (type : ColumnType) (htype : type = .text ∨ type = .json) (elements : List Json) :
    StoresOwn type (.array elements)
  | object (type : ColumnType) (htype : type = .text ∨ type = .json)
    (members : List (String × Json)) : StoresOwn type (.object members)

variable {type : ColumnType} {value : Json}

theorem StoresOwn.cast_eq (h : type.StoresOwn value) :
    type.cast (some value) = some (.ofJson value) := by
  cases h with
  | boolean b => rfl
  | int i fits h =>
    have hcast : Cast.numberToInt (.integer i fits) = some (Int64.ofInt i) := by
      rw [Cast.numberToInt, Json.Number.int64?_integer h]
    rw [SqlValue.ofJson_integer, bigIntScalar, if_pos h, cast, Cast.toInt, hcast, Option.map_some]
  | float x => rfl
  | bigInt i fits =>
    rw [SqlValue.ofJson_integer]
    rfl
  | digits i h hlarge =>
    have hread : Cast.toBigInt (some (.string (String.ofList (intDigits i)))) = some i := by
      simp [Cast.toBigInt, Cast.textToBigInt_intDigits h]
    rw [cast, hread, Option.map_some, bigIntScalar, if_neg hlarge]
    rfl
  | string s => rfl
  | large type htype i fits hlarge =>
    rw [SqlValue.ofJson_large fits hlarge]
    rcases htype with rfl | rfl <;> rfl
  | array type htype elements => rcases htype with rfl | rfl <;> rfl
  | object type htype members => rcases htype with rfl | rfl <;> rfl

theorem storesOwn_of_cast (h : type.cast (some value) = some (.ofJson value)) :
    type.StoresOwn value := by
  cases type with
  | boolean =>
    have hvalue := SqlValue.eq_bool_of_ofJson (Option.some.inj h).symm
    rw [hvalue]
    exact .boolean _
  | int =>
    obtain ⟨n, -, hvalue⟩ := Option.map_eq_some_iff.1 h
    obtain ⟨i, fits, hfits, rfl⟩ := SqlValue.integer_of_ofJson hvalue.symm
    exact .int i fits hfits
  | float =>
    obtain ⟨double, -, hvalue⟩ := Option.map_eq_some_iff.1 h
    obtain ⟨x, rfl⟩ := SqlValue.real_of_ofJson hvalue.symm
    exact .float x
  | bigInt =>
    obtain ⟨i, hcast, hvalue⟩ := Option.map_eq_some_iff.1 h
    by_cases hfits : FitsInt64 i
    · rw [bigIntScalar, if_pos hfits] at hvalue
      obtain ⟨j, fits, -, rfl⟩ := SqlValue.integer_of_ofJson hvalue.symm
      exact .bigInt j fits
    · rw [bigIntScalar, if_neg hfits] at hvalue
      obtain rfl | ⟨j, fits, -, rfl⟩ | ⟨elements, rfl⟩ | ⟨members, rfl⟩ :=
        SqlValue.cases_of_ofJson_text hvalue.symm
      · exact .digits i (Cast.holds_of_textToBigInt hcast) hfits
      · exact .bigInt j fits
      · cases hcast
      · cases hcast
  | text =>
    obtain hstring | ⟨i, fits, hlarge, rfl⟩ | ⟨elements, rfl⟩ | ⟨members, rfl⟩ :=
      SqlValue.cases_of_ofJson_text (Option.some.inj h).symm
    · rw [hstring]
      exact .string _
    · exact .large .text (.inl rfl) i fits hlarge
    · exact .array .text (.inl rfl) elements
    · exact .object .text (.inl rfl) members
  | json =>
    obtain hstring | ⟨i, fits, hlarge, rfl⟩ | ⟨elements, rfl⟩ | ⟨members, rfl⟩ :=
      SqlValue.cases_of_ofJson_text (Option.some.inj h).symm
    · -- a string within its quotes is another text
      have hprint : value.print = (Json.string value.print).print := congrArg Json.print hstring
      exact absurd hprint.symm (Json.print_string_ne _)
    · exact .large .json (.inr rfl) i fits hlarge
    · exact .array .json (.inr rfl) elements
    · exact .object .json (.inr rfl) members

theorem cast_eq_ofJson_iff :
    type.cast (some value) = some (.ofJson value) ↔ type.StoresOwn value :=
  ⟨storesOwn_of_cast, StoresOwn.cast_eq⟩

end ColumnType

end RecordMapper
