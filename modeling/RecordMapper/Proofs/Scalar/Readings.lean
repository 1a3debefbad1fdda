import RecordMapper.Proofs.Cast.BigInteger

/-!
The two readings of a scalar from a JSON value, by the value itself and by its form alone. They agree
on every value but the integers beyond 64 bits with a sign: the first keeps all digits of these as
text, the second rounds them to doubles.
-/

namespace RecordMapper

namespace Json

def ExceedsInt64 : Json → Prop
  | .number (.integer i _) => ¬ FitsInt64 i
  | _ => False

def IsContainer : Json → Prop
  | .array _ | .object _ => True
  | _ => False

end Json

namespace SqlValue

def asNull? : Json → Option SqlValue
  | .null => some .null
  | _ => none

def asBool? : Json → Option SqlValue
  | .bool value => some (.bool value)
  | _ => none

/-- A double is no integer, also when it has no fraction. -/
def asInt? : Json → Option SqlValue
  | .number n => n.int64?.map .int
  | _ => none

def asFloat? : Json → Option SqlValue
  | .number n => some (.float n.toDouble)
  | _ => none

def asText? : Json → Option SqlValue
  | .string value => some (.text value)
  | _ => none

/-- The forms of a scalar in the order in which a value is tried as them. -/
def forms : List (Json → Option SqlValue) :=
  [asNull?, asBool?, asInt?, asFloat?, asText?]

theorem ofForm?_eq_findSome? (value : Json) :
    ofForm? value = forms.findSome? fun form => form value := by
  cases value with
  | number n =>
    unfold ofForm? forms
    simp only [List.findSome?_cons, asNull?, asBool?, asInt?, asFloat?]
    cases n.int64? with
    | none => rfl
    | some i => rfl
  | null | bool _ | string _ | array _ | object _ => rfl

theorem ofForm?_integer {i : Int} (fits : FitsWord i) :
    ofForm? (.number (.integer i fits)) =
      some (if FitsInt64 i then .int (Int64.ofInt i) else .float (.ofInt .double i)) := by
  unfold ofForm?
  dsimp only
  by_cases h : FitsInt64 i
  · rw [Json.Number.int64?_integer h, if_pos h]
  · rw [show (Json.Number.integer i fits).int64? = none from if_neg h, if_neg h]
    rfl

theorem not_keeps_float (i : Int) (x : Double) : ¬ Keeps i (.float x) :=
  nofun

theorem ofForm?_integer_cases {i : Int} (fits : FitsWord i) :
    (FitsInt64 i ∧ ofForm? (.number (.integer i fits)) = some (ColumnType.bigIntScalar i)) ∨
      (¬ FitsInt64 i ∧ ofForm? (.number (.integer i fits)) = some (.float (.ofInt .double i))) := by
  rw [ofForm?_integer]
  by_cases h : FitsInt64 i
  · exact .inl ⟨h, by rw [if_pos h, ColumnType.bigIntScalar, if_pos h]⟩
  · exact .inr ⟨h, by rw [if_neg h]⟩

theorem ofForm?_eq_ofJson?_iff (value : Json) :
    ofForm? value = ofJson? value ↔ ¬ value.ExceedsInt64 := by
  cases value with
  | number n =>
    cases n with
    | integer i fits =>
      rw [ofJson?_integer, Json.ExceedsInt64, not_not]
      rcases ofForm?_integer_cases fits with ⟨hfits, heq⟩ | ⟨hlarge, heq⟩
      · exact iff_of_true heq hfits
      · refine iff_of_false (fun h => ?_) hlarge
        rw [heq, Option.some_inj] at h
        exact not_keeps_float i _ (h ▸ ColumnType.keeps_bigIntScalar i)
    | real x => exact iff_of_true rfl not_false
  | null | bool _ | string _ | array _ | object _ => exact iff_of_true rfl not_false

theorem readings_eq_none_iff (value : Json) :
    (ofForm? value = none ↔ value.IsContainer) ∧ (ofJson? value = none ↔ value.IsContainer) := by
  cases value with
  | number n =>
    have hsome : ofForm? (.number n) ≠ none ∧ ofJson? (.number n) ≠ none := by
      cases n with
      | integer i fits =>
        rw [ofForm?_integer, ofJson?_integer]
        exact ⟨nofun, nofun⟩
      | real x => exact ⟨nofun, nofun⟩
    exact ⟨iff_of_false hsome.1 not_false, iff_of_false hsome.2 not_false⟩
  | null | bool _ | string _ => exact ⟨iff_of_false nofun not_false, iff_of_false nofun not_false⟩
  | array _ | object _ => exact ⟨iff_of_true rfl trivial, iff_of_true rfl trivial⟩

theorem exists_readings_integer {i : Int} (fits : FitsWord i) :
    ∃ kept formed, ofJson? (.number (.integer i fits)) = some kept ∧
      ofForm? (.number (.integer i fits)) = some formed ∧
      Keeps i kept ∧ (Keeps i formed ↔ FitsInt64 i) := by
  have hkept := ColumnType.keeps_bigIntScalar i
  rcases ofForm?_integer_cases fits with ⟨hfits, heq⟩ | ⟨hlarge, heq⟩
  · exact ⟨_, _, ofJson?_integer i fits, heq, hkept, iff_of_true hkept hfits⟩
  · exact ⟨_, _, ofJson?_integer i fits, heq, hkept, iff_of_false (not_keeps_float i _) hlarge⟩

/-- A value tried as null, boolean, integer, double and text in this order reads as its own scalar
exactly when it is no integer beyond 64 bits with a sign. Neither reading takes a container, and
only the one by value keeps the digits of every integer. -/
theorem readings_agree_iff (value : Json) :
    ofForm? value = (forms.findSome? fun form => form value) ∧
      (ofForm? value = ofJson? value ↔ ¬ value.ExceedsInt64) ∧
      ((ofForm? value = none ↔ value.IsContainer) ∧ (ofJson? value = none ↔ value.IsContainer)) ∧
      ∀ i fits, value = .number (.integer i fits) →
        ∃ kept formed, ofJson? value = some kept ∧ ofForm? value = some formed ∧
          Keeps i kept ∧ (Keeps i formed ↔ FitsInt64 i) := by
  refine ⟨ofForm?_eq_findSome? value, ofForm?_eq_ofJson?_iff value, readings_eq_none_iff value, ?_⟩
  rintro i fits rfl
  exact exists_readings_integer fits

theorem readings_agree_iff_word_max :
    ∃ kept formed, ofJson? (.number (.integer 18446744073709551615 (by decide))) = some kept ∧
      ofForm? (.number (.integer 18446744073709551615 (by decide))) = some formed ∧
      Keeps 18446744073709551615 kept ∧
      (Keeps 18446744073709551615 formed ↔ FitsInt64 18446744073709551615) :=
  (readings_agree_iff (.number (.integer 18446744073709551615 (by decide)))).2.2.2 _ _ rfl

/-- The largest integer of 64 bits without a sign reads as `2 ^ 64` by its form. -/
theorem readings_differ_at_word_max :
    ofJson? (.number (.integer 18446744073709551615 (by decide))) =
        some (.text "18446744073709551615") ∧
      ofForm? (.number (.integer 18446744073709551615 (by decide))) =
        some (.float (.finite ⟨false, 0x43f0000000000000, by decide +kernel⟩)) := by
  decide +kernel

end SqlValue

end RecordMapper
