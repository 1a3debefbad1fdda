import RecordMapper.Proofs.Column.Scalar
import RecordMapper.Proofs.Json.Nesting

/-!
What is stored stays as it is. A record may hold any value for a column; once the value is stored it
is read as a value of the column's form, and that one is stored as the same scalar again.
-/

namespace RecordMapper

/-- A value that its JSON text keeps: the containers nest no deeper than they are read, the members
are in order, and the doubles are read back. -/
structure Json.ReadsBack (value : Json) : Prop where
  nesting : value.nesting < 128
  ordered : value.Ordered
  doubles : value.DoublesReadBack

theorem Json.ReadsBack.ofString?_print {value : Json} (h : value.ReadsBack) :
    Json.ofString? value.print = some value := by
  refine Json.ofString?_print ?_ h.ordered h.doubles
  have := h.nesting
  unfold maxNesting
  omega

def SqlValue.IsFinite : SqlValue → Prop
  | .float x => x.finite?.isSome
  | _ => True

theorem Finite.natAbs_truncate_lt {f : BinaryFormat} {x : Finite f} {bound : Nat}
    (h : x.magnitudeBelow bound = true) : x.truncate.natAbs < bound := by
  have hwhole : x.units / 2 ^ f.scale < bound :=
    (Nat.div_lt_iff_lt_mul (Nat.two_pow_pos f.scale)).2 (of_decide_eq_true h)
  have habs : x.truncate.natAbs = x.units / 2 ^ f.scale := by
    unfold truncate
    dsimp only
    split
    · rw [Int.natAbs_neg, Int.natAbs_natCast]
    · exact Int.natAbs_natCast _
  rwa [habs]

namespace Cast

theorem holds_of_natAbs_lt {i : Int} (h : i.natAbs < bigIntBound) : bigIntRange.Holds i := by
  unfold bigIntBound at h
  simp only [IntegerRange.Holds, bigIntRange, IntegerRange.signed]
  omega

theorem holds_of_toBigInt {value : Option Json} {i : Int} (h : toBigInt value = some i) :
    bigIntRange.Holds i := by
  unfold toBigInt at h
  split at h
  · next b =>
    cases b <;> cases h <;> decide
  · next n =>
    cases n with
    | integer j fits =>
      cases h
      simp only [IntegerRange.Holds, bigIntRange, IntegerRange.signed]
      omega
    | real x =>
      unfold numberToBigInt at h
      dsimp only at h
      split at h
      · next hbounded =>
        cases h
        rw [Bool.and_eq_true] at hbounded
        exact holds_of_natAbs_lt (Finite.natAbs_truncate_lt hbounded.2)
      · cases h
  · exact holds_of_textToBigInt h
  · cases h

end Cast

namespace ColumnType

variable {type : ColumnType} {value : Option Json} {scalar : SqlValue}

/-- Reading what is stored gives a value that is stored as the same. -/
def Settles (type : ColumnType) (scalar : SqlValue) : Prop :=
  ∃ held, type.parse scalar.toJson = some held ∧ type.cast (some held) = some scalar

theorem HasForm.settles {held : Json} (hform : type.HasForm held)
    (hcast : type.cast (some held) = some scalar) : type.Settles scalar := by
  obtain ⟨stored, hstored, -, hparse⟩ := parse_cast hform
  obtain rfl : stored = scalar := Option.some.inj (hstored.symm.trans hcast)
  exact ⟨held, hparse, hcast⟩

theorem form_of_cast (hjson : type ≠ .json) (h : type.cast value = some scalar)
    (hfinite : scalar.IsFinite) :
    ∃ held, type.HasForm held ∧ type.cast (some held) = some scalar := by
  cases type with
  | boolean =>
    cases h
    exact ⟨.bool _, .boolean _, rfl⟩
  | int =>
    obtain ⟨i, -, rfl⟩ := Option.map_eq_some_iff.1 h
    have hfits : FitsInt64 i.toInt := ⟨i.le_toInt, i.toInt_lt⟩
    refine ⟨.ofInt64 i, .int _ _ hfits, ?_⟩
    simp only [cast, Cast.toInt, Json.ofInt64, Cast.numberToInt, Json.Number.ofInt64,
      Json.Number.int64?_integer hfits, Int64.ofInt_toInt, Option.map_some]
  | float =>
    obtain ⟨double, -, rfl⟩ := Option.map_eq_some_iff.1 h
    cases double with
    | finite x => exact ⟨.number (.real x), .float x, rfl⟩
    | infinite negative => cases hfinite
    | nan negative => cases hfinite
  | bigInt =>
    obtain ⟨i, hread, rfl⟩ := Option.map_eq_some_iff.1 h
    have hholds := Cast.holds_of_toBigInt hread
    refine ⟨.string (String.ofList (intDigits i)), .bigInt i hholds, ?_⟩
    simp only [cast, Cast.toBigInt, String.toList_ofList, Cast.textToBigInt_intDigits hholds,
      Option.map_some]
  | text =>
    cases h
    exact ⟨.string _, .text _, rfl⟩
  | json => exact absurd rfl hjson

/-- What a column stores for a value, finite and not nested deeper than it is read, it stores again
after reading it. JSON text that nests deeper is stored but not read. -/
theorem settles_of_cast (type : ColumnType) (value : Option Json) :
    (∀ scalar, type.cast value = some scalar → scalar.IsFinite →
      (∀ v, type = .json → value = some v → v.ReadsBack) → type.Settles scalar) ∧
    (∀ v, type = .json → value = some v → 128 ≤ v.nesting →
      ∃ scalar, type.cast value = some scalar ∧ type.parse scalar.toJson = none) := by
  constructor
  · intro scalar hcast hfinite hreads
    by_cases hjson : type = .json
    · subst hjson
      obtain ⟨v, rfl, rfl⟩ := Option.map_eq_some_iff.1 hcast
      exact ⟨v, (hreads v rfl rfl).ofString?_print, rfl⟩
    · obtain ⟨held, hform, hheld⟩ := form_of_cast hjson hcast hfinite
      exact hform.settles hheld
  · rintro v rfl rfl hdeep
    refine ⟨.text v.print, rfl, Json.ofString?_print_of_deep ?_⟩
    unfold Json.maxNesting
    omega

def ratioAndNull : Json :=
  .array [.number (.real ⟨false, 0x3ff8000000000000, by decide⟩), .null]

theorem readsBack_ratioAndNull : ratioAndNull.ReadsBack := by
  refine ⟨by decide, ?_, ?_⟩
  · simp [ratioAndNull, Json.Ordered, Json.ElementsOrdered]
  · simp only [ratioAndNull, Json.DoublesReadBack, Json.ElementsReadBack, and_true]
    decide +kernel

def nestedArrays : Nat → Json
  | 0 => .null
  | depth + 1 => .array [nestedArrays depth]

theorem nesting_nestedArrays (depth : Nat) : (nestedArrays depth).nesting = depth := by
  induction depth with
  | zero => rfl
  | succ depth ih => simp [nestedArrays, Json.nesting, Json.elementsNesting, ih]

theorem settles_of_cast_arrays :
    ColumnType.json.cast (some ratioAndNull) = some (.text "[1.5,null]") ∧
      ColumnType.json.Settles (.text "[1.5,null]") ∧
      ∃ scalar, ColumnType.json.cast (some (nestedArrays 128)) = some scalar ∧
        ColumnType.json.parse scalar.toJson = none := by
  have hcast : ColumnType.json.cast (some ratioAndNull) = some (.text "[1.5,null]") := by
    decide +kernel
  have hdeep : 128 ≤ (nestedArrays 128).nesting := Nat.le_of_eq (nesting_nestedArrays 128).symm
  refine ⟨hcast, (settles_of_cast .json (some ratioAndNull)).1 _ hcast trivial ?_, ?_⟩
  · rintro v - hv
    cases hv
    exact readsBack_ratioAndNull
  · exact (settles_of_cast .json (some (nestedArrays 128))).2 _ rfl rfl hdeep

end ColumnType

end RecordMapper
