import RecordMapper.Proofs.Column.Scalar
import RecordMapper.Proofs.Number.Exact
import RecordMapper.Proofs.Number.Numeral
import RecordMapper.RowImage

/-!
Big integers. An integer of a record has one scalar, whichever way it goes to a statement, and all
its digits are in it. Other values are cast to big integers where they write one exactly: a double
without a fraction, and a text that is a numeral.
-/

namespace RecordMapper

namespace Cast

/-- The double from which on doubles are refused as big integers. -/
def bigIntLimit : FiniteDouble :=
  ⟨false, 5179132097285906349, by decide +kernel⟩

theorem read_bigIntLimit : Binary.read .double "1.7e38".toList = .ok (.finite bigIntLimit) := by
  decide +kernel

theorem value_bigIntLimit : bigIntLimit.value = bigIntBound := by
  have hunits : bigIntLimit.units = bigIntBound * 2 ^ BinaryFormat.double.scale := by
    decide +kernel
  rw [Finite.value, if_neg (by decide), Finite.magnitude, hunits, Nat.cast_mul]
  exact mul_div_cancel_right₀ _ (by positivity)

theorem numberToBigInt_real_iff (x : FiniteDouble) (i : Int) :
    numberToBigInt (.real x) = some i ↔ |x.value| < bigIntLimit.value ∧ x.value = i := by
  rw [x.abs_value, value_bigIntLimit, ← x.magnitudeBelow_iff]
  unfold numberToBigInt
  dsimp only
  constructor
  · intro h
    split at h
    · next hcast =>
      rw [Bool.and_eq_true, x.isIntegral_iff] at hcast
      rw [← Option.some.inj h]
      exact hcast.symm
    · cases h
  · rintro ⟨hbelow, hvalue⟩
    have htruncate : x.truncate = i := by
      rw [x.truncate_eq_towardZero, hvalue, towardZero_intCast]
    rw [if_pos, htruncate]
    rw [Bool.and_eq_true, x.isIntegral_iff, htruncate]
    exact ⟨hvalue, hbelow⟩

/-- The texts of big integers: blanks are zero, and a numeral between blanks is its integer. -/
inductive Writes : List Char → Int → Prop where
  | blank (blanks : List Char) (hblanks : ∀ c ∈ blanks, isBlank c = true) : Writes blanks 0
  | numeral (before word after : List Char) (i : Int)
    (hbefore : ∀ c ∈ before, isBlank c = true) (hafter : ∀ c ∈ after, isBlank c = true)
    (hword : Numeral word i) (hholds : bigIntRange.Holds i) : Writes (before ++ word ++ after) i

theorem textToBigInt_eq_some_iff {cs : List Char} {i : Int} :
    textToBigInt cs = some i ↔ Writes cs i := by
  have hread (word : List Char) (j : Int) :
      bigIntRange.read word = .ok j ↔ Numeral word j ∧ bigIntRange.Holds j :=
    IntegerRange.read_eq_ok_iff (by decide) (by decide)
  constructor
  · intro h
    obtain ⟨before, after, hbefore, hafter, hcs⟩ := exists_blanks_trim cs
    unfold textToBigInt at h
    dsimp only at h
    split at h
    · next hnil =>
      cases h
      rw [hnil, List.append_nil] at hcs
      rw [hcs]
      refine .blank _ fun c hc => ?_
      exact (List.mem_append.1 hc).elim (hbefore c) (hafter c)
    · split at h
      · next j hok =>
        cases h
        obtain ⟨hword, hholds⟩ := (hread _ _).1 hok
        rw [hcs]
        exact .numeral before (trim cs) after i hbefore hafter hword hholds
      · cases h
  · intro h
    cases h with
    | blank _ hblanks =>
      rw [textToBigInt, trim_of_blank hblanks]
      rfl
    | numeral before word after _ hbefore hafter hword hholds =>
      unfold textToBigInt
      dsimp only
      rw [trim_between_blanks hbefore hword.not_blank hword.ne_nil hafter, if_neg hword.ne_nil,
        (hread word i).2 ⟨hword, hholds⟩]

end Cast

/-! Integers of a record. -/

/-- The scalars that all digits of an integer are in: an integer of 64 bits, and a text of the
digits of any other. -/
inductive SqlValue.Keeps : Int → SqlValue → Prop where
  | int (i : Int64) : Keeps i.toInt (.int i)
  | text (i : Int) (hlarge : ¬ FitsInt64 i) : Keeps i (.text (String.ofList (intDigits i)))

theorem ColumnType.keeps_bigIntScalar (i : Int) : SqlValue.Keeps i (bigIntScalar i) := by
  unfold bigIntScalar
  split
  · next hfits =>
    have hi : (Int64.ofInt i).toInt = i := Int64.toInt_ofInt_of_le hfits.1 hfits.2
    have hkeeps := SqlValue.Keeps.int (Int64.ofInt i)
    rwa [hi] at hkeeps
  · next hlarge => exact .text i hlarge

/-- A scalar is what an integer of a record becomes on every way to a statement: by itself, as the
value of a key, taken as it is, and cast by a column of big integers, which reads it back. -/
structure SqlValue.OnEveryWay (n : Int) (fits : FitsWord n) (scalar : SqlValue) : Prop where
  keeps : Keeps n scalar
  ofJson?_eq : ofJson? (.number (.integer n fits)) = some scalar
  keyValue_eq : ∀ (image : RowImage) (column : Column),
    image.snapshot.get? column.member = some (.number (.integer n fits)) →
      image.keyValue column = scalar
  passThrough_eq : passThroughCaster (.number (.integer n fits)) = some scalar
  cast_eq : ColumnType.bigInt.cast (some (.number (.integer n fits))) = some scalar
  parse_eq : ColumnType.bigInt.parse scalar.toJson = some (.string (String.ofList (intDigits n)))

theorem Cast.holds_of_fitsWord {n : Int} (fits : FitsWord n) : Cast.bigIntRange.Holds n := by
  have hrange : Cast.bigIntRange =
      ⟨-170141183460469231731687303715884105728, 170141183460469231731687303715884105727⟩ := by
    decide
  rw [hrange]
  exact ⟨by simp only; omega, by simp only; omega⟩

theorem SqlValue.Keeps.parse_toJson {n : Int} {scalar : SqlValue} (h : Keeps n scalar)
    (hholds : Cast.bigIntRange.Holds n) :
    ColumnType.bigInt.parse scalar.toJson = some (.string (String.ofList (intDigits n))) := by
  cases h with
  | int i => rfl
  | text i hlarge =>
    have hread := Cast.textToBigInt_intDigits hholds
    simp only [ColumnType.parse, toJson, Cast.toBigInt, String.toList_ofList, hread,
      Option.map_some]

theorem SqlValue.onEveryWay_bigIntScalar {n : Int} (fits : FitsWord n) :
    OnEveryWay n fits (ColumnType.bigIntScalar n) where
  keeps := ColumnType.keeps_bigIntScalar n
  ofJson?_eq := ofJson?_integer n fits
  keyValue_eq image column hmember := by
    rw [RowImage.keyValue, hmember]
    exact ofJson_integer n fits
  passThrough_eq := congrArg some (ofJson_integer n fits)
  cast_eq := rfl
  parse_eq := (ColumnType.keeps_bigIntScalar n).parse_toJson (Cast.holds_of_fitsWord fits)

namespace Cast

/-- No digit of a big integer is lost: an integer of a record has one scalar on every way, and a
double or a text is cast to the integer that it writes exactly, or not at all. -/
theorem keeps_every_digit :
    (∀ n fits, ∃ scalar, SqlValue.OnEveryWay n fits scalar) ∧
      (∃ limit : FiniteDouble, Binary.read .double "1.7e38".toList = .ok (.finite limit) ∧
        ∀ (x : FiniteDouble) (i : Int),
          toBigInt (some (.number (.real x))) = some i ↔ |x.value| < limit.value ∧ x.value = i) ∧
      ∀ (s : String) (i : Int), toBigInt (some (.string s)) = some i ↔ Writes s.toList i := by
  refine ⟨fun n fits => ?_, ?_, fun s i => ?_⟩
  · exact ⟨ColumnType.bigIntScalar n, SqlValue.onEveryWay_bigIntScalar fits⟩
  · exact ⟨bigIntLimit, read_bigIntLimit, numberToBigInt_real_iff⟩
  · exact textToBigInt_eq_some_iff

theorem keeps_every_digit_edge :
    ColumnType.bigInt.cast (some (.number (.integer 9223372036854775808 (by decide)))) =
        some (.text "9223372036854775808") ∧
      toBigInt (some (.string " -17\n")) = some (-17) ∧
      ∀ i, toBigInt (some (.string "1 7")) ≠ some i := by
  obtain ⟨hintegers, -, htexts⟩ := keeps_every_digit
  refine ⟨?_, ?_, fun i h => ?_⟩
  · obtain ⟨scalar, hscalar⟩ := hintegers 9223372036854775808 (by decide)
    rw [hscalar.cast_eq]
    have hkeeps := hscalar.keeps
    generalize hn : (9223372036854775808 : Int) = n at hkeeps
    cases hkeeps with
    | int i =>
      have hless := i.toInt_lt
      omega
    | text _ _ =>
      subst hn
      rfl
  · have hblank : ∀ c ∈ [' '], isBlank c = true := List.all_eq_true.1 rfl
    have hnewline : ∀ c ∈ ['\n'], isBlank c = true := List.all_eq_true.1 rfl
    have hdigits : ∀ c ∈ ['1', '7'], c.isDigit = true := List.all_eq_true.1 rfl
    exact (htexts _ _).2 (.numeral [' '] ['-', '1', '7'] ['\n'] (-17) hblank hnewline
      (.minus ['1', '7'] (List.cons_ne_nil _ _) hdigits) (by decide))
  · rw [show toBigInt (some (.string "1 7")) = none by decide] at h
    cases h

end Cast

end RecordMapper
