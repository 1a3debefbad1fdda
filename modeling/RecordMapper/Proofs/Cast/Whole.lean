import RecordMapper.ColumnType
import RecordMapper.Proofs.Number.Exact

/-!
Numbers cast to integers of 64 bits. The fraction is cut off and nothing else is lost, but for the
numbers at the upper edge: what is not below `2 ^ 63` is compared as a double, and the numbers whose
nearest double is `2 ^ 63` itself are taken for the greatest integer.
-/

namespace RecordMapper.Cast

def wholeInt64? (q : ℚ) : Option Int64 :=
  if FitsInt64 (towardZero q) then some (Int64.ofInt (towardZero q)) else none

/-- The numbers from `2 ^ 63` up to the middle between it and the next double. -/
def AtUpperEdge (n : Json.Number) : Prop :=
  9223372036854775808 ≤ n.value ∧ n.value ≤ 9223372036854776832

/-- A number is cast to the integer that it is without its fraction, or not at all. Where it has no
fraction, this is the big integer that it is cast to; and a column of integers stores it. -/
structure KeepsWhole (n : Json.Number) : Prop where
  toInt_eq : toInt (some (.number n)) = wholeInt64? n.value
  agrees : ∀ i j, toInt (some (.number n)) = some i → toBigInt (some (.number n)) = some j →
    i.toInt = j
  stores : ∀ i, ColumnType.int.cast (some (.number n)) = some (.int i) →
    i.toInt = towardZero n.value

theorem eq_of_wholeInt64? {q : ℚ} {i : Int64} (h : wholeInt64? q = some i) :
    i.toInt = towardZero q := by
  unfold wholeInt64? at h
  split at h
  · next hfits =>
    cases h
    exact Int64.toInt_ofInt_of_le hfits.1 hfits.2
  · cases h

theorem wholeInt64?_of_edge {n : Json.Number} (h : AtUpperEdge n) : wholeInt64? n.value = none := by
  obtain ⟨hlow, -⟩ := h
  have hwhole : 9223372036854775808 ≤ towardZero n.value := by
    rw [towardZero_of_nonneg (by linarith), Int.le_floor]
    exact_mod_cast hlow
  exact if_neg (by omega)

theorem value_of_numberToBigInt {n : Json.Number} {i : Int} (h : numberToBigInt n = some i) :
    towardZero n.value = i := by
  cases n with
  | integer j fits =>
    obtain rfl : j = i := Option.some.inj h
    exact towardZero_intCast j
  | real x =>
    rw [Json.Number.value_real, ← x.truncate_eq_towardZero]
    unfold numberToBigInt at h
    dsimp only at h
    split at h
    · exact Option.some.inj h
    · cases h

/-! Doubles at the edge. -/

theorem truncateToInt64?_eq (x : FiniteDouble) :
    truncateToInt64? x =
      if x.truncate = 9223372036854775808 then some 9223372036854775807
      else if FitsInt64 x.truncate then some (Int64.ofInt x.truncate) else none := by
  unfold truncateToInt64?
  dsimp only
  by_cases h : x.truncate = 9223372036854775808
  · rw [if_pos h, if_pos h, if_neg (by omega)]
  · rw [if_neg h, if_neg h]

theorem truncate_of_edge {x : FiniteDouble} (h : AtUpperEdge (.real x)) :
    x.truncate = 9223372036854775808 := by
  obtain ⟨hlow, hhigh⟩ := h
  rw [Json.Number.value_real] at hlow hhigh
  have hvalue : x.value = x.magnitude := Finite.value_of_nonneg (by linarith)
  rw [hvalue] at hlow hhigh
  have hbits : BinaryFormat.double.fractionBits = 52 := rfl
  -- from `2 ^ 63` on doubles are multiples of `2 ^ 11`, so that none but the first is at the edge
  obtain ⟨k, hk⟩ := Finite.magnitude_eq_of_le (x := x) (j := 11) (by
    rw [hbits]
    exact_mod_cast hlow)
  rw [x.truncate_eq_towardZero, hvalue]
  rw [hk] at hlow hhigh ⊢
  norm_cast at hlow hhigh
  have hwhole : ((k * 2 ^ 11 : ℕ) : ℚ) = ((9223372036854775808 : ℤ) : ℚ) := by
    have : k * 2 ^ 11 = 9223372036854775808 := by omega
    rw [this]
    norm_num
  rw [hwhole, towardZero_intCast]

theorem edge_of_truncate {x : FiniteDouble} (h : x.truncate = 9223372036854775808) :
    AtUpperEdge (.real x) := by
  rw [x.truncate_eq_towardZero] at h
  have hpos : 0 ≤ x.value := nonneg_of_towardZero_pos (by omega)
  rw [towardZero_of_nonneg hpos, Int.floor_eq_iff] at h
  unfold AtUpperEdge
  rw [Json.Number.value_real]
  norm_num at h
  constructor <;> linarith

theorem numberToInt_real (x : FiniteDouble) :
    numberToInt (.real x) =
      if x.truncate = 9223372036854775808 then some 9223372036854775807
      else wholeInt64? x.value := by
  change truncateToInt64? x = _
  rw [truncateToInt64?_eq, wholeInt64?, x.truncate_eq_towardZero]

/-! Integers at the edge. -/

theorem roundHalfEven_edge {n : Nat} (hlow : 9223372036854775808 ≤ n) :
    (n ≤ 9223372036854776832 → roundHalfEven n 2048 = 4503599627370496) ∧
      (9223372036854776832 < n → 4503599627370496 < roundHalfEven n 2048) := by
  unfold roundHalfEven
  dsimp only
  constructor
  · intro h
    split
    · omega
    · rw [if_neg (by omega), if_pos (by omega)]
      omega
  · intro h
    split
    · omega
    · split
      · omega
      · split <;> omega

theorem ofInt_unsigned {i : Int} (hlow : 9223372036854775808 ≤ i)
    (hhigh : i < 18446744073709551616) :
    ∃ x : FiniteDouble, Binary.ofInt .double i = .finite x ∧
      x.truncate = (roundHalfEven i.natAbs 2048 * 2048 : Nat) := by
  have hbits : BinaryFormat.double.fractionBits = 52 := rfl
  obtain ⟨hrank, hunits⟩ := BinaryFormat.units_rankOf (f := .double) (n := i.natAbs) (j := 11)
    (by rw [hbits]; omega) (by rw [hbits]; omega)
  have hfinite : BinaryFormat.double.rankOf i.natAbs 1 < BinaryFormat.double.infinity := by
    have hscale : BinaryFormat.double.scale = 1074 := by decide
    have hinfinity : BinaryFormat.double.infinity = 2047 * 2 ^ 52 := by decide
    have hround := roundHalfEven_cases i.natAbs 2048
    rw [hrank, hbits, hscale, hinfinity, show 2 ^ 11 = 2048 by decide]
    omega
  refine ⟨⟨false, _, hfinite⟩, ?_, ?_⟩
  · have hsign : decide (i < 0) = false := by simp; omega
    rw [Binary.ofInt, hsign, Binary.ofRatio, Binary.ofRank, dif_pos hfinite]
  · unfold Finite.truncate Finite.units
    dsimp only
    rw [hunits, Nat.mul_div_cancel _ (Nat.two_pow_pos _)]
    rfl

theorem numberToInt_integer {i : Int} (fits : FitsWord i) :
    numberToInt (.integer i fits) =
      if 9223372036854775808 ≤ i ∧ i ≤ 9223372036854776832 then some 9223372036854775807
      else wholeInt64? i := by
  rw [wholeInt64?, towardZero_intCast]
  by_cases hfits : FitsInt64 i
  · rw [numberToInt, Json.Number.int64?_integer hfits, if_neg (by omega), if_pos hfits]
  · rw [if_neg hfits]
    have hlow : 9223372036854775808 ≤ i := by omega
    obtain ⟨x, hx, htruncate⟩ := ofInt_unsigned hlow fits.2
    have hnone : (Json.Number.integer i fits).int64? = none := if_neg hfits
    have hcompared : numberToInt (.integer i fits) = truncateToInt64? x := by
      rw [numberToInt, hnone, Json.Number.toDouble, hx]
      rfl
    obtain ⟨hnear, hfar⟩ := roundHalfEven_edge (n := i.natAbs) (by omega)
    rw [hcompared, truncateToInt64?_eq, htruncate]
    by_cases hhigh : i ≤ 9223372036854776832
    · rw [hnear (by omega), if_pos (by omega), if_pos ⟨hlow, hhigh⟩]
    · have habove := hfar (by omega)
      rw [if_neg (by omega), if_neg (by omega), if_neg (by omega)]

/-! Numbers of both kinds. -/

theorem numberToInt_of_edge {n : Json.Number} (h : AtUpperEdge n) :
    numberToInt n = some 9223372036854775807 := by
  cases n with
  | integer i fits =>
    rw [numberToInt_integer, if_pos]
    unfold AtUpperEdge at h
    rw [Json.Number.value_integer] at h
    exact_mod_cast h
  | real x => rw [numberToInt_real, if_pos (truncate_of_edge h)]

theorem numberToInt_of_not_edge {n : Json.Number} (h : ¬ AtUpperEdge n) :
    numberToInt n = wholeInt64? n.value := by
  cases n with
  | integer i fits =>
    rw [numberToInt_integer, if_neg, Json.Number.value_integer]
    intro hedge
    apply h
    unfold AtUpperEdge
    rw [Json.Number.value_integer]
    exact_mod_cast hedge
  | real x => rw [numberToInt_real, if_neg (mt edge_of_truncate h), Json.Number.value_real]

theorem keepsWhole_of_not_edge {n : Json.Number} (h : ¬ AtUpperEdge n) : KeepsWhole n where
  toInt_eq := numberToInt_of_not_edge h
  agrees i j hi hj := by
    have hwhole : wholeInt64? n.value = some i := (numberToInt_of_not_edge h).symm.trans hi
    rw [eq_of_wholeInt64? hwhole]
    exact value_of_numberToBigInt hj
  stores i hi := by
    obtain ⟨j, hj, hij⟩ := Option.map_eq_some_iff.1 hi
    cases hij
    exact eq_of_wholeInt64? ((numberToInt_of_not_edge h).symm.trans hj)

/-- A number is kept, but for its fraction, just when it does not lie at the upper edge; there it
becomes the greatest integer of 64 bits. -/
theorem keepsWhole_iff (n : Json.Number) :
    (KeepsWhole n ↔ ¬ AtUpperEdge n) ∧
      (AtUpperEdge n → toInt (some (.number n)) = some 9223372036854775807) := by
  refine ⟨⟨?_, keepsWhole_of_not_edge⟩, numberToInt_of_edge⟩
  intro hkeeps hedge
  have hcast : numberToInt n = wholeInt64? n.value := hkeeps.toInt_eq
  rw [numberToInt_of_edge hedge, wholeInt64?_of_edge hedge] at hcast
  cases hcast

/-- `2 ^ 63` is too great for 64 bits with a sign and is yet cast, to the integer below it. -/
theorem upper_edge_altered :
    toInt (some (.number (.integer 9223372036854775808 (by decide)))) = some 9223372036854775807 ∧
      toBigInt (some (.number (.integer 9223372036854775808 (by decide)))) =
        some 9223372036854775808 ∧
      ¬ KeepsWhole (.integer 9223372036854775808 (by decide)) := by
  have hint : toInt (some (.number (.integer 9223372036854775808 (by decide)))) =
      some 9223372036854775807 := by decide +kernel
  refine ⟨hint, rfl, fun hkeeps => ?_⟩
  exact absurd (hkeeps.agrees _ _ hint rfl) (by decide)

end RecordMapper.Cast
