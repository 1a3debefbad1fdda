import Mathlib.Data.Rat.Floor
import Mathlib.Tactic.Linarith
import Mathlib.Tactic.Positivity
import RecordMapper.Json.Basic

/-!
The exact values of numbers, as ratios, and what is lost of them: the fraction that is cut off, and
the digits of a whole number that a binary format has no room for.
-/

namespace RecordMapper

/-- The whole number next to a ratio on its way to zero. -/
def towardZero (q : ℚ) : ℤ :=
  if q < 0 then ⌈q⌉ else ⌊q⌋

theorem towardZero_intCast (i : ℤ) : towardZero i = i := by
  simp [towardZero]

theorem towardZero_of_nonneg {q : ℚ} (h : 0 ≤ q) : towardZero q = ⌊q⌋ :=
  if_neg (not_lt.2 h)

theorem nonneg_of_towardZero_pos {q : ℚ} (h : 0 < towardZero q) : 0 ≤ q := by
  by_contra hneg
  rw [towardZero, if_pos (not_le.1 hneg), Int.ceil_pos] at h
  linarith

theorem towardZero_neg {q : ℚ} (h : 0 ≤ q) : towardZero (-q) = -⌊q⌋ := by
  rcases h.eq_or_lt with rfl | hpos
  · simp [towardZero]
  · rw [towardZero, if_pos (by linarith), Int.ceil_neg]

theorem BinaryFormat.two_pow_scale_pos (f : BinaryFormat) : (0 : ℚ) < (2 ^ f.scale : ℕ) :=
  Nat.cast_pos.2 (Nat.two_pow_pos _)

namespace Finite

variable {f : BinaryFormat}

def magnitude (x : Finite f) : ℚ :=
  (x.units : ℚ) / (2 ^ f.scale : ℕ)

def value (x : Finite f) : ℚ :=
  if x.negative then -x.magnitude else x.magnitude

theorem magnitude_nonneg (x : Finite f) : 0 ≤ x.magnitude := by
  unfold magnitude
  positivity

theorem value_of_nonneg {x : Finite f} (h : 0 ≤ x.value) : x.value = x.magnitude := by
  have hmagnitude := x.magnitude_nonneg
  unfold value at h ⊢
  split at h
  · rw [if_pos ‹_›]
    linarith
  · exact if_neg ‹_›

theorem floor_magnitude (x : Finite f) : ⌊x.magnitude⌋ = (x.units / 2 ^ f.scale : ℕ) := by
  unfold magnitude
  rw [Rat.floor_natCast_div_natCast]
  rfl

theorem truncate_eq_towardZero (x : Finite f) : x.truncate = towardZero x.value := by
  unfold truncate value
  by_cases h : x.negative = true
  · rw [if_pos h, if_pos h, towardZero_neg x.magnitude_nonneg, floor_magnitude]
  · rw [if_neg h, if_neg h, towardZero_of_nonneg x.magnitude_nonneg, floor_magnitude]

theorem abs_value (x : Finite f) : |x.value| = x.magnitude := by
  unfold value
  split
  · rw [abs_neg, abs_of_nonneg x.magnitude_nonneg]
  · exact abs_of_nonneg x.magnitude_nonneg

theorem magnitudeBelow_iff (x : Finite f) (bound : Nat) :
    x.magnitudeBelow bound = true ↔ x.magnitude < bound := by
  have hscale := f.two_pow_scale_pos
  rw [magnitudeBelow, decide_eq_true_iff, magnitude, div_lt_iff₀ hscale, ← Nat.cast_mul,
    Nat.cast_lt]

theorem isIntegral_iff (x : Finite f) : x.isIntegral = true ↔ x.value = x.truncate := by
  have hscale := f.two_pow_scale_pos.ne'
  have hmagnitude : x.isIntegral = true ↔ x.magnitude = (x.units / 2 ^ f.scale : ℕ) := by
    rw [isIntegral, beq_iff_eq, magnitude, div_eq_iff hscale, ← Nat.cast_mul, Nat.cast_inj,
      ← Nat.dvd_iff_mod_eq_zero, Nat.dvd_iff_div_mul_eq, eq_comm]
  rw [hmagnitude, value, truncate]
  cases x.negative <;> simp only [if_true, if_false, Int.cast_neg, Int.cast_natCast, neg_inj,
    Bool.false_eq_true]

end Finite

namespace Json.Number

def value : Number → ℚ
  | .integer i _ => i
  | .real x => x.value

@[simp] theorem value_integer (i : Int) (fits : FitsWord i) : (integer i fits).value = i := rfl

@[simp] theorem value_real (x : FiniteDouble) : (real x).value = x.value := rfl

end Json.Number

/-! Rounding. -/

theorem roundHalfEven_cases (num den : Nat) :
    roundHalfEven num den = num / den ∨ roundHalfEven num den = num / den + 1 := by
  unfold roundHalfEven
  dsimp only
  split
  · exact .inl rfl
  · split
    · exact .inr rfl
    · split
      · exact .inl rfl
      · exact .inr rfl

theorem roundHalfEven_mul_right (num den : Nat) {factor : Nat} (h : 0 < factor) :
    roundHalfEven (num * factor) (den * factor) = roundHalfEven num den := by
  have hless : ∀ a b : Nat, a * factor < b * factor ↔ a < b := fun a b =>
    Nat.mul_lt_mul_right h
  unfold roundHalfEven
  simp only [Nat.mul_div_mul_right _ _ h, Nat.mul_mod_mul_right, ← Nat.mul_assoc, hless]

namespace BinaryFormat

variable {f : BinaryFormat}

theorem units_significand {s q : Nat} (hlow : 2 ^ f.fractionBits ≤ q)
    (hhigh : q ≤ 2 * 2 ^ f.fractionBits) :
    f.units (s * 2 ^ f.fractionBits + q) = q * 2 ^ s := by
  have hpos : 0 < 2 ^ f.fractionBits := Nat.two_pow_pos _
  unfold units
  rw [if_neg (by omega)]
  generalize 2 ^ f.fractionBits = width at *
  rcases hhigh.lt_or_eq with hless | rfl
  · obtain ⟨r, rfl⟩ := Nat.exists_eq_add_of_le hlow
    have hrank : s * width + (width + r) = r + width * (s + 1) := by ring
    rw [hrank, Nat.add_mul_mod_self_left, Nat.add_mul_div_left _ _ hpos,
      Nat.mod_eq_of_lt (by omega), Nat.div_eq_of_lt (by omega)]
    simp
  · have hrank : s * width + 2 * width = width * (s + 2) := by ring
    rw [hrank, Nat.mul_mod_right, Nat.mul_div_cancel_left _ hpos, Nat.add_zero,
      show s + 2 - 1 = s + 1 by omega, Nat.pow_succ]
    ring

theorem units_rankOf {n j : Nat} (hlow : 2 ^ (f.fractionBits + j) ≤ n)
    (hhigh : n < 2 ^ (f.fractionBits + j + 1)) :
    f.rankOf n 1 = (f.scale + j) * 2 ^ f.fractionBits + roundHalfEven n (2 ^ j) ∧
      f.units (f.rankOf n 1) = roundHalfEven n (2 ^ j) * 2 ^ j * 2 ^ f.scale := by
  have hlog : (n * 2 ^ f.scale / 1).log2 = f.fractionBits + j + f.scale := by
    have hscale := Nat.two_pow_pos f.scale
    have hn := (Nat.two_pow_pos _).trans_le hlow
    rw [Nat.div_one, Nat.log2_eq_iff (Nat.mul_pos hn hscale).ne', Nat.add_right_comm _ f.scale 1,
      Nat.pow_add 2 (f.fractionBits + j), Nat.pow_add 2 (f.fractionBits + j + 1)]
    exact ⟨Nat.mul_le_mul_right _ hlow, Nat.mul_lt_mul_of_pos_right hhigh hscale⟩
  have hrank : f.rankOf n 1 = (f.scale + j) * 2 ^ f.fractionBits + roundHalfEven n (2 ^ j) := by
    unfold rankOf
    dsimp only
    rw [hlog, Nat.one_mul, show f.fractionBits + j + f.scale - f.fractionBits = f.scale + j by omega,
      Nat.add_comm f.scale j, Nat.pow_add, roundHalfEven_mul_right _ _ (Nat.two_pow_pos _)]
  refine ⟨hrank, ?_⟩
  -- the leading digits fill a significand, which rounding can carry to the next power of two
  have hdigits : 2 ^ f.fractionBits ≤ n / 2 ^ j ∧ n / 2 ^ j < 2 * 2 ^ f.fractionBits := by
    rw [Nat.le_div_iff_mul_le (Nat.two_pow_pos _), Nat.div_lt_iff_lt_mul (Nat.two_pow_pos _)]
    rw [Nat.pow_add] at hlow
    rw [Nat.pow_succ, Nat.pow_add] at hhigh
    exact ⟨hlow, by linarith⟩
  have hround := roundHalfEven_cases n (2 ^ j)
  rw [hrank, units_significand (by omega) (by omega), Nat.add_comm f.scale j, Nat.pow_add,
    Nat.mul_assoc]

theorem two_pow_dvd_units {s rank : Nat} (h : 2 ^ f.fractionBits * 2 ^ s ≤ f.units rank) :
    2 ^ s ∣ f.units rank := by
  have hpos := Nat.two_pow_pos s
  unfold units at h ⊢
  split
  · next hsmall =>
    rw [if_pos hsmall] at h
    have := Nat.le_mul_of_pos_right (2 ^ f.fractionBits) hpos
    omega
  · next hlarge =>
    rw [if_neg hlarge] at h
    generalize rank / 2 ^ f.fractionBits - 1 = e at h ⊢
    have hmod : rank % 2 ^ f.fractionBits < 2 ^ f.fractionBits :=
      Nat.mod_lt _ (Nat.two_pow_pos _)
    have hse : s ≤ e := by
      by_contra hes
      have hpow : 2 ^ (e + 1) ≤ 2 ^ s := Nat.pow_le_pow_right (by decide) (by omega)
      apply absurd h
      rw [not_le]
      calc (2 ^ f.fractionBits + rank % 2 ^ f.fractionBits) * 2 ^ e
          < 2 * 2 ^ f.fractionBits * 2 ^ e :=
            Nat.mul_lt_mul_of_pos_right (by omega) (Nat.two_pow_pos e)
        _ = 2 ^ f.fractionBits * 2 ^ (e + 1) := by ring
        _ ≤ 2 ^ f.fractionBits * 2 ^ s := Nat.mul_le_mul_left _ hpow
    exact Dvd.dvd.mul_left (Nat.pow_dvd_pow 2 hse) _

end BinaryFormat

theorem Finite.magnitude_eq_of_le {f : BinaryFormat} {x : Finite f} {j : Nat}
    (h : (2 ^ (f.fractionBits + j) : ℕ) ≤ x.magnitude) :
    ∃ k : ℕ, x.magnitude = (k * 2 ^ j : ℕ) := by
  have hscale := f.two_pow_scale_pos
  unfold magnitude units at h ⊢
  rw [le_div_iff₀ hscale, ← Nat.cast_mul, Nat.cast_le, Nat.pow_add, Nat.mul_assoc,
    ← Nat.pow_add] at h
  obtain ⟨k, hk⟩ := f.two_pow_dvd_units h
  refine ⟨k, ?_⟩
  rw [hk, div_eq_iff hscale.ne', ← Nat.cast_mul, Nat.pow_add]
  congr 1
  ring

end RecordMapper
