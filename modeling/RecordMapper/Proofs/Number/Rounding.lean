import Mathlib.Algebra.Order.Field.Power
import Mathlib.Order.Monotone.Basic
import Mathlib.Tactic.FieldSimp
import RecordMapper.Proofs.Number.Exact

/-!
Rounding to a binary format. The magnitudes of a format grow with their ranks, and the rank of a
ratio is the nearest one, of two the even one. Ranks from infinity on are counted as if exponents had
no bound, so that the numbers nearest to one of them are infinite.
-/

namespace RecordMapper

theorem roundHalfEven_spec (num den : Nat) :
    (2 * (num % den) < den ∧ roundHalfEven num den = num / den) ∨
      (den < 2 * (num % den) ∧ roundHalfEven num den = num / den + 1) ∨
        (2 * (num % den) = den ∧ roundHalfEven num den % 2 = 0) := by
  unfold roundHalfEven
  dsimp only
  by_cases hless : 2 * (num % den) < den
  · exact .inl ⟨hless, if_pos hless⟩
  · by_cases hmore : den < 2 * (num % den)
    · exact .inr (.inl ⟨hmore, by rw [if_neg hless, if_pos hmore]⟩)
    · refine .inr (.inr ⟨by omega, ?_⟩)
      rw [if_neg hless, if_neg hmore]
      split <;> omega

namespace BinaryFormat

variable {f : BinaryFormat}

theorem units_binade {s q : Nat} (hlow : s = 0 ∨ 2 ^ f.fractionBits ≤ q)
    (hhigh : q ≤ 2 * 2 ^ f.fractionBits) : f.units (s * 2 ^ f.fractionBits + q) = q * 2 ^ s := by
  by_cases hsmall : q < 2 ^ f.fractionBits
  · obtain rfl : s = 0 := hlow.resolve_right (Nat.not_le_of_lt hsmall)
    rw [Nat.zero_mul, Nat.zero_add, units, if_pos hsmall, Nat.pow_zero, Nat.mul_one]
  · exact units_significand (Nat.le_of_not_lt hsmall) hhigh

theorem exists_binade (f : BinaryFormat) (rank : Nat) :
    ∃ s q, rank = s * 2 ^ f.fractionBits + q ∧ (s = 0 ∨ 2 ^ f.fractionBits ≤ q) ∧
      q < 2 * 2 ^ f.fractionBits := by
  have hpos : 0 < 2 ^ f.fractionBits := Nat.two_pow_pos _
  generalize 2 ^ f.fractionBits = width at hpos
  by_cases hsmall : rank < width
  · exact ⟨0, rank, by omega, .inl rfl, by omega⟩
  · have hmod := Nat.mod_lt rank hpos
    obtain ⟨s, hs⟩ := Nat.exists_eq_add_one.2 (Nat.div_pos (Nat.le_of_not_lt hsmall) hpos)
    refine ⟨s, width + rank % width, ?_, .inr (Nat.le_add_right _ _), by omega⟩
    calc rank = width * (rank / width) + rank % width := (Nat.div_add_mod _ _).symm
      _ = s * width + (width + rank % width) := by rw [hs]; ring

theorem units_strictMono (f : BinaryFormat) : StrictMono f.units := by
  apply strictMono_nat_of_lt_succ
  intro rank
  obtain ⟨s, q, rfl, hlow, hhigh⟩ := f.exists_binade rank
  rw [Nat.add_assoc, units_binade hlow hhigh.le,
    units_binade (hlow.imp_right fun h => Nat.le_succ_of_le h) hhigh]
  exact Nat.mul_lt_mul_of_pos_right (Nat.lt_succ_self q) (Nat.two_pow_pos s)

def magnitude (f : BinaryFormat) (rank : Nat) : ℚ :=
  (f.units rank : ℚ) / (2 ^ f.scale : ℕ)

theorem magnitude_strictMono (f : BinaryFormat) : StrictMono f.magnitude := by
  intro rank other h
  have hscale := f.two_pow_scale_pos
  unfold magnitude
  rw [div_lt_div_iff_of_pos_right hscale, Nat.cast_lt]
  exact f.units_strictMono h

@[simp] theorem magnitude_zero (f : BinaryFormat) : f.magnitude 0 = 0 := by
  unfold magnitude units
  rw [if_pos (Nat.two_pow_pos _), Nat.cast_zero, zero_div]

/-- The rank whose magnitude is nearest to a ratio; of two, the even one. -/
structure Nearest (f : BinaryFormat) (q : ℚ) (rank : Nat) : Prop where
  nearest : ∀ other, |f.magnitude rank - q| ≤ |f.magnitude other - q|
  even : ∀ other, other ≠ rank → |f.magnitude other - q| = |f.magnitude rank - q| → rank % 2 = 0

section Nearest

variable {q : ℚ} {rank other : Nat}

theorem abs_below (hlow : f.magnitude rank ≤ q) : |f.magnitude rank - q| = q - f.magnitude rank := by
  rw [abs_sub_comm, abs_of_nonneg (sub_nonneg.2 hlow)]

theorem abs_above (hhigh : q ≤ f.magnitude rank) : |f.magnitude rank - q| = f.magnitude rank - q :=
  abs_of_nonneg (sub_nonneg.2 hhigh)

theorem distance_cases (hlow : f.magnitude rank ≤ q) (hhigh : q < f.magnitude (rank + 1))
    (other : Nat) :
    other = rank ∨ other = rank + 1 ∨
      q - f.magnitude rank < |f.magnitude other - q| ∨
        f.magnitude (rank + 1) - q < |f.magnitude other - q| := by
  rcases lt_trichotomy other rank with hless | rfl | hmore
  · have hmagnitude := f.magnitude_strictMono hless
    rw [abs_below (hmagnitude.le.trans hlow)]
    exact .inr (.inr (.inl (by linarith)))
  · exact .inl rfl
  · rcases (Nat.succ_le_of_lt hmore).eq_or_lt with rfl | hmore
    · exact .inr (.inl rfl)
    · have hmagnitude := f.magnitude_strictMono hmore
      rw [abs_above (hhigh.le.trans hmagnitude.le)]
      exact .inr (.inr (.inr (by linarith)))

theorem nearest_of_neighbours (hlow : f.magnitude rank ≤ q) (hhigh : q < f.magnitude (rank + 1))
    {chosen : Nat} (hchosen : chosen = rank ∨ chosen = rank + 1)
    (hlower : |f.magnitude chosen - q| ≤ q - f.magnitude rank)
    (hupper : |f.magnitude chosen - q| ≤ f.magnitude (rank + 1) - q)
    (htie : q - f.magnitude rank = f.magnitude (rank + 1) - q → chosen % 2 = 0) :
    f.Nearest q chosen where
  nearest other := by
    rcases distance_cases hlow hhigh other with rfl | rfl | hfar | hfar
    · rwa [abs_below hlow]
    · rwa [abs_above hhigh.le]
    · linarith
    · linarith
  even other hne hequal := by
    have hbelow := abs_below hlow
    have habove := abs_above hhigh.le
    rcases distance_cases hlow hhigh other with rfl | rfl | hfar | hfar
    · obtain rfl := hchosen.resolve_left hne.symm
      exact htie (by linarith)
    · obtain rfl := hchosen.resolve_right hne.symm
      exact htie (by linarith)
    · linarith
    · linarith

theorem Nearest.unique (h : f.Nearest q rank) (h' : f.Nearest q other) : rank = other := by
  by_contra hne
  wlog hless : rank < other generalizing rank other
  · exact this h' h (Ne.symm hne) (by omega)
  have hequal := le_antisymm (h'.nearest rank) (h.nearest other)
  have hrank := h.even other (Ne.symm hne) hequal
  have hother := h'.even rank hne hequal.symm
  -- two even ranks have another one between them, which is nearer than both
  have hbelow := f.magnitude_strictMono (Nat.lt_succ_self rank)
  have habove := f.magnitude_strictMono (show rank + 1 < other by omega)
  have hbetween := h.nearest (rank + 1)
  rcases le_total q (f.magnitude rank) with hq | hq
  · rw [abs_above hq, abs_above (by linarith)] at hequal
    linarith
  · rcases le_total q (f.magnitude (rank + 1)) with hq' | hq'
    · rw [abs_below hq, abs_above (by linarith)] at hequal
      rw [abs_below hq, abs_above hq'] at hbetween
      linarith
    · rw [abs_below hq, abs_below hq'] at hbetween
      linarith

end Nearest

theorem leading_digits (u width : Nat) :
    (u.log2 - width = 0 ∨ 2 ^ width ≤ u / 2 ^ (u.log2 - width)) ∧
      u / 2 ^ (u.log2 - width) < 2 * 2 ^ width := by
  have hupper : u < 2 ^ (u.log2 + 1) := Nat.lt_log2_self
  constructor
  · rw [or_iff_not_imp_left]
    intro hshift
    have hne : u ≠ 0 := by
      rintro rfl
      exact hshift (Nat.zero_sub width)
    rw [Nat.le_div_iff_mul_le (Nat.two_pow_pos _), ← Nat.pow_add,
      Nat.add_sub_of_le (by omega : width ≤ u.log2)]
    exact Nat.log2_self_le hne
  · rw [Nat.div_lt_iff_lt_mul (Nat.two_pow_pos _), ← Nat.pow_succ', ← Nat.pow_add]
    exact hupper.trans_le (Nat.pow_le_pow_right (by decide) (by omega))

theorem magnitude_binade {s q : Nat} (hlow : s = 0 ∨ 2 ^ f.fractionBits ≤ q)
    (hhigh : q ≤ 2 * 2 ^ f.fractionBits) :
    f.magnitude (s * 2 ^ f.fractionBits + q) = q * ((2 ^ s : ℕ) / (2 ^ f.scale : ℕ)) := by
  rw [magnitude, units_binade hlow hhigh, Nat.cast_mul, mul_div_assoc]

theorem ratio_eq_steps (num : Nat) {den scale step : Nat} (hden : 0 < den) (hscale : 0 < scale)
    (hstep : 0 < step) :
    (num : ℚ) / den = ((num * scale / (den * step) : ℕ) +
      ((num * scale % (den * step) : ℕ) : ℚ) / (den * step : ℕ)) * ((step : ℚ) / scale) := by
  have hsum := congrArg (Nat.cast (R := ℚ)) (Nat.div_add_mod (num * scale) (den * step))
  generalize num * scale / (den * step) = whole at hsum ⊢
  generalize num * scale % (den * step) = rest at hsum ⊢
  push_cast at hsum ⊢
  field_simp
  linarith

theorem nearest_of_remainder {base top bottom : Nat} {unit q : ℚ} (hbase : base % 2 = 0)
    (hbottom : 0 < bottom) (hunit : 0 < unit)
    (hleft : q - f.magnitude (base + top / bottom) = (top % bottom : ℕ) * unit)
    (hright : f.magnitude (base + top / bottom + 1) - q = (bottom - (top % bottom : ℕ)) * unit) :
    f.Nearest q (base + roundHalfEven top bottom) := by
  have hrest : ((top % bottom : ℕ) : ℚ) < bottom := Nat.cast_lt.2 (Nat.mod_lt top hbottom)
  have hlow : f.magnitude (base + top / bottom) ≤ q := by
    rw [← sub_nonneg, hleft]
    positivity
  have hhigh : q < f.magnitude (base + top / bottom + 1) := by
    rw [← sub_pos, hright]
    exact mul_pos (sub_pos.2 hrest) hunit
  have hbelow : q - f.magnitude (base + top / bottom) < f.magnitude (base + top / bottom + 1) - q ↔
      2 * (top % bottom) < bottom := by
    rw [hleft, hright, mul_lt_mul_iff_left₀ hunit, lt_sub_iff_add_lt, ← two_mul]
    exact_mod_cast Iff.rfl
  have habove : f.magnitude (base + top / bottom + 1) - q < q - f.magnitude (base + top / bottom) ↔
      bottom < 2 * (top % bottom) := by
    rw [hleft, hright, mul_lt_mul_iff_left₀ hunit, sub_lt_iff_lt_add, ← two_mul]
    exact_mod_cast Iff.rfl
  have hchosen := (roundHalfEven_cases top bottom).imp (congrArg (base + ·)) (congrArg (base + ·))
  have hneighbours := nearest_of_neighbours hlow hhigh hchosen
  rcases roundHalfEven_spec top bottom with ⟨hless, heq⟩ | ⟨hmore, heq⟩ | ⟨hhalf, heven⟩
  · have hnearer := hbelow.2 hless
    rw [heq, abs_below hlow] at hneighbours
    rw [heq]
    exact hneighbours le_rfl hnearer.le fun htie => absurd htie hnearer.ne
  · have hnearer := habove.2 hmore
    rw [heq, ← Nat.add_assoc, abs_above hhigh.le] at hneighbours
    rw [heq, ← Nat.add_assoc]
    exact hneighbours hnearer.le le_rfl fun htie => absurd htie hnearer.ne'
  · have hequal : q - f.magnitude (base + top / bottom) =
        f.magnitude (base + top / bottom + 1) - q := by
      apply le_antisymm
      · exact not_lt.1 fun h => (habove.1 h).ne' hhalf
      · exact not_lt.1 fun h => (hbelow.1 h).ne hhalf
    have hdistance : |f.magnitude (base + roundHalfEven top bottom) - q| =
        q - f.magnitude (base + top / bottom) := by
      rcases hchosen with h | h
      · rw [h, abs_below hlow]
      · rw [h, hequal]
        exact abs_above hhigh.le
    exact hneighbours hdistance.le (hdistance.trans hequal).le fun _ => by omega

theorem nearest_of_steps {base top bottom : Nat} {step q : ℚ} (hbase : base % 2 = 0)
    (hbottom : 0 < bottom) (hstep : 0 < step)
    (hlower : f.magnitude (base + top / bottom) = (top / bottom : ℕ) * step)
    (hupper : f.magnitude (base + (top / bottom + 1)) = (top / bottom + 1 : ℕ) * step)
    (hq : q = ((top / bottom : ℕ) + ((top % bottom : ℕ) : ℚ) / bottom) * step) :
    f.Nearest q (base + roundHalfEven top bottom) := by
  have hpositive : (0 : ℚ) < bottom := Nat.cast_pos.2 hbottom
  apply nearest_of_remainder hbase hbottom (div_pos hstep hpositive)
  · rw [hq, hlower]
    ring
  · rw [hq, Nat.add_assoc, hupper, Nat.cast_add_one]
    field_simp
    ring

/-- The rank of a ratio is the nearest one. -/
theorem nearest_rankOf (hfraction : 0 < f.fractionBits) (num : Nat) {den : Nat} (hden : 0 < den) :
    f.Nearest ((num : ℚ) / den) (f.rankOf num den) := by
  obtain ⟨hlow, hhigh⟩ := leading_digits (num * 2 ^ f.scale / den) f.fractionBits
  unfold rankOf
  dsimp only
  generalize (num * 2 ^ f.scale / den).log2 - f.fractionBits = s at hlow hhigh ⊢
  rw [Nat.div_div_eq_div_mul] at hlow hhigh
  have heven : s * 2 ^ f.fractionBits % 2 = 0 :=
    Nat.mod_eq_zero_of_dvd (Dvd.dvd.mul_left (dvd_pow_self 2 hfraction.ne') s)
  have hstep : (0 : ℚ) < ((2 ^ s : ℕ) : ℚ) / (2 ^ f.scale : ℕ) := by positivity
  exact nearest_of_steps heven (Nat.mul_pos hden (Nat.two_pow_pos s)) hstep
    (magnitude_binade hlow hhigh.le)
    (magnitude_binade (hlow.imp_right fun h => Nat.le_succ_of_le h) hhigh)
    (ratio_eq_steps num hden (Nat.two_pow_pos f.scale) (Nat.two_pow_pos s))

theorem nearest_zero {q : ℚ} (hq : 0 ≤ q) (hsmall : 2 * q < f.magnitude 1) : f.Nearest q 0 := by
  have hzero := f.magnitude_zero
  have hdistance : |f.magnitude 0 - q| = q := by
    rw [hzero, zero_sub, abs_neg, abs_of_nonneg hq]
  apply @nearest_of_neighbours f q 0 (by linarith) (by rw [Nat.zero_add]; linarith) 0 (.inl rfl)
  · linarith
  · rw [Nat.zero_add]
    linarith
  · exact fun _ => rfl

theorem Nearest.infinity_le {q : ℚ} {rank : Nat} (h : f.Nearest q rank)
    (hq : f.magnitude f.infinity ≤ q) : f.infinity ≤ rank := by
  by_contra hfinite
  have hless := f.magnitude_strictMono (Nat.lt_of_not_le hfinite)
  have hnearest := h.nearest f.infinity
  rw [abs_below hq, abs_below (hless.le.trans hq)] at hnearest
  linarith

theorem magnitude_one (hfraction : 0 < f.fractionBits) :
    f.magnitude 1 = (2 : ℚ) ^ (-(f.scale : ℤ)) := by
  have hunit : 1 < 2 ^ f.fractionBits := Nat.one_lt_two_pow hfraction.ne'
  rw [magnitude, units, if_pos hunit, zpow_neg, zpow_natCast, Nat.cast_one, one_div]
  norm_cast

theorem scale_lt (f : BinaryFormat) : f.scale < 2 ^ f.exponentBits + f.fractionBits := by
  have hhalf : 2 ^ (f.exponentBits - 1) ≤ 2 ^ f.exponentBits :=
    Nat.pow_le_pow_right (by decide) (Nat.sub_le _ _)
  have hpos := Nat.two_pow_pos f.exponentBits
  unfold scale
  omega

theorem magnitude_infinity_le (f : BinaryFormat) :
    f.magnitude f.infinity ≤ (2 : ℚ) ^ (2 ^ f.exponentBits : ℕ) := by
  have hunits : f.units f.infinity ≤ 2 ^ (2 ^ f.exponentBits) * 2 ^ f.scale := by
    unfold infinity
    rcases hcount : 2 ^ f.exponentBits - 1 with _ | s
    · rw [Nat.zero_mul, units, if_pos (Nat.two_pow_pos _)]
      exact Nat.zero_le _
    · calc f.units ((s + 1) * 2 ^ f.fractionBits)
          = f.units (s * 2 ^ f.fractionBits + 2 ^ f.fractionBits) := by rw [Nat.succ_mul]
        _ = 2 ^ f.fractionBits * 2 ^ s := units_binade (.inr le_rfl) (by omega)
        _ = 2 ^ (f.fractionBits + s) := (Nat.pow_add 2 _ _).symm
        _ ≤ 2 ^ (2 ^ f.exponentBits + f.scale) :=
          Nat.pow_le_pow_right (by decide) (by unfold scale; omega)
        _ = 2 ^ (2 ^ f.exponentBits) * 2 ^ f.scale := Nat.pow_add 2 _ _
  have hscale := f.two_pow_scale_pos
  rw [magnitude, div_le_iff₀ hscale]
  exact_mod_cast hunits

end BinaryFormat

/-- What a ratio with a sign is rounded to: the number at the nearest rank, which from infinity on is
infinite. -/
def Binary.Rounds {f : BinaryFormat} (negative : Bool) (q : ℚ) (x : Binary f) : Prop :=
  ∃ rank, f.Nearest q rank ∧ x = ofRank f negative rank

theorem Binary.Rounds.unique {f : BinaryFormat} {negative : Bool} {q : ℚ} {x y : Binary f}
    (hx : Rounds negative q x) (hy : Rounds negative q y) : x = y := by
  obtain ⟨rank, hrank, rfl⟩ := hx
  obtain ⟨other, hother, rfl⟩ := hy
  rw [hrank.unique hother]

def Decimal.magnitude (d : Decimal) : ℚ :=
  d.digits * (10 : ℚ) ^ d.exponent

theorem Decimal.magnitude_eq_div (d : Decimal) :
    d.magnitude = ((d.digits * 10 ^ d.exponent.toNat : ℕ) : ℚ) / (10 ^ (-d.exponent).toNat : ℕ) := by
  unfold magnitude
  obtain ⟨n, hn | hn⟩ := d.exponent.eq_nat_or_neg
  · rw [hn, Int.toNat_natCast, Int.toNat_neg_natCast, zpow_natCast]
    norm_cast
    rw [Nat.pow_zero, Nat.cast_one, div_one]
  · rw [hn, Int.toNat_neg_natCast, neg_neg, Int.toNat_natCast, zpow_neg, zpow_natCast]
    norm_cast
    rw [Nat.pow_zero, Nat.mul_one, div_eq_mul_inv]

theorem Decimal.two_pow_le_magnitude {d : Decimal} {n : Nat} (hdigits : d.digits ≠ 0)
    (h : n < d.exponent) : (2 : ℚ) ^ n ≤ d.magnitude := by
  have hone : (1 : ℚ) ≤ d.digits := Nat.one_le_cast.2 (Nat.one_le_iff_ne_zero.2 hdigits)
  calc (2 : ℚ) ^ n ≤ 10 ^ n := pow_le_pow_left₀ (by norm_num) (by norm_num) n
    _ = (10 : ℚ) ^ (n : ℤ) := (zpow_natCast 10 n).symm
    _ ≤ 10 ^ d.exponent := zpow_le_zpow_right₀ (by norm_num) h.le
    _ ≤ d.digits * 10 ^ d.exponent := le_mul_of_one_le_left (by positivity) hone

theorem Decimal.magnitude_lt_two_pow {d : Decimal} {e : ℤ} (he : e ≤ 0)
    (h : d.exponent + d.digits.log2 + 1 < e) : d.magnitude < (2 : ℚ) ^ e := by
  have hdigits : (d.digits : ℚ) < 2 ^ ((d.digits.log2 : ℤ) + 1) := by
    have hlog : d.digits < 2 ^ (d.digits.log2 + 1) := Nat.lt_log2_self
    exact_mod_cast hlog
  have hpower : (10 : ℚ) ^ d.exponent ≤ 2 ^ d.exponent := by
    obtain ⟨n, hn⟩ := Int.eq_ofNat_of_zero_le (show 0 ≤ -d.exponent by omega)
    rw [← neg_neg d.exponent, hn, zpow_neg, zpow_neg, zpow_natCast, zpow_natCast]
    exact inv_anti₀ (by positivity) (pow_le_pow_left₀ (by norm_num) (by norm_num) n)
  calc d.digits * (10 : ℚ) ^ d.exponent
      ≤ d.digits * 2 ^ d.exponent := mul_le_mul_of_nonneg_left hpower (Nat.cast_nonneg _)
    _ < 2 ^ ((d.digits.log2 : ℤ) + 1) * 2 ^ d.exponent :=
      mul_lt_mul_of_pos_right hdigits (by positivity)
    _ = (2 : ℚ) ^ ((d.digits.log2 : ℤ) + 1 + d.exponent) := (zpow_add₀ (by norm_num) _ _).symm
    _ ≤ 2 ^ e := zpow_le_zpow_right₀ (by norm_num) (by omega)

theorem Binary.rounds_ofDecimal {f : BinaryFormat} (hfraction : 0 < f.fractionBits) (d : Decimal) :
    Rounds d.negative d.magnitude (ofDecimal f d) := by
  have hnonneg : 0 ≤ d.magnitude := by
    unfold Decimal.magnitude
    positivity
  have hone := BinaryFormat.magnitude_one hfraction
  unfold ofDecimal
  by_cases hzero : d.digits = 0
  · rw [if_pos hzero]
    refine ⟨0, BinaryFormat.nearest_zero hnonneg ?_, rfl⟩
    rw [hone, Decimal.magnitude, hzero, Nat.cast_zero, zero_mul, mul_zero]
    positivity
  rw [if_neg hzero]
  by_cases hlarge : (2 ^ f.exponentBits : Nat) < d.exponent
  · rw [if_pos hlarge]
    have hrank := BinaryFormat.nearest_rankOf hfraction (d.digits * 10 ^ d.exponent.toNat)
      (show 0 < 10 ^ (-d.exponent).toNat from Nat.pow_pos (by decide))
    rw [← d.magnitude_eq_div] at hrank
    have hinfinity := hrank.infinity_le
      (f.magnitude_infinity_le.trans (Decimal.two_pow_le_magnitude hzero hlarge))
    exact ⟨_, hrank, by rw [ofRank, dif_neg (Nat.not_lt_of_le hinfinity)]⟩
  rw [if_neg hlarge]
  split
  · rename_i hsmall
    refine ⟨0, BinaryFormat.nearest_zero hnonneg ?_, rfl⟩
    have hlt := Decimal.magnitude_lt_two_pow (Int.neg_nonpos_of_nonneg (Int.natCast_nonneg _)) hsmall
    have hscale := f.scale_lt
    calc 2 * d.magnitude < 2 * 2 ^ (-(2 ^ f.exponentBits + f.fractionBits : ℕ) : ℤ) := by linarith
      _ = (2 : ℚ) ^ (1 + -(2 ^ f.exponentBits + f.fractionBits : ℕ) : ℤ) := by
        rw [zpow_add₀ (by norm_num), zpow_one]
      _ ≤ 2 ^ (-(f.scale : ℤ)) := zpow_le_zpow_right₀ (by norm_num) (by omega)
      _ = f.magnitude 1 := hone.symm
  · refine ⟨_, ?_, rfl⟩
    rw [d.magnitude_eq_div]
    exact BinaryFormat.nearest_rankOf hfraction _ (Nat.pow_pos (by decide))

end RecordMapper
