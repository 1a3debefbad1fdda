import RecordMapper.Proofs.Number.Numeral
import RecordMapper.Proofs.Number.Rounding

/-!
The texts of numbers: an optional sign, digits with at most one point, and an optional power of ten.
A text that starts with a number is scanned for the longest beginning that is one, and for its value;
the scan finds a number wherever there is one.
-/

namespace RecordMapper

inductive SignText : List Char → Bool → Prop where
  | none : SignText [] false
  | plus : SignText ['+'] false
  | minus : SignText ['-'] true

/-- Digits with at most one point before, between or behind them; the digits before the point, and
those behind it. -/
inductive Mantissa : List Char → List Char → List Char → Prop where
  | whole (whole : List Char) (hne : whole ≠ []) (hwhole : ∀ c ∈ whole, c.isDigit = true) :
    Mantissa whole whole []
  | point (whole fraction : List Char) (hne : whole ≠ [] ∨ fraction ≠ [])
    (hwhole : ∀ c ∈ whole, c.isDigit = true) (hfraction : ∀ c ∈ fraction, c.isDigit = true) :
    Mantissa (whole ++ '.' :: fraction) whole fraction

/-- What follows digits with a point does not go on with them. -/
def Stops (mantissa tail : List Char) : Prop :=
  ∀ c ∈ tail.head?, c.isDigit = false ∧ (c = '.' → '.' ∈ mantissa)

def mantissaValue (whole fraction : List Char) : ℚ :=
  digitsValue whole + (digitsValue fraction : ℚ) / 10 ^ fraction.length

/-- The text of a number, whether its sign is a minus, and its magnitude. -/
inductive NumberText : List Char → Bool → ℚ → Prop where
  | plain {sign mantissa whole fraction : List Char} {negative : Bool}
    (hsign : SignText sign negative) (hmantissa : Mantissa mantissa whole fraction) :
    NumberText (sign ++ mantissa) negative (mantissaValue whole fraction)
  | scaled {sign mantissa whole fraction exponent : List Char} {negative : Bool} {e : Int}
    (hsign : SignText sign negative) (hmantissa : Mantissa mantissa whole fraction)
    {letter : Char} (hletter : letter = 'e' ∨ letter = 'E') (hexponent : Numeral exponent e) :
    NumberText (sign ++ mantissa ++ letter :: exponent) negative
      (mantissaValue whole fraction * (10 : ℚ) ^ e)

/-- A text starts with a number, and with no longer one. -/
structure LeadsNumber (cs word : List Char) (negative : Bool) (q : ℚ) : Prop where
  number : NumberText word negative q
  begins : word <+: cs
  longest : ∀ other minus value, other <+: cs → NumberText other minus value → other <+: word

/-! The pieces of a number. -/

section Pieces

variable {cs sign mantissa whole fraction word rest tail : List Char} {negative : Bool} {i : Int}

theorem SignText.takeSign_append (h : SignText sign negative)
    (hrest : ∀ c ∈ rest.head?, ¬ (c = '+' ∨ c = '-')) : takeSign (sign ++ rest) = (negative, rest) := by
  cases h with
  | none => exact takeSign_of_head hrest
  | plus | minus => rfl

theorem exists_signText (cs : List Char) :
    ∃ sign, SignText sign (takeSign cs).1 ∧ cs = sign ++ (takeSign cs).2 := by
  unfold takeSign
  split
  · exact ⟨_, .minus, rfl⟩
  · exact ⟨_, .plus, rfl⟩
  · exact ⟨_, .none, rfl⟩

theorem SignText.exists_numeral {digits : List Char} (h : SignText sign negative)
    (hne : digits ≠ []) (hdigits : ∀ c ∈ digits, c.isDigit = true) :
    ∃ i, Numeral (sign ++ digits) i := by
  cases h with
  | none => exact ⟨_, .unsigned digits hne hdigits⟩
  | plus => exact ⟨_, .plus digits hne hdigits⟩
  | minus => exact ⟨_, .minus digits hne hdigits⟩

theorem takeFraction_cases (cs : List Char) :
    (∃ digits rest, (∀ c ∈ digits, c.isDigit = true) ∧ cs = '.' :: (digits ++ rest) ∧
      takeFraction cs = (some digits, rest)) ∨ takeFraction cs = (none, cs) := by
  unfold takeFraction
  split
  · rename_i behind
    refine .inl ⟨_, _, List.all_eq_true.1 List.all_takeWhile, ?_, rfl⟩
    rw [List.takeWhile_append_dropWhile]
  · exact .inr rfl

theorem Mantissa.take_append (h : Mantissa mantissa whole fraction)
    (hstop : Stops mantissa tail) :
    (mantissa ++ tail).takeWhile Char.isDigit = whole ∧
      ∃ point, takeFraction ((mantissa ++ tail).dropWhile Char.isDigit) = (point, tail) ∧
        point.getD [] = fraction := by
  cases h with
  | whole _ _ hwhole =>
    obtain ⟨htake, hdrop⟩ := takeDigits_stop hwhole fun c hc => (hstop c hc).1
    refine ⟨htake, none, ?_, rfl⟩
    rw [hdrop]
    apply takeFraction_of_head
    rintro c hc rfl
    have hdigit := hwhole '.' ((hstop '.' hc).2 rfl)
    revert hdigit
    decide
  | point _ _ _ hwhole hfraction =>
    have hpoint : ∀ c ∈ ('.' :: (fraction ++ tail)).head?, c.isDigit = false := by
      rintro c ⟨⟩
      rfl
    obtain ⟨htake, hdrop⟩ := takeDigits_stop hwhole hpoint
    obtain ⟨htake', hdrop'⟩ := takeDigits_stop hfraction fun c hc => (hstop c hc).1
    rw [List.append_assoc, List.cons_append]
    refine ⟨htake, some fraction, ?_, rfl⟩
    rw [hdrop, takeFraction, htake', hdrop']

theorem exists_mantissa (hwhole : ∀ c ∈ whole, c.isDigit = true) (behind : List Char)
    (hne : ¬ (whole = [] ∧ (takeFraction behind).1.getD [] = [])) :
    ∃ mantissa, Mantissa mantissa whole ((takeFraction behind).1.getD []) ∧
      whole ++ behind = mantissa ++ (takeFraction behind).2 := by
  rcases takeFraction_cases behind with ⟨digits, rest, hdigits, rfl, htake⟩ | htake
  · rw [htake] at hne ⊢
    refine ⟨_, .point whole digits ?_ hwhole hdigits, by simp⟩
    rwa [← not_and_or]
  · rw [htake] at hne ⊢
    exact ⟨whole, .whole whole (fun hnone => hne ⟨hnone, rfl⟩) hwhole, rfl⟩

theorem Mantissa.extend (h : Mantissa mantissa whole fraction) (rest : List Char) :
    ∃ longer whole fraction tail, Mantissa longer whole fraction ∧
      mantissa ++ rest = longer ++ tail ∧ tail <:+ rest ∧ Stops longer tail := by
  obtain ⟨more, behind, rfl, hmore, hbehind⟩ := exists_digits rest
  cases h with
  | whole _ hne hwhole =>
    have hlonger : ∀ c ∈ mantissa ++ more, c.isDigit = true :=
      List.forall_mem_append.2 ⟨hwhole, hmore⟩
    by_cases hpoint : ∃ later, behind = '.' :: later
    · obtain ⟨later, rfl⟩ := hpoint
      obtain ⟨digits, tail, rfl, hdigits, htail⟩ := exists_digits later
      refine ⟨_, _, _, tail, .point (mantissa ++ more) digits (.inl (by simp [hne])) hlonger hdigits,
        by simp, ⟨more ++ '.' :: digits, by simp⟩, fun c hc => ⟨htail c hc, fun _ => by simp⟩⟩
    · refine ⟨_, _, _, behind, .whole (mantissa ++ more) (by simp [hne]) hlonger, by simp,
        List.suffix_append _ _, fun c hc => ⟨hbehind c hc, ?_⟩⟩
      rintro rfl
      exact absurd (List.head?_eq_some_iff.1 hc) hpoint
  | point _ _ hne hwhole hfraction =>
    refine ⟨_, _, _, behind, .point whole (fraction ++ more) ?_ hwhole
      (List.forall_mem_append.2 ⟨hfraction, hmore⟩), by simp, List.suffix_append _ _,
      fun c hc => ⟨hbehind c hc, fun _ => by simp⟩⟩
    exact hne.imp_right fun h => by simp [h]

theorem Mantissa.digits_ne_nil (h : Mantissa mantissa whole fraction) :
    ¬ (whole = [] ∧ fraction = []) := by
  cases h with
  | whole _ hne _ => exact fun hnone => hne hnone.1
  | point _ _ hne _ _ => exact fun hnone => hne.elim (· hnone.1) (· hnone.2)

theorem Mantissa.exists_cons (h : Mantissa mantissa whole fraction) :
    ∃ c cs, mantissa = c :: cs ∧ (c.isDigit = true ∨ c = '.') := by
  cases h with
  | whole _ hne hwhole =>
    obtain ⟨c, digits, rfl⟩ := List.exists_cons_of_ne_nil hne
    exact ⟨c, digits, rfl, .inl (hwhole c List.mem_cons_self)⟩
  | point _ _ _ hwhole _ =>
    cases whole with
    | nil => exact ⟨_, _, rfl, .inr rfl⟩
    | cons c whole => exact ⟨_, _, rfl, .inl (hwhole c List.mem_cons_self)⟩

theorem Mantissa.head_append (h : Mantissa mantissa whole fraction) :
    ∀ c ∈ (mantissa ++ tail).head?, ¬ (c = '+' ∨ c = '-') := by
  obtain ⟨c, cs, rfl, hc⟩ := h.exists_cons
  rintro _ ⟨⟩ (rfl | rfl) <;> revert hc <;> decide

theorem Numeral.takeExponent_append (h : Numeral word i) {letter : Char}
    (hletter : letter = 'e' ∨ letter = 'E') (hrest : ∀ c ∈ rest.head?, c.isDigit = false) :
    takeExponent (letter :: (word ++ rest)) = (some i, rest) := by
  have hread {digits : List Char} (hne : digits ≠ []) (hdigits : ∀ c ∈ digits, c.isDigit = true) :
      leadingDigits? (digits ++ rest) = some digits ∧ (digits ++ rest).dropWhile Char.isDigit = rest :=
    ⟨leadingDigits?_append hne hdigits hrest, (takeDigits_stop hdigits hrest).2⟩
  unfold takeExponent
  dsimp only
  rw [if_pos hletter]
  cases h with
  | unsigned _ hne hdigits =>
    have hsign := takeSign_of_head (@Mantissa.head_append _ _ _ rest (.whole word hne hdigits))
    rw [hsign, (hread hne hdigits).1, (hread hne hdigits).2]
    rfl
  | plus _ hne hdigits | minus _ hne hdigits =>
    rw [List.cons_append, takeSign, (hread hne hdigits).1, (hread hne hdigits).2]
    rfl

theorem takeExponent_cases (cs : List Char) :
    (∃ letter word i rest, (letter = 'e' ∨ letter = 'E') ∧ Numeral word i ∧
      (∀ c ∈ rest.head?, c.isDigit = false) ∧ cs = letter :: (word ++ rest) ∧
        takeExponent cs = (some i, rest)) ∨ takeExponent cs = (none, cs) := by
  cases cs with
  | nil => exact .inr rfl
  | cons letter behind =>
    by_cases hletter : letter = 'e' ∨ letter = 'E'
    · obtain ⟨sign, hsign, hbehind⟩ := exists_signText behind
      cases hdigits : leadingDigits? (takeSign behind).2 with
      | none =>
        right
        unfold takeExponent
        dsimp only
        rw [if_pos hletter, hdigits]
      | some digits =>
        obtain ⟨hne, hall, rest, hrest, hstop⟩ := of_leadingDigits? hdigits
        left
        rw [hrest, ← List.append_assoc] at hbehind
        obtain ⟨i, hi⟩ := hsign.exists_numeral hne hall
        refine ⟨letter, sign ++ digits, i, rest, hletter, hi, hstop, by rw [← hbehind], ?_⟩
        rw [hbehind]
        exact hi.takeExponent_append hletter hstop
    · right
      unfold takeExponent
      dsimp only
      rw [if_neg hletter]

theorem takeExponent_suffix (cs : List Char) : (takeExponent cs).2 <:+ cs := by
  rcases takeExponent_cases cs with ⟨letter, word, i, rest, -, -, -, rfl, htake⟩ | htake
  · rw [htake]
    exact ⟨letter :: word, by simp⟩
  · rw [htake]

end Pieces

/-! Scanning. -/

section Scan

variable {cs sign mantissa whole fraction word rest tail : List Char} {negative : Bool} {q : ℚ}

theorem Decimal.magnitude_ofParts (negative : Bool) (whole fraction : List Char) (e : Int) :
    (Decimal.ofParts negative whole fraction e).magnitude =
      mantissaValue whole fraction * (10 : ℚ) ^ e := by
  rw [Decimal.magnitude, Decimal.ofParts, mantissaValue, digitsValue_append,
    zpow_sub₀ (by norm_num), zpow_natCast]
  push_cast
  field_simp

theorem scan?_mantissa (hsign : SignText sign negative) (h : Mantissa mantissa whole fraction)
    (hstop : Stops mantissa tail) :
    Decimal.scan? (sign ++ (mantissa ++ tail)) =
      some (.ofParts negative whole fraction ((takeExponent tail).1.getD 0), (takeExponent tail).2) := by
  obtain ⟨htake, point, hpoint, hfraction⟩ := h.take_append hstop
  unfold Decimal.scan?
  rw [hsign.takeSign_append h.head_append]
  dsimp only
  rw [htake, hpoint]
  dsimp only
  rw [hfraction, if_neg h.digits_ne_nil]

theorem scan?_scaled {exponent : List Char} {letter : Char} {e : Int}
    (hsign : SignText sign negative) (h : Mantissa mantissa whole fraction)
    (hletter : letter = 'e' ∨ letter = 'E') (hexponent : Numeral exponent e)
    (hrest : ∀ c ∈ rest.head?, c.isDigit = false) :
    Decimal.scan? (sign ++ mantissa ++ letter :: exponent ++ rest) =
      some (.ofParts negative whole fraction e, rest) := by
  have hstop : Stops mantissa (letter :: (exponent ++ rest)) := by
    rintro _ ⟨⟩
    rcases hletter with rfl | rfl <;> exact ⟨rfl, nofun⟩
  have hscan := scan?_mantissa hsign h hstop
  rw [hexponent.takeExponent_append hletter hrest] at hscan
  rw [List.append_assoc, List.append_assoc, List.cons_append]
  exact hscan

theorem numberText_of_scan? {d : Decimal} (h : Decimal.scan? cs = some (d, rest)) :
    ∃ word, cs = word ++ rest ∧ NumberText word d.negative d.magnitude := by
  obtain ⟨sign, hsign, hcs⟩ := exists_signText cs
  unfold Decimal.scan? at h
  generalize takeSign cs = signed at hsign hcs h
  obtain ⟨negative, unsigned⟩ := signed
  obtain ⟨whole, behind, rfl, hwhole, hbehind⟩ := exists_digits unsigned
  obtain ⟨htake, hdrop⟩ := takeDigits_stop hwhole hbehind
  dsimp only at hsign hcs h
  rw [htake, hdrop] at h
  split at h
  · cases h
  · rename_i hne
    obtain ⟨mantissa, hmantissa, hsplit⟩ := exists_mantissa hwhole behind hne
    cases h
    rw [hsplit] at hcs
    rw [Decimal.magnitude_ofParts]
    rcases takeExponent_cases (takeFraction behind).2 with
      ⟨letter, exponent, e, rest, hletter, hexponent, -, htail, hscan⟩ | hscan
    · rw [hscan]
      refine ⟨_, ?_, .scaled hsign hmantissa hletter hexponent⟩
      rw [hcs, htail]
      simp
    · rw [hscan]
      refine ⟨sign ++ mantissa, by rw [hcs, List.append_assoc], ?_⟩
      rw [Option.getD_none, zpow_zero, mul_one]
      exact .plain hsign hmantissa

theorem NumberText.scan?_eq (h : NumberText word negative q) :
    ∃ d, Decimal.scan? word = some (d, []) ∧ d.negative = negative ∧ d.magnitude = q := by
  cases h with
  | plain hsign hmantissa =>
    have hscan := @scan?_mantissa _ _ _ _ [] _ hsign hmantissa (by simp [Stops])
    rw [List.append_nil] at hscan
    refine ⟨_, hscan, rfl, ?_⟩
    rw [Decimal.magnitude_ofParts]
    exact mul_one _
  | scaled hsign hmantissa hletter hexponent =>
    have hscan := @scan?_scaled _ _ _ _ [] _ _ _ _ hsign hmantissa hletter hexponent (by simp)
    rw [List.append_nil] at hscan
    exact ⟨_, hscan, rfl, Decimal.magnitude_ofParts _ _ _ _⟩

theorem NumberText.unsigned_head (h : NumberText word negative q) :
    ∃ c cs, (takeSign word).2 = c :: cs ∧ (c.isDigit = true ∨ c = '.') := by
  cases h with
  | @plain sign mantissa _ _ _ hsign hmantissa =>
    obtain ⟨c, cs, rfl, hc⟩ := hmantissa.exists_cons
    rw [← List.append_nil (sign ++ _), List.append_assoc,
      hsign.takeSign_append hmantissa.head_append]
    exact ⟨c, _, rfl, hc⟩
  | scaled hsign hmantissa _ _ =>
    obtain ⟨c, cs, rfl, hc⟩ := hmantissa.exists_cons
    rw [List.append_assoc, hsign.takeSign_append hmantissa.head_append]
    exact ⟨c, _, rfl, hc⟩

theorem NumberText.scan?_append (h : NumberText word negative q) (rest : List Char) :
    ∃ d behind, Decimal.scan? (word ++ rest) = some (d, behind) ∧ behind <:+ rest := by
  cases h with
  | plain hsign hmantissa =>
    obtain ⟨longer, whole, fraction, tail, hlonger, hsplit, htail, hstop⟩ := hmantissa.extend rest
    have hscan := scan?_mantissa hsign hlonger hstop
    rw [← hsplit, ← List.append_assoc] at hscan
    exact ⟨_, _, hscan, (takeExponent_suffix tail).trans htail⟩
  | scaled hsign hmantissa hletter hexponent =>
    obtain ⟨more, behind, rfl, hmore, hbehind⟩ := exists_digits rest
    obtain ⟨j, hlonger⟩ := hexponent.append hmore
    have hscan := scan?_scaled hsign hmantissa hletter hlonger hbehind
    rw [← List.cons_append, ← List.append_assoc, List.append_assoc _ more] at hscan
    exact ⟨_, behind, hscan, List.suffix_append more behind⟩

theorem NumberText.unique {minus : Bool} {value : ℚ} (h : NumberText word negative q)
    (h' : NumberText word minus value) : negative = minus ∧ q = value := by
  obtain ⟨d, hscan, rfl, rfl⟩ := h.scan?_eq
  obtain ⟨d', hscan', rfl, rfl⟩ := h'.scan?_eq
  cases hscan.symm.trans hscan'
  exact ⟨rfl, rfl⟩

theorem LeadsNumber.unique {other : List Char} {minus : Bool} {value : ℚ}
    (h : LeadsNumber cs word negative q) (h' : LeadsNumber cs other minus value) :
    word = other ∧ negative = minus ∧ q = value := by
  obtain rfl : word = other :=
    (h'.longest _ _ _ h.begins h.number).eq_of_length_le
      (h.longest _ _ _ h'.begins h'.number).length_le
  exact ⟨rfl, h.number.unique h'.number⟩

theorem leadsNumber_of_scan? {d : Decimal} (h : Decimal.scan? cs = some (d, rest)) :
    ∃ word, cs = word ++ rest ∧ LeadsNumber cs word d.negative d.magnitude := by
  obtain ⟨word, rfl, hnumber⟩ := numberText_of_scan? h
  refine ⟨word, rfl, hnumber, List.prefix_append word rest, ?_⟩
  intro other minus value hbegins hother
  obtain ⟨more, hmore⟩ := hbegins
  obtain ⟨d', behind, hscan, hbehind⟩ := hother.scan?_append more
  rw [hmore, h] at hscan
  cases hscan
  obtain ⟨middle, rfl⟩ := hbehind
  rw [← List.append_assoc, List.append_cancel_right_eq] at hmore
  exact ⟨middle, hmore⟩

theorem scan?_eq_none_iff :
    Decimal.scan? cs = none ↔ ∀ word negative q, word <+: cs → ¬ NumberText word negative q := by
  constructor
  · rintro h word negative q ⟨rest, rfl⟩ hnumber
    obtain ⟨d, behind, hscan, -⟩ := hnumber.scan?_append rest
    cases h.symm.trans hscan
  · intro h
    rw [Option.eq_none_iff_forall_ne_some]
    rintro ⟨d, rest⟩ hscan
    obtain ⟨word, rfl, hnumber⟩ := numberText_of_scan? hscan
    exact h _ _ _ (List.prefix_append word rest) hnumber

theorem toLower_of_lt {c : Char} (h : c.toNat < 65) : c.toLower = c := by
  unfold Char.toLower
  rw [dif_neg]
  rintro ⟨hlow, -⟩
  exact absurd (UInt32.le_iff_toNat_le.1 hlow) (Nat.not_le_of_lt h)

theorem NumberText.read (h : NumberText word negative q) {f : BinaryFormat}
    (hfraction : 0 < f.fractionBits) :
    ∃ x, Binary.read f word = .ok x ∧ Binary.Rounds negative q x := by
  obtain ⟨c, cs, hunsigned, hc⟩ := h.unsigned_head
  obtain ⟨d, hscan, rfl, rfl⟩ := h.scan?_eq
  refine ⟨_, ?_, Binary.rounds_ofDecimal hfraction d⟩
  have hne : word ≠ [] := by
    rintro rfl
    cases hunsigned
  have hlow : c.toNat < 65 := by
    rcases hc with hdigit | rfl
    · exact Nat.lt_of_le_of_lt (Char.isDigit_iff_toNat.1 hdigit).2 (by decide)
    · decide
  have hword (text : List Char) (hletters : text.all fun letter => 65 ≤ letter.toNat) :
      (c :: cs).map Char.toLower ≠ text := by
    rintro rfl
    rw [List.map_cons, List.all_cons, toLower_of_lt hlow, Bool.and_eq_true, decide_eq_true_eq] at hletters
    exact absurd hletters.1 (Nat.not_le_of_lt hlow)
  unfold Binary.read
  generalize takeSign word = signed at hunsigned ⊢
  obtain ⟨minus, unsigned⟩ := signed
  obtain rfl : unsigned = c :: cs := hunsigned
  dsimp only
  rw [if_neg hne, if_neg (not_or.2 ⟨hword _ (by decide), hword _ (by decide)⟩),
    if_neg (hword _ (by decide)), hscan]

end Scan

end RecordMapper
