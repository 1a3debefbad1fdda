import RecordMapper.Number.Integer

/-!
Decimal digits written and read: the digits of a number are its value, none of them is lost, and
they do not start with a zero unless the number is zero.
-/

namespace RecordMapper

theorem isDigit_of_mem_natDigits {n : Nat} {c : Char} (h : c ∈ natDigits n) : c.isDigit = true :=
  Nat.isDigit_of_mem_toDigits (by decide) (by decide) h

theorem digitsValue_natDigits (n : Nat) : digitsValue (natDigits n) = n := by
  have hread := Nat.ofDigitChars_ten_toDigits (n := n)
  rw [Nat.ofDigitChars_eq_foldl] at hread
  have hstep : (fun (value : Nat) (c : Char) => value * 10 + digitValue c) =
      fun sofar c => 10 * sofar + (c.toNat - '0'.toNat) := by
    funext value c
    rw [digitValue, Nat.mul_comm]
  unfold digitsValue natDigits
  rw [hstep]
  exact hread

theorem digitsValue_append (cs rest : List Char) :
    digitsValue (cs ++ rest) = digitsValue cs * 10 ^ rest.length + digitsValue rest := by
  rw [digitsValue, List.foldl_append]
  exact foldl_positional 10 digitValue rest _

theorem exists_digits (cs : List Char) :
    ∃ digits rest, cs = digits ++ rest ∧ (∀ c ∈ digits, c.isDigit = true) ∧
      ∀ c ∈ rest.head?, c.isDigit = false := by
  refine ⟨cs.takeWhile Char.isDigit, cs.dropWhile Char.isDigit,
    List.takeWhile_append_dropWhile.symm, List.all_eq_true.1 List.all_takeWhile, ?_⟩
  intro c hc
  have hstop := List.head?_dropWhile_not Char.isDigit cs
  rw [hc] at hstop
  simpa using hstop

theorem takeDigits_stop {digits rest : List Char} (h : ∀ d ∈ digits, d.isDigit = true)
    (hrest : ∀ c ∈ rest.head?, c.isDigit = false) :
    (digits ++ rest).takeWhile Char.isDigit = digits ∧
      (digits ++ rest).dropWhile Char.isDigit = rest := by
  rw [List.takeWhile_append_of_pos h, List.dropWhile_append_of_pos h]
  cases rest with
  | nil => simp
  | cons c rest => simp [hrest c rfl]

theorem natDigits_zero : natDigits 0 = ['0'] := by decide

theorem natDigits_ne_nil (n : Nat) : natDigits n ≠ [] :=
  Nat.toDigits_ne_nil

theorem natDigits_head {n : Nat} (h : n ≠ 0) : ∃ c cs, natDigits n = c :: cs ∧ c ≠ '0' := by
  unfold natDigits
  induction n using Nat.strongRecOn with
  | ind n ih =>
    by_cases hsmall : n < 10
    · refine ⟨n.digitChar, [], Nat.toDigits_of_lt_base hsmall, ?_⟩
      have hdigits : ∀ d < 10, d ≠ 0 → Nat.digitChar d ≠ '0' := by decide
      exact hdigits n hsmall h
    · obtain ⟨c, cs, hdigits, hc⟩ := ih (n / 10) (by omega) (by omega)
      refine ⟨c, cs ++ [(n % 10).digitChar], ?_, hc⟩
      rw [Nat.toDigits_of_base_le (by decide) (by omega), hdigits]
      rfl

theorem intDigits_cases (i : Int) :
    (i < 0 ∧ intDigits i = '-' :: natDigits i.natAbs) ∨ (0 ≤ i ∧ intDigits i = natDigits i.natAbs) := by
  unfold intDigits
  by_cases h : i < 0
  · exact .inl ⟨h, if_pos h⟩
  · exact .inr ⟨by omega, if_neg h⟩

theorem sign_or_digit_of_mem_intDigits {i : Int} {c : Char} (h : c ∈ intDigits i) :
    c = '-' ∨ c.isDigit = true := by
  obtain ⟨-, htext⟩ | ⟨-, htext⟩ := intDigits_cases i
  · rw [htext] at h
    rcases List.mem_cons.1 h with hsign | h
    · exact .inl hsign
    · exact .inr (isDigit_of_mem_natDigits h)
  · rw [htext] at h
    exact .inr (isDigit_of_mem_natDigits h)

theorem intDigits_ne_nil (i : Int) : intDigits i ≠ [] := by
  obtain ⟨-, htext⟩ | ⟨-, htext⟩ := intDigits_cases i
  · simp [htext]
  · simp [htext, natDigits_ne_nil]

theorem le_digits (n : Nat) (cs : List Char) :
    n ≤ cs.foldl (fun value c => value * 10 + digitValue c) n := by
  induction cs generalizing n with
  | nil => exact Nat.le_refl n
  | cons c cs ih =>
    have hstep := ih (n * 10 + digitValue c)
    simp only [List.foldl_cons]
    omega

namespace IntegerRange

def withSign : (negative : Bool) → (n : Nat) → Int
  | true, n => -n
  | false, n => n

theorem withSign_next (negative : Bool) (n : Nat) (c : Char) :
    (if negative then withSign negative n * 10 - digitValue c
      else withSign negative n * 10 + digitValue c) = withSign negative (n * 10 + digitValue c) := by
  cases negative with
  | true =>
    simp only [withSign, if_true]
    omega
  | false => simp [withSign]

variable {range : IntegerRange}

theorem readDigits_of_holds (negative : Bool) (hzero : range.Holds 0) {cs : List Char}
    (hdigits : ∀ c ∈ cs, c.isDigit = true) (n : Nat)
    (hholds : range.Holds
      (withSign negative (cs.foldl (fun value c => value * 10 + digitValue c) n))) :
    range.readDigits negative (withSign negative n) cs =
      .ok (withSign negative (cs.foldl (fun value c => value * 10 + digitValue c) n)) := by
  induction cs generalizing n with
  | nil => rfl
  | cons c cs ih =>
    have hc := hdigits c List.mem_cons_self
    have hle := le_digits (n * 10 + digitValue c) cs
    simp only [List.foldl_cons] at hholds ⊢
    -- the number read so far lies between zero and the whole number, which the range holds
    have hbounds : ¬ range.greatest < withSign negative (n * 10 + digitValue c) ∧
        ¬ withSign negative (n * 10 + digitValue c) < range.least := by
      obtain ⟨hlow, hhigh⟩ := hholds
      obtain ⟨hleast, hgreatest⟩ := hzero
      cases negative <;> simp only [withSign] at * <;> omega
    rw [readDigits, if_pos hc]
    dsimp only
    rw [withSign_next, if_neg hbounds.1, if_neg hbounds.2]
    exact ih (fun d hd => hdigits d (List.mem_cons_of_mem _ hd)) _ hholds

theorem read_intDigits (hleast : range.least < 0) (hgreatest : 0 ≤ range.greatest) {i : Int}
    (hholds : range.Holds i) : range.read (intDigits i) = .ok i := by
  have hzero : range.Holds 0 := ⟨by omega, hgreatest⟩
  have hdigits : ∀ c ∈ natDigits i.natAbs, c.isDigit = true := fun c => isDigit_of_mem_natDigits
  have hvalue := digitsValue_natDigits i.natAbs
  unfold digitsValue at hvalue
  obtain ⟨c, cs, hcs⟩ := List.exists_cons_of_ne_nil (natDigits_ne_nil i.natAbs)
  obtain ⟨hnegative, htext⟩ | ⟨hpositive, htext⟩ := intDigits_cases i
  · have hi : withSign true i.natAbs = i := by simp only [withSign]; omega
    have hread := readDigits_of_holds true hzero hdigits 0 (by rwa [hvalue, hi])
    rw [hvalue, hi] at hread
    rw [htext, read, if_neg (by simp [natDigits_ne_nil]), if_pos rfl, if_pos hleast]
    exact hread
  · have hi : withSign false i.natAbs = i := by simp only [withSign]; omega
    have hread := readDigits_of_holds false hzero hdigits 0 (by rwa [hvalue, hi])
    rw [hvalue, hi] at hread
    have hsign : c ≠ '-' ∧ c ≠ '+' := by
      have hc := hdigits c (by simp [hcs])
      constructor <;> rintro rfl <;> revert hc <;> decide
    rw [hcs] at htext hread
    rw [htext, read, if_neg (by simp [hsign]), if_neg hsign.1, if_neg hsign.2]
    exact hread

theorem holds_of_readDigits {negative : Bool} {cs : List Char} {value i : Int}
    (h : range.Holds value) (hread : range.readDigits negative value cs = .ok i) :
    range.Holds i := by
  induction cs generalizing value with
  | nil =>
    cases Except.ok.inj hread
    exact h
  | cons c cs ih =>
    rw [readDigits] at hread
    by_cases hc : c.isDigit = true
    · rw [if_pos hc] at hread
      dsimp only at hread
      generalize (if negative then _ else _ : Int) = next at hread
      by_cases hgreatest : range.greatest < next
      · rw [if_pos hgreatest] at hread
        cases hread
      · by_cases hleast : next < range.least
        · rw [if_neg hgreatest, if_pos hleast] at hread
          cases hread
        · rw [if_neg hgreatest, if_neg hleast] at hread
          exact ih ⟨Int.not_lt.1 hleast, Int.not_lt.1 hgreatest⟩ hread
    · rw [if_neg hc] at hread
      cases hread

theorem holds_of_read {cs : List Char} {i : Int} (hzero : range.Holds 0)
    (h : range.read cs = .ok i) : range.Holds i := by
  unfold read at h
  split at h
  · cases h
  · split at h
    · cases h
    · split at h
      · split at h
        · exact holds_of_readDigits hzero h
        · cases h
      · split at h
        · exact holds_of_readDigits hzero h
        · exact holds_of_readDigits hzero h

end IntegerRange

end RecordMapper
