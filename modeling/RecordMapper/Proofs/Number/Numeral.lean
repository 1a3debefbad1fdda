import RecordMapper.Proofs.Number.Digits
import RecordMapper.Text.Blank

/-!
Numerals: which texts are read as an integer of a range, and as which. A numeral is digits with or
without a sign in front; it is read when the range holds the integer that it denotes.
-/

namespace RecordMapper

/-- At least one digit, with or without a sign in front, and the integer that they denote. -/
inductive Numeral : List Char → Int → Prop where
  | unsigned (digits : List Char) (hne : digits ≠ []) (hdigits : ∀ c ∈ digits, c.isDigit = true) :
    Numeral digits (digitsValue digits)
  | plus (digits : List Char) (hne : digits ≠ []) (hdigits : ∀ c ∈ digits, c.isDigit = true) :
    Numeral ('+' :: digits) (digitsValue digits)
  | minus (digits : List Char) (hne : digits ≠ []) (hdigits : ∀ c ∈ digits, c.isDigit = true) :
    Numeral ('-' :: digits) (-digitsValue digits)

namespace Numeral

theorem not_blank {cs : List Char} {i : Int} (h : Numeral cs i) :
    ∀ c ∈ cs, isBlank c = false := by
  cases h with
  | unsigned digits _ hdigits => exact fun c hc => isBlank_of_isDigit (hdigits c hc)
  | plus digits _ hdigits | minus digits _ hdigits =>
    exact List.forall_mem_cons.2 ⟨by decide, fun c hc => isBlank_of_isDigit (hdigits c hc)⟩

theorem ne_nil {cs : List Char} {i : Int} (h : Numeral cs i) : cs ≠ [] := by
  cases h with
  | unsigned digits hne _ => exact hne
  | plus digits _ _ | minus digits _ _ => exact List.cons_ne_nil _ _

theorem isDigit_of_mem_tail {c : Char} {rest : List Char} {i : Int} (h : Numeral (c :: rest) i) :
    ∀ d ∈ rest, d.isDigit = true := by
  cases h with
  | unsigned _ _ hdigits => exact fun d hd => hdigits d (List.mem_cons_of_mem c hd)
  | plus _ _ hdigits | minus _ _ hdigits => exact hdigits

theorem append {cs : List Char} {i : Int} (h : Numeral cs i) {more : List Char}
    (hmore : ∀ c ∈ more, c.isDigit = true) : ∃ j, Numeral (cs ++ more) j := by
  cases h with
  | unsigned _ hne hdigits =>
    exact ⟨_, .unsigned _ (by simp [hne]) (List.forall_mem_append.2 ⟨hdigits, hmore⟩)⟩
  | plus _ hne hdigits =>
    exact ⟨_, .plus _ (by simp [hne]) (List.forall_mem_append.2 ⟨hdigits, hmore⟩)⟩
  | minus _ hne hdigits =>
    exact ⟨_, .minus _ (by simp [hne]) (List.forall_mem_append.2 ⟨hdigits, hmore⟩)⟩

end Numeral

theorem numeral_intDigits (i : Int) : Numeral (intDigits i) i := by
  have hdigits : ∀ c ∈ natDigits i.natAbs, c.isDigit = true := fun c => isDigit_of_mem_natDigits
  have hvalue := digitsValue_natDigits i.natAbs
  obtain ⟨hnegative, htext⟩ | ⟨hpositive, htext⟩ := intDigits_cases i
  · have hi : -(i.natAbs : Int) = i := by omega
    have hnumeral := Numeral.minus _ (natDigits_ne_nil i.natAbs) hdigits
    rw [hvalue, hi] at hnumeral
    rwa [htext]
  · have hi : (i.natAbs : Int) = i := by omega
    have hnumeral := Numeral.unsigned _ (natDigits_ne_nil i.natAbs) hdigits
    rw [hvalue, hi] at hnumeral
    rwa [htext]

namespace IntegerRange

variable {range : IntegerRange}

theorem digits_of_readDigits (negative : Bool) {cs : List Char} {n : Nat} {i : Int}
    (h : range.readDigits negative (withSign negative n) cs = .ok i) :
    (∀ c ∈ cs, c.isDigit = true) ∧
      i = withSign negative (cs.foldl (fun value c => value * 10 + digitValue c) n) := by
  induction cs generalizing n with
  | nil =>
    cases Except.ok.inj h
    exact ⟨by simp, rfl⟩
  | cons c cs ih =>
    rw [readDigits] at h
    by_cases hc : c.isDigit = true
    · rw [if_pos hc] at h
      dsimp only at h
      rw [withSign_next] at h
      split at h
      · cases h
      · split at h
        · cases h
        · obtain ⟨hdigits, hi⟩ := ih h
          exact ⟨List.forall_mem_cons.2 ⟨hc, hdigits⟩, hi⟩
    · rw [if_neg hc] at h
      cases h

theorem readDigits_zero_eq_ok_iff (negative : Bool) (hzero : range.Holds 0) {cs : List Char}
    {i : Int} :
    range.readDigits negative 0 cs = .ok i ↔
      (∀ c ∈ cs, c.isDigit = true) ∧ i = withSign negative (digitsValue cs) ∧ range.Holds i := by
  have hstart : withSign negative 0 = 0 := by cases negative <;> rfl
  constructor
  · intro h
    have hholds := holds_of_readDigits hzero h
    rw [← hstart] at h
    obtain ⟨hdigits, hi⟩ := digits_of_readDigits negative h
    exact ⟨hdigits, hi, hholds⟩
  · rintro ⟨hdigits, rfl, hholds⟩
    have hread := readDigits_of_holds negative hzero hdigits 0 hholds
    rwa [hstart] at hread

theorem read_eq_ok_iff (hleast : range.least < 0) (hgreatest : 0 ≤ range.greatest) {cs : List Char}
    {i : Int} : range.read cs = .ok i ↔ Numeral cs i ∧ range.Holds i := by
  have hzero : range.Holds 0 := ⟨by omega, hgreatest⟩
  constructor
  · intro h
    refine ⟨?_, holds_of_read hzero h⟩
    unfold read at h
    split at h
    · cases h
    rename_i c rest
    split at h
    · cases h
    · rename_i hsign
      by_cases hminus : c = '-'
      · subst hminus
        rw [if_pos rfl, readDigits_zero_eq_ok_iff true hzero] at h
        obtain ⟨hdigits, rfl, -⟩ := h
        exact .minus rest (by simpa using hsign) hdigits
      · by_cases hplus : c = '+'
        · subst hplus
          rw [if_neg hminus, if_pos rfl, readDigits_zero_eq_ok_iff false hzero] at h
          obtain ⟨hdigits, rfl, -⟩ := h
          exact .plus rest (by simpa using hsign) hdigits
        · rw [if_neg hminus, if_neg hplus, readDigits_zero_eq_ok_iff false hzero] at h
          obtain ⟨hdigits, rfl, -⟩ := h
          exact .unsigned (c :: rest) (by simp) hdigits
  · rintro ⟨hnumeral, hholds⟩
    cases hnumeral with
    | unsigned digits hne hdigits =>
      obtain ⟨c, rest, rfl⟩ := List.exists_cons_of_ne_nil hne
      have hsign : c ≠ '-' ∧ c ≠ '+' := by
        have hc := hdigits c List.mem_cons_self
        constructor <;> rintro rfl <;> revert hc <;> decide
      rw [read, if_neg (by simp [hsign]), if_neg hsign.1, if_neg hsign.2]
      exact (readDigits_zero_eq_ok_iff false hzero).2 ⟨hdigits, rfl, hholds⟩
    | plus digits hne hdigits =>
      rw [read, if_neg (by simp [hne]), if_neg (by decide), if_pos rfl]
      exact (readDigits_zero_eq_ok_iff false hzero).2 ⟨hdigits, rfl, hholds⟩
    | minus digits hne hdigits =>
      rw [read, if_neg (by simp [hne]), if_pos rfl, if_pos hleast]
      exact (readDigits_zero_eq_ok_iff true hzero).2 ⟨hdigits, rfl, hholds⟩

end IntegerRange

theorem Numeral.unique {cs : List Char} {i j : Int} (hi : Numeral cs i) (hj : Numeral cs j) :
    i = j := by
  -- a range that holds both integers reads the text as either
  have hread (k : Int) (hk : Numeral cs k) (hle : k.natAbs ≤ i.natAbs + j.natAbs) :
      IntegerRange.read ⟨-(i.natAbs + j.natAbs) - 1, i.natAbs + j.natAbs⟩ cs = .ok k := by
    apply (IntegerRange.read_eq_ok_iff _ _).2 ⟨hk, _, _⟩ <;> dsimp only <;> omega
  have heq := (hread i hi (by omega)).symm.trans (hread j hj (by omega))
  exact Except.ok.inj heq

/-! Numerals at the beginning of a text. -/

section Leading

variable {cs word rest : List Char} {i : Int}

theorem leadingDigits?_append {digits : List Char} (hne : digits ≠ [])
    (hdigits : ∀ c ∈ digits, c.isDigit = true) (hrest : ∀ c ∈ rest.head?, c.isDigit = false) :
    leadingDigits? (digits ++ rest) = some digits := by
  unfold leadingDigits?
  rw [(takeDigits_stop hdigits hrest).1]
  split
  · contradiction
  · rfl

theorem Numeral.leadingInteger?_append (h : Numeral word i)
    (hrest : ∀ c ∈ rest.head?, c.isDigit = false) : leadingInteger? (word ++ rest) = some word := by
  cases h with
  | unsigned digits hne hdigits =>
    obtain ⟨c, digits, rfl⟩ := List.exists_cons_of_ne_nil hne
    have hsign : ¬ (c = '+' ∨ c = '-') := by
      have hc := hdigits c List.mem_cons_self
      rintro (rfl | rfl) <;> revert hc <;> decide
    rw [List.cons_append, leadingInteger?, if_neg hsign]
    exact leadingDigits?_append hne hdigits hrest
  | plus digits hne hdigits | minus digits hne hdigits =>
    rw [List.cons_append, leadingInteger?, if_pos (by simp),
      leadingDigits?_append hne hdigits hrest]
    rfl

theorem of_leadingDigits? {digits : List Char} (h : leadingDigits? cs = some digits) :
    digits ≠ [] ∧ (∀ c ∈ digits, c.isDigit = true) ∧
      ∃ rest, cs = digits ++ rest ∧ ∀ c ∈ rest.head?, c.isDigit = false := by
  obtain ⟨found, rest, rfl, hdigits, hrest⟩ := exists_digits cs
  unfold leadingDigits? at h
  rw [(takeDigits_stop hdigits hrest).1] at h
  split at h
  · cases h
  · rename_i hne
    cases h
    exact ⟨hne, hdigits, rest, rfl, hrest⟩

theorem numeral_of_leadingInteger? (h : leadingInteger? cs = some word) :
    ∃ i rest, cs = word ++ rest ∧ Numeral word i ∧ ∀ c ∈ rest.head?, c.isDigit = false := by
  unfold leadingInteger? at h
  split at h
  · cases h
  · rename_i c behind
    by_cases hsign : c = '+' ∨ c = '-'
    · rw [if_pos hsign] at h
      obtain ⟨digits, hfound, rfl⟩ := Option.map_eq_some_iff.1 h
      obtain ⟨hne, hdigits, rest, rfl, hrest⟩ := of_leadingDigits? hfound
      rcases hsign with rfl | rfl
      · exact ⟨_, rest, rfl, .plus digits hne hdigits, hrest⟩
      · exact ⟨_, rest, rfl, .minus digits hne hdigits, hrest⟩
    · rw [if_neg hsign] at h
      obtain ⟨hne, hdigits, rest, hcs, hrest⟩ := of_leadingDigits? h
      exact ⟨_, rest, hcs, .unsigned word hne hdigits, hrest⟩

end Leading

end RecordMapper
