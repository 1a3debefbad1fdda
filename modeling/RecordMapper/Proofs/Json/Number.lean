import RecordMapper.Json.Parser
import RecordMapper.Proofs.Number.Digits

/-!
Numbers within JSON text. A number ends where a comma or a bracket stands, and an integer is read from
its text. A double has no such theorem: its text is read in the arithmetic of doubles, which can miss
it, so that what is read from the text of a double is a matter of the double.
-/

namespace RecordMapper.Json

/-- What stands behind a value in a text: nothing, or a comma or a bracket that closes. -/
def Ends (rest : List Char) : Prop :=
  ∀ c ∈ rest.head?, c = ',' ∨ c = ']' ∨ c = '}'

variable {rest : List Char}

theorem Ends.nil : Ends [] := by simp [Ends]

theorem Ends.cons {c : Char} (h : c = ',' ∨ c = ']' ∨ c = '}') : Ends (c :: rest) := by
  simpa [Ends] using h

theorem takeDigits_append (h : Ends rest) (cs : List Char) :
    (cs ++ rest).takeWhile Char.isDigit = cs.takeWhile Char.isDigit ∧
      (cs ++ rest).dropWhile Char.isDigit = cs.dropWhile Char.isDigit ++ rest := by
  induction cs with
  | nil =>
    cases rest with
    | nil => exact ⟨rfl, rfl⟩
    | cons c rest =>
      have hc : c.isDigit = false := by
        rcases h c rfl with rfl | rfl | rfl <;> decide
      simp [hc]
  | cons c cs ih =>
    by_cases hc : c.isDigit = true
    · simp [hc, ih]
    · simp [hc]

theorem takeWhole_of_ne {c : Char} (hc : c ≠ '0') (cs : List Char) :
    takeWhole (c :: cs) =
      ((c :: cs).takeWhile Char.isDigit, (c :: cs).dropWhile Char.isDigit) := by
  simp [takeWhole, hc]

theorem takeWhole_append (h : Ends rest) (cs : List Char) :
    takeWhole (cs ++ rest) = ((takeWhole cs).1, (takeWhole cs).2 ++ rest) := by
  have hdigits := takeDigits_append h cs
  cases cs with
  | nil =>
    cases rest with
    | nil => rfl
    | cons c rest => rcases h c rfl with rfl | rfl | rfl <;> rfl
  | cons c cs =>
    by_cases hc : c = '0'
    · subst hc
      rfl
    · rw [List.cons_append] at hdigits ⊢
      rw [takeWhole_of_ne hc, takeWhole_of_ne hc, hdigits.1, hdigits.2]

theorem takeFraction_append (h : Ends rest) (cs : List Char) :
    takeFraction (cs ++ rest) = ((takeFraction cs).1, (takeFraction cs).2 ++ rest) := by
  cases cs with
  | nil =>
    cases rest with
    | nil => rfl
    | cons c rest => rcases h c rfl with rfl | rfl | rfl <;> rfl
  | cons c cs =>
    by_cases hc : c = '.'
    · subst hc
      obtain ⟨htake, hdrop⟩ := takeDigits_append h cs
      simp only [List.cons_append, takeFraction, htake, hdrop]
    · simp [takeFraction, hc]

theorem takeSign_append (h : Ends rest) (cs : List Char) :
    takeSign (cs ++ rest) = ((takeSign cs).1, (takeSign cs).2 ++ rest) := by
  cases cs with
  | nil =>
    cases rest with
    | nil => rfl
    | cons c rest => rcases h c rfl with rfl | rfl | rfl <;> rfl
  | cons c cs =>
    by_cases hminus : c = '-'
    · subst hminus
      rfl
    by_cases hplus : c = '+'
    · subst hplus
      rfl
    · simp [takeSign, hminus, hplus]

theorem takeExponent_append (h : Ends rest) (cs : List Char) :
    takeExponent (cs ++ rest) = ((takeExponent cs).1, (takeExponent cs).2 ++ rest) := by
  cases cs with
  | nil =>
    cases rest with
    | nil => rfl
    | cons c rest => rcases h c rfl with rfl | rfl | rfl <;> rfl
  | cons c cs =>
    simp only [List.cons_append, takeExponent, takeSign_append h]
    split
    · obtain ⟨htake, hdrop⟩ := takeDigits_append h (takeSign cs).2
      unfold leadingDigits?
      rw [htake, hdrop]
      split <;> rfl
    · rfl

theorem readUnsigned_append (h : Ends rest) (negative : Bool) (cs : List Char) :
    readUnsigned negative (cs ++ rest) =
      (readUnsigned negative cs).map fun (n, behind) => (n, behind ++ rest) := by
  simp only [readUnsigned, takeWhole_append h, takeFraction_append h, takeExponent_append h]
  by_cases hnone : (takeWhole cs).1 = [] ∨ (takeFraction (takeWhole cs).2).1 = some []
  · rw [if_pos hnone, if_pos hnone]
    rfl
  · rw [if_neg hnone, if_neg hnone, Option.map_map]
    rfl

theorem readNumber_of_ne {c : Char} (hc : c ≠ '-') (cs : List Char) :
    readNumber (c :: cs) = readUnsigned false (c :: cs) := by
  simp [readNumber, hc]

theorem readNumber_append (h : Ends rest) (cs : List Char) :
    readNumber (cs ++ rest) = (readNumber cs).map fun (n, behind) => (n, behind ++ rest) := by
  cases cs with
  | nil =>
    cases rest with
    | nil => rfl
    | cons c rest =>
      have hc : c ≠ '-' := by rcases h c rfl with rfl | rfl | rfl <;> decide
      rw [List.nil_append, readNumber_of_ne hc]
      exact readUnsigned_append h false []
  | cons c cs =>
    by_cases hc : c = '-'
    · subst hc
      exact readUnsigned_append h true cs
    · rw [List.cons_append, readNumber_of_ne hc, readNumber_of_ne hc]
      exact readUnsigned_append h false (c :: cs)

theorem head_of_readNumber {cs : List Char} {found : Number × List Char}
    (h : readNumber cs = some found) :
    ∃ c later, cs = c :: later ∧ (c = '-' ∨ c.isDigit = true) := by
  cases cs with
  | nil => simp [readNumber, readUnsigned, takeWhole] at h
  | cons c cs =>
    refine ⟨c, cs, rfl, ?_⟩
    by_cases hminus : c = '-'
    · exact .inl hminus
    right
    by_cases hzero : c = '0'
    · subst hzero
      decide
    rw [readNumber_of_ne hminus, readUnsigned, takeWhole_of_ne hzero] at h
    by_cases hdigit : c.isDigit = true
    · exact hdigit
    · simp [hdigit] at h

theorem takeWhole_natDigits (n : Nat) : takeWhole (natDigits n) = (natDigits n, []) := by
  by_cases hzero : n = 0
  · rw [hzero, natDigits_zero]
    rfl
  · obtain ⟨c, cs, hdigits, hc⟩ := natDigits_head hzero
    have hall : ∀ d ∈ natDigits n, d.isDigit = true := fun _ => isDigit_of_mem_natDigits
    have htake := @List.takeWhile_append_of_pos Char Char.isDigit (natDigits n) [] hall
    have hdrop := @List.dropWhile_append_of_pos Char Char.isDigit (natDigits n) [] hall
    simp only [List.append_nil, List.takeWhile_nil, List.dropWhile_nil] at htake hdrop
    rw [hdigits] at htake hdrop ⊢
    rw [takeWhole_of_ne hc, htake, hdrop]

theorem readUnsigned_natDigits {negative : Bool} {n : Nat} {i : Int} (fits : FitsWord i)
    (hvalue : (if negative then -(n : Int) else n) = i) (hzero : ¬ (negative = true ∧ i = 0)) :
    readUnsigned negative (natDigits n) = some (.integer i fits, []) := by
  have hparts : Number.ofParts? negative (natDigits n) none none = some (.integer i fits) := by
    unfold Number.ofParts?
    simp only [digitsValue_natDigits, hvalue]
    rw [dif_pos ⟨fits, hzero, by simp, by simp⟩]
  unfold readUnsigned
  rw [takeWhole_natDigits]
  simp [takeFraction, takeExponent, natDigits_ne_nil, hparts]

theorem readNumber_intDigits (i : Int) (fits : FitsWord i) :
    readNumber (intDigits i) = some (.integer i fits, []) := by
  obtain ⟨hnegative, htext⟩ | ⟨hpositive, htext⟩ := intDigits_cases i
  · rw [htext]
    apply readUnsigned_natDigits fits
    · rw [if_pos rfl]
      omega
    · omega
  · obtain ⟨c, cs, hdigits⟩ := List.exists_cons_of_ne_nil (natDigits_ne_nil i.natAbs)
    have hc : c ≠ '-' := by
      have hdigit : c.isDigit = true := isDigit_of_mem_natDigits (n := i.natAbs) (by simp [hdigits])
      rintro rfl
      revert hdigit
      decide
    rw [htext, hdigits, readNumber_of_ne hc, ← hdigits]
    apply readUnsigned_natDigits fits
    · simp only [Bool.false_eq_true, if_false]
      omega
    · simp

end RecordMapper.Json
