import RecordMapper.Proofs.Identifier.Accepts
import RecordMapper.Proofs.Placeholder.Scan
import RecordMapper.SqlValue

/-!
What stands in statements verbatim: names, whatever their quotes enclose, and the literals of all
values but texts.
-/

namespace RecordMapper

open Postgres

namespace Identifier

def Place.quote : Place → Option Char
  | .quoted _ => some '"'
  | .start | .word | .closed => none

theorem harmless_of_isWordChar {c : Char} (h : isWordChar c = true) : Harmless c := by
  constructor
  · rintro rfl
    revert h
    decide
  · unfold openedQuote?
    rw [if_neg]
    rintro (rfl | rfl) <;> revert h <;> decide

theorem Accepts.verbatimFrom {place : Place} {cs : List Char} (h : Accepts place cs) :
    VerbatimFrom place.quote cs := by
  induction h with
  | openQuote _ ih => exact .cons (not_isPlaceholder_of_ne _ (by decide)) ih
  | firstChar hstart _ ih =>
    exact (harmless_of_isWordChar (isWordChar_of_isWordStart hstart)).verbatim_cons ih
  | wordEnd => exact verbatim_nil
  | wordPoint _ ih => exact .cons (not_isPlaceholder_of_ne _ (by decide)) ih
  | wordChar hword _ ih => exact (harmless_of_isWordChar hword).verbatim_cons ih
  | quotedQuote _ ih =>
    -- the first of the two quotes ends the quoted text, the second one opens it again
    have hquote (quote : Option Char) := not_isPlaceholder_of_ne quote (c := '"') (by decide)
    exact .cons (hquote _) (.cons (hquote _) ih)
  | quotedChar hquote _ ih =>
    refine .cons (not_isPlaceholder_some _ _) ?_
    rw [Place.quote, quoteBehind, if_neg hquote]
    exact ih
  | closeQuote _ ih => exact .cons (not_isPlaceholder_some _ _) ih
  | closedEnd => exact verbatim_nil
  | closedPoint _ ih => exact .cons (not_isPlaceholder_of_ne _ (by decide)) ih

theorem Valid.verbatim {name : List Char} (h : Valid name) : Verbatim name :=
  h.accepts.verbatimFrom

end Identifier

theorem harmless_of_all {cs : List Char} (h : cs.all (Harmless ·) = true) :
    ∀ c ∈ cs, Harmless c := by
  intro c hc
  exact of_decide_eq_true (List.all_eq_true.1 h c hc)

theorem harmless_of_isDigit {c : Char} (h : c.isDigit = true) : Harmless c := by
  apply Identifier.harmless_of_isWordChar
  simp [Identifier.isWordChar, Char.isAlphanum, h]

theorem harmless_natDigits (n : Nat) : ∀ c ∈ natDigits n, Harmless c := by
  intro c hc
  exact harmless_of_isDigit (Nat.isDigit_of_mem_toDigits (by decide) (by decide) hc)

theorem harmless_intDigits (i : Int) : ∀ c ∈ intDigits i, Harmless c := by
  unfold intDigits
  split
  · exact List.forall_mem_cons.2 ⟨by decide, harmless_natDigits _⟩
  · exact harmless_natDigits _

namespace Layout

variable (layout : Layout) {digits : List Char} (exponent : Int)

theorem harmless_plainText (h : ∀ c ∈ digits, Harmless c) :
    ∀ c ∈ layout.plainText digits exponent, Harmless c := by
  have hzeros (n : Nat) : ∀ c ∈ List.replicate n '0', Harmless c := by
    intro c hc
    cases List.eq_of_mem_replicate hc
    decide
  unfold plainText
  dsimp only
  split
  · rw [List.cons_append, List.cons_append, List.forall_mem_cons, List.forall_mem_cons,
      List.forall_mem_append]
    exact ⟨by decide, by decide, hzeros _, h⟩
  · split
    · rw [List.forall_mem_append, List.forall_mem_append]
      refine ⟨⟨h, hzeros _⟩, ?_⟩
      split <;> exact harmless_of_all rfl
    · rw [List.forall_mem_append, List.forall_mem_cons]
      exact ⟨fun c hc => h c (List.mem_of_mem_take hc), by decide,
        fun c hc => h c (List.mem_of_mem_drop hc)⟩

theorem harmless_scientificText (h : ∀ c ∈ digits, Harmless c) :
    ∀ c ∈ layout.scientificText digits exponent, Harmless c := by
  unfold scientificText
  dsimp only
  repeat rw [List.forall_mem_append]
  refine ⟨⟨⟨⟨fun c hc => h c (List.mem_of_mem_take hc), ?_⟩,
    fun c hc => h c (List.mem_of_mem_drop hc)⟩, ?_⟩, harmless_intDigits _⟩
  · split <;> exact harmless_of_all rfl
  · rw [List.forall_mem_cons]
    refine ⟨by decide, ?_⟩
    split <;> exact harmless_of_all rfl

theorem harmless_decimalText (d : Decimal) : ∀ c ∈ layout.decimalText d, Harmless c := by
  have hunsigned (exponent : Int) : ∀ c ∈
      if layout.plain exponent then layout.plainText (natDigits d.digits) exponent
      else layout.scientificText (natDigits d.digits) exponent, Harmless c := by
    split
    · exact layout.harmless_plainText exponent (harmless_natDigits _)
    · exact layout.harmless_scientificText exponent (harmless_natDigits _)
  unfold decimalText
  dsimp only
  split
  · exact List.forall_mem_cons.2 ⟨by decide, hunsigned _⟩
  · exact hunsigned _

theorem harmless_text {f : BinaryFormat} (x : Binary f) : ∀ c ∈ layout.text x, Harmless c := by
  cases x with
  | finite x => exact layout.harmless_decimalText _
  | infinite negative =>
    rw [text]
    split <;> exact harmless_of_all rfl
  | nan _ =>
    rw [text]
    exact harmless_of_all rfl

end Layout

theorem SqlValue.verbatim_literal (value : SqlValue)
    (h : ∀ text, value = .text text → Verbatim text.toList) : Verbatim value.literal.toList := by
  cases value with
  | null => decide
  | bool value => cases value <;> decide
  | int value =>
    rw [literal, intText, String.toList_ofList]
    exact verbatim_of_harmless (harmless_intDigits _)
  | float value =>
    rw [literal, floatText, String.toList_ofList]
    exact verbatim_of_harmless (Layout.display.harmless_text value)
  | text value => exact h value rfl

end RecordMapper
