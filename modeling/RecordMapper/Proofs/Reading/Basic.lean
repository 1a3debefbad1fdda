import RecordMapper.Proofs.Identifier.Accepts

/-!
Texts that can be read off a longer text: two of them stand at the start of one text only when they
are equal. Some texts need an ending behind them for this. Identifiers do; and lists of such texts
can be read when their separator is an ending too.
-/

namespace RecordMapper

/-- Where a written text ends is known from the text alone. -/
def SelfDelimiting {α : Type} (write : α → List Char) : Prop :=
  ∀ ⦃a b : α⦄ ⦃x y : List Char⦄, write a ++ x = write b ++ y → a = b ∧ x = y

theorem SelfDelimiting.of_prefix {α : Type} {write : α → List Char}
    (h : ∀ a b, write a <+: write b → a = b) : SelfDelimiting write := by
  intro a b x y heq
  have hab : a = b := by
    rcases List.append_eq_append_iff.1 heq with ⟨z, hz, -⟩ | ⟨z, hz, -⟩
    · exact h a b ⟨z, hz.symm⟩
    · exact (h b a ⟨z, hz.symm⟩).symm
  subst hab
  exact ⟨rfl, List.append_cancel_left heq⟩

/-- Items are told apart, and from what stands behind them, when that is an ending. -/
def Readable (Item Ending : List Char → Prop) : Prop :=
  ∀ ⦃a b x y : List Char⦄, Item a → Item b → Ending x → Ending y → a ++ x = b ++ y → a = b ∧ x = y

theorem Identifier.readable : Readable Valid Ends :=
  fun _ _ _ _ ha hb hx hy h => ha.accepts.eq_of_append_eq hb.accepts hx hy h

variable {Item Ending : List Char → Prop} {separator : List Char}

/-- Lists of readable items can be read, up to an ending that is no separator. -/
theorem Readable.intercalate (readable : Readable Item Ending)
    (hseparator : ∀ rest, Ending (separator ++ rest)) {as bs : List (List Char)} {x y : List Char}
    (has : as ≠ []) (hbs : bs ≠ []) (hitems : ∀ a ∈ as, Item a) (hitems' : ∀ b ∈ bs, Item b)
    (hx : Ending x) (hy : Ending y) (hx' : ∀ rest, x ≠ separator ++ rest)
    (hy' : ∀ rest, y ≠ separator ++ rest)
    (h : separator.intercalate as ++ x = separator.intercalate bs ++ y) : as = bs ∧ x = y := by
  induction as generalizing bs with
  | nil => exact absurd rfl has
  | cons a as ih =>
    rcases List.forall_mem_cons.1 hitems with ⟨ha, htail⟩
    cases bs with
    | nil => exact absurd rfl hbs
    | cons b bs =>
      rcases List.forall_mem_cons.1 hitems' with ⟨hb, htail'⟩
      cases as with
      | nil =>
        rw [List.intercalate_singleton] at h
        cases bs with
        | nil =>
          rw [List.intercalate_singleton] at h
          rcases readable ha hb hx hy h with ⟨rfl, rfl⟩
          exact ⟨rfl, rfl⟩
        | cons b' bs =>
          rw [List.intercalate_cons_cons, List.append_assoc, List.append_assoc] at h
          exact absurd (readable ha hb hx (hseparator _) h).2 (hx' _)
      | cons a' as =>
        rw [List.intercalate_cons_cons, List.append_assoc, List.append_assoc] at h
        cases bs with
        | nil =>
          rw [List.intercalate_singleton] at h
          exact absurd (readable ha hb (hseparator _) hy h).2.symm (hy' _)
        | cons b' bs =>
          rw [List.intercalate_cons_cons, List.append_assoc, List.append_assoc] at h
          rcases readable ha hb (hseparator _) (hseparator _) h with ⟨rfl, hrest⟩
          rcases ih (List.cons_ne_nil _ _) (List.cons_ne_nil _ _) htail htail'
            (List.append_cancel_left hrest) with ⟨heq, rfl⟩
          exact ⟨congrArg (a :: ·) heq, rfl⟩

end RecordMapper
