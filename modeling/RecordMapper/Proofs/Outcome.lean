/-!
Opening computations that may fail: what is known when a chain of them succeeds.
-/

namespace RecordMapper.Outcome

variable {ε α β : Type}

theorem map_eq_ok_iff {f : α → β} {result : Except ε α} {b : β} :
    result.map f = .ok b ↔ ∃ a, result = .ok a ∧ f a = b := by
  cases result <;> simp [Except.map]

theorem bind_eq_ok_iff {f : α → Except ε β} {result : Except ε α} {b : β} :
    result >>= f = .ok b ↔ ∃ a, result = .ok a ∧ f a = .ok b := by
  cases result <;> simp [bind, Except.bind]

theorem forM_eq_ok_iff {check : α → Except ε Unit} {list : List α} :
    list.forM check = .ok () ↔ ∀ a ∈ list, check a = .ok () := by
  rw [List.forM_eq_forM]
  induction list with
  | nil => simp [pure, Except.pure]
  | cons a list ih =>
    rw [List.forM_cons, bind_eq_ok_iff, List.forall_mem_cons, ← ih]
    constructor
    · rintro ⟨_, hfirst, hrest⟩
      exact ⟨hfirst, hrest⟩
    · rintro ⟨hfirst, hrest⟩
      exact ⟨_, hfirst, hrest⟩

theorem mapM_eq_ok {list : List α} {f : α → Except ε β} {g : α → β}
    (h : ∀ a ∈ list, f a = .ok (g a)) : list.mapM f = .ok (list.map g) := by
  induction list with
  | nil => rfl
  | cons a list ih =>
    rw [List.mapM_cons, h a List.mem_cons_self, ih fun b hb => h b (List.mem_cons_of_mem _ hb)]
    rfl

theorem mapM_eq_elim {list : List α} {f : α → Except ε β} {fault? : α → Option ε} {g : α → β}
    (h : ∀ a, f a = (fault? a).elim (.ok (g a)) .error) :
    list.mapM f = (list.findSome? fault?).elim (.ok (list.map g)) .error := by
  induction list with
  | nil => rfl
  | cons a list ih =>
    rw [List.mapM_cons, h a, ih, List.findSome?_cons]
    cases fault? a with
    | some fault => rfl
    | none => cases list.findSome? fault? <;> rfl

end RecordMapper.Outcome
