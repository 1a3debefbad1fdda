import RecordMapper.Json.Members

/-!
Members in order. What is put together by name is in order, has what it was given, and is the only
list in order that has it.
-/

namespace RecordMapper.Members

variable {α : Type} {members : Members α} {name : String} {value : α}

theorem name_insert {member : String × α} (h : member ∈ members.insert name value) :
    member.1 = name ∨ member ∈ members := by
  induction members with
  | nil =>
    cases List.mem_singleton.1 h
    exact .inl rfl
  | cons first members ih =>
    obtain ⟨other, kept⟩ := first
    unfold insert at h
    split at h
    · rcases List.mem_cons.1 h with rfl | h
      · exact .inl rfl
      · exact .inr h
    · split at h
      · rcases List.mem_cons.1 h with rfl | h
        · exact .inl rfl
        · exact .inr (List.mem_cons_of_mem _ h)
      · rcases List.mem_cons.1 h with rfl | h
        · exact .inr List.mem_cons_self
        · rcases ih h with hname | hmember
          · exact .inl hname
          · exact .inr (List.mem_cons_of_mem _ hmember)

theorem Sorted.insert (h : members.Sorted) : (members.insert name value).Sorted := by
  induction members with
  | nil => simp [Members.insert, Sorted]
  | cons first members ih =>
    obtain ⟨other, kept⟩ := first
    obtain ⟨hfirst, hrest⟩ := List.pairwise_cons.1 h
    unfold Members.insert
    split
    · rename_i hless
      apply List.pairwise_cons.2 ⟨?_, h⟩
      intro member hmember
      rcases List.mem_cons.1 hmember with rfl | hmember
      · exact hless
      · exact String.lt_trans hless (hfirst member hmember)
    · rename_i hnot
      split
      · rename_i hsame
        subst hsame
        exact List.pairwise_cons.2 ⟨hfirst, hrest⟩
      · rename_i hother
        apply List.pairwise_cons.2 ⟨?_, ih hrest⟩
        intro member hmember
        rcases name_insert hmember with hname | hmember
        · rw [hname]
          apply Decidable.byContradiction
          intro hmore
          exact hother (String.le_antisymm (String.not_lt.1 hmore) (String.not_lt.1 hnot))
        · exact hfirst member hmember

theorem sorted_ofList (pairs : List (String × α)) : (ofList pairs).Sorted := by
  have hfold : ∀ members : Members α, members.Sorted →
      (pairs.foldl (fun members pair => members.insert pair.1 pair.2) members).Sorted := by
    induction pairs with
    | nil => exact fun _ h => h
    | cons pair pairs ih => exact fun members h => ih _ h.insert
  exact hfold [] .nil

theorem pairwise_ne_of_sorted (h : members.Sorted) : members.Pairwise fun a b => a.1 ≠ b.1 := by
  apply h.imp
  intro a b hless hsame
  rw [hsame] at hless
  exact String.lt_irrefl _ hless

theorem get?_eq_some_iff_first : members.get? name = some value ↔
    ∃ before after, members = before ++ (name, value) :: after ∧
      ∀ member ∈ before, member.1 ≠ name := by
  induction members with
  | nil => simp [get?]
  | cons first members ih =>
    obtain ⟨other, kept⟩ := first
    rw [get?]
    by_cases hsame : other = name
    · subst hsame
      rw [if_pos rfl]
      constructor
      · rintro ⟨⟩
        exact ⟨[], members, rfl, by simp⟩
      · rintro ⟨before, after, hmembers, hbefore⟩
        cases before with
        | nil =>
          cases hmembers
          rfl
        | cons head before =>
          cases hmembers
          exact absurd rfl (hbefore _ List.mem_cons_self)
    · rw [if_neg hsame, ih]
      constructor
      · rintro ⟨before, after, rfl, hbefore⟩
        exact ⟨(other, kept) :: before, after, rfl, List.forall_mem_cons.2 ⟨hsame, hbefore⟩⟩
      · rintro ⟨before, after, hmembers, hbefore⟩
        cases before with
        | nil =>
          cases hmembers
          exact absurd rfl hsame
        | cons head before =>
          cases hmembers
          exact ⟨before, after, rfl, (List.forall_mem_cons.1 hbefore).2⟩

theorem get?_eq_some_iff (h : members.Pairwise fun a b => a.1 ≠ b.1) :
    members.get? name = some value ↔ (name, value) ∈ members := by
  rw [get?_eq_some_iff_first]
  constructor
  · rintro ⟨before, after, rfl, -⟩
    simp
  · intro hmember
    obtain ⟨before, after, rfl⟩ := List.append_of_mem hmember
    refine ⟨before, after, rfl, fun member hbefore => ?_⟩
    exact (List.pairwise_append.1 h).2.2 member hbefore _ List.mem_cons_self

theorem Sorted.get?_eq_some_iff (h : members.Sorted) :
    members.get? name = some value ↔ (name, value) ∈ members :=
  Members.get?_eq_some_iff (pairwise_ne_of_sorted h)

theorem get?_append (members others : Members α) (name : String) :
    get? (members ++ others) name = (members.get? name).or (others.get? name) := by
  induction members with
  | nil => rfl
  | cons first members ih =>
    obtain ⟨other, kept⟩ := first
    rw [List.cons_append, get?, get?]
    split
    · rfl
    · exact ih

theorem get?_ofList (pairs : List (String × α)) (name : String) :
    (ofList pairs).get? name = get? pairs.reverse name := by
  have hfold : ∀ members : Members α,
      (pairs.foldl (fun members pair => members.insert pair.1 pair.2) members).get? name =
        get? (pairs.reverse ++ members) name := by
    induction pairs with
    | nil => exact fun _ => rfl
    | cons pair pairs ih =>
      intro members
      rw [List.foldl_cons, ih, List.reverse_cons, List.append_assoc, get?_append, get?_append,
        get?_insert]
      rfl
  rw [ofList, hfold, List.append_nil]

theorem mem_ofList_iff_last {pairs : List (String × α)} : (name, value) ∈ ofList pairs ↔
    ∃ before after, pairs = before ++ (name, value) :: after ∧ ∀ pair ∈ after, pair.1 ≠ name := by
  rw [← (sorted_ofList pairs).get?_eq_some_iff, get?_ofList, get?_eq_some_iff_first]
  constructor
  · rintro ⟨before, after, hpairs, hbefore⟩
    refine ⟨after.reverse, before.reverse, ?_, fun pair h => hbefore pair (List.mem_reverse.1 h)⟩
    rw [← List.reverse_reverse pairs, hpairs]
    simp
  · rintro ⟨before, after, rfl, hafter⟩
    exact ⟨after.reverse, before.reverse, by simp, fun pair h => hafter pair (List.mem_reverse.1 h)⟩

theorem get?_ofList_eq_some_iff {pairs : List (String × α)}
    (h : pairs.Pairwise fun a b => a.1 ≠ b.1) :
    (ofList pairs).get? name = some value ↔ (name, value) ∈ pairs := by
  have hreverse : pairs.reverse.Pairwise fun a b => a.1 ≠ b.1 :=
    List.pairwise_reverse.2 (h.imp fun hne => hne.symm)
  rw [get?_ofList, get?_eq_some_iff hreverse, List.mem_reverse]

theorem get?_eq_none_iff : members.get? name = none ↔ ∀ member ∈ members, member.1 ≠ name := by
  induction members with
  | nil => simp [get?]
  | cons first members ih =>
    obtain ⟨other, kept⟩ := first
    rw [get?, List.forall_mem_cons, ← ih]
    by_cases hsame : other = name
    · simp [hsame]
    · simp [hsame]

theorem exists_mem_ofList_iff {pairs : List (String × α)} :
    (∃ value, (name, value) ∈ ofList pairs) ↔ ∃ pair ∈ pairs, pair.1 = name := by
  have hfound : (∃ value, (name, value) ∈ ofList pairs) ↔ get? pairs.reverse name ≠ none := by
    rw [Option.ne_none_iff_exists']
    simp only [← (sorted_ofList pairs).get?_eq_some_iff, get?_ofList]
  rw [hfound, Ne, get?_eq_none_iff]
  simp

theorem Sorted.eq_of_mem_iff {others : Members α} (h : members.Sorted) (hothers : others.Sorted)
    (hsame : ∀ member, member ∈ members ↔ member ∈ others) : members = others := by
  induction members generalizing others with
  | nil =>
    cases others with
    | nil => rfl
    | cons other others => cases (hsame other).2 List.mem_cons_self
  | cons first members ih =>
    cases others with
    | nil => cases (hsame first).1 List.mem_cons_self
    | cons other others =>
      obtain ⟨hfirst, hmembers⟩ := List.pairwise_cons.1 h
      obtain ⟨hother, hrest⟩ := List.pairwise_cons.1 hothers
      have hheads : first = other := by
        rcases List.mem_cons.1 ((hsame first).1 List.mem_cons_self) with heq | hlater
        · exact heq
        rcases List.mem_cons.1 ((hsame other).2 List.mem_cons_self) with heq | hearlier
        · exact heq.symm
        · exact absurd (hfirst other hearlier) (String.lt_asymm (hother first hlater))
      subst hheads
      rw [ih hmembers hrest]
      intro member
      have hmember := hsame member
      simp only [List.mem_cons] at hmember
      constructor
      · intro hin
        rcases hmember.1 (.inr hin) with rfl | hin'
        · exact absurd (hfirst _ hin) (String.lt_irrefl _)
        · exact hin'
      · intro hin
        rcases hmember.2 (.inr hin) with rfl | hin'
        · exact absurd (hother _ hin) (String.lt_irrefl _)
        · exact hin'

theorem mem_ofList_iff {pairs : List (String × α)} (h : pairs.Pairwise fun a b => a.1 ≠ b.1)
    (member : String × α) : member ∈ ofList pairs ↔ member ∈ pairs := by
  rw [← (sorted_ofList pairs).get?_eq_some_iff, get?_ofList_eq_some_iff h]

theorem Sorted.ofList_eq (h : members.Sorted) : ofList members = members :=
  (sorted_ofList members).eq_of_mem_iff h (mem_ofList_iff (pairwise_ne_of_sorted h))

theorem ofList_congr {pairs others : List (String × α)} (h : pairs.Pairwise fun a b => a.1 ≠ b.1)
    (hothers : others.Pairwise fun a b => a.1 ≠ b.1)
    (hsame : ∀ pair, pair ∈ pairs ↔ pair ∈ others) : ofList pairs = ofList others := by
  apply (sorted_ofList pairs).eq_of_mem_iff (sorted_ofList others)
  intro member
  rw [mem_ofList_iff h, mem_ofList_iff hothers, hsame]

end RecordMapper.Members
