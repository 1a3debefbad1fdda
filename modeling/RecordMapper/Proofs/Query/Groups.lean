import RecordMapper.Proofs.Query.Calls
import RecordMapper.Proofs.Query.Template

/-!
The groups of a query. Those that are open after restrictions are those that were opened less those
that were closed, and a query with a projection and a source in order is refused for open groups
only.
-/

namespace RecordMapper

namespace Assembler

def Call.opens : Call → Bool
  | .openGroup => true
  | .add _ | .conjoin _ | .closeGroup => false

def Call.closes : Call → Bool
  | .closeGroup => true
  | .add _ | .conjoin _ | .openGroup => false

theorem depth_apply {assembler next : Assembler} {call : Call}
    (h : assembler.apply call = .ok next) :
    next.depth + (if call.closes then 1 else 0) =
      assembler.depth + (if call.opens then 1 else 0) := by
  rcases assembler with ⟨level, outer⟩
  cases call with
  | add condition =>
    obtain ⟨joined, -, rfl⟩ := Outcome.map_eq_ok_iff.1 h
    rfl
  | conjoin conjunction =>
    cases Except.ok.inj h
    rfl
  | openGroup =>
    cases Except.ok.inj h
    rfl
  | closeGroup =>
    rcases outer with _ | ⟨around, outer⟩
    · cases h
    rcases level with ⟨_ | inner, conjunction⟩
    · cases Except.ok.inj h
      rfl
    · obtain ⟨joined, -, rfl⟩ := Outcome.map_eq_ok_iff.1 h
      rfl

end Assembler

namespace SelectQuery

def Restriction.opens : Restriction → Bool
  | .assemble call => call.opens
  | .filter _ _ _ | .filterLiteral _ _ _ => false

def Restriction.closes : Restriction → Bool
  | .assemble call => call.closes
  | .filter _ _ _ | .filterLiteral _ _ _ => false

variable {query next : SelectQuery} {restriction : Restriction}

/-- What a restriction leaves as it is, and what it does to the groups. -/
structure Restricts (query : SelectQuery) (restriction : Restriction) (next : SelectQuery) :
    Prop where
  columns_eq : next.columns = query.columns
  table_eq : next.table = query.table
  depth_add : next.conditions.depth + (if restriction.closes then 1 else 0) =
    query.conditions.depth + (if restriction.opens then 1 else 0)

theorem restricts_of_assemble {call : Assembler.Call} (hopens : call.opens = restriction.opens)
    (hcloses : call.closes = restriction.closes) (h : query.assemble call = .ok next) :
    query.Restricts restriction next := by
  unfold assemble at h
  split at h
  · next conditions happly =>
    cases Except.ok.inj h
    exact ⟨rfl, rfl, hopens ▸ hcloses ▸ Assembler.depth_apply happly⟩
  · cases h

theorem restricts_of_restrict (h : query.restrict restriction = .ok next) :
    query.Restricts restriction next := by
  cases restriction with
  | filter operand operator value =>
    obtain ⟨condition, -, h⟩ := Outcome.bind_eq_ok_iff.1 h
    exact restricts_of_assemble rfl rfl h
  | filterLiteral operand operator value =>
    obtain ⟨condition, -, h⟩ := Outcome.bind_eq_ok_iff.1 h
    exact restricts_of_assemble rfl rfl h
  | assemble call => exact restricts_of_assemble rfl rfl h

def replay (query : SelectQuery) (restrictions : List Restriction) : SelectQuery :=
  (restrictions.map Call.restrict).foldl take query

def succeeding (query : SelectQuery) : List Restriction → List Restriction
  | [] => []
  | restriction :: restrictions =>
    match query.restrict restriction with
    | .ok next => restriction :: next.succeeding restrictions
    | .error _ => query.succeeding restrictions

/-- The groups that restrictions open and leave open; those that fail open and close none. -/
def groupsLeft (query : SelectQuery) (restrictions : List Restriction) : Nat :=
  (query.succeeding restrictions).countP Restriction.opens -
    (query.succeeding restrictions).countP Restriction.closes

theorem take_restrict_of_ok (h : query.restrict restriction = .ok next) :
    query.take (.restrict restriction) = next := by
  simp only [take, make, h]

theorem take_restrict_of_error {fault : Fault} (h : query.restrict restriction = .error fault) :
    query.take (.restrict restriction) = query := by
  simp only [take, make, h]

theorem replay_spec (query : SelectQuery) (restrictions : List Restriction) :
    (query.replay restrictions).columns = query.columns ∧
      (query.replay restrictions).table = query.table ∧
      (query.replay restrictions).conditions.depth +
          (query.succeeding restrictions).countP Restriction.closes =
        query.conditions.depth + (query.succeeding restrictions).countP Restriction.opens := by
  induction restrictions generalizing query with
  | nil => exact ⟨rfl, rfl, rfl⟩
  | cons restriction restrictions ih =>
    have hreplay : query.replay (restriction :: restrictions) =
      (query.take (.restrict restriction)).replay restrictions := rfl
    cases h : query.restrict restriction with
    | error fault =>
      rw [hreplay, take_restrict_of_error h, succeeding, h]
      exact ih query
    | ok next =>
      obtain ⟨hcolumns, htable, hdepth⟩ := restricts_of_restrict h
      obtain ⟨hcolumns', htable', hdepth'⟩ := ih next
      rw [hreplay, take_restrict_of_ok h, succeeding, h]
      refine ⟨hcolumns'.trans hcolumns, htable'.trans htable, ?_⟩
      rw [List.countP_cons, List.countP_cons]
      omega

theorem depth_replay (hdepth : query.conditions.depth = 0) (restrictions : List Restriction) :
    (query.replay restrictions).conditions.depth = query.groupsLeft restrictions := by
  obtain ⟨-, -, h⟩ := query.replay_spec restrictions
  unfold groupsLeft
  omega

/-- A query of every column of a table is refused when groups are open, and for nothing else. -/
theorem build_eq_error_iff {name : Identifier} {fault : Fault} (hcolumns : query.columns = ["*"])
    (htable : query.table = some name.text) :
    query.build = .error fault ↔
      query.conditions.depth ≠ 0 ∧
        fault = .usage (.unclosedGroup query.conditions.depth) := by
  by_cases hclosed : query.conditions.outer = []
  · have hbuilds : query.Builds _ name.text _ :=
      { columns_ne_nil := by simp [hcolumns]
        source := htable
        table_valid := name.valid
        columns_checked := by simp [hcolumns, checkProjection]
        closed := hclosed
        condition_eq := rfl
        template_eq := rfl }
    rw [hbuilds.build_eq_ok]
    constructor
    · rintro ⟨⟩
    · rintro ⟨hdepth, -⟩
      exact absurd (congrArg List.length hclosed) hdepth
  · have hrefused : query.build = .error (.usage (.unclosedGroup query.conditions.depth)) := by
      have hname : Identifier.ofText "table" name.text = .ok name :=
        Identifier.ofText_eq_ok_iff.2 rfl
      unfold build template Assembler.build
      simp only [hcolumns, htable, hname, if_neg hclosed]
      rfl
    have hdepth : query.conditions.depth ≠ 0 := fun h => hclosed (List.length_eq_zero_iff.1 h)
    rw [hrefused]
    constructor
    · intro h
      exact ⟨hdepth, (Except.error.inj h).symm⟩
    · rintro ⟨-, rfl⟩
      rfl

end SelectQuery

end RecordMapper
