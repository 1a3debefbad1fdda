import RecordMapper.Proofs.Assembly.Leaves
import RecordMapper.Proofs.Reading.Comparison
import RecordMapper.SelectQuery

/-!
Queries as they are made, call by call. As long as every comparison that is added binds its value,
every comparison of the query does.
-/

namespace RecordMapper.SelectQuery

inductive Call where
  | select (columns : List String)
  | source (table : String)
  | restrict (restriction : Restriction)
  | reset

def make (query : SelectQuery) : Call → Except Fault SelectQuery
  | .select columns => .ok (query.select columns)
  | .source table => .ok (query.source table)
  | .restrict restriction => query.restrict restriction
  | .reset => .ok query.reset

def take (query : SelectQuery) (call : Call) : SelectQuery :=
  match query.make call with
  | .ok next => next
  | .error _ => query

def after (calls : List Call) : SelectQuery :=
  calls.foldl take .empty

/-- Whether a call adds no value that stands in the text. -/
def Call.Bound : Call → Prop
  | .restrict (.filterLiteral _ _ _) => False
  | .restrict (.assemble call) => ∀ condition ∈ call.added, condition.Bound
  | .restrict (.filter _ _ _) | .select _ | .source _ | .reset => True

/-- Every value of the query is bound, in the groups that are still open too. -/
def Bound (query : SelectQuery) : Prop :=
  ∀ comparison ∈ query.conditions.leaves, comparison.bound = true

theorem bound_empty : empty.Bound := by
  intro comparison hmem
  cases hmem

theorem Bound.assemble {query next : SelectQuery} {call : Assembler.Call} (bound : query.Bound)
    (hcall : ∀ condition ∈ call.added, condition.Bound) (h : query.assemble call = .ok next) :
    next.Bound := by
  unfold SelectQuery.assemble at h
  split at h
  · next conditions happly =>
    cases Except.ok.inj h
    intro comparison hmem
    rw [Assembler.leaves_apply happly, List.mem_append, List.mem_flatMap] at hmem
    rcases hmem with hmem | ⟨condition, hcondition, hmem⟩
    · exact bound comparison hmem
    · exact hcall condition hcondition comparison hmem
  · cases h

theorem Bound.make {query next : SelectQuery} {call : Call} (bound : query.Bound)
    (hcall : call.Bound) (h : query.make call = .ok next) : next.Bound := by
  rcases call with columns | table | (⟨operand, operator, value⟩ | _ | call) | _
  · cases Except.ok.inj h
    exact bound
  · cases Except.ok.inj h
    exact bound
  · rcases Outcome.bind_eq_ok_iff.1 h with ⟨condition, hcompare, h⟩
    rcases Outcome.map_eq_ok_iff.1 hcompare with ⟨name, -, rfl⟩
    refine bound.assemble (fun condition hcondition comparison hmem => ?_) h
    cases List.mem_singleton.1 hcondition
    cases List.mem_singleton.1 hmem
    rfl
  · exact hcall.elim
  · exact bound.assemble hcall h
  · cases Except.ok.inj h
    rw [reset_eq_empty]
    exact bound_empty

theorem Bound.take {query : SelectQuery} {call : Call} (bound : query.Bound) (hcall : call.Bound) :
    (query.take call).Bound := by
  unfold SelectQuery.take
  split
  · next next h => exact bound.make hcall h
  · exact bound

theorem bound_after {calls : List Call} (h : ∀ call ∈ calls, call.Bound) : (after calls).Bound :=
  List.foldlRecOn calls SelectQuery.take bound_empty fun _ bound call hcall =>
    bound.take (h call hcall)

theorem Bound.current {query : SelectQuery} (bound : query.Bound) :
    ∀ condition ∈ query.conditions.current?, condition.Bound := by
  rcases query with ⟨columns, table, ⟨⟨current, conjunction⟩, outer⟩⟩
  rintro condition hcondition comparison hmem
  obtain rfl : current = some condition := hcondition
  refine bound comparison ?_
  rw [Assembler.leaves_mk]
  exact List.mem_append_right _ hmem

end RecordMapper.SelectQuery
