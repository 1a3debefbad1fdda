import RecordMapper.Condition.InPlace
import RecordMapper.Proofs.Condition.Leaves
import RecordMapper.Proofs.Outcome

/-!
What an assembler holds after any steps: the comparisons of the conditions that were added since it
was last cleared, each once and in the order of the calls, spread over the levels from the outermost
one in. A step that fails leaves the assembler as it was.
-/

namespace RecordMapper

namespace Level

def leaves (level : Level) : List Comparison :=
  level.condition.elim [] Condition.leaves

@[simp] theorem leaves_none (conjunction : Option Conjunction) : leaves ⟨none, conjunction⟩ = [] :=
  rfl

@[simp] theorem leaves_some (condition : Condition) (conjunction : Option Conjunction) :
    leaves ⟨some condition, conjunction⟩ = condition.leaves := rfl

theorem leaves_join {level next : Level} {condition : Condition}
    (h : level.join condition = .ok next) : next.leaves = level.leaves ++ condition.leaves := by
  rcases level with ⟨_ | left, _ | conjunction⟩
  · cases Except.ok.inj h
    rfl
  · cases Except.ok.inj h
    rfl
  · cases h
  · cases Except.ok.inj h
    rfl

end Level

namespace Assembler

def levels (assembler : Assembler) : List Level :=
  assembler.outer.reverse ++ [assembler.level]

def leaves (assembler : Assembler) : List Comparison :=
  assembler.levels.flatMap Level.leaves

theorem leaves_mk (level : Level) (outer : List Level) :
    leaves ⟨level, outer⟩ = outer.reverse.flatMap Level.leaves ++ level.leaves := by
  simp [leaves, levels]

def Call.added : Call → List Condition
  | .add condition => [condition]
  | .conjoin _ | .openGroup | .closeGroup => []

theorem leaves_apply {assembler next : Assembler} {call : Call}
    (h : assembler.apply call = .ok next) :
    next.leaves = assembler.leaves ++ call.added.flatMap Condition.leaves := by
  rcases assembler with ⟨level, outer⟩
  cases call with
  | add condition =>
    rcases Outcome.map_eq_ok_iff.1 h with ⟨joined, hjoined, rfl⟩
    rw [leaves_mk, Level.leaves_join hjoined, leaves_mk, ← List.append_assoc]
    simp [Call.added]
  | conjoin conjunction =>
    cases Except.ok.inj h
    rw [conjoin, leaves_mk, leaves_mk, Call.added, List.flatMap_nil, List.append_nil]
    rfl
  | openGroup =>
    cases Except.ok.inj h
    simp [openGroup, leaves_mk, Call.added, Level.empty]
  | closeGroup =>
    rcases outer with _ | ⟨around, outer⟩
    · cases h
    rcases level with ⟨_ | inner, conjunction⟩
    · -- nothing was added since the group was opened
      cases Except.ok.inj h
      simp [leaves_mk, Call.added]
    · rcases Outcome.map_eq_ok_iff.1 h with ⟨joined, hjoined, rfl⟩
      rw [leaves_mk, Level.leaves_join hjoined]
      simp [leaves_mk, Call.added, Condition.leaves]

inductive Step where
  | make (call : Call)
  | build
  | reset

def Step.runOn (step : Step) (assembler : Assembler) : Except UsageFault Unit × Assembler :=
  match step with
  | .make call => call.edit.runOn assembler
  | .build => (assembler.build.map fun _ => (), assembler)
  | .reset => (.ok (), assembler.reset)

theorem Step.eq_of_fails {step : Step} {assembler next : Assembler} {fault : UsageFault}
    (h : step.runOn assembler = (.error fault, next)) : next = assembler := by
  cases step with
  | make call =>
    rw [runOn, run_edit, outcome] at h
    split at h
    · cases h
    · exact (congrArg Prod.snd h).symm
  | build =>
    rw [runOn] at h
    exact (congrArg Prod.snd h).symm
  | reset => cases h

/-- An assembler, and the conditions that were added since it was last cleared. -/
structure History where
  assembler : Assembler
  added : List Condition

namespace History

def addedBy (added : List Condition) : Step → Except UsageFault Unit → List Condition
  | .make call, .ok _ => added ++ call.added
  | .make _, .error _ => added
  | .build, _ => added
  | .reset, _ => []

def take (history : History) (step : Step) : History :=
  let (result, assembler) := step.runOn history.assembler
  ⟨assembler, addedBy history.added step result⟩

def after (steps : List Step) : History :=
  steps.foldl take ⟨.empty, []⟩

/-- The assembler holds what was added, nothing else, and in this order. -/
def Kept (history : History) : Prop :=
  history.assembler.leaves = history.added.flatMap Condition.leaves

theorem take_make (history : History) (call : Call) :
    history.take (.make call) =
      match history.assembler.apply call with
      | .ok next => ⟨next, history.added ++ call.added⟩
      | .error _ => history := by
  unfold take
  rw [Step.runOn, run_edit, outcome]
  cases history.assembler.apply call <;> rfl

theorem Kept.take {history : History} (kept : history.Kept) (step : Step) :
    (history.take step).Kept := by
  cases step with
  | make call =>
    rw [take_make]
    cases happly : history.assembler.apply call with
    | ok next =>
      unfold Kept
      rw [leaves_apply happly, kept, List.flatMap_append]
    | error fault => exact kept
  | build => exact kept
  | reset => rfl

theorem kept_after (steps : List Step) : (after steps).Kept :=
  List.foldlRecOn steps History.take rfl fun _ kept step _ => kept.take step

end History

theorem parameters_compile (assembler : Assembler) :
    assembler.compile.map Statement.parameters =
      if assembler.depth = 0 then .ok (assembler.leaves.filterMap Comparison.parameter?)
      else .error (.unclosedGroup assembler.depth) := by
  rcases assembler with ⟨⟨condition, conjunction⟩, _ | ⟨around, outer⟩⟩
  · cases condition with
    | none => rfl
    | some condition =>
      have hleaves : leaves ⟨⟨some condition, conjunction⟩, []⟩ = condition.leaves := by
        simp [leaves_mk]
      rw [hleaves, ← condition.parameters_template]
      rfl
  · rfl

/-- No step loses, doubles or moves a comparison. After any steps the levels hold, from the
outermost one in, the comparisons of the conditions whose addition succeeded since the assembler was
last cleared; a step that fails leaves the assembler as it was; and the compiled condition binds the
values of just these comparisons. -/
theorem leaves_after (steps : List Step) :
    let history := History.after steps
    let held := history.added.flatMap Condition.leaves
    history.assembler.levels.flatMap Level.leaves = held ∧
    (∀ (step : Step) (fault : UsageFault) (next : Assembler),
      step.runOn history.assembler = (.error fault, next) → next = history.assembler) ∧
    history.assembler.compile.map Statement.parameters =
      if history.assembler.depth = 0 then .ok (held.filterMap Comparison.parameter?)
      else .error (.unclosedGroup history.assembler.depth) := by
  have kept := History.kept_after steps
  refine ⟨kept, fun _ _ _ => Step.eq_of_fails, ?_⟩
  rw [parameters_compile, kept]

end Assembler

end RecordMapper
