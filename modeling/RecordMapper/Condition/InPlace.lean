import RecordMapper.Condition.Assembler

/-!
Assembling in place. One assembler is kept and changed cell by cell; a call that fails keeps what it
changed before it failed. `run_edit` says that nothing is changed then: a call in place comes to the
call that makes a new assembler, and to the old assembler when there is none.
-/

namespace RecordMapper.Assembler

/-- Changes to an assembler. A failure keeps the changes that were made before it. -/
abbrev Edit := ExceptT UsageFault (StateM Assembler)

namespace Edit

def runOn {α : Type} (edit : Edit α) (assembler : Assembler) : Except UsageFault α × Assembler :=
  (ExceptT.run edit).run assembler

def setCondition (condition : Option Condition) : Edit Unit :=
  modify fun assembler => ⟨⟨condition, assembler.level.conjunction⟩, assembler.outer⟩

def setConjunction (conjunction : Option Conjunction) : Edit Unit :=
  modify fun assembler => ⟨⟨assembler.level.condition, conjunction⟩, assembler.outer⟩

def setOuter (outer : List Level) : Edit Unit :=
  modify fun assembler => ⟨assembler.level, outer⟩

def add (condition : Condition) : Edit Unit := do
  let level := (← get).level
  let joined ← match level.condition, level.conjunction with
    | none, _ => pure condition
    | some _, none => throw .unsetConjunction
    | some left, some conjunction => pure (.joined left conjunction condition)
  setCondition (some joined)
  setConjunction none

def openGroup : Edit Unit := do
  let assembler ← get
  setOuter (assembler.level :: assembler.outer)
  setCondition none
  setConjunction none

def restore (level : Level) (outer : List Level) : Edit Unit := do
  setOuter outer
  setCondition level.condition
  setConjunction level.conjunction

/-- Closes the innermost group. The group stands alone whenever the level around it lacks a
condition or a conjunction, so that the check before must have refused a lost condition. -/
def closeGroup : Edit Unit := do
  let assembler ← get
  let level :: outer := assembler.outer | throw .unbalancedGroup
  let some inner := assembler.level.condition | restore level outer
  if level.condition.isSome && level.conjunction.isNone then throw .unsetConjunction
  let group := Condition.parenthesized inner
  setOuter outer
  setCondition <| some <| match level.condition, level.conjunction with
    | some left, some conjunction => .joined left conjunction group
    | _, _ => group
  setConjunction none

end Edit

def Call.edit : Call → Edit Unit
  | .add condition => Edit.add condition
  | .conjoin conjunction => Edit.setConjunction (some conjunction)
  | .openGroup => Edit.openGroup
  | .closeGroup => Edit.closeGroup

def outcome (assembler : Assembler) (call : Call) : Except UsageFault Unit × Assembler :=
  match assembler.apply call with
  | .ok next => (.ok (), next)
  | .error fault => (.error fault, assembler)

theorem run_add (assembler : Assembler) (condition : Condition) :
    (Edit.add condition).runOn assembler = assembler.outcome (.add condition) := by
  rcases assembler with ⟨⟨_ | left, _ | conjunction⟩, outer⟩ <;> rfl

theorem run_closeGroup (assembler : Assembler) :
    Edit.closeGroup.runOn assembler = assembler.outcome .closeGroup := by
  rcases assembler with ⟨⟨inner, conjunction⟩, _ | ⟨⟨left, saved⟩, outer⟩⟩
  · rfl
  · cases inner with
    | none => rfl
    | some inner => cases left <;> cases saved <;> rfl

/-- A call in place ends as the call that makes a new assembler does; when it fails, the assembler
is left as it was. -/
theorem run_edit (assembler : Assembler) (call : Call) :
    call.edit.runOn assembler = assembler.outcome call := by
  cases call with
  | add condition => exact run_add assembler condition
  | conjoin conjunction => rfl
  | openGroup => rfl
  | closeGroup => exact run_closeGroup assembler

end RecordMapper.Assembler
