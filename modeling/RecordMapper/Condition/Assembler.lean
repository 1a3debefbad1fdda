import RecordMapper.Condition.Basic

/-!
Assembling a condition call by call. Conditions are joined from left to right at the level of the
innermost open group; closing a group joins it, in parentheses, to the level around it. A call that
fails has no result, and the assembler is what it was.
-/

namespace RecordMapper

/-- What stands at one level of grouping, and the conjunction set for the next condition. -/
structure Level where
  condition : Option Condition
  conjunction : Option Conjunction

namespace Level

def empty : Level := ⟨none, none⟩

def join (level : Level) (condition : Condition) : Except UsageFault Level :=
  match level.condition, level.conjunction with
  | none, _ => .ok ⟨some condition, none⟩
  | some _, none => .error .unsetConjunction
  | some left, some conjunction => .ok ⟨some (.joined left conjunction condition), none⟩

end Level

/-- A condition under assembly: the innermost level, and those around it from the inside out. -/
structure Assembler where
  level : Level
  outer : List Level

namespace Assembler

def empty : Assembler := ⟨.empty, []⟩

def add (assembler : Assembler) (condition : Condition) : Except UsageFault Assembler :=
  (assembler.level.join condition).map fun level => ⟨level, assembler.outer⟩

def conjoin (assembler : Assembler) (conjunction : Conjunction) : Assembler :=
  ⟨⟨assembler.level.condition, some conjunction⟩, assembler.outer⟩

def openGroup (assembler : Assembler) : Assembler :=
  ⟨.empty, assembler.level :: assembler.outer⟩

/-- Closes the innermost group; one without a condition leaves nothing behind. -/
def closeGroup (assembler : Assembler) : Except UsageFault Assembler :=
  match assembler.outer, assembler.level.condition with
  | [], _ => .error .unbalancedGroup
  | level :: outer, none => .ok ⟨level, outer⟩
  | level :: outer, some inner =>
    (level.join (.parenthesized inner)).map fun level => ⟨level, outer⟩

def reset (_ : Assembler) : Assembler := empty

inductive Call where
  | add (condition : Condition)
  | conjoin (conjunction : Conjunction)
  | openGroup
  | closeGroup

def apply (assembler : Assembler) : Call → Except UsageFault Assembler
  | .add condition => assembler.add condition
  | .conjoin conjunction => .ok (assembler.conjoin conjunction)
  | .openGroup => .ok assembler.openGroup
  | .closeGroup => assembler.closeGroup

def depth (assembler : Assembler) : Nat :=
  assembler.outer.length

def isEmpty (assembler : Assembler) : Bool :=
  assembler.level.condition.isNone && assembler.outer.isEmpty

def current? (assembler : Assembler) : Option Condition :=
  assembler.level.condition

def build (assembler : Assembler) : Except UsageFault (Option Condition) :=
  if assembler.outer = [] then .ok assembler.level.condition
  else .error (.unclosedGroup assembler.depth)

def compile (assembler : Assembler) : Except UsageFault Statement :=
  assembler.build.map fun condition => Template.statement (condition.elim [] Condition.template)

end Assembler

end RecordMapper
