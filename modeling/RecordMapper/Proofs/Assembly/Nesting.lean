import RecordMapper.Condition.Assembler
import RecordMapper.Proofs.Outcome

/-!
Nested expressions, written call by call. A script is the calls of one level from left to right; it
may set conjunctions that do not count and open groups that stay empty. `assembles_script` says that
its calls succeed and come to the tree of the level: its items joined from the left, each by the
last conjunction set in front of it, with parentheses around each group.
-/

namespace RecordMapper.Assembler

theorem apply_add {level next : Level} {condition : Condition} (outer : List Level)
    (h : level.join condition = .ok next) :
    apply ⟨level, outer⟩ (.add condition) = .ok ⟨next, outer⟩ := by
  rw [apply, add, h]
  rfl

theorem apply_closeGroup {level next : Level} {inner : Condition} (set : Option Conjunction)
    (outer : List Level) (h : level.join (.parenthesized inner) = .ok next) :
    apply ⟨⟨some inner, set⟩, level :: outer⟩ .closeGroup = .ok ⟨next, outer⟩ := by
  change (level.join (.parenthesized inner)).map _ = _
  rw [h]
  rfl

def applyAll (assembler : Assembler) (calls : List Call) : Except UsageFault Assembler :=
  calls.foldlM apply assembler

@[simp] theorem applyAll_nil (assembler : Assembler) : assembler.applyAll [] = .ok assembler := rfl

theorem applyAll_cons {assembler next : Assembler} {call : Call} (calls : List Call)
    (h : assembler.apply call = .ok next) :
    assembler.applyAll (call :: calls) = next.applyAll calls := by
  rw [applyAll, List.foldlM_cons, h]
  rfl

theorem applyAll_append {assembler next : Assembler} {calls : List Call} (later : List Call)
    (h : assembler.applyAll calls = .ok next) :
    assembler.applyAll (calls ++ later) = next.applyAll later := by
  rw [applyAll] at h
  rw [applyAll, List.foldlM_append, h]
  rfl

/-- Calls that add no condition: conjunctions, and groups of such calls. -/
inductive Idle where
  | done
  | conjoin (conjunction : Conjunction) (next : Idle)
  | group (inner next : Idle)

namespace Idle

def calls : Idle → List Call
  | .done => []
  | .conjoin conjunction next => .conjoin conjunction :: next.calls
  | .group inner next => .openGroup :: (inner.calls ++ .closeGroup :: next.calls)

/-- The conjunction that is set afterwards at the level of the calls; what is set within groups does
not count. -/
def last : Idle → Option Conjunction → Option Conjunction
  | .done, set => set
  | .conjoin conjunction next, _ => next.last (some conjunction)
  | .group _ next, set => next.last set

def ofGroups : List Idle → Idle
  | [] => .done
  | inner :: groups => .group inner (ofGroups groups)

@[simp] theorem last_ofGroups (groups : List Idle) (set : Option Conjunction) :
    (ofGroups groups).last set = set := by
  induction groups with
  | nil => rfl
  | cons inner groups ih => exact ih

theorem applyAll_calls (idle : Idle) (condition : Option Condition) (set : Option Conjunction)
    (outer : List Level) :
    applyAll ⟨⟨condition, set⟩, outer⟩ idle.calls = .ok ⟨⟨condition, idle.last set⟩, outer⟩ := by
  induction idle generalizing condition set outer with
  | done => rfl
  | conjoin conjunction next ih =>
    rw [calls, applyAll_cons _ rfl]
    exact ih condition (some conjunction) outer
  | group inner next ihInner ihNext =>
    -- the group is closed with nothing in it, which takes the level back as it was put away
    rw [calls, applyAll_cons _ rfl]
    unfold openGroup Level.empty
    rw [applyAll_append _ (ihInner none none (⟨condition, set⟩ :: outer)), applyAll_cons _ rfl]
    exact ihNext condition set outer

end Idle

/-- What stands between two items: the conjunction that joins them, others before it, and empty
groups. -/
structure Gap where
  earlier : Idle
  conjunction : Conjunction
  groups : List Idle

namespace Gap

def calls (gap : Gap) : List Call :=
  gap.earlier.calls ++ .conjoin gap.conjunction :: (Idle.ofGroups gap.groups).calls

theorem applyAll_calls (gap : Gap) (condition : Option Condition) (set : Option Conjunction)
    (outer : List Level) :
    applyAll ⟨⟨condition, set⟩, outer⟩ gap.calls =
      .ok ⟨⟨condition, some gap.conjunction⟩, outer⟩ := by
  rw [calls, applyAll_append _ (gap.earlier.applyAll_calls condition set outer),
    applyAll_cons _ rfl]
  unfold conjoin
  rw [Idle.applyAll_calls, Idle.last_ofGroups]

end Gap

mutual

inductive Item where
  | condition (condition : Condition)
  | group (inner : Script)

/-- A level: its first item and the others, and idle calls at both ends. -/
inductive Script where
  | mk (start : Idle) (first : Item) (rest : Rest) (finish : Idle)

inductive Rest where
  | done
  | next (gap : Gap) (item : Item) (rest : Rest)

end

mutual

def Item.calls : Item → List Call
  | .condition condition => [.add condition]
  | .group inner => .openGroup :: (inner.calls ++ [.closeGroup])

def Script.calls : Script → List Call
  | .mk start first rest finish => start.calls ++ (first.calls ++ (rest.calls ++ finish.calls))

def Rest.calls : Rest → List Call
  | .done => []
  | .next gap item rest => gap.calls ++ (item.calls ++ rest.calls)

end

mutual

def Item.tree : Item → Condition
  | .condition condition => condition
  | .group inner => .parenthesized inner.tree

def Script.tree : Script → Condition
  | .mk _ first rest _ => rest.joinTo first.tree

def Rest.joinTo : Rest → Condition → Condition
  | .done, left => left
  | .next gap item rest, left => rest.joinTo (.joined left gap.conjunction item.tree)

end

mutual

theorem Item.applyAll_calls (item : Item) {level next : Level} (outer : List Level)
    (h : level.join item.tree = .ok next) :
    applyAll ⟨level, outer⟩ item.calls = .ok ⟨next, outer⟩ := by
  cases item with
  | condition condition =>
    rw [Item.tree] at h
    rw [Item.calls, applyAll_cons [] (apply_add outer h), applyAll_nil]
  | group inner =>
    rw [Item.tree] at h
    rcases inner.applyAll_calls none (level :: outer) with ⟨set, hinner⟩
    rw [Item.calls, applyAll_cons _ rfl]
    unfold openGroup Level.empty
    rw [applyAll_append _ hinner, applyAll_cons [] (apply_closeGroup set outer h), applyAll_nil]

theorem Script.applyAll_calls (script : Script) (set : Option Conjunction) (outer : List Level) :
    ∃ set', applyAll ⟨⟨none, set⟩, outer⟩ script.calls =
      .ok ⟨⟨some script.tree, set'⟩, outer⟩ := by
  cases script with
  | mk start first rest finish =>
    refine ⟨finish.last none, ?_⟩
    rw [Script.calls, Script.tree, applyAll_append _ (start.applyAll_calls none set outer),
      applyAll_append _ (first.applyAll_calls outer rfl),
      applyAll_append _ (rest.applyAll_calls first.tree outer)]
    exact finish.applyAll_calls _ none outer

theorem Rest.applyAll_calls (rest : Rest) (left : Condition) (outer : List Level) :
    applyAll ⟨⟨some left, none⟩, outer⟩ rest.calls =
      .ok ⟨⟨some (rest.joinTo left), none⟩, outer⟩ := by
  cases rest with
  | done => rfl
  | next gap item rest =>
    rw [Rest.calls, Rest.joinTo, applyAll_append _ (gap.applyAll_calls (some left) none outer),
      applyAll_append _ (item.applyAll_calls outer rfl)]
    exact rest.applyAll_calls _ outer

end

/-- The calls of a script succeed on a new assembler, and it is then compiled as the script's tree;
a group without a condition leaves any assembler as it was. -/
theorem assembles_script :
    (∀ (assembler : Assembler) (idle : Idle),
      assembler.applyAll (.openGroup :: (idle.calls ++ [.closeGroup])) = .ok assembler) ∧
    ∀ script : Script, ∃ assembled, empty.applyAll script.calls = .ok assembled ∧
      assembled.build = .ok (some script.tree) ∧
      assembled.compile = .ok script.tree.template.statement := by
  constructor
  · intro assembler idle
    exact (Idle.group idle .done).applyAll_calls _ _ assembler.outer
  · intro script
    rcases script.applyAll_calls none [] with ⟨set, hscript⟩
    exact ⟨_, hscript, rfl, rfl⟩

end RecordMapper.Assembler
