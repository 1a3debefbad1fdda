import RecordMapper.Proofs.Query.Calls

/-!
Queries without their values. With null in the place of every value that is bound, a query takes the
same calls, refuses the same ones, and is built to the same text with as many parameters.
-/

namespace RecordMapper

def Statement.hide (statement : Statement) : Statement :=
  ⟨statement.sql, statement.parameters.map fun _ => .null⟩

namespace Template

def hide (template : Template) : Template :=
  template.map fun
    | .text sql => .text sql
    | .bound _ => .bound .null

theorem statement_hide (template : Template) :
    template.hide.statement = template.statement.hide := by
  induction template with
  | nil => rfl
  | cons fragment template ih =>
    obtain ⟨hsql, hparameters⟩ := Statement.mk.inj ih
    cases fragment with
    | text piece => exact congrArg₂ Statement.mk (congrArg (piece ++ ·) hsql) hparameters
    | bound value =>
      exact congrArg₂ Statement.mk (congrArg ("?" ++ ·) hsql)
        (congrArg (SqlValue.null :: ·) hparameters)

theorem hide_append (a b : Template) : hide (a ++ b) = hide a ++ hide b :=
  List.map_append

end Template

namespace Condition

/-- The condition with null in the place of every value that is bound; values that stand in the text
are kept. -/
def hide : Condition → Condition
  | .leaf operand operator value bound =>
    .leaf operand operator (if bound then .null else value) bound
  | .joined left conjunction right => .joined left.hide conjunction right.hide
  | .parenthesized inner => .parenthesized inner.hide

theorem template_hide (condition : Condition) :
    condition.hide.template = condition.template.hide := by
  induction condition with
  | leaf operand operator value bound => cases bound <;> rfl
  | joined left conjunction right ihleft ihright =>
    rw [hide, template, template, Template.hide_append, ihleft, ihright]
    rfl
  | parenthesized inner ih =>
    rw [hide, template, template, Template.hide_append, ih]
    rfl

end Condition

namespace Level

def hide (level : Level) : Level :=
  ⟨level.condition.map Condition.hide, level.conjunction⟩

theorem join_hide (level : Level) (condition : Condition) :
    level.hide.join condition.hide = (level.join condition).map hide := by
  rcases level with ⟨_ | left, _ | conjunction⟩ <;> rfl

end Level

namespace Assembler

def hide (assembler : Assembler) : Assembler :=
  ⟨assembler.level.hide, assembler.outer.map Level.hide⟩

def Call.hide : Call → Call
  | .add condition => .add condition.hide
  | .conjoin conjunction => .conjoin conjunction
  | .openGroup => .openGroup
  | .closeGroup => .closeGroup

theorem apply_hide (assembler : Assembler) (call : Call) :
    assembler.hide.apply call.hide = (assembler.apply call).map hide := by
  rcases assembler with ⟨level, outer⟩
  cases call with
  | add condition =>
    change (level.hide.join condition.hide).map _ = ((level.join condition).map _).map _
    rw [Level.join_hide]
    cases level.join condition <;> rfl
  | conjoin conjunction => rfl
  | openGroup => rfl
  | closeGroup =>
    rcases outer with _ | ⟨around, outer⟩
    · rfl
    rcases level with ⟨_ | inner, conjunction⟩
    · rfl
    · change (around.hide.join (Condition.parenthesized inner).hide).map _ =
        ((around.join (.parenthesized inner)).map _).map _
      rw [Level.join_hide]
      cases around.join (.parenthesized inner) <;> rfl

theorem build_hide (assembler : Assembler) :
    assembler.hide.build = assembler.build.map (Option.map Condition.hide) := by
  rcases assembler with ⟨level, _ | ⟨around, outer⟩⟩
  · rfl
  · simp [build, hide, depth, Except.map]

end Assembler

namespace SelectQuery

def Restriction.hide : Restriction → Restriction
  | .filter operand operator _ => .filter operand operator .null
  | .filterLiteral operand operator value => .filterLiteral operand operator value
  | .assemble call => .assemble call.hide

def Call.hide : Call → Call
  | .select columns => .select columns
  | .source table => .source table
  | .restrict restriction => .restrict restriction.hide
  | .reset => .reset

def hide (query : SelectQuery) : SelectQuery :=
  { query with conditions := query.conditions.hide }

theorem assemble_hide (query : SelectQuery) (call : Assembler.Call) :
    query.hide.assemble call.hide = (query.assemble call).map hide := by
  have happly := query.conditions.apply_hide call
  unfold assemble
  simp only [hide, happly]
  cases query.conditions.apply call <;> rfl

theorem restrict_hide (query : SelectQuery) (restriction : Restriction) :
    query.hide.restrict restriction.hide = (query.restrict restriction).map hide := by
  cases restriction with
  | filter operand operator value =>
    simp only [restrict, Restriction.hide, filter, Condition.compare]
    cases Identifier.ofText "column" operand with
    | error cause => rfl
    | ok name => exact query.assemble_hide (.add (.leaf name operator value true))
  | filterLiteral operand operator value =>
    simp only [restrict, Restriction.hide, filterLiteral, Condition.compareLiteral]
    cases Identifier.ofText "column" operand with
    | error cause => rfl
    | ok name => exact query.assemble_hide (.add (.leaf name operator value false))
  | assemble call => exact query.assemble_hide call

theorem make_hide (query : SelectQuery) (call : Call) :
    query.hide.make call.hide = (query.make call).map hide := by
  cases call with
  | restrict restriction => exact query.restrict_hide restriction
  | select _ | source _ | reset => rfl

theorem take_hide (query : SelectQuery) (call : Call) :
    query.hide.take call.hide = (query.take call).hide := by
  unfold take
  rw [make_hide]
  cases query.make call <;> rfl

def outcomes (query : SelectQuery) : List Call → List (Except Fault Unit)
  | [] => []
  | call :: calls => (query.make call).map (fun _ => ()) :: outcomes (query.take call) calls

theorem outcomes_hide (query : SelectQuery) (calls : List Call) :
    query.hide.outcomes (calls.map Call.hide) = query.outcomes calls := by
  induction calls generalizing query with
  | nil => rfl
  | cons call calls ih =>
    rw [List.map_cons, outcomes, outcomes, make_hide, take_hide, ih]
    cases query.make call <;> rfl

theorem after_hide (calls : List Call) : after (calls.map Call.hide) = (after calls).hide := by
  have hfold : ∀ query : SelectQuery,
      (calls.map Call.hide).foldl take query.hide = (calls.foldl take query).hide := by
    induction calls with
    | nil => exact fun _ => rfl
    | cons call calls ih =>
      intro query
      rw [List.map_cons, List.foldl_cons, List.foldl_cons, take_hide, ih]
  exact hfold .empty

theorem selectTemplate_hide (columns : List String) (table : String)
    (condition : Option Condition) :
    selectTemplate columns table (condition.map Condition.hide) =
      (selectTemplate columns table condition).hide := by
  cases condition with
  | none => rfl
  | some condition =>
    simp only [selectTemplate, Option.map_some, Condition.template_hide]
    rfl

theorem template_hide (query : SelectQuery) :
    query.hide.template = query.template.map Template.hide := by
  unfold template
  simp only [hide, Assembler.build_hide]
  by_cases hcolumns : query.columns = []
  · rw [if_pos hcolumns, if_pos hcolumns]
    rfl
  rw [if_neg hcolumns, if_neg hcolumns]
  cases query.table with
  | none => rfl
  | some table =>
    dsimp only
    cases Identifier.ofText "table" table with
    | error cause => rfl
    | ok name =>
      cases query.columns.forM checkProjection with
      | error cause => rfl
      | ok _ =>
        cases query.conditions.build with
        | error cause => rfl
        | ok condition => exact congrArg Except.ok (selectTemplate_hide _ _ condition)

theorem build_hide (query : SelectQuery) : query.hide.build = query.build.map Statement.hide := by
  unfold build
  rw [template_hide]
  cases query.template with
  | error cause => rfl
  | ok template => exact congrArg Except.ok template.statement_hide

end SelectQuery

end RecordMapper
