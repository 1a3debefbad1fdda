import RecordMapper.Condition.Assembler

/-!
Queries: a projection, a source table and a condition, compiled to a SELECT statement.
-/

namespace RecordMapper

structure SelectQuery where
  columns : List String
  table : Option String
  conditions : Assembler

namespace SelectQuery

def empty : SelectQuery := ⟨[], none, .empty⟩

def select (query : SelectQuery) (columns : List String) : SelectQuery :=
  { query with columns := query.columns ++ columns }

def source (query : SelectQuery) (table : String) : SelectQuery :=
  { query with table := some table }

def reset (query : SelectQuery) : SelectQuery := ⟨[], none, query.conditions.reset⟩

theorem reset_eq_empty (query : SelectQuery) : query.reset = empty := rfl

def assemble (query : SelectQuery) (call : Assembler.Call) : Except Fault SelectQuery :=
  match query.conditions.apply call with
  | .ok conditions => .ok { query with conditions := conditions }
  | .error cause => .error (.usage cause)

def filter (query : SelectQuery) (operand : String) (operator : Operator) (value : SqlValue) :
    Except Fault SelectQuery := do
  query.assemble (.add (← Condition.compare operand operator value))

def filterLiteral (query : SelectQuery) (operand : String) (operator : Operator)
    (value : SqlValue) : Except Fault SelectQuery := do
  query.assemble (.add (← Condition.compareLiteral operand operator value))

/-- The name whose check decides over a projected column: that of the table in `table.*`, else the
column itself. -/
def projectedName (column : String) : String :=
  match column.toList.reverse with
  | '*' :: '.' :: table => String.ofList table.reverse
  | _ => column

def checkProjection (column : String) : Except Fault Unit :=
  if column = "*" then .ok ()
  else (Identifier.ofText "column" (projectedName column)).map fun _ => ()

def selectTemplate (columns : List String) (table : String) (condition : Option Condition) :
    Template :=
  .text ("SELECT " ++ String.intercalate ", " columns ++ " FROM " ++ table) ::
    match condition with
    | none => []
    | some condition => .text " WHERE " :: condition.template

/-- Checks the projection's presence, the source, the names and the groups, in this order. -/
def template (query : SelectQuery) : Except Fault Template := do
  if query.columns = [] then throw (.validation .noProjection)
  let some table := query.table | throw (.validation .noSource)
  let _ ← Identifier.ofText "table" table
  query.columns.forM checkProjection
  match query.conditions.build with
  | .ok condition => return selectTemplate query.columns table condition
  | .error cause => throw (.usage cause)

def build (query : SelectQuery) : Except Fault Statement :=
  query.template.map Template.statement

inductive Restriction where
  | filter (operand : String) (operator : Operator) (value : SqlValue)
  | filterLiteral (operand : String) (operator : Operator) (value : SqlValue)
  | assemble (call : Assembler.Call)

def restrict (query : SelectQuery) : Restriction → Except Fault SelectQuery
  | .filter operand operator value => query.filter operand operator value
  | .filterLiteral operand operator value => query.filterLiteral operand operator value
  | .assemble call => query.assemble call

end SelectQuery

end RecordMapper
