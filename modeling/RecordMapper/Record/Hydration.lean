import RecordMapper.Config
import RecordMapper.Event
import RecordMapper.Record.RecordType

/-!
Hydration: a row becomes a record. Each column of the row that the schema knows is parsed into its
member; the first failure, in the order of the row, is the answer.
-/

namespace RecordMapper

abbrev Row := Members Json

namespace Schema

/-- The member that a cell fills, none for a column that is ignored. A null in a column that allows
it is not parsed. -/
def cell (schema : Schema) (unmapped : UnmappedColumns) (name : String) (value : Json) :
    Except Fault (Option (String × Json)) :=
  match schema.column? name with
  | none =>
    match unmapped with
    | .ignore => .ok none
    | .reject => .error (.unmappedColumn schema.table.text name)
  | some column =>
    if value.isNull && column.nullable then .ok (some (column.member, .null))
    else match column.parse value with
      | some parsed => .ok (some (column.member, parsed))
      | none => .error (.parse schema.table.text name Cast.failureMessage)

/-- The members that a row fills; of two columns for one member the later counts. -/
def rowMembers (schema : Schema) (unmapped : UnmappedColumns) (row : Row) :
    Except Fault Snapshot := do
  let filled ← row.mapM fun (name, value) => schema.cell unmapped name value
  return ⟨Members.ofList (filled.filterMap id)⟩

def hydrate {ρ : Type} (schema : Schema) (type : RecordType ρ) (unmapped : UnmappedColumns)
    (row : Row) : Except Fault ρ := do
  let snapshot ← schema.rowMembers unmapped row
  match type.ofJson snapshot.toJson with
  | .ok record => .ok record
  | .error cause => .error (.serialization (.hydration schema.table.text cause))

def ignoredColumns (schema : Schema) (unmapped : UnmappedColumns) : Row → List Event
  | [] => []
  | (name, value) :: row =>
    match schema.cell unmapped name value with
    | .error _ => []
    | .ok none => .columnIgnored schema.table.text name :: schema.ignoredColumns unmapped row
    | .ok (some _) => schema.ignoredColumns unmapped row

end Schema

end RecordMapper
