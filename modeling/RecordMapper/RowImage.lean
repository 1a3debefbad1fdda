import RecordMapper.Event
import RecordMapper.Record.Snapshot
import RecordMapper.Statement

/-!
The row of a record: what the INSERT, UPDATE and DELETE statements of a record write and where. A
column is written when its member is set or when it allows null; the key of a row is not updated.
-/

namespace RecordMapper

inductive RowOperation where
  | insert
  | update
  | delete
deriving DecidableEq, Repr

structure RowImage where
  schema : Schema
  snapshot : Snapshot

namespace RowImage

def writes (image : RowImage) (column : Column) : Bool :=
  column.nullable || image.snapshot.isSet column.member

def insertedColumns (image : RowImage) : List Column :=
  image.schema.columns.filter image.writes

def updatedColumns (image : RowImage) : List Column :=
  image.schema.columns.filter fun column => !column.primary && image.writes column

/-- The value written to a column: null when its member is not set or cannot be cast. -/
def columnValue (image : RowImage) (column : Column) : SqlValue :=
  ((image.snapshot.value? column.member).bind column.cast).getD .null

def castFailures (image : RowImage) (columns : List Column) : List Event :=
  columns.filterMap fun column =>
    match image.snapshot.value? column.member with
    | none => none
    | some value =>
      match column.cast value with
      | some _ => none
      | none => some (.castFailed image.schema.table.text column.name.text)

/-- The value that a row is looked up by: the scalar of the member as it is. -/
def keyValue (image : RowImage) (column : Column) : SqlValue :=
  match image.snapshot.get? column.member with
  | none => .null
  | some value => .ofJson value

def assignments (columns : List (Column × SqlValue)) : List Template :=
  columns.map fun (column, value) => [.text (column.name.text ++ " = "), .bound value]

def keyTemplate (image : RowImage) : Template :=
  Template.separatedBy " AND "
    (assignments (image.schema.keyColumns.map fun column => (column, image.keyValue column)))

def keyClause (image : RowImage) (verb : String) : Except Fault Template :=
  if image.schema.keyColumns.isEmpty then
    .error (.validation (.noKey verb image.schema.table.text))
  else .ok image.keyTemplate

def insertTemplate (image : RowImage) : Template :=
  let table := image.schema.table.text
  match image.insertedColumns with
  | [] => [.text ("INSERT INTO " ++ table ++ " DEFAULT VALUES")]
  | columns =>
    let names := String.intercalate ", " (columns.map fun column => column.name.text)
    .text ("INSERT INTO " ++ table ++ " (" ++ names ++ ") VALUES (") ::
      Template.separatedBy ", " (columns.map fun column => [.bound (image.columnValue column)]) ++
      [.text ")"]

/-- UPDATE of the columns that are set. The key is checked before the columns. -/
def updateTemplate (image : RowImage) : Except Fault Template := do
  let table := image.schema.table.text
  let key ← image.keyClause "update"
  if image.updatedColumns.isEmpty then throw (.validation (.nothingToSet table))
  let sets := assignments
    (image.updatedColumns.map fun column => (column, image.columnValue column))
  return .text ("UPDATE " ++ table ++ " SET ") :: Template.separatedBy ", " sets ++
    .text " WHERE " :: key

def deleteTemplate (image : RowImage) : Except Fault Template := do
  let key ← image.keyClause "delete"
  return .text ("DELETE FROM " ++ image.schema.table.text ++ " WHERE ") :: key

def insert (image : RowImage) : Statement :=
  image.insertTemplate.statement

def update (image : RowImage) : Except Fault Statement :=
  image.updateTemplate.map Template.statement

def delete (image : RowImage) : Except Fault Statement :=
  image.deleteTemplate.map Template.statement

def statement (image : RowImage) : RowOperation → Except Fault Statement
  | .insert => .ok image.insert
  | .update => image.update
  | .delete => image.delete

/-- What is noted while the statement is built; an UPDATE that is refused casts no value. -/
def buildEvents (image : RowImage) : RowOperation → List Event
  | .insert => image.castFailures image.insertedColumns
  | .update =>
    match image.updateTemplate with
    | .ok _ => image.castFailures image.updatedColumns
    | .error _ => []
  | .delete => []

end RowImage

end RecordMapper
