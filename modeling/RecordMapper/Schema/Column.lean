import RecordMapper.ColumnType
import RecordMapper.Identifier

/-!
Columns of a table: the member of the record that a column holds, and how its values are read and
written. A column is declared by attributes, of which the last of a kind counts.
-/

namespace RecordMapper

inductive Attribute where
  | primary
  | autoIncrement
  | nullable (allowed : Bool)
  | member (name : String)
  | typed (type : ColumnType)
  | parser (parse : Parser)
  | caster (cast : Caster)

structure Declaration where
  primary : Bool
  autoIncrements : Bool
  nullable : Option Bool
  member : Option String
  parser : Option Parser
  caster : Option Caster

namespace Declaration

def empty : Declaration := ⟨false, false, none, none, none, none⟩

def apply (declaration : Declaration) : Attribute → Declaration
  | .primary => { declaration with primary := true }
  | .autoIncrement => { declaration with autoIncrements := true }
  | .nullable allowed => { declaration with nullable := some allowed }
  | .member name => { declaration with member := some name }
  | .typed type =>
    { declaration with parser := some type.parser, caster := some type.caster }
  | .parser parse => { declaration with parser := some parse }
  | .caster cast => { declaration with caster := some cast }

def ofAttributes (attributes : List Attribute) : Declaration :=
  attributes.foldl apply empty

end Declaration

/-- A column of a table. A column of the key holds no null. -/
structure Column where
  name : Identifier
  member : String
  primary : Bool
  autoIncrements : Bool
  nullable : Bool
  parse : Parser
  cast : Caster
  not_nullable_of_primary : primary = true → nullable = false

/-- A column with what its declaration leaves out: the member of the column's name, null allowed,
values as they are. -/
def Column.ofDeclaration (name : Identifier) (declaration : Declaration) : Column where
  name := name
  member := declaration.member.getD name.text
  primary := declaration.primary
  autoIncrements := declaration.autoIncrements
  nullable := !declaration.primary && declaration.nullable.getD true
  parse := declaration.parser.getD identityParser
  cast := declaration.caster.getD passThroughCaster
  not_nullable_of_primary := by intro h; simp [h]

end RecordMapper
