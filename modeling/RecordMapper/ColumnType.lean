import RecordMapper.Cast

/-!
Column types: a way to read a stored value into a record and a way to write a record's value as a
scalar, which belong together.
-/

namespace RecordMapper

abbrev Parser := Json → Option Json

abbrev Caster := Json → Option SqlValue

inductive ColumnType where
  | boolean
  | int
  | float
  | bigInt
  | text
  | json
deriving DecidableEq, Repr

namespace ColumnType

def ofName? : String → Option ColumnType
  | "Boolean" => some .boolean
  | "Int" => some .int
  | "Float" => some .float
  | "BigInt" => some .bigInt
  | "Text" => some .text
  | "Json" => some .json
  | _ => none

def parse (type : ColumnType) (stored : Json) : Option Json :=
  match type with
  | .boolean => some (.bool (Cast.toBoolean (some stored)))
  | .int => (Cast.toInt (some stored)).map .ofInt64
  | .float => (Cast.toFloat (some stored)).bind Json.ofDouble?
  | .bigInt => (Cast.toBigInt (some stored)).map fun i => .string (String.ofList (intDigits i))
  | .text => some (.string (Cast.toText (some stored)))
  | .json => Cast.toStructured (some stored)

/-- A big integer is stored as an integer when it fits and as its digits when it does not. -/
def bigIntScalar (i : Int) : SqlValue :=
  if FitsInt64 i then .int (Int64.ofInt i) else .text (String.ofList (intDigits i))

def cast (type : ColumnType) (value : Option Json) : Option SqlValue :=
  match type with
  | .boolean => some (.bool (Cast.toBoolean value))
  | .int => (Cast.toInt value).map .int
  | .float => (Cast.toFloat value).map .float
  | .bigInt => (Cast.toBigInt value).map bigIntScalar
  | .text => some (.text (Cast.toText value))
  | .json => value.map fun v => .text v.print

def parser (type : ColumnType) : Parser := type.parse

def caster (type : ColumnType) : Caster := fun value => type.cast (some value)

end ColumnType

def identityParser : Parser := some

/-- Stores values as their scalars, and containers as their text. -/
def passThroughCaster : Caster := fun value => some (.ofJson value)

end RecordMapper
