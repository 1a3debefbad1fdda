import RecordMapper.Json.Printer

/-!
Storage scalars, the only values that reach a statement's parameters, and their forms: JSON, SQL
literal and display text.
-/

namespace RecordMapper

inductive SqlValue where
  | null
  | bool (value : Bool)
  | int (value : Int64)
  | float (value : Double)
  | text (value : String)
deriving DecidableEq

namespace SqlValue

/-- The scalar of a JSON value. An integer that does not fit keeps its digits as text; containers
have no scalar. -/
def ofJson? : Json → Option SqlValue
  | .null => some .null
  | .bool value => some (.bool value)
  | .number n =>
    match n, n.int64? with
    | _, some i => some (.int i)
    | .integer value _, none => some (.text (String.ofList (intDigits value)))
    | .real x, none => some (.float (.finite x))
  | .string value => some (.text value)
  | .array _ => none
  | .object _ => none

/-- The scalar that a JSON value reads as by its form alone: an integer that does not fit becomes
the nearest double. -/
def ofForm? : Json → Option SqlValue
  | .null => some .null
  | .bool value => some (.bool value)
  | .number n =>
    match n.int64? with
    | some i => some (.int i)
    | none => some (.float n.toDouble)
  | .string value => some (.text value)
  | .array _ => none
  | .object _ => none

def ofJson (value : Json) : SqlValue :=
  (ofJson? value).getD (.text value.print)

/-- The JSON value of a scalar; doubles that are not finite have none and become null. -/
def toJson : SqlValue → Json
  | .null => .null
  | .bool value => .bool value
  | .int value => .ofInt64 value
  | .float value => (Json.ofDouble? value).getD .null
  | .text value => .string value

def isNull : SqlValue → Bool
  | .null => true
  | _ => false

def intText (i : Int64) : String :=
  String.ofList (intDigits i.toInt)

def floatText (x : Double) : String :=
  String.ofList (Layout.display.text x)

/-- The value as it stands in SQL text. Text stands as it is, its quotes are the caller's. -/
def literal : SqlValue → String
  | .null => "NULL"
  | .bool value => if value then "TRUE" else "FALSE"
  | .int value => intText value
  | .float value => floatText value
  | .text value => value

def doubleApostrophes : List Char → List Char
  | [] => []
  | c :: cs => if c = '\'' then '\'' :: '\'' :: doubleApostrophes cs else c :: doubleApostrophes cs

def display : SqlValue → String
  | .null => "NULL"
  | .bool value => if value then "true" else "false"
  | .int value => intText value
  | .float value => floatText value
  | .text value => String.ofList ('\'' :: (doubleApostrophes value.toList ++ ['\'']))

def equals : SqlValue → SqlValue → Bool
  | .float x, .float y => x.equals y
  | x, y => x = y

end SqlValue

end RecordMapper
