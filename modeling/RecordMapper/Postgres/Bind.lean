import RecordMapper.Cast
import RecordMapper.Postgres.Bytes
import RecordMapper.Postgres.Instant
import RecordMapper.Postgres.Uuid
import RecordMapper.Postgres.ValueType
import RecordMapper.Text.Quoted

/-!
Binding values to parameters. A value takes the form of the type that the server expects; where the
type is not the value's own, its text is read as one of the type.
-/

namespace RecordMapper.Postgres

inductive BindFault where
  | mismatch (value : SqlValue) (type : ValueType)
  | textMismatch (type : ValueType)
  | unbindableType (type : ValueType)
  | integerText (cause : IntegerFault)
  | floatText (cause : FloatFault)
  | booleanText
  | narrowing (cause : IntegerFault)
  | malformed

def describe : SqlValue → String
  | .null => "Null"
  | .bool value => "Bool(" ++ (if value then "true" else "false") ++ ")"
  | .int value => "Int(" ++ SqlValue.intText value ++ ")"
  | .float value => "Float(" ++ String.ofList (Layout.descriptive.text value) ++ ")"
  | .text value => "Text(" ++ quoted value ++ ")"

def BindFault.message : BindFault → String
  | .mismatch value type =>
    "cannot bind " ++ describe value ++ " to a parameter of type " ++ type.typeName
  | .textMismatch type => "cannot bind text to a parameter of type " ++ type.typeName
  | .unbindableType type => "no value is bound to a parameter of type " ++ type.typeName
  | .integerText cause => cause.message
  | .floatText cause => cause.message
  | .booleanText => "provided string was not `true` or `false`"
  | .narrowing cause => cause.message
  | .malformed => "text does not write a value of its type"

def boolBytes (value : Bool) : Bytes :=
  [if value then 1 else 0]

def floatBytes {f : BinaryFormat} (width : Nat) (x : Binary f) : Bytes :=
  natBytes width x.toBits

def jsonBytes (value : Json) : Bytes :=
  textBytes value.print

/-- The binary form of JSON starts with its version. -/
def jsonbBytes (value : Json) : Bytes :=
  1 :: jsonBytes value

def integerOfText (width : Nat) (word : List Char) : Except BindFault Bytes :=
  match (IntegerRange.signed (8 * width)).read word with
  | .ok i => .ok (intBytes width i)
  | .error cause => .error (.integerText cause)

def floatOfText (f : BinaryFormat) (width : Nat) (word : List Char) : Except BindFault Bytes :=
  match Binary.read f word with
  | .ok x => .ok (floatBytes width x)
  | .error cause => .error (.floatText cause)

def booleanOfText (word : List Char) : Except BindFault Bytes :=
  if word = "true".toList then .ok (boolBytes true)
  else if word = "false".toList then .ok (boolBytes false)
  else .error .booleanText

def wellFormed (bytes : Option Bytes) : Except BindFault Bytes :=
  match bytes with
  | some bytes => .ok bytes
  | none => .error .malformed

/-- Binds a text. Blanks around it do not count, but for texts and JSON. -/
def bindText (type : ValueType) (s : String) : Except BindFault Bytes :=
  let word := trim s.toList
  match type with
  | .text | .varchar | .bpchar | .name | .unknown => .ok (textBytes s)
  | .bool => booleanOfText word
  | .int2 => integerOfText 2 word
  | .int4 => integerOfText 4 word
  | .int8 => integerOfText 8 word
  | .float4 => floatOfText .single 4 word
  | .float8 => floatOfText .double 8 word
  | .json => wellFormed ((Json.ofString? s).map jsonBytes)
  | .jsonb => wellFormed ((Json.ofString? s).map jsonbBytes)
  | .uuid => wellFormed (Uuid.read? word)
  | .timestamptz => wellFormed ((Instant.readZoned? word).map (intBytes 8))
  | .timestamp => wellFormed ((Instant.readLocal? word).map (intBytes 8))
  | .date => wellFormed ((Instant.readDate? word).map (intBytes 4))
  | .oid | .other _ => .error (.textMismatch type)

def narrowed (width : Nat) (i : Int64) : Except BindFault Bytes :=
  match (IntegerRange.signed (8 * width)).narrow i.toInt with
  | .ok i => .ok (intBytes width i)
  | .error cause => .error (.narrowing cause)

def bindInt (type : ValueType) (i : Int64) : Except BindFault Bytes :=
  match type with
  | .int2 => narrowed 2 i
  | .int4 => narrowed 4 i
  | .int8 => narrowed 8 i
  | .float4 => .ok (floatBytes 4 (Binary.ofInt .single i.toInt))
  | .float8 => .ok (floatBytes 8 (Binary.ofInt .double i.toInt))
  | .bool => .ok (boolBytes (i ≠ 0))
  | .json => .ok (jsonBytes (.ofInt64 i))
  | .jsonb => .ok (jsonbBytes (.ofInt64 i))
  | type =>
    if type.isTextual then .ok (textBytes (SqlValue.intText i))
    else .error (.mismatch (.int i) type)

def bindFloat (type : ValueType) (x : Double) : Except BindFault Bytes :=
  match type with
  | .float4 => .ok (floatBytes 4 (x.convert .single))
  | .float8 => .ok (floatBytes 8 x)
  | .json => .ok (jsonBytes (SqlValue.float x).toJson)
  | .jsonb => .ok (jsonbBytes (SqlValue.float x).toJson)
  | type =>
    if type.isTextual then .ok (textBytes (SqlValue.floatText x))
    else .error (.mismatch (.float x) type)

/-- A truth value that is not wanted as one is bound as its text. -/
def bindBool (type : ValueType) (value : Bool) : Except BindFault Bytes :=
  match type with
  | .bool => .ok (boolBytes value)
  | .json => .ok (jsonBytes (.bool value))
  | .jsonb => .ok (jsonbBytes (.bool value))
  | type => bindText type (if value then "true" else "false")

def bind (type : ValueType) (value : SqlValue) : Except BindFault (Option Bytes) :=
  match value with
  | .null => .ok none
  | .bool value => (bindBool type value).map some
  | .int i => (bindInt type i).map some
  | .float x => (bindFloat type x).map some
  | .text s => (bindText type s).map some

/-- Binds a value to a parameter of a type that is bound at all, as not even null is else. -/
def bindChecked (type : ValueType) (value : SqlValue) : Except BindFault (Option Bytes) :=
  if type.isBindable then bind type value else .error (.unbindableType type)

end RecordMapper.Postgres
