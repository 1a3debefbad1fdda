import RecordMapper.Fault
import RecordMapper.Json.Parser
import RecordMapper.Postgres.Bytes
import RecordMapper.Postgres.Instant
import RecordMapper.Postgres.Uuid
import RecordMapper.Postgres.ValueType

/-!
Decoding the cells of a result. A cell's bytes become the JSON value that its column's type says; a
cell without bytes is null.
-/

namespace RecordMapper.Postgres

def decoded (value : Option Json) : Except DecodeFault Json :=
  match value with
  | some value => .ok value
  | none => .error .malformed

def decodeInt (width : Nat) (bytes : Bytes) : Except DecodeFault Json :=
  if bytes.length = width then .ok (.ofInt64 (Int64.ofInt (bytesInt bytes)))
  else .error .malformed

def decodeFloat (f : BinaryFormat) (width : Nat) (bytes : Bytes) : Except DecodeFault Json :=
  if bytes.length = width then
    let x : Double := (Binary.ofBits f (bytesNat bytes)).convert .double
    match Json.ofDouble? x with
    | some value => .ok value
    | none => .error (.nonFinite (String.ofList (Layout.display.text x)))
  else .error .malformed

def textJson (cs : List Char) : Json :=
  .string (String.ofList cs)

/-- A truth value is one byte, of which only zero is false. -/
def decodeBool : Bytes → Except DecodeFault Json
  | [byte] => .ok (.bool (byte ≠ 0))
  | _ => .error .malformed

def decodeJsonb : Bytes → Except DecodeFault Json
  | 1 :: bytes => decoded ((bytesText? bytes).bind Json.ofString?)
  | _ => .error .malformed

def decodeInstant (width : Nat) (text? : Int → Option (List Char)) (bytes : Bytes) :
    Except DecodeFault Json :=
  if bytes.length = width then decoded ((text? (bytesInt bytes)).map textJson)
  else .error .malformed

def decodeBytes (type : ValueType) (bytes : Bytes) : Except DecodeFault Json :=
  match type with
  | .bool => decodeBool bytes
  | .int2 => decodeInt 2 bytes
  | .int4 => decodeInt 4 bytes
  | .int8 => decodeInt 8 bytes
  | .oid =>
    if bytes.length = 4 then .ok (.ofInt64 (Int64.ofInt (bytesNat bytes)))
    else .error .malformed
  | .float4 => decodeFloat .single 4 bytes
  | .float8 => decodeFloat .double 8 bytes
  | .text | .varchar | .bpchar | .name | .unknown => decoded ((bytesText? bytes).map .string)
  | .json => decoded ((bytesText? bytes).bind Json.ofString?)
  | .jsonb => decodeJsonb bytes
  | .uuid => if bytes.length = 16 then .ok (textJson (Uuid.text bytes)) else .error .malformed
  | .timestamptz => decodeInstant 8 Instant.zonedText? bytes
  | .timestamp => decodeInstant 8 Instant.localText? bytes
  | .date => decodeInstant 4 (fun days => (Instant.date? days).map Date.text) bytes
  | .other name => .error (.unsupportedType name)

/-- The value of a cell. A type that is not decoded is refused for null as well. -/
def decodeCell (type : ValueType) (cell : Option Bytes) : Except DecodeFault Json :=
  match type, cell with
  | .other name, _ => .error (.unsupportedType name)
  | _, none => .ok .null
  | type, some bytes => decodeBytes type bytes

/-- A row's columns from left to right; of two with one name the later counts. -/
def decodeRow (columns : List (String × ValueType)) (cells : List (Option Bytes)) :
    Except Fault (Members Json) := do
  let values ← (columns.zip cells).mapM fun ((name, type), cell) =>
    match decodeCell type cell with
    | .ok value => .ok (name, value)
    | .error cause => .error (Fault.decode name cause)
  return Members.ofList values

end RecordMapper.Postgres
