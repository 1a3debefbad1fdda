/-!
The types of parameters and result columns.
-/

namespace RecordMapper.Postgres

inductive ValueType where
  | bool
  | int2
  | int4
  | int8
  | oid
  | float4
  | float8
  | text
  | varchar
  | bpchar
  | name
  | unknown
  | json
  | jsonb
  | uuid
  | timestamp
  | timestamptz
  | date
  /-- A type of which only the name is known. -/
  | other (name : String)
deriving DecidableEq, Repr

namespace ValueType

def typeName : ValueType → String
  | .bool => "bool"
  | .int2 => "int2"
  | .int4 => "int4"
  | .int8 => "int8"
  | .oid => "oid"
  | .float4 => "float4"
  | .float8 => "float8"
  | .text => "text"
  | .varchar => "varchar"
  | .bpchar => "bpchar"
  | .name => "name"
  | .unknown => "unknown"
  | .json => "json"
  | .jsonb => "jsonb"
  | .uuid => "uuid"
  | .timestamp => "timestamp"
  | .timestamptz => "timestamptz"
  | .date => "date"
  | .other given => given

def known : List ValueType :=
  [.bool, .int2, .int4, .int8, .oid, .float4, .float8, .text, .varchar, .bpchar, .name, .unknown,
    .json, .jsonb, .uuid, .timestamp, .timestamptz, .date]

def ofName (name : String) : ValueType :=
  (known.find? fun type => type.typeName == name).getD (.other name)

def isTextual : ValueType → Bool
  | .text | .varchar | .bpchar | .name | .unknown => true
  | _ => false

def isBindable : ValueType → Bool
  | .oid | .other _ => false
  | _ => true

end ValueType

end RecordMapper.Postgres
