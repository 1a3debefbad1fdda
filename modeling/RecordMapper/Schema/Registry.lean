import RecordMapper.Schema.Basic

/-!
Registries of schemas by the name of the record type. Registering a type again replaces its schema.
-/

namespace RecordMapper

abbrev Registry := Members Schema

namespace Registry

def empty : Registry := []

def register (registry : Registry) (recordType : String) (schema : Schema) : Registry :=
  registry.insert recordType schema

def contains (registry : Registry) (recordType : String) : Bool :=
  (registry.get? recordType).isSome

def typeNames (registry : Registry) : List String :=
  registry.map (·.1)

def lookup (registry : Registry) (recordType : String) : Except Fault Schema :=
  match registry.get? recordType with
  | some schema => .ok schema
  | none => .error (.undefinedSchema recordType)

end Registry

end RecordMapper
