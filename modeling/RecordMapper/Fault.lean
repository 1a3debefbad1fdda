import RecordMapper.Identifier
import RecordMapper.Json.Basic
import RecordMapper.Number.Layout
import RecordMapper.Text.Quoted

/-!
What can go wrong, by cause, and the message of each cause.
-/

namespace RecordMapper

inductive UsageFault where
  | unsetConjunction
  | unbalancedGroup
  | unclosedGroup (depth : Nat)
deriving DecidableEq, Repr

def UsageFault.message : UsageFault → String
  | .unsetConjunction => "Unset conjunction: `and()` or `or()` call is missing."
  | .unbalancedGroup =>
    "Unbalanced group: `close_group()` called without a matching `open_group()`."
  | .unclosedGroup depth =>
    "Unclosed group: " ++ String.ofList (natDigits depth) ++
      " `open_group()` call(s) without a matching `close_group()`."

inductive ValidationFault where
  | badName (role name : String) (cause : IdentifierFault)
  | unknownOperator (text : String)
  | noProjection
  | noSource
  | duplicateColumn (column table : String)
  | noKey (verb table : String)
  | nothingToSet (table : String)
  | other (message : String)
deriving DecidableEq, Repr

def ValidationFault.message : ValidationFault → String
  | .badName role name cause => "Invalid " ++ role ++ " '" ++ name ++ "': " ++ cause.message
  | .unknownOperator text => "Unknown operator '" ++ text ++ "'"
  | .noProjection => "Query selects no columns"
  | .noSource => "Query has no source table"
  | .duplicateColumn column table =>
    "Duplicate column '" ++ column ++ "' in schema for table " ++ table
  | .noKey verb table =>
    "Cannot " ++ verb ++ " a row of table " ++ table ++ ": schema has no primary key"
  | .nothingToSet table => "Cannot update table " ++ table ++ ": no columns to set"
  | .other message => message

inductive ConversionFault where
  | wrongType (found : Json) (expected : String)
  | outOfRange (value : Int) (expected : String)
  | wrongLength (length : Nat) (expected : String)
  | missing (member : String)
  | other (message : String)

def Json.unexpected : Json → String
  | .null => "null"
  | .bool value => "boolean `" ++ (if value then "true" else "false") ++ "`"
  | .number (.integer value _) => "integer `" ++ String.ofList (intDigits value) ++ "`"
  | .number (.real x) => "floating point `" ++ String.ofList (Layout.pointed.finiteText x) ++ "`"
  | .string value => "string " ++ quoted value
  | .array _ => "sequence"
  | .object _ => "map"

def ConversionFault.message : ConversionFault → String
  | .wrongType found expected =>
    "invalid type: " ++ found.unexpected ++ ", expected " ++ expected
  | .outOfRange value expected =>
    "invalid value: integer `" ++ String.ofList (intDigits value) ++ "`, expected " ++ expected
  | .wrongLength length expected =>
    "invalid length " ++ String.ofList (natDigits length) ++ ", expected " ++ expected
  | .missing member => "missing field `" ++ member ++ "`"
  | .other message => message

inductive SerializationFault where
  | notAnObject (found : Json)
  | conversion (cause : ConversionFault)
  | hydration (table : String) (cause : ConversionFault)

def SerializationFault.message : SerializationFault → String
  | .notAnObject found => "record must serialize to an object, got " ++ found.kind
  | .conversion cause => cause.message
  | .hydration table cause => "cannot build record for table " ++ table ++ ": " ++ cause.message

inductive QueryFault where
  | refused (code : String)
  | unboundParameter (index : Nat)
  | parameterCount (expected given : Nat)
  | unreadableColumn (index : Nat)
  | noColumn (index : Nat)
  | rowCount
deriving DecidableEq, Repr

def QueryFault.message : QueryFault → String
  | .refused _ => "db error"
  | .unboundParameter index => "error serializing parameter " ++ String.ofList (natDigits index)
  | .parameterCount expected given =>
    "expected " ++ String.ofList (natDigits expected) ++ " parameters but got " ++
      String.ofList (natDigits given)
  | .unreadableColumn index => "error deserializing column " ++ String.ofList (natDigits index)
  | .noColumn index => "invalid column `" ++ String.ofList (natDigits index) ++ "`"
  | .rowCount => "query returned an unexpected number of rows"

def QueryFault.code? : QueryFault → Option String
  | .refused code => some code
  | _ => none

inductive DecodeFault where
  | unsupportedType (name : String)
  | nonFinite (text : String)
  | malformed
  | other (message : String)
deriving DecidableEq, Repr

def DecodeFault.message : DecodeFault → String
  | .unsupportedType name => "unsupported column type " ++ name
  | .nonFinite text => "non-finite float " ++ text
  | .malformed => "cell does not hold a value of its type"
  | .other message => message

inductive Fault where
  | usage (cause : UsageFault)
  | parse (table column message : String)
  | partialKey (table : String)
  | undefinedSchema (recordType : String)
  | notPersisted (table : String)
  | unmappedColumn (table column : String)
  | validation (cause : ValidationFault)
  | serialization (cause : SerializationFault)
  | connection (message : String)
  | query (cause : QueryFault)
  | decode (column : String) (cause : DecodeFault)
  | other (message : String)

namespace Fault

def message : Fault → String
  | .usage cause => "Usage error: " ++ cause.message
  | .parse table column message =>
    "Failed to parse database result for column '" ++ column ++ "' of table " ++ table ++ ": " ++
      message
  | .partialKey table => "Composite key of table " ++ table ++ " is partially set"
  | .undefinedSchema recordType => "Undefined schema for record type " ++ recordType
  | .notPersisted table =>
    "Record is not persisted: cannot delete from table " ++ table ++
      ": record does not portray a stored row"
  | .unmappedColumn table column => "Unmapped column '" ++ column ++ "' for table " ++ table
  | .validation cause => "Validation error: " ++ cause.message
  | .serialization cause => "Serialization error: " ++ cause.message
  | .connection message => "Connection error: " ++ message
  | .query cause => "Query error: " ++ cause.message
  | .decode column cause => "Decode error on column '" ++ column ++ "': " ++ cause.message
  | .other message => message

def isUsage : Fault → Bool
  | .usage _ => true
  | _ => false

def isParse : Fault → Bool
  | .parse .. => true
  | _ => false

def isPartialKey : Fault → Bool
  | .partialKey _ => true
  | _ => false

def isValidation : Fault → Bool
  | .validation _ => true
  | _ => false

end Fault

/-- Takes a text as an identifier; `role` says in the message what it was to name. -/
def Identifier.ofText (role name : String) : Except Fault Identifier :=
  match h : Identifier.fault? name.toList with
  | none => .ok ⟨name, h⟩
  | some cause => .error (.validation (.badName role name cause))

theorem Identifier.ofText_eq_ok_iff {role name : String} {identifier : Identifier} :
    Identifier.ofText role name = .ok identifier ↔ identifier.text = name := by
  unfold Identifier.ofText
  split
  · next h =>
    constructor
    · intro heq
      cases Except.ok.inj heq
      rfl
    · rintro rfl
      rfl
  · next cause h =>
    constructor
    · intro heq
      cases heq
    · rintro rfl
      exact absurd (identifier.valid.symm.trans h) (by simp)

theorem Identifier.valid_of_ofText {role name : String} {identifier : Identifier}
    (h : Identifier.ofText role name = .ok identifier) : Valid name.toList :=
  ofText_eq_ok_iff.1 h ▸ identifier.valid

end RecordMapper
