import RecordMapper.Record.Snapshot

/-!
Record types: a name, and the ways to JSON and back, either of which may be refused. A shape describes
a type whose records have given members; it turns an object into the record with all its members, or
says what is wrong.
-/

namespace RecordMapper

structure RecordType (ρ : Type) where
  name : String
  toJson : ρ → Json
  ofJson : Json → Except ConversionFault ρ
  /-- Why a record is not to be written as JSON, if there is a reason. -/
  refusal? : ρ → Option ConversionFault

namespace RecordType

variable {ρ : Type}

def raw (name : String) : RecordType Json :=
  ⟨name, id, .ok, fun _ => none⟩

def snapshot (type : RecordType ρ) (record : ρ) : Except Fault Snapshot :=
  match type.refusal? record with
  | some cause => .error (.serialization (.conversion cause))
  | none => Snapshot.ofJson (type.toJson record)

def ofSnapshot (type : RecordType ρ) (snapshot : Snapshot) : Except Fault ρ :=
  match type.ofJson snapshot.toJson with
  | .ok record => .ok record
  | .error cause => .error (.serialization (.conversion cause))

def assign (type : RecordType ρ) (record : ρ) (member : String) (value : Json) :
    Except Fault ρ := do
  let snapshot ← type.snapshot record
  type.ofSnapshot (snapshot.set member value)

end RecordType

inductive MemberKind where
  | int
  | float
  | boolean
  | text
  | texts
deriving DecidableEq, Repr

namespace MemberKind

def expectation : MemberKind → String
  | .int => "i64"
  | .float => "f64"
  | .boolean => "a boolean"
  | .text => "a string"
  | .texts => "a sequence"

def checkTexts : List Json → Except ConversionFault Unit
  | [] => .ok ()
  | .string _ :: elements => checkTexts elements
  | other :: _ => .error (.wrongType other (expectation .text))

/-- Takes a value as the kind; integers become floats where floats are wanted. -/
def convert (kind : MemberKind) (value : Json) : Except ConversionFault Json :=
  match kind, value with
  | .int, .number (.integer i fits) =>
    if FitsInt64 i then .ok (.number (.integer i fits))
    else .error (.outOfRange i kind.expectation)
  | .float, .number n =>
    match Json.ofDouble? n.toDouble with
    | some x => .ok x
    | none => .error (.wrongType value kind.expectation)
  | .boolean, .bool b => .ok (.bool b)
  | .text, .string s => .ok (.string s)
  | .texts, .array elements => (checkTexts elements).map fun _ => .array elements
  | _, _ => .error (.wrongType value kind.expectation)

end MemberKind

structure MemberShape where
  name : String
  kind : MemberKind
  nullable : Bool

def MemberShape.convert (member : MemberShape) (value : Json) : Except ConversionFault Json :=
  if member.nullable && value.isNull then .ok .null else member.kind.convert value

structure Shape where
  name : String
  members : List MemberShape

namespace Shape

def convertKnown (shape : Shape) : Members Json → Except ConversionFault (Members Json)
  | [] => .ok []
  | (name, value) :: rest =>
    match shape.members.find? fun member => member.name == name with
    | none => shape.convertKnown rest
    | some member => do
      let value ← member.convert value
      let rest ← shape.convertKnown rest
      return (name, value) :: rest

def complete (known : Members Json) : List MemberShape → Except ConversionFault (Members Json)
  | [] => .ok known
  | member :: members =>
    match known.get? member.name with
    | some _ => complete known members
    | none =>
      if member.nullable then complete (known.insert member.name .null) members
      else .error (.missing member.name)

def expectation (shape : Shape) : String :=
  "struct " ++ shape.name

/-- Takes the values of the members in the order of their declaration. All have to be there, also
those that may be null, and nothing else. -/
def convertListed (shape : Shape) (values : List Json) : Except ConversionFault (Members Json) := do
  let size := shape.members.length
  let members ← (shape.members.zip values).mapM fun (member, value) =>
    (member.convert value).map (member.name, ·)
  if values.length < size then
    let elements := if size = 1 then " element" else " elements"
    .error (.wrongLength values.length
      (shape.expectation ++ " with " ++ String.ofList (natDigits size) ++ elements))
  else if size < values.length then
    .error (.wrongLength values.length "fewer elements in array")
  else return Members.ofList members

/-- The record that a value makes up: an object with its members, or their values as an array. -/
def convert (shape : Shape) : Json → Except ConversionFault Json
  | .object members => do
    let known ← shape.convertKnown members
    let all ← complete known shape.members
    return .object all
  | .array values => (shape.convertListed values).map .object
  | other => .error (.wrongType other shape.expectation)

def recordType (shape : Shape) (name : String) : RecordType Json :=
  ⟨name, id, shape.convert, fun _ => none⟩

end Shape

end RecordMapper
