import RecordMapper.Json.Printer
import RecordMapper.Number.Scaled
import RecordMapper.Text.Hex

/-!
Reading JSON text. Each reader takes a value from the front of a text and gives the rest. Containers
nest at most `maxNesting` deep; every step into an element leaves a character behind, so that the
length of the text bounds the depth of the calls.
-/

namespace RecordMapper.Json

def maxNesting : Nat := 127

def isSpace (c : Char) : Bool :=
  c = ' ' || c = '\t' || c = '\n' || c = '\r'

def skipSpace (cs : List Char) : List Char :=
  cs.dropWhile isSpace

def shortEscaped? (letter : Char) : Option Char :=
  match letter with
  | '"' => some '"'
  | '\\' => some '\\'
  | '/' => some '/'
  | 'b' => some '\x08'
  | 'f' => some '\x0c'
  | 'n' => some '\n'
  | 'r' => some '\r'
  | 't' => some '\t'
  | _ => none

def hexUnit? (a b c d : Char) : Option Nat := do
  let a ← hexDigit? a
  let b ← hexDigit? b
  let c ← hexDigit? c
  let d ← hexDigit? d
  return ((a * 16 + b) * 16 + c) * 16 + d

def surrogatePair? (high low : Nat) : Option Char :=
  if 0xD800 ≤ high ∧ high < 0xDC00 ∧ 0xDC00 ≤ low ∧ low < 0xE000 then
    some (Char.ofNat (0x10000 + (high - 0xD800) * 0x400 + (low - 0xDC00)))
  else none

def readString : List Char → Option (List Char × List Char)
  | [] => none
  | '"' :: rest => some ([], rest)
  | '\\' :: 'u' :: a :: b :: c :: d :: rest =>
    match hexUnit? a b c d with
    | none => none
    | some unit =>
      if unit < 0xD800 ∨ 0xE000 ≤ unit then
        (readString rest).map fun (cs, rest) => (Char.ofNat unit :: cs, rest)
      else match rest with
        | '\\' :: 'u' :: e :: f :: g :: h :: rest =>
          match (hexUnit? e f g h).bind (surrogatePair? unit) with
          | none => none
          | some char => (readString rest).map fun (cs, rest) => (char :: cs, rest)
        | _ => none
  | '\\' :: letter :: rest =>
    match shortEscaped? letter with
    | none => none
    | some char => (readString rest).map fun (cs, rest) => (char :: cs, rest)
  | c :: rest =>
    if c = '\\' ∨ c.toNat < 0x20 then none
    else (readString rest).map fun (cs, rest) => (c :: cs, rest)

/-- The digits before the point: a zero alone, or digits that do not start with one. -/
def takeWhole : List Char → List Char × List Char
  | '0' :: rest => (['0'], rest)
  | cs => (cs.takeWhile Char.isDigit, cs.dropWhile Char.isDigit)

/-- The number that digits before a point, digits behind it and a power of ten write. Digits alone
are an integer where one fits and the text is not a negative zero. All else is a double, brought to
its size in the arithmetic of doubles, and must be finite. -/
def Number.ofParts? (negative : Bool) (whole : List Char) (fraction : Option (List Char))
    (exponent : Option Int) : Option Number :=
  let magnitude : Int := digitsValue whole
  let value := if negative then -magnitude else magnitude
  if h : FitsWord value ∧ ¬(negative = true ∧ value = 0) ∧ fraction = none ∧ exponent = none then
    some (.integer value h.1)
  else
    (Decimal.ofLeadingParts negative whole (fraction.getD []) (exponent.getD 0)).scaled?.map .real

def readUnsigned (negative : Bool) (cs : List Char) : Option (Number × List Char) :=
  let (whole, behind) := takeWhole cs
  let (fraction, behind) := takeFraction behind
  let (exponent, rest) := takeExponent behind
  if whole = [] ∨ fraction = some [] then none
  else (Number.ofParts? negative whole fraction exponent).map (·, rest)

def readNumber : List Char → Option (Number × List Char)
  | '-' :: cs => readUnsigned true cs
  | cs => readUnsigned false cs

mutual

/-- Reads a value that may hold `room` containers within each other. -/
def readValue : (fuel room : Nat) → List Char → Option (Json × List Char)
  | 0, _, _ => none
  | fuel + 1, room, cs =>
    match skipSpace cs with
    | 'n' :: 'u' :: 'l' :: 'l' :: rest => some (.null, rest)
    | 't' :: 'r' :: 'u' :: 'e' :: rest => some (.bool true, rest)
    | 'f' :: 'a' :: 'l' :: 's' :: 'e' :: rest => some (.bool false, rest)
    | '"' :: rest => (readString rest).map fun (s, rest) => (.string (String.ofList s), rest)
    | '[' :: rest =>
      match room with
      | 0 => none
      | room + 1 =>
        match skipSpace rest with
        | ']' :: rest => some (.array [], rest)
        | rest => do
          let (value, rest) ← readValue fuel room rest
          let (elements, rest) ← readElements fuel room rest
          return (.array (value :: elements), rest)
    | '{' :: rest =>
      match room with
      | 0 => none
      | room + 1 =>
        match skipSpace rest with
        | '}' :: rest => some (.object [], rest)
        | rest => do
          let (member, rest) ← readMember fuel room rest
          let (members, rest) ← readMembers fuel room rest
          return (.object (Members.ofList (member :: members)), rest)
    | rest => (readNumber rest).map fun (n, rest) => (.number n, rest)

def readElements : (fuel room : Nat) → List Char → Option (List Json × List Char)
  | 0, _, _ => none
  | fuel + 1, room, cs =>
    match skipSpace cs with
    | ']' :: rest => some ([], rest)
    | ',' :: rest => do
      let (value, rest) ← readValue fuel room rest
      let (elements, rest) ← readElements fuel room rest
      return (value :: elements, rest)
    | _ => none

def readMember : (fuel room : Nat) → List Char → Option ((String × Json) × List Char)
  | 0, _, _ => none
  | fuel + 1, room, cs =>
    match skipSpace cs with
    | '"' :: rest => do
      let (name, rest) ← readString rest
      match skipSpace rest with
      | ':' :: rest =>
        let (value, rest) ← readValue fuel room rest
        return ((String.ofList name, value), rest)
      | _ => none
    | _ => none

def readMembers : (fuel room : Nat) → List Char → Option (List (String × Json) × List Char)
  | 0, _, _ => none
  | fuel + 1, room, cs =>
    match skipSpace cs with
    | '}' :: rest => some ([], rest)
    | ',' :: rest => do
      let (member, rest) ← readMember fuel room rest
      let (members, rest) ← readMembers fuel room rest
      return (member :: members, rest)
    | _ => none

end

def parse? (cs : List Char) : Option Json :=
  match readValue (cs.length + 1) maxNesting cs with
  | some (value, rest) => if skipSpace rest = [] then some value else none
  | none => none

def ofString? (s : String) : Option Json :=
  parse? s.toList

end RecordMapper.Json
