import RecordMapper.Json.Parser
import RecordMapper.SqlValue
import RecordMapper.Text.Blank

/-!
Conversions of loosely typed JSON values. Each takes a value that may be undefined, and none is left
without an answer: what cannot be converted has no result.
-/

namespace RecordMapper.Cast

def failureMessage : String := "value cannot be converted"

def int64Range : IntegerRange := .signed 64

def bigIntRange : IntegerRange := .signed 128

/-- A text is true when it says `true` in any case or is a number other than zero. -/
def textToBoolean (cs : List Char) : Bool :=
  let word := trim cs
  if word.map Char.toLower = "true".toList then true
  else match Binary.read .double word with
    | .ok x => x.isTruthy
    | .error _ => false

def toBoolean : Option Json → Bool
  | some (.bool value) => value
  | some (.number n) => n.toDouble.isTruthy
  | some (.string s) => textToBoolean s.toList
  | _ => false

/-- A double without its fraction. The bounds are those of the double's own format: the least 64-bit
integer, and the power of two above the greatest, which becomes the greatest. -/
def truncateToInt64? (x : FiniteDouble) : Option Int64 :=
  let whole := x.truncate
  if FitsInt64 whole then some (Int64.ofInt whole)
  else if whole = 9223372036854775808 then some 9223372036854775807
  else none

def numberToInt (n : Json.Number) : Option Int64 :=
  match n.int64? with
  | some i => some i
  | none => n.toDouble.finite?.bind truncateToInt64?

def textToInt (cs : List Char) : Option Int64 :=
  match leadingInteger? (trimStart cs) with
  | none => none
  | some digits =>
    match int64Range.read digits with
    | .ok i => some (Int64.ofInt i)
    | .error _ => none

def toInt : Option Json → Option Int64
  | some (.bool value) => some (if value then 1 else 0)
  | some (.number n) => numberToInt n
  | some (.string s) => textToInt s.toList
  | _ => none

def textToFloat (cs : List Char) : Option Double :=
  let start := trimStart cs
  let (negative, unsigned) := takeSign start
  if "Infinity".toList.isPrefixOf unsigned then some (.infinite negative)
  else (Decimal.scan? start).map fun (d, _) => .ofDecimal .double d

def toFloat : Option Json → Option Double
  | some (.bool value) => some (.ofInt .double (if value then 1 else 0))
  | some (.number n) => some n.toDouble
  | some (.string s) => textToFloat s.toList
  | _ => none

/-- Doubles from this one on are refused as big integers: the double nearest to `1.7 * 10 ^ 38`. -/
def bigIntBound : Nat := 169999999999999998061923293023115935744

def numberToBigInt : Json.Number → Option Int
  | .integer value _ => some value
  | .real x => if x.isIntegral && x.magnitudeBelow bigIntBound then some x.truncate else none

/-- A whole text as an integer; a blank one is zero. -/
def textToBigInt (cs : List Char) : Option Int :=
  let word := trim cs
  if word = [] then some 0
  else match bigIntRange.read word with
    | .ok i => some i
    | .error _ => none

def toBigInt : Option Json → Option Int
  | some (.bool value) => some (if value then 1 else 0)
  | some (.number n) => numberToBigInt n
  | some (.string s) => textToBigInt s.toList
  | _ => none

/-- The text of a number: whole doubles below `10 ^ 21` have all their digits and no point. -/
def numberText : Json.Number → List Char
  | .integer value _ => intDigits value
  | .real x =>
    if x.isIntegral && x.magnitudeBelow 1000000000000000000000 then
      let digits := natDigits x.truncate.natAbs
      if x.negative then '-' :: digits else digits
    else Layout.display.finiteText x

def toText : Option Json → String
  | none => "undefined"
  | some .null => "null"
  | some (.string s) => s
  | some (.bool value) => if value then "true" else "false"
  | some (.number n) => String.ofList (numberText n)
  | some (.array elements) => (Json.array elements).print
  | some (.object members) => (Json.object members).print

def toStructured : Option Json → Option Json
  | none => none
  | some (.string s) => Json.ofString? s
  | some value => some value

end RecordMapper.Cast
