import RecordMapper.Number.Binary
import RecordMapper.Number.Integer

/-!
Decimal numbers as they are written: a sign, digits and a power of ten. A text is scanned for the
longest beginning that writes a number, and a decimal is rounded once to the nearest binary number.
-/

namespace RecordMapper

/-- The number `digits * 10 ^ exponent`, with a sign that also zero keeps. -/
structure Decimal where
  negative : Bool
  digits : Nat
  exponent : Int
deriving DecidableEq, Repr

/-- The nearest binary number. Powers of ten that leave no doubt about the answer are not computed:
above the format's range all but zero is infinite, and far below its smallest number all is zero. -/
def Binary.ofDecimal (f : BinaryFormat) (d : Decimal) : Binary f :=
  if d.digits = 0 then ofRank f d.negative 0
  else if (2 ^ f.exponentBits : Nat) < d.exponent then .infinite d.negative
  else if d.exponent + d.digits.log2 + 1 < -(2 ^ f.exponentBits + f.fractionBits : Nat) then
    ofRank f d.negative 0
  else
    ofRatio f d.negative (d.digits * 10 ^ d.exponent.toNat) (10 ^ (-d.exponent).toNat)

/-- A power of ten behind a number: the letter, an optional sign and digits. Without digits there is
none, and nothing is taken from the text. -/
def takeExponent (cs : List Char) : Option Int × List Char :=
  match cs with
  | [] => (none, cs)
  | c :: rest =>
    if c = 'e' ∨ c = 'E' then
      let (negative, unsigned) := takeSign rest
      match leadingDigits? unsigned with
      | none => (none, cs)
      | some digits =>
        let magnitude : Int := digitsValue digits
        (some (if negative then -magnitude else magnitude), unsigned.dropWhile Char.isDigit)
    else (none, cs)

def takeFraction : List Char → Option (List Char) × List Char
  | '.' :: cs => (some (cs.takeWhile Char.isDigit), cs.dropWhile Char.isDigit)
  | cs => (none, cs)

theorem takeFraction_of_head {cs : List Char} (h : ∀ c ∈ cs.head?, c ≠ '.') : takeFraction cs = (none, cs) := by
  unfold takeFraction
  split
  · exact absurd rfl (h '.' rfl)
  · rfl

def Decimal.ofParts (negative : Bool) (whole fraction : List Char) (exponent : Int) : Decimal :=
  ⟨negative, digitsValue (whole ++ fraction), exponent - fraction.length⟩

/-- The longest beginning of a text that writes a number, and the rest: an optional sign, digits
with at most one point before, between or behind them, and an optional power of ten. -/
def Decimal.scan? (cs : List Char) : Option (Decimal × List Char) :=
  let (negative, unsigned) := takeSign cs
  let whole := unsigned.takeWhile Char.isDigit
  let (point, behind) := takeFraction (unsigned.dropWhile Char.isDigit)
  let fraction := point.getD []
  if whole = [] ∧ fraction = [] then none
  else
    let (exponent, rest) := takeExponent behind
    some (ofParts negative whole fraction (exponent.getD 0), rest)

inductive FloatFault where
  | empty
  | invalid
deriving DecidableEq, Repr

def FloatFault.message : FloatFault → String
  | .empty => "cannot parse float from empty string"
  | .invalid => "invalid float literal"

/-- Reads a whole text: a decimal number, or after an optional sign one of the words `inf`,
`infinity` and `nan` in any case. -/
def Binary.read (f : BinaryFormat) (cs : List Char) : Except FloatFault (Binary f) :=
  let (negative, unsigned) := takeSign cs
  let word := unsigned.map Char.toLower
  if cs = [] then .error .empty
  else if word = "inf".toList ∨ word = "infinity".toList then .ok (.infinite negative)
  else if word = "nan".toList then .ok (.nan negative)
  else match Decimal.scan? cs with
    | some (d, []) => .ok (ofDecimal f d)
    | _ => .error .invalid

end RecordMapper
