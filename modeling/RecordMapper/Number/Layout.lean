import RecordMapper.Number.Shortest

/-!
The text of a binary number. The digits are the shortest that read back; a layout says which powers
of ten are written with a plain point and how the others are written.
-/

namespace RecordMapper

structure Layout where
  tie : Tie
  /-- Whether a number is written without a power of ten, by the power of its first digit. -/
  plain : Int → Bool
  /-- Whether a plain number without a fraction is given one. -/
  fraction : Bool
  /-- Whether a power of ten that is not negative has a plus sign. -/
  plus : Bool

namespace Layout

def plainText (layout : Layout) (digits : List Char) (exponent : Int) : List Char :=
  let zero := '0'
  if exponent < 0 then
    zero :: '.' :: List.replicate (-exponent - 1).toNat zero ++ digits
  else
    let places := exponent.toNat + 1
    if digits.length ≤ places then
      digits ++ List.replicate (places - digits.length) zero ++
        (if layout.fraction then ['.', zero] else [])
    else digits.take places ++ '.' :: digits.drop places

def scientificText (layout : Layout) (digits : List Char) (exponent : Int) : List Char :=
  let point := if digits.length ≤ 1 then [] else ['.']
  let sign := if 0 ≤ exponent && layout.plus then ['+'] else []
  digits.take 1 ++ point ++ digits.drop 1 ++ 'e' :: sign ++ intDigits exponent

def decimalText (layout : Layout) (d : Decimal) : List Char :=
  let digits := natDigits d.digits
  let exponent := d.exponent + digits.length - 1
  let unsigned :=
    if layout.plain exponent then layout.plainText digits exponent
    else layout.scientificText digits exponent
  if d.negative then '-' :: unsigned else unsigned

def finiteText {f : BinaryFormat} (layout : Layout) (x : Finite f) : List Char :=
  layout.decimalText (x.shortest layout.tie)

def text {f : BinaryFormat} (layout : Layout) : Binary f → List Char
  | .finite x => layout.finiteText x
  | .infinite negative => if negative then "-inf".toList else "inf".toList
  | .nan _ => "NaN".toList

/-- Numbers within documents: plain from `10 ^ -5` to below `10 ^ 16`, always with a fraction or a
power of ten. -/
def document : Layout :=
  ⟨.toEven, fun exponent => -5 ≤ exponent && exponent ≤ 15, true, true⟩

/-- Numbers within statements and texts: never a power of ten, no needless fraction. -/
def display : Layout :=
  ⟨.up, fun _ => true, false, false⟩

/-- Numbers within messages about conversions: never a power of ten, always a fraction. -/
def pointed : Layout :=
  ⟨.up, fun _ => true, true, false⟩

/-- Numbers within descriptions of values: plain from `10 ^ -4` to below `10 ^ 16`, always with a
fraction or a power of ten. -/
def descriptive : Layout :=
  ⟨.up, fun exponent => -4 ≤ exponent && exponent ≤ 15, true, false⟩

end Layout

end RecordMapper
