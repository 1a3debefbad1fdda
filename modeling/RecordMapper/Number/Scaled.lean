import RecordMapper.Number.Decimal

/-!
Decimals brought to doubles in the arithmetic of doubles. The digits that fit a word are kept, the
word is rounded to a double, and that is multiplied or divided by the double nearest to a power of
ten. Every operation rounds once, so that the outcome is near the decimal and need not be the double
nearest to it.
-/

namespace RecordMapper

/-- Continues a number with digits as long as it fits a word of 64 bits, and gives the digits that
are left. -/
def takeWord (value : Nat) : List Char → Nat × List Char
  | [] => (value, [])
  | c :: cs =>
    let next := value * 10 + digitValue c
    if next < 18446744073709551616 then takeWord next cs else (value, c :: cs)

/-- The number written by digits before a point, digits behind it and a power of ten, kept to the
digits that fit a word. A digit before the point that does not fit leaves its place to the power of
ten; one behind the point is dropped with all that follow. -/
def Decimal.ofLeadingParts (negative : Bool) (whole fraction : List Char) (exponent : Int) :
    Decimal :=
  let (value, places) := takeWord 0 whole
  let (digits, dropped) := takeWord value fraction
  ⟨negative, digits, exponent + places.length + dropped.length - fraction.length⟩

def maxTenPower : Nat := 308

/-- The double nearest to a power of ten up to `10 ^ maxTenPower`, as a multiple of the smallest
positive one. -/
def tenPowerUnits (power : Nat) : Nat :=
  BinaryFormat.double.units (BinaryFormat.double.rankOf (10 ^ power) 1)

def Finite.timesTenPower (x : FiniteDouble) (power : Nat) : Double :=
  .ofRatio .double x.negative (x.units * tenPowerUnits power) (2 ^ (2 * BinaryFormat.double.scale))

def Finite.overTenPower (x : FiniteDouble) (power : Nat) : Double :=
  .ofRatio .double x.negative x.units (tenPowerUnits power)

/-- The double of a decimal whose digits fit a word, if it is in range. Zero keeps its sign under
any power of ten. A greater power than `10 ^ maxTenPower` is out of range upwards; downwards it is
divided off in two steps, and nothing is left of a word behind them. -/
def Decimal.scaled? (d : Decimal) : Option FiniteDouble := do
  let x ← (Binary.ofRatio .double d.negative d.digits 1).finite?
  let power := d.exponent.natAbs
  if x.isZero then return x
  else if 0 ≤ d.exponent then
    if power ≤ maxTenPower then (x.timesTenPower power).finite? else none
  else if power ≤ maxTenPower then (x.overTenPower power).finite?
  else if power ≤ 2 * maxTenPower then do
    let y ← (x.overTenPower maxTenPower).finite?
    (y.overTenPower (power - maxTenPower)).finite?
  else (Binary.ofRank .double d.negative 0).finite?

end RecordMapper
