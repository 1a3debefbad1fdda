import RecordMapper.Number.Decimal

/-!
The shortest decimal that reads back. For one digit, two digits and so on the two neighbours of a
number on that decimal grid are rounded; the first grid with a neighbour that rounds to the number
gives its text. Of two such neighbours the nearer is taken.
-/

namespace RecordMapper

inductive Tie where
  | toEven
  | up
deriving DecidableEq, Repr

def decimalLength (n : Nat) : Nat :=
  if n = 0 then 0 else (natDigits n).length

/-- Moves zeros at the end of the digits into the exponent, at most `count` of them. -/
def stripZeros (negative : Bool) : (count digits : Nat) → (exponent : Int) → Decimal
  | 0, digits, exponent => ⟨negative, digits, exponent⟩
  | count + 1, digits, exponent =>
    if digits % 10 = 0 then stripZeros negative count (digits / 10) (exponent + 1)
    else ⟨negative, digits, exponent⟩

namespace Finite

variable {f : BinaryFormat}

def leadingExponent (x : Finite f) : Int :=
  let one := 2 ^ f.scale
  if one ≤ x.units then decimalLength (x.units / one) - 1
  else -(decimalLength ((one - 1) / x.units) : Int)

/-- The neighbour on the grid `10 ^ exponent` that rounds to the number. -/
def neighbour? (tie : Tie) (x : Finite f) (exponent : Int) : Option Nat :=
  let num := x.units * 10 ^ (-exponent).toNat
  let den := 2 ^ f.scale * 10 ^ exponent.toNat
  let below := num / den
  let rest := num % den
  let readsBack (digits : Nat) : Bool :=
    Binary.ofDecimal f ⟨x.negative, digits, exponent⟩ = .finite x
  let lower := 2 * rest < den || (2 * rest == den && tie = .toEven && below % 2 == 0)
  match readsBack below, readsBack (below + 1) with
  | true, true => some (if lower then below else below + 1)
  | true, false => some below
  | false, true => some (below + 1)
  | false, false => none

def searchDecimal (tie : Tie) (x : Finite f) : (more digits : Nat) → Option Decimal
  | 0, _ => none
  | more + 1, digits =>
    let exponent := x.leadingExponent + 1 - digits
    match x.neighbour? tie exponent with
    | some found => some (stripZeros x.negative digits found exponent)
    | none => x.searchDecimal tie more (digits + 1)

/-- The shortest decimal that rounds to the number. Seventeen digits suffice for doubles; the exact
value stands behind the search. -/
def shortest (tie : Tie) (x : Finite f) : Decimal :=
  if x.isZero then ⟨x.negative, 0, 0⟩
  else (x.searchDecimal tie 17 1).getD ⟨x.negative, x.units * 5 ^ f.scale, -f.scale⟩

end Finite

end RecordMapper
