import RecordMapper.Number.Power

/-!
Binary floating-point numbers by rank. The non-negative numbers of a format are numbered upwards
from zero; a number's rank is its place in that order, which is also its bit pattern without the
sign. Every magnitude is a whole multiple of the smallest positive one, so that rounding, comparing
and cutting off a fraction are exact calculations with natural numbers.
-/

namespace RecordMapper

structure BinaryFormat where
  exponentBits : Nat
  fractionBits : Nat
deriving DecidableEq, Repr

namespace BinaryFormat

def single : BinaryFormat := ⟨8, 23⟩

def double : BinaryFormat := ⟨11, 52⟩

/-- The smallest positive number of the format is `2 ^ -scale`. -/
def scale (f : BinaryFormat) : Nat :=
  2 ^ (f.exponentBits - 1) - 2 + f.fractionBits

/-- The first rank that is no finite number's. -/
def infinity (f : BinaryFormat) : Nat :=
  (2 ^ f.exponentBits - 1) * 2 ^ f.fractionBits

/-- The magnitude at a rank, as a multiple of `2 ^ -scale`. -/
def units (f : BinaryFormat) (rank : Nat) : Nat :=
  if rank < 2 ^ f.fractionBits then rank
  else (2 ^ f.fractionBits + rank % 2 ^ f.fractionBits) * 2 ^ (rank / 2 ^ f.fractionBits - 1)

end BinaryFormat

/-- The whole number nearest to `num / den`; of two, the even one. -/
def roundHalfEven (num den : Nat) : Nat :=
  let whole := num / den
  let rest := num % den
  if 2 * rest < den then whole
  else if den < 2 * rest then whole + 1
  else if whole % 2 = 0 then whole else whole + 1

/-- The rank nearest to the ratio `num / den`; of two, the even one. -/
def BinaryFormat.rankOf (f : BinaryFormat) (num den : Nat) : Nat :=
  let scaled := num * 2 ^ f.scale
  let shift := (scaled / den).log2 - f.fractionBits
  shift * 2 ^ f.fractionBits + roundHalfEven scaled (den * 2 ^ shift)

structure Finite (f : BinaryFormat) where
  negative : Bool
  rank : Nat
  rank_lt : rank < f.infinity
deriving DecidableEq

/-- A number of a format; zeros and values that are not numbers keep their sign. -/
inductive Binary (f : BinaryFormat) where
  | finite (x : Finite f)
  | infinite (negative : Bool)
  | nan (negative : Bool)
deriving DecidableEq

abbrev FiniteDouble := Finite .double

abbrev Double := Binary .double

namespace Finite

variable {f : BinaryFormat}

def units (x : Finite f) : Nat :=
  f.units x.rank

def isZero (x : Finite f) : Bool :=
  x.rank == 0

def isIntegral (x : Finite f) : Bool :=
  x.units % 2 ^ f.scale == 0

def truncate (x : Finite f) : Int :=
  let whole := x.units / 2 ^ f.scale
  if x.negative then -whole else whole

def magnitudeBelow (x : Finite f) (bound : Nat) : Bool :=
  x.units < bound * 2 ^ f.scale

end Finite

namespace Binary

variable {f : BinaryFormat}

/-- The number at a rank, infinite when no finite number has it. -/
def ofRank (f : BinaryFormat) (negative : Bool) (rank : Nat) : Binary f :=
  if h : rank < f.infinity then .finite ⟨negative, rank, h⟩ else .infinite negative

def ofRatio (f : BinaryFormat) (negative : Bool) (num den : Nat) : Binary f :=
  ofRank f negative (f.rankOf num den)

def ofInt (f : BinaryFormat) (i : Int) : Binary f :=
  ofRatio f (i < 0) i.natAbs 1

def convert (g : BinaryFormat) : Binary f → Binary g
  | .finite x => ofRatio g x.negative x.units (2 ^ f.scale)
  | .infinite negative => .infinite negative
  | .nan negative => .nan negative

def finite? : Binary f → Option (Finite f)
  | .finite x => some x
  | _ => none

def isTruthy : Binary f → Bool
  | .finite x => !x.isZero
  | .infinite _ => true
  | .nan _ => false

/-- Equality of values: both zeros are one value, and what is not a number equals nothing. -/
def equals : Binary f → Binary f → Bool
  | .finite x, .finite y => x.rank == y.rank && (x.negative == y.negative || x.isZero)
  | .infinite x, .infinite y => x == y
  | _, _ => false

def toBits : Binary f → Nat
  | .finite x => signBit x.negative + x.rank
  | .infinite negative => signBit negative + f.infinity
  | .nan negative => signBit negative + f.infinity + 2 ^ (f.fractionBits - 1)
where
  signBit (negative : Bool) : Nat :=
    if negative then 2 ^ (f.exponentBits + f.fractionBits) else 0

def ofBits (f : BinaryFormat) (bits : Nat) : Binary f :=
  let half := 2 ^ (f.exponentBits + f.fractionBits)
  let negative := bits / half % 2 == 1
  let rank := bits % half
  if f.infinity < rank then .nan negative else ofRank f negative rank

end Binary

end RecordMapper
