import RecordMapper.Number.Power

/-!
Reading decimal integers of a given range. The text is read from left to right, and the first
character that is no digit, or that takes the number out of its range, decides the fault.
-/

namespace RecordMapper

inductive IntegerFault where
  | empty
  | invalidDigit
  | tooLarge
  | tooSmall
deriving DecidableEq, Repr

def IntegerFault.message : IntegerFault → String
  | .empty => "cannot parse integer from empty string"
  | .invalidDigit => "invalid digit found in string"
  | .tooLarge => "number too large to fit in target type"
  | .tooSmall => "number too small to fit in target type"

structure IntegerRange where
  least : Int
  greatest : Int
deriving DecidableEq, Repr

abbrev FitsInt64 (i : Int) : Prop :=
  -9223372036854775808 ≤ i ∧ i < 9223372036854775808

/-- An integer of 64 bits, with a sign or without one. -/
abbrev FitsWord (i : Int) : Prop :=
  -9223372036854775808 ≤ i ∧ i < 18446744073709551616

def digitValue (c : Char) : Nat :=
  c.toNat - '0'.toNat

def digitsValue (cs : List Char) : Nat :=
  cs.foldl (fun value c => value * 10 + digitValue c) 0

def natDigits (n : Nat) : List Char :=
  Nat.toDigits 10 n

def intDigits (i : Int) : List Char :=
  if i < 0 then '-' :: natDigits i.natAbs else natDigits i.natAbs

def takeSign : List Char → Bool × List Char
  | '-' :: cs => (true, cs)
  | '+' :: cs => (false, cs)
  | cs => (false, cs)

theorem takeSign_of_head {cs : List Char} (h : ∀ c ∈ cs.head?, ¬ (c = '+' ∨ c = '-')) :
    takeSign cs = (false, cs) := by
  unfold takeSign
  split
  · exact absurd (.inr rfl) (h '-' rfl)
  · exact absurd (.inl rfl) (h '+' rfl)
  · rfl

namespace IntegerRange

def signed (bits : Nat) : IntegerRange :=
  ⟨-(2 ^ (bits - 1)), 2 ^ (bits - 1) - 1⟩

def unsigned (bits : Nat) : IntegerRange :=
  ⟨0, 2 ^ bits - 1⟩

def Holds (range : IntegerRange) (i : Int) : Prop :=
  range.least ≤ i ∧ i ≤ range.greatest

instance (range : IntegerRange) (i : Int) : Decidable (range.Holds i) :=
  inferInstanceAs (Decidable (_ ∧ _))

/-- Continues a number with the digits of a text; after a minus sign they count downwards. -/
def readDigits (range : IntegerRange) (negative : Bool) : Int → List Char →
    Except IntegerFault Int
  | value, [] => .ok value
  | value, c :: cs =>
    if c.isDigit then
      let next := if negative then value * 10 - digitValue c else value * 10 + digitValue c
      if range.greatest < next then .error .tooLarge
      else if next < range.least then .error .tooSmall
      else range.readDigits negative next cs
    else .error .invalidDigit

/-- Reads a whole text: an optional sign and at least one digit. A range without negative numbers
takes no minus sign. -/
def read (range : IntegerRange) (cs : List Char) : Except IntegerFault Int :=
  match cs with
  | [] => .error .empty
  | c :: rest =>
    if rest = [] ∧ (c = '+' ∨ c = '-') then .error .invalidDigit
    else if c = '-' then
      if range.least < 0 then range.readDigits true 0 rest else .error .invalidDigit
    else if c = '+' then range.readDigits false 0 rest
    else range.readDigits false 0 cs

def narrow (range : IntegerRange) (i : Int) : Except IntegerFault Int :=
  if range.greatest < i then .error .tooLarge
  else if i < range.least then .error .tooSmall
  else .ok i

end IntegerRange

def leadingDigits? (cs : List Char) : Option (List Char) :=
  match cs.takeWhile Char.isDigit with
  | [] => none
  | digits => some digits

def leadingInteger? : List Char → Option (List Char)
  | [] => none
  | c :: cs =>
    if c = '+' ∨ c = '-' then (leadingDigits? cs).map (c :: ·) else leadingDigits? (c :: cs)

end RecordMapper
