import RecordMapper.Postgres.Calendar
import RecordMapper.Text.Blank

/-!
Dates and times as text and as microseconds from the first of January 2000. A moment with an offset
is written in fixed fields; a moment without one, and a date, allow blanks between the fields.
-/

namespace RecordMapper.Postgres

def nanosPerSecond : Int := 1000000000

def microsPerDay : Int := 86400000000

/-! Reading. Each reader takes its part from the front of a text and gives the rest. -/

namespace Instant

def takeChar (c : Char) : List Char → Option (List Char)
  | d :: cs => if d = c then some cs else none
  | [] => none

def takeDigits (most : Nat) (cs : List Char) : Option (Nat × List Char) :=
  match (cs.take most).takeWhile Char.isDigit with
  | [] => none
  | digits => some (digitsValue digits, cs.drop digits.length)

def takeFixed (width : Nat) (cs : List Char) : Option (Nat × List Char) :=
  let digits := cs.take width
  if digits.length = width ∧ digits.all Char.isDigit then
    some (digitsValue digits, cs.drop width)
  else none

/-- Takes a point and digits as nanoseconds, of which there are nine digits; without a point there
are none. -/
def takeNanos (cs : List Char) : Option (Nat × List Char) :=
  match cs with
  | '.' :: rest =>
    match rest.takeWhile Char.isDigit with
    | [] => none
    | digits =>
      let places := (digits ++ List.replicate 9 '0').take 9
      some (digitsValue places, rest.drop digits.length)
  | _ => some (0, cs)

/-- The nanoseconds of a day up to a time. A sixtieth second is the leap second. -/
def clockNanos? (hour minute second nanos : Nat) : Option Int :=
  if hour ≤ 23 ∧ minute ≤ 59 ∧ second ≤ 60 then
    some ((hour * 3600 + minute * 60 + second : Nat) * nanosPerSecond + nanos)
  else none

def dayNumber? (year : Int) (month day : Nat) : Option Int :=
  let date : Date := ⟨year, month, day⟩
  if date.Valid then some date.toDays else none

/-- Nanoseconds as microseconds; finer digits are cut off towards zero. -/
def microsOfNanos (nanos : Int) : Int :=
  nanos.tdiv 1000

/-- Takes an offset from universal time in seconds: `Z`, or a sign, hours, a colon and minutes. -/
def takeOffset : List Char → Option (Int × List Char)
  | [] => none
  | c :: cs =>
    if c = 'Z' ∨ c = 'z' then some (0, cs)
    else if c = '+' ∨ c = '-' ∨ c = '\u2212' then do
      let (hours, cs) ← takeFixed 2 cs
      let cs ← takeChar ':' cs
      let (minutes, cs) ← takeFixed 2 cs
      if 59 < minutes ∨ 23 < hours then none
      else
        let seconds : Int := (hours * 3600 + minutes * 60 : Nat)
        some (if c = '+' then seconds else -seconds, cs)
    else none

def takeSeparator : List Char → Option (List Char)
  | c :: cs => if c = 'T' ∨ c = 't' ∨ c = ' ' then some cs else none
  | [] => none

def readZoned? (cs : List Char) : Option Int := do
  let (year, cs) ← takeFixed 4 cs
  let cs ← takeChar '-' cs
  let (month, cs) ← takeFixed 2 cs
  let cs ← takeChar '-' cs
  let (day, cs) ← takeFixed 2 cs
  let cs ← takeSeparator cs
  let (hour, cs) ← takeFixed 2 cs
  let cs ← takeChar ':' cs
  let (minute, cs) ← takeFixed 2 cs
  let cs ← takeChar ':' cs
  let (second, cs) ← takeFixed 2 cs
  let (nanos, cs) ← takeNanos cs
  let (offset, cs) ← takeOffset cs
  let days ← dayNumber? year month day
  let clock ← clockNanos? hour minute second nanos
  if cs = [] then
    return microsOfNanos ((days * 86400 - offset) * nanosPerSecond + clock)
  else none

/-- Takes a year of up to four digits, or of any number of digits behind a sign. -/
def takeYear (cs : List Char) : Option (Int × List Char) :=
  match trimStart cs with
  | '-' :: cs => (takeDigits cs.length cs).map fun (year, cs) => (-year, cs)
  | '+' :: cs => (takeDigits cs.length cs).map fun (year, cs) => (year, cs)
  | cs => (takeDigits 4 cs).map fun (year, cs) => (year, cs)

def takeField (cs : List Char) : Option (Nat × List Char) :=
  takeDigits 2 (trimStart cs)

def takeMark (c : Char) (cs : List Char) : Option (List Char) :=
  takeChar c (trimStart cs)

def takeDate (cs : List Char) : Option (Int × List Char) := do
  let (year, cs) ← takeYear cs
  let cs ← takeMark '-' cs
  let (month, cs) ← takeField cs
  let cs ← takeMark '-' cs
  let (day, cs) ← takeField cs
  let days ← dayNumber? year month day
  return (days, cs)

def readDate? (cs : List Char) : Option Int := do
  let (days, cs) ← takeDate cs
  if trimStart cs = [] then return days else none

def readLocal? (cs : List Char) : Option Int := do
  let (days, cs) ← takeDate cs
  let cs ← takeMark 'T' cs
  let (hour, cs) ← takeField cs
  let cs ← takeMark ':' cs
  let (minute, cs) ← takeField cs
  let cs ← takeMark ':' cs
  let (second, cs) ← takeField cs
  let (nanos, cs) ← takeNanos cs
  let clock ← clockNanos? hour minute second nanos
  if trimStart cs = [] then
    return microsOfNanos (days * 86400 * nanosPerSecond + clock)
  else none

/-! Writing. -/

/-- A fraction of a second has three or six digits, or is left out. -/
def fractionText (micros : Nat) : List Char :=
  if micros = 0 then []
  else if micros % 1000 = 0 then '.' :: Date.paddedDigits 3 (micros / 1000)
  else '.' :: Date.paddedDigits 6 micros

def clockText (micros : Nat) : List Char :=
  let seconds := micros / 1000000
  Date.paddedDigits 2 (seconds / 3600) ++ ':' :: Date.paddedDigits 2 (seconds / 60 % 60) ++
    ':' :: Date.paddedDigits 2 (seconds % 60) ++ fractionText (micros % 1000000)

def date? (days : Int) : Option Date :=
  let date := Date.ofDays days
  if date.Valid then some date else none

def localText? (micros : Int) : Option (List Char) :=
  (date? (micros / microsPerDay)).map fun date =>
    date.text ++ 'T' :: clockText (micros % microsPerDay).toNat

def zonedText? (micros : Int) : Option (List Char) :=
  (localText? micros).map (· ++ "+00:00".toList)

end Instant

end RecordMapper.Postgres
