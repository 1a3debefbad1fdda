import RecordMapper.Cast
import RecordMapper.Number.DecimalScan

/-!
Doubles read from the beginning of a text in place. All signs in front are skipped and counted for
the name of infinity; any other number is found in the bytes, cut off and read as a whole text.
-/

namespace RecordMapper.Cast

def isSign (c : Char) : Bool :=
  c == '+' || c == '-'

/-- The number that a text starts with, or infinity by name. There is no answer when the text would
be cut inside a character. -/
def textToFloatInPlace? (cs : List Char) : Option (Option Double) :=
  let start := trimStart cs
  let unsigned := start.dropWhile isSign
  if byteLength start - byteLength unsigned ≤ 1 ∧ "Infinity".toList.isPrefixOf unsigned then
    some (some (.infinite (start.head? == some '-')))
  else
    match numberEnd? start with
    | none => none
    | some none => some none
    | some (some stop) => (sliceTo? start stop).map fun word => (Binary.read .double word).toOption

end RecordMapper.Cast
