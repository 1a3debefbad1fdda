/-!
Cutting a text to a number of bytes. A character counts with the length of its UTF-8 form and is
kept whole or left out.
-/

namespace RecordMapper

def byteLength : List Char → Nat
  | [] => 0
  | c :: cs => c.utf8Size + byteLength cs

/-- The longest beginning of a text that takes at most `room` bytes. -/
def clip : Nat → List Char → List Char
  | _, [] => []
  | room, c :: cs => if c.utf8Size ≤ room then c :: clip (room - c.utf8Size) cs else []

end RecordMapper
