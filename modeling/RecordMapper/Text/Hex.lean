/-!
Hexadecimal digits.
-/

namespace RecordMapper

def hexDigit? (c : Char) : Option Nat :=
  if c.isDigit then some (c.toNat - '0'.toNat)
  else if 'a' ≤ c ∧ c ≤ 'f' then some (c.toNat - 'a'.toNat + 10)
  else if 'A' ≤ c ∧ c ≤ 'F' then some (c.toNat - 'A'.toNat + 10)
  else none

def hexBytes? : List Char → Option (List UInt8)
  | [] => some []
  | high :: low :: cs => do
    let high ← hexDigit? high
    let low ← hexDigit? low
    let bytes ← hexBytes? cs
    return UInt8.ofNat (high * 16 + low) :: bytes
  | [_] => none

def hexByte (byte : UInt8) : List Char :=
  [Nat.digitChar (byte.toNat / 16), Nat.digitChar (byte.toNat % 16)]

def hexText (bytes : List UInt8) : List Char :=
  bytes.flatMap hexByte

end RecordMapper
