import RecordMapper.Number.Power

/-!
Values as bytes, the most significant first; negative integers in two's complement.
-/

namespace RecordMapper.Postgres

abbrev Bytes := List UInt8

def natBytes : (width : Nat) → Nat → Bytes
  | 0, _ => []
  | width + 1, n => UInt8.ofNat (n / 256 ^ width) :: natBytes width n

def bytesNat (bytes : Bytes) : Nat :=
  bytes.foldl (fun value byte => value * 256 + byte.toNat) 0

def intBytes (width : Nat) (i : Int) : Bytes :=
  natBytes width (i % (256 ^ width : Nat)).toNat

def bytesInt (bytes : Bytes) : Int :=
  let n := bytesNat bytes
  if 2 * n < 256 ^ bytes.length then n else (n : Int) - (256 ^ bytes.length : Nat)

def textBytes (s : String) : Bytes :=
  s.toUTF8.data.toList

def bytesText? (bytes : Bytes) : Option String :=
  String.fromUTF8? ⟨bytes.toArray⟩

end RecordMapper.Postgres
