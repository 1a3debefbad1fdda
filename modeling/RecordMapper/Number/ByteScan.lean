import RecordMapper.Number.Integer
import RecordMapper.Text.Utf8

/-!
Integers found in the bytes of a text. The bytes are looked at one after another, and the text is cut
behind the last digit. `slice_signedDigitsEnd?` says that the cut is never inside a character, and
that it leaves the integer that the text starts with.
-/

namespace RecordMapper

def isDigitByte (b : UInt8) : Bool :=
  48 ≤ b.toNat && b.toNat ≤ 57

def isSignByte (b : UInt8) : Bool :=
  b.toNat == 43 || b.toNat == 45

def digitsEnd : List UInt8 → Nat → Nat
  | [], place => place
  | b :: bytes, place => if isDigitByte b then digitsEnd bytes (place + 1) else place

def signedDigitsEnd? (bytes : List UInt8) : Option Nat :=
  let start := if bytes.head?.any isSignByte then 1 else 0
  let stop := digitsEnd (bytes.drop start) start
  if start < stop then some stop else none

/-! What the first byte of a character tells. -/

theorem exists_utf8EncodeChar (c : Char) : ∃ b bytes, String.utf8EncodeChar c = b :: bytes :=
  List.exists_cons_of_ne_nil String.utf8EncodeChar_ne_nil

section Head

variable {c : Char} {b : UInt8} {bytes : List UInt8}

theorem isDigitByte_head (h : String.utf8EncodeChar c = b :: bytes) :
    isDigitByte b = c.isDigit := by
  rw [Bool.eq_iff_iff, Char.isDigit_iff_toNat]
  rcases utf8EncodeChar_cases c with ⟨hascii, hbyte⟩ | ⟨hlarge, first, others, hfirst, hle⟩
  · cases hbyte.symm.trans h
    simp [isDigitByte, Nat.mod_eq_of_lt (Nat.lt_trans hascii (by decide : 128 < 256))]
  · cases hfirst.symm.trans h
    simp [isDigitByte]
    omega

theorem toNat_head_eq_iff (h : String.utf8EncodeChar c = b :: bytes) {n : Nat} (hn : n < 128) :
    b.toNat = n ↔ c.toNat = n := by
  rcases utf8EncodeChar_cases c with ⟨hascii, hbyte⟩ | ⟨hlarge, first, others, hfirst, hle⟩
  · cases hbyte.symm.trans h
    simp [Nat.mod_eq_of_lt (Nat.lt_trans hascii (by decide : 128 < 256))]
  · cases hfirst.symm.trans h
    omega

theorem isSignByte_head (h : String.utf8EncodeChar c = b :: bytes) :
    isSignByte b = true ↔ c = '+' ∨ c = '-' := by
  rw [isSignByte, Bool.or_eq_true, beq_iff_eq, beq_iff_eq, toNat_head_eq_iff h (by decide),
    toNat_head_eq_iff h (by decide), ← Char.toNat_inj, ← Char.toNat_inj]
  rfl

end Head

variable {c : Char} {cs : List Char}

theorem toNat_lt_of_isDigit (h : c.isDigit = true) : c.toNat < 128 := by
  have hle := (Char.isDigit_iff_toNat.1 h).2
  exact Nat.lt_of_le_of_lt hle (by decide)

theorem byteLength_takeWhile (cs : List Char) :
    byteLength (cs.takeWhile Char.isDigit) = (cs.takeWhile Char.isDigit).length :=
  byteLength_of_lt fun c hc => toNat_lt_of_isDigit (List.all_eq_true.1 List.all_takeWhile c hc)

theorem digitsEnd_utf8 (cs : List Char) (place : Nat) :
    digitsEnd (utf8 cs) place = place + (cs.takeWhile Char.isDigit).length := by
  induction cs generalizing place with
  | nil => rfl
  | cons c cs ih =>
    obtain ⟨b, bytes, hc⟩ := exists_utf8EncodeChar c
    rw [utf8_cons, hc, List.cons_append, digitsEnd, isDigitByte_head hc]
    cases hdigit : c.isDigit with
    | true =>
      have hcons := utf8_cons_of_lt (toNat_lt_of_isDigit hdigit) cs
      rw [utf8_cons, hc, List.cons_append] at hcons
      rw [(List.cons.inj hcons).2, if_pos rfl, ih, List.takeWhile_cons_of_pos hdigit,
        List.length_cons, Nat.add_assoc, Nat.add_comm 1]
    | false =>
      rw [if_neg Bool.false_ne_true, List.takeWhile_cons_of_neg (by simp [hdigit])]
      rfl

theorem sliceTo?_digits {sign : List Char} (hsign : ∀ c ∈ sign, c.toNat < 128) :
    sliceTo? (sign ++ cs) (sign.length + (cs.takeWhile Char.isDigit).length) =
      some (sign ++ cs.takeWhile Char.isDigit) := by
  have hlength := byteLength_append sign (cs.takeWhile Char.isDigit)
  rw [byteLength_of_lt hsign, byteLength_takeWhile] at hlength
  have hslice := sliceTo?_append (sign ++ cs.takeWhile Char.isDigit) (cs.dropWhile Char.isDigit)
  rwa [hlength, List.append_assoc, List.takeWhile_append_dropWhile] at hslice

theorem slice_signed {sign : List Char} (hsign : ∀ c ∈ sign, c.toNat < 128) (cs : List Char) :
    (if sign.length < digitsEnd (utf8 cs) sign.length then
        some (digitsEnd (utf8 cs) sign.length) else none).map (sliceTo? (sign ++ cs)) =
      ((leadingDigits? cs).map (sign ++ ·)).map some := by
  rw [digitsEnd_utf8]
  unfold leadingDigits?
  split
  · next hstop =>
    have hdigits : cs.takeWhile Char.isDigit ≠ [] := by
      intro hnone
      simp [hnone] at hstop
    rw [Option.map_some, sliceTo?_digits hsign]
    split
    · contradiction
    · rfl
  · next hstop =>
    have hdigits : cs.takeWhile Char.isDigit = [] := by
      apply List.eq_nil_of_length_eq_zero
      omega
    rw [hdigits]
    rfl

theorem slice_signedDigitsEnd? (cs : List Char) :
    (signedDigitsEnd? (utf8 cs)).map (sliceTo? cs) = (leadingInteger? cs).map some := by
  cases cs with
  | nil => rfl
  | cons c cs =>
    obtain ⟨b, bytes, hc⟩ := exists_utf8EncodeChar c
    have hhead : (utf8 (c :: cs)).head?.any isSignByte = isSignByte b := by
      rw [utf8_cons, hc]
      rfl
    rw [signedDigitsEnd?, hhead, leadingInteger?]
    by_cases hsign : c = '+' ∨ c = '-'
    · have hascii : c.toNat < 128 := by
        rcases hsign with rfl | rfl <;> decide
      rw [(isSignByte_head hc).2 hsign, if_pos hsign, utf8_cons_of_lt hascii]
      exact @slice_signed [c] (List.forall_mem_singleton.2 hascii) cs
    · have hnone : isSignByte b = false := by
        rw [Bool.eq_false_iff]
        exact fun h => hsign ((isSignByte_head hc).1 h)
      have hsigned := @slice_signed [] (by simp) (c :: cs)
      rw [hnone, if_neg hsign]
      simpa using hsigned

theorem signedDigitsEnd?_utf8 (cs : List Char) :
    signedDigitsEnd? (utf8 cs) = (leadingInteger? cs).map byteLength := by
  have hslice := slice_signedDigitsEnd? cs
  cases hfound : leadingInteger? cs with
  | none =>
    rw [hfound, Option.map_none, Option.map_eq_none_iff] at hslice
    exact hslice
  | some word =>
    rw [hfound, Option.map_some, Option.map_eq_some_iff] at hslice
    obtain ⟨stop, hstop, hword⟩ := hslice
    rw [hstop, Option.map_some, byteLength_of_sliceTo? hword]

end RecordMapper
