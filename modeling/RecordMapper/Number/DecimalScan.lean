import RecordMapper.Number.ByteScan
import RecordMapper.Number.Decimal

/-!
Decimal numbers found in the bytes of a text: a sign, digits with a point among them and an exponent
that has digits. The digits are counted on the way, and the text is cut for the exponent behind its
letter.
-/

namespace RecordMapper

def isPointByte (b : UInt8) : Bool :=
  b.toNat == 46

def isExponentByte (b : UInt8) : Bool :=
  b.toNat == 101 || b.toNat == 69

def mantissaEnd (bytes : List UInt8) : Nat × Nat :=
  let start := if bytes.head?.any isSignByte then 1 else 0
  let whole := digitsEnd (bytes.drop start) start
  if bytes[whole]?.any isPointByte then
    let stop := digitsEnd (bytes.drop (whole + 1)) (whole + 1)
    (stop, (whole - start) + (stop - (whole + 1)))
  else (whole, whole - start)

/-- Moves on from a place over an exponent, if there is one with digits. There is no answer when the
text would be cut inside a character. -/
def exponentEnd? (cs : List Char) (place : Nat) : Option Nat :=
  if (utf8 cs)[place]?.any isExponentByte then
    (sliceFrom? cs (place + 1)).map fun behind =>
      match signedDigitsEnd? (utf8 behind) with
      | some length => place + 1 + length
      | none => place
  else some place

/-- Where the number ends that a text starts with, if it starts with one. There is no answer when the
text would be cut inside a character. -/
def numberEnd? (cs : List Char) : Option (Option Nat) :=
  let (place, digits) := mantissaEnd (utf8 cs)
  if digits = 0 then some none else (exponentEnd? cs place).map some

/-! What is found in the bytes is found in the characters. -/

section Head

variable {c : Char} {b : UInt8} {bytes : List UInt8}

theorem isPointByte_head (h : String.utf8EncodeChar c = b :: bytes) :
    isPointByte b = true ↔ c = '.' := by
  rw [isPointByte, beq_iff_eq, toNat_head_eq_iff h (by decide), ← Char.toNat_inj]
  rfl

theorem isExponentByte_head (h : String.utf8EncodeChar c = b :: bytes) :
    isExponentByte b = true ↔ c = 'e' ∨ c = 'E' := by
  rw [isExponentByte, Bool.or_eq_true, beq_iff_eq, beq_iff_eq, toNat_head_eq_iff h (by decide),
    toNat_head_eq_iff h (by decide), ← Char.toNat_inj, ← Char.toNat_inj]
  rfl

end Head

theorem any_head?_utf8 {p : UInt8 → Bool} {q : Char → Prop}
    (hp : ∀ {c b bytes}, String.utf8EncodeChar c = b :: bytes → (p b = true ↔ q c))
    (cs : List Char) : (utf8 cs).head?.any p = true ↔ ∃ c rest, cs = c :: rest ∧ q c := by
  cases cs with
  | nil => simp [utf8]
  | cons c cs =>
    obtain ⟨b, bytes, hc⟩ := exists_utf8EncodeChar c
    rw [utf8_cons, hc, List.cons_append, List.head?_cons, Option.any_some, hp hc]
    exact ⟨fun h => ⟨c, cs, rfl, h⟩, fun ⟨_, _, heq, h⟩ => (List.cons.inj heq).1 ▸ h⟩

theorem digitsEnd_append (cs rest : List Char) :
    digitsEnd ((utf8 (cs ++ rest)).drop (byteLength cs)) (byteLength cs) =
      byteLength (cs ++ rest.takeWhile Char.isDigit) := by
  rw [drop_utf8_append, digitsEnd_utf8, byteLength_append, byteLength_takeWhile]

theorem exists_sign (cs : List Char) :
    ∃ sign, cs = sign ++ (takeSign cs).2 ∧
      (if (utf8 cs).head?.any isSignByte then 1 else 0) = byteLength sign := by
  have hhead := any_head?_utf8 isSignByte_head cs
  by_cases hsign : ∃ c rest, cs = c :: rest ∧ (c = '+' ∨ c = '-')
  · rw [if_pos (hhead.2 hsign)]
    obtain ⟨c, rest, rfl, rfl | rfl⟩ := hsign
    · exact ⟨['+'], rfl, rfl⟩
    · exact ⟨['-'], rfl, rfl⟩
  · rw [if_neg (mt hhead.1 hsign)]
    refine ⟨[], ?_, rfl⟩
    rw [takeSign_of_head, List.nil_append]
    intro c hc hsigned
    obtain ⟨rest, rfl⟩ := List.head?_eq_some_iff.1 hc
    exact hsign ⟨c, rest, rfl, hsigned⟩

theorem mantissaEnd_utf8 (cs : List Char) :
    let whole := (takeSign cs).2.takeWhile Char.isDigit
    let point := takeFraction ((takeSign cs).2.dropWhile Char.isDigit)
    ∃ word, cs = word ++ point.2 ∧
      mantissaEnd (utf8 cs) = (byteLength word, whole.length + (point.1.getD []).length) := by
  obtain ⟨sign, hcs, hstart⟩ := exists_sign cs
  have hwhole := digitsEnd_append sign (takeSign cs).2
  have hsplit := @List.takeWhile_append_dropWhile _ Char.isDigit (takeSign cs).2
  have hlength := byteLength_takeWhile (takeSign cs).2
  rw [← hcs] at hwhole
  dsimp only
  generalize (takeSign cs).2.takeWhile Char.isDigit = whole at hwhole hsplit hlength ⊢
  generalize (takeSign cs).2.dropWhile Char.isDigit = behind at hsplit ⊢
  rw [← hsplit, ← List.append_assoc] at hcs
  have hpoint := any_head?_utf8 isPointByte_head behind
  rw [← getElem?_utf8_append (sign ++ whole), ← hcs] at hpoint
  have hdigits : byteLength (sign ++ whole) - byteLength sign = whole.length := by
    rw [byteLength_append, hlength, Nat.add_sub_cancel_left]
  unfold mantissaEnd
  rw [hstart]
  dsimp only
  rw [hwhole, hdigits]
  by_cases hdot : ∃ c rest, behind = c :: rest ∧ c = '.'
  · rw [if_pos (hpoint.2 hdot)]
    obtain ⟨_, rest, rfl, rfl⟩ := hdot
    have hbehind := digitsEnd_append (sign ++ whole ++ ['.']) rest
    have hone : byteLength (sign ++ whole ++ ['.']) = byteLength (sign ++ whole) + 1 :=
      byteLength_append _ _
    rw [hone, List.append_assoc _ ['.'], List.singleton_append, ← hcs] at hbehind
    rw [hbehind]
    refine ⟨sign ++ whole ++ ['.'] ++ rest.takeWhile Char.isDigit, ?_, ?_⟩
    · rw [hcs]
      simp [takeFraction]
    · rw [byteLength_append _ (rest.takeWhile _), hone, Nat.add_sub_cancel_left, byteLength_takeWhile]
      rfl
  · rw [if_neg (mt hpoint.1 hdot)]
    have hnone : takeFraction behind = (none, behind) := by
      apply takeFraction_of_head
      rintro _ hc rfl
      obtain ⟨rest, rfl⟩ := List.head?_eq_some_iff.1 hc
      exact hdot ⟨_, rest, rfl, rfl⟩
    rw [hnone]
    exact ⟨sign ++ whole, hcs, rfl⟩

end RecordMapper
