import RecordMapper.Text.Clip

/-!
Texts as bytes. The UTF-8 form of a character is one byte below 128, its number, or else starts with a
byte above; a text is cut in front of a byte only where a character starts.
-/

namespace RecordMapper

def utf8 (cs : List Char) : List UInt8 :=
  cs.flatMap String.utf8EncodeChar

/-- The beginning of a text that takes so many bytes, unless the cut would be inside a character. -/
def sliceTo? : List Char → Nat → Option (List Char)
  | _, 0 => some []
  | [], _ + 1 => none
  | c :: cs, room + 1 =>
    if c.utf8Size ≤ room + 1 then (sliceTo? cs (room + 1 - c.utf8Size)).map (c :: ·) else none

def sliceFrom? (cs : List Char) (place : Nat) : Option (List Char) :=
  (sliceTo? cs place).map fun start => cs.drop start.length

theorem utf8_toList (s : String) : utf8 s.toList = s.toUTF8.data.toList := by
  have hbytes : s.toUTF8 = s.toList.utf8Encode := by
    rw [String.toUTF8_eq_toByteArray, ← String.toByteArray_ofList, String.ofList_toList]
  rw [hbytes, List.utf8Encode, List.data_toByteArray]
  rfl

theorem utf8_append (cs rest : List Char) : utf8 (cs ++ rest) = utf8 cs ++ utf8 rest :=
  List.flatMap_append

theorem utf8_cons (c : Char) (cs : List Char) : utf8 (c :: cs) = String.utf8EncodeChar c ++ utf8 cs :=
  List.flatMap_cons

theorem length_utf8 (cs : List Char) : (utf8 cs).length = byteLength cs := by
  induction cs with
  | nil => rfl
  | cons c cs ih => rw [utf8_cons, List.length_append, String.length_utf8EncodeChar, ih, byteLength]

theorem byteLength_append (cs rest : List Char) :
    byteLength (cs ++ rest) = byteLength cs + byteLength rest := by
  rw [← length_utf8, utf8_append, List.length_append, length_utf8, length_utf8]

theorem sliceTo?_append (cs rest : List Char) : sliceTo? (cs ++ rest) (byteLength cs) = some cs := by
  induction cs with
  | nil => rw [byteLength, sliceTo?]
  | cons c cs ih =>
    have hsize := c.utf8Size_pos
    obtain ⟨room, hroom⟩ : ∃ room, byteLength (c :: cs) = room + 1 :=
      Nat.exists_eq_add_one.2 (by rw [byteLength]; omega)
    have hle : c.utf8Size ≤ room + 1 := by rw [← hroom, byteLength]; omega
    have hrest : room + 1 - c.utf8Size = byteLength cs := by rw [← hroom, byteLength]; omega
    rw [hroom, List.cons_append, sliceTo?, if_pos hle, hrest, ih, Option.map_some]

theorem sliceFrom?_append (cs rest : List Char) :
    sliceFrom? (cs ++ rest) (byteLength cs) = some rest := by
  rw [sliceFrom?, sliceTo?_append, Option.map_some, List.drop_left]

theorem byteLength_of_sliceTo? {cs word : List Char} {place : Nat} (h : sliceTo? cs place = some word) :
    byteLength word = place := by
  fun_induction sliceTo? cs place generalizing word with
  | case1 =>
    cases h
    rfl
  | case2 => cases h
  | case3 c cs room hle ih =>
    obtain ⟨start, hstart, rfl⟩ := Option.map_eq_some_iff.1 h
    rw [byteLength, ih hstart]
    omega
  | case4 => cases h

theorem getElem?_utf8_append (cs rest : List Char) :
    (utf8 (cs ++ rest))[byteLength cs]? = (utf8 rest).head? := by
  rw [← length_utf8, utf8_append, List.getElem?_append_right (Nat.le_refl _), Nat.sub_self,
    List.head?_eq_getElem?]

theorem drop_utf8_append (cs rest : List Char) :
    (utf8 (cs ++ rest)).drop (byteLength cs) = utf8 rest := by
  rw [← length_utf8, utf8_append, List.drop_left]

theorem utf8EncodeChar_cases (c : Char) :
    (c.toNat < 128 ∧ String.utf8EncodeChar c = [UInt8.ofNat c.toNat]) ∨
      (128 ≤ c.toNat ∧
        ∃ b bytes, String.utf8EncodeChar c = b :: bytes ∧ 128 ≤ b.toNat) := by
  unfold String.utf8EncodeChar
  dsimp only
  by_cases hascii : c.val.toNat ≤ 0x7f
  · rw [if_pos hascii]
    exact .inl ⟨Nat.lt_succ_of_le hascii, rfl⟩
  · rw [if_neg hascii]
    refine .inr ⟨Nat.lt_of_not_le hascii, ?_⟩
    split
    case' isFalse => split
    all_goals
      refine ⟨_, _, rfl, ?_⟩
      rw [UInt8.toNat_ofNat']
      omega

theorem utf8_cons_of_lt {c : Char} (h : c.toNat < 128) (cs : List Char) :
    utf8 (c :: cs) = UInt8.ofNat c.toNat :: utf8 cs := by
  rw [utf8_cons]
  rcases utf8EncodeChar_cases c with ⟨-, hbyte⟩ | ⟨hlarge, -⟩
  · rw [hbyte, List.singleton_append]
  · exact absurd h (Nat.not_lt_of_le hlarge)

theorem byteLength_of_lt {cs : List Char} (h : ∀ c ∈ cs, c.toNat < 128) :
    byteLength cs = cs.length := by
  induction cs with
  | nil => rfl
  | cons c cs ih =>
    obtain ⟨hc, hcs⟩ := List.forall_mem_cons.1 h
    rw [← length_utf8, utf8_cons_of_lt hc, List.length_cons, length_utf8, ih hcs, List.length_cons]

end RecordMapper
