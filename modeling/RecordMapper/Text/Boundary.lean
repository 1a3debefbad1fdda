import RecordMapper.Text.Utf8

/-!
Cutting the bytes of a text back to a boundary between characters. The place of the cut is moved back
byte by byte until a character starts there. `cutBack?_eq` says that this ends at the longest
beginning of whole characters that has room, and that no character is ever cut.
-/

namespace RecordMapper

def isContinuation (b : UInt8) : Bool :=
  128 ≤ b.toNat && b.toNat < 192

/-- Whether a character starts at a place, or the text begins or ends there. -/
def isBoundary (bytes : List UInt8) (place : Nat) : Bool :=
  match bytes[place]? with
  | some b => place == 0 || !isContinuation b
  | none => place == bytes.length

def backOff (bytes : List UInt8) : Nat → Nat
  | 0 => 0
  | place + 1 => if isBoundary bytes (place + 1) then place + 1 else backOff bytes place

def cutBack? (most : Nat) (cs : List Char) : Option (List Char) :=
  if byteLength cs ≤ most then some cs else sliceTo? cs (backOff (utf8 cs) most)

/-! What a byte tells of its character. -/

theorem isContinuation_ofNat (n : Nat) : isContinuation (UInt8.ofNat (n % 64 + 128)) = true := by
  rw [isContinuation, UInt8.toNat_ofNat', Nat.mod_eq_of_lt (by omega), Bool.and_eq_true,
    decide_eq_true_eq, decide_eq_true_eq]
  omega

theorem utf8EncodeChar_continuations (c : Char) :
    ∃ b bytes, String.utf8EncodeChar c = b :: bytes ∧ isContinuation b = false ∧
      ∀ d ∈ bytes, isContinuation d = true := by
  have hfirst : ∀ n, n < 256 → n < 128 ∨ 192 ≤ n → isContinuation (UInt8.ofNat n) = false := by
    intro n hbyte hn
    rw [isContinuation, UInt8.toNat_ofNat', Nat.mod_eq_of_lt hbyte]
    simp only [Bool.and_eq_false_iff, decide_eq_false_iff_not]
    omega
  unfold String.utf8EncodeChar
  dsimp only
  split
  · exact ⟨_, _, rfl, hfirst _ (by omega) (by omega), by simp⟩
  all_goals
    split
    case' isFalse => split
    all_goals
      refine ⟨_, _, rfl, hfirst _ (by omega) (by omega), ?_⟩
      simp only [List.forall_mem_cons, isContinuation_ofNat, List.not_mem_nil, false_implies,
        implies_true, and_self]

theorem head?_utf8 (cs : List Char) : ∀ b ∈ (utf8 cs).head?, isContinuation b = false := by
  cases cs with
  | nil => simp [utf8]
  | cons c cs =>
    obtain ⟨b, bytes, hc, hfirst, -⟩ := utf8EncodeChar_continuations c
    rw [utf8_cons, hc]
    rintro _ ⟨⟩
    exact hfirst

/-! Boundaries are where beginnings of the text end. -/

theorem isBoundary_append {bytes rest : List UInt8} (hne : bytes ≠ [])
    (hrest : ∀ b ∈ rest.head?, isContinuation b = false) (place : Nat) :
    isBoundary (bytes ++ rest) (bytes.length + place) = isBoundary rest place := by
  have hpos := List.length_pos_iff.2 hne
  unfold isBoundary
  rw [List.getElem?_append_right (Nat.le_add_right _ _), Nat.add_sub_cancel_left, List.length_append]
  cases hbyte : rest[place]? with
  | none =>
    rw [Bool.eq_iff_iff, beq_iff_eq, beq_iff_eq]
    exact Nat.add_left_cancel_iff
  | some b =>
    have hlater : (bytes.length + place == 0) = false := beq_eq_false_iff_ne.2 (by omega)
    rw [hlater]
    dsimp only
    cases place with
    | zero => rw [hrest b (List.head?_eq_getElem? ▸ hbyte)]; rfl
    | succ place => rfl

theorem isBoundary_utf8_iff (cs : List Char) (place : Nat) :
    isBoundary (utf8 cs) place = true ↔ ∃ kept, kept <+: cs ∧ byteLength kept = place := by
  induction cs generalizing place with
  | nil =>
    constructor
    · intro h
      have hplace : place = 0 := by simpa [isBoundary, utf8] using h
      exact ⟨[], List.prefix_rfl, hplace.symm⟩
    · rintro ⟨kept, hkept, rfl⟩
      rw [List.prefix_nil.1 hkept]
      rfl
  | cons c cs ih =>
    obtain ⟨b, bytes, hc, hfirst, hothers⟩ := utf8EncodeChar_continuations c
    have hsize : (b :: bytes).length = c.utf8Size := by rw [← hc, String.length_utf8EncodeChar]
    rw [utf8_cons, hc]
    by_cases hinside : place < c.utf8Size
    · cases place with
      | zero => exact ⟨fun _ => ⟨[], List.nil_prefix, rfl⟩, fun _ => rfl⟩
      | succ place =>
        -- the byte at the place goes on with the first character
        have hbyte : place < bytes.length := by rw [List.length_cons] at hsize; omega
        constructor
        · intro h
          rw [isBoundary, List.cons_append, List.getElem?_cons_succ, List.getElem?_append_left hbyte,
            List.getElem?_eq_getElem hbyte] at h
          simp [hothers _ (List.getElem_mem hbyte)] at h
        · rintro ⟨kept, hkept, hlength⟩
          cases kept with
          | nil => cases hlength
          | cons d kept =>
            obtain ⟨rfl, -⟩ := List.cons_prefix_cons.1 hkept
            rw [byteLength] at hlength
            omega
    · obtain ⟨behind, rfl⟩ := Nat.exists_eq_add_of_le (Nat.le_of_not_lt hinside)
      rw [← hsize, isBoundary_append (List.cons_ne_nil b bytes) (head?_utf8 cs), ih, hsize]
      constructor
      · rintro ⟨kept, hkept, rfl⟩
        exact ⟨c :: kept, List.cons_prefix_cons.2 ⟨rfl, hkept⟩, rfl⟩
      · rintro ⟨kept, hkept, hlength⟩
        have hpos := c.utf8Size_pos
        cases kept with
        | nil =>
          rw [byteLength] at hlength
          omega
        | cons d kept =>
          obtain ⟨rfl, htail⟩ := List.cons_prefix_cons.1 hkept
          exact ⟨kept, htail, Nat.add_left_cancel hlength⟩

/-! The loop stops at the last boundary before there are too many bytes. -/

theorem backOff_le (bytes : List UInt8) (most : Nat) : backOff bytes most ≤ most := by
  induction most with
  | zero => exact Nat.le_refl 0
  | succ most ih =>
    rw [backOff]
    split
    · exact Nat.le_refl _
    · exact Nat.le_succ_of_le ih

theorem isBoundary_backOff (bytes : List UInt8) (most : Nat) :
    isBoundary bytes (backOff bytes most) = true := by
  induction most with
  | zero => cases bytes <;> rfl
  | succ most ih =>
    rw [backOff]
    split
    · assumption
    · exact ih

theorem le_backOff {bytes : List UInt8} {place most : Nat} (h : isBoundary bytes place = true)
    (hle : place ≤ most) : place ≤ backOff bytes most := by
  induction most with
  | zero => exact hle
  | succ most ih =>
    rw [backOff]
    split
    · exact hle
    · next hno =>
      apply ih
      rcases Nat.lt_or_eq_of_le hle with hlt | rfl
      · exact Nat.le_of_lt_succ hlt
      · exact absurd h hno

/-! What is kept of a text is the longest beginning that has room. -/

theorem byteLength_mono {kept cs : List Char} (h : kept <+: cs) :
    byteLength kept ≤ byteLength cs := by
  obtain ⟨rest, rfl⟩ := h
  rw [byteLength_append]
  exact Nat.le_add_right _ _

theorem clip_begins (room : Nat) (cs : List Char) : clip room cs <+: cs := by
  induction cs generalizing room with
  | nil => exact List.nil_prefix
  | cons c cs ih =>
    rw [clip]
    split
    · exact List.cons_prefix_cons.2 ⟨rfl, ih _⟩
    · exact List.nil_prefix

theorem byteLength_clip_le (room : Nat) (cs : List Char) : byteLength (clip room cs) ≤ room := by
  induction cs generalizing room with
  | nil => exact Nat.zero_le room
  | cons c cs ih =>
    rw [clip]
    split
    · next hfits =>
      have hrest := ih (room - c.utf8Size)
      rw [byteLength]
      omega
    · exact Nat.zero_le room

theorem prefix_clip {room : Nat} {cs other : List Char} (h : other <+: cs)
    (hfits : byteLength other ≤ room) : other <+: clip room cs := by
  induction cs generalizing room other with
  | nil => rwa [clip]
  | cons c cs ih =>
    cases other with
    | nil => exact List.nil_prefix
    | cons d other =>
      obtain ⟨rfl, htail⟩ := List.cons_prefix_cons.1 h
      rw [byteLength] at hfits
      rw [clip, if_pos (by omega)]
      exact List.cons_prefix_cons.2 ⟨rfl, ih htail (by omega)⟩

theorem backOff_utf8 (cs : List Char) (most : Nat) :
    backOff (utf8 cs) most = byteLength (clip most cs) := by
  obtain ⟨kept, hkept, hstop⟩ := (isBoundary_utf8_iff cs _).1 (isBoundary_backOff (utf8 cs) most)
  have hclip : isBoundary (utf8 cs) (byteLength (clip most cs)) = true :=
    (isBoundary_utf8_iff cs _).2 ⟨_, clip_begins most cs, rfl⟩
  apply Nat.le_antisymm
  · have hfits := backOff_le (utf8 cs) most
    rw [← hstop] at hfits ⊢
    exact byteLength_mono (prefix_clip hkept hfits)
  · exact le_backOff hclip (byteLength_clip_le most cs)

theorem clip_of_byteLength_le {room : Nat} {cs : List Char} (h : byteLength cs ≤ room) :
    clip room cs = cs :=
  (clip_begins room cs).eq_of_length_le (prefix_clip List.prefix_rfl h).length_le

/-- A text is cut, never inside a character, and the longest beginning that has room is left. -/
theorem cutBack?_eq (most : Nat) (cs : List Char) : cutBack? most cs = some (clip most cs) := by
  unfold cutBack?
  split
  · next hfits => rw [clip_of_byteLength_le hfits]
  · obtain ⟨rest, hcs⟩ := clip_begins most cs
    have hslice := sliceTo?_append (clip most cs) rest
    rwa [hcs, ← backOff_utf8] at hslice

end RecordMapper
