import RecordMapper.Proofs.Json.Double
import RecordMapper.Proofs.Json.Members

/-!
JSON text is read as the value that wrote it. The value's members are in order, its containers nest no
deeper than they are read, and its doubles are read back from their texts.
-/

namespace RecordMapper.Json

variable {rest : List Char}

theorem hexDigit?_digitChar : ∀ n < 16, hexDigit? (Nat.digitChar n) = some n := by decide

theorem hexUnit?_digitChars {n : Nat} (h : n < 0x20) :
    hexUnit? '0' '0' (Nat.digitChar (n / 16)) (Nat.digitChar (n % 16)) = some n := by
  have hhigh := hexDigit?_digitChar (n / 16) (by omega)
  have hlow := hexDigit?_digitChar (n % 16) (by omega)
  have hzero : hexDigit? '0' = some 0 := by decide
  simp only [hexUnit?, hzero, hhigh, hlow, bind, Option.bind, pure, Option.some.injEq]
  omega

theorem readString_escapedChar (c : Char) (rest : List Char) :
    readString (escapedChar c ++ rest) =
      (readString rest).map fun (cs, behind) => (c :: cs, behind) := by
  unfold escapedChar
  cases hshort : shortEscape? c with
  | some letter =>
    unfold shortEscape? at hshort
    split at hshort <;> cases hshort <;> rfl
  | none =>
    dsimp only
    by_cases hcontrol : c.toNat < 0x20
    · rw [if_pos hcontrol]
      simp only [List.cons_append, List.nil_append, readString, hexUnit?_digitChars hcontrol]
      rw [if_pos (by omega), Char.ofNat_toNat]
    · have hquote : c ≠ '"' := by
        rintro rfl
        cases hshort
      have hbackslash : c ≠ '\\' := by
        rintro rfl
        cases hshort
      rw [if_neg hcontrol]
      -- the equation of plain characters applies by `hquote`
      simp [readString, hbackslash, hcontrol]

theorem readString_stringTail (cs rest : List Char) :
    readString (stringTail cs ++ rest) = some (cs, rest) := by
  induction cs with
  | nil => rfl
  | cons c cs ih =>
    rw [stringTail, List.append_assoc, readString_escapedChar, ih]
    rfl

theorem skipSpace_of_not {c : Char} (h : isSpace c = false) (cs : List Char) :
    skipSpace (c :: cs) = c :: cs := by
  simp [skipSpace, h]

mutual

/-- Every double within the value is read from its text. -/
def DoublesReadBack : Json → Prop
  | .number (.real x) => readNumber (Layout.document.finiteText x) = some (.real x, [])
  | .array elements => ElementsReadBack elements
  | .object members => MembersReadBack members
  | _ => True

def ElementsReadBack : List Json → Prop
  | [] => True
  | value :: elements => value.DoublesReadBack ∧ ElementsReadBack elements

def MembersReadBack : List (String × Json) → Prop
  | [] => True
  | (_, value) :: members => value.DoublesReadBack ∧ MembersReadBack members

end

theorem readNumber_text {n : Number} (h : (Json.number n).DoublesReadBack) :
    readNumber n.text = some (n, []) := by
  cases n with
  | integer i fits => exact readNumber_intDigits i fits
  | real x =>
    rw [DoublesReadBack] at h
    exact h

theorem ne_of_numberHead {c : Char} (h : c = '-' ∨ c.isDigit = true) (other : Char)
    (hother : other ≠ '-' ∧ other.isDigit = false) : c ≠ other := by
  rintro rfl
  rcases h with rfl | h
  · exact hother.1 rfl
  · rw [hother.2] at h
    cases h

theorem readValue_numberHead {c : Char} (h : c = '-' ∨ c.isDigit = true) (cs : List Char)
    (fuel room : Nat) :
    readValue (fuel + 1) room (c :: cs) =
      (readNumber (c :: cs)).map fun (n, rest) => (.number n, rest) := by
  have hne := ne_of_numberHead h
  have hspace : isSpace c = false := by
    simp [isSpace, hne ' ' (by decide), hne '\t' (by decide), hne '\n' (by decide),
      hne '\r' (by decide)]
  rw [readValue, skipSpace_of_not hspace]
  simp [hne 'n' (by decide), hne 't' (by decide), hne 'f' (by decide), hne '"' (by decide),
    hne '[' (by decide), hne '{' (by decide)]

theorem head_numberText (n : Number) :
    ∃ c later, n.text = c :: later ∧ (c = '-' ∨ c.isDigit = true) := by
  cases n with
  | integer i fits => exact head_of_readNumber (readNumber_intDigits i fits)
  | real x => exact head_finiteText x

theorem readValue_number (n : Number) (hrest : Ends rest) (fuel room : Nat) :
    readValue (fuel + 1) room (n.text ++ rest) =
      (readNumber n.text).map fun (m, behind) => (.number m, behind ++ rest) := by
  have hread := readNumber_append hrest n.text
  obtain ⟨c, later, htext, hc⟩ := head_numberText n
  rw [htext, List.cons_append] at hread ⊢
  rw [readValue_numberHead hc, hread, Option.map_map]
  rfl

theorem text_head (value : Json) :
    ∃ c cs, value.text = c :: cs ∧ isSpace c = false ∧ c ≠ ']' ∧ c ≠ '}' := by
  cases value with
  | null => exact ⟨'n', _, rfl, by decide⟩
  | bool b =>
    cases b with
    | true => exact ⟨'t', _, rfl, by decide⟩
    | false => exact ⟨'f', _, rfl, by decide⟩
  | number n =>
    obtain ⟨c, cs, htext, hc⟩ := head_numberText n
    have hne := ne_of_numberHead hc
    refine ⟨c, cs, htext, ?_, hne ']' (by decide), hne '}' (by decide)⟩
    simp [isSpace, hne ' ' (by decide), hne '\t' (by decide), hne '\n' (by decide),
      hne '\r' (by decide)]
  | string s => exact ⟨'"', _, rfl, by decide⟩
  | array elements => cases elements <;> exact ⟨'[', _, rfl, by decide⟩
  | object members => cases members <;> exact ⟨'{', _, rfl, by decide⟩

theorem ends_elementsTail (elements : List Json) : Ends (elementsTail elements ++ rest) := by
  cases elements <;> exact .cons (by decide)

theorem ends_membersTail (members : List (String × Json)) : Ends (membersTail members ++ rest) := by
  cases members <;> exact .cons (by decide)

/-! What is read of a text that opens as one that was written. -/

theorem readMember_stringText (name : String) (fuel room : Nat) (cs : List Char) :
    readMember (fuel + 1) room (stringText name ++ ':' :: cs) =
      (readValue fuel room cs).map fun (value, behind) => ((name, value), behind) := by
  rw [stringText, List.cons_append, readMember, skipSpace_of_not (by decide)]
  simp only [readString_stringTail, Option.bind_eq_bind, Option.bind_some]
  rw [skipSpace_of_not (by decide)]
  cases hvalue : readValue fuel room cs <;> simp [hvalue]

theorem readValue_openArray {c : Char} (hspace : isSpace c = false) (hclose : c ≠ ']')
    (fuel room : Nat) (cs : List Char) :
    readValue (fuel + 1) (room + 1) ('[' :: c :: cs) =
      (readValue fuel room (c :: cs)).bind fun (value, behind) =>
        (readElements fuel room behind).map fun (elements, rest) =>
          (.array (value :: elements), rest) := by
  rw [readValue, skipSpace_of_not (by decide)]
  simp only [skipSpace_of_not hspace]
  split
  · rename_i heq
    cases heq
    exact absurd rfl hclose
  · cases readValue fuel room (c :: cs) with
    | none => simp
    | some found => cases h : readElements fuel room found.2 <;> simp [h]

theorem readValue_openObject (name : String) (fuel room : Nat) (cs : List Char) :
    readValue (fuel + 1) (room + 1) ('{' :: (stringText name ++ cs)) =
      (readMember fuel room (stringText name ++ cs)).bind fun (member, behind) =>
        (readMembers fuel room behind).map fun (members, rest) =>
          (.object (Members.ofList (member :: members)), rest) := by
  rw [stringText, List.cons_append, readValue, skipSpace_of_not (by decide)]
  simp only [skipSpace_of_not (show isSpace '"' = false by decide)]
  cases hmember : readMember fuel room ('"' :: (stringTail name.toList ++ cs)) with
  | none => simp [hmember]
  | some found => cases h : readMembers fuel room found.2 <;> simp [hmember, h]

theorem readElements_comma (fuel room : Nat) (cs : List Char) :
    readElements (fuel + 1) room (',' :: cs) =
      (readValue fuel room cs).bind fun (value, behind) =>
        (readElements fuel room behind).map fun (elements, rest) => (value :: elements, rest) := by
  rw [readElements, skipSpace_of_not (by decide)]
  cases hvalue : readValue fuel room cs with
  | none => simp [hvalue]
  | some found => cases h : readElements fuel room found.2 <;> simp [hvalue, h]

theorem readMembers_comma (fuel room : Nat) (cs : List Char) :
    readMembers (fuel + 1) room (',' :: cs) =
      (readMember fuel room cs).bind fun (member, behind) =>
        (readMembers fuel room behind).map fun (members, rest) => (member :: members, rest) := by
  rw [readMembers, skipSpace_of_not (by decide)]
  cases hmember : readMember fuel room cs with
  | none => simp [hmember]
  | some found => cases h : readMembers fuel room found.2 <;> simp [hmember, h]

-- By recursion on the value. The fuel exceeds the length of the text that is left, and each step into
-- an element or a member leaves a character behind, so that the fuel never runs out.
mutual

theorem readValue_text : ∀ (value : Json) (fuel room : Nat) (rest : List Char),
    (value.text ++ rest).length < fuel → value.nesting ≤ room → value.Ordered →
    value.DoublesReadBack → Ends rest →
    readValue fuel room (value.text ++ rest) = some (value, rest)
  | .null, fuel + 1, room, rest, _, _, _, _, _ => by
    simp [text, readValue, skipSpace, isSpace]
  | .bool b, fuel + 1, room, rest, _, _, _, _, _ => by
    cases b <;> simp [text, readValue, skipSpace, isSpace]
  | .number n, fuel + 1, room, rest, _, _, _, hdoubles, hrest => by
    rw [text, readValue_number n hrest, readNumber_text hdoubles]
    rfl
  | .string s, fuel + 1, room, rest, _, _, _, _, _ => by
    rw [text, stringText, List.cons_append, readValue, skipSpace_of_not (by decide)]
    simp [readString_stringTail]
  | .array [], fuel + 1, room + 1, rest, _, _, _, _, _ => by
    rw [text, List.cons_append, readValue, skipSpace_of_not (by decide)]
    rfl
  | .array (value :: elements), fuel + 1, room + 1, rest, hfuel, hroom, hordered, hdoubles, _ => by
    simp only [text, nesting, elementsNesting, Ordered, ElementsOrdered, DoublesReadBack,
      ElementsReadBack, List.cons_append, List.append_assoc, List.length_cons, List.length_append]
      at hfuel hroom hordered hdoubles ⊢
    obtain ⟨c, cs, htext, hspace, hclose, -⟩ := text_head value
    have hvalue := readValue_text value fuel room (elementsTail elements ++ rest)
      (by simp only [List.length_append]; omega) (by omega) hordered.1 hdoubles.1
      (ends_elementsTail elements)
    have helements := readElements_tail elements fuel room rest
      (by simp only [List.length_append]; omega) (by omega) hordered.2 hdoubles.2
    rw [htext, List.cons_append] at hvalue ⊢
    rw [readValue_openArray hspace hclose, hvalue]
    simp [helements]
  | .object [], fuel + 1, room + 1, rest, _, _, _, _, _ => by
    rw [text, List.cons_append, readValue, skipSpace_of_not (by decide)]
    rfl
  | .object ((name, value) :: members), fuel + 2, room + 1, rest, hfuel, hroom, hordered,
      hdoubles, _ => by
    simp only [text, nesting, membersNesting, Ordered, MembersOrdered, DoublesReadBack,
      MembersReadBack, List.cons_append, List.append_assoc, List.length_cons, List.length_append]
      at hfuel hroom hordered hdoubles ⊢
    obtain ⟨hsorted, hvalue, hmembers⟩ := hordered
    have hread := readValue_text value fuel room (membersTail members ++ rest)
      (by simp only [List.length_append]; omega) (by omega) hvalue hdoubles.1
      (ends_membersTail members)
    have hmembers := readMembers_tail members (fuel + 1) room rest
      (by simp only [List.length_append]; omega) (by omega) hmembers hdoubles.2
    rw [readValue_openObject, readMember_stringText, hread]
    simp [hmembers, Members.Sorted.ofList_eq hsorted]

theorem readElements_tail : ∀ (elements : List Json) (fuel room : Nat) (rest : List Char),
    (elementsTail elements ++ rest).length < fuel → elementsNesting elements ≤ room →
    ElementsOrdered elements → ElementsReadBack elements →
    readElements fuel room (elementsTail elements ++ rest) = some (elements, rest)
  | [], fuel + 1, room, rest, _, _, _, _ => by
    rw [elementsTail, List.cons_append, readElements, skipSpace_of_not (by decide)]
    rfl
  | value :: elements, fuel + 1, room, rest, hfuel, hroom, hordered, hdoubles => by
    simp only [elementsTail, elementsNesting, ElementsOrdered, ElementsReadBack, List.cons_append,
      List.append_assoc, List.length_cons, List.length_append] at hfuel hroom hordered hdoubles ⊢
    have hvalue := readValue_text value fuel room (elementsTail elements ++ rest)
      (by simp only [List.length_append]; omega) (by omega) hordered.1 hdoubles.1
      (ends_elementsTail elements)
    have helements := readElements_tail elements fuel room rest
      (by simp only [List.length_append]; omega) (by omega) hordered.2 hdoubles.2
    rw [readElements_comma, hvalue]
    simp [helements]

theorem readMembers_tail : ∀ (members : List (String × Json)) (fuel room : Nat)
    (rest : List Char), (membersTail members ++ rest).length < fuel →
    membersNesting members ≤ room → MembersOrdered members → MembersReadBack members →
    readMembers fuel room (membersTail members ++ rest) = some (members, rest)
  | [], fuel + 1, room, rest, _, _, _, _ => by
    rw [membersTail, List.cons_append, readMembers, skipSpace_of_not (by decide)]
    rfl
  | (name, value) :: members, fuel + 2, room, rest, hfuel, hroom, hordered, hdoubles => by
    simp only [membersTail, membersNesting, MembersOrdered, MembersReadBack, List.cons_append,
      List.append_assoc, List.length_cons, List.length_append] at hfuel hroom hordered hdoubles ⊢
    have hread := readValue_text value fuel room (membersTail members ++ rest)
      (by simp only [List.length_append]; omega) (by omega) hordered.1 hdoubles.1
      (ends_membersTail members)
    have hmembers := readMembers_tail members (fuel + 1) room rest
      (by simp only [List.length_append]; omega) (by omega) hordered.2 hdoubles.2
    rw [readMembers_comma, readMember_stringText, hread]
    simp [hmembers]

end

/-- The text of a value is read as the value, if its containers do not nest deeper than they are
read. -/
theorem parse?_text {value : Json} (hnesting : value.nesting ≤ maxNesting) (hordered : value.Ordered)
    (hdoubles : value.DoublesReadBack) : parse? value.text = some value := by
  have hread := readValue_text value (value.text.length + 1) maxNesting [] (by simp) hnesting
    hordered hdoubles .nil
  rw [List.append_nil] at hread
  rw [parse?, hread]
  simp [skipSpace]

theorem ofString?_print {value : Json} (hnesting : value.nesting ≤ maxNesting)
    (hordered : value.Ordered) (hdoubles : value.DoublesReadBack) :
    ofString? value.print = some value := by
  rw [ofString?, print, String.toList_ofList]
  exact parse?_text hnesting hordered hdoubles

/-! A string is longer within its quotes. -/

theorem eq_cons_of_map {c : Char} {chars behind : List Char} {found : Option (List Char × List Char)}
    (h : (found.map fun (cs, rest) => (c :: cs, rest)) = some (chars, behind)) :
    ∃ later, found = some (later, behind) ∧ chars = c :: later := by
  obtain ⟨⟨later, rest⟩, hfound, heq⟩ := Option.map_eq_some_iff.1 h
  cases heq
  exact ⟨later, hfound, rfl⟩

theorem length_of_readString {cs chars behind : List Char}
    (h : readString cs = some (chars, behind)) : chars.length < cs.length := by
  fun_induction readString cs generalizing chars behind with
  | case1 | case3 | case5 | case7 | case8 | case10 => cases h
  | case2 rest =>
    cases h
    exact Nat.succ_pos _
  | case4 | case6 | case9 | case11 =>
    -- an escape or a plain character, and what is read behind it
    rename_i ih
    obtain ⟨later, hread, rfl⟩ := eq_cons_of_map h
    have hlater := ih hread
    simp only [List.length_cons]
    omega

theorem readString_of_readValue {fuel room : Nat} {cs behind : List Char} {s : String}
    (h : readValue fuel room cs = some (.string s, behind)) :
    ∃ rest, skipSpace cs = '"' :: rest ∧ readString rest = some (s.toList, behind) := by
  cases fuel with
  | zero => simp [readValue] at h
  | succ fuel =>
    rw [readValue] at h
    -- of the characters that a value starts with, only the quote gives a string
    split at h
    · cases h
    · cases h
    · cases h
    · next rest hquote =>
      obtain ⟨⟨chars, left⟩, hread, heq⟩ := Option.map_eq_some_iff.1 h
      cases heq
      exact ⟨rest, hquote, by rw [hread, String.toList_ofList]⟩
    · split at h
      · cases h
      · split at h
        · cases h
        · simp [Option.bind_eq_some_iff] at h
    · split at h
      · cases h
      · split at h
        · cases h
        · simp [Option.bind_eq_some_iff] at h
    · simp at h

theorem ofString?_ne_string (s : String) : ofString? s ≠ some (.string s) := by
  intro h
  unfold ofString? parse? at h
  split at h
  · next value rest hread =>
    split at h
    · cases h
      obtain ⟨behind, hquote, hstring⟩ := readString_of_readValue hread
      have hlength := length_of_readString hstring
      have hle : (skipSpace s.toList).length ≤ s.toList.length :=
        (List.dropWhile_sublist isSpace).length_le
      rw [hquote, List.length_cons] at hle
      omega
    · cases h
  · cases h

end RecordMapper.Json
