import RecordMapper.Proofs.Json.Text

/-!
The depth that is read. A reader with room for some containers takes in no text whose containers nest
deeper; it does not matter to this whether the doubles within are read back.
-/

namespace RecordMapper.Json

theorem behind_of_readNumber_text {n m : Number} {behind : List Char}
    (h : readNumber n.text = some (m, behind)) : behind = [] := by
  cases n with
  | integer i fits =>
    rw [Number.text, readNumber_intDigits i fits] at h
    cases h
    rfl
  | real x => exact behind_of_readNumber_finiteText h

theorem exists_of_bind {α β γ : Type} {first : Option (α × List Char)}
    {next : List Char → Option (β × List Char)} (join : α → β → γ) {found : γ} {behind : List Char}
    (h : (first.bind fun (a, left) => (next left).map fun (b, rest) => (join a b, rest)) =
      some (found, behind)) :
    ∃ a left b, first = some (a, left) ∧ next left = some (b, behind) := by
  obtain ⟨⟨a, left⟩, hfirst, h⟩ := Option.bind_eq_some_iff.1 h
  obtain ⟨⟨b, rest⟩, hnext, heq⟩ := Option.map_eq_some_iff.1 h
  cases heq
  exact ⟨a, left, b, hfirst, hnext⟩

theorem value_of_readMember {name : String} {fuel room : Nat} {cs behind : List Char}
    {member : String × Json}
    (h : readMember fuel room (stringText name ++ ':' :: cs) = some (member, behind)) :
    ∃ fuel' value, readValue fuel' room cs = some (value, behind) := by
  cases fuel with
  | zero => simp [readMember] at h
  | succ fuel =>
    rw [readMember_stringText] at h
    obtain ⟨⟨value, left⟩, hvalue, heq⟩ := Option.map_eq_some_iff.1 h
    cases heq
    exact ⟨fuel, value, hvalue⟩

-- By recursion on the value. What is read is not told, only that it ends where the text of the value
-- does: a double may be taken for another number, but not for less text.
mutual

theorem nesting_of_readValue : ∀ (value : Json) (fuel room : Nat) (rest behind : List Char)
    (found : Json), Ends rest →
    readValue fuel room (value.text ++ rest) = some (found, behind) →
    value.nesting ≤ room ∧ behind = rest
  | value, 0, room, rest, behind, found, _, h => by simp [readValue] at h
  | .null, fuel + 1, room, rest, behind, found, _, h => by
    simp [text, readValue, skipSpace, isSpace] at h
    simp [nesting, h]
  | .bool b, fuel + 1, room, rest, behind, found, _, h => by
    cases b <;> simp [text, readValue, skipSpace, isSpace] at h <;> simp [nesting, h]
  | .number n, fuel + 1, room, rest, behind, found, hrest, h => by
    rw [text, readValue_number n hrest] at h
    obtain ⟨⟨m, left⟩, hread, heq⟩ := Option.map_eq_some_iff.1 h
    cases heq
    rw [behind_of_readNumber_text hread]
    exact ⟨Nat.zero_le _, rfl⟩
  | .string s, fuel + 1, room, rest, behind, found, _, h => by
    rw [text, stringText, List.cons_append, readValue, skipSpace_of_not (by decide)] at h
    simp [readString_stringTail] at h
    simp [nesting, h]
  | .array elements, fuel + 1, 0, rest, behind, found, _, h => by
    cases elements <;>
      simp [text, readValue, skipSpace, isSpace] at h
  | .object members, fuel + 1, 0, rest, behind, found, _, h => by
    cases members <;>
      simp [text, readValue, skipSpace, isSpace] at h
  | .array [], fuel + 1, room + 1, rest, behind, found, _, h => by
    simp [text, readValue, skipSpace, isSpace] at h
    simp [nesting, elementsNesting, h]
  | .object [], fuel + 1, room + 1, rest, behind, found, _, h => by
    simp [text, readValue, skipSpace, isSpace] at h
    simp [nesting, membersNesting, h]
  | .array (value :: elements), fuel + 1, room + 1, rest, behind, found, _, h => by
    obtain ⟨c, cs, htext, hspace, hclose, -⟩ := text_head value
    rw [text, List.cons_append, List.append_assoc, htext, List.cons_append,
      readValue_openArray hspace hclose, ← List.cons_append, ← htext] at h
    obtain ⟨first, left, others, hvalue, helements⟩ :=
      exists_of_bind (fun value elements => array (value :: elements)) h
    obtain ⟨hfirst, rfl⟩ := nesting_of_readValue value _ _ _ _ _ (ends_elementsTail elements) hvalue
    obtain ⟨hothers, rfl⟩ := nesting_of_readElements elements _ _ _ _ _ helements
    rw [nesting, elementsNesting]
    exact ⟨by omega, rfl⟩
  | .object ((name, value) :: members), fuel + 1, room + 1, rest, behind, found, _, h => by
    rw [text, List.cons_append, List.append_assoc, List.cons_append, List.append_assoc,
      readValue_openObject] at h
    obtain ⟨member, left, others, hmember, hmembers⟩ :=
      exists_of_bind (fun member members => object (Members.ofList (member :: members))) h
    obtain ⟨fuel', first, hvalue⟩ := value_of_readMember hmember
    obtain ⟨hfirst, rfl⟩ := nesting_of_readValue value _ _ _ _ _ (ends_membersTail members) hvalue
    obtain ⟨hothers, rfl⟩ := nesting_of_readMembers members _ _ _ _ _ hmembers
    rw [nesting, membersNesting]
    exact ⟨by omega, rfl⟩

theorem nesting_of_readElements : ∀ (elements : List Json) (fuel room : Nat)
    (rest behind : List Char) (found : List Json),
    readElements fuel room (elementsTail elements ++ rest) = some (found, behind) →
    elementsNesting elements ≤ room ∧ behind = rest
  | elements, 0, room, rest, behind, found, h => by simp [readElements] at h
  | [], fuel + 1, room, rest, behind, found, h => by
    simp [elementsTail, readElements, skipSpace, isSpace] at h
    simp [elementsNesting, h]
  | value :: elements, fuel + 1, room, rest, behind, found, h => by
    rw [elementsTail, List.cons_append, List.append_assoc, readElements_comma] at h
    obtain ⟨first, left, others, hvalue, helements⟩ := exists_of_bind List.cons h
    obtain ⟨hfirst, rfl⟩ := nesting_of_readValue value _ _ _ _ _ (ends_elementsTail elements) hvalue
    obtain ⟨hothers, rfl⟩ := nesting_of_readElements elements _ _ _ _ _ helements
    rw [elementsNesting]
    exact ⟨by omega, rfl⟩

theorem nesting_of_readMembers : ∀ (members : List (String × Json)) (fuel room : Nat)
    (rest behind : List Char) (found : List (String × Json)),
    readMembers fuel room (membersTail members ++ rest) = some (found, behind) →
    membersNesting members ≤ room ∧ behind = rest
  | members, 0, room, rest, behind, found, h => by simp [readMembers] at h
  | [], fuel + 1, room, rest, behind, found, h => by
    simp [membersTail, readMembers, skipSpace, isSpace] at h
    simp [membersNesting, h]
  | (name, value) :: members, fuel + 1, room, rest, behind, found, h => by
    rw [membersTail, List.cons_append, List.append_assoc, List.cons_append, List.append_assoc,
      readMembers_comma] at h
    obtain ⟨member, left, others, hmember, hmembers⟩ := exists_of_bind List.cons h
    obtain ⟨fuel', first, hvalue⟩ := value_of_readMember hmember
    obtain ⟨hfirst, rfl⟩ := nesting_of_readValue value _ _ _ _ _ (ends_membersTail members) hvalue
    obtain ⟨hothers, rfl⟩ := nesting_of_readMembers members _ _ _ _ _ hmembers
    rw [membersNesting]
    exact ⟨by omega, rfl⟩

end

/-- Text whose containers nest deeper than they are read is refused. -/
theorem ofString?_print_of_deep {value : Json} (h : maxNesting < value.nesting) :
    ofString? value.print = none := by
  rw [ofString?, print, String.toList_ofList, parse?]
  cases hread : readValue (value.text.length + 1) maxNesting value.text with
  | none => rfl
  | some found =>
    rw [← List.append_nil value.text] at hread
    have hdepth := nesting_of_readValue value _ _ [] _ _ .nil hread
    omega

end RecordMapper.Json
