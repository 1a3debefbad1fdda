import RecordMapper.Number.ByteScan
import RecordMapper.Proofs.Cast.BigInteger

/-!
Integers read from the beginning of a text. What is read is the longest numeral that the text starts
with, behind its blanks; a numeral out of range is refused, not cut short. A text that is a numeral
as a whole is read as the same integer by either cast.
-/

namespace RecordMapper

/-- A text starts with a numeral of an integer, and with no longer one. -/
structure Leads (cs word : List Char) (i : Int) : Prop where
  numeral : Numeral word i
  begins : word <+: cs
  longest : ∀ other j, other <+: cs → Numeral other j → other <+: word

variable {cs word rest : List Char} {i : Int}

theorem Numeral.leads_append (h : Numeral word i) (hrest : ∀ c ∈ rest.head?, c.isDigit = false) :
    Leads (word ++ rest) word i := by
  refine ⟨h, List.prefix_append _ _, ?_⟩
  intro other j hother hnumeral
  rcases List.prefix_or_prefix_of_prefix hother (List.prefix_append word rest) with hle | hlonger
  · exact hle
  obtain ⟨more, rfl⟩ := hlonger
  rw [List.prefix_append_right_inj] at hother
  cases more with
  | nil => simp
  | cons d more =>
    -- the character behind the numeral would be one of its digits
    obtain ⟨c, digits, rfl⟩ := List.exists_cons_of_ne_nil h.ne_nil
    have hdigit : d.isDigit = true := hnumeral.isDigit_of_mem_tail d (by simp)
    obtain ⟨behind, rfl⟩ := hother
    rw [hrest d rfl] at hdigit
    cases hdigit

theorem Leads.behind (h : Leads (word ++ rest) word i) : ∀ c ∈ rest.head?, c.isDigit = false := by
  intro c hc
  obtain ⟨behind, rfl⟩ := List.head?_eq_some_iff.1 hc
  rw [Bool.eq_false_iff]
  intro hdigit
  obtain ⟨j, hlonger⟩ := h.numeral.append (List.forall_mem_singleton.2 hdigit)
  have hle := (h.longest _ j (by simp) hlonger).length_le
  simp at hle

theorem leadingInteger?_eq_some_iff :
    leadingInteger? cs = some word ↔ ∃ i, Leads cs word i := by
  constructor
  · intro h
    obtain ⟨i, rest, rfl, hnumeral, hrest⟩ := numeral_of_leadingInteger? h
    exact ⟨i, hnumeral.leads_append hrest⟩
  · rintro ⟨i, h⟩
    obtain ⟨rest, rfl⟩ := h.begins
    exact h.numeral.leadingInteger?_append h.behind

theorem sliced_iff_leads :
    (∀ stop, signedDigitsEnd? (utf8 cs) = some stop → ∃ word, sliceTo? cs stop = some word) ∧
      ∀ word, (signedDigitsEnd? (utf8 cs)).bind (sliceTo? cs) = some word ↔
        ∃ i, Leads cs word i := by
  have hslice := slice_signedDigitsEnd? cs
  constructor
  · intro stop hstop
    rw [hstop, Option.map_some, eq_comm, Option.map_eq_some_iff] at hslice
    obtain ⟨word, -, hword⟩ := hslice
    exact ⟨word, hword.symm⟩
  · intro word
    have hjoin : (signedDigitsEnd? (utf8 cs)).bind (sliceTo? cs) = leadingInteger? cs := by
      have hbind := congrArg (Option.bind · id) hslice
      simpa [Option.bind_map, Function.comp_def] using hbind
    rw [hjoin, leadingInteger?_eq_some_iff]

namespace Cast

theorem textToInt_eq_some_iff {i : Int64} :
    textToInt cs = some i ↔ ∃ word, Leads (trimStart cs) word i.toInt := by
  have hread (word : List Char) (j : Int) :
      int64Range.read word = .ok j ↔ Numeral word j ∧ int64Range.Holds j :=
    IntegerRange.read_eq_ok_iff (by decide) (by decide)
  unfold textToInt
  constructor
  · intro h
    split at h
    · cases h
    · next word hword =>
      split at h
      · next j hj =>
        obtain ⟨hnumeral, hlow, hhigh⟩ := (hread word j).1 hj
        obtain ⟨k, hleads⟩ := leadingInteger?_eq_some_iff.1 hword
        have hi : i.toInt = j := by
          rw [← Option.some.inj h]
          exact Int64.toInt_ofInt_of_le hlow (Int.lt_of_le_sub_one hhigh)
        exact ⟨word, hi ▸ hnumeral, hleads.begins, hleads.longest⟩
      · cases h
  · rintro ⟨word, hleads⟩
    have hholds : int64Range.Holds i.toInt := ⟨i.le_toInt, Int.le_sub_one_of_lt i.toInt_lt⟩
    rw [leadingInteger?_eq_some_iff.2 ⟨_, hleads⟩]
    dsimp only
    rw [(hread word i.toInt).2 ⟨hleads.numeral, hholds⟩]
    dsimp only
    rw [Int64.ofInt_toInt]

theorem textToInt_eq_none_iff :
    textToInt cs = none ↔ ∀ word i, Leads (trimStart cs) word i → ¬ FitsInt64 i := by
  rw [Option.eq_none_iff_forall_ne_some]
  simp only [ne_eq, textToInt_eq_some_iff]
  constructor
  · intro hnone word i hleads hfits
    apply hnone (Int64.ofInt i)
    rw [Int64.toInt_ofInt_of_le hfits.1 hfits.2]
    exact ⟨word, hleads⟩
  · rintro hall i ⟨word, hleads⟩
    exact hall word i.toInt hleads ⟨i.le_toInt, i.toInt_lt⟩

theorem textToInt_numeral {before : List Char} (hbefore : ∀ c ∈ before, isBlank c = true)
    {i : Int64} (hword : Numeral word i.toInt) (hrest : ∀ c ∈ rest.head?, c.isDigit = false) :
    textToInt (before ++ word ++ rest) = some i := by
  obtain ⟨c, digits, rfl⟩ := List.exists_cons_of_ne_nil hword.ne_nil
  have hstart : trimStart (before ++ (c :: digits) ++ rest) = (c :: digits) ++ rest := by
    rw [List.append_assoc, trimStart_append_of_blank hbefore]
    exact trimStart_of_head (hword.not_blank c List.mem_cons_self)
  rw [textToInt_eq_some_iff, hstart]
  exact ⟨_, hword.leads_append hrest⟩

theorem textToInt_of_textToBigInt {j : Int} (hblank : ¬ ∀ c ∈ cs, isBlank c = true)
    (h : textToBigInt cs = some j) (hfits : FitsInt64 j) :
    textToInt cs = some (Int64.ofInt j) := by
  cases textToBigInt_eq_some_iff.1 h with
  | blank _ hblanks => exact absurd hblanks hblank
  | numeral before word after _ hbefore hafter hword _ =>
    apply textToInt_numeral hbefore
    · rwa [Int64.toInt_ofInt_of_le hfits.1 hfits.2]
    · intro c hc
      have hc := hafter c (List.mem_of_mem_head? hc)
      rw [Bool.eq_false_iff]
      intro hdigit
      rw [isBlank_of_isDigit hdigit] at hc
      cases hc

/-- A text is cast to the integer of the longest numeral behind its first blanks, and refused when
there is none or its integer is out of range; the bytes of the text are cut right behind it. -/
theorem reads_leading_integer :
    (∀ (s : String) (i : Int64), toInt (some (.string s)) = some i ↔
      ∃ word, Leads (trimStart s.toList) word i.toInt) ∧
    (∀ s : String, toInt (some (.string s)) = none ↔
      ∀ word i, Leads (trimStart s.toList) word i → ¬ FitsInt64 i) ∧
    (∀ (i : Int64) (blanks behind : List Char), (∀ c ∈ blanks, isBlank c = true) →
      (∀ c ∈ behind.head?, c.isDigit = false) →
        toInt (some (.string (String.ofList (blanks ++ intDigits i.toInt ++ behind)))) = some i) ∧
    (∀ (s : String) (j : Int), (¬ ∀ c ∈ s.toList, isBlank c = true) →
      toBigInt (some (.string s)) = some j → FitsInt64 j →
        toInt (some (.string s)) = some (Int64.ofInt j)) ∧
    ∀ s : String, let start := trimStart s.toList
      (∀ stop, signedDigitsEnd? (utf8 start) = some stop → ∃ word, sliceTo? start stop = some word) ∧
        ∀ word, (signedDigitsEnd? (utf8 start)).bind (sliceTo? start) = some word ↔
          ∃ i, Leads start word i := by
  refine ⟨fun s i => textToInt_eq_some_iff, fun s => textToInt_eq_none_iff, ?_, ?_,
    fun s => sliced_iff_leads⟩
  · intro i blanks behind hblanks hbehind
    rw [toInt, String.toList_ofList]
    exact textToInt_numeral hblanks (numeral_intDigits _) hbehind
  · intro s j hblank hbig hfits
    exact textToInt_of_textToBigInt hblank hbig hfits

theorem reads_leading_integer_edge :
    toInt (some (.string (String.ofList
        ([' '] ++ intDigits (-9223372036854775808 : Int64).toInt ++ ['é', '7'])))) =
      some (-9223372036854775808) ∧
    toInt (some (.string " +42\n")) = some 42 ∧
    toInt (some (.string "-9223372036854775809")) = none := by
  obtain ⟨-, -, hwritten, hbig, -⟩ := reads_leading_integer
  have hblank : ∀ c ∈ [' '], isBlank c = true := List.all_eq_true.1 rfl
  have hbehind : ∀ c ∈ ['é', '7'].head?, c.isDigit = false := by
    rintro c ⟨⟩
    rfl
  have hsign : ¬ ∀ c ∈ " +42\n".toList, isBlank c = true := fun hall =>
    Bool.false_ne_true (hall '+' (by simp))
  refine ⟨hwritten _ [' '] ['é', '7'] hblank hbehind, ?_, by decide +kernel⟩
  exact hbig " +42\n" 42 hsign (by decide +kernel) (by decide)

end Cast

end RecordMapper
