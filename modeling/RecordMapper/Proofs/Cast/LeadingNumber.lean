import RecordMapper.Cast.InPlace
import RecordMapper.Proofs.Number.DecimalText

/-!
Doubles read from the beginning of a text. Behind its blanks a text starts with the name of infinity,
or with a number, of which the longest is read and rounded; any other text is refused. The bytes of
the text are cut right behind that number, which is read as a whole text without fault.
-/

namespace RecordMapper

variable {cs : List Char} {negative : Bool}

theorem exponentEnd?_append (cs tail : List Char) :
    ∃ more, tail = more ++ (takeExponent tail).2 ∧
      exponentEnd? (cs ++ tail) (byteLength cs) = some (byteLength (cs ++ more)) := by
  have hletter := any_head?_utf8 isExponentByte_head tail
  rw [← getElem?_utf8_append cs] at hletter
  unfold exponentEnd?
  by_cases hexponent : ∃ c rest, tail = c :: rest ∧ (c = 'e' ∨ c = 'E')
  · rw [if_pos (hletter.2 hexponent)]
    obtain ⟨letter, behind, rfl, hc⟩ := hexponent
    have hone : byteLength (cs ++ [letter]) = byteLength cs + 1 := by
      rw [byteLength_append]
      rcases hc with rfl | rfl <;> rfl
    have hslice := sliceFrom?_append (cs ++ [letter]) behind
    rw [hone, List.append_assoc, List.singleton_append] at hslice
    rw [hslice, Option.map_some, signedDigitsEnd?_utf8]
    rcases takeExponent_cases (letter :: behind) with
      ⟨_, word, i, rest, -, hnumeral, hrest, heq, htake⟩ | htake
    · obtain ⟨rfl, rfl⟩ := List.cons.inj heq
      rw [htake, hnumeral.leadingInteger?_append hrest]
      refine ⟨letter :: word, rfl, ?_⟩
      rw [← List.singleton_append, ← List.append_assoc, byteLength_append, hone]
      rfl
    · -- without digits the letter is none of an exponent
      have hnone : leadingInteger? behind = none := by
        rw [Option.eq_none_iff_forall_ne_some]
        intro word hword
        obtain ⟨i, rest, rfl, hnumeral, hrest⟩ := numeral_of_leadingInteger? hword
        cases htake.symm.trans (hnumeral.takeExponent_append hc hrest)
      rw [htake, hnone]
      exact ⟨[], rfl, by rw [List.append_nil]; rfl⟩
  · rw [if_neg (mt hletter.1 hexponent)]
    rcases takeExponent_cases tail with ⟨letter, word, i, rest, hc, -, -, heq, -⟩ | htake
    · exact absurd ⟨letter, _, heq, hc⟩ hexponent
    · rw [htake]
      exact ⟨[], rfl, by rw [List.append_nil]⟩

theorem numberEnd?_cases (cs : List Char) :
    (Decimal.scan? cs = none ∧ numberEnd? cs = some none) ∨
      ∃ d word rest, Decimal.scan? cs = some (d, rest) ∧ cs = word ++ rest ∧
        numberEnd? cs = some (some (byteLength word)) := by
  obtain ⟨mantissa, hcs, hend⟩ := mantissaEnd_utf8 cs
  unfold numberEnd? Decimal.scan?
  rw [hend]
  generalize takeSign cs = signed at hcs ⊢
  obtain ⟨negative, unsigned⟩ := signed
  dsimp only at hcs ⊢
  generalize unsigned.takeWhile Char.isDigit = whole
  generalize takeFraction (unsigned.dropWhile Char.isDigit) = point at hcs ⊢
  obtain ⟨fraction, tail⟩ := point
  dsimp only at hcs ⊢
  have hdigits : whole.length + (fraction.getD []).length = 0 ↔ whole = [] ∧ fraction.getD [] = [] := by
    rw [Nat.add_eq_zero_iff, List.length_eq_zero_iff, List.length_eq_zero_iff]
  by_cases hnone : whole = [] ∧ fraction.getD [] = []
  · rw [if_pos (hdigits.2 hnone), if_pos hnone]
    exact .inl ⟨rfl, rfl⟩
  · obtain ⟨more, htail, hexponent⟩ := exponentEnd?_append mantissa tail
    rw [if_neg (mt hdigits.1 hnone), if_neg hnone]
    rw [← hcs] at hexponent
    refine .inr ⟨_, mantissa ++ more, _, rfl, ?_, ?_⟩
    · rw [List.append_assoc, ← htail, hcs]
    · rw [hexponent, Option.map_some]

/-- A text starts with the name of infinity, with at most one sign in front. -/
def NamesInfinity (cs : List Char) (negative : Bool) : Prop :=
  ∃ sign, SignText sign negative ∧ sign ++ "Infinity".toList <+: cs

theorem namesInfinity_iff :
    NamesInfinity cs negative ↔
      (takeSign cs).1 = negative ∧ "Infinity".toList.isPrefixOf (takeSign cs).2 = true := by
  rw [List.isPrefixOf_iff_prefix]
  constructor
  · rintro ⟨sign, hsign, rest, rfl⟩
    have hname : ∀ c ∈ ("Infinity".toList ++ rest).head?, ¬ (c = '+' ∨ c = '-') := by
      rintro _ ⟨⟩
      decide
    rw [List.append_assoc, hsign.takeSign_append hname]
    exact ⟨rfl, List.prefix_append _ rest⟩
  · rintro ⟨rfl, rest, hrest⟩
    obtain ⟨sign, hsign, hcs⟩ := exists_signText cs
    refine ⟨sign, hsign, rest, ?_⟩
    rw [List.append_assoc, hrest, ← hcs]

namespace Cast

theorem textToFloat_of_namesInfinity (h : NamesInfinity (trimStart cs) negative) :
    textToFloat cs = some (.infinite negative) := by
  obtain ⟨rfl, hname⟩ := namesInfinity_iff.1 h
  unfold textToFloat
  dsimp only
  rw [if_pos hname]

theorem textToFloat_of_not_namesInfinity (h : ¬ ∃ negative, NamesInfinity (trimStart cs) negative) :
    textToFloat cs =
      (Decimal.scan? (trimStart cs)).map fun scanned => .ofDecimal .double scanned.1 := by
  have hname : ¬ "Infinity".toList.isPrefixOf (takeSign (trimStart cs)).2 = true := fun hname =>
    h ⟨_, namesInfinity_iff.2 ⟨rfl, hname⟩⟩
  unfold textToFloat
  dsimp only
  rw [if_neg hname]

theorem textToFloat_eq_some_iff (h : ¬ ∃ negative, NamesInfinity (trimStart cs) negative) {x : Double} :
    textToFloat cs = some x ↔
      ∃ word negative q, LeadsNumber (trimStart cs) word negative q ∧ Binary.Rounds negative q x := by
  rw [textToFloat_of_not_namesInfinity h, Option.map_eq_some_iff]
  constructor
  · rintro ⟨⟨d, rest⟩, hscan, rfl⟩
    obtain ⟨word, -, hleads⟩ := leadsNumber_of_scan? hscan
    exact ⟨word, _, _, hleads, Binary.rounds_ofDecimal (by decide) d⟩
  · rintro ⟨word, negative, q, hleads, hrounds⟩
    cases hscan : Decimal.scan? (trimStart cs) with
    | none => exact absurd hleads.number (scan?_eq_none_iff.1 hscan _ _ _ hleads.begins)
    | some scanned =>
      obtain ⟨d, rest⟩ := scanned
      obtain ⟨other, -, hother⟩ := leadsNumber_of_scan? hscan
      obtain ⟨-, rfl, rfl⟩ := hleads.unique hother
      exact ⟨_, rfl, (Binary.rounds_ofDecimal (by decide) d).unique hrounds⟩

theorem exists_textToFloat_iff :
    (∃ x, textToFloat cs = some x) ↔
      (∃ negative, NamesInfinity (trimStart cs) negative) ∨
        ∃ word negative q, word <+: trimStart cs ∧ NumberText word negative q := by
  by_cases h : ∃ negative, NamesInfinity (trimStart cs) negative
  · obtain ⟨negative, hname⟩ := h
    exact iff_of_true ⟨_, textToFloat_of_namesInfinity hname⟩ (.inl ⟨negative, hname⟩)
  · rw [textToFloat_of_not_namesInfinity h, or_iff_right h]
    cases hscan : Decimal.scan? (trimStart cs) with
    | none =>
      refine iff_of_false (by simp) ?_
      rintro ⟨word, negative, q, hbegins, hnumber⟩
      exact scan?_eq_none_iff.1 hscan _ _ _ hbegins hnumber
    | some scanned =>
      obtain ⟨word, -, hleads⟩ := leadsNumber_of_scan? hscan
      exact iff_of_true ⟨_, rfl⟩ ⟨word, _, _, hleads.begins, hleads.number⟩

/-! In place. -/

theorem exists_numberEnd? (cs : List Char) :
    ∃ found, numberEnd? cs = some found ∧ ∀ stop ∈ found, ∃ word negative q x,
      sliceTo? cs stop = some word ∧ LeadsNumber cs word negative q ∧
        Binary.read .double word = .ok x ∧ Binary.Rounds negative q x := by
  rcases numberEnd?_cases cs with ⟨-, hend⟩ | ⟨d, word, rest, hscan, hcs, hend⟩
  · exact ⟨none, hend, nofun⟩
  · obtain ⟨other, hother, hleads⟩ := leadsNumber_of_scan? hscan
    obtain rfl : word = other := List.append_cancel_right (hcs.symm.trans hother)
    obtain ⟨x, hread, hrounds⟩ := hleads.number.read (f := .double) (by decide)
    refine ⟨_, hend, ?_⟩
    rintro _ ⟨⟩
    refine ⟨word, _, _, x, ?_, hleads, hread, hrounds⟩
    rw [hcs, sliceTo?_append]

theorem isSign_iff {c : Char} : isSign c = true ↔ c = '+' ∨ c = '-' := by
  rw [isSign, Bool.or_eq_true, beq_iff_eq, beq_iff_eq]

theorem takeSign_cons {c : Char} (h : isSign c = true) (cs : List Char) :
    takeSign (c :: cs) = (c == '-', cs) := by
  rcases isSign_iff.1 h with rfl | rfl <;> rfl

theorem signs_iff (cs : List Char) :
    (byteLength cs - byteLength (cs.dropWhile isSign) ≤ 1 ∧
      "Infinity".toList.isPrefixOf (cs.dropWhile isSign) = true) ↔
        "Infinity".toList.isPrefixOf (takeSign cs).2 = true := by
  have hsplit := @List.takeWhile_append_dropWhile _ isSign cs
  have hsigns : ∀ c ∈ cs.takeWhile isSign, isSign c = true := List.all_eq_true.1 List.all_takeWhile
  have hhead : ∀ c ∈ (cs.dropWhile isSign).head?, ¬ isSign c = true := by
    intro c hc
    have hstop := List.head?_dropWhile_not isSign cs
    rw [hc] at hstop
    simpa using hstop
  generalize cs.takeWhile isSign = signs at hsplit hsigns
  generalize cs.dropWhile isSign = unsigned at hsplit hhead ⊢
  subst hsplit
  have hlength : byteLength (signs ++ unsigned) - byteLength unsigned = signs.length := by
    rw [byteLength_append, Nat.add_sub_cancel, byteLength_of_lt]
    intro c hc
    rcases isSign_iff.1 (hsigns c hc) with rfl | rfl <;> decide
  rw [hlength]
  match signs with
  | [] =>
    rw [List.nil_append, takeSign_of_head fun c hc => mt isSign_iff.2 (hhead c hc)]
    exact and_iff_right (Nat.zero_le 1)
  | [c] =>
    rw [List.singleton_append, takeSign_cons (hsigns c (by simp))]
    exact and_iff_right (Nat.le_refl 1)
  | c :: d :: more =>
    -- the name does not start with the second sign
    have hname : ¬ "Infinity".toList.isPrefixOf (d :: (more ++ unsigned)) = true := by
      rw [List.isPrefixOf_iff_prefix]
      rintro ⟨rest, hrest⟩
      obtain rfl : 'I' = d := (List.cons.inj hrest).1
      exact absurd (hsigns 'I' (by simp)) (by decide)
    rw [List.cons_append, List.cons_append, takeSign_cons (hsigns c (by simp))]
    exact iff_of_false (fun h => absurd h.1 (by simp)) hname

theorem takeSign_fst (cs : List Char) : (takeSign cs).1 = (cs.head? == some '-') := by
  cases cs with
  | nil => rfl
  | cons c cs =>
    by_cases hsign : isSign c = true
    · rw [takeSign_cons hsign]
      rfl
    · have hminus : c ≠ '-' := fun h => hsign (isSign_iff.2 (.inr h))
      rw [takeSign_of_head, List.head?_cons, eq_comm, beq_eq_false_iff_ne, Ne, Option.some_inj]
      · exact hminus
      · rintro _ ⟨⟩
        exact mt isSign_iff.2 hsign

/-- Reading in place comes to reading, and never cuts the text inside a character. -/
theorem textToFloatInPlace?_eq (cs : List Char) :
    textToFloatInPlace? cs = some (textToFloat cs) := by
  have hsigns := signs_iff (trimStart cs)
  unfold textToFloatInPlace?
  dsimp only
  by_cases hname : "Infinity".toList.isPrefixOf (takeSign (trimStart cs)).2 = true
  · rw [if_pos (hsigns.2 hname), textToFloat_of_namesInfinity (namesInfinity_iff.2 ⟨rfl, hname⟩),
      takeSign_fst]
  · have hnot : ¬ ∃ negative, NamesInfinity (trimStart cs) negative := fun ⟨_, h⟩ =>
      hname (namesInfinity_iff.1 h).2
    rw [if_neg (mt hsigns.1 hname), textToFloat_of_not_namesInfinity hnot]
    obtain ⟨found, hfound, hstop⟩ := exists_numberEnd? (trimStart cs)
    rcases numberEnd?_cases (trimStart cs) with ⟨hscan, hend⟩ | ⟨d, word, rest, hscan, -, hend⟩
    · rw [hscan, hend]
      rfl
    · obtain rfl := Option.some.inj (hend.symm.trans hfound)
      obtain ⟨_, _, _, x, hslice, hleads, hread, hrounds⟩ := hstop _ rfl
      obtain ⟨_, -, hleads'⟩ := leadsNumber_of_scan? hscan
      obtain ⟨-, rfl, rfl⟩ := hleads.unique hleads'
      rw [hend, hscan]
      dsimp only
      rw [hslice, Option.map_some, hread, hrounds.unique (Binary.rounds_ofDecimal (by decide) d)]
      rfl

/-- Behind its blanks, a text is read as an infinity where it starts with that name, and otherwise as
what the longest number that it starts with is rounded to; it is refused where it starts with
neither. The scan of its bytes answers the same and is never left without an answer: the text is cut
at the end of a character, behind that longest number, which is read without fault. -/
theorem reads_leading_number (s : String) :
    let start := trimStart s.toList
    ((∃ x, toFloat (some (.string s)) = some x) ↔
      (∃ negative, NamesInfinity start negative) ∨
        ∃ word negative q, word <+: start ∧ NumberText word negative q) ∧
    (∀ negative, NamesInfinity start negative →
      toFloat (some (.string s)) = some (.infinite negative)) ∧
    ((¬ ∃ negative, NamesInfinity start negative) → ∀ x, toFloat (some (.string s)) = some x ↔
      ∃ word negative q, LeadsNumber start word negative q ∧ Binary.Rounds negative q x) ∧
    textToFloatInPlace? s.toList = some (toFloat (some (.string s))) ∧
    ∃ found, numberEnd? start = some found ∧ ∀ stop ∈ found, ∃ word negative q x,
      sliceTo? start stop = some word ∧ LeadsNumber start word negative q ∧
        Binary.read .double word = .ok x ∧ Binary.Rounds negative q x := by
  refine ⟨exists_textToFloat_iff, fun negative => textToFloat_of_namesInfinity, fun hname x => ?_,
    textToFloatInPlace?_eq s.toList, exists_numberEnd? _⟩
  exact textToFloat_eq_some_iff hname

theorem reads_leading_number_edge :
    toFloat (some (.string "+Infinity!")) = some (.infinite false) ∧
    (∃ word negative q, LeadsNumber (trimStart " -1.e5é".toList) word negative q ∧
      Binary.Rounds negative q
        (.finite ⟨true, 0x40f86a0000000000, by decide +kernel⟩ : Double)) ∧
    toFloat (some (.string "--Infinity")) = none := by
  obtain ⟨-, hinfinite, -⟩ := reads_leading_number "+Infinity!"
  obtain ⟨-, -, hnumber, -⟩ := reads_leading_number " -1.e5é"
  have hname : NamesInfinity (trimStart "+Infinity!".toList) false :=
    ⟨['+'], .plus, ['!'], by decide +kernel⟩
  have hnot : ¬ ∃ negative, NamesInfinity (trimStart " -1.e5é".toList) negative := by
    rintro ⟨negative, h⟩
    exact absurd (namesInfinity_iff.1 h).2 (by decide +kernel)
  refine ⟨hinfinite false hname, ?_, by decide +kernel⟩
  exact (hnumber hnot _).1 (by decide +kernel)

end Cast

end RecordMapper
