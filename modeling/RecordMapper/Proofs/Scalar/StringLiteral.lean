import RecordMapper.Proofs.Placeholder.Regions

/-!
Displayed texts as string literals. A literal stands between apostrophes and has each apostrophe of its
text twice. A reader of literals therefore finds the end of a displayed text and gets the text back,
and numbering passes over it, though it takes a doubled apostrophe for the end of one literal and the
start of the next.
-/

namespace RecordMapper

open Postgres

namespace SqlValue

/-- The text that stands inside a literal, with one apostrophe for each two. An apostrophe that stands
alone is refused. -/
def undouble? : List Char → Option (List Char)
  | [] => some []
  | '\'' :: '\'' :: cs => (undouble? cs).map ('\'' :: ·)
  | c :: cs => if c = '\'' then none else (undouble? cs).map (c :: ·)

/-- Reads a literal from behind its first apostrophe up to the next one that is not doubled, as its
text and what follows it. -/
def readInside? : List Char → Option (List Char × List Char)
  | [] => none
  | '\'' :: '\'' :: cs => (readInside? cs).map (Prod.map ('\'' :: ·) id)
  | c :: cs => if c = '\'' then some ([], cs) else (readInside? cs).map (Prod.map (c :: ·) id)

def readLiteral? : List Char → Option (List Char × List Char)
  | '\'' :: cs => readInside? cs
  | _ => none

theorem doubleApostrophes_apostrophe (text : List Char) :
    doubleApostrophes ('\'' :: text) = '\'' :: '\'' :: doubleApostrophes text :=
  if_pos rfl

theorem doubleApostrophes_of_ne {c : Char} (hc : c ≠ '\'') (text : List Char) :
    doubleApostrophes (c :: text) = c :: doubleApostrophes text :=
  if_neg hc

theorem undouble?_of_ne {c : Char} (hc : c ≠ '\'') (cs : List Char) :
    undouble? (c :: cs) = (undouble? cs).map (c :: ·) := by
  rw [undouble?, if_neg hc]
  rintro _ rfl
  exact absurd rfl hc

theorem readInside?_of_ne {c : Char} (hc : c ≠ '\'') (cs : List Char) :
    readInside? (c :: cs) = (readInside? cs).map (Prod.map (c :: ·) id) := by
  rw [readInside?, if_neg hc]
  rintro _ rfl
  exact absurd rfl hc

theorem readInside?_apostrophe {rest : List Char} (hrest : rest.head? ≠ some '\'') :
    readInside? ('\'' :: rest) = some ([], rest) := by
  rw [readInside?, if_pos rfl]
  rintro _ - rfl
  exact hrest rfl

theorem undouble?_doubleApostrophes (text : List Char) :
    undouble? (doubleApostrophes text) = some text := by
  induction text with
  | nil => rfl
  | cons c text ih =>
    by_cases hc : c = '\''
    · subst hc
      rw [doubleApostrophes_apostrophe, undouble?, ih]
      rfl
    · rw [doubleApostrophes_of_ne hc, undouble?_of_ne hc, ih]
      rfl

theorem readInside?_doubleApostrophes (text : List Char) {rest : List Char}
    (hrest : rest.head? ≠ some '\'') :
    readInside? (doubleApostrophes text ++ '\'' :: rest) = some (text, rest) := by
  induction text with
  | nil => exact readInside?_apostrophe hrest
  | cons c text ih =>
    by_cases hc : c = '\''
    · subst hc
      rw [doubleApostrophes_apostrophe, List.cons_append, List.cons_append, readInside?, ih]
      rfl
    · rw [doubleApostrophes_of_ne hc, List.cons_append, readInside?_of_ne hc, ih]
      rfl

theorem eq_of_readInside? {cs text rest : List Char} (h : readInside? cs = some (text, rest)) :
    cs = doubleApostrophes text ++ '\'' :: rest ∧ rest.head? ≠ some '\'' := by
  fun_induction readInside? cs generalizing text with
  | case1 => cases h
  | case2 cs ih =>
    obtain ⟨⟨inner, behind⟩, hread, hpair⟩ := Option.map_eq_some_iff.1 h
    cases hpair
    obtain ⟨rfl, hrest⟩ := ih hread
    rw [doubleApostrophes_apostrophe]
    exact ⟨rfl, hrest⟩
  | case3 cs hsingle =>
    cases h
    refine ⟨rfl, fun hhead => ?_⟩
    obtain ⟨cs, rfl⟩ := List.head?_eq_some_iff.1 hhead
    exact hsingle cs rfl rfl
  | case4 c cs _ hc ih =>
    obtain ⟨⟨inner, behind⟩, hread, hpair⟩ := Option.map_eq_some_iff.1 h
    cases hpair
    obtain ⟨rfl, hrest⟩ := ih hread
    rw [doubleApostrophes_of_ne hc]
    exact ⟨rfl, hrest⟩

theorem toList_display_text (s : String) :
    (text s).display.toList = '\'' :: (doubleApostrophes s.toList ++ ['\'']) := by
  rw [display, String.toList_ofList]

theorem verbatimFrom_doubleApostrophes (text : List Char) :
    VerbatimFrom (some '\'') (doubleApostrophes text ++ ['\'']) := by
  induction text with
  | nil => exact .cons (not_isPlaceholder_some _ _) verbatim_nil
  | cons c text ih =>
    by_cases hc : c = '\''
    · -- the first of the two apostrophes closes the quote and the second one opens it again
      subst hc
      rw [doubleApostrophes_apostrophe, List.cons_append, List.cons_append]
      exact .cons (not_isPlaceholder_some _ _) (.cons (not_isPlaceholder_of_ne _ (by decide)) ih)
    · rw [doubleApostrophes_of_ne hc, List.cons_append]
      refine .cons (not_isPlaceholder_some _ _) ?_
      rw [quoteBehind, if_neg hc]
      exact ih

theorem verbatim_display_text (s : String) : Verbatim (text s).display.toList := by
  rw [toList_display_text]
  exact .cons (not_isPlaceholder_of_ne _ (by decide)) (verbatimFrom_doubleApostrophes _)

theorem readLiteral?_eq_some_iff {cs rest : List Char} {s : String} :
    readLiteral? cs = some (s.toList, rest) ↔
      cs = (text s).display.toList ++ rest ∧ rest.head? ≠ some '\'' := by
  rw [toList_display_text, List.cons_append, List.append_assoc, List.singleton_append]
  constructor
  · intro h
    unfold readLiteral? at h
    split at h
    · obtain ⟨rfl, hrest⟩ := eq_of_readInside? h
      exact ⟨rfl, hrest⟩
    · cases h
  · rintro ⟨rfl, hrest⟩
    exact readInside?_doubleApostrophes s.toList hrest

theorem display_text_injective {s t : String} (h : (text s).display = (text t).display) : s = t := by
  have hread (u : String) : readLiteral? (text u).display.toList = some (u.toList, []) :=
    readLiteral?_eq_some_iff.2 ⟨(List.append_nil _).symm, by simp⟩
  have hsame := hread s
  rw [h, hread t] at hsame
  exact String.toList_inj.1 (congrArg Prod.fst (Option.some.inj hsame)).symm

/-- The display of a text is one closed string literal. What stands between its two apostrophes is the
text when its apostrophes are undoubled, so that different texts display differently; and from the
start of any text the literal is read as this text exactly when the whole display stands there and no
further apostrophe follows. Behind what leaves no quote open the display stays as it is, and all around
it is numbered as if the display were absent. -/
theorem displayed_closed (s : String) :
    (∃ inside, (text s).display.toList = '\'' :: (inside ++ ['\'']) ∧
      undouble? inside = some s.toList) ∧
    (∀ t : String, (text t).display = (text s).display ↔ t = s) ∧
    (∀ cs rest : List Char, readLiteral? cs = some (s.toList, rest) ↔
      cs = (text s).display.toList ++ rest ∧ rest.head? ≠ some '\'') ∧
    ∀ (a b : String) (regions : List Region), Divides a.toList regions →
      (∀ region ∈ regions, region.Terminated) →
      ∃ behind, numberedSql (a ++ b) = numberedSql a ++ behind ∧
        numberedSql (a ++ (text s).display ++ b) =
          numberedSql a ++ (text s).display ++ behind := by
  refine ⟨⟨_, toList_display_text s, undouble?_doubleApostrophes s.toList⟩, fun t => ?_,
    fun _ _ => readLiteral?_eq_some_iff, fun a b regions ha hterminated => ?_⟩
  · exact ⟨display_text_injective, fun h => by rw [h]⟩
  · exact exists_numberedSql_insert (ha.quoteAfter_eq_none_iff.2 hterminated)
      (verbatim_display_text s) b

theorem displayed_closed_between_placeholders :
    (text "'?\"").display = "'''?\"'" ∧
    Divides "'?', ?, ".toList [.quoted '\'' ['?'], .bare [',', ' ', '?', ',', ' ']] ∧
    ∃ behind, numberedSql ("'?', ?, " ++ ", ?") = numberedSql "'?', ?, " ++ behind ∧
      numberedSql ("'?', ?, " ++ (text "'?\"").display ++ ", ?") =
        numberedSql "'?', ?, " ++ (text "'?\"").display ++ behind ∧
      numberedSql "'?', ?, " ++ (text "'?\"").display ++ behind = "'?', $1, '''?\"', $2" := by
  have hdivides : Divides ['\'', '?', '\'', ',', ' ', '?', ',', ' ']
      [.quoted '\'' ['?'], .bare [',', ' ', '?', ',', ' ']] := by
    have hbare := @Divides.bare [',', ' ', '?', ',', ' '] [] [] (by simp) (by simp [IsQuote])
      (by simp) .nil
    exact @Divides.quoted '\'' ['?'] _ _ (.inl rfl) (by simp) hbare
  obtain ⟨-, -, -, hnumbered⟩ := displayed_closed "'?\""
  obtain ⟨behind, hwithout, hwith⟩ :=
    hnumbered "'?', ?, " ", ?" _ hdivides (by simp [Region.Terminated])
  exact ⟨by decide, hdivides, behind, hwithout, hwith, hwith.symm.trans (by decide)⟩

end SqlValue

end RecordMapper
