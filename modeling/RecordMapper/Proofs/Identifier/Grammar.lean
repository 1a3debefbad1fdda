import RecordMapper.Proofs.Identifier.Accepts
import RecordMapper.Proofs.Query.Template

/-!
The grammar of names. A name is one or more parts with single points between them, a part is a word or
stands within quotes, and the reader takes in exactly the texts of the grammar.
-/

namespace RecordMapper.Identifier

def Letter (c : Char) : Prop :=
  ('A' ≤ c ∧ c ≤ 'Z') ∨ ('a' ≤ c ∧ c ≤ 'z')

def WordStart (c : Char) : Prop :=
  Letter c ∨ c = '_'

def WordChar (c : Char) : Prop :=
  Letter c ∨ c = '_' ∨ ('0' ≤ c ∧ c ≤ '9') ∨ c = '$'

inductive Quoted : List Char → Prop where
  | nil : Quoted []
  | char {c : Char} {cs : List Char} : c ≠ '"' → Quoted cs → Quoted (c :: cs)
  | quote {cs : List Char} : Quoted cs → Quoted ('"' :: '"' :: cs)

inductive Part : List Char → Prop where
  | word {c : Char} {cs : List Char} : WordStart c → (∀ d ∈ cs, WordChar d) → Part (c :: cs)
  | quoted {body : List Char} : body ≠ [] → Quoted body → Part ('"' :: (body ++ ['"']))

inductive Parts : List Char → Prop where
  | last {part : List Char} : Part part → Parts part
  | more {part rest : List Char} : Part part → Parts rest → Parts (part ++ '.' :: rest)

structure IsName (cs : List Char) : Prop where
  no_nul : '\x00' ∉ cs
  parts : Parts cs

/-- The texts that may stand in a projection: everything, a column, or all columns of a table. -/
inductive IsProjection : List Char → Prop where
  | all : IsProjection ['*']
  | column {cs : List Char} : IsName cs → IsProjection cs
  | table {cs : List Char} : IsName cs → IsProjection (cs ++ ['.', '*'])

theorem isAlpha_iff {c : Char} : c.isAlpha = true ↔ Letter c := by
  change (decide ('A' ≤ c ∧ c ≤ 'Z') || decide ('a' ≤ c) && decide (c ≤ 'z')) = true ↔ _
  simp only [Letter, Bool.or_eq_true, Bool.and_eq_true, decide_eq_true_eq]

theorem isDigit_iff {c : Char} : c.isDigit = true ↔ '0' ≤ c ∧ c ≤ '9' := by
  change (decide ('0' ≤ c) && decide (c ≤ '9')) = true ↔ _
  rw [Bool.and_eq_true, decide_eq_true_eq, decide_eq_true_eq]

theorem isWordStart_iff {c : Char} : isWordStart c = true ↔ WordStart c := by
  simp only [isWordStart, WordStart, Bool.or_eq_true, decide_eq_true_eq, isAlpha_iff]
  exact or_comm

theorem isWordChar_iff {c : Char} : isWordChar c = true ↔ WordChar c := by
  simp only [isWordChar, WordChar, Char.isAlphanum, Bool.or_eq_true, decide_eq_true_eq, isAlpha_iff,
    isDigit_iff]
  constructor
  · rintro ((h | h) | h | h)
    · exact .inr (.inl h)
    · exact .inr (.inr (.inr h))
    · exact .inl h
    · exact .inr (.inr (.inl h))
  · rintro (h | h | h | h)
    · exact .inr (.inl h)
    · exact .inl (.inl h)
    · exact .inr (.inr h)
    · exact .inl (.inr h)

theorem WordChar.ne_point {c : Char} (h : WordChar c) : c ≠ '.' := by
  rintro rfl
  exact absurd (isWordChar_iff.2 h) (by decide)

theorem WordStart.ne_quote {c : Char} (h : WordStart c) : c ≠ '"' := by
  rintro rfl
  exact absurd (isWordStart_iff.2 h) (by decide)

/-! What the reader does with a text of the grammar. -/

theorem scan_word {chars : List Char} (h : ∀ d ∈ chars, WordChar d) (tail : List Char) :
    scan .word (chars ++ tail) = scan .word tail := by
  induction chars with
  | nil => rfl
  | cons c chars ih =>
    obtain ⟨hc, hchars⟩ := List.forall_mem_cons.1 h
    rw [List.cons_append, scan, if_neg hc.ne_point, if_pos (isWordChar_iff.2 hc), ih hchars]

theorem scan_quoted {body tail : List Char} (h : Quoted body) (htail : tail.head? ≠ some '"')
    {started : Bool} (hstarted : started = true ∨ body ≠ []) :
    scan (.quoted started) (body ++ '"' :: tail) = scan .closed tail := by
  induction h generalizing started with
  | nil =>
    obtain rfl : started = true := by simpa using hstarted
    rw [List.nil_append, scan]
    · simp
    · rintro cs - rfl
      exact htail rfl
  | char hc _ ih =>
    rw [List.cons_append, scan, if_neg hc]
    · exact ih (.inl rfl)
    · rintro cs rfl -
      exact hc rfl
  | quote _ ih =>
    rw [List.cons_append, List.cons_append, scan]
    exact ih (.inl rfl)

theorem scan_part {part tail : List Char} (h : Part part) (htail : tail.head? ≠ some '"') :
    scan .start (part ++ tail) = scan .word tail ∨ scan .start (part ++ tail) = scan .closed tail := by
  cases h with
  | word hc hcs =>
    left
    rw [List.cons_append, scan, if_neg hc.ne_quote, if_pos (isWordStart_iff.2 hc), scan_word hcs]
  | quoted hbody hquoted =>
    right
    rw [List.cons_append, List.append_assoc, List.singleton_append, scan, if_pos rfl,
      scan_quoted hquoted htail (.inr hbody)]

theorem Parts.ne_nil {cs : List Char} (h : Parts cs) : cs ≠ [] := by
  cases h with
  | last h => cases h <;> simp
  | more => simp

theorem Parts.scan_eq_none {cs : List Char} (h : Parts cs) : scan .start cs = none := by
  induction h with
  | last h =>
    rcases scan_part h (show ([] : List Char).head? ≠ some '"' by simp) with hscan | hscan
    · rwa [List.append_nil] at hscan
    · rwa [List.append_nil] at hscan
  | @more part rest h hrest ih =>
    have hpoint : scan .word ('.' :: rest) = none ∧ scan .closed ('.' :: rest) = none := by
      simp [scan, hrest.ne_nil, ih]
    rcases scan_part h (show ('.' :: rest).head? ≠ some '"' by simp) with hscan | hscan
    · exact hscan.trans hpoint.1
    · exact hscan.trans hpoint.2

/-! What the grammar makes of a text that the reader takes in. -/

def Remainder (cs : List Char) : Prop :=
  cs = [] ∨ ∃ rest, cs = '.' :: rest ∧ Parts rest

theorem Part.append {part tail : List Char} (h : Part part) (htail : Remainder tail) :
    Parts (part ++ tail) := by
  rcases htail with rfl | ⟨rest, rfl, hrest⟩
  · rw [List.append_nil]
    exact .last h
  · exact .more h hrest

/-- What the grammar has at each place of the reader. -/
def Derives : Place → List Char → Prop
  | .start, cs => Parts cs
  | .word, cs => ∃ chars tail, cs = chars ++ tail ∧ (∀ d ∈ chars, WordChar d) ∧ Remainder tail
  | .quoted started, cs => ∃ body tail, cs = body ++ '"' :: tail ∧ Quoted body ∧
    (started = true ∨ body ≠ []) ∧ Remainder tail
  | .closed, cs => Remainder cs

theorem Accepts.derives {place : Place} {cs : List Char} (h : Accepts place cs) :
    Derives place cs := by
  induction h with
  | openQuote _ ih =>
    obtain ⟨body, tail, rfl, hquoted, hbody, htail⟩ := ih
    have hparts := (Part.quoted (by simpa using hbody) hquoted).append htail
    rwa [List.cons_append, List.append_assoc, List.singleton_append] at hparts
  | firstChar hstart _ ih =>
    obtain ⟨chars, tail, rfl, hchars, htail⟩ := ih
    exact (Part.word (isWordStart_iff.1 hstart) hchars).append htail
  | wordEnd => exact ⟨[], [], rfl, by simp, .inl rfl⟩
  | wordPoint _ ih => exact ⟨[], _, rfl, by simp, .inr ⟨_, rfl, ih⟩⟩
  | wordChar hword _ ih =>
    obtain ⟨chars, tail, rfl, hchars, htail⟩ := ih
    exact ⟨_ :: chars, tail, rfl, List.forall_mem_cons.2 ⟨isWordChar_iff.1 hword, hchars⟩, htail⟩
  | quotedQuote _ ih =>
    obtain ⟨body, tail, rfl, hquoted, -, htail⟩ := ih
    exact ⟨_, tail, rfl, .quote hquoted, .inr (by simp), htail⟩
  | quotedChar hc _ ih =>
    obtain ⟨body, tail, rfl, hquoted, -, htail⟩ := ih
    exact ⟨_, tail, rfl, .char hc hquoted, .inr (by simp), htail⟩
  | closeQuote _ ih => exact ⟨[], _, rfl, .nil, .inl rfl, ih⟩
  | closedEnd => exact .inl rfl
  | closedPoint _ ih => exact .inr ⟨_, rfl, ih⟩

theorem scan_start_eq_none_iff {cs : List Char} : scan .start cs = none ↔ Parts cs :=
  ⟨fun h => (accepts_of_scan h).derives, Parts.scan_eq_none⟩

theorem valid_iff_isName {cs : List Char} : Valid cs ↔ IsName cs := by
  unfold Valid fault?
  constructor
  · intro h
    split at h
    · cases h
    · split at h
      · cases h
      · next hnul => exact ⟨hnul, scan_start_eq_none_iff.1 h⟩
  · rintro ⟨hnul, hparts⟩
    rw [if_neg hparts.ne_nil, if_neg hnul]
    exact hparts.scan_eq_none

/-! Projections. -/

theorem Part.getLast?_ne_star {part : List Char} (h : Part part) : part.getLast? ≠ some '*' := by
  cases h with
  | word hc hcs =>
    intro hlast
    have hstar : WordChar '*' := by
      rcases List.mem_cons.1 (List.mem_of_getLast? hlast) with rfl | hmem
      · exact absurd (isWordStart_iff.2 hc) (by decide)
      · exact hcs _ hmem
    exact absurd (isWordChar_iff.2 hstar) (by decide)
  | quoted => simp [List.getLast?_cons]

theorem Parts.getLast?_ne_star {cs : List Char} (h : Parts cs) : cs.getLast? ≠ some '*' := by
  induction h with
  | last h => exact h.getLast?_ne_star
  | @more part rest _ hrest ih =>
    obtain ⟨c, cs, rfl⟩ := List.exists_cons_of_ne_nil hrest.ne_nil
    simpa [List.getLast?_append, List.getLast?_cons_cons] using ih

theorem projectedName_table {column : String} {cs : List Char}
    (h : column.toList = cs ++ ['.', '*']) :
    SelectQuery.projectedName column = String.ofList cs := by
  simp [SelectQuery.projectedName, h]

theorem projectedName_column {column : String} (h : Parts column.toList) :
    SelectQuery.projectedName column = column := by
  unfold SelectQuery.projectedName
  split
  · next table hreverse =>
    have hlast : column.toList.getLast? = some '*' := by
      rw [← List.head?_reverse, hreverse]
      rfl
    exact absurd hlast h.getLast?_ne_star
  · rfl

theorem checkProjection_of_projectedName {column : String}
    (h : IsName (SelectQuery.projectedName column).toList) :
    SelectQuery.checkProjection column = .ok () := by
  unfold SelectQuery.checkProjection
  split
  · rfl
  · have hname : ofText "column" (SelectQuery.projectedName column) =
        .ok ⟨SelectQuery.projectedName column, valid_iff_isName.2 h⟩ := ofText_eq_ok_iff.2 rfl
    rw [hname]
    rfl

theorem checkProjection_eq_ok_iff {column : String} :
    SelectQuery.checkProjection column = .ok () ↔ IsProjection column.toList := by
  constructor
  · intro h
    rcases SelectQuery.isColumn_of_checkProjection h with hall | ⟨name, star, hname, hstar, heq⟩
    · rw [hall]
      exact .all
    · rw [heq]
      rcases hstar with rfl | rfl
      · rw [List.append_nil]
        exact .column (valid_iff_isName.1 hname)
      · exact .table (valid_iff_isName.1 hname)
  · intro h
    generalize htext : column.toList = cs at h
    cases h with
    | all =>
      obtain rfl : column = "*" := String.toList_inj.1 htext
      rfl
    | column hname =>
      subst htext
      apply checkProjection_of_projectedName
      rwa [projectedName_column hname.parts]
    | table hname =>
      apply checkProjection_of_projectedName
      rwa [projectedName_table htext, String.toList_ofList]

/-! Refusals. -/

theorem isValidation_of_ofText {role name : String} {fault : Fault}
    (h : ofText role name = .error fault) : fault.isValidation = true := by
  unfold ofText at h
  split at h
  · cases h
  · cases h
    rfl

theorem isValidation_of_checkProjection {column : String} {fault : Fault}
    (h : SelectQuery.checkProjection column = .error fault) : fault.isValidation = true := by
  unfold SelectQuery.checkProjection at h
  split at h
  · cases h
  · cases hname : ofText "column" (SelectQuery.projectedName column) with
    | ok identifier =>
      rw [hname] at h
      cases h
    | error cause =>
      rw [hname] at h
      cases h
      exact isValidation_of_ofText hname

/-- A text is taken for a name, and for a part of a projection, just when the grammar has it. What is
not taken is refused as invalid. -/
theorem accepted_iff_grammar (role text : String) :
    ((∃ name, ofText role text = .ok name) ↔ IsName text.toList) ∧
      (∀ name, ofText role text = .ok name → name.text = text) ∧
      (SelectQuery.checkProjection text = .ok () ↔ IsProjection text.toList) ∧
      ∀ fault, ofText role text = .error fault ∨
        SelectQuery.checkProjection text = .error fault → fault.isValidation = true := by
  refine ⟨?_, fun name => ofText_eq_ok_iff.1, checkProjection_eq_ok_iff, ?_⟩
  · rw [← valid_iff_isName]
    constructor
    · rintro ⟨name, hname⟩
      exact valid_of_ofText hname
    · intro hvalid
      exact ⟨⟨text, hvalid⟩, ofText_eq_ok_iff.2 rfl⟩
  · rintro fault (h | h)
    · exact isValidation_of_ofText h
    · exact isValidation_of_checkProjection h

end RecordMapper.Identifier
