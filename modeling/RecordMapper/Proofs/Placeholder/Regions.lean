import RecordMapper.Proofs.Placeholder.Verbatim
import RecordMapper.Proofs.Reading.Basic

/-!
Numbering a text by its regions. Quotes divide every text in one way into regions: text outside
quotes, text from a quote to the next of its kind, and text behind a quote that is never closed. Only
question marks in regions of the first sort are numbered, from left to right, and all else is copied.
-/

namespace RecordMapper.Postgres

def IsQuote (c : Char) : Prop :=
  c = '\'' ∨ c = '"'

instance (c : Char) : Decidable (IsQuote c) :=
  inferInstanceAs (Decidable (_ ∨ _))

inductive Region where
  /-- Text outside quotes. -/
  | bare (cs : List Char)
  | quoted (quote : Char) (inner : List Char)
  /-- Text behind a quote that is not closed. -/
  | unterminated (quote : Char) (inner : List Char)
deriving DecidableEq

/-- The regions of a text from left to right. A quoted region ends with the first quote of its kind, so
that a doubled quote ends one region and starts the next. -/
inductive Divides : List Char → List Region → Prop where
  | nil : Divides [] []
  | bare {cs rest : List Char} {regions : List Region} (hne : cs ≠ [])
      (hbare : ∀ c ∈ cs, ¬ IsQuote c) (hnext : ∀ c ∈ rest.head?, IsQuote c)
      (h : Divides rest regions) : Divides (cs ++ rest) (.bare cs :: regions)
  | quoted {quote : Char} {inner rest : List Char} {regions : List Region} (hquote : IsQuote quote)
      (hinner : quote ∉ inner) (h : Divides rest regions) :
      Divides (quote :: (inner ++ quote :: rest)) (.quoted quote inner :: regions)
  | unterminated {quote : Char} {inner : List Char} (hquote : IsQuote quote)
      (hinner : quote ∉ inner) : Divides (quote :: inner) [.unterminated quote inner]

/-- The characters of a region as they are copied, with a mark in place of each question mark that
stands outside quotes. -/
def Region.marked : Region → List (Option Char)
  | .bare cs => cs.map fun c => if c = '?' then none else some c
  | .quoted quote inner => (quote :: (inner ++ [quote])).map some
  | .unterminated quote inner => (quote :: inner).map some

def Region.Terminated : Region → Prop
  | .unterminated _ _ => False
  | _ => True

/-- Writes a text whose marks are labelled, in their order, with a number each. -/
def labelled (label : Nat → List Char) : (next : Nat) → List (Option Char) → List Char
  | _, [] => []
  | next, none :: cs => label next ++ labelled label (next + 1) cs
  | next, some c :: cs => c :: labelled label next cs

def numberLabel (number : Nat) : List Char :=
  '$' :: natDigits number

section Labelled

variable (label : Nat → List Char) (next : Nat)

theorem labelled_append (a b : List (Option Char)) :
    labelled label next (a ++ b) =
      labelled label next a ++ labelled label (next + a.count none) b := by
  induction a generalizing next with
  | nil => rfl
  | cons c a ih =>
    cases c with
    | none =>
      rw [List.cons_append, labelled, labelled, ih, List.append_assoc, List.count_cons_self,
        Nat.add_assoc, Nat.add_comm 1]
    | some c =>
      rw [List.cons_append, labelled, labelled, ih, List.cons_append,
        List.count_cons_of_ne (Option.some_ne_none c)]

theorem labelled_map_some (cs : List Char) : labelled label next (cs.map some) = cs := by
  induction cs with
  | nil => rfl
  | cons c cs ih => rw [List.map_cons, labelled, ih]

theorem labelled_add (offset : Nat) (cs : List (Option Char)) :
    labelled (fun number => label (number + offset)) next cs =
      labelled label (next + offset) cs := by
  induction cs generalizing next with
  | nil => rfl
  | cons c cs ih =>
    cases c with
    | none => rw [labelled, labelled, ih, Nat.add_right_comm]
    | some c => rw [labelled, labelled, ih]

end Labelled

/-! Every text is divided in one way. -/

theorem readable_until (p : Char → Prop) :
    Readable (fun cs => ∀ c ∈ cs, ¬ p c) (fun rest => ∀ c ∈ rest.head?, p c) := by
  have hnone {cs rest behind : List Char} (hcs : ∀ c ∈ cs ++ behind, ¬ p c)
      (hrest : ∀ c ∈ (behind ++ rest).head?, p c) : behind = [] := by
    cases behind with
    | nil => rfl
    | cons c behind => exact absurd (hrest c rfl) (hcs c (by simp))
  intro a b x y ha hb hx hy h
  rcases List.append_eq_append_iff.1 h with ⟨behind, rfl, rfl⟩ | ⟨behind, rfl, rfl⟩
  · obtain rfl := hnone hb hx
    simp
  · obtain rfl := hnone ha hy
    simp

theorem exists_divides (sql : List Char) : ∃ regions, Divides sql regions := by
  induction hlength : sql.length using Nat.strongRecOn generalizing sql with
  | ind length ih =>
    subst hlength
    cases sql with
    | nil => exact ⟨[], .nil⟩
    | cons c cs =>
      by_cases hquote : IsQuote c
      · by_cases hclosed : c ∈ cs
        · obtain ⟨inner, rest, rfl, hinner⟩ := List.eq_append_cons_of_mem hclosed
          obtain ⟨regions, hregions⟩ := ih rest.length (by simp; omega) rest rfl
          exact ⟨_, .quoted hquote hinner hregions⟩
        · exact ⟨_, .unterminated hquote hclosed⟩
      · -- the text outside quotes goes on to the next quote
        let isBare (d : Char) : Bool := ¬ IsQuote d
        have hsplit := List.takeWhile_append_dropWhile (p := isBare) (l := cs)
        have hbare : ∀ d ∈ c :: cs.takeWhile isBare, ¬ IsQuote d := by
          refine List.forall_mem_cons.2 ⟨hquote, fun d hd => ?_⟩
          exact of_decide_eq_true (List.all_eq_true.1 List.all_takeWhile d hd)
        have hnext : ∀ d ∈ (cs.dropWhile isBare).head?, IsQuote d := by
          intro d hd
          have hstop := List.head?_dropWhile_not isBare cs
          rw [hd] at hstop
          simpa [isBare] using hstop
        have hshorter := (cs.dropWhile_suffix isBare).length_le
        obtain ⟨regions, hregions⟩ :=
          ih (cs.dropWhile isBare).length (Nat.lt_succ_of_le hshorter) _ rfl
        have hdivides := Divides.bare (List.cons_ne_nil _ _) hbare hnext hregions
        rw [List.cons_append, hsplit] at hdivides
        exact ⟨_, hdivides⟩

theorem bare_append_ne {cs rest tail : List Char} {quote : Char} (hne : cs ≠ [])
    (hbare : ∀ c ∈ cs, ¬ IsQuote c) (hquote : IsQuote quote) : cs ++ rest ≠ quote :: tail := by
  obtain ⟨c, cs, rfl⟩ := List.exists_cons_of_ne_nil hne
  intro h
  obtain ⟨rfl, -⟩ := List.cons.inj h
  exact hbare c List.mem_cons_self hquote

theorem Divides.unique {sql : List Char} {regions others : List Region} (h : Divides sql regions)
    (hothers : Divides sql others) : regions = others := by
  generalize hsql : sql = text at hothers
  induction h generalizing text others with
  | nil =>
    cases hothers with
    | nil => rfl
    | bare hne => exact absurd (List.append_eq_nil_iff.1 hsql.symm).1 hne
    | quoted | unterminated => cases hsql
  | bare hne hbare hnext _ ih =>
    cases hothers with
    | nil => exact absurd (List.append_eq_nil_iff.1 hsql).1 hne
    | bare hne' hbare' hnext' hrest' =>
      obtain ⟨rfl, hrest⟩ := readable_until IsQuote hbare hbare' hnext hnext' hsql
      rw [ih _ hrest hrest']
    | quoted hquote | unterminated hquote => exact absurd hsql (bare_append_ne hne hbare hquote)
  | @quoted quote inner rest _ hquote hinner _ ih =>
    cases hothers with
    | nil => cases hsql
    | bare hne hbare => exact absurd hsql.symm (bare_append_ne hne hbare hquote)
    | quoted hquote' hinner' hrest' =>
      obtain ⟨rfl, htail⟩ := List.cons.inj hsql
      have hinside {cs : List Char} (hcs : quote ∉ cs) : ∀ c ∈ cs, ¬ c = quote := by
        rintro c hc rfl
        exact hcs hc
      obtain ⟨rfl, hrest⟩ := readable_until (· = quote) (hinside hinner) (hinside hinner')
        (by simp) (by simp) htail
      rw [ih _ (List.cons.inj hrest).2 hrest']
    | unterminated hquote' hinner' =>
      obtain ⟨rfl, rfl⟩ := List.cons.inj hsql
      exact absurd (by simp) hinner'
  | unterminated hquote hinner =>
    cases hothers with
    | nil => cases hsql
    | bare hne hbare => exact absurd hsql.symm (bare_append_ne hne hbare hquote)
    | quoted =>
      obtain ⟨rfl, rfl⟩ := List.cons.inj hsql
      exact absurd (by simp) hinner
    | unterminated =>
      obtain ⟨rfl, rfl⟩ := List.cons.inj hsql
      rfl

/-! What numbering does to the regions. -/

/-- A text and its characters as numbering treats them: marks are numbered and all else is copied. -/
structure Marks (sql : List Char) (marked : List (Option Char)) : Prop where
  numbered : ∀ next, numberFrom none next sql = labelled numberLabel next marked
  counted : placeholders none sql = marked.count none
  text_eq : ∀ next, labelled (fun _ => ['?']) next marked = sql

theorem Marks.append {a b : List Char} {marked others : List (Option Char)} (ha : Marks a marked)
    (hclosed : quoteAfter none a = none) (hb : Marks b others) : Marks (a ++ b) (marked ++ others) where
  numbered next := by
    rw [numberFrom_append, ha.numbered, ha.counted, hclosed, hb.numbered, labelled_append]
  counted := by rw [placeholders_append, hclosed, ha.counted, hb.counted, List.count_append]
  text_eq next := by rw [labelled_append, ha.text_eq, hb.text_eq]

theorem marks_map_some {cs : List Char} (h : placeholders none cs = 0) : Marks cs (cs.map some) where
  numbered next := by rw [numberFrom_eq_self h, labelled_map_some]
  counted := by
    rw [h, eq_comm, List.count_eq_zero]
    simp
  text_eq next := labelled_map_some _ next cs

theorem scan_inner {quote : Char} {inner : List Char} (h : quote ∉ inner) :
    placeholders (some quote) inner = 0 ∧ quoteAfter (some quote) inner = some quote := by
  induction inner with
  | nil => exact ⟨rfl, rfl⟩
  | cons c inner ih =>
    obtain ⟨hc, hinner⟩ := not_or.1 (mt List.mem_cons.2 h)
    have hopen : quoteBehind (some quote) c = some quote := if_neg (Ne.symm hc)
    rw [placeholders, quoteAfter_cons, hopen, if_neg (not_isPlaceholder_some quote c), Nat.zero_add]
    exact ih hinner

theorem scan_opening {quote : Char} (h : IsQuote quote) :
    ¬ IsPlaceholder none quote ∧ quoteBehind none quote = some quote := by
  refine ⟨not_isPlaceholder_of_ne none ?_, if_pos h⟩
  rintro rfl
  revert h
  decide

theorem verbatim_quoted {quote : Char} {inner : List Char} (hquote : IsQuote quote)
    (hinner : quote ∉ inner) : Verbatim (quote :: (inner ++ [quote])) := by
  obtain ⟨hplaceholder, hopen⟩ := scan_opening hquote
  obtain ⟨hnone, hstill⟩ := scan_inner hinner
  apply VerbatimFrom.cons hplaceholder
  rw [hopen]
  constructor
  · rw [quoteAfter_append, hstill]
    exact if_pos rfl
  · rw [placeholders_append, hnone, hstill, placeholders, if_neg (not_isPlaceholder_some _ _)]
    rfl

theorem placeholders_unterminated {quote : Char} {inner : List Char} (hquote : IsQuote quote)
    (hinner : quote ∉ inner) :
    placeholders none (quote :: inner) = 0 ∧ quoteAfter none (quote :: inner) = some quote := by
  obtain ⟨hplaceholder, hopen⟩ := scan_opening hquote
  rw [placeholders, quoteAfter_cons, hopen, if_neg hplaceholder, Nat.zero_add]
  exact scan_inner hinner

theorem quoteAfter_bare {cs : List Char} (h : ∀ c ∈ cs, ¬ IsQuote c) : quoteAfter none cs = none := by
  induction cs with
  | nil => rfl
  | cons c cs ih =>
    obtain ⟨hc, hcs⟩ := List.forall_mem_cons.1 h
    have hclosed : quoteBehind none c = none := if_neg hc
    rw [quoteAfter_cons, hclosed, ih hcs]

theorem marks_bare {cs : List Char} (h : ∀ c ∈ cs, ¬ IsQuote c) :
    Marks cs (Region.bare cs).marked := by
  induction cs with
  | nil => exact marks_map_some rfl
  | cons c cs ih =>
    obtain ⟨hc, hcs⟩ := List.forall_mem_cons.1 h
    have hclosed : quoteAfter none [c] = none := if_neg hc
    have hfirst : Marks [c] (Region.bare [c]).marked := by
      by_cases hmark : c = '?'
      · subst hmark
        constructor <;> intros <;> rfl
      · have hcopied : (Region.bare [c]).marked = [c].map some := by simp [Region.marked, hmark]
        rw [hcopied]
        apply marks_map_some
        rw [placeholders, if_neg (not_isPlaceholder_of_ne none hmark)]
        rfl
    exact hfirst.append hclosed (ih hcs)

variable {sql : List Char} {regions : List Region}

theorem Divides.marks (h : Divides sql regions) : Marks sql (regions.flatMap Region.marked) := by
  induction h with
  | nil => exact marks_map_some rfl
  | bare hne hbare hnext _ ih => exact (marks_bare hbare).append (quoteAfter_bare hbare) ih
  | @quoted quote inner rest regions hquote hinner _ ih =>
    have hverbatim := verbatim_quoted hquote hinner
    have happend := (marks_map_some hverbatim.unnumbered).append hverbatim.closed ih
    rwa [List.cons_append, List.append_assoc, List.singleton_append] at happend
  | unterminated hquote hinner =>
    have hmarks := marks_map_some (placeholders_unterminated hquote hinner).1
    rwa [List.flatMap_singleton]

theorem Divides.quoteAfter_eq_none_iff (h : Divides sql regions) :
    quoteAfter none sql = none ↔ ∀ region ∈ regions, region.Terminated := by
  induction h with
  | nil => simp [quoteAfter]
  | bare hne hbare hnext _ ih =>
    rw [quoteAfter_append, quoteAfter_bare hbare, ih, List.forall_mem_cons]
    exact (and_iff_right trivial).symm
  | @quoted quote inner rest regions hquote hinner _ ih =>
    have hclosed := (verbatim_quoted hquote hinner).closed
    rw [← List.singleton_append (l := rest), ← List.append_assoc, ← List.cons_append,
      quoteAfter_append, hclosed, ih, List.forall_mem_cons]
    exact (and_iff_right trivial).symm
  | unterminated hquote hinner =>
    rw [(placeholders_unterminated hquote hinner).2]
    simp [Region.Terminated]

theorem placeholders_numberFrom (quote : Option Char) (next : Nat) (cs : List Char) :
    placeholders quote (numberFrom quote next cs) = 0 := by
  induction cs generalizing quote next with
  | nil => cases quote <;> rfl
  | cons c cs ih =>
    rw [numberFrom_cons]
    split
    · next hc =>
      obtain ⟨rfl, rfl⟩ := hc
      have hlabel : Verbatim (numberLabel next) :=
        verbatim_of_harmless (List.forall_mem_cons.2 ⟨by decide, harmless_natDigits next⟩)
      have happend := placeholders_append none (numberLabel next) (numberFrom none (next + 1) cs)
      rw [hlabel.unnumbered, hlabel.closed, ih] at happend
      exact happend
    · next hc => rw [placeholders, if_neg hc, ih]

theorem numberPlaceholders_idem (sql : List Char) :
    numberPlaceholders (numberPlaceholders sql) = numberPlaceholders sql :=
  numberFrom_eq_self (placeholders_numberFrom none 1 sql) 1

theorem numberPlaceholders_append {a b : List Char} {regions others : List Region}
    (ha : Divides a regions) (hterminated : ∀ region ∈ regions, region.Terminated)
    (hb : Divides b others) :
    numberPlaceholders (a ++ b) = numberPlaceholders a ++
      labelled (fun number => numberLabel (number + (regions.flatMap Region.marked).count none)) 1
        (others.flatMap Region.marked) := by
  have hclosed := ha.quoteAfter_eq_none_iff.2 hterminated
  unfold numberPlaceholders
  rw [numberFrom_append, hclosed, ha.marks.counted, hb.marks.numbered, labelled_add]

/-- A text is divided into regions in one way; its placeholders are the question marks outside quotes,
the first of them gets the number one and each further one the next, and all other characters stay.
Numbering again changes nothing. Behind a text that leaves no quote open, a text is numbered as it is
alone, with the placeholders before it added to each number. -/
theorem numbers_by_regions :
    (∀ sql : String, ∃ regions, (∀ others, Divides sql.toList others ↔ others = regions) ∧
      sql.toList = labelled (fun _ => ['?']) 1 (regions.flatMap Region.marked) ∧
      (numberedSql sql).toList = labelled numberLabel 1 (regions.flatMap Region.marked)) ∧
    (∀ sql : String, numberedSql (numberedSql sql) = numberedSql sql) ∧
    (∀ (a b : String) (regions others : List Region), Divides a.toList regions →
      (∀ region ∈ regions, region.Terminated) → Divides b.toList others →
      (numberedSql (a ++ b)).toList = (numberedSql a).toList ++
        labelled (fun number => numberLabel (number + (regions.flatMap Region.marked).count none)) 1
          (others.flatMap Region.marked)) := by
  refine ⟨fun sql => ?_, fun sql => ?_, fun a b regions others ha hterminated hb => ?_⟩
  · obtain ⟨regions, hregions⟩ := exists_divides sql.toList
    refine ⟨regions, fun others => ⟨fun h => h.unique hregions, ?_⟩, ?_, ?_⟩
    · rintro rfl
      exact hregions
    · exact (hregions.marks.text_eq 1).symm
    · rw [numberedSql, String.toList_ofList]
      exact hregions.marks.numbered 1
  · rw [numberedSql, numberedSql, String.toList_ofList, numberPlaceholders_idem]
  · rw [numberedSql, numberedSql, String.toList_ofList, String.toList_ofList, String.toList_append]
    exact numberPlaceholders_append ha hterminated hb

theorem numbers_by_regions_open :
    Divides "? '?'".toList [.bare ['?', ' '], .quoted '\'' ['?']] ∧
    Divides "?\"?".toList [.bare ['?'], .unterminated '"' ['?']] ∧
    (numberedSql ("? '?'" ++ "?\"?")).toList = "$1 '?'$2\"?".toList := by
  have hclosed : Divides ['?', ' ', '\'', '?', '\''] [.bare ['?', ' '], .quoted '\'' ['?']] := by
    have hquoted := @Divides.quoted '\'' ['?'] [] [] (.inl rfl) (by simp) .nil
    exact @Divides.bare ['?', ' '] _ _ (by simp) (by simp [IsQuote]) (by simp [IsQuote]) hquoted
  have hopen : Divides ['?', '"', '?'] [.bare ['?'], .unterminated '"' ['?']] := by
    have hunterminated := @Divides.unterminated '"' ['?'] (.inr rfl) (by simp)
    exact @Divides.bare ['?'] _ _ (by simp) (by simp [IsQuote]) (by simp [IsQuote]) hunterminated
  obtain ⟨-, -, happend⟩ := numbers_by_regions
  refine ⟨hclosed, hopen, (happend "? '?'" "?\"?" _ _ hclosed ?_ hopen).trans (by decide)⟩
  simp [Region.Terminated]

end RecordMapper.Postgres
