import RecordMapper.Postgres.Placeholder

/-!
What numbering does to a text is known from two things: the quote that is open behind the text, and
how many question marks stand outside quotes in it. A text that leaves no quote open and has none of
these question marks is verbatim: it stands in a statement as it is and disturbs nothing behind it.
-/

namespace RecordMapper.Postgres

def quoteBehind : Option Char → Char → Option Char
  | some quote, c => if c = quote then none else some quote
  | none, c => openedQuote? c

def quoteAfter (quote : Option Char) (cs : List Char) : Option Char :=
  cs.foldl quoteBehind quote

def IsPlaceholder (quote : Option Char) (c : Char) : Prop :=
  quote = none ∧ c = '?'

instance (quote : Option Char) (c : Char) : Decidable (IsPlaceholder quote c) :=
  inferInstanceAs (Decidable (_ ∧ _))

theorem not_isPlaceholder_of_ne {c : Char} (quote : Option Char) (hc : c ≠ '?') :
    ¬ IsPlaceholder quote c :=
  fun h => hc h.2

theorem not_isPlaceholder_some (quote c : Char) : ¬ IsPlaceholder (some quote) c := by
  rintro ⟨⟨⟩, -⟩

def placeholders : Option Char → List Char → Nat
  | _, [] => 0
  | quote, c :: cs =>
    (if IsPlaceholder quote c then 1 else 0) + placeholders (quoteBehind quote c) cs

theorem quoteAfter_cons (quote : Option Char) (c : Char) (cs : List Char) :
    quoteAfter quote (c :: cs) = quoteAfter (quoteBehind quote c) cs := rfl

theorem quoteAfter_append (quote : Option Char) (a b : List Char) :
    quoteAfter quote (a ++ b) = quoteAfter (quoteAfter quote a) b :=
  List.foldl_append

theorem placeholders_append (quote : Option Char) (a b : List Char) :
    placeholders quote (a ++ b) = placeholders quote a + placeholders (quoteAfter quote a) b := by
  induction a generalizing quote with
  | nil => exact (Nat.zero_add _).symm
  | cons c a ih =>
    simp only [List.cons_append, placeholders, quoteAfter_cons, ih]
    omega

theorem numberFrom_cons (quote : Option Char) (next : Nat) (c : Char) (cs : List Char) :
    numberFrom quote next (c :: cs) =
      if IsPlaceholder quote c then '$' :: (natDigits next ++ numberFrom none (next + 1) cs)
      else c :: numberFrom (quoteBehind quote c) next cs := by
  cases quote with
  | none =>
    by_cases hc : c = '?'
    · rw [numberFrom, if_pos hc, if_pos ⟨rfl, hc⟩]
    · rw [numberFrom, if_neg hc, if_neg fun h => hc h.2]
      rfl
  | some quote =>
    rw [if_neg (not_isPlaceholder_some quote c)]
    rfl

/-- A text is numbered from the left; what follows it goes on with its quote and its number. -/
theorem numberFrom_append (quote : Option Char) (next : Nat) (a b : List Char) :
    numberFrom quote next (a ++ b) =
      numberFrom quote next a ++
        numberFrom (quoteAfter quote a) (next + placeholders quote a) b := by
  induction a generalizing quote next with
  | nil => cases quote <;> rfl
  | cons c a ih =>
    rw [List.cons_append, numberFrom_cons, numberFrom_cons, placeholders, quoteAfter_cons]
    split
    · next hc =>
      rcases hc with ⟨rfl, rfl⟩
      have hquote : quoteBehind none '?' = none := by decide
      rw [hquote, ih, List.cons_append, List.append_assoc, Nat.add_assoc]
    · rw [ih, List.cons_append, Nat.zero_add]

/-- A text that is read from a quote to the end without a placeholder, and leaves no quote open. -/
structure VerbatimFrom (quote : Option Char) (cs : List Char) : Prop where
  closed : quoteAfter quote cs = none
  unnumbered : placeholders quote cs = 0

abbrev Verbatim (cs : List Char) : Prop :=
  VerbatimFrom none cs

instance (quote : Option Char) (cs : List Char) : Decidable (VerbatimFrom quote cs) :=
  decidable_of_iff (quoteAfter quote cs = none ∧ placeholders quote cs = 0)
    ⟨fun h => ⟨h.1, h.2⟩, fun h => ⟨h.closed, h.unnumbered⟩⟩

theorem verbatim_nil : Verbatim [] :=
  ⟨rfl, rfl⟩

theorem VerbatimFrom.cons {quote : Option Char} {c : Char} {cs : List Char}
    (hc : ¬ IsPlaceholder quote c) (h : VerbatimFrom (quoteBehind quote c) cs) :
    VerbatimFrom quote (c :: cs) where
  closed := h.closed
  unnumbered := by rw [placeholders, if_neg hc, h.unnumbered]

theorem VerbatimFrom.append {quote : Option Char} {a b : List Char} (ha : VerbatimFrom quote a)
    (hb : Verbatim b) : VerbatimFrom quote (a ++ b) where
  closed := by rw [quoteAfter_append, ha.closed, hb.closed]
  unnumbered := by rw [placeholders_append, ha.unnumbered, ha.closed, hb.unnumbered]

def Harmless (c : Char) : Prop :=
  c ≠ '?' ∧ openedQuote? c = none

instance (c : Char) : Decidable (Harmless c) :=
  inferInstanceAs (Decidable (_ ∧ _))

theorem Harmless.verbatim_cons {c : Char} {cs : List Char} (hc : Harmless c) (h : Verbatim cs) :
    Verbatim (c :: cs) := by
  refine .cons (not_isPlaceholder_of_ne none hc.1) ?_
  rw [quoteBehind, hc.2]
  exact h

theorem verbatim_of_harmless {cs : List Char} (h : ∀ c ∈ cs, Harmless c) : Verbatim cs := by
  induction cs with
  | nil => exact verbatim_nil
  | cons c cs ih =>
    have hc := h c List.mem_cons_self
    exact hc.verbatim_cons (ih fun c hmem => h c (List.mem_cons_of_mem _ hmem))

theorem numberFrom_eq_self {quote : Option Char} {cs : List Char}
    (hnone : placeholders quote cs = 0) (next : Nat) : numberFrom quote next cs = cs := by
  induction cs generalizing quote with
  | nil => cases quote <;> rfl
  | cons c cs ih =>
    rw [placeholders] at hnone
    rw [numberFrom_cons]
    split
    · next hc =>
      rw [if_pos hc] at hnone
      omega
    · rw [ih (by omega)]

theorem VerbatimFrom.numberFrom_eq_self {quote : Option Char} {cs : List Char}
    (h : VerbatimFrom quote cs) (next : Nat) : numberFrom quote next cs = cs :=
  Postgres.numberFrom_eq_self h.unnumbered next

theorem VerbatimFrom.numberFrom_append {a : List Char} (h : Verbatim a) (next : Nat)
    (b : List Char) : numberFrom none next (a ++ b) = a ++ numberFrom none next b := by
  rw [Postgres.numberFrom_append, h.numberFrom_eq_self, h.closed, h.unnumbered, Nat.add_zero]

theorem numberedSql_append {a : String} (ha : quoteAfter none a.toList = none) (b : String) :
    numberedSql (a ++ b) =
      numberedSql a ++ String.ofList (numberFrom none (1 + placeholders none a.toList) b.toList) := by
  rw [numberedSql, numberedSql, numberPlaceholders, numberPlaceholders, String.toList_append,
    numberFrom_append, ha, String.ofList_append]

theorem exists_numberedSql_insert {a piece : String} (ha : quoteAfter none a.toList = none)
    (hpiece : Verbatim piece.toList) (b : String) :
    ∃ behind, numberedSql (a ++ b) = numberedSql a ++ behind ∧
      numberedSql (a ++ piece ++ b) = numberedSql a ++ piece ++ behind := by
  refine ⟨_, numberedSql_append ha b, ?_⟩
  rw [String.append_assoc, numberedSql_append ha, String.toList_append, hpiece.numberFrom_append,
    String.ofList_append, String.ofList_toList, String.append_assoc]

end RecordMapper.Postgres
