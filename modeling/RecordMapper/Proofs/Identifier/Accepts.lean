import RecordMapper.Identifier

/-!
Identifiers as a reader takes them in, character by character. Where a name ends in a longer text is
decided by the text: two names with endings behind them are the same names before the same endings
as soon as the whole texts are.
-/

namespace RecordMapper.Identifier

/-- The texts that a reader takes to the end of a name. -/
inductive Accepts : Place → List Char → Prop where
  | openQuote {cs : List Char} : Accepts (.quoted false) cs → Accepts .start ('"' :: cs)
  | firstChar {c : Char} {cs : List Char} :
    isWordStart c = true → Accepts .word cs → Accepts .start (c :: cs)
  | wordEnd : Accepts .word []
  | wordPoint {cs : List Char} : Accepts .start cs → Accepts .word ('.' :: cs)
  | wordChar {c : Char} {cs : List Char} :
    isWordChar c = true → Accepts .word cs → Accepts .word (c :: cs)
  | quotedQuote {started : Bool} {cs : List Char} :
    Accepts (.quoted true) cs → Accepts (.quoted started) ('"' :: '"' :: cs)
  | quotedChar {started : Bool} {c : Char} {cs : List Char} :
    c ≠ '"' → Accepts (.quoted true) cs → Accepts (.quoted started) (c :: cs)
  | closeQuote {cs : List Char} : Accepts .closed cs → Accepts (.quoted true) ('"' :: cs)
  | closedEnd : Accepts .closed []
  | closedPoint {cs : List Char} : Accepts .start cs → Accepts .closed ('.' :: cs)

theorem accepts_of_scan {place : Place} {cs : List Char} (h : scan place cs = none) :
    Accepts place cs := by
  fun_induction scan place cs
  case case2 ih => exact .openQuote (ih h)
  case case3 hstart ih => exact .firstChar hstart (ih h)
  case case6 => exact .wordEnd
  case case8 ih => exact .wordPoint (ih h)
  case case9 hword ih => exact .wordChar hword (ih h)
  case case12 ih => exact .quotedQuote (ih h)
  case case13 ih => exact .closeQuote (ih h)
  case case15 hquote ih => exact .quotedChar hquote (ih h)
  case case16 => exact .closedEnd
  case case18 ih => exact .closedPoint (ih h)
  all_goals cases h

theorem Valid.accepts {name : List Char} (h : Valid name) : Accepts .start name := by
  unfold Valid fault? at h
  split at h
  · cases h
  · split at h
    · cases h
    · exact accepts_of_scan h

/-- What may stand behind a name: nothing that goes on with it. A point does not, when a star
follows. -/
def Ends : List Char → Prop
  | [] => True
  | c :: cs => c ≠ '"' ∧ isWordChar c = false ∧ (c = '.' → cs.head? = some '*')

theorem isWordChar_of_isWordStart {c : Char} (h : isWordStart c = true) : isWordChar c = true := by
  simp only [isWordStart, isWordChar, Char.isAlphanum, Bool.or_eq_true] at h ⊢
  rcases h with hunderscore | halpha
  · exact .inl (.inl hunderscore)
  · exact .inr (.inl halpha)

theorem Accepts.head_start {cs : List Char} (h : Accepts .start cs) :
    ∃ c rest, cs = c :: rest ∧ (c = '"' ∨ isWordChar c = true) := by
  cases h with
  | openQuote => exact ⟨_, _, rfl, .inl rfl⟩
  | firstChar hstart => exact ⟨_, _, rfl, .inr (isWordChar_of_isWordStart hstart)⟩

theorem Accepts.not_ends_point {cs : List Char} (h : Accepts .start cs) (y : List Char) :
    ¬ Ends ('.' :: (cs ++ y)) := by
  rcases h.head_start with ⟨c, rest, rfl, hc⟩
  rintro ⟨-, -, hstar⟩
  obtain rfl : c = '*' := by simpa using hstar rfl
  revert hc
  decide

theorem Accepts.behind_quote {started : Bool} {cs : List Char}
    (h : Accepts (.quoted started) ('"' :: cs)) :
    (∃ rest, cs = '"' :: rest) ∨ Accepts .closed cs := by
  cases h with
  | quotedQuote => exact .inl ⟨_, rfl⟩
  | quotedChar hquote => exact absurd rfl hquote
  | closeQuote hclosed => exact .inr hclosed

theorem Accepts.behind_char {started : Bool} {c : Char} {cs : List Char} (hc : c ≠ '"')
    (h : Accepts (.quoted started) (c :: cs)) : Accepts (.quoted true) cs := by
  cases h with
  | quotedQuote => exact absurd rfl hc
  | quotedChar _ h => exact h
  | closeQuote => exact absurd rfl hc

theorem Accepts.eq_nil_of_ends {place : Place} {a z y : List Char} (ha : Accepts place a)
    (hz : Accepts place (a ++ z)) (hends : Ends (z ++ y)) : z = [] := by
  induction ha with
  | openQuote _ ih =>
    cases hz with
    | openQuote hz => exact ih hz
    | firstChar hstart => exact absurd hstart (by decide)
  | firstChar hstart _ ih =>
    cases hz with
    | openQuote => exact absurd hstart (by decide)
    | firstChar _ hz => exact ih hz
  | wordEnd =>
    cases hz with
    | wordEnd => rfl
    | wordPoint hz => exact absurd hends (hz.not_ends_point y)
    | wordChar hword => exact absurd hword (by simp [hends.2.1])
  | wordPoint _ ih =>
    cases hz with
    | wordPoint hz => exact ih hz
    | wordChar hword => exact absurd hword (by decide)
  | wordChar hword _ ih =>
    cases hz with
    | wordPoint => exact absurd hword (by decide)
    | wordChar _ hz => exact ih hz
  | quotedQuote _ ih =>
    cases hz with
    | quotedQuote hz => exact ih hz
    | quotedChar hquote => exact absurd rfl hquote
    | closeQuote hz => cases hz
  | quotedChar hquote _ ih => exact ih (hz.behind_char hquote)
  | closeQuote hclosed ih =>
    rcases hz.behind_quote with ⟨rest, heq⟩ | hz
    · cases hclosed with
      | closedEnd =>
        obtain rfl : z = '"' :: rest := heq
        exact absurd rfl hends.1
      | closedPoint => cases heq
    · exact ih hz
  | closedEnd =>
    cases hz with
    | closedEnd => rfl
    | closedPoint hz => exact absurd hends (hz.not_ends_point y)
  | closedPoint _ ih =>
    cases hz with
    | closedPoint hz => exact ih hz

/-- The name that a text starts with, and what stands behind it, are known from the text. -/
theorem Accepts.eq_of_append_eq {place : Place} {a b x y : List Char} (ha : Accepts place a)
    (hb : Accepts place b) (hx : Ends x) (hy : Ends y) (h : a ++ x = b ++ y) : a = b ∧ x = y := by
  rcases List.append_eq_append_iff.1 h with ⟨z, rfl, rfl⟩ | ⟨z, rfl, rfl⟩
  · cases ha.eq_nil_of_ends hb hx
    simp
  · cases hb.eq_nil_of_ends ha hy
    simp

end RecordMapper.Identifier
