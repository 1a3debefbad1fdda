import RecordMapper.Number.Integer

/-!
Numbering placeholders. Question marks outside quotes become `$1`, `$2` and so on; a text within
single or double quotes runs to the next quote of its kind, or to the end.
-/

namespace RecordMapper.Postgres

def openedQuote? (c : Char) : Option Char :=
  if c = '\'' ∨ c = '"' then some c else none

/-- Numbers the placeholders from `next` on, within a quote or outside of all. -/
def numberFrom : (quote : Option Char) → (next : Nat) → List Char → List Char
  | _, _, [] => []
  | some quote, next, c :: cs => c :: numberFrom (if c = quote then none else some quote) next cs
  | none, next, c :: cs =>
    if c = '?' then '$' :: (natDigits next ++ numberFrom none (next + 1) cs)
    else c :: numberFrom (openedQuote? c) next cs

def numberPlaceholders (sql : List Char) : List Char :=
  numberFrom none 1 sql

def numberedSql (sql : String) : String :=
  String.ofList (numberPlaceholders sql.toList)

end RecordMapper.Postgres
