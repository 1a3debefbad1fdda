import RecordMapper.Fault
import RecordMapper.Text.Blank

/-!
Comparison operators and conjunctions, and their SQL text.
-/

namespace RecordMapper

inductive Operator where
  | lt
  | gt
  | lte
  | gte
  | eq
  | ne
  | like
  | notLike
deriving DecidableEq, Repr

namespace Operator

def sql : Operator → String
  | .lt => "<"
  | .gt => ">"
  | .lte => "<="
  | .gte => ">="
  | .eq => "="
  | .ne => "<>"
  | .like => "LIKE"
  | .notLike => "NOT LIKE"

def ofWords? (words : List String) : Option Operator :=
  match words with
  | ["<"] => some .lt
  | [">"] => some .gt
  | ["<="] => some .lte
  | [">="] => some .gte
  | ["="] => some .eq
  | ["<>"] => some .ne
  | ["!="] => some .ne
  | ["LIKE"] => some .like
  | ["NOT", "LIKE"] => some .notLike
  | _ => none

/-- Reads an operator in any case and with any blanks around its words. -/
def parse (text : String) : Except Fault Operator :=
  match ofWords? ((words text.toList).map fun word => String.ofList (word.map Char.toUpper)) with
  | some operator => .ok operator
  | none => .error (.validation (.unknownOperator text))

end Operator

inductive Conjunction where
  | and
  | or
deriving DecidableEq, Repr

def Conjunction.sql : Conjunction → String
  | .and => "AND"
  | .or => "OR"

end RecordMapper
