import RecordMapper.Condition.Operator
import RecordMapper.Statement

/-!
Conditions of a statement, as trees of comparisons, and the SQL text they are compiled to.
-/

namespace RecordMapper

inductive Condition where
  /-- Compares a column with a value that is bound, or that stands in the text when it is not. -/
  | leaf (operand : Identifier) (operator : Operator) (value : SqlValue) (bound : Bool)
  | joined (left : Condition) (conjunction : Conjunction) (right : Condition)
  | parenthesized (inner : Condition)

namespace Condition

def compare (operand : String) (operator : Operator) (value : SqlValue) : Except Fault Condition :=
  (Identifier.ofText "column" operand).map (.leaf · operator value true)

def compareLiteral (operand : String) (operator : Operator) (value : SqlValue) :
    Except Fault Condition :=
  (Identifier.ofText "column" operand).map (.leaf · operator value false)

def template : Condition → Template
  | .leaf operand operator value bound =>
    let comparison := operand.text ++ " " ++ operator.sql ++ " "
    if bound then [.text comparison, .bound value]
    else [.text (comparison ++ value.literal)]
  | .joined left conjunction right =>
    left.template ++ .text (" " ++ conjunction.sql ++ " ") :: right.template
  | .parenthesized inner => .text "(" :: inner.template ++ [.text ")"]

def equals : Condition → Condition → Bool
  | .leaf a operator value bound, .leaf b operator' value' bound' =>
    a.text == b.text && operator == operator' && value.equals value' && bound == bound'
  | .joined a conjunction b, .joined a' conjunction' b' =>
    a.equals a' && b.equals b' && conjunction == conjunction'
  | .parenthesized a, .parenthesized b => a.equals b
  | _, _ => false

end Condition

end RecordMapper
