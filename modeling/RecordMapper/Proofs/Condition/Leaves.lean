import RecordMapper.Condition.Basic

/-!
The comparisons of a condition from left to right, whatever joins them and whatever stands in
parentheses. They alone decide over the parameters.
-/

namespace RecordMapper

/-- A single comparison, apart from the condition it stands in. -/
structure Comparison where
  operand : Identifier
  operator : Operator
  value : SqlValue
  bound : Bool

def Comparison.parameter? (comparison : Comparison) : Option SqlValue :=
  if comparison.bound then some comparison.value else none

namespace Condition

def leaves : Condition → List Comparison
  | .leaf operand operator value bound => [⟨operand, operator, value, bound⟩]
  | .joined left _ right => left.leaves ++ right.leaves
  | .parenthesized inner => inner.leaves

theorem parameters_template (condition : Condition) :
    condition.template.parameters = condition.leaves.filterMap Comparison.parameter? := by
  induction condition with
  | leaf operand operator value bound =>
    cases bound <;> simp [template, leaves, Template.parameters, Comparison.parameter?]
  | joined left conjunction right ihl ihr =>
    simp only [template, leaves, List.filterMap_append, ← ihl, ← ihr]
    rw [Template.parameters_append]
    rfl
  | parenthesized inner ih => simp [template, leaves, Template.parameters, ih]

end Condition

end RecordMapper
