import RecordMapper.Proofs.Condition.Leaves

/-!
Conditions without the order in which they were joined. A chain is one level of a condition: leaves
and chains in parentheses in turn with conjunctions. The text of a condition is that of its chain.
-/

namespace RecordMapper

mutual

inductive Atom (α : Type) where
  | leaf (leaf : α)
  | group (inner : Chain α)

inductive Chain (α : Type) where
  | last (atom : Atom α)
  | next (atom : Atom α) (conjunction : Conjunction) (rest : Chain α)

end

variable {α β : Type}

def Chain.append : Chain α → Conjunction → Chain α → Chain α
  | .last atom, conjunction, right => .next atom conjunction right
  | .next atom first rest, conjunction, right => .next atom first (rest.append conjunction right)

/-- The chain of a condition. How its joined parts are associated is forgotten. -/
def Condition.chain : Condition → Chain Comparison
  | .leaf operand operator value bound => .last (.leaf ⟨operand, operator, value, bound⟩)
  | .joined left conjunction right => left.chain.append conjunction right.chain
  | .parenthesized inner => .last (.group inner.chain)

mutual

def Atom.map (f : α → β) : Atom α → Atom β
  | .leaf leaf => .leaf (f leaf)
  | .group inner => .group (inner.map f)

def Chain.map (f : α → β) : Chain α → Chain β
  | .last atom => .last (atom.map f)
  | .next atom conjunction rest => .next (atom.map f) conjunction (rest.map f)

end

mutual

def Atom.leaves : Atom α → List α
  | .leaf leaf => [leaf]
  | .group inner => inner.leaves

def Chain.leaves : Chain α → List α
  | .last atom => atom.leaves
  | .next atom _ rest => atom.leaves ++ rest.leaves

end

mutual

def Atom.text (write : α → List Char) : Atom α → List Char
  | .leaf leaf => write leaf
  | .group inner => '(' :: (inner.text write ++ [')'])

def Chain.text (write : α → List Char) : Chain α → List Char
  | .last atom => atom.text write
  | .next atom conjunction rest =>
    atom.text write ++ ' ' :: (conjunction.sql.toList ++ ' ' :: rest.text write)

end

namespace Chain

theorem map_append (f : α → β) (left right : Chain α) (conjunction : Conjunction) :
    (left.append conjunction right).map f = (left.map f).append conjunction (right.map f) := by
  fun_induction append left conjunction right with
  | case1 atom conjunction right => rfl
  | case2 atom first rest conjunction right ih => simp only [map, append, ih]

theorem leaves_append (left right : Chain α) (conjunction : Conjunction) :
    (left.append conjunction right).leaves = left.leaves ++ right.leaves := by
  fun_induction append left conjunction right with
  | case1 atom conjunction right => rfl
  | case2 atom first rest conjunction right ih => simp only [leaves, ih, List.append_assoc]

theorem text_append (write : α → List Char) (left right : Chain α) (conjunction : Conjunction) :
    (left.append conjunction right).text write =
      left.text write ++ ' ' :: (conjunction.sql.toList ++ ' ' :: right.text write) := by
  fun_induction append left conjunction right with
  | case1 atom conjunction right => rfl
  | case2 atom first rest conjunction right ih =>
    simp only [text, ih, List.append_assoc, List.cons_append]

end Chain

theorem Condition.leaves_chain (condition : Condition) :
    condition.chain.leaves = condition.leaves := by
  induction condition with
  | leaf operand operator value bound => rfl
  | joined left conjunction right ihl ihr => rw [chain, Chain.leaves_append, ihl, ihr, leaves]
  | parenthesized inner ih => exact ih

def Comparison.text (comparison : Comparison) : List Char :=
  comparison.operand.text.toList ++ ' ' :: (comparison.operator.sql.toList ++ ' ' ::
    if comparison.bound then ['?'] else comparison.value.literal.toList)

theorem Condition.text_chain (condition : Condition) :
    condition.template.sql.toList = condition.chain.text Comparison.text := by
  induction condition with
  | leaf operand operator value bound =>
    cases bound <;> simp [template, Template.sql, chain, Chain.text, Atom.text, Comparison.text]
  | joined left conjunction right ihl ihr =>
    rw [chain, Chain.text_append, ← ihl, ← ihr]
    simp [template, Template.sql]
  | parenthesized inner ih =>
    rw [chain, Chain.text, Atom.text, ← ih]
    simp [template, Template.sql]

end RecordMapper
