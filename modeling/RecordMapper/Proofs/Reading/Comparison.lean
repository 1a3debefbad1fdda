import Mathlib.Data.List.Basic
import RecordMapper.Proofs.Reading.Chain

/-!
Conditions that bind all their values, read from their text and their parameters. The text of a
comparison tells its name and its operator; a question mark stands for the value, which the
parameters tell.
-/

namespace RecordMapper

/-- What the text of a comparison tells when the value is bound. -/
structure Heading where
  operand : Identifier
  operator : Operator

namespace Heading

def text (heading : Heading) : List Char :=
  heading.operand.text.toList ++ ' ' :: (heading.operator.sql.toList ++ [' ', '?'])

theorem selfDelimiting_operator :
    SelfDelimiting fun operator : Operator => operator.sql.toList ++ [' ', '?'] :=
  SelfDelimiting.of_prefix fun a b => by cases a <;> cases b <;> decide

theorem selfDelimiting_text : SelfDelimiting text := by
  rintro ⟨⟨operand, hoperand⟩, operator⟩ ⟨⟨operand', hoperand'⟩, operator'⟩ x y h
  have hends : ∀ cs, Identifier.Ends (' ' :: cs) := fun cs => ⟨by decide, by decide, by simp⟩
  unfold text at h
  rw [List.append_assoc, List.append_assoc] at h
  rcases Identifier.readable hoperand hoperand' (hends _) (hends _) h with ⟨htext, hrest⟩
  cases String.toList_inj.1 htext
  rcases selfDelimiting_operator (List.cons.inj hrest).2 with ⟨rfl, hxy⟩
  exact ⟨rfl, hxy⟩

theorem head_ne_parenthesis (heading : Heading) (rest : List Char) :
    (heading.text ++ rest).head? ≠ some '(' := by
  rcases heading.operand.valid.accepts.head_start with ⟨c, cs, hcs, hc⟩
  unfold text
  rw [hcs]
  intro hhead
  obtain rfl : c = '(' := Option.some.inj hhead
  revert hc
  decide

end Heading

def Comparison.heading (comparison : Comparison) : Heading :=
  ⟨comparison.operand, comparison.operator⟩

theorem Comparison.text_of_bound {comparison : Comparison} (h : comparison.bound = true) :
    comparison.text = comparison.heading.text := by
  rw [text, if_pos h]
  rfl

theorem Comparison.eq_of_heading_value {a b : Comparison} (ha : a.bound = true)
    (hb : b.bound = true) (hheading : a.heading = b.heading) (hvalue : a.value = b.value) :
    a = b := by
  rcases a with ⟨operand, operator, value, bound⟩
  rcases b with ⟨operand', operator', value', bound'⟩
  cases ha
  cases hb
  cases hheading
  cases hvalue
  rfl

theorem Comparison.eq_of_map_heading_value {as bs : List Comparison}
    (has : ∀ a ∈ as, a.bound = true) (hbs : ∀ b ∈ bs, b.bound = true)
    (hheading : as.map heading = bs.map heading) (hvalue : as.map value = bs.map value) :
    as = bs := by
  induction as generalizing bs with
  | nil => exact (List.map_eq_nil_iff.1 hheading.symm).symm
  | cons a as ih =>
    cases bs with
    | nil => cases hheading
    | cons b bs =>
      rcases List.forall_mem_cons.1 has with ⟨ha, has⟩
      rcases List.forall_mem_cons.1 hbs with ⟨hb, hbs⟩
      rcases List.cons.inj hheading with ⟨hhead, hheads⟩
      rcases List.cons.inj hvalue with ⟨hval, hvals⟩
      rw [eq_of_heading_value ha hb hhead hval, ih has hbs hheads hvals]

namespace Condition

def Bound (condition : Condition) : Prop :=
  ∀ comparison ∈ condition.leaves, comparison.bound = true

def shape (condition : Condition) : Chain Heading :=
  condition.chain.map Comparison.heading

theorem text_shape {condition : Condition} (h : condition.Bound) :
    condition.template.sql.toList = condition.shape.text Heading.text := by
  rw [text_chain, shape]
  refine Chain.text_map condition.chain fun comparison hmem => ?_
  rw [leaves_chain] at hmem
  exact Comparison.text_of_bound (h comparison hmem)

theorem parameters_of_bound {condition : Condition} (h : condition.Bound) :
    condition.template.parameters = condition.leaves.map Comparison.value := by
  rw [parameters_template]
  exact List.filterMap_eq_map_iff_forall_eq_some.2 fun comparison hmem => if_pos (h comparison hmem)

variable {condition other : Condition}

theorem sql_eq_iff (h : condition.Bound) (h' : other.Bound) :
    condition.template.sql = other.template.sql ↔ condition.shape = other.shape := by
  rw [← String.toList_inj, text_shape h, text_shape h']
  constructor
  · intro heq
    have happend := congrArg (· ++ []) heq
    exact (Chain.eq_of_text_append Heading.selfDelimiting_text Heading.head_ne_parenthesis _ _
      (by simp) (by simp) happend).1
  · intro heq
    rw [heq]

theorem chain_eq_iff (h : condition.Bound) (h' : other.Bound) :
    condition.chain = other.chain ↔ condition.shape = other.shape ∧
      condition.template.parameters = other.template.parameters := by
  constructor
  · intro heq
    have hleaves : condition.leaves = other.leaves := by
      rw [← leaves_chain, heq, leaves_chain]
    rw [parameters_of_bound h, parameters_of_bound h', shape, shape, heq, hleaves]
    exact ⟨rfl, rfl⟩
  · rintro ⟨hshape, hparameters⟩
    rw [parameters_of_bound h, parameters_of_bound h'] at hparameters
    have hheadings := congrArg Chain.leaves hshape
    rw [shape, shape, Chain.leaves_map, Chain.leaves_map, leaves_chain, leaves_chain] at hheadings
    have hleaves := Comparison.eq_of_map_heading_value h h' hheadings hparameters
    rw [← leaves_chain, ← leaves_chain] at hleaves
    exact (Chain.eq_of_map_eq _ _ hshape (congrArg (· ++ []) hleaves)).1

end Condition

end RecordMapper
