import RecordMapper.Proofs.Condition.Chain
import RecordMapper.Proofs.Reading.Basic

/-!
The text of a chain tells the chain, as far as the texts of its leaves tell the leaves. A comparison
with a bound value is told up to the value, for which a question mark stands; the values are told by
the parameters.
-/

namespace RecordMapper

theorem Conjunction.selfDelimiting :
    SelfDelimiting fun conjunction : Conjunction => conjunction.sql.toList :=
  SelfDelimiting.of_prefix fun a b => by cases a <;> cases b <;> decide

section Text

variable {α : Type} {write : α → List Char}

mutual

theorem Atom.eq_of_text_append (hwrite : SelfDelimiting write)
    (hopen : ∀ leaf rest, (write leaf ++ rest).head? ≠ some '(') :
    (a b : Atom α) → {x y : List Char} → a.text write ++ x = b.text write ++ y → a = b ∧ x = y
  | .leaf a, .leaf b, x, y, h => by
    rcases hwrite h with ⟨rfl, hrest⟩
    exact ⟨rfl, hrest⟩
  | .group c, .group d, x, y, h => by
    simp only [Atom.text, List.cons_append, List.append_assoc, List.cons.injEq, true_and,
      List.nil_append] at h
    rcases Chain.eq_of_text_append hwrite hopen c d (by simp) (by simp) h with ⟨rfl, hrest⟩
    exact ⟨rfl, (List.cons.inj hrest).2⟩
  -- a group is told from a leaf by its parenthesis
  | .leaf a, .group d, x, y, h => absurd (congrArg List.head? h) (hopen a x)
  | .group c, .leaf b, x, y, h => absurd (congrArg List.head? h.symm) (hopen b y)

theorem Chain.eq_of_text_append (hwrite : SelfDelimiting write)
    (hopen : ∀ leaf rest, (write leaf ++ rest).head? ≠ some '(') :
    (c d : Chain α) → {x y : List Char} → x.head? ≠ some ' ' → y.head? ≠ some ' ' →
      c.text write ++ x = d.text write ++ y → c = d ∧ x = y
  | .last a, .last b, x, y, hx, hy, h => by
    rcases Atom.eq_of_text_append hwrite hopen a b h with ⟨rfl, hrest⟩
    exact ⟨rfl, hrest⟩
  -- a chain that goes on does so with a blank, and no blank stands behind a whole chain
  | .last a, .next b conjunction rest, x, y, hx, hy, h => by
    rw [Chain.text, Chain.text, List.append_assoc] at h
    rcases Atom.eq_of_text_append hwrite hopen a b h with ⟨-, rfl⟩
    exact absurd rfl hx
  | .next a conjunction rest, .last b, x, y, hx, hy, h => by
    rw [Chain.text, Chain.text, List.append_assoc] at h
    rcases Atom.eq_of_text_append hwrite hopen a b h with ⟨-, rfl⟩
    exact absurd rfl hy
  | .next a conjunction c, .next b conjunction' d, x, y, hx, hy, h => by
    simp only [Chain.text, List.append_assoc, List.cons_append] at h
    rcases Atom.eq_of_text_append hwrite hopen a b h with ⟨rfl, hnext⟩
    rcases Conjunction.selfDelimiting (List.cons.inj hnext).2 with ⟨rfl, hrest⟩
    rcases Chain.eq_of_text_append hwrite hopen c d hx hy (List.cons.inj hrest).2 with ⟨rfl, hxy⟩
    exact ⟨rfl, hxy⟩

end

end Text

section Map

variable {α β : Type} {f : α → β}

mutual

theorem Atom.text_map {write : α → List Char} {write' : β → List Char} : (a : Atom α) →
    (∀ leaf ∈ a.leaves, write leaf = write' (f leaf)) → a.text write = (a.map f).text write'
  | .leaf leaf, h => h leaf List.mem_cons_self
  | .group inner, h => by
    rw [Atom.text, Atom.map, Atom.text, inner.text_map h]

theorem Chain.text_map {write : α → List Char} {write' : β → List Char} : (c : Chain α) →
    (∀ leaf ∈ c.leaves, write leaf = write' (f leaf)) → c.text write = (c.map f).text write'
  | .last atom, h => atom.text_map h
  | .next atom conjunction rest, h => by
    have hatom := atom.text_map fun leaf hmem => h leaf (List.mem_append_left _ hmem)
    have hrest := rest.text_map fun leaf hmem => h leaf (List.mem_append_right _ hmem)
    rw [Chain.text, Chain.map, Chain.text, hatom, hrest]

end

mutual

theorem Atom.leaves_map (f : α → β) : (a : Atom α) → (a.map f).leaves = a.leaves.map f
  | .leaf _ => rfl
  | .group inner => inner.leaves_map f

theorem Chain.leaves_map (f : α → β) : (c : Chain α) → (c.map f).leaves = c.leaves.map f
  | .last atom => atom.leaves_map f
  | .next atom conjunction rest => by
    simp only [Chain.map, Chain.leaves, List.map_append, atom.leaves_map f, rest.leaves_map f]

end

mutual

theorem Atom.eq_of_map_eq : (a b : Atom α) → {xs ys : List α} → a.map f = b.map f →
    a.leaves ++ xs = b.leaves ++ ys → a = b ∧ xs = ys
  | .leaf a, .leaf b, xs, ys, hmap, h => by
    rcases List.cons.inj h with ⟨rfl, hrest⟩
    exact ⟨rfl, hrest⟩
  | .group c, .group d, xs, ys, hmap, h => by
    rcases Chain.eq_of_map_eq c d (Atom.group.inj hmap) h with ⟨rfl, hrest⟩
    exact ⟨rfl, hrest⟩

theorem Chain.eq_of_map_eq : (c d : Chain α) → {xs ys : List α} → c.map f = d.map f →
    c.leaves ++ xs = d.leaves ++ ys → c = d ∧ xs = ys
  | .last a, .last b, xs, ys, hmap, h => by
    rcases Atom.eq_of_map_eq a b (Chain.last.inj hmap) h with ⟨rfl, hrest⟩
    exact ⟨rfl, hrest⟩
  | .next a conjunction c, .next b conjunction' d, xs, ys, hmap, h => by
    rcases Chain.next.inj hmap with ⟨hatom, rfl, hchain⟩
    rw [Chain.leaves, Chain.leaves, List.append_assoc, List.append_assoc] at h
    rcases Atom.eq_of_map_eq a b hatom h with ⟨rfl, hrest⟩
    rcases Chain.eq_of_map_eq c d hchain hrest with ⟨rfl, hxy⟩
    exact ⟨rfl, hxy⟩

end

end Map

end RecordMapper
