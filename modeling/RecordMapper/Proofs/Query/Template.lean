import RecordMapper.Proofs.Outcome
import RecordMapper.SelectQuery

/-!
When a query can be built, and from which names: the source is an identifier, and each column of the
projection a star, an identifier, or an identifier with a star behind it.
-/

namespace RecordMapper

namespace SelectQuery

def IsColumn (column : List Char) : Prop :=
  column = ['*'] ∨ ∃ name star, Identifier.Valid name ∧ (star = [] ∨ star = ['.', '*']) ∧
    column = name ++ star

theorem isColumn_of_checkProjection {column : String} (h : checkProjection column = .ok ()) :
    IsColumn column.toList := by
  unfold checkProjection at h
  split at h
  · next hstar =>
    subst hstar
    exact .inl rfl
  · rcases Outcome.map_eq_ok_iff.1 h with ⟨identifier, hname, -⟩
    have hvalid := Identifier.valid_of_ofText hname
    unfold projectedName at hvalid
    split at hvalid
    · next table hreverse =>
      rw [String.toList_ofList] at hvalid
      refine .inr ⟨table.reverse, _, hvalid, .inr rfl, ?_⟩
      have hcolumn := congrArg List.reverse hreverse
      simpa using hcolumn
    · exact .inr ⟨_, [], hvalid, .inl rfl, (List.append_nil _).symm⟩

/-- What a query has that is built, and the template that it is built to. -/
structure Builds (query : SelectQuery) (template : Template) (table : String)
    (condition : Option Condition) : Prop where
  columns_ne_nil : query.columns ≠ []
  source : query.table = some table
  table_valid : Identifier.Valid table.toList
  columns_checked : ∀ column ∈ query.columns, checkProjection column = .ok ()
  closed : query.conditions.outer = []
  condition_eq : query.conditions.level.condition = condition
  template_eq : template = selectTemplate query.columns table condition

variable {query : SelectQuery} {template : Template} {table : String}
  {condition : Option Condition}

theorem Builds.isColumn (h : query.Builds template table condition) :
    ∀ column ∈ query.columns, IsColumn column.toList :=
  fun column hcolumn => isColumn_of_checkProjection (h.columns_checked column hcolumn)

theorem Builds.template_eq_ok (h : query.Builds template table condition) :
    query.template = .ok template := by
  have hname : Identifier.ofText "table" table = .ok ⟨table, h.table_valid⟩ :=
    Identifier.ofText_eq_ok_iff.2 rfl
  have hchecked := Outcome.forM_eq_ok_iff.2 h.columns_checked
  have hbuild : query.conditions.build = .ok condition := by
    rw [Assembler.build, if_pos h.closed, h.condition_eq]
  unfold SelectQuery.template
  simp only [if_neg h.columns_ne_nil, h.source, hname, hchecked, hbuild, h.template_eq]
  rfl

theorem Builds.build_eq_ok (h : query.Builds template table condition) :
    query.build = .ok template.statement := by
  rw [build, h.template_eq_ok]
  rfl

theorem builds_of_template (h : query.template = .ok template) :
    ∃ table condition, query.Builds template table condition := by
  unfold SelectQuery.template at h
  have hcolumns : query.columns ≠ [] := by
    intro hnil
    rw [if_pos hnil] at h
    cases h
  rw [if_neg hcolumns] at h
  cases htable : query.table with
  | none =>
    simp only [htable] at h
    cases h
  | some table =>
    simp only [htable] at h
    rcases Outcome.bind_eq_ok_iff.1 h with ⟨identifier, hname, h⟩
    rcases Outcome.bind_eq_ok_iff.1 h with ⟨_, hchecked, h⟩
    unfold Assembler.build at h
    by_cases hclosed : query.conditions.outer = []
    · rw [if_pos hclosed] at h
      exact ⟨table, _, hcolumns, htable, Identifier.valid_of_ofText hname,
        Outcome.forM_eq_ok_iff.1 hchecked, hclosed, rfl, (Except.ok.inj h).symm⟩
    · rw [if_neg hclosed] at h
      cases h

end SelectQuery

end RecordMapper
