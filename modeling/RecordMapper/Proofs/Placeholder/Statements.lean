import RecordMapper.Proofs.Condition.Leaves
import RecordMapper.Proofs.Placeholder.Template
import RecordMapper.Proofs.Placeholder.Verbatim
import RecordMapper.Proofs.Query.Template
import RecordMapper.RowImage

/-!
Numbering the text of a built statement gives the text that has numbers in the places of the values
from the start, whatever stands in the quotes of its names.
-/

namespace RecordMapper

open Postgres

theorem verbatim_concat {a b : String} (ha : Verbatim a.toList) (hb : Verbatim b.toList) :
    Verbatim (a ++ b).toList := by
  rw [String.toList_append]
  exact ha.append hb

theorem verbatim_intercalate {separator : String} {names : List String}
    (hseparator : Verbatim separator.toList) (h : ∀ name ∈ names, Verbatim name.toList) :
    Verbatim (separator.intercalate names).toList := by
  induction names with
  | nil =>
    rw [String.intercalate_nil]
    exact verbatim_nil
  | cons name names ih =>
    have hname := h name List.mem_cons_self
    have hrest := ih fun other hother => h other (List.mem_cons_of_mem _ hother)
    cases names with
    | nil => rwa [String.intercalate_singleton]
    | cons next names =>
      rw [String.intercalate_cons_cons]
      exact verbatim_concat (verbatim_concat hname hseparator) hrest

theorem Identifier.verbatim (name : Identifier) : Verbatim name.text.toList :=
  name.valid.verbatim

theorem Operator.verbatim (operator : Operator) : Verbatim operator.sql.toList := by
  cases operator <;> decide

/-- A text that is not bound is verbatim by itself. -/
def Comparison.LiteralVerbatim (comparison : Comparison) : Prop :=
  comparison.bound = false → ∀ text, comparison.value = .text text → Verbatim text.toList

namespace Condition

def LiteralsVerbatim (condition : Condition) : Prop :=
  ∀ comparison ∈ condition.leaves, comparison.LiteralVerbatim

theorem verbatim_template {condition : Condition} (h : condition.LiteralsVerbatim) :
    condition.template.Verbatim := by
  induction condition with
  | leaf operand operator value bound =>
    have hspace : Verbatim " ".toList := by decide
    have hcomparison : Verbatim (operand.text ++ " " ++ operator.sql ++ " ").toList :=
      verbatim_concat (verbatim_concat (verbatim_concat operand.verbatim hspace)
        operator.verbatim) hspace
    cases bound with
    | true =>
      exact Template.verbatim_text hcomparison (Template.verbatim_bound value Template.verbatim_nil)
    | false =>
      have hliteral := value.verbatim_literal (h _ List.mem_cons_self rfl)
      exact Template.verbatim_text (verbatim_concat hcomparison hliteral) Template.verbatim_nil
  | joined left conjunction right ihl ihr =>
    have hleft := ihl fun comparison hmem => h comparison (List.mem_append_left _ hmem)
    have hright := ihr fun comparison hmem => h comparison (List.mem_append_right _ hmem)
    have hconjunction : Verbatim (" " ++ conjunction.sql ++ " ").toList := by
      cases conjunction <;> decide
    exact hleft.append (Template.verbatim_text hconjunction hright)
  | parenthesized inner ih =>
    have hclose : Template.Verbatim [.text ")"] :=
      Template.verbatim_text (by decide) Template.verbatim_nil
    exact (Template.verbatim_text (by decide) (ih h)).append hclose

end Condition

theorem SelectQuery.IsColumn.verbatim {column : List Char} (h : IsColumn column) :
    Verbatim column := by
  rcases h with rfl | ⟨name, star, hvalid, rfl | rfl, rfl⟩
  · decide
  · exact hvalid.verbatim.append (by decide)
  · exact hvalid.verbatim.append (by decide)

namespace RowImage

variable (image : RowImage)

theorem verbatim_assignments (columns : List (Column × SqlValue)) :
    ∀ template ∈ assignments columns, Template.Verbatim template := by
  intro template htemplate
  rcases List.mem_map.1 htemplate with ⟨⟨column, value⟩, -, rfl⟩
  exact Template.verbatim_text (verbatim_concat column.name.verbatim (by decide))
    (Template.verbatim_bound value Template.verbatim_nil)

theorem verbatim_keyClause {verb : String} {key : Template} (h : image.keyClause verb = .ok key) :
    key.Verbatim := by
  unfold keyClause at h
  split at h
  · cases h
  · cases Except.ok.inj h
    exact Template.verbatim_separatedBy (by decide) (verbatim_assignments _)

theorem verbatim_insertTemplate : image.insertTemplate.Verbatim := by
  have htable := image.schema.table.verbatim
  unfold insertTemplate
  dsimp only
  split
  · exact Template.verbatim_text (verbatim_concat (verbatim_concat (by decide) htable) (by decide))
      Template.verbatim_nil
  · have hnames : ∀ name ∈ image.insertedColumns.map fun column => column.name.text,
        Verbatim name.toList := by
      intro name hname
      rcases List.mem_map.1 hname with ⟨column, -, rfl⟩
      exact column.name.verbatim
    have hvalues : ∀ template ∈
        image.insertedColumns.map fun column => [Fragment.bound (image.columnValue column)],
        Template.Verbatim template := by
      intro template htemplate
      rcases List.mem_map.1 htemplate with ⟨column, -, rfl⟩
      exact Template.verbatim_bound _ Template.verbatim_nil
    have hclose : Template.Verbatim [.text ")"] :=
      Template.verbatim_text (by decide) Template.verbatim_nil
    refine Template.Verbatim.append (Template.verbatim_text ?_
      (Template.verbatim_separatedBy (by decide) hvalues)) hclose
    exact verbatim_concat (verbatim_concat (verbatim_concat (verbatim_concat (by decide) htable)
      (by decide)) (verbatim_intercalate (by decide) hnames)) (by decide)

theorem verbatim_updateTemplate {template : Template} (h : image.updateTemplate = .ok template) :
    template.Verbatim := by
  unfold updateTemplate at h
  rcases Outcome.bind_eq_ok_iff.1 h with ⟨key, hkey, h⟩
  by_cases hempty : image.updatedColumns.isEmpty = true
  · rw [if_pos hempty] at h
    cases h
  · rw [if_neg hempty] at h
    cases Except.ok.inj h
    have htable := image.schema.table.verbatim
    have hcomma : Verbatim ", ".toList := by decide
    have hsets := Template.verbatim_separatedBy hcomma (verbatim_assignments
      (image.updatedColumns.map fun column => (column, image.columnValue column)))
    exact Template.Verbatim.append (Template.verbatim_text
      (verbatim_concat (verbatim_concat (by decide) htable) (by decide)) hsets)
      (Template.verbatim_text (by decide) (image.verbatim_keyClause hkey))

theorem verbatim_deleteTemplate {template : Template} (h : image.deleteTemplate = .ok template) :
    template.Verbatim := by
  unfold deleteTemplate at h
  rcases Outcome.bind_eq_ok_iff.1 h with ⟨key, hkey, h⟩
  cases Except.ok.inj h
  exact Template.verbatim_text
    (verbatim_concat (verbatim_concat (by decide) image.schema.table.verbatim) (by decide))
    (image.verbatim_keyClause hkey)

end RowImage

/-- What a statement is built from: a query, or the row of a record. -/
inductive Builder where
  | select (query : SelectQuery)
  | row (image : RowImage) (operation : RowOperation)

namespace Builder

def template : Builder → Except Fault Template
  | .select query => query.template
  | .row image .insert => .ok image.insertTemplate
  | .row image .update => image.updateTemplate
  | .row image .delete => image.deleteTemplate

def build : Builder → Except Fault Statement
  | .select query => query.build
  | .row image operation => image.statement operation

theorem build_eq_map (builder : Builder) :
    builder.build = builder.template.map Template.statement := by
  rcases builder with query | ⟨image, _ | _ | _⟩ <;> rfl

def LiteralsVerbatim : Builder → Prop
  | .select query => ∀ condition ∈ query.conditions.current?, condition.LiteralsVerbatim
  | .row _ _ => True

theorem verbatim_selectTemplate {query : SelectQuery} {template : Template}
    (h : query.template = .ok template) (hliterals : LiteralsVerbatim (.select query)) :
    template.Verbatim := by
  rcases SelectQuery.builds_of_template h with ⟨table, condition, hbuilds⟩
  have hcolumns : ∀ column ∈ query.columns, Verbatim column.toList :=
    fun column hcolumn => (hbuilds.isColumn column hcolumn).verbatim
  rw [hbuilds.template_eq]
  refine Template.verbatim_text (verbatim_concat (verbatim_concat (verbatim_concat (by decide)
    (verbatim_intercalate (by decide) hcolumns)) (by decide)) hbuilds.table_valid.verbatim) ?_
  cases condition with
  | none => exact Template.verbatim_nil
  | some condition =>
    have hcondition := hliterals condition hbuilds.condition_eq
    exact Template.verbatim_text (by decide) (Condition.verbatim_template hcondition)

theorem verbatim_template {builder : Builder} {template : Template}
    (h : builder.template = .ok template) (hliterals : builder.LiteralsVerbatim) :
    template.Verbatim := by
  rcases builder with query | ⟨image, _ | _ | _⟩
  · exact verbatim_selectTemplate h hliterals
  · cases Except.ok.inj h
    exact image.verbatim_insertTemplate
  · exact image.verbatim_updateTemplate h
  · exact image.verbatim_deleteTemplate h

/-- Numbering the text of a built statement writes `$1`, `$2` and so on where the parameters stand,
one for each, and the scan ends outside quotes. -/
theorem numberedSql_build {builder : Builder} {statement : Statement}
    (h : builder.build = .ok statement) (hliterals : builder.LiteralsVerbatim) :
    ∃ template, builder.template = .ok template ∧ statement = template.statement ∧
      numberedSql statement.sql = template.numbered ∧
      placeholders none statement.sql.toList = statement.parameters.length ∧
      quoteAfter none statement.sql.toList = none := by
  rw [build_eq_map] at h
  rcases Outcome.map_eq_ok_iff.1 h with ⟨template, htemplate, rfl⟩
  have hverbatim := verbatim_template htemplate hliterals
  refine ⟨template, htemplate, rfl, ?_, hverbatim.placeholders_sql, hverbatim.quoteAfter_sql⟩
  unfold numberedSql numberPlaceholders Template.numbered Template.statement
  dsimp only
  rw [hverbatim.numberFrom_sql, String.ofList_toList]

def oddName : Identifier :=
  ⟨"\"it's ?\"\"\"", by decide⟩

def oddCondition : Condition :=
  .joined (.leaf oddName .gt (.int 5) true) .and
    (.parenthesized (.joined (.leaf oddName .like (.text "'?\"%'") false) .or
      (.leaf oddName .eq (.text "?") true)))

def oddQuery : SelectQuery :=
  ⟨["*", "\"?, '\".*"], some oddName.text, ⟨⟨some oddCondition, none⟩, []⟩⟩

def oddTemplate : Template :=
  SelectQuery.selectTemplate oddQuery.columns oddName.text (some oddCondition)

theorem oddQuery_builds : oddQuery.Builds oddTemplate oddName.text (some oddCondition) where
  columns_ne_nil := by decide
  source := rfl
  table_valid := oddName.valid
  columns_checked := by
    refine List.forall_mem_cons.2 ⟨rfl, List.forall_mem_cons.2 ⟨rfl, ?_⟩⟩
    simp
  closed := rfl
  condition_eq := rfl
  template_eq := rfl

theorem literalsVerbatim_oddQuery : LiteralsVerbatim (.select oddQuery) := by
  intro condition hcondition comparison hcomparison hbound text htext
  cases Option.some.inj hcondition
  simp only [oddCondition, Condition.leaves, List.mem_append, List.mem_singleton] at hcomparison
  rcases hcomparison with rfl | rfl | rfl
  · cases hbound
  · cases htext
    decide
  · cases hbound

theorem numberedSql_build_odd : ∃ statement, (select oddQuery).build = .ok statement ∧
    LiteralsVerbatim (.select oddQuery) ∧ statement.parameters = [.int 5, .text "?"] ∧
    numberedSql statement.sql = "SELECT *, \"?, '\".* FROM \"it's ?\"\"\" WHERE " ++
      "\"it's ?\"\"\" > $1 AND (\"it's ?\"\"\" LIKE '?\"%' OR \"it's ?\"\"\" = $2)" := by
  have hodd : (select oddQuery).template = .ok oddTemplate := oddQuery_builds.template_eq_ok
  have hbuild : (select oddQuery).build = .ok oddTemplate.statement := by
    rw [build_eq_map, hodd]
    rfl
  have hnumbering := numberedSql_build hbuild literalsVerbatim_oddQuery
  rcases hnumbering with ⟨template, htemplate, -, hnumbered, -⟩
  obtain rfl : oddTemplate = template := Except.ok.inj (hodd.symm.trans htemplate)
  refine ⟨_, hbuild, literalsVerbatim_oddQuery, rfl, hnumbered.trans ?_⟩
  decide

end Builder

end RecordMapper
