import RecordMapper.Fault
import RecordMapper.Schema.Column

/-!
Schemas: the table of a record type and its columns in the order of their declaration. The columns'
names are identifiers and differ from each other; the key is made of the primary columns.
-/

namespace RecordMapper

theorem eq_of_pairwise_ne {α β : Type} {list : List α} {key : α → β}
    (h : list.Pairwise fun a b => key a ≠ key b) {a b : α} (ha : a ∈ list) (hb : b ∈ list)
    (hkeys : key a = key b) : a = b := by
  induction list with
  | nil => cases ha
  | cons c list ih =>
    obtain ⟨hc, hrest⟩ := List.pairwise_cons.1 h
    rcases List.mem_cons.1 ha with rfl | hlater
    · rcases List.mem_cons.1 hb with rfl | hother
      · rfl
      · exact absurd hkeys (hc b hother)
    · rcases List.mem_cons.1 hb with rfl | hother
      · exact absurd hkeys.symm (hc a hlater)
      · exact ih hrest hlater hother

structure Schema where
  table : Identifier
  columns : List Column
  distinct : columns.Pairwise fun a b => a.name.text ≠ b.name.text

namespace Schema

def keyColumns (schema : Schema) : List Column :=
  schema.columns.filter (·.primary)

def column? (schema : Schema) (name : String) : Option Column :=
  schema.columns.find? fun column => column.name.text == name

theorem column?_of_mem {schema : Schema} {column : Column} (h : column ∈ schema.columns) :
    schema.column? column.name.text = some column := by
  unfold column?
  cases hfound : schema.columns.find? fun other => other.name.text == column.name.text with
  | none =>
    have hnone := List.find?_eq_none.1 hfound column h
    simp at hnone
  | some other =>
    have hname := List.find?_some hfound
    rw [eq_of_pairwise_ne schema.distinct (List.mem_of_find?_eq_some hfound) h
      (beq_iff_eq.1 hname)]

def isPrimary (schema : Schema) (name : String) : Bool :=
  schema.keyColumns.any fun column => column.name.text == name

def identityColumn? (schema : Schema) : Option Column :=
  match schema.keyColumns with
  | [column] => if column.autoIncrements then some column else none
  | _ => none

def addColumn (schema : Schema) (column : Column) : Except Fault Schema :=
  if h : ∀ other ∈ schema.columns, other.name.text ≠ column.name.text then
    .ok {
      table := schema.table
      columns := schema.columns ++ [column]
      distinct := by
        refine List.pairwise_append.2 ⟨schema.distinct, by simp, ?_⟩
        intro other member last hlast
        obtain rfl := List.mem_singleton.1 hlast
        exact h other member }
  else .error (.validation (.duplicateColumn column.name.text schema.table.text))

def declare (schema : Schema) (column : String × List Attribute) : Except Fault Schema := do
  let name ← Identifier.ofText "column" column.1
  schema.addColumn (.ofDeclaration name (.ofAttributes column.2))

def build (table : String) (columns : List (String × List Attribute)) : Except Fault Schema := do
  let table ← Identifier.ofText "table" table
  columns.foldlM declare ⟨table, [], .nil⟩

end Schema

end RecordMapper
