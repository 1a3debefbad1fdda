import RecordMapper.Schema.Basic

/-!
Schemas in the making. A builder notes the declared columns one after another and, in a list of its
own, the names of the primary ones; names are checked only when the schema is built, and the two
lists are kept side by side. `build_ofDeclarations` says that they agree: a schema built in steps is
the schema that its declarations make at once, and what is refused is refused for the same fault.
-/

namespace RecordMapper.Schema

structure Field where
  member : String
  autoIncrements : Bool
  nullable : Bool
  parse : Parser
  cast : Caster

def Field.ofDeclaration (name : String) (declaration : Declaration) : Field where
  member := declaration.member.getD name
  autoIncrements := declaration.autoIncrements
  nullable := !declaration.primary && declaration.nullable.getD true
  parse := declaration.parser.getD identityParser
  cast := declaration.caster.getD passThroughCaster

/-- A schema as it is kept: its columns by name, and the names of the key. -/
structure Definition where
  table : String
  keyNames : List String
  columns : List (String × Field)

namespace Definition

def field? (definition : Definition) (name : String) : Option Field :=
  (definition.columns.find? fun column => column.1 == name).map (·.2)

def isPrimary (definition : Definition) (name : String) : Bool :=
  definition.keyNames.any (· == name)

def identityField? (definition : Definition) : Option (String × Field) :=
  match definition.keyNames with
  | [name] => ((definition.field? name).filter (·.autoIncrements)).map fun field => (name, field)
  | _ => none

end Definition

structure Builder where
  table : String
  columns : List (String × Declaration)
  keyNames : List String

namespace Builder

def start (table : String) : Builder := ⟨table, [], []⟩

def declare (builder : Builder) (column : String × List Attribute) : Builder :=
  let declaration := Declaration.ofAttributes column.2
  { builder with
    columns := builder.columns ++ [(column.1, declaration)]
    keyNames :=
      if declaration.primary then builder.keyNames ++ [column.1] else builder.keyNames }

def ofDeclarations (table : String) (columns : List (String × List Attribute)) : Builder :=
  columns.foldl declare (start table)

def take (table : String) (taken : List (String × Field)) (column : String × Declaration) :
    Except Fault (List (String × Field)) := do
  let _ ← Identifier.ofText "column" column.1
  if taken.any fun other => other.1 == column.1 then
    throw (.validation (.duplicateColumn column.1 table))
  return taken ++ [(column.1, .ofDeclaration column.1 column.2)]

def build (builder : Builder) : Except Fault Definition := do
  let _ ← Identifier.ofText "table" builder.table
  let columns ← builder.columns.foldlM (take builder.table) []
  return ⟨builder.table, builder.keyNames, columns⟩

end Builder

/-! A schema as it is kept, and what is asked of it. -/

def Field.ofColumn (column : Column) : Field :=
  ⟨column.member, column.autoIncrements, column.nullable, column.parse, column.cast⟩

def entry (column : Column) : String × Field :=
  (column.name.text, .ofColumn column)

def definition (schema : Schema) : Definition :=
  ⟨schema.table.text, schema.keyColumns.map (·.name.text), schema.columns.map entry⟩

theorem entry_ofDeclaration (name : Identifier) (declaration : Declaration) :
    entry (.ofDeclaration name declaration) = (name.text, .ofDeclaration name.text declaration) :=
  rfl

theorem field?_definition (schema : Schema) (name : String) :
    schema.definition.field? name = (schema.column? name).map .ofColumn := by
  unfold Definition.field? definition column?
  rw [List.find?_map, Option.map_map]
  rfl

theorem isPrimary_definition (schema : Schema) (name : String) :
    schema.definition.isPrimary name = schema.isPrimary name := by
  unfold Definition.isPrimary definition isPrimary
  rw [List.any_map]
  rfl

theorem identityField?_definition (schema : Schema) :
    schema.definition.identityField? = schema.identityColumn?.map entry := by
  have hmem : ∀ column ∈ schema.keyColumns, schema.column? column.name.text = some column :=
    fun column hcolumn => column?_of_mem (List.mem_filter.1 hcolumn).1
  unfold Definition.identityField? identityColumn?
  simp only [field?_definition]
  unfold definition
  rcases hkey : schema.keyColumns with _ | ⟨column, _ | ⟨other, later⟩⟩
  · rfl
  · rw [hkey] at hmem
    simp only [List.map_cons, List.map_nil, hmem column List.mem_cons_self, Option.map_some]
    cases hauto : column.autoIncrements <;> simp [Option.filter, Field.ofColumn, entry, hauto]
  · rfl

/-! Building in steps. -/

theorem columns_ofDeclarations (builder : Builder) (columns : List (String × List Attribute)) :
    columns.foldl Builder.declare builder =
      ⟨builder.table, builder.columns ++ columns.map fun c => (c.1, .ofAttributes c.2),
        builder.keyNames ++
          (columns.filter fun c => (Declaration.ofAttributes c.2).primary).map (·.1)⟩ := by
  induction columns generalizing builder with
  | nil => simp
  | cons column columns ih =>
    rw [List.foldl_cons, ih]
    cases hprimary : (Declaration.ofAttributes column.2).primary <;>
      simp [Builder.declare, hprimary]

theorem take_entries (schema : Schema) (column : String × List Attribute) :
    Builder.take schema.table.text (schema.columns.map entry) (column.1, .ofAttributes column.2) =
      (schema.declare column).map fun next => next.columns.map entry := by
  unfold Builder.take declare
  cases hname : Identifier.ofText "column" column.1 with
  | error fault => rfl
  | ok name =>
    have htext : name.text = column.1 := Identifier.ofText_eq_ok_iff.1 hname
    simp only [bind, Except.bind, List.any_map]
    unfold addColumn
    by_cases hdistinct : ∀ other ∈ schema.columns, other.name.text ≠ column.1
    · rw [if_neg (by simpa [entry] using hdistinct),
        dif_pos (by simpa [Column.ofDeclaration, htext] using hdistinct)]
      simp [Except.map, pure, Except.pure, entry_ofDeclaration, htext]
    · rw [if_pos (by simpa [entry] using hdistinct),
        dif_neg (by simpa [Column.ofDeclaration, htext] using hdistinct)]
      simp [Except.map, throw, throwThe, MonadExceptOf.throw, Column.ofDeclaration, htext]

theorem declare_eq_ok {schema next : Schema} {column : String × List Attribute}
    (h : schema.declare column = .ok next) :
    next.table = schema.table ∧ ∃ name : Identifier, name.text = column.1 ∧
      next.columns = schema.columns ++ [.ofDeclaration name (.ofAttributes column.2)] := by
  unfold declare at h
  cases hname : Identifier.ofText "column" column.1 with
  | error fault =>
    rw [hname] at h
    cases h
  | ok name =>
    rw [hname] at h
    change schema.addColumn _ = _ at h
    unfold addColumn at h
    split at h
    · cases h
      exact ⟨rfl, name, Identifier.ofText_eq_ok_iff.1 hname, rfl⟩
    · cases h

theorem foldlM_take_entries (schema : Schema) (columns : List (String × List Attribute)) :
    (columns.map fun c => (c.1, Declaration.ofAttributes c.2)).foldlM
        (Builder.take schema.table.text) (schema.columns.map entry) =
      (columns.foldlM declare schema).map fun next => next.columns.map entry := by
  induction columns generalizing schema with
  | nil => rfl
  | cons column columns ih =>
    rw [List.map_cons, List.foldlM_cons, List.foldlM_cons, take_entries]
    cases hnext : schema.declare column with
    | error fault => rfl
    | ok next =>
      have hrest := ih next
      rw [(declare_eq_ok hnext).1] at hrest
      exact hrest

theorem keyColumns_foldlM_declare {schema built : Schema}
    {columns : List (String × List Attribute)} (h : columns.foldlM declare schema = .ok built) :
    built.table = schema.table ∧ built.keyColumns.map (·.name.text) =
      schema.keyColumns.map (·.name.text) ++
        (columns.filter fun c => (Declaration.ofAttributes c.2).primary).map (·.1) := by
  induction columns generalizing schema with
  | nil =>
    cases h
    simp
  | cons column columns ih =>
    rw [List.foldlM_cons] at h
    cases hnext : schema.declare column with
    | error fault =>
      rw [hnext] at h
      cases h
    | ok next =>
      rw [hnext] at h
      obtain ⟨htable, name, hname, hcolumns⟩ := declare_eq_ok hnext
      obtain ⟨hbuilt, hkeys⟩ := ih h
      refine ⟨hbuilt.trans htable, ?_⟩
      rw [hkeys]
      unfold keyColumns
      rw [hcolumns, List.filter_append, List.map_append, List.append_assoc, List.filter_cons]
      cases hprimary : (Declaration.ofAttributes column.2).primary <;>
        simp [Column.ofDeclaration, hprimary, hname]

/-- A schema that is built in steps is the schema that its declarations make at once, and is refused
when they are. -/
theorem build_ofDeclarations (table : String) (columns : List (String × List Attribute)) :
    (Builder.ofDeclarations table columns).build = (build table columns).map definition := by
  unfold Builder.ofDeclarations
  rw [columns_ofDeclarations]
  unfold Builder.build build
  dsimp only [Builder.start]
  cases htable : Identifier.ofText "table" table with
  | error fault => rfl
  | ok name =>
    have hname : name.text = table := Identifier.ofText_eq_ok_iff.1 htable
    have hfold := foldlM_take_entries ⟨name, [], .nil⟩ columns
    rw [hname, List.map_nil] at hfold
    simp only [bind, Except.bind, List.nil_append, hfold]
    cases hbuilt : columns.foldlM declare ⟨name, [], .nil⟩ with
    | error fault => rfl
    | ok built =>
      obtain ⟨hsame, hkeys⟩ := keyColumns_foldlM_declare hbuilt
      have htext : built.table.text = table := by rw [hsame, hname]
      simp only [Except.map, definition, hkeys, htext]
      rfl

end RecordMapper.Schema
