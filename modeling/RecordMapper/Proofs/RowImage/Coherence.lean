import RecordMapper.Proofs.RowImage.Account

/-!
The text, the columns and the parameters of the statements on a row say the same thing: which
columns are written and which are looked up, in the order of their declaration, and with which
values.
-/

namespace RecordMapper

namespace Schema

variable {schema : Schema}

theorem eq_of_name_eq {column other : Column} (h : column ∈ schema.columns)
    (hother : other ∈ schema.columns) (hname : column.name = other.name) : column = other :=
  eq_of_pairwise_ne schema.distinct h hother (congrArg Identifier.text hname)

theorem nodup_names (schema : Schema) : (schema.columns.map Column.name).Nodup := by
  rw [List.Nodup, List.pairwise_map]
  exact schema.distinct.imp fun hne hname => hne (congrArg Identifier.text hname)

theorem mem_columns_of_key {column : Column} (h : column ∈ schema.keyColumns) :
    column ∈ schema.columns :=
  (List.mem_filter.1 h).1

theorem keyColumns_eq_nil_iff :
    schema.keyColumns = [] ↔ ∀ column ∈ schema.columns, column.primary = false := by
  simp [keyColumns]

theorem isPrimary_of_mem {column : Column} (h : column ∈ schema.columns) :
    schema.isPrimary column.name.text = column.primary := by
  rw [Bool.eq_iff_iff]
  unfold isPrimary keyColumns
  simp only [List.any_eq_true, List.mem_filter, beq_iff_eq]
  constructor
  · rintro ⟨other, ⟨hother, hprimary⟩, hname⟩
    rwa [← eq_of_pairwise_ne schema.distinct hother h hname]
  · intro hprimary
    exact ⟨column, ⟨h, hprimary⟩, rfl⟩

end Schema

/-- Values for the columns of a schema that a condition picks out: in the order of the declaration,
each column once, and each with a value of its own. -/
structure Lists (schema : Schema) (picks : Column → Prop) (owns : Column → SqlValue → Prop)
    (bindings : List Binding) : Prop where
  declared : (bindings.map Prod.fst).Sublist (schema.columns.map Column.name)
  once : (bindings.map Prod.fst).Nodup
  name_mem_iff : ∀ column ∈ schema.columns, column.name ∈ bindings.map Prod.fst ↔ picks column
  owns_of_mem : ∀ column ∈ schema.columns, ∀ value, (column.name, value) ∈ bindings →
    owns column value

theorem RowImage.mem_bindings_iff {schema : Schema} {columns : List Column}
    {value : Column → SqlValue} {column : Column} {bound : SqlValue}
    (hcolumns : ∀ column ∈ columns, column ∈ schema.columns) (hcolumn : column ∈ schema.columns) :
    (column.name, bound) ∈ bindings columns value ↔ column ∈ columns ∧ bound = value column := by
  unfold bindings
  rw [List.mem_map]
  constructor
  · rintro ⟨other, hother, heq⟩
    obtain ⟨hname, rfl⟩ := Prod.mk.inj heq
    rw [← Schema.eq_of_name_eq (hcolumns other hother) hcolumn hname]
    exact ⟨hother, rfl⟩
  · rintro ⟨hmem, rfl⟩
    exact ⟨column, hmem, rfl⟩

theorem lists_bindings {schema : Schema} {picks : Column → Prop} {owns : Column → SqlValue → Prop}
    {picked : Column → Bool} {value : Column → SqlValue}
    (hpicked : ∀ column, picked column = true ↔ picks column)
    (howns : ∀ column, owns column (value column)) :
    Lists schema picks owns (RowImage.bindings (schema.columns.filter picked) value) where
  declared := by
    rw [RowImage.map_fst_bindings]
    exact List.filter_sublist.map _
  once := by
    rw [RowImage.map_fst_bindings]
    exact schema.nodup_names.sublist (List.filter_sublist.map _)
  name_mem_iff := by
    intro column hcolumn
    rw [RowImage.map_fst_bindings, ← hpicked, List.mem_map]
    constructor
    · rintro ⟨other, hother, hname⟩
      obtain ⟨hmem, hvalue⟩ := List.mem_filter.1 hother
      rwa [← Schema.eq_of_name_eq hmem hcolumn hname]
    · intro hvalue
      exact ⟨column, List.mem_filter.2 ⟨hcolumn, hvalue⟩, rfl⟩
  owns_of_mem := by
    intro column hcolumn bound hbound
    rw [RowImage.mem_bindings_iff (fun _ hother => (List.mem_filter.1 hother).1) hcolumn] at hbound
    rw [hbound.2]
    exact howns column

theorem Outline.defaults_iff {outline : Outline} :
    (∃ table, outline.text .insert = "INSERT INTO " ++ table ++ " DEFAULT VALUES") ↔
      outline.written = [] := by
  constructor
  · rintro ⟨table, h⟩
    by_cases hwritten : outline.written = []
    · exact hwritten
    · -- a row with columns ends in a bracket, a row of defaults in a letter
      have hlast := congrArg (fun text => text.toList.getLast?) h
      simp only [text, columnsText, if_neg hwritten, String.toList_append, ← List.append_assoc,
        List.getLast?_append] at hlast
      exact absurd hlast (by simp)
  · intro hwritten
    exact ⟨outline.table.text, by rw [text, columnsText, if_pos hwritten]⟩

namespace RowImage

variable (image : RowImage)

/-- What is stored in a column: null for a member that is undefined or null and for a value that
cannot be cast, and else what the value is cast to. -/
inductive Stores (column : Column) : SqlValue → Prop where
  | unset (h : image.snapshot.isSet column.member = false) : Stores column .null
  | refused (value : Json) (h : image.snapshot.value? column.member = some value)
    (hcast : column.cast value = none) : Stores column .null
  | cast (value : Json) (scalar : SqlValue) (h : image.snapshot.value? column.member = some value)
    (hcast : column.cast value = some scalar) : Stores column scalar

/-- What a column of the key is looked up by: the scalar of the member as it is. -/
inductive Seeks (column : Column) : SqlValue → Prop where
  | undefined (h : image.snapshot.get? column.member = none) : Seeks column .null
  | scalar (value : Json) (h : image.snapshot.get? column.member = some value) :
    Seeks column (.ofJson value)

theorem stores_columnValue (column : Column) : image.Stores column (image.columnValue column) := by
  unfold columnValue
  cases h : image.snapshot.value? column.member with
  | none => exact .unset (by simp [Snapshot.isSet, h])
  | some value =>
    cases hcast : column.cast value with
    | none => simpa [hcast] using Stores.refused value h hcast
    | some scalar => simpa [hcast] using Stores.cast value scalar h hcast

theorem seeks_keyValue (column : Column) : image.Seeks column (image.keyValue column) := by
  unfold keyValue
  split
  · next h => exact .undefined h
  · next value h => exact .scalar value h

theorem writes_iff (column : Column) :
    image.writes column = true ↔
      column.nullable = true ∨ image.snapshot.isSet column.member = true := by
  simp [writes]

theorem written_update :
    (image.account .update).written =
      (image.account .insert).written.filter fun binding =>
        !image.schema.isPrimary binding.1.text := by
  change bindings image.updatedColumns image.columnValue =
    (bindings image.insertedColumns image.columnValue).filter _
  unfold bindings updatedColumns insertedColumns
  rw [List.filter_map, List.filter_filter]
  congr 1
  apply List.filter_congr
  intro column hcolumn
  simp [Schema.isPrimary_of_mem hcolumn]

theorem insert_defaults_iff :
    (∃ table, image.insert.sql = "INSERT INTO " ++ table ++ " DEFAULT VALUES") ↔
      (image.account .insert).written = [] := by
  rw [insert_eq]
  dsimp only
  rw [← text_insert, Outline.defaults_iff, Account.outline, List.map_eq_nil_iff]

/-- How the statements on a row hang together. -/
structure Coherent : Prop where
  inserted : Lists image.schema
    (fun column => column.nullable = true ∨ image.snapshot.isSet column.member = true)
    image.Stores (image.account .insert).written
  updated : Lists image.schema
    (fun column => column.primary = false ∧
      (column.nullable = true ∨ image.snapshot.isSet column.member = true))
    image.Stores (image.account .update).written
  sought : ∀ operation, operation ≠ .insert →
    Lists image.schema (fun column => column.primary = true) image.Seeks
      (image.account operation).key
  updated_eq : (image.account .update).written =
    (image.account .insert).written.filter fun binding => !image.schema.isPrimary binding.1.text
  /-- A statement is read in one way only. -/
  reads_iff : ∀ operation statement, image.statement operation = .ok statement →
    ∀ account : Account, account.Reads operation statement ↔ account = image.account operation
  parameters_eq : ∀ operation statement, image.statement operation = .ok statement →
    statement.parameters = (image.account operation).written.map Prod.snd ++
      (image.account operation).key.map Prod.snd
  insert_built : ∃ statement, image.statement .insert = .ok statement
  defaults_iff : (∃ table, image.insert.sql = "INSERT INTO " ++ table ++ " DEFAULT VALUES") ↔
    (image.account .insert).written = []
  update_refused_iff : (∃ fault, image.statement .update = .error fault) ↔
    (∀ column ∈ image.schema.columns, column.primary = false) ∨
      (image.account .update).written = []
  delete_refused_iff : (∃ fault, image.statement .delete = .error fault) ↔
    ∀ column ∈ image.schema.columns, column.primary = false

theorem refused_iff (operation : RowOperation) :
    (∃ fault, image.statement operation = .error fault) ↔
      (image.account operation).outline.fault? operation ≠ none := by
  rw [statement_eq]
  cases (image.account operation).outline.fault? operation with
  | none => simp
  | some cause => simp

theorem coherent : image.Coherent where
  inserted := lists_bindings image.writes_iff image.stores_columnValue
  updated := lists_bindings (fun column => by simp [writes_iff]) image.stores_columnValue
  sought := by
    intro operation hoperation
    cases operation with
    | insert => exact absurd rfl hoperation
    | update | delete => exact lists_bindings (fun _ => Iff.rfl) image.seeks_keyValue
  updated_eq := image.written_update
  reads_iff := fun _ _ h _ => RowImage.reads_iff h
  parameters_eq := by
    intro operation statement h
    obtain ⟨-, rfl⟩ := statement_eq_ok_iff.1 h
    rfl
  insert_built := ⟨_, image.statement_insert⟩
  defaults_iff := image.insert_defaults_iff
  update_refused_iff := by
    rw [refused_iff, ← Schema.keyColumns_eq_nil_iff, ← image.key_account_eq_nil_iff .update (by decide)]
    have hwritten : (image.account .update).outline.written = [] ↔
        (image.account .update).written = [] := List.map_eq_nil_iff
    rw [← hwritten]
    unfold Outline.fault?
    by_cases hkey : (image.account .update).outline.key = []
    · simp [hkey]
    · simp [hkey]
  delete_refused_iff := by
    rw [refused_iff, ← Schema.keyColumns_eq_nil_iff, ← image.key_account_eq_nil_iff .delete (by decide)]
    simp [Outline.fault?]

/-- The statements on a row hang together, and two of one kind with one text are on the same table,
write the same columns and look the row up by the same columns, whatever stands in the names. -/
theorem coherent_and_decodable :
    (∀ image : RowImage, image.Coherent) ∧
      ∀ (image other : RowImage) (operation : RowOperation) (statement another : Statement),
        image.statement operation = .ok statement → other.statement operation = .ok another →
          statement.sql = another.sql →
            image.schema.table = other.schema.table ∧
              (image.account operation).written.map Prod.fst =
                (other.account operation).written.map Prod.fst ∧
              (image.account operation).key.map Prod.fst =
                (other.account operation).key.map Prod.fst := by
  refine ⟨coherent, ?_⟩
  intro image other operation statement another hstatement hanother hsql
  have houtline :=
    (statement_eq_ok_iff.1 hstatement).outline_eq (statement_eq_ok_iff.1 hanother) hsql
  have htable (image : RowImage) : (image.account operation).table = image.schema.table := by
    cases operation <;> rfl
  rw [← htable image, ← htable other]
  exact ⟨congrArg Outline.table houtline, congrArg Outline.written houtline,
    congrArg Outline.key houtline⟩

def misleading (key value : Json) : RowImage where
  schema := {
    table := ⟨"\"t SET a = ? WHERE b\"", by decide⟩
    columns := [
      .ofDeclaration ⟨"\"k = ? AND l\"", by decide⟩ (.ofAttributes [.primary, .member "k"]),
      .ofDeclaration ⟨"\"v = ?, w\"", by decide⟩ (.ofAttributes [.member "v", .typed .int]),
      .ofDeclaration ⟨"u", by decide⟩ (.ofAttributes [.nullable false])]
    distinct := by decide }
  snapshot := ⟨[("k", key), ("v", value)]⟩

theorem coherent_and_decodable_misleading :
    (misleading (.string "1") (.bool true)).Coherent ∧
      (∃ statement another,
        (misleading (.string "1") (.bool true)).statement .update = .ok statement ∧
        (misleading .null (.string "WHERE")).statement .update = .ok another ∧
        statement.sql = another.sql ∧ statement.parameters = [.int 1, .text "1"] ∧
        another.parameters = [.null, .null]) ∧
      ((misleading (.string "1") (.bool true)).account .update).written.map Prod.fst =
        ((misleading .null (.string "WHERE")).account .update).written.map Prod.fst := by
  have hone : (misleading (.string "1") (.bool true)).statement .update = .ok _ := rfl
  have hother : (misleading .null (.string "WHERE")).statement .update = .ok _ := rfl
  refine ⟨coherent_and_decodable.1 _, ⟨_, _, hone, hother, rfl, rfl, rfl⟩, ?_⟩
  exact (coherent_and_decodable.2 _ _ _ _ _ hone hother rfl).2.1

end RowImage

end RecordMapper
