import RecordMapper.Proofs.Column.Scalar
import RecordMapper.Proofs.Record.Key
import RecordMapper.Proofs.RowImage.Coherence

/-!
The key that is inserted and the key that a row is looked up by. An INSERT casts the key as it casts
every value; an UPDATE or DELETE takes the scalars of the members as they are. The row that was
inserted is found when the casts give the same scalars.
-/

namespace RecordMapper

namespace Statement

def Writes (statement : Statement) (operation : RowOperation) (name : Identifier)
    (value : SqlValue) : Prop :=
  ∃ account : Account, account.Reads operation statement ∧ (name, value) ∈ account.written

def LooksUp (statement : Statement) (operation : RowOperation) (name : Identifier)
    (value : SqlValue) : Prop :=
  ∃ account : Account, account.Reads operation statement ∧ (name, value) ∈ account.key

end Statement

namespace RowImage

variable {image : RowImage}

theorem keyValue_of_isSet {column : Column} (h : image.snapshot.isSet column.member = true) :
    ∃ value, image.snapshot.get? column.member = some value ∧
      image.keyValue column = .ofJson value ∧ image.keyValue column ≠ .null := by
  obtain ⟨value, hget, hnull⟩ := Snapshot.isSet_iff.1 h
  have hvalue : image.keyValue column = .ofJson value := by
    unfold keyValue
    rw [hget]
  exact ⟨value, hget, hvalue, hvalue ▸ SqlValue.ofJson_ne_null hnull⟩

variable {operation : RowOperation} {statement : Statement} {name : Identifier} {bound : SqlValue}

theorem writes_iff_mem (h : image.statement operation = .ok statement) :
    statement.Writes operation name bound ↔ (name, bound) ∈ (image.account operation).written := by
  simp only [Statement.Writes, reads_iff h, exists_eq_left]

theorem looksUp_iff_mem (h : image.statement operation = .ok statement) :
    statement.LooksUp operation name bound ↔ (name, bound) ∈ (image.account operation).key := by
  simp only [Statement.LooksUp, reads_iff h, exists_eq_left]

theorem writes_insert_iff {column : Column} (hcolumn : column ∈ image.schema.columns)
    (hset : image.snapshot.isSet column.member = true) :
    image.insert.Writes .insert column.name bound ↔ bound = image.columnValue column := by
  have hinserted : column ∈ image.insertedColumns :=
    List.mem_filter.2 ⟨hcolumn, (image.writes_iff column).2 (.inr hset)⟩
  rw [writes_iff_mem image.statement_insert]
  exact (mem_bindings_iff (fun _ => mem_columns_of_inserted) hcolumn).trans
    (and_iff_right hinserted)

theorem looksUp_iff {column : Column} (hcolumn : column ∈ image.schema.keyColumns)
    (hoperation : operation ≠ .insert) (h : image.statement operation = .ok statement) :
    statement.LooksUp operation column.name bound ↔ bound = image.keyValue column := by
  have hbound : (column.name, bound) ∈ bindings image.schema.keyColumns image.keyValue ↔
      bound = image.keyValue column :=
    (mem_bindings_iff (fun _ => Schema.mem_columns_of_key)
      (Schema.mem_columns_of_key hcolumn)).trans
      (and_iff_right hcolumn)
  rw [looksUp_iff_mem h]
  cases operation with
  | insert => exact absurd rfl hoperation
  | update | delete => exact hbound

structure BindsKey (image : RowImage) (column : Column) (value : Json) : Prop where
  value_eq : image.snapshot.value? column.member = some value
  written_iff : ∀ bound, image.insert.Writes .insert column.name bound ↔
    bound = (column.cast value).getD .null
  lookedUp_iff : ∀ operation statement, operation ≠ .insert →
    image.statement operation = .ok statement →
      ∀ bound, statement.LooksUp operation column.name bound ↔ bound = .ofJson value
  lookedUp_ne_null : SqlValue.ofJson value ≠ .null

/-- A column stores the value of its member as the value's own scalar. -/
def StoresOwn (image : RowImage) (column : Column) : Prop :=
  ∀ value, image.snapshot.value? column.member = some value →
    column.cast value = some (.ofJson value)

/-- A statement looks the row up by the key that an INSERT of the row writes. -/
def FindsInserted (image : RowImage) (operation : RowOperation) (statement : Statement) : Prop :=
  ∀ column ∈ image.schema.keyColumns, ∀ bound,
    image.insert.Writes .insert column.name bound ↔
      statement.LooksUp operation column.name bound

theorem exists_bindsKey (h : image.snapshot.KeySet image.schema) {column : Column}
    (hcolumn : column ∈ image.schema.keyColumns) : ∃ value, image.BindsKey column value := by
  have hset := h.2 column hcolumn
  obtain ⟨value, hvalue⟩ := Option.isSome_iff_exists.1 hset
  obtain ⟨hget, hnull⟩ := Option.filter_eq_some_iff.1 hvalue
  have hkey : image.keyValue column = .ofJson value := by rw [keyValue, hget]
  have hwritten : image.columnValue column = (column.cast value).getD .null := by
    rw [columnValue, hvalue, Option.bind_some]
  refine ⟨value, hvalue, ?_, ?_, SqlValue.ofJson_ne_null (by simpa using hnull)⟩
  · intro bound
    rw [writes_insert_iff (Schema.mem_columns_of_key hcolumn) hset, hwritten]
  · intro operation statement hoperation hstatement bound
    rw [looksUp_iff hcolumn hoperation hstatement, hkey]

theorem storesOwn_iff {column : Column} {value : Json}
    (h : image.snapshot.value? column.member = some value) :
    image.StoresOwn column ↔ column.cast value = some (.ofJson value) := by
  constructor
  · intro hown
    exact hown value h
  · intro hcast other hother
    obtain rfl : value = other := Option.some.inj (h.symm.trans hother)
    exact hcast

theorem BindsKey.finds_iff {column : Column} {value : Json} (h : image.BindsKey column value)
    (hoperation : operation ≠ .insert) (hstatement : image.statement operation = .ok statement) :
    (∀ bound, image.insert.Writes .insert column.name bound ↔
      statement.LooksUp operation column.name bound) ↔ image.StoresOwn column := by
  simp only [h.written_iff, h.lookedUp_iff _ _ hoperation hstatement, storesOwn_iff h.value_eq]
  constructor
  · intro hsame
    have hcast := (hsame _).2 rfl
    cases hscalar : column.cast value with
    | none => exact absurd (by simpa [hscalar] using hcast) h.lookedUp_ne_null
    | some scalar =>
      rw [hscalar] at hcast
      exact congrArg some hcast.symm
  · intro hcast bound
    rw [hcast, Option.getD_some]

/-- The row that a record's INSERT wrote is found by the record's UPDATE and DELETE just when every
column of the key stores its value as the value's own scalar. A column without a caster always does,
and a typed column does for the values of some forms. -/
theorem findsInserted_iff (image : RowImage)
    (h : image.snapshot.hasKey image.schema = .ok true) :
    (∃ statement, image.statement .delete = .ok statement) ∧
      (∀ column ∈ image.schema.keyColumns, ∃ value, image.BindsKey column value ∧
        (column.cast = passThroughCaster → image.StoresOwn column) ∧
        ∀ type : ColumnType, column.cast = type.caster →
          (image.StoresOwn column ↔ type.StoresOwn value)) ∧
      ∀ operation statement, operation ≠ .insert → image.statement operation = .ok statement →
        (image.FindsInserted operation statement ↔
          ∀ column ∈ image.schema.keyColumns, image.StoresOwn column) := by
  have hkey := Snapshot.hasKey_eq_true_iff.1 h
  refine ⟨⟨_, image.delete_eq_ok_iff.2 ⟨hkey.1, rfl⟩⟩, ?_, ?_⟩
  · intro column hcolumn
    obtain ⟨value, hbinds⟩ := exists_bindsKey hkey hcolumn
    refine ⟨value, hbinds, ?_, ?_⟩
    · intro hcast
      rw [storesOwn_iff hbinds.value_eq, hcast]
      rfl
    · intro type hcast
      rw [storesOwn_iff hbinds.value_eq, hcast]
      exact ColumnType.cast_eq_ofJson_iff
  · intro operation statement hoperation hstatement
    refine forall₂_congr fun column hcolumn => ?_
    obtain ⟨value, hbinds⟩ := exists_bindsKey hkey hcolumn
    exact hbinds.finds_iff hoperation hstatement

def numbered (key : Json) : RowImage where
  schema := {
    table := ⟨"Accounts", by decide⟩
    columns := [
      .ofDeclaration ⟨"number", by decide⟩ (.ofAttributes [.primary, .typed .bigInt]),
      .ofDeclaration ⟨"holder", by decide⟩ .empty]
    distinct := by decide }
  snapshot := ⟨[("holder", .string "a"), ("number", key)]⟩

theorem findsInserted_iff_numbered : ∃ statement,
    (numbered (.number (.integer 5 (by decide)))).statement .delete = .ok statement ∧
      (numbered (.number (.integer 5 (by decide)))).FindsInserted .delete statement := by
  obtain ⟨⟨statement, hdelete⟩, -, hfinds⟩ :=
    findsInserted_iff (numbered (.number (.integer 5 (by decide)))) rfl
  refine ⟨statement, hdelete, (hfinds .delete statement (by decide) hdelete).2 ?_⟩
  intro column hcolumn value hvalue
  obtain rfl := List.mem_singleton.1 hcolumn
  cases hvalue
  rfl

/-- A big integer that a record holds as a text is inserted as an integer and looked up as a text.
-/
theorem numbered_text_not_found :
    (numbered (.string "5")).snapshot.hasKey (numbered (.string "5")).schema = .ok true ∧
      (numbered (.string "5")).insert.Writes .insert ⟨"number", by decide⟩ (.int 5) ∧
      ∀ operation, operation ≠ .insert → ∃ statement,
        (numbered (.string "5")).statement operation = .ok statement ∧
        statement.LooksUp operation ⟨"number", by decide⟩ (.text "5") ∧
        ¬ statement.LooksUp operation ⟨"number", by decide⟩ (.int 5) := by
  refine ⟨rfl, (writes_iff_mem (statement_insert _)).2 ?_, ?_⟩
  · decide
  · intro operation hoperation
    have hbuilt : ∃ statement, (numbered (.string "5")).statement operation = .ok statement := by
      cases operation <;> exact ⟨_, rfl⟩
    obtain ⟨statement, hstatement⟩ := hbuilt
    refine ⟨statement, hstatement, ?_⟩
    rw [looksUp_iff_mem hstatement, looksUp_iff_mem hstatement]
    cases operation with
    | insert => exact absurd rfl hoperation
    | update | delete => decide

end RowImage

end RecordMapper
