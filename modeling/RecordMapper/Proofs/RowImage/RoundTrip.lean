import RecordMapper.Proofs.Column.Form
import RecordMapper.Proofs.RowImage.Text
import RecordMapper.Record.Hydration

/-!
What is inserted is read back. The row that an INSERT writes, taken as the row of a result, is turned
into the members that were written: those that were set with their values, and null for those that
were left unset and may be null.
-/

namespace RecordMapper

namespace RowImage

variable (image : RowImage)

/-- The row that an INSERT writes: its columns with the parameters of the statement as JSON. -/
def insertedRow : Row :=
  Members.ofList ((image.insertedColumns.map fun column => column.name.text).zip
    (image.insert.parameters.map SqlValue.toJson))

/-- The member that a column stands for in the record that is read back. -/
def portrayed (column : Column) : Option (String × Json) :=
  match image.snapshot.value? column.member with
  | some value => some (column.member, value)
  | none => if column.nullable then some (column.member, .null) else none

def portrait : Members Json :=
  Members.ofList (image.schema.columns.filterMap image.portrayed)

def insertedCell (column : Column) : String × Json :=
  (column.name.text, (image.columnValue column).toJson)

theorem insertedRow_eq :
    image.insertedRow = Members.ofList (image.insertedColumns.map image.insertedCell) := by
  rw [insertedRow, insert_eq, List.map_map, List.zip_map']
  rfl

theorem insertedColumns_distinct :
    (image.insertedColumns.map image.insertedCell).Pairwise fun a b => a.1 ≠ b.1 := by
  rw [List.pairwise_map]
  exact image.schema.distinct.filter _

theorem mem_insertedRow {cell : String × Json} :
    cell ∈ image.insertedRow ↔ ∃ column ∈ image.insertedColumns, image.insertedCell column = cell := by
  rw [insertedRow_eq, Members.mem_ofList_iff image.insertedColumns_distinct, List.mem_map]

variable {image}

theorem cell_inserted {column : Column} (h : column ∈ image.insertedColumns)
    (hkeeps : ∀ value, image.snapshot.value? column.member = some value → column.Keeps value)
    (unmapped : UnmappedColumns) :
    image.schema.cell unmapped column.name.text (image.columnValue column).toJson =
      .ok (image.portrayed column) := by
  unfold Schema.cell
  rw [Schema.column?_of_mem (mem_columns_of_inserted h)]
  dsimp only
  cases hvalue : image.snapshot.value? column.member with
  | some value =>
    obtain ⟨scalar, hcast, hnull, hparse⟩ := Column.parse_cast (hkeeps value hvalue)
    have hscalar : image.columnValue column = scalar := by
      simp [columnValue, hvalue, hcast]
    rw [hscalar, hnull, hparse, portrayed, hvalue]
    rfl
  | none =>
    have hnullable : column.nullable = true := by
      have hwrites := (List.mem_filter.1 h).2
      simpa [writes, Snapshot.isSet, hvalue] using hwrites
    have hscalar : image.columnValue column = .null := by simp [columnValue, hvalue]
    rw [hscalar, hnullable, portrayed, hvalue, hnullable]
    rfl

theorem inserted_of_portrayed {column : Column} {member : String × Json}
    (hcolumn : column ∈ image.schema.columns) (h : image.portrayed column = some member) :
    column ∈ image.insertedColumns := by
  refine List.mem_filter.2 ⟨hcolumn, ?_⟩
  unfold portrayed at h
  unfold writes Snapshot.isSet
  cases hvalue : image.snapshot.value? column.member with
  | some value => simp
  | none =>
    rw [hvalue] at h
    cases hnullable : column.nullable with
    | true => rfl
    | false => simp [hnullable] at h

theorem member_of_portrayed {column : Column} {member : String × Json}
    (h : image.portrayed column = some member) : member.1 = column.member := by
  unfold portrayed at h
  split at h
  · cases h
    rfl
  · split at h
    · cases h
      rfl
    · cases h

def memberOf (image : RowImage) (cell : String × Json) : Option (String × Json) :=
  (image.schema.column? cell.1).bind image.portrayed

theorem memberOf_insertedCell {column : Column} (h : column ∈ image.insertedColumns) :
    image.memberOf (image.insertedCell column) = image.portrayed column := by
  unfold memberOf insertedCell
  rw [Schema.column?_of_mem (mem_columns_of_inserted h)]
  rfl

theorem ofList_memberOf (hmembers : image.schema.columns.Pairwise fun a b => a.member ≠ b.member) :
    Members.ofList (image.insertedRow.filterMap image.memberOf) = image.portrait := by
  apply Members.ofList_congr
  · rw [List.pairwise_filterMap]
    have hrow := Members.pairwise_ne_of_sorted (Members.sorted_ofList
      (image.insertedColumns.map image.insertedCell))
    rw [← insertedRow_eq] at hrow
    apply hrow.imp_of_mem
    intro cell other hcell hother hnames member hmember second hsecond hsame
    obtain ⟨column, hcolumn, rfl⟩ := image.mem_insertedRow.1 hcell
    obtain ⟨another, hanother, rfl⟩ := image.mem_insertedRow.1 hother
    rw [memberOf_insertedCell hcolumn] at hmember
    rw [memberOf_insertedCell hanother] at hsecond
    rw [member_of_portrayed hmember, member_of_portrayed hsecond] at hsame
    -- the row is in the order of the names: its cells for one member would be for one column
    have heq := eq_of_pairwise_ne hmembers (mem_columns_of_inserted hcolumn)
      (mem_columns_of_inserted hanother) hsame
    exact hnames (by rw [heq])
  · rw [List.pairwise_filterMap]
    apply hmembers.imp
    intro column another hne member hmember second hsecond
    rw [member_of_portrayed hmember, member_of_portrayed hsecond]
    exact hne
  · intro member
    simp only [List.mem_filterMap]
    constructor
    · rintro ⟨cell, hcell, hmember⟩
      obtain ⟨column, hcolumn, rfl⟩ := image.mem_insertedRow.1 hcell
      rw [memberOf_insertedCell hcolumn] at hmember
      exact ⟨column, mem_columns_of_inserted hcolumn, hmember⟩
    · rintro ⟨column, hcolumn, hmember⟩
      have hinserted := inserted_of_portrayed hcolumn hmember
      refine ⟨image.insertedCell column, image.mem_insertedRow.2 ⟨column, hinserted, rfl⟩, ?_⟩
      rw [memberOf_insertedCell hinserted]
      exact hmember

variable (image) in
/-- What is inserted is read back, whatever is done with columns that are not mapped. -/
theorem hydrate_insertedRow (name : String) (unmapped : UnmappedColumns)
    (hmembers : image.schema.columns.Pairwise fun a b => a.member ≠ b.member)
    (hkeeps : ∀ column ∈ image.schema.columns, ∀ value,
      image.snapshot.value? column.member = some value → column.Keeps value) :
    image.schema.hydrate (.raw name) unmapped image.insertedRow = .ok (.object image.portrait) := by
  have hcells : ∀ cell ∈ image.insertedRow,
      image.schema.cell unmapped cell.1 cell.2 = .ok (image.memberOf cell) := by
    intro cell hcell
    obtain ⟨column, hcolumn, rfl⟩ := image.mem_insertedRow.1 hcell
    rw [memberOf_insertedCell hcolumn]
    exact cell_inserted hcolumn (hkeeps column (mem_columns_of_inserted hcolumn)) unmapped
  have hfilled := Outcome.mapM_eq_ok hcells
  have hrow : image.schema.rowMembers unmapped image.insertedRow = .ok ⟨image.portrait⟩ := by
    unfold Schema.rowMembers
    rw [← ofList_memberOf hmembers]
    change image.insertedRow.mapM (fun cell => image.schema.cell unmapped cell.1 cell.2) >>= _ = _
    rw [hfilled]
    simp [bind, Except.bind, pure, Except.pure, List.filterMap_map]
  unfold Schema.hydrate
  rw [hrow]
  rfl

def half : FiniteDouble := ⟨false, 0x3fe0000000000000, by decide⟩

def sample : RowImage where
  schema := {
    table := ⟨"Samples", by decide⟩
    columns := [
      .ofDeclaration ⟨"code", by decide⟩ (.ofAttributes [.primary, .typed .int]),
      .ofDeclaration ⟨"flag", by decide⟩ (.ofAttributes [.typed .boolean]),
      .ofDeclaration ⟨"ratio", by decide⟩ (.ofAttributes [.typed .float]),
      .ofDeclaration ⟨"big", by decide⟩ (.ofAttributes [.typed .bigInt]),
      .ofDeclaration ⟨"title", by decide⟩ (.ofAttributes [.member "name", .typed .text]),
      .ofDeclaration ⟨"doc", by decide⟩ (.ofAttributes [.typed .json]),
      .ofDeclaration ⟨"plain", by decide⟩ .empty,
      .ofDeclaration ⟨"note", by decide⟩ .empty,
      .ofDeclaration ⟨"kind", by decide⟩ (.ofAttributes [.nullable false])]
    distinct := by decide }
  snapshot := ⟨[
    ("big", .string "9223372036854775808"),
    ("code", .number (.integer 7 (by decide))),
    ("doc", .object [("k", .array [.number (.real half), .null])]),
    ("flag", .bool true),
    ("name", .string "a"),
    ("note", .null),
    ("plain", .number (.real half)),
    ("ratio", .number (.real half))]⟩

theorem hydrate_insertedRow_sample :
    sample.schema.hydrate (.raw "Rec") .reject sample.insertedRow =
      .ok (.object [
        ("big", .string "9223372036854775808"),
        ("code", .number (.integer 7 (by decide))),
        ("doc", .object [("k", .array [.number (.real half), .null])]),
        ("flag", .bool true),
        ("name", .string "a"),
        ("note", .null),
        ("plain", .number (.real half)),
        ("ratio", .number (.real half))]) := by
  have hhalf : Json.readNumber (Layout.document.finiteText half) = some (.real half, []) := by
    decide +kernel
  have hbig : Cast.bigIntRange.Holds 9223372036854775808 := by decide
  apply (sample.hydrate_insertedRow "Rec" .reject (by decide) ?_).trans
  · rfl
  · intro column hcolumn value hvalue
    simp only [sample, List.mem_cons, List.not_mem_nil, or_false] at hcolumn
    rcases hcolumn with rfl | rfl | rfl | rfl | rfl | rfl | rfl | rfl | rfl <;> cases hvalue
    · exact .typed .int rfl rfl (.int 7 _ (by decide))
    · exact .typed .boolean rfl rfl (.boolean true)
    · exact .typed .float rfl rfl (.float half)
    · exact .typed .bigInt rfl rfl (.bigInt _ hbig)
    · exact .typed .text rfl rfl (.text "a")
    · refine .typed .json rfl rfl (.json _ rfl (by decide) ?_ ?_)
      · simp [Json.Ordered, Json.MembersOrdered, Json.ElementsOrdered, Members.Sorted]
      · simp [Json.DoublesReadBack, Json.MembersReadBack, Json.ElementsReadBack, hhalf]
    · exact .plain rfl rfl (.float half)

end RowImage

end RecordMapper
