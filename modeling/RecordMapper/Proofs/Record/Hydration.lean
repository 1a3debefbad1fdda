import RecordMapper.Proofs.Json.Members
import RecordMapper.Proofs.Outcome
import RecordMapper.Record.Hydration

/-!
Rows read as records. The columns of a row are taken in its order, and the first that cannot be read
is the answer. Columns that the schema does not have are seen only where they are refused: the
record is made of the others, and of two columns for one member the later one fills it.
-/

namespace RecordMapper

/-- What a column reads a stored value as, if it can: null as it is where the column allows it, any
other value by the column's parser. -/
def Column.read? (column : Column) (stored : Json) : Option Json :=
  if stored.isNull && column.nullable then some .null else column.parse stored

namespace Schema

variable {ρ : Type} (schema : Schema)

def maps (cell : String × Json) : Bool :=
  (schema.column? cell.1).isSome

def refuses (cell : String × Json) : Bool :=
  (schema.column? cell.1).any fun column => (column.read? cell.2).isNone

def Fills (cell : String × Json) (member : String) (value : Json) : Prop :=
  ∃ column, schema.column? cell.1 = some column ∧ column.member = member ∧
    column.read? cell.2 = some value

/-- The members that a row makes up: one for each member that a column of the row is mapped to, with
the value of the last such column. -/
structure Assembles (row : Row) (members : Members Json) : Prop where
  sorted : members.Sorted
  names : ∀ member, (∃ value, (member, value) ∈ members) ↔
    ∃ cell ∈ row, ∃ column, schema.column? cell.1 = some column ∧ column.member = member
  last : ∀ member value, (member, value) ∈ members ↔
    ∃ before cell after, row = before ++ cell :: after ∧ schema.Fills cell member value ∧
      ∀ later ∈ after, ∀ column, schema.column? later.1 = some column → column.member ≠ member

def parseFault (cell : String × Json) : Fault :=
  .parse schema.table.text cell.1 Cast.failureMessage

def cellFault? (unmapped : UnmappedColumns) (cell : String × Json) : Option Fault :=
  if schema.maps cell then
    if schema.refuses cell then some (schema.parseFault cell) else none
  else
    match unmapped with
    | .ignore => none
    | .reject => some (.unmappedColumn schema.table.text cell.1)

def cellMember? (cell : String × Json) : Option (String × Json) :=
  (schema.column? cell.1).bind fun column => (column.read? cell.2).map (column.member, ·)

variable {schema} {unmapped : UnmappedColumns} {cell : String × Json} {row : Row}

theorem cell_eq (unmapped : UnmappedColumns) (cell : String × Json) :
    schema.cell unmapped cell.1 cell.2 =
      (schema.cellFault? unmapped cell).elim (.ok (schema.cellMember? cell)) .error := by
  unfold Schema.cell cellFault? cellMember? maps refuses
  cases schema.column? cell.1 with
  | none => cases unmapped <;> rfl
  | some column =>
    simp only [Option.isSome_some, if_true, Option.any_some, Option.bind_some, Column.read?]
    split
    · rfl
    · cases column.parse cell.2 <;> rfl

theorem rowMembers_eq (unmapped : UnmappedColumns) (row : Row) :
    schema.rowMembers unmapped row =
      (row.findSome? (schema.cellFault? unmapped)).elim
        (.ok ⟨Members.ofList (row.filterMap schema.cellMember?)⟩) .error := by
  have hrow : row.mapM (fun cell => schema.cell unmapped cell.1 cell.2) =
      (row.findSome? (schema.cellFault? unmapped)).elim (.ok (row.map schema.cellMember?)) .error :=
    Outcome.mapM_eq_elim (cell_eq unmapped)
  unfold rowMembers
  change row.mapM (fun cell => schema.cell unmapped cell.1 cell.2) >>= _ = _
  rw [hrow]
  cases row.findSome? (schema.cellFault? unmapped) with
  | some fault => rfl
  | none => simp [bind, Except.bind, pure, Except.pure, List.filterMap_map]

variable {type : RecordType ρ}

theorem hydrate_of_fault {fault : Fault}
    (h : row.findSome? (schema.cellFault? unmapped) = some fault) :
    schema.hydrate type unmapped row = .error fault := by
  rw [hydrate, rowMembers_eq, h]
  rfl

theorem hydrate_of_no_fault (h : row.findSome? (schema.cellFault? unmapped) = none) :
    schema.hydrate type unmapped row =
      match type.ofJson (.object (Members.ofList (row.filterMap schema.cellMember?))) with
      | .ok record => .ok record
      | .error cause => .error (.serialization (.hydration schema.table.text cause)) := by
  rw [hydrate, rowMembers_eq, h]
  rfl

/-! The first fault. -/

theorem maps_of_refuses (h : schema.refuses cell = true) : schema.maps cell = true := by
  unfold refuses at h
  unfold maps
  cases hcolumn : schema.column? cell.1 with
  | none =>
    rw [hcolumn] at h
    cases h
  | some column => rfl

theorem cellMember?_of_not_maps (h : schema.maps cell = false) : schema.cellMember? cell = none := by
  have hnone : schema.column? cell.1 = none := by simpa [maps] using h
  rw [cellMember?, hnone, Option.bind_none]

theorem cellFault?_eq (h : unmapped = .ignore ∨ schema.maps cell = true) :
    schema.cellFault? unmapped cell =
      if schema.refuses cell then some (schema.parseFault cell) else none := by
  unfold cellFault?
  by_cases hmaps : schema.maps cell = true
  · rw [if_pos hmaps]
  · have hrefuses : ¬ schema.refuses cell = true := fun hrefuses => hmaps (maps_of_refuses hrefuses)
    obtain rfl : unmapped = .ignore := h.resolve_right hmaps
    rw [if_neg hmaps, if_neg hrefuses]

theorem findSome?_cellFault? (h : unmapped = .ignore ∨ ∀ cell ∈ row, schema.maps cell = true) :
    row.findSome? (schema.cellFault? unmapped) =
      (row.find? schema.refuses).map schema.parseFault := by
  induction row with
  | nil => rfl
  | cons cell row ih =>
    have hcell := cellFault?_eq (h.imp_right fun hmaps => hmaps cell List.mem_cons_self)
    have hrest := ih (h.imp_right fun hmaps => (List.forall_mem_cons.1 hmaps).2)
    rw [List.findSome?_cons, List.find?_cons, hcell, hrest]
    cases schema.refuses cell <;> rfl

theorem find?_refuses_filter (row : Row) :
    (row.filter schema.maps).find? schema.refuses = row.find? schema.refuses := by
  rw [List.find?_filter]
  congr 1
  funext cell
  cases hrefuses : schema.refuses cell with
  | true => simp [maps_of_refuses hrefuses]
  | false => simp

theorem filterMap_cellMember?_filter (row : Row) :
    (row.filter schema.maps).filterMap schema.cellMember? =
      row.filterMap schema.cellMember? := by
  rw [List.filterMap_filter]
  congr 1
  funext cell
  cases hmaps : schema.maps cell with
  | true => rfl
  | false => exact (cellMember?_of_not_maps hmaps).symm

theorem hydrate_filter (type : RecordType ρ) (row : Row) :
    schema.hydrate type .ignore row = schema.hydrate type .ignore (row.filter schema.maps) := by
  rw [hydrate, hydrate, rowMembers_eq, rowMembers_eq, findSome?_cellFault? (.inl rfl),
    findSome?_cellFault? (.inl rfl), find?_refuses_filter, filterMap_cellMember?_filter]

theorem hydrate_of_maps (h : ∀ cell ∈ row, schema.maps cell = true) :
    schema.hydrate type .ignore row = schema.hydrate type .reject row := by
  rw [hydrate, hydrate, rowMembers_eq, rowMembers_eq, findSome?_cellFault? (.inl rfl),
    findSome?_cellFault? (.inr h)]

theorem findSome?_reject {unknown : String × Json}
    (h : row.find? (fun cell => !schema.maps cell) = some unknown) :
    row.findSome? (schema.cellFault? .reject) =
      (((row.takeWhile schema.maps).find? schema.refuses).map schema.parseFault).or
        (some (.unmappedColumn schema.table.text unknown.1)) := by
  obtain ⟨hunknown, before, after, rfl, hbefore⟩ := List.find?_eq_some_iff_append.1 h
  have hmaps : ∀ cell ∈ before, schema.maps cell = true := fun cell hcell => by
    simpa using hbefore cell hcell
  have hnot : schema.maps unknown = false := by simpa using hunknown
  have htake : (before ++ unknown :: after).takeWhile schema.maps = before := by
    rw [List.takeWhile_append_of_pos hmaps, List.takeWhile_cons_of_neg (by simp [hnot]),
      List.append_nil]
  have hfault : schema.cellFault? .reject unknown =
      some (.unmappedColumn schema.table.text unknown.1) := by
    rw [cellFault?, if_neg (by simp [hnot])]
  rw [htake, List.findSome?_append, findSome?_cellFault? (.inr hmaps), List.findSome?_cons, hfault]

/-! The members. -/

theorem cellMember?_eq_some_iff {member : String} {value : Json} :
    schema.cellMember? cell = some (member, value) ↔ schema.Fills cell member value := by
  unfold cellMember? Fills
  simp only [Option.bind_eq_some_iff, Option.map_eq_some_iff, Prod.mk.injEq]
  constructor
  · rintro ⟨column, hcolumn, stored, hread, hmember, rfl⟩
    exact ⟨column, hcolumn, hmember, hread⟩
  · rintro ⟨column, hcolumn, hmember, hread⟩
    exact ⟨column, hcolumn, value, hread, hmember, rfl⟩

theorem exists_cellMember? {column : Column} (hcolumn : schema.column? cell.1 = some column)
    (h : schema.refuses cell = false) :
    ∃ value, schema.cellMember? cell = some (column.member, value) := by
  rw [refuses, hcolumn, Option.any_some, Option.isNone_eq_false_iff,
    Option.isSome_iff_exists] at h
  obtain ⟨value, hvalue⟩ := h
  exact ⟨value, cellMember?_eq_some_iff.2 ⟨column, hcolumn, rfl, hvalue⟩⟩

theorem assembles_ofList (h : ∀ cell ∈ row, schema.refuses cell = false) :
    schema.Assembles row (Members.ofList (row.filterMap schema.cellMember?)) where
  sorted := Members.sorted_ofList _
  names member := by
    rw [Members.exists_mem_ofList_iff]
    constructor
    · rintro ⟨⟨name, value⟩, hpair, rfl⟩
      obtain ⟨cell, hcell, hmember⟩ := List.mem_filterMap.1 hpair
      obtain ⟨column, hcolumn, hname, -⟩ := cellMember?_eq_some_iff.1 hmember
      exact ⟨cell, hcell, column, hcolumn, hname⟩
    · rintro ⟨cell, hcell, column, hcolumn, rfl⟩
      obtain ⟨value, hvalue⟩ := exists_cellMember? hcolumn (h cell hcell)
      exact ⟨_, List.mem_filterMap.2 ⟨cell, hcell, hvalue⟩, rfl⟩
  last member value := by
    rw [Members.mem_ofList_iff_last]
    constructor
    · rintro ⟨before, after, hpairs, hafter⟩
      obtain ⟨first, rest, rfl, -, hrest⟩ := List.filterMap_eq_append_iff.1 hpairs
      obtain ⟨skipped, cell, later, rfl, -, hcell, hlater⟩ := List.filterMap_eq_cons_iff.1 hrest
      refine ⟨first ++ skipped, cell, later, by simp, cellMember?_eq_some_iff.1 hcell, ?_⟩
      intro other hother column hcolumn
      obtain ⟨stored, hstored⟩ := exists_cellMember? hcolumn (h other (by simp [hother]))
      refine hafter (column.member, stored) ?_
      rw [← hlater]
      exact List.mem_filterMap.2 ⟨other, hother, hstored⟩
    · rintro ⟨before, cell, after, rfl, hfills, hafter⟩
      refine ⟨before.filterMap schema.cellMember?, after.filterMap schema.cellMember?, ?_, ?_⟩
      · rw [List.filterMap_append, List.filterMap_cons_some (cellMember?_eq_some_iff.2 hfills)]
      · rintro ⟨name, stored⟩ hpair
        obtain ⟨other, hother, hmember⟩ := List.mem_filterMap.1 hpair
        obtain ⟨column, hcolumn, rfl, -⟩ := cellMember?_eq_some_iff.1 hmember
        exact hafter other hother column hcolumn

theorem assembles_of_no_fault (h : row.findSome? (schema.cellFault? unmapped) = none) :
    schema.Assembles row (Members.ofList (row.filterMap schema.cellMember?)) := by
  apply assembles_ofList
  intro cell hcell
  have hfault := List.findSome?_eq_none_iff.1 h cell hcell
  cases hrefuses : schema.refuses cell with
  | false => rfl
  | true =>
    rw [cellFault?_eq (.inr (maps_of_refuses hrefuses)), if_pos hrefuses] at hfault
    cases hfault

/-- The answers to a row, whatever the type of its record. -/
structure Answers (schema : Schema) (type : RecordType ρ) (row : Row) : Prop where
  /-- Columns that are ignored could as well be missing. -/
  blind : schema.hydrate type .ignore row = schema.hydrate type .ignore (row.filter schema.maps)
  agree : (∀ cell ∈ row, schema.maps cell = true) →
    schema.hydrate type .ignore row = schema.hydrate type .reject row
  rejects : ∀ unknown, row.find? (fun cell => !schema.maps cell) = some unknown →
    (row.takeWhile schema.maps).find? schema.refuses = none →
      schema.hydrate type .reject row =
        .error (.unmappedColumn schema.table.text unknown.1)
  rejects_unread : ∀ unknown failing, row.find? (fun cell => !schema.maps cell) = some unknown →
    (row.takeWhile schema.maps).find? schema.refuses = some failing →
      schema.hydrate type .reject row =
        .error (.parse schema.table.text failing.1 Cast.failureMessage)
  unread : ∀ failing, row.find? schema.refuses = some failing →
    schema.hydrate type .ignore row =
      .error (.parse schema.table.text failing.1 Cast.failureMessage)
  read : row.find? schema.refuses = none →
    ∃ members, schema.Assembles row members ∧
      schema.hydrate type .ignore row =
        match type.ofJson (.object members) with
        | .ok record => .ok record
        | .error cause => .error (.serialization (.hydration schema.table.text cause))

theorem answers (schema : Schema) (type : RecordType ρ) (row : Row) :
    schema.Answers type row where
  blind := hydrate_filter type row
  agree := hydrate_of_maps
  rejects unknown hunknown hread := hydrate_of_fault (by rw [findSome?_reject hunknown, hread]; rfl)
  rejects_unread unknown failing hunknown hfailing :=
    hydrate_of_fault (by rw [findSome?_reject hunknown, hfailing]; rfl)
  unread failing hfailing :=
    hydrate_of_fault (by rw [findSome?_cellFault? (.inl rfl), hfailing]; rfl)
  read hread := by
    have hfault : row.findSome? (schema.cellFault? .ignore) = none := by
      rw [findSome?_cellFault? (.inl rfl), hread]
      rfl
    exact ⟨_, assembles_of_no_fault hfault, hydrate_of_no_fault hfault⟩

theorem assembles_of_hydrate {name : String} {record : Json}
    (h : schema.hydrate (.raw name) unmapped row = .ok record) :
    ∃ members, record = .object members ∧ schema.Assembles row members := by
  cases hfault : row.findSome? (schema.cellFault? unmapped) with
  | some fault =>
    rw [hydrate_of_fault hfault] at h
    cases h
  | none =>
    rw [hydrate_of_no_fault hfault] at h
    cases h
    exact ⟨_, rfl, assembles_of_no_fault hfault⟩

/-- A row becomes a record only of the columns that are mapped, and only when all of them are read;
the first that is not, or that is refused, is the answer. Taken as it is, the record has the members
that the row makes up and no other. -/
theorem hydrate_closed (schema : Schema) (row : Row) :
    (∀ (ρ : Type) (type : RecordType ρ), schema.Answers type row) ∧
      ∀ (name : String) (unmapped : UnmappedColumns) (record : Json),
        schema.hydrate (.raw name) unmapped row = .ok record →
          ∃ members, record = .object members ∧ schema.Assembles row members :=
  ⟨fun _ type => answers schema type row, fun _ _ _ => assembles_of_hydrate⟩

def labels : Schema where
  table := ⟨"Labels", by decide⟩
  columns := [
    .ofDeclaration ⟨"badge", by decide⟩ (.ofAttributes [.primary, .typed .int]),
    .ofDeclaration ⟨"caption", by decide⟩ (.ofAttributes [.member "name", .typed .text]),
    .ofDeclaration ⟨"alias", by decide⟩ (.ofAttributes [.member "name", .typed .text])]
  distinct := by decide

theorem hydrate_closed_labels :
    labels.hydrate (.raw "Label") .reject
        [("caption", .string "a"), ("extra", .null), ("badge", .null)] =
        .error (.unmappedColumn "Labels" "extra") ∧
      labels.hydrate (.raw "Label") .reject
        [("caption", .string "a"), ("badge", .null), ("extra", .null)] =
        .error (.parse "Labels" "badge" Cast.failureMessage) ∧
      labels.hydrate (.raw "Label") .ignore
        [("caption", .string "a"), ("extra", .null), ("alias", .null)] =
        .ok (.object [("name", .null)]) := by
  refine ⟨?_, ?_, ?_⟩
  · exact ((hydrate_closed labels _).1 Json (.raw "Label")).rejects ("extra", .null) rfl rfl
  · exact ((hydrate_closed labels _).1 Json (.raw "Label")).rejects_unread ("extra", .null)
      ("badge", .null) rfl rfl
  · rw [((hydrate_closed labels _).1 Json (.raw "Label")).blind]
    rfl

end Schema

end RecordMapper
