import RecordMapper.Connection.Scripted
import RecordMapper.Proofs.Manager.Save
import RecordMapper.Proofs.RowImage.Coherence

/-!
A record saved again. The first save inserts the row and gives the record its number; the second
finds the row by this number and updates it. Both write the same columns with the same values, as
long as the member of the number is held by no other column.
-/

namespace RecordMapper

namespace Snapshot

variable {snapshot : Snapshot} {member other : String} {value : Json}

theorem get?_set (snapshot : Snapshot) (member : String) (value : Json) (sought : String) :
    (snapshot.set member value).get? sought =
      if member = sought then some value else snapshot.get? sought :=
  snapshot.members.get?_insert member value sought

theorem value?_set_of_ne (h : other ≠ member) :
    (snapshot.set member value).value? other = snapshot.value? other := by
  rw [value?, value?, get?_set, if_neg h.symm]

theorem isSet_set_self (h : value.isNull = false) :
    (snapshot.set member value).isSet member = true :=
  isSet_iff.2 ⟨value, by rw [get?_set, if_pos rfl], h⟩

end Snapshot

namespace RowImage

variable {image : RowImage} {column other : Column} {value : Json}

def set (image : RowImage) (member : String) (value : Json) : RowImage :=
  { image with snapshot := image.snapshot.set member value }

theorem writes_set_of_ne (h : other.member ≠ column.member) :
    (image.set column.member value).writes other = image.writes other := by
  rw [writes, writes, Snapshot.isSet, Snapshot.isSet, set, Snapshot.value?_set_of_ne h]

theorem columnValue_set_of_ne (h : other.member ≠ column.member) :
    (image.set column.member value).columnValue other = image.columnValue other := by
  rw [columnValue, columnValue, set, Snapshot.value?_set_of_ne h]

theorem not_writes_key (hkey : image.schema.keyColumns = [column])
    (hunset : image.snapshot.isSet column.member = false) : image.writes column = false := by
  have hcolumn : column ∈ image.schema.keyColumns := by simp [hkey]
  rw [writes, hunset, column.not_nullable_of_primary (List.mem_filter.1 hcolumn).2]
  rfl

theorem updatedColumns_set (hkey : image.schema.keyColumns = [column])
    (hunset : image.snapshot.isSet column.member = false)
    (hmembers : ∀ other ∈ image.schema.columns, other ≠ column → other.member ≠ column.member) :
    (image.set column.member value).updatedColumns = image.insertedColumns := by
  apply List.filter_congr
  intro other hother
  cases hprimary : other.primary with
  | true =>
    have hmem : other ∈ image.schema.keyColumns := List.mem_filter.2 ⟨hother, hprimary⟩
    rw [hkey] at hmem
    obtain rfl := List.mem_singleton.1 hmem
    rw [not_writes_key hkey hunset]
    rfl
  | false =>
    have hcolumn : column ∈ image.schema.keyColumns := by simp [hkey]
    have hne : other ≠ column := by
      rintro rfl
      rw [(List.mem_filter.1 hcolumn).2] at hprimary
      cases hprimary
    rw [writes_set_of_ne (hmembers other hother hne)]
    rfl

theorem bindings_set (hkey : image.schema.keyColumns = [column])
    (hunset : image.snapshot.isSet column.member = false)
    (hmembers : ∀ other ∈ image.schema.columns, other ≠ column → other.member ≠ column.member) :
    ((image.set column.member value).account .update).written =
      (image.account .insert).written := by
  change bindings _ _ = bindings _ _
  rw [updatedColumns_set hkey hunset hmembers]
  apply List.map_congr_left
  intro other hother
  have hne : other ≠ column := by
    rintro rfl
    have hwrites := (List.mem_filter.1 hother).2
    rw [not_writes_key hkey hunset] at hwrites
    cases hwrites
  rw [columnValue_set_of_ne (hmembers other (mem_columns_of_inserted hother) hne)]

/-- A column outside the key allows null or is set. -/
def SetsColumn (image : RowImage) : Prop :=
  ∃ other ∈ image.schema.columns, other.primary = false ∧
    (other.nullable = true ∨ image.snapshot.isSet other.member = true)

theorem setsColumn_iff : image.SetsColumn ↔ image.updatedColumns ≠ [] := by
  constructor
  · rintro ⟨other, hother, hprimary, hwrites⟩
    have hupdated : other ∈ image.updatedColumns := by
      refine List.mem_filter.2 ⟨hother, ?_⟩
      rw [hprimary, (image.writes_iff other).2 hwrites]
      rfl
    exact List.ne_nil_of_mem hupdated
  · intro hne
    obtain ⟨other, hupdated⟩ := List.exists_mem_of_ne_nil _ hne
    obtain ⟨hother, htaken⟩ := List.mem_filter.1 hupdated
    obtain ⟨hprimary, hwrites⟩ := Bool.and_eq_true_iff.1 htaken
    exact ⟨other, hother, by simpa using hprimary, (image.writes_iff other).1 hwrites⟩

theorem key_account_set (hkey : image.schema.keyColumns = [column]) :
    ((image.set column.member value).account .update).key = [(column.name, .ofJson value)] := by
  change bindings image.schema.keyColumns (image.set column.member value).keyValue = _
  have hvalue : (image.set column.member value).keyValue column = .ofJson value := by
    rw [keyValue, set, Snapshot.get?_set, if_pos rfl]
  rw [hkey, bindings, List.map_singleton, hvalue]

end RowImage

namespace Manager

variable {σ ρ : Type} {manager : Manager σ} {registry : Registry} {type : RecordType ρ} {record : ρ}
  {schema : Schema} {snapshot : Snapshot} {session left : Session σ}

theorem prepare_stored (hschema : registry.lookup type.name = .ok schema)
    (hsnapshot : type.snapshot record = .ok snapshot) (hset : snapshot.KeySet schema) :
    prepare registry type (.persisted record) =
      (RowImage.mk schema snapshot).update.map fun statement => ⟨schema, snapshot, statement⟩ :=
  prepare_of_hasKey hschema hsnapshot (Snapshot.hasKey_of_set hset)

theorem save_stored_of_ok (hschema : registry.lookup type.name = .ok schema)
    (hsnapshot : type.snapshot record = .ok snapshot) (hset : snapshot.KeySet schema)
    {statement : Statement} (hupdate : (RowImage.mk schema snapshot).update = .ok statement) :
    ((manager.save registry type (.persisted record)).runOn session).2.calls =
      session.calls ++ [.execute statement] := by
  have hprepare := prepare_stored hschema hsnapshot hset
  rw [hupdate] at hprepare
  refine ((manager.saveEnds registry type (.persisted record) session).calls hprepare).2 ?_
  rintro ⟨column, hnot, -⟩
  exact hnot ⟨rfl, hset⟩

theorem save_stored_of_error (hschema : registry.lookup type.name = .ok schema)
    (hsnapshot : type.snapshot record = .ok snapshot) (hset : snapshot.KeySet schema)
    {fault : Fault} (hupdate : (RowImage.mk schema snapshot).update = .error fault) :
    (manager.save registry type (.persisted record)).runOn session = (.error fault, session) := by
  have hprepare := prepare_stored hschema hsnapshot hset
  rw [hupdate] at hprepare
  obtain ⟨hresult, hleft⟩ :=
    (manager.saveEnds registry type (.persisted record) session).of_error hprepare
  exact Prod.ext hresult hleft

theorem save_unnumbered {column : Column} {identity : SqlValue} {saved : Tracked ρ}
    (hschema : registry.lookup type.name = .ok schema)
    (hsnapshot : type.snapshot record = .ok snapshot)
    (hkey : schema.keyColumns = [column]) (hauto : column.autoIncrements = true)
    (hunset : snapshot.isSet column.member = false)
    (hsave : (manager.save registry type (.new record)).runOn session = (.ok saved, left))
    (hidentity : manager.identityAnswer session (RowImage.mk schema snapshot).insert =
      .ok (some identity)) :
    left.calls =
        session.calls ++ [.execute (RowImage.mk schema snapshot).insert, .lastIdentity] ∧
      saved.state = .persisted ∧
      ∃ value, column.parse identity.toJson = some value ∧
        type.assign record column.member value = .ok saved.record := by
  have hkeyUnset : snapshot.KeyUnset schema := by
    intro other hother
    rw [hkey] at hother
    rw [List.mem_singleton.1 hother, hunset]
  have hprepare : prepare registry type (.new record) =
      .ok ⟨schema, snapshot, (RowImage.mk schema snapshot).insert⟩ :=
    prepare_of_hasKey hschema hsnapshot (Snapshot.hasKey_of_unset hkeyUnset)
  have ends := manager.saveEnds registry type (.new record) session
  rw [hsave] at ends
  obtain ⟨hanswer, -⟩ := (ends.isOk_iff hprepare).1 ⟨saved, rfl⟩
  have hasks : Preparation.Asks ⟨schema, snapshot, (RowImage.mk schema snapshot).insert⟩ manager
      (Tracked.new record).state session column :=
    Preparation.asks_iff.2 ⟨hanswer, hkey, hauto, hunset⟩
  obtain ⟨hstate, hnumber, -⟩ := ends.saved hprepare
  exact ⟨(ends.calls hprepare).1 ⟨column, hasks⟩, hstate, hnumber column identity hasks hidentity⟩

/-- What is known of a record once its row is numbered, and of saving it again over any session. -/
structure UpdatesNext (manager : Manager σ) (registry : Registry) (name : String)
    (image : RowImage) (column : Column) (value : Json) (saved : Tracked Json) : Prop where
  saved_eq : saved = .persisted (image.set column.member value).snapshot.toJson
  get?_eq : ∀ member, (image.set column.member value).snapshot.get? member =
    if column.member = member then some value else image.snapshot.get? member
  keyed : (image.set column.member value).snapshot.hasKey image.schema = .ok true
  updates : (image.set column.member value).SetsColumn → ∀ later : Session σ, ∃ updated,
    ((manager.save registry (.raw name) saved).runOn later).2.calls =
        later.calls ++ [.execute updated] ∧
      StatementKind.ofSql updated.sql = .update ∧
      Account.Reads ⟨image.schema.table, ((image.set column.member value).account .update).written,
        [(column.name, .ofJson value)]⟩ .update updated
  refused : ¬ (image.set column.member value).SetsColumn → ∀ later : Session σ,
    (manager.save registry (.raw name) saved).runOn later =
      (.error (.validation (.nothingToSet image.schema.table.text)), later)
  written_eq :
    (∀ other ∈ image.schema.columns, other ≠ column → other.member ≠ column.member) →
      ((image.set column.member value).account .update).written = (image.account .insert).written

theorem updatesNext {name : String} {image : RowImage} {column : Column} {value : Json}
    (hschema : registry.lookup name = .ok image.schema)
    (hkey : image.schema.keyColumns = [column])
    (hunset : image.snapshot.isSet column.member = false) (hvalue : value.isNull = false) :
    UpdatesNext manager registry name image column value
      (.persisted (image.set column.member value).snapshot.toJson) := by
  have hset : (image.set column.member value).snapshot.KeySet image.schema := by
    refine ⟨by simp [hkey], fun other hother => ?_⟩
    rw [hkey] at hother
    rw [List.mem_singleton.1 hother]
    exact Snapshot.isSet_set_self hvalue
  refine ⟨rfl, image.snapshot.get?_set _ _, Snapshot.hasKey_of_set hset, ?_, ?_,
    RowImage.bindings_set hkey hunset⟩
  · intro hsets later
    have hupdate := (image.set column.member value).update_eq_ok_iff.2
      ⟨by simp [RowImage.set, hkey], RowImage.setsColumn_iff.1 hsets, rfl⟩
    refine ⟨_, save_stored_of_ok hschema rfl hset hupdate,
      (image.set column.member value).kind_update hupdate, ?_⟩
    have hreads : ((image.set column.member value).account .update).Reads .update _ :=
      RowImage.statement_eq_ok_iff.1 hupdate
    rw [← RowImage.key_account_set hkey]
    exact hreads
  · intro hsets later
    apply save_stored_of_error hschema rfl hset
    apply (image.set column.member value).update_of_nothing_set
    · simp [RowImage.set, hkey]
    · exact Decidable.byContradiction fun hcolumns => hsets (RowImage.setsColumn_iff.2 hcolumns)

/-- A new record whose row the database numbers is inserted by its first save, and takes the number.
A later save of it updates the row with this number; it writes what the INSERT wrote, unless another
column holds the member of the number too. -/
theorem save_then_updates {name : String} {record : Json} {column : Column} {identity : SqlValue}
    {value : Json} {saved : Tracked Json}
    (hschema : registry.lookup name = .ok schema)
    (hkey : schema.keyColumns = [column]) (hauto : column.autoIncrements = true)
    (hsnapshot : (RecordType.raw name).snapshot record = .ok snapshot)
    (hunset : snapshot.isSet column.member = false)
    (hsave : (manager.save registry (.raw name) (.new record)).runOn session = (.ok saved, left))
    (hidentity : manager.identityAnswer session (RowImage.mk schema snapshot).insert =
      .ok (some identity))
    (hparse : column.parse identity.toJson = some value) (hvalue : value.isNull = false) :
    record = snapshot.toJson ∧
      left.calls =
        session.calls ++ [.execute (RowImage.mk schema snapshot).insert, .lastIdentity] ∧
      Account.Reads ⟨schema.table, ((RowImage.mk schema snapshot).account .insert).written, []⟩
        .insert (RowImage.mk schema snapshot).insert ∧
      UpdatesNext manager registry name ⟨schema, snapshot⟩ column value saved := by
  have hregistered : registry.lookup (RecordType.raw name).name = .ok schema := hschema
  obtain ⟨hcalls, hstate, given, hgiven, hassign⟩ :=
    save_unnumbered hregistered hsnapshot hkey hauto hunset hsave hidentity
  obtain rfl : value = given := Option.some.inj (hparse.symm.trans hgiven)
  have hrecord : saved.record = (snapshot.set column.member value).toJson := by
    rw [RecordType.assign, hsnapshot] at hassign
    exact (Except.ok.inj hassign).symm
  have hsaved : saved = .persisted (snapshot.set column.member value).toJson := by
    obtain ⟨savedRecord, state⟩ := saved
    cases hstate
    cases hrecord
    rfl
  have hreads : ((RowImage.mk schema snapshot).account .insert).Reads .insert
      (RowImage.mk schema snapshot).insert :=
    RowImage.statement_eq_ok_iff.1 (RowImage.statement_insert _)
  refine ⟨?_, hcalls, hreads, ?_⟩
  · cases record with
    | object members =>
      cases hsnapshot
      rfl
    | null | bool _ | number _ | string _ | array _ => cases hsnapshot
  · rw [hsaved]
    exact updatesNext hschema hkey hunset hvalue

def noteSerial : Column :=
  .ofDeclaration ⟨"serial", by decide⟩ (.ofAttributes [.primary, .autoIncrement, .typed .int])

def notes : Schema where
  table := ⟨"Notes", by decide⟩
  columns := [noteSerial, .ofDeclaration ⟨"topic", by decide⟩ (.ofAttributes [.typed .text])]
  distinct := by decide

theorem save_then_updates_note :
    UpdatesNext ⟨Connection.scripted, .standard⟩ [("Note", notes)] "Note"
        ⟨notes, ⟨[("topic", .string "a")]⟩⟩ noteSerial (.number (.integer 7 (by decide)))
        (.persisted
          (.object [("serial", .number (.integer 7 (by decide))), ("topic", .string "a")])) ∧
      ((Manager.save ⟨Connection.scripted, .standard⟩ [("Note", notes)] (.raw "Note")
        (.persisted
          (.object [("serial", .number (.integer 7 (by decide))), ("topic", .string "a")]))).runOn
        ⟨.empty, []⟩).2.calls =
        [.execute ⟨"UPDATE Notes SET topic = ? WHERE serial = ?", [.text "a", .int 7]⟩] := by
  have hfirst : (Manager.save ⟨Connection.scripted, .standard⟩ [("Note", notes)] (.raw "Note")
      (.new (.object [("topic", .string "a")]))).runOn
        ⟨{ Script.empty with identity := .ok (some (.int 7)) }, []⟩ =
      (.ok (.persisted
        (.object [("serial", .number (.integer 7 (by decide))), ("topic", .string "a")])), _) := rfl
  refine ⟨?_, rfl⟩
  exact (save_then_updates rfl rfl rfl rfl rfl hfirst rfl rfl rfl).2.2.2

end Manager

end RecordMapper
