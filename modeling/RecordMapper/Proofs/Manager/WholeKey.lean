import RecordMapper.Proofs.Manager.Save
import RecordMapper.Proofs.RowImage.Key

/-!
No row is updated or deleted but by its whole key. Whatever is saved and deleted over a connection,
an UPDATE or DELETE that is sent is sent for a stored record whose key is set, and looks the row up by
every column of the key and by values that are not null. A key that is set in part, and a deletion
that is refused, never reach the connection.
-/

namespace RecordMapper

namespace RowImage

variable {image : RowImage}

/-- An UPDATE or DELETE of the row of a stored record, which is looked up by its whole key. -/
structure BoundToKey (image : RowImage) (state : RecordState) (statement : Statement) : Prop where
  persisted : state = .persisted
  hasKey : image.snapshot.hasKey image.schema = .ok true
  key : image.schema.keyColumns ≠ []
  text : (StatementKind.ofSql statement.sql = .update ∧ statement =
      ⟨image.updateText, image.updatedColumns.map image.columnValue ++ image.keyValues⟩) ∨
    (StatementKind.ofSql statement.sql = .delete ∧
      statement = ⟨image.deleteText, image.keyValues⟩)
  values : ∀ column ∈ image.schema.keyColumns, ∃ value,
    image.snapshot.get? column.member = some value ∧
      image.keyValue column = .ofJson value ∧ image.keyValue column ≠ .null

theorem BoundToKey.of_keySet {state : RecordState} {statement : Statement}
    (hstate : state = .persisted) (hset : image.snapshot.KeySet image.schema)
    (hstatement : image.update = .ok statement ∨ image.delete = .ok statement) :
    image.BoundToKey state statement where
  persisted := hstate
  hasKey := Snapshot.hasKey_of_set hset
  key := hset.1
  text := by
    cases hstatement with
    | inl hupdate =>
      exact .inl ⟨image.kind_update hupdate, (image.update_eq_ok_iff.1 hupdate).2.2⟩
    | inr hdelete =>
      exact .inr ⟨image.kind_delete hdelete, (image.delete_eq_ok_iff.1 hdelete).2⟩
  values := fun column hcolumn => keyValue_of_isSet (hset.2 column hcolumn)

end RowImage

def Call.statement? : Call → Option Statement
  | .query statement => some statement
  | .execute statement => some statement
  | .lastIdentity => none

namespace Manager

variable {σ ρ : Type} {manager : Manager σ} {registry : Registry} {type : RecordType ρ}
  {tracked : Tracked ρ} {session : Session σ}

theorem deletion_of_set {schema : Schema} {snapshot : Snapshot} {state : RecordState}
    (hset : snapshot.KeySet schema) (hstate : state = .persisted) :
    deletion schema snapshot state = (RowImage.mk schema snapshot).delete := by
  unfold deletion
  rw [Snapshot.hasKey_of_set hset, hstate]
  rfl

theorem deletion_of_partlySet {schema : Schema} {snapshot : Snapshot} {state : RecordState}
    (h : snapshot.KeyPartlySet schema) :
    deletion schema snapshot state = .error (.partialKey schema.table.text) := by
  unfold deletion
  rw [Snapshot.hasKey_of_partlySet h]
  rfl

theorem deletion_of_unset {schema : Schema} {snapshot : Snapshot} {state : RecordState}
    (h : snapshot.KeyUnset schema) :
    deletion schema snapshot state = .error (.notPersisted schema.table.text) := by
  unfold deletion
  rw [Snapshot.hasKey_of_unset h]
  rfl

theorem deletion_of_new {schema : Schema} {snapshot : Snapshot}
    (h : ¬ snapshot.KeyPartlySet schema) :
    deletion schema snapshot .new = .error (.notPersisted schema.table.text) := by
  rcases snapshot.key_cases schema with hset | hunset | hpartly
  · unfold deletion
    rw [Snapshot.hasKey_of_set hset]
    rfl
  · exact deletion_of_unset hunset
  · exact absurd hpartly h

theorem keySet_of_deletion {schema : Schema} {snapshot : Snapshot} {state : RecordState}
    {statement : Statement} (h : deletion schema snapshot state = .ok statement) :
    state = .persisted ∧ snapshot.KeySet schema ∧
      (RowImage.mk schema snapshot).delete = .ok statement := by
  rcases snapshot.key_cases schema with hset | hunset | hpartly
  · cases state with
    | new =>
      rw [deletion_of_new hset.not_partlySet] at h
      cases h
    | persisted => exact ⟨rfl, hset, (deletion_of_set hset rfl).symm.trans h⟩
  · rw [deletion_of_unset hunset] at h
    cases h
  · rw [deletion_of_partlySet hpartly] at h
    cases h

inductive Demand where
  | save
  | delete
deriving DecidableEq

structure Request where
  demand : Demand
  {Record : Type}
  type : RecordType Record
  tracked : Tracked Record

def Request.image (registry : Registry) (request : Request) : Except Fault RowImage := do
  let schema ← registry.lookup request.type.name
  let snapshot ← request.type.snapshot request.tracked.record
  return ⟨schema, snapshot⟩

def run (manager : Manager σ) (registry : Registry) (session : Session σ) (request : Request) :
    Except Fault Unit × Session σ :=
  match request.demand with
  | .save =>
    let (result, left) := (manager.save registry request.type request.tracked).runOn session
    (result.map fun _ => (), left)
  | .delete => (manager.delete registry request.type request.tracked).runOn session

def serve (manager : Manager σ) (registry : Registry) (session : Session σ) :
    List Request → Session σ
  | [] => session
  | request :: requests => manager.serve registry (manager.run registry session request).2 requests

/-- What is sent for a request is bound to the whole key of its row, if it updates or deletes one. -/
def SendsByKey (registry : Registry) (request : Request) (calls : List Call) : Prop :=
  ∀ statement ∈ calls.filterMap Call.statement?,
    StatementKind.ofSql statement.sql = .update ∨ StatementKind.ofSql statement.sql = .delete →
      ∃ image, request.image registry = .ok image ∧
        image.BoundToKey request.tracked.state statement

theorem Request.image_eq_ok {request : Request} {schema : Schema} {snapshot : Snapshot}
    (hschema : registry.lookup request.type.name = .ok schema)
    (hsnapshot : request.type.snapshot request.tracked.record = .ok snapshot) :
    request.image registry = .ok ⟨schema, snapshot⟩ := by
  unfold image
  rw [hschema, hsnapshot]
  rfl

theorem Request.of_image {request : Request} {image : RowImage}
    (h : request.image registry = .ok image) :
    registry.lookup request.type.name = .ok image.schema ∧
      request.type.snapshot request.tracked.record = .ok image.snapshot := by
  obtain ⟨schema, hschema, hrest⟩ := Outcome.bind_eq_ok_iff.1 h
  obtain ⟨snapshot, hsnapshot, hrest⟩ := Outcome.bind_eq_ok_iff.1 hrest
  cases hrest
  exact ⟨hschema, hsnapshot⟩

variable {request : Request}

theorem save_sendsByKey :
    ∃ calls, ((manager.save registry request.type request.tracked).runOn session).2.calls =
        session.calls ++ calls ∧ SendsByKey registry request calls := by
  have ends := manager.saveEnds registry request.type request.tracked session
  cases hprepare : prepare registry request.type request.tracked with
  | error fault =>
    refine ⟨[], ?_, by simp [SendsByKey]⟩
    rw [(ends.of_error hprepare).2, List.append_nil]
  | ok preparation =>
    obtain ⟨hschema, hsnapshot, hstatement⟩ := of_prepare hprepare
    have hkey : SendsByKey registry request [.execute preparation.statement] := by
      intro statement hsent hkind
      cases List.mem_singleton.1 hsent
      refine ⟨_, Request.image_eq_ok hschema hsnapshot, ?_⟩
      rcases hstatement with ⟨hupdates, hupdate⟩ | ⟨-, hinsert⟩
      · exact .of_keySet hupdates.1 hupdates.2 (.inl hupdate)
      · rw [hinsert, RowImage.kind_insert] at hkind
        simp at hkind
    obtain ⟨hasked, hsent⟩ := ends.calls hprepare
    by_cases hasks : ∃ column, preparation.Asks manager request.tracked.state session column
    · exact ⟨_, hasked hasks, hkey⟩
    · exact ⟨_, hsent hasks, hkey⟩

theorem runOn_delete :
    (manager.delete registry request.type request.tracked).runOn session =
      match request.image registry with
      | .error fault => (.error fault, session)
      | .ok image =>
        match deletion image.schema image.snapshot request.tracked.state with
        | .error fault => (.error fault, session)
        | .ok statement =>
          let (result, left) := (manager.execute statement).runOn session
          (result.map fun _ => (), left) := by
  unfold delete Request.image
  simp only [Action.runOn_bind, Action.runOn_ofExcept]
  cases registry.lookup request.type.name with
  | error fault => rfl
  | ok schema =>
    simp only [bind, Except.bind]
    cases request.type.snapshot request.tracked.record with
    | error fault => rfl
    | ok snapshot =>
      dsimp only [pure, Except.pure]
      cases deletion schema snapshot request.tracked.state with
      | error fault => rfl
      | ok statement =>
        dsimp only
        rcases (manager.execute statement).runOn session with ⟨_ | _, _⟩ <;> rfl

theorem delete_sendsByKey :
    ∃ calls, ((manager.delete registry request.type request.tracked).runOn session).2.calls =
        session.calls ++ calls ∧ SendsByKey registry request calls := by
  have hnothing : SendsByKey registry request [] := by simp [SendsByKey]
  rw [runOn_delete]
  cases himage : request.image registry with
  | error fault => exact ⟨[], (List.append_nil _).symm, hnothing⟩
  | ok image =>
    dsimp only
    cases hdeletion : deletion image.schema image.snapshot request.tracked.state with
    | error fault => exact ⟨[], (List.append_nil _).symm, hnothing⟩
    | ok statement =>
      obtain ⟨hstate, hset, hdelete⟩ := keySet_of_deletion hdeletion
      obtain ⟨-, -, hcalls⟩ := manager.runOn_execute session statement
      refine ⟨[.execute statement], hcalls, ?_⟩
      intro sent hsent hkind
      cases List.mem_singleton.1 hsent
      exact ⟨image, himage, .of_keySet hstate hset (.inr hdelete)⟩

theorem run_of_partlySet {image : RowImage} (himage : request.image registry = .ok image)
    (h : image.snapshot.KeyPartlySet image.schema) :
    manager.run registry session request =
      (.error (.partialKey image.schema.table.text), session) := by
  unfold run
  cases request.demand with
  | save =>
    obtain ⟨hschema, hsnapshot⟩ := Request.of_image himage
    have hprepare : prepare registry request.type request.tracked =
        .error (.partialKey image.schema.table.text) := by
      rw [prepare, hschema, hsnapshot]
      change image.snapshot.hasKey image.schema >>= _ = _
      rw [Snapshot.hasKey_of_partlySet h]
      rfl
    have ends := manager.saveEnds registry request.type request.tracked session
    obtain ⟨hresult, hleft⟩ := ends.of_error hprepare
    dsimp only
    rw [hresult, hleft]
    rfl
  | delete =>
    dsimp only
    rw [runOn_delete, himage]
    dsimp only
    rw [deletion_of_partlySet h]

theorem run_of_refused {image : RowImage} (himage : request.image registry = .ok image)
    (hdelete : request.demand = .delete) (hpartly : ¬ image.snapshot.KeyPartlySet image.schema)
    (h : image.schema.keyColumns = [] ∨ image.snapshot.KeyUnset image.schema ∨
      request.tracked.state = .new) :
    manager.run registry session request =
      (.error (.notPersisted image.schema.table.text), session) := by
  have hrefused : deletion image.schema image.snapshot request.tracked.state =
      .error (.notPersisted image.schema.table.text) := by
    rcases h with hkey | hunset | hnew
    · apply deletion_of_unset
      intro column hcolumn
      rw [hkey] at hcolumn
      cases hcolumn
    · exact deletion_of_unset hunset
    · rw [hnew]
      exact deletion_of_new hpartly
  unfold run
  rw [hdelete]
  dsimp only
  rw [runOn_delete, himage]
  dsimp only
  rw [hrefused]

variable (manager registry session request) in
theorem run_sendsByKey :
    ∃ calls, (manager.run registry session request).2.calls = session.calls ++ calls ∧
      SendsByKey registry request calls := by
  unfold run
  cases request.demand with
  | save => exact save_sendsByKey
  | delete => exact delete_sendsByKey

theorem serve_sendsByKey (requests : List Request) :
    ∃ sent : List (Request × List Call), sent.map Prod.fst = requests ∧
      (manager.serve registry session requests).calls = session.calls ++ sent.flatMap Prod.snd ∧
      ∀ entry ∈ sent, SendsByKey registry entry.1 entry.2 := by
  induction requests generalizing session with
  | nil => exact ⟨[], rfl, (List.append_nil _).symm, by simp⟩
  | cons request requests ih =>
    obtain ⟨calls, hcalls, hkey⟩ := manager.run_sendsByKey registry session request
    obtain ⟨sent, hrequests, hsent, hall⟩ := @ih (manager.run registry session request).2
    refine ⟨(request, calls) :: sent, by simp [hrequests], ?_, ?_⟩
    · rw [serve, hsent, hcalls, List.flatMap_cons, List.append_assoc]
    · intro entry hentry
      rcases List.mem_cons.1 hentry with rfl | hlater
      · exact hkey
      · exact hall entry hlater

variable (manager registry) in
/-- No UPDATE or DELETE is sent but by a whole key, over any run of requests; and what lacks the key
that it needs is refused before anything is sent. -/
theorem keyed_or_refused :
    (∀ session requests, ∃ sent : List (Request × List Call),
      sent.map Prod.fst = requests ∧
      (manager.serve registry session requests).calls = session.calls ++ sent.flatMap Prod.snd ∧
      ∀ entry ∈ sent, SendsByKey registry entry.1 entry.2) ∧
    ∀ session request image, request.image registry = .ok image →
      (image.snapshot.KeyPartlySet image.schema →
        manager.run registry session request =
          (.error (.partialKey image.schema.table.text), session)) ∧
      (¬ image.snapshot.KeyPartlySet image.schema → request.demand = .delete →
        image.schema.keyColumns = [] ∨ image.snapshot.KeyUnset image.schema ∨
          request.tracked.state = .new →
        manager.run registry session request =
          (.error (.notPersisted image.schema.table.text), session)) := by
  refine ⟨fun _ requests => serve_sendsByKey requests, ?_⟩
  intro session request image himage
  exact ⟨run_of_partlySet himage, fun hpartly hdelete => run_of_refused himage hdelete hpartly⟩

end Manager

end RecordMapper
