import RecordMapper.Connection
import RecordMapper.Record.Tracked
import RecordMapper.RowImage
import RecordMapper.Schema.Registry

/-!
Saving and deleting records. What a save sends is planned from the record alone; the plan is then
carried out over the connection. A save that fails has no result, so that the record stays as it
was.
-/

namespace RecordMapper

/-- What saving a record comes to: one statement, the events noted while it is built, and the column
whose number is asked for afterwards. -/
structure SavePlan where
  statement : Statement
  events : List Event
  identity? : Option Column

/-- A stored record whose key is set is updated, any other is inserted. The number of the row is
asked for when the database numbers the key and the record left it unset. -/
def SavePlan.of (schema : Schema) (snapshot : Snapshot) (state : RecordState) :
    Except Fault SavePlan := do
  let image : RowImage := ⟨schema, snapshot⟩
  let keyed ← snapshot.hasKey schema
  let operation := if keyed && state == .persisted then RowOperation.update else .insert
  let statement ← image.statement operation
  return ⟨statement, image.buildEvents operation, if keyed then none else schema.identityColumn?⟩

namespace SavePlan

variable {schema : Schema} {snapshot : Snapshot} {keyed : Bool} {state : RecordState}

theorem of_error {fault : Fault} (h : snapshot.hasKey schema = .error fault) :
    SavePlan.of schema snapshot state = .error fault := by
  unfold SavePlan.of
  rw [h]
  rfl

theorem of_stored (h : snapshot.hasKey schema = .ok true) (hstate : state = .persisted) :
    SavePlan.of schema snapshot state =
      (RowImage.mk schema snapshot).update.map fun statement =>
        ⟨statement, (RowImage.mk schema snapshot).buildEvents .update, none⟩ := by
  unfold SavePlan.of
  rw [h, hstate]
  change (RowImage.mk schema snapshot).update >>= _ = _
  cases (RowImage.mk schema snapshot).update <;> rfl

theorem of_not_stored (h : snapshot.hasKey schema = .ok keyed)
    (hstored : (keyed && state == .persisted) = false) :
    SavePlan.of schema snapshot state =
      .ok ⟨(RowImage.mk schema snapshot).insert, (RowImage.mk schema snapshot).buildEvents .insert,
        if keyed then none else schema.identityColumn?⟩ := by
  unfold SavePlan.of
  rw [h]
  simp only [bind, Except.bind, hstored]
  rfl

end SavePlan

structure Manager (σ : Type) where
  connection : Connection σ
  config : Config

namespace Manager

variable {σ ρ : Type}

def logger (manager : Manager σ) : Logger :=
  .ofConfig manager.config

def execute (manager : Manager σ) (statement : Statement) : Action σ Nat := do
  .note (manager.logger.events statement)
  manager.connection.affected statement

def query (manager : Manager σ) (statement : Statement) : Action σ (List Row) := do
  .note (manager.logger.events statement)
  manager.connection.rows statement

def identified (type : RecordType ρ) (schema : Schema) (column : Column) (record : ρ)
    (identity : SqlValue) : Except Fault ρ := do
  let some value := column.parse identity.toJson
    | throw (.parse schema.table.text column.name.text Cast.failureMessage)
  type.assign record column.member value

def adoptIdentity (manager : Manager σ) (type : RecordType ρ) (schema : Schema) (column : Column)
    (record : ρ) : Action σ ρ := do
  match ← manager.connection.identity with
  | some identity => .ofExcept (identified type schema column record identity)
  | none =>
    .note [.noIdentity schema.table.text column.name.text]
    return record

/-- Notes what was noted while a statement was built, and has it carried out. -/
def send (manager : Manager σ) (events : List Event) (statement : Statement) : Action σ Nat := do
  .note events
  manager.execute statement

def perform (manager : Manager σ) (type : RecordType ρ) (schema : Schema) (record : ρ)
    (plan : SavePlan) : Action σ (Tracked ρ) := do
  let _ ← manager.send plan.events plan.statement
  match plan.identity? with
  | none => return .persisted record
  | some column => return .persisted (← manager.adoptIdentity type schema column record)

theorem runOn_perform (manager : Manager σ) (type : RecordType ρ) (schema : Schema) (record : ρ)
    (plan : SavePlan) (session : Session σ) :
    (manager.perform type schema record plan).runOn session =
      match (manager.send plan.events plan.statement).runOn session with
      | (.error fault, session) => (.error fault, session)
      | (.ok _, session) =>
        match plan.identity? with
        | none => (.ok (.persisted record), session)
        | some column =>
          match (manager.adoptIdentity type schema column record).runOn session with
          | (.ok record, session) => (.ok (.persisted record), session)
          | (.error fault, session) => (.error fault, session) := by
  unfold perform
  rw [Action.runOn_bind]
  rcases (manager.send plan.events plan.statement).runOn session with ⟨_ | _, session⟩
  · rfl
  · cases plan.identity? with
    | none => rfl
    | some column =>
      simp only [Action.runOn_bind]
      rcases (manager.adoptIdentity type schema column record).runOn session with
        ⟨_ | _, _⟩ <;> rfl

def save (manager : Manager σ) (registry : Registry) (type : RecordType ρ) (tracked : Tracked ρ) :
    Action σ (Tracked ρ) := do
  let schema ← .ofExcept (registry.lookup type.name)
  let snapshot ← .ofExcept (type.snapshot tracked.record)
  let plan ← .ofExcept (SavePlan.of schema snapshot tracked.state)
  manager.perform type schema tracked.record plan

def deletion (schema : Schema) (snapshot : Snapshot) (state : RecordState) :
    Except Fault Statement := do
  let keyed ← snapshot.hasKey schema
  if keyed && state == .persisted then (RowImage.mk schema snapshot).delete
  else throw (.notPersisted schema.table.text)

def delete (manager : Manager σ) (registry : Registry) (type : RecordType ρ) (tracked : Tracked ρ) :
    Action σ Unit := do
  let schema ← .ofExcept (registry.lookup type.name)
  let snapshot ← .ofExcept (type.snapshot tracked.record)
  let statement ← .ofExcept (deletion schema snapshot tracked.state)
  let _ ← manager.execute statement

end Manager

end RecordMapper
