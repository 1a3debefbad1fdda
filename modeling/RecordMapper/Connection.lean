import RecordMapper.Event
import RecordMapper.Fault
import RecordMapper.Record.Hydration
import RecordMapper.RowImage

/-!
Connections, and actions over them. A connection is what it answers to each call; an action runs
over a connection's state and leaves a trace of the calls that were made and the events that were
noted, in order.
-/

namespace RecordMapper

structure Connection (σ : Type) where
  query : Statement → σ → Except Fault (List Row) × σ
  /-- The number of rows that a statement changes. -/
  execute : Statement → σ → Except Fault Nat × σ
  /-- The number that the database gave to the last row, if it gave one. -/
  lastIdentity : σ → Except Fault (Option SqlValue) × σ

inductive Call where
  | query (statement : Statement)
  | execute (statement : Statement)
  | lastIdentity
deriving DecidableEq

inductive TraceEntry where
  | called (call : Call)
  | noted (event : Event)
deriving DecidableEq

structure Session (σ : Type) where
  connection : σ
  trace : List TraceEntry

def Session.calls {σ : Type} (session : Session σ) : List Call :=
  session.trace.filterMap fun
    | .called call => some call
    | .noted _ => none

def Session.events {σ : Type} (session : Session σ) : List Event :=
  session.trace.filterMap fun
    | .called _ => none
    | .noted event => some event

namespace Session

variable {σ : Type} (connection : σ) (trace : List TraceEntry)

theorem calls_noted (events : List Event) :
    calls ⟨connection, trace ++ events.map .noted⟩ = calls ⟨connection, trace⟩ := by
  simp [calls, List.filterMap_map]

theorem calls_called (call : Call) :
    calls ⟨connection, trace ++ [.called call]⟩ = calls ⟨connection, trace⟩ ++ [call] := by
  simp [calls]

end Session

abbrev Action (σ α : Type) := ExceptT Fault (StateM (Session σ)) α

namespace Action

variable {σ α : Type}

def runOn (action : Action σ α) (session : Session σ) : Except Fault α × Session σ :=
  (ExceptT.run action).run session

def ofExcept (result : Except Fault α) : Action σ α :=
  ExceptT.mk (pure result)

def note (events : List Event) : Action σ Unit :=
  ExceptT.mk fun session =>
    (.ok (), { session with trace := session.trace ++ events.map .noted })

/-- Makes a call, and leaves it behind whatever its answer. -/
def call (call : Call) (answer : σ → Except Fault α × σ) : Action σ α :=
  ExceptT.mk fun session =>
    let (result, state) := answer session.connection
    (result, ⟨state, session.trace ++ [.called call]⟩)

variable {β : Type} (session : Session σ)

@[simp] theorem runOn_pure (a : α) : (pure a : Action σ α).runOn session = (.ok a, session) := rfl

@[simp] theorem runOn_ofExcept (result : Except Fault α) :
    (ofExcept result).runOn session = (result, session) := rfl

@[simp] theorem runOn_note (events : List Event) :
    (note events).runOn session =
      (.ok (), { session with trace := session.trace ++ events.map .noted }) := rfl

@[simp] theorem runOn_call (c : Call) (answer : σ → Except Fault α × σ) :
    (call c answer).runOn session =
      ((answer session.connection).1,
        ⟨(answer session.connection).2, session.trace ++ [.called c]⟩) := rfl

theorem runOn_bind (action : Action σ α) (next : α → Action σ β) :
    (action >>= next).runOn session =
      match action.runOn session with
      | (.ok a, after) => (next a).runOn after
      | (.error fault, after) => (.error fault, after) := by
  unfold runOn
  rw [ExceptT.run_bind, StateT.run_bind]
  rcases (ExceptT.run action).run session with ⟨_ | _, _⟩ <;> rfl

end Action

namespace Connection

variable {σ : Type}

def rows (connection : Connection σ) (statement : Statement) : Action σ (List Row) :=
  .call (.query statement) (connection.query statement)

def affected (connection : Connection σ) (statement : Statement) : Action σ Nat :=
  .call (.execute statement) (connection.execute statement)

def identity (connection : Connection σ) : Action σ (Option SqlValue) :=
  .call .lastIdentity connection.lastIdentity

def runOperation (connection : Connection σ) (image : RowImage) (operation : RowOperation) :
    Action σ Nat := do
  .note (image.buildEvents operation)
  let statement ← .ofExcept (image.statement operation)
  connection.affected statement

end Connection

end RecordMapper
