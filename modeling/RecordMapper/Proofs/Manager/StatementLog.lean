import RecordMapper.Proofs.Manager.WholeKey
import RecordMapper.Proofs.Workspace.Written
import RecordMapper.Repository

/-!
The statement log of programs over one manager. With the log on, every statement is noted right
before it is handed to the connection, whatever the connection answers, and nothing else is noted
there. Without the log a program takes the same course: the calls and the answers are the same.
-/

namespace RecordMapper

variable {σ α β γ ρ : Type}

def Logger.entry (logger : Logger) (statement : Statement) : Event :=
  .statement logger.level (.ofSql statement.sql) statement.parameters.length
    (logger.clipSql statement.sql)

namespace TraceEntry

def logged? : TraceEntry → Option Event
  | .called _ => none
  | .noted event => if event.topic == "sql" then some event else none

def call? : TraceEntry → Option Call
  | .called call => some call
  | .noted _ => none

def statement? (entry : TraceEntry) : Option Statement :=
  entry.call?.bind Call.statement?

/-- A step, behind what the log notes of the statement that it hands over. -/
def announced (logger : Logger) (entry : TraceEntry) : List TraceEntry :=
  match entry.statement? with
  | some statement => [.noted (logger.entry statement), entry]
  | none => [entry]

variable (logger : Logger) {steps : List TraceEntry}

theorem statement?_called (call : Call) : statement? (.called call) = call.statement? := rfl

theorem logged?_entry (statement : Statement) :
    logged? (.noted (logger.entry statement)) = some (logger.entry statement) := rfl

theorem logged_announced (hquiet : ∀ entry ∈ steps, entry.logged? = none) :
    (steps.flatMap (announced logger)).filterMap logged? =
      (steps.filterMap statement?).map logger.entry := by
  induction steps with
  | nil => rfl
  | cons entry steps ih =>
    obtain ⟨hentry, hsteps⟩ := List.forall_mem_cons.1 hquiet
    rw [List.flatMap_cons, List.filterMap_append, ih hsteps, announced]
    cases hstatement : entry.statement? with
    | none => simp [hentry, hstatement]
    | some statement => simp [hentry, hstatement, logged?_entry]

theorem filterMap_announced {find : TraceEntry → Option β}
    (hfind : ∀ statement, find (.noted (logger.entry statement)) = none) :
    (steps.flatMap (announced logger)).filterMap find = steps.filterMap find := by
  induction steps with
  | nil => rfl
  | cons entry steps ih =>
    rw [List.flatMap_cons, List.filterMap_append, ih, announced]
    cases entry.statement? with
    | none => cases hfound : find entry <;> simp [hfound]
    | some statement => cases hfound : find entry <;> simp [hfound, hfind]

end TraceEntry

namespace Session

def log (session : Session σ) : List Event :=
  session.events.filter fun event => event.topic == "sql"

def sent (session : Session σ) : List Statement :=
  session.calls.filterMap Call.statement?

theorem log_eq (session : Session σ) : session.log = session.trace.filterMap TraceEntry.logged? := by
  unfold log events
  rw [List.filter_filterMap]
  congr 1
  funext entry
  cases entry <;> simp [TraceEntry.logged?, Option.filter]

theorem calls_eq (session : Session σ) :
    session.calls = session.trace.filterMap TraceEntry.call? := rfl

theorem sent_eq (session : Session σ) :
    session.sent = session.trace.filterMap TraceEntry.statement? := by
  rw [sent, calls_eq, List.filterMap_filterMap]
  rfl

end Session

def Action.proceed (next : α → Action σ β) :
    Except Fault α → Session σ → Except Fault β × Session σ
  | .ok a => (next a).runOn
  | .error fault => fun session => (.error fault, session)

theorem Action.runOn_bind_eq (action : Action σ α) (next : α → Action σ β) :
    (action >>= next).runOn = fun session =>
      proceed next (action.runOn session).1 (action.runOn session).2 := by
  funext session
  rw [runOn_bind]
  rcases action.runOn session with ⟨_ | _, _⟩ <;> rfl

/-- What a run comes to, whatever was traced before it: its result, the connection that it leaves
and the steps that it takes. -/
def Adds (run : Session σ → β × Session σ) (before : σ) (result : β) (after : σ)
    (steps : List TraceEntry) : Prop :=
  ∀ trace, run ⟨before, trace⟩ = (result, ⟨after, trace ++ steps⟩)

/-- Two runs that take the same course; the one announces the statements that it hands over, the
other notes nothing in the log. -/
def Logger.Announces (logger : Logger) (logged silent : Session σ → β × Session σ) : Prop :=
  ∀ before, ∃ result after steps, (∀ entry ∈ steps, entry.logged? = none) ∧
    Adds silent before result after steps ∧
    Adds logged before result after (steps.flatMap (TraceEntry.announced logger))

namespace Logger.Announces

variable {logger : Logger}

theorem andThen {logged silent : Session σ → β × Session σ}
    {next next' : β → Session σ → γ × Session σ} (h : logger.Announces logged silent)
    (hnext : ∀ b, logger.Announces (next b) (next' b)) :
    logger.Announces (fun session => next (logged session).1 (logged session).2)
      fun session => next' (silent session).1 (silent session).2 := by
  intro before
  obtain ⟨b, middle, steps, hquiet, hsilent, hlogged⟩ := h before
  obtain ⟨c, after, more, hquiet', hsilent', hlogged'⟩ := hnext b middle
  refine ⟨c, after, steps ++ more, List.forall_mem_append.2 ⟨hquiet, hquiet'⟩, ?_, ?_⟩
  · intro trace
    dsimp only
    rw [hsilent trace, hsilent' (trace ++ steps), List.append_assoc]
  · intro trace
    dsimp only
    rw [hlogged trace, hlogged' (trace ++ steps.flatMap _), List.append_assoc,
      List.flatMap_append]

theorem done (b : β) :
    logger.Announces (fun session : Session σ => (b, session)) fun session => (b, session) := by
  intro before
  refine ⟨b, before, [], by simp, ?_, ?_⟩ <;> intro trace <;> simp

theorem ofExcept (result : Except Fault α) :
    logger.Announces (Action.ofExcept result : Action σ α).runOn (Action.ofExcept result).runOn :=
  done result

theorem pure (a : α) :
    logger.Announces (Pure.pure a : Action σ α).runOn (Pure.pure a : Action σ α).runOn :=
  ofExcept (.ok a)

theorem note {events : List Event} (h : ∀ event ∈ events, event.topic ≠ "sql") :
    logger.Announces (Action.note events : Action σ Unit).runOn (Action.note events).runOn := by
  have hquiet : ∀ entry ∈ events.map TraceEntry.noted, entry.logged? = none := by
    rw [List.forall_mem_map]
    intro event hevent
    simp [TraceEntry.logged?, h event hevent]
  have hsame : (events.map TraceEntry.noted).flatMap (TraceEntry.announced logger) =
      events.map .noted := by
    rw [List.flatMap_map]
    exact List.map_eq_flatMap.symm
  intro before
  refine ⟨.ok (), before, events.map .noted, hquiet, fun _ => rfl, ?_⟩
  rw [hsame]
  exact fun _ => rfl

theorem bind {logged silent : Action σ α} {next next' : α → Action σ β}
    (h : logger.Announces logged.runOn silent.runOn)
    (hnext : ∀ a, logger.Announces (next a).runOn (next' a).runOn) :
    logger.Announces (logged >>= next).runOn (silent >>= next').runOn := by
  rw [Action.runOn_bind_eq, Action.runOn_bind_eq]
  apply h.andThen
  intro result
  cases result with
  | ok a => exact hnext a
  | error fault => exact done (Except.error fault)

theorem ofExcept_bind {result : Except Fault α} {next next' : α → Action σ β}
    (hnext : ∀ a, result = .ok a → logger.Announces (next a).runOn (next' a).runOn) :
    logger.Announces (Action.ofExcept result >>= next).runOn
      (Action.ofExcept result >>= next').runOn := by
  rw [Action.runOn_bind_eq, Action.runOn_bind_eq]
  cases result with
  | ok a => exact hnext a rfl
  | error fault => exact done (Except.error fault)

theorem call {call : Call} (hcall : call.statement? = none) (answer : σ → Except Fault α × σ) :
    logger.Announces (Action.call call answer).runOn (Action.call call answer).runOn := by
  intro before
  refine ⟨(answer before).1, (answer before).2, [.called call], ?_, fun _ => rfl, ?_⟩
  · simp [TraceEntry.logged?]
  · rw [List.flatMap_singleton, TraceEntry.announced, TraceEntry.statement?_called, hcall]
    exact fun _ => rfl

theorem handOver {call : Call} {statement : Statement} (hcall : call.statement? = some statement)
    (answer : σ → Except Fault α × σ) :
    logger.Announces
      (Action.note [logger.entry statement] >>= fun _ => Action.call call answer).runOn
      (Action.note [] >>= fun _ => Action.call call answer).runOn := by
  intro before
  refine ⟨(answer before).1, (answer before).2, [.called call], ?_, ?_, ?_⟩
  · simp [TraceEntry.logged?]
  · intro trace
    simp [Action.runOn_bind]
  · intro trace
    simp [Action.runOn_bind, TraceEntry.announced, TraceEntry.statement?_called, hcall]

end Logger.Announces

/-! What a manager does, with its log and without it. -/

/-- The manager with its log switched on or off. Every manager is one of the two. -/
def Manager.withLog (manager : Manager σ) (enabled : Bool) : Manager σ :=
  { manager with config := { manager.config with logStatements := enabled } }

theorem RowImage.topic_of_mem_castFailures {image : RowImage} {columns : List Column}
    {event : Event} (h : event ∈ image.castFailures columns) : event.topic ≠ "sql" := by
  unfold castFailures at h
  obtain ⟨column, -, hevent⟩ := List.mem_filterMap.1 h
  split at hevent
  · cases hevent
  · split at hevent
    · cases hevent
    · cases hevent
      simp [Event.topic]

theorem RowImage.topic_of_mem_buildEvents {image : RowImage} {operation : RowOperation}
    {event : Event} (h : event ∈ image.buildEvents operation) : event.topic ≠ "sql" := by
  unfold buildEvents at h
  split at h
  · exact topic_of_mem_castFailures h
  · split at h
    · exact topic_of_mem_castFailures h
    · cases h
  · cases h

theorem Schema.topic_of_mem_ignoredColumns {schema : Schema} {unmapped : UnmappedColumns}
    {row : Row} {event : Event} (h : event ∈ schema.ignoredColumns unmapped row) :
    event.topic ≠ "sql" := by
  induction row with
  | nil => cases h
  | cons column row ih =>
    unfold ignoredColumns at h
    split at h
    · cases h
    · rcases List.mem_cons.1 h with rfl | h
      · simp [Event.topic]
      · exact ih h
    · exact ih h

namespace Manager

variable (manager : Manager σ)

theorem announces_execute (statement : Statement) :
    manager.logger.Announces ((manager.withLog true).execute statement).runOn
      ((manager.withLog false).execute statement).runOn :=
  .handOver rfl (manager.connection.execute statement)

theorem announces_query (statement : Statement) :
    manager.logger.Announces ((manager.withLog true).query statement).runOn
      ((manager.withLog false).query statement).runOn :=
  .handOver rfl (manager.connection.query statement)

theorem announces_adoptIdentity (type : RecordType ρ) (schema : Schema) (column : Column)
    (record : ρ) :
    manager.logger.Announces
      ((manager.withLog true).adoptIdentity type schema column record).runOn
      ((manager.withLog false).adoptIdentity type schema column record).runOn := by
  unfold adoptIdentity
  apply Logger.Announces.bind
  · exact .call rfl manager.connection.lastIdentity
  · intro identity?
    cases identity? with
    | none =>
      apply Logger.Announces.bind
      · apply Logger.Announces.note
        simp [Event.topic]
      · exact fun _ => .pure record
    | some identity => exact .ofExcept _

theorem announces_perform (type : RecordType ρ) (schema : Schema) (record : ρ) {plan : SavePlan}
    (hevents : ∀ event ∈ plan.events, event.topic ≠ "sql") :
    manager.logger.Announces ((manager.withLog true).perform type schema record plan).runOn
      ((manager.withLog false).perform type schema record plan).runOn := by
  unfold perform
  apply Logger.Announces.bind
  · unfold send
    apply Logger.Announces.bind
    · exact .note hevents
    · exact fun _ => manager.announces_execute plan.statement
  · intro _
    cases plan.identity? with
    | none => exact .pure _
    | some column =>
      apply Logger.Announces.bind
      · exact manager.announces_adoptIdentity type schema column record
      · exact fun _ => .pure _

theorem topic_of_plan {schema : Schema} {snapshot : Snapshot} {state : RecordState}
    {plan : SavePlan} (h : SavePlan.of schema snapshot state = .ok plan) :
    ∀ event ∈ plan.events, event.topic ≠ "sql" := by
  obtain ⟨keyed, -, hrest⟩ := Outcome.bind_eq_ok_iff.1 h
  obtain ⟨statement, -, hrest⟩ := Outcome.bind_eq_ok_iff.1 hrest
  cases Except.ok.inj hrest
  exact fun _ => RowImage.topic_of_mem_buildEvents

theorem announces_save (registry : Registry) (type : RecordType ρ) (tracked : Tracked ρ) :
    manager.logger.Announces ((manager.withLog true).save registry type tracked).runOn
      ((manager.withLog false).save registry type tracked).runOn := by
  unfold save
  -- what fails before there is a plan fails without a step
  apply Logger.Announces.ofExcept_bind
  intro schema _
  apply Logger.Announces.ofExcept_bind
  intro snapshot _
  apply Logger.Announces.ofExcept_bind
  intro plan hplan
  exact manager.announces_perform type schema tracked.record (topic_of_plan hplan)

theorem announces_delete (registry : Registry) (type : RecordType ρ) (tracked : Tracked ρ) :
    manager.logger.Announces ((manager.withLog true).delete registry type tracked).runOn
      ((manager.withLog false).delete registry type tracked).runOn := by
  unfold delete
  apply Logger.Announces.ofExcept_bind
  intro schema _
  apply Logger.Announces.ofExcept_bind
  intro snapshot _
  apply Logger.Announces.ofExcept_bind
  intro statement _
  apply Logger.Announces.bind
  · exact manager.announces_execute statement
  · exact fun _ => .pure ()

theorem announces_hydrateAll (schema : Schema) (type : RecordType ρ) (rows : List Row) :
    manager.logger.Announces
      ((Repository.mk (manager.withLog true) schema type).hydrateAll rows).runOn
      ((Repository.mk (manager.withLog false) schema type).hydrateAll rows).runOn := by
  induction rows with
  | nil => exact .pure []
  | cons row rows ih =>
    unfold Repository.hydrateAll
    apply Logger.Announces.bind
    · exact .note fun _ => Schema.topic_of_mem_ignoredColumns
    · intro _
      apply Logger.Announces.bind
      · exact .ofExcept _
      · intro record
        exact ih.bind fun _ => .pure _

def repositorySchema (registry : Registry) (type : RecordType ρ) : Action σ Schema :=
  .ofExcept ((Repository.of manager registry type).map (·.schema))

theorem announces_repositorySchema (registry : Registry) (type : RecordType ρ) :
    manager.logger.Announces ((manager.withLog true).repositorySchema registry type).runOn
      ((manager.withLog false).repositorySchema registry type).runOn := by
  unfold repositorySchema Repository.of
  cases registry.lookup type.name with
  | ok schema => exact .ofExcept (.ok schema)
  | error fault => exact .ofExcept (.error fault)

theorem announces_repository_query (schema : Schema) (type : RecordType ρ) (statement : Statement) :
    manager.logger.Announces
      ((Repository.mk (manager.withLog true) schema type).query statement).runOn
      ((Repository.mk (manager.withLog false) schema type).query statement).runOn := by
  unfold Repository.query
  apply Logger.Announces.bind
  · exact manager.announces_query statement
  · exact fun rows => manager.announces_hydrateAll schema type rows

theorem announces_all (schema : Schema) (type : RecordType ρ) (selection : SelectQuery) :
    manager.logger.Announces
      (ActiveQuery.mk ⟨manager.withLog true, schema, type⟩ selection).all.2.runOn
      (ActiveQuery.mk ⟨manager.withLog false, schema, type⟩ selection).all.2.runOn := by
  unfold ActiveQuery.all ActiveQuery.statement
  cases selection.build with
  | ok statement => exact manager.announces_repository_query schema type statement
  | error fault => exact .ofExcept (.error fault)

/-! Programs. -/

/-- What a program asks of a manager, by what it is given. Of a repository it is given the schema; the
repository works with a copy of the manager. Records, schemas and queries are what the program made
of them before. -/
inductive Step : Type → Type 1 where
  | save {ρ : Type} (registry : Registry) (type : RecordType ρ) (tracked : Tracked ρ) :
    Step (Tracked ρ)
  | delete {ρ : Type} (registry : Registry) (type : RecordType ρ) (tracked : Tracked ρ) : Step Unit
  | repository {ρ : Type} (registry : Registry) (type : RecordType ρ) : Step Schema
  /-- Runs a query that a repository was asked to find records by. -/
  | all {ρ : Type} (schema : Schema) (type : RecordType ρ) (selection : SelectQuery) :
    Step (List (Tracked ρ))
  | query {ρ : Type} (schema : Schema) (type : RecordType ρ) (statement : Statement) :
    Step (List (Tracked ρ))
  | execute (statement : Statement) : Step Nat
  | rows (statement : Statement) : Step (List Row)

def Step.action (manager : Manager σ) : Step α → Action σ α
  | .save registry type tracked => manager.save registry type tracked
  | .delete registry type tracked => manager.delete registry type tracked
  | .repository registry type => manager.repositorySchema registry type
  | .all schema type selection => (ActiveQuery.mk ⟨manager, schema, type⟩ selection).all.2
  | .query schema type statement => (Repository.mk manager schema type).query statement
  | .execute statement => manager.execute statement
  | .rows statement => manager.query statement

/-- A program asks for one thing after another. It goes on with every answer, also with a fault. -/
inductive Program (α : Type) : Type 1 where
  | done (result : α)
  | ask {β : Type} (step : Step β) (next : Except Fault β → Program α)

def Program.run (manager : Manager σ) : Program α → Session σ → α × Session σ
  | .done result => fun session => (result, session)
  | .ask step next => fun session =>
    let (answer, left) := (step.action manager).runOn session
    (next answer).run manager left

theorem announces_step (step : Step α) :
    manager.logger.Announces (step.action (manager.withLog true)).runOn
      (step.action (manager.withLog false)).runOn := by
  cases step with
  | save registry type tracked => exact manager.announces_save registry type tracked
  | delete registry type tracked => exact manager.announces_delete registry type tracked
  | repository registry type => exact manager.announces_repositorySchema registry type
  | all schema type selection => exact manager.announces_all schema type selection
  | query schema type statement => exact manager.announces_repository_query schema type statement
  | execute statement => exact manager.announces_execute statement
  | rows statement => exact manager.announces_query statement

/-- A whole program. -/
theorem announces_run (program : Program α) :
    manager.logger.Announces (program.run (manager.withLog true))
      (program.run (manager.withLog false)) := by
  induction program with
  | done result => exact .done result
  | ask step next ih =>
    -- the answer is the same either way, and so is what is asked next
    exact (manager.announces_step step).andThen ih

/-- How what was run with the log compares to what was run without it. -/
structure LogFollows (manager : Manager σ) (session : Session σ) (logged silent : β × Session σ) :
    Prop where
  /-- The log has an entry for each statement that was handed over, in order, and no other. -/
  entries : ∃ sent, logged.2.sent = session.sent ++ sent ∧
    logged.2.log = session.log ++ sent.map manager.logger.entry
  /-- Each entry stands right before the call that it is about. -/
  placed : ∃ steps, silent.2.trace = session.trace ++ steps ∧
    logged.2.trace = session.trace ++ steps.flatMap (TraceEntry.announced manager.logger)
  silent_log : silent.2.log = session.log
  calls_eq : silent.2.calls = logged.2.calls
  result_eq : silent.1 = logged.1
  connection_eq : silent.2.connection = logged.2.connection

theorem logFollows_of_announces {logged silent : Session σ → β × Session σ}
    (h : manager.logger.Announces logged silent) (session : Session σ) :
    manager.LogFollows session (logged session) (silent session) := by
  obtain ⟨result, after, steps, hquiet, hsilent, hlogged⟩ := h session.connection
  have hsilent : silent session = _ := hsilent session.trace
  have hlogged : logged session = _ := hlogged session.trace
  rw [hsilent, hlogged]
  constructor
  case entries =>
    refine ⟨steps.filterMap TraceEntry.statement?, ?_, ?_⟩
    · rw [Session.sent_eq, Session.sent_eq, List.filterMap_append,
        TraceEntry.filterMap_announced _ fun _ => rfl]
    · rw [Session.log_eq, Session.log_eq, List.filterMap_append,
        TraceEntry.logged_announced _ hquiet]
  case placed => exact ⟨steps, rfl, rfl⟩
  case silent_log =>
    rw [Session.log_eq, Session.log_eq, List.filterMap_append, List.filterMap_eq_nil_iff.2 hquiet,
      List.append_nil]
  case calls_eq =>
    rw [Session.calls_eq, Session.calls_eq, List.filterMap_append, List.filterMap_append,
      TraceEntry.filterMap_announced _ fun _ => rfl]
  case result_eq => rfl
  case connection_eq => rfl

/-- Nothing is noted in the log exactly when no statement is handed over. -/
theorem LogFollows.log_eq_iff {session : Session σ} {logged silent : β × Session σ}
    (h : manager.LogFollows session logged silent) :
    logged.2.log = session.log ↔ logged.2.sent = session.sent := by
  obtain ⟨sent, hsent, hlog⟩ := h.entries
  rw [hsent, hlog, List.append_right_eq_self, List.append_right_eq_self, List.map_eq_nil_iff]

/-- The text of an entry is that of the statement, or what is cut from one that is too long. -/
inductive Shows (config : Config) (sql : String) : String → Prop where
  | whole (hfits : ∀ most, config.maxSqlLength = some most → byteLength sql.toList ≤ most) :
    Shows config sql sql
  | cut {most : Nat} (hmost : config.maxSqlLength = some most)
    (hlong : most < byteLength sql.toList) :
    Shows config sql (String.ofList (clip most sql.toList ++ ['.', '.', '.']))

theorem shows_clipSql (sql : String) : Shows manager.config sql (manager.logger.clipSql sql) := by
  have hmost : manager.logger.maxSqlLength = manager.config.maxSqlLength := rfl
  unfold Logger.clipSql
  split
  · next hnone =>
    apply Shows.whole
    rw [← hmost, hnone]
    rintro most ⟨⟩
  · next most hsome =>
    split
    · next hlong => exact .cut (hmost ▸ hsome) hlong
    · next hfits =>
      apply Shows.whole
      rw [← hmost, hsome]
      rintro most ⟨⟩
      exact Nat.le_of_not_lt hfits

/-- The statement log of a program is the statements that it hands to the connection, one entry for
each and in order; a step without a statement leaves no entry; and without the log the program takes
the same course. -/
theorem log_follows_calls :
    (∀ {α : Type} (program : Program α) (session : Session σ),
      manager.LogFollows session (program.run (manager.withLog true) session)
        (program.run (manager.withLog false) session)) ∧
    (∀ {α : Type} (step : Step α) (session : Session σ),
      let logged := (step.action (manager.withLog true)).runOn session
      manager.LogFollows session logged ((step.action (manager.withLog false)).runOn session) ∧
        (logged.2.log = session.log ↔ logged.2.sent = session.sent)) ∧
    ∀ statement, ∃ text, Shows manager.config statement.sql text ∧
      manager.logger.entry statement =
        .statement manager.config.logLevel (.ofSql statement.sql) statement.parameters.length
          text := by
  refine ⟨?_, ?_, fun statement => ⟨_, manager.shows_clipSql statement.sql, rfl⟩⟩
  · intro α program session
    exact manager.logFollows_of_announces (manager.announces_run program) session
  · intro α step session
    have hfollows := manager.logFollows_of_announces (manager.announces_step step) session
    exact ⟨hfollows, hfollows.log_eq_iff⟩

theorem log_follows_calls_failing :
    let manager : Manager Script := ⟨Connection.scripted, ⟨true, .info, some 13, .ignore⟩⟩
    let tracked : Tracked Json := .new (.object [("name", .string "a")])
    let program : Program Unit :=
      .ask (.save [("Rec", Workspace.names)] (.raw "Rec") tracked) fun _ =>
        .ask (.delete [("Rec", Workspace.names)] (.raw "Rec") tracked) fun _ =>
          .ask (.all Workspace.names (.raw "Rec")
            ((SelectQuery.empty.select ["*"]).source "Names")) fun _ => .done ()
    let start : Session Script := ⟨⟨[], [.error (.connection "lost")], .ok none⟩, []⟩
    (program.run (manager.withLog true) start).2.log =
        [.statement .info .insert 1 "INSERT INTO N...", .statement .info .select 0
          "SELECT * FROM..."] ∧
      (program.run (manager.withLog false) start).2.log = [] := by
  intro manager tracked program start
  obtain ⟨hprogram, -, -⟩ := manager.log_follows_calls
  obtain ⟨sent, hsent, hlog⟩ := (hprogram program start).entries
  refine ⟨?_, (hprogram program start).silent_log⟩
  have hstatements : [⟨"INSERT INTO Names (name) VALUES (?)", [.text "a"]⟩,
      ⟨"SELECT * FROM Names", []⟩] = sent := hsent
  rw [hlog, ← hstatements]
  rfl

end Manager

end RecordMapper
