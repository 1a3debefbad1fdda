import RecordMapper.Manager.InPlace
import RecordMapper.Proofs.Record.Key
import RecordMapper.Proofs.RowImage.Text

/-!
One save, in full. Whatever fails before the connection is used leaves everything as it was; else one
statement is sent, and the number of the row is asked for behind an INSERT that was carried out. A
save that fails leaves the record as it was, wherever it fails.
-/

namespace RecordMapper

theorem Schema.identityColumn?_eq_some_iff {schema : Schema} {column : Column} :
    schema.identityColumn? = some column ↔
      schema.keyColumns = [column] ∧ column.autoIncrements = true := by
  unfold identityColumn?
  split
  · rename_i only hkey
    rw [hkey]
    by_cases hauto : only.autoIncrements = true
    · simp only [if_pos hauto, Option.some.injEq, List.cons.injEq, and_true]
      exact ⟨fun h => ⟨h, h ▸ hauto⟩, fun h => h.1⟩
    · rw [if_neg hauto]
      constructor
      · rintro ⟨⟩
      · rintro ⟨hcolumn, h⟩
        cases hcolumn
        exact absurd h hauto
  · rename_i hkey
    constructor
    · rintro ⟨⟩
    · exact fun h => absurd h.1 (hkey column)

namespace Manager

/-- What saving a record needs to know before the connection is used. -/
structure Preparation where
  schema : Schema
  snapshot : Snapshot
  statement : Statement

def prepare {ρ : Type} (registry : Registry) (type : RecordType ρ) (tracked : Tracked ρ) :
    Except Fault Preparation := do
  let schema ← registry.lookup type.name
  let snapshot ← type.snapshot tracked.record
  let keyed ← snapshot.hasKey schema
  let operation := if keyed && tracked.isPersisted then RowOperation.update else .insert
  let statement ← (RowImage.mk schema snapshot).statement operation
  return ⟨schema, snapshot, statement⟩

namespace Preparation

def image (preparation : Preparation) : RowImage :=
  ⟨preparation.schema, preparation.snapshot⟩

def Updates (preparation : Preparation) (state : RecordState) : Prop :=
  state = .persisted ∧ preparation.snapshot.KeySet preparation.schema

/-- The key is one column that the database numbers, and the record leaves it unset. -/
def Unnumbered (preparation : Preparation) (column : Column) : Prop :=
  preparation.schema.keyColumns = [column] ∧ column.autoIncrements = true ∧
    preparation.snapshot.isSet column.member = false

end Preparation

variable {σ ρ : Type} {manager : Manager σ} {registry : Registry} {type : RecordType ρ}
  {tracked : Tracked ρ} {session : Session σ}

def answer (manager : Manager σ) (session : Session σ) (statement : Statement) :
    Except Fault Nat × σ :=
  manager.connection.execute statement session.connection

def identityAnswer (manager : Manager σ) (session : Session σ) (statement : Statement) :
    Except Fault (Option SqlValue) :=
  (manager.connection.lastIdentity (manager.answer session statement).2).1

def numbered (type : RecordType ρ) (schema : Schema) (column : Column) (record : ρ) :
    Except Fault (Option SqlValue) → Except Fault ρ
  | .error fault => .error fault
  | .ok none => .ok record
  | .ok (some identity) => identified type schema column record identity

variable (manager session) in
theorem runOn_execute (statement : Statement) :
    let sent := (manager.execute statement).runOn session
    sent.1 = (manager.answer session statement).1 ∧
      sent.2.connection = (manager.answer session statement).2 ∧
      sent.2.calls = session.calls ++ [.execute statement] := by
  simp only [execute, Connection.affected, Action.runOn_bind, Action.runOn_note,
    Action.runOn_call]
  refine ⟨rfl, rfl, ?_⟩
  rw [Session.calls_called, Session.calls_noted]
  rfl

variable (manager session) in
theorem runOn_send (events : List Event) (statement : Statement) :
    let sent := (manager.send events statement).runOn session
    sent.1 = (manager.answer session statement).1 ∧
      sent.2.connection = (manager.answer session statement).2 ∧
      sent.2.calls = session.calls ++ [.execute statement] := by
  simp only [send, Action.runOn_bind, Action.runOn_note]
  obtain ⟨hanswer, hconnection, hcalls⟩ := manager.runOn_execute
    ⟨session.connection, session.trace ++ events.map .noted⟩ statement
  refine ⟨hanswer, hconnection, ?_⟩
  rw [hcalls, Session.calls_noted]

variable (manager type session) in
theorem runOn_adoptIdentity (schema : Schema) (column : Column) (record : ρ) :
    let adopted := (manager.adoptIdentity type schema column record).runOn session
    adopted.1 = numbered type schema column record
        (manager.connection.lastIdentity session.connection).1 ∧
      adopted.2.calls = session.calls ++ [.lastIdentity] := by
  simp only [adoptIdentity, Connection.identity, Action.runOn_bind, Action.runOn_call]
  cases (manager.connection.lastIdentity session.connection).1 with
  | error fault => exact ⟨rfl, Session.calls_called _ _ _⟩
  | ok identity? =>
    cases identity? with
    | none =>
      refine ⟨rfl, ?_⟩
      simp only [Action.runOn_bind, Action.runOn_note, Action.runOn_pure]
      rw [Session.calls_noted, Session.calls_called]
      rfl
    | some identity => exact ⟨rfl, Session.calls_called _ _ _⟩

variable (manager registry type tracked session) in
/-- The ways in which a save ends: how, and with which session. -/
inductive SaveEnds : Except Fault (Tracked ρ) → Session σ → Prop where
  | refused {fault : Fault} (hprepare : prepare registry type tracked = .error fault) :
    SaveEnds (.error fault) session
  | failed {preparation : Preparation} {fault : Fault} {left : Session σ}
    (hprepare : prepare registry type tracked = .ok preparation)
    (hanswer : (manager.answer session preparation.statement).1 = .error fault)
    (hcalls : left.calls = session.calls ++ [.execute preparation.statement]) :
    SaveEnds (.error fault) left
  | carriedOut {preparation : Preparation} {count : Nat} {left : Session σ}
    (hprepare : prepare registry type tracked = .ok preparation)
    (hanswer : (manager.answer session preparation.statement).1 = .ok count)
    (hnumbered : ∀ column, ¬ preparation.Unnumbered column)
    (hcalls : left.calls = session.calls ++ [.execute preparation.statement]) :
    SaveEnds (.ok (.persisted tracked.record)) left
  | asked {preparation : Preparation} {count : Nat} {column : Column} {left : Session σ}
    (hprepare : prepare registry type tracked = .ok preparation)
    (hanswer : (manager.answer session preparation.statement).1 = .ok count)
    (hunnumbered : preparation.Unnumbered column)
    (hcalls : left.calls = session.calls ++ [.execute preparation.statement, .lastIdentity]) :
    SaveEnds ((numbered type preparation.schema column tracked.record
      (manager.identityAnswer session preparation.statement)).map .persisted) left

theorem Preparation.Unnumbered.unique {preparation : Preparation} {column other : Column}
    (h : preparation.Unnumbered column) (hother : preparation.Unnumbered other) :
    column = other := by
  have hkey := h.1.symm.trans hother.1
  simpa using hkey

theorem not_updates_of_unnumbered {preparation : Preparation} {column : Column}
    (h : preparation.Unnumbered column) : ¬ preparation.Updates tracked.state := by
  rintro ⟨-, -, hset⟩
  have hvalue := hset column (by simp [h.1])
  rw [h.2.2] at hvalue
  cases hvalue

theorem identity?_eq_some_iff {schema : Schema} {snapshot : Snapshot} {keyed : Bool}
    {statement : Statement} {column : Column} (hkeyed : snapshot.hasKey schema = .ok keyed) :
    (if keyed then none else schema.identityColumn?) = some column ↔
      Preparation.Unnumbered ⟨schema, snapshot, statement⟩ column := by
  unfold Preparation.Unnumbered
  cases keyed with
  | true =>
    have hset := Snapshot.hasKey_eq_true_iff.1 hkeyed
    rw [if_pos rfl]
    constructor
    · rintro ⟨⟩
    · rintro ⟨hkey, -, hunset⟩
      have hvalue := hset.2 column (by simp [hkey])
      rw [hunset] at hvalue
      cases hvalue
  | false =>
    have hunset := Snapshot.hasKey_eq_false_iff.1 hkeyed
    rw [if_neg Bool.false_ne_true, Schema.identityColumn?_eq_some_iff]
    constructor
    · rintro ⟨hkey, hauto⟩
      exact ⟨hkey, hauto, hunset column (by simp [hkey])⟩
    · rintro ⟨hkey, hauto, -⟩
      exact ⟨hkey, hauto⟩

theorem saveEnds_of_plan {preparation : Preparation} {plan : SavePlan}
    (hprepare : prepare registry type tracked = .ok preparation)
    (hstatement : plan.statement = preparation.statement)
    (hidentity : ∀ column, plan.identity? = some column ↔ preparation.Unnumbered column) :
    let run := (manager.perform type preparation.schema tracked.record plan).runOn session
    SaveEnds manager registry type tracked session run.1 run.2 := by
  dsimp only
  rw [runOn_perform, hstatement]
  -- all that counts of the session behind the statement is what `runOn_send` says of it
  obtain ⟨hanswer, hconnection, hcalls⟩ :=
    manager.runOn_send session plan.events preparation.statement
  revert hanswer hconnection hcalls
  rcases (manager.send plan.events preparation.statement).runOn session with
    ⟨fault | count, sent⟩ <;> intro hanswer hconnection hcalls
  · exact .failed hprepare hanswer.symm hcalls
  · cases hcolumn : plan.identity? with
    | none =>
      refine .carriedOut hprepare hanswer.symm ?_ hcalls
      intro column hunnumbered
      rw [(hidentity column).2 hunnumbered] at hcolumn
      cases hcolumn
    | some column =>
      obtain ⟨hadopted, hasked⟩ := manager.runOn_adoptIdentity type sent
        preparation.schema column tracked.record
      rw [hconnection] at hadopted
      rw [hcalls, List.append_assoc] at hasked
      have hends := SaveEnds.asked hprepare hanswer.symm ((hidentity column).1 hcolumn) hasked
      unfold identityAnswer at hends
      rw [← hadopted] at hends
      revert hends
      dsimp only
      rcases (manager.adoptIdentity type preparation.schema column tracked.record).runOn sent with
        ⟨_ | _, _⟩ <;> exact id

theorem prepare_of_hasKey {schema : Schema} {snapshot : Snapshot} {keyed : Bool}
    (hschema : registry.lookup type.name = .ok schema)
    (hsnapshot : type.snapshot tracked.record = .ok snapshot)
    (hkeyed : snapshot.hasKey schema = .ok keyed) :
    prepare registry type tracked =
      ((RowImage.mk schema snapshot).statement
        (if keyed && tracked.isPersisted then .update else .insert)).map
        fun statement => ⟨schema, snapshot, statement⟩ := by
  rw [prepare, hschema, hsnapshot]
  change snapshot.hasKey schema >>= _ = _
  rw [hkeyed]
  change (RowImage.mk schema snapshot).statement _ >>= _ = _
  cases (RowImage.mk schema snapshot).statement _ <;> rfl

theorem of_prepare {preparation : Preparation}
    (h : prepare registry type tracked = .ok preparation) :
    registry.lookup type.name = .ok preparation.schema ∧
      type.snapshot tracked.record = .ok preparation.snapshot ∧
      (preparation.Updates tracked.state ∧
          preparation.image.update = .ok preparation.statement ∨
        ¬ preparation.Updates tracked.state ∧
          preparation.statement = preparation.image.insert) := by
  obtain ⟨schema, hschema, hrest⟩ := Outcome.bind_eq_ok_iff.1 h
  obtain ⟨snapshot, hsnapshot, hrest⟩ := Outcome.bind_eq_ok_iff.1 hrest
  obtain ⟨keyed, hkeyed, hrest⟩ := Outcome.bind_eq_ok_iff.1 hrest
  obtain ⟨statement, hstatement, hrest⟩ := Outcome.bind_eq_ok_iff.1 hrest
  cases Except.ok.inj hrest
  refine ⟨hschema, hsnapshot, ?_⟩
  unfold Preparation.Updates Preparation.image
  rw [← Snapshot.hasKey_eq_true_iff, hkeyed]
  cases hstored : keyed && tracked.isPersisted with
  | true =>
    obtain ⟨rfl, hpersisted⟩ := Bool.and_eq_true_iff.1 hstored
    rw [hstored, if_pos rfl] at hstatement
    exact .inl ⟨⟨beq_iff_eq.1 hpersisted, rfl⟩, hstatement⟩
  | false =>
    rw [hstored, if_neg Bool.false_ne_true] at hstatement
    refine .inr ⟨?_, (Except.ok.inj hstatement).symm⟩
    rintro ⟨hstate, hset⟩
    cases Except.ok.inj hset
    rw [Tracked.isPersisted, hstate] at hstored
    cases hstored

variable (manager registry type tracked session) in
theorem saveEnds :
    SaveEnds manager registry type tracked session
      ((manager.save registry type tracked).runOn session).1
      ((manager.save registry type tracked).runOn session).2 := by
  unfold save
  simp only [Action.runOn_bind, Action.runOn_ofExcept]
  cases hschema : registry.lookup type.name with
  | error fault =>
    apply SaveEnds.refused
    rw [prepare, hschema]
    rfl
  | ok schema =>
    dsimp only
    cases hsnapshot : type.snapshot tracked.record with
    | error fault =>
      apply SaveEnds.refused
      rw [prepare, hschema, hsnapshot]
      rfl
    | ok snapshot =>
      dsimp only
      cases hkeyed : snapshot.hasKey schema with
      | error fault =>
        rw [SavePlan.of_error hkeyed]
        apply SaveEnds.refused
        rw [prepare, hschema, hsnapshot]
        change snapshot.hasKey schema >>= _ = _
        rw [hkeyed]
        rfl
      | ok keyed =>
        have hprepare := prepare_of_hasKey hschema hsnapshot hkeyed
        cases hstored : keyed && tracked.isPersisted with
        | true =>
          obtain ⟨rfl, hpersisted⟩ := Bool.and_eq_true_iff.1 hstored
          obtain ⟨record, rfl⟩ := tracked.eq_persisted hpersisted
          have hstate : (Tracked.persisted record).state = .persisted := rfl
          rw [hstored, if_pos rfl, RowImage.statement] at hprepare
          rw [SavePlan.of_stored hkeyed hstate]
          cases hupdate : (RowImage.mk schema snapshot).update with
          | error fault =>
            rw [hupdate] at hprepare
            exact .refused hprepare
          | ok statement =>
            rw [hupdate] at hprepare
            exact saveEnds_of_plan hprepare rfl fun column => identity?_eq_some_iff hkeyed
        | false =>
          rw [hstored, if_neg Bool.false_ne_true, RowImage.statement, Except.map] at hprepare
          rw [SavePlan.of_not_stored hkeyed hstored]
          apply saveEnds_of_plan hprepare
          · rfl
          · exact fun column => identity?_eq_some_iff hkeyed

/-- The number of the row is asked for: an INSERT was carried out, and the key is one column that the
database numbers and the record leaves unset. -/
def Preparation.Asks (preparation : Preparation) (manager : Manager σ) (state : RecordState)
    (session : Session σ) (column : Column) : Prop :=
  ¬ preparation.Updates state ∧
    (∃ count, (manager.answer session preparation.statement).1 = .ok count) ∧
    preparation.Unnumbered column

theorem Preparation.asks_iff {preparation : Preparation} {column : Column} :
    preparation.Asks manager tracked.state session column ↔
      (∃ count, (manager.answer session preparation.statement).1 = .ok count) ∧
        preparation.Unnumbered column := by
  constructor
  · exact fun h => h.2
  · exact fun h => ⟨not_updates_of_unnumbered h.2, h⟩

theorem kind_prepared {preparation : Preparation}
    (h : prepare registry type tracked = .ok preparation) :
    (preparation.Updates tracked.state →
      StatementKind.ofSql preparation.statement.sql = .update ∧
        preparation.image.update = .ok preparation.statement) ∧
    (¬ preparation.Updates tracked.state →
      StatementKind.ofSql preparation.statement.sql = .insert ∧
        preparation.statement = preparation.image.insert) := by
  obtain ⟨-, -, ⟨hupdates, hstatement⟩ | ⟨hupdates, hstatement⟩⟩ := of_prepare h
  · exact ⟨fun _ => ⟨preparation.image.kind_update hstatement, hstatement⟩,
      fun hnot => absurd hupdates hnot⟩
  · refine ⟨fun hyes => absurd hyes hupdates, fun _ => ⟨?_, hstatement⟩⟩
    rw [hstatement]
    exact preparation.image.kind_insert

theorem numbered_eq_ok_iff {schema : Schema} {column : Column} {record saved : ρ}
    {identity? : Except Fault (Option SqlValue)} :
    numbered type schema column record identity? = .ok saved ↔
      (identity? = .ok none ∧ saved = record) ∨
        ∃ identity value, identity? = .ok (some identity) ∧
          column.parse identity.toJson = some value ∧
          type.assign record column.member value = .ok saved := by
  rcases identity? with fault | _ | identity
  · simp [numbered]
  · simp [numbered, eq_comm]
  · simp only [numbered, identified]
    cases hparse : column.parse identity.toJson <;> simp [hparse]

namespace SaveEnds

variable {result : Except Fault (Tracked ρ)} {left : Session σ} {preparation : Preparation}

theorem of_error {fault : Fault} (ends : SaveEnds manager registry type tracked session result left)
    (h : prepare registry type tracked = .error fault) : result = .error fault ∧ left = session := by
  cases ends with
  | refused hprepare =>
    cases hprepare.symm.trans h
    exact ⟨rfl, rfl⟩
  | failed hprepare | carriedOut hprepare | asked hprepare => cases hprepare.symm.trans h

theorem calls (ends : SaveEnds manager registry type tracked session result left)
    (h : prepare registry type tracked = .ok preparation) :
    ((∃ column, preparation.Asks manager tracked.state session column) →
      left.calls = session.calls ++ [.execute preparation.statement, .lastIdentity]) ∧
    ((¬ ∃ column, preparation.Asks manager tracked.state session column) →
      left.calls = session.calls ++ [.execute preparation.statement]) := by
  simp only [Preparation.asks_iff]
  cases ends with
  | refused hprepare => cases hprepare.symm.trans h
  | failed hprepare hanswer hcalls =>
    cases hprepare.symm.trans h
    refine ⟨?_, fun _ => hcalls⟩
    rintro ⟨column, ⟨count, hcount⟩, -⟩
    cases hanswer.symm.trans hcount
  | carriedOut hprepare hanswer hnumbered hcalls =>
    cases hprepare.symm.trans h
    refine ⟨?_, fun _ => hcalls⟩
    rintro ⟨column, -, hunnumbered⟩
    exact absurd hunnumbered (hnumbered column)
  | asked hprepare hanswer hunnumbered hcalls =>
    cases hprepare.symm.trans h
    exact ⟨fun _ => hcalls, fun hnone => absurd ⟨_, ⟨_, hanswer⟩, hunnumbered⟩ hnone⟩

theorem isOk_iff (ends : SaveEnds manager registry type tracked session result left)
    (h : prepare registry type tracked = .ok preparation) :
    (∃ saved, result = .ok saved) ↔
      (∃ count, (manager.answer session preparation.statement).1 = .ok count) ∧
        ∀ column, preparation.Asks manager tracked.state session column →
          ∃ record, numbered type preparation.schema column tracked.record
            (manager.identityAnswer session preparation.statement) = .ok record := by
  simp only [Preparation.asks_iff]
  cases ends with
  | refused hprepare => cases hprepare.symm.trans h
  | failed hprepare hanswer hcalls =>
    cases hprepare.symm.trans h
    rw [hanswer]
    simp
  | carriedOut hprepare hanswer hnumbered hcalls =>
    cases hprepare.symm.trans h
    rw [hanswer]
    simp [hnumbered]
  | asked hprepare hanswer hunnumbered hcalls =>
    cases hprepare.symm.trans h
    constructor
    · rintro ⟨saved, hsaved⟩
      obtain ⟨record, hrecord, -⟩ := Outcome.map_eq_ok_iff.1 hsaved
      refine ⟨⟨_, hanswer⟩, ?_⟩
      rintro column ⟨-, hcolumn⟩
      cases hcolumn.unique hunnumbered
      exact ⟨record, hrecord⟩
    · rintro ⟨-, hall⟩
      obtain ⟨record, hrecord⟩ := hall _ ⟨⟨_, hanswer⟩, hunnumbered⟩
      exact ⟨.persisted record, by rw [hrecord]; rfl⟩

theorem saved {after : Tracked ρ}
    (ends : SaveEnds manager registry type tracked session (.ok after) left)
    (h : prepare registry type tracked = .ok preparation) :
    after.state = .persisted ∧
      (∀ column identity, preparation.Asks manager tracked.state session column →
        manager.identityAnswer session preparation.statement = .ok (some identity) →
          ∃ value, column.parse identity.toJson = some value ∧
            type.assign tracked.record column.member value = .ok after.record) ∧
      ((¬ ∃ column identity, preparation.Asks manager tracked.state session column ∧
          manager.identityAnswer session preparation.statement = .ok (some identity)) →
        after.record = tracked.record) := by
  simp only [Preparation.asks_iff]
  generalize hresult : (Except.ok after : Except Fault (Tracked ρ)) = result at ends
  cases ends with
  | refused hprepare => cases hresult
  | failed hprepare => cases hresult
  | carriedOut hprepare hanswer hnumbered hcalls =>
    cases hprepare.symm.trans h
    cases hresult
    refine ⟨rfl, ?_, fun _ => rfl⟩
    rintro column identity ⟨-, hunnumbered⟩
    exact absurd hunnumbered (hnumbered column)
  | asked hprepare hanswer hunnumbered hcalls =>
    cases hprepare.symm.trans h
    obtain ⟨record, hrecord, rfl⟩ := Outcome.map_eq_ok_iff.1 hresult.symm
    refine ⟨rfl, ?_, ?_⟩
    · rintro column identity ⟨-, hcolumn⟩ hidentity
      cases hcolumn.unique hunnumbered
      rw [hidentity] at hrecord
      obtain ⟨hnone, -⟩ | ⟨given, value, hgiven, hparse, hassign⟩ := numbered_eq_ok_iff.1 hrecord
      · cases hnone
      · cases hgiven
        exact ⟨value, hparse, hassign⟩
    · intro hnone
      obtain ⟨-, hrecord⟩ | ⟨identity, -, hidentity, -⟩ := numbered_eq_ok_iff.1 hrecord
      · exact hrecord
      · exact absurd ⟨_, identity, ⟨⟨_, hanswer⟩, hunnumbered⟩, hidentity⟩ hnone

theorem persisted {after : Tracked ρ}
    (ends : SaveEnds manager registry type tracked session (.ok after) left) :
    after.state = .persisted := by
  cases hprepare : prepare registry type tracked with
  | error fault =>
    have hfault := (ends.of_error hprepare).1
    cases hfault
  | ok preparation => exact (ends.saved hprepare).1

end SaveEnds

end Manager

end RecordMapper
