import RecordMapper.Proofs.Query.Groups
import RecordMapper.Repository

/-!
Active queries over any use of them. An active query is a query for the whole table with the
restrictions that were made since it was last run. It can be refused for open groups only, and then
it stays as it is; otherwise its statement is sent once, and it starts afresh whatever comes of
that.
-/

namespace RecordMapper

section Calls

variable {σ ρ : Type}

theorem Manager.calls_query (manager : Manager σ) (statement : Statement) (session : Session σ) :
    ((manager.query statement).runOn session).2.calls = session.calls ++ [.query statement] := by
  simp only [query, Connection.rows, Action.runOn_bind, Action.runOn_note, Action.runOn_call]
  rw [Session.calls_called, Session.calls_noted]
  rfl

namespace Repository

variable (repository : Repository σ ρ)

theorem calls_hydrateAll (rows : List Row) (session : Session σ) :
    ((repository.hydrateAll rows).runOn session).2.calls = session.calls := by
  induction rows generalizing session with
  | nil => rfl
  | cons row rows ih =>
    unfold hydrateAll
    simp only [Action.runOn_bind, Action.runOn_note, Action.runOn_ofExcept]
    cases repository.schema.hydrate repository.type repository.manager.config.unmapped row with
    | error fault => exact Session.calls_noted _ _ _
    | ok record =>
      have hrest := (ih _).trans (Session.calls_noted session.connection session.trace
        (repository.schema.ignoredColumns repository.manager.config.unmapped row))
      revert hrest
      dsimp only
      rcases (repository.hydrateAll rows).runOn _ with ⟨_ | _, left⟩ <;> exact id

/-- A query sends its statement once, whatever the connection answers and whatever the rows are
hydrated to. -/
theorem calls_query (statement : Statement) (session : Session σ) :
    ((repository.query statement).runOn session).2.calls = session.calls ++ [.query statement] := by
  have hsent := repository.manager.calls_query statement session
  unfold query
  rw [Action.runOn_bind]
  revert hsent
  rcases (repository.manager.query statement).runOn session with ⟨fault | rows, sent⟩
  · exact id
  · intro hsent
    dsimp only
    rw [calls_hydrateAll, hsent]

end Repository

end Calls

namespace ActiveQuery

variable {σ ρ : Type}

/-- A query that is reset and asks for the whole table again is a new one. -/
theorem reset_eq_of (active : ActiveQuery σ ρ) : active.reset = of active.repository := by
  rw [reset, SelectQuery.reset_eq_empty]
  rfl

inductive Step where
  | restrict (restriction : SelectQuery.Restriction)
  | statement
  | all

/-- An active query in use: the session that it is run over, and the restrictions that were made
since it was last run, those that failed too. -/
structure History (σ ρ : Type) where
  active : ActiveQuery σ ρ
  session : Session σ
  pending : List SelectQuery.Restriction

namespace History

def start (repository : Repository σ ρ) (session : Session σ) : History σ ρ :=
  ⟨of repository, session, []⟩

/-- A restriction that fails leaves the query as it was. A query has been run when its statement was
built, and its restrictions count no longer. -/
def take (history : History σ ρ) : Step → History σ ρ
  | .restrict restriction =>
    let pending := history.pending ++ [restriction]
    match history.active.restrict restriction with
    | .ok active => ⟨active, history.session, pending⟩
    | .error _ => ⟨history.active, history.session, pending⟩
  | .statement => history
  | .all =>
    let (active, run) := history.active.all
    let pending :=
      match history.active.statement with
      | .ok _ => []
      | .error _ => history.pending
    ⟨active, (run.runOn history.session).2, pending⟩

def after (repository : Repository σ ρ) (session : Session σ) (steps : List Step) : History σ ρ :=
  steps.foldl take (start repository session)

def openGroups (history : History σ ρ) : Nat :=
  history.active.repository.preset.groupsLeft history.pending

/-- What holds of an active query at every point of its use. -/
structure Follows (repository : Repository σ ρ) (history : History σ ρ) : Prop where
  repository_eq : history.active.repository = repository
  /-- The statement is that of a new query, on which the restrictions are made again. -/
  statement_eq : history.active.statement =
    (SelectQuery.after ([.select ["*"], .source repository.schema.table.text] ++
      history.pending.map .restrict)).build
  refused_iff : ∀ fault, history.active.statement = .error fault ↔
    history.openGroups ≠ 0 ∧ fault = .usage (.unclosedGroup history.openGroups)
  /-- Whatever comes of the statement, it is sent once, and the query starts afresh. -/
  all_of_built : ∀ statement, history.active.statement = .ok statement →
    (history.take .all).session.calls = history.session.calls ++ [.query statement] ∧
      (history.take .all).active = of repository ∧ (history.take .all).pending = []
  all_of_refused : ∀ fault, history.active.statement = .error fault →
    history.active.all.2.runOn history.session = (.error fault, history.session) ∧
      history.take .all = history

/-- The invariant of a history: its query is the query for the whole table with the restrictions
that are pending. -/
structure Replays (repository : Repository σ ρ) (history : History σ ρ) : Prop where
  repository_eq : history.active.repository = repository
  query_eq : history.active.query = repository.preset.replay history.pending

variable {repository : Repository σ ρ} {history : History σ ρ}

theorem take_all_of_built {statement : Statement} (h : history.active.statement = .ok statement) :
    history.take .all =
      ⟨history.active.reset,
        ((history.active.repository.query statement).runOn history.session).2, []⟩ := by
  simp only [take, all, h]

theorem take_all_of_refused {fault : Fault} (h : history.active.statement = .error fault) :
    history.take .all = history := by
  simp only [take, all, h]
  rfl

theorem replay_append (query : SelectQuery) (restrictions : List SelectQuery.Restriction)
    (restriction : SelectQuery.Restriction) :
    query.replay (restrictions ++ [restriction]) =
      (query.replay restrictions).take (.restrict restriction) := by
  simp [SelectQuery.replay]

theorem take_restrict (restriction : SelectQuery.Restriction) :
    history.take (.restrict restriction) =
      ⟨⟨history.active.repository, history.active.query.take (.restrict restriction)⟩,
        history.session, history.pending ++ [restriction]⟩ := by
  simp only [take, restrict]
  cases h : history.active.query.restrict restriction with
  | ok next =>
    rw [SelectQuery.take_restrict_of_ok h]
    rfl
  | error fault =>
    rw [SelectQuery.take_restrict_of_error h]
    rfl

theorem Replays.take (h : history.Replays repository) (step : Step) :
    (history.take step).Replays repository := by
  obtain ⟨hrepository, hquery⟩ := h
  cases step with
  | restrict restriction =>
    rw [take_restrict]
    refine ⟨hrepository, ?_⟩
    dsimp only
    rw [hquery, replay_append]
  | statement => exact ⟨hrepository, hquery⟩
  | all =>
    cases hstatement : history.active.statement with
    | ok statement =>
      rw [take_all_of_built hstatement, reset_eq_of, hrepository]
      exact ⟨rfl, rfl⟩
    | error fault =>
      rw [take_all_of_refused hstatement]
      exact ⟨hrepository, hquery⟩

theorem replays_after (repository : Repository σ ρ) (session : Session σ) (steps : List Step) :
    (after repository session steps).Replays repository :=
  List.foldlRecOn steps History.take ⟨rfl, rfl⟩ fun _ replays step _ => replays.take step

theorem Replays.follows (h : history.Replays repository) : history.Follows repository where
  repository_eq := h.repository_eq
  statement_eq := by
    unfold ActiveQuery.statement
    rw [h.query_eq]
    rfl
  refused_iff := by
    intro fault
    have hdepth : history.active.query.conditions.depth = history.openGroups := by
      rw [h.query_eq, openGroups, h.repository_eq]
      exact SelectQuery.depth_replay rfl _
    obtain ⟨hcolumns, htable, -⟩ := repository.preset.replay_spec history.pending
    rw [← h.query_eq] at hcolumns htable
    rw [← hdepth]
    exact SelectQuery.build_eq_error_iff hcolumns htable
  all_of_built := by
    intro statement hstatement
    rw [take_all_of_built hstatement]
    refine ⟨Repository.calls_query _ _ _, ?_, rfl⟩
    dsimp only
    rw [reset_eq_of, h.repository_eq]
  all_of_refused := by
    intro fault hstatement
    refine ⟨?_, take_all_of_refused hstatement⟩
    simp only [all, hstatement]
    rfl

/-- An active query follows its history, over any repository and whatever is done with it. -/
theorem follows_after (repository : Repository σ ρ) (session : Session σ) (steps : List Step) :
    (after repository session steps).Follows repository :=
  (replays_after repository session steps).follows

end History

end ActiveQuery

end RecordMapper
