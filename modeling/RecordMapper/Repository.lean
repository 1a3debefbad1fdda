import RecordMapper.Manager
import RecordMapper.SelectQuery

/-!
Repositories give the records of a table. An active query is a query over a repository's table that
starts afresh each time it has been run.
-/

namespace RecordMapper

structure Repository (σ ρ : Type) where
  manager : Manager σ
  schema : Schema
  type : RecordType ρ

namespace Repository

variable {σ ρ : Type}

def of (manager : Manager σ) (registry : Registry) (type : RecordType ρ) :
    Except Fault (Repository σ ρ) :=
  (registry.lookup type.name).map fun schema => ⟨manager, schema, type⟩

def hydrateAll (repository : Repository σ ρ) : List Row → Action σ (List (Tracked ρ))
  | [] => return []
  | row :: rows => do
    let unmapped := repository.manager.config.unmapped
    .note (repository.schema.ignoredColumns unmapped row)
    let record ← .ofExcept (repository.schema.hydrate repository.type unmapped row)
    return .persisted record :: (← repository.hydrateAll rows)

def query (repository : Repository σ ρ) (statement : Statement) : Action σ (List (Tracked ρ)) := do
  let rows ← repository.manager.query statement
  repository.hydrateAll rows

def presetOn (repository : Repository σ ρ) (query : SelectQuery) : SelectQuery :=
  (query.select ["*"]).source repository.schema.table.text

def preset (repository : Repository σ ρ) : SelectQuery :=
  repository.presetOn .empty

end Repository

structure ActiveQuery (σ ρ : Type) where
  repository : Repository σ ρ
  query : SelectQuery

namespace ActiveQuery

variable {σ ρ : Type}

def of (repository : Repository σ ρ) : ActiveQuery σ ρ :=
  ⟨repository, repository.preset⟩

def restrict (active : ActiveQuery σ ρ) (restriction : SelectQuery.Restriction) :
    Except Fault (ActiveQuery σ ρ) :=
  (active.query.restrict restriction).map fun query => { active with query := query }

def statement (active : ActiveQuery σ ρ) : Except Fault Statement :=
  active.query.build

def reset (active : ActiveQuery σ ρ) : ActiveQuery σ ρ :=
  { active with query := active.repository.presetOn active.query.reset }

/-- The records that the query finds, and the query that is left: a fresh one, unless the statement
could not be built. -/
def all (active : ActiveQuery σ ρ) : ActiveQuery σ ρ × Action σ (List (Tracked ρ)) :=
  match active.statement with
  | .ok statement => (active.reset, active.repository.query statement)
  | .error fault => (active, throw fault)

end ActiveQuery

end RecordMapper
