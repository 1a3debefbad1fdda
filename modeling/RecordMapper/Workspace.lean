import RecordMapper.Manager

/-!
Workspaces: the tracked records that a program holds, by number, and the session they are stored
over. A step that fails leaves the record as it was; a step on a number without a record does
nothing.
-/

namespace RecordMapper

structure Workspace (σ ρ : Type) where
  session : Session σ
  records : List (Tracked ρ)

namespace Workspace

variable {σ ρ : Type}

inductive Step (ρ : Type) where
  /-- Takes in a record that was not written. -/
  | new (record : ρ)
  /-- Takes in a record that is stored. -/
  | persisted (record : ρ)
  /-- Changes a record without storing it. -/
  | assign (number : Nat) (record : ρ)
  | save (number : Nat)
  | delete (number : Nat)

def save (workspace : Workspace σ ρ) (manager : Manager σ) (registry : Registry)
    (type : RecordType ρ) (number : Nat) : Except Fault Unit × Workspace σ ρ :=
  match workspace.records[number]? with
  | none => (.ok (), workspace)
  | some tracked =>
    match (manager.save registry type tracked).runOn workspace.session with
    | (.ok saved, session) => (.ok (), ⟨session, workspace.records.set number saved⟩)
    | (.error fault, session) => (.error fault, ⟨session, workspace.records⟩)

def delete (workspace : Workspace σ ρ) (manager : Manager σ) (registry : Registry)
    (type : RecordType ρ) (number : Nat) : Except Fault Unit × Workspace σ ρ :=
  match workspace.records[number]? with
  | none => (.ok (), workspace)
  | some tracked =>
    let (result, session) := (manager.delete registry type tracked).runOn workspace.session
    (result, ⟨session, workspace.records⟩)

def step (workspace : Workspace σ ρ) (manager : Manager σ) (registry : Registry)
    (type : RecordType ρ) : Step ρ → Except Fault Unit × Workspace σ ρ
  | .new record => (.ok (), { workspace with records := workspace.records ++ [.new record] })
  | .persisted record =>
    (.ok (), { workspace with records := workspace.records ++ [.persisted record] })
  | .assign number record =>
    (.ok (), { workspace with
      records := workspace.records.modify number fun tracked => tracked.assign record })
  | .save number => workspace.save manager registry type number
  | .delete number => workspace.delete manager registry type number

end Workspace

end RecordMapper
