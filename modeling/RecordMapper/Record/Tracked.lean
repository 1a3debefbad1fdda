/-!
Records with the knowledge of whether they are stored.
-/

namespace RecordMapper

inductive RecordState where
  | new
  /-- The record portrays a stored row. -/
  | persisted
deriving DecidableEq, Repr

def RecordState.name : RecordState → String
  | .new => "New"
  | .persisted => "Persisted"

structure Tracked (ρ : Type) where
  record : ρ
  state : RecordState

namespace Tracked

variable {ρ : Type}

def new (record : ρ) : Tracked ρ := ⟨record, .new⟩

def persisted (record : ρ) : Tracked ρ := ⟨record, .persisted⟩

def isPersisted (tracked : Tracked ρ) : Bool :=
  tracked.state == .persisted

def assign (tracked : Tracked ρ) (record : ρ) : Tracked ρ :=
  { tracked with record := record }

theorem eq_persisted (tracked : Tracked ρ) (h : tracked.isPersisted = true) :
    ∃ record, tracked = .persisted record := by
  rcases tracked with ⟨record, _ | _⟩
  · cases h
  · exact ⟨record, rfl⟩

end Tracked

end RecordMapper
