import RecordMapper.Postgres.Client

/-!
A server that answers every statement alike, and keeps what it has received.
-/

namespace RecordMapper.Postgres

structure Received where
  sql : Option String
  cells : Option (List (Option Bytes))
deriving DecidableEq

def Received.nothing : Received := ⟨none, none⟩

inductive Stage where
  | prepare
  | run
deriving DecidableEq, Repr

structure Answers where
  prepared : Prepared
  reply : Reply
  refused : Option (Stage × Refusal)

def Answers.at {α : Type} (answers : Answers) (stage : Stage) (answer : α) : Except Refusal α :=
  match answers.refused with
  | none => .ok answer
  | some (refusing, refusal) => if refusing = stage then .error refusal else .ok answer

def Server.scripted (answers : Answers) : Server Received where
  prepare sql _ := (answers.at .prepare answers.prepared, ⟨some sql, none⟩)
  run sql cells _ := (answers.at .run answers.reply, ⟨some sql, some cells⟩)

end RecordMapper.Postgres
