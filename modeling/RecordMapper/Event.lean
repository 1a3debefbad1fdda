import RecordMapper.Cast
import RecordMapper.Config
import RecordMapper.Statement
import RecordMapper.Text.Clip

/-!
What is noted along the way: statements that are sent, and values and columns that were passed over.
-/

namespace RecordMapper

inductive StatementKind where
  | select
  | insert
  | update
  | delete
  | other
deriving DecidableEq, Repr

namespace StatementKind

def name : StatementKind → String
  | .select => "Select"
  | .insert => "Insert"
  | .update => "Update"
  | .delete => "Delete"
  | .other => "Other"

def ofWord (word : String) : StatementKind :=
  match word with
  | "SELECT" => .select
  | "INSERT" => .insert
  | "UPDATE" => .update
  | "DELETE" => .delete
  | _ => .other

def ofSql (sql : String) : StatementKind :=
  match words sql.toList with
  | [] => .other
  | word :: _ => ofWord (String.ofList (word.map Char.toUpper))

end StatementKind

inductive Event where
  | statement (level : LogLevel) (kind : StatementKind) (parameterCount : Nat) (sql : String)
  /-- A value could not be cast, and null is bound in its place. -/
  | castFailed (table column : String)
  | columnIgnored (table column : String)
  /-- The database numbered no row. -/
  | noIdentity (table column : String)
deriving DecidableEq, Repr

namespace Event

def level : Event → LogLevel
  | .statement level _ _ _ => level
  | .castFailed _ _ => .debug
  | .columnIgnored _ _ => .trace
  | .noIdentity _ _ => .warn

def topic : Event → String
  | .statement .. => "sql"
  | .castFailed .. => "cast"
  | .columnIgnored .. => "hydrate"
  | .noIdentity .. => "manager"

def fields : Event → List (String × String)
  | .statement _ kind parameterCount sql =>
    [("kind", kind.name), ("param_count", String.ofList (natDigits parameterCount)), ("sql", sql)]
  | .castFailed table column =>
    [("message", "caster failed, binding NULL"), ("table", table), ("column", column),
      ("error", Cast.failureMessage)]
  | .columnIgnored table column =>
    [("message", "ignoring unmapped column"), ("table", table), ("column", column)]
  | .noIdentity table column =>
    [("message", "insert generated no identity"), ("table", table), ("column", column)]

end Event

structure Logger where
  level : LogLevel
  maxSqlLength : Option Nat
  enabled : Bool
deriving DecidableEq, Repr

namespace Logger

def ofConfig (config : Config) : Logger :=
  ⟨config.logLevel, config.maxSqlLength, config.logStatements⟩

def standard : Logger := ofConfig .standard

def disabled : Logger := { standard with enabled := false }

/-- A text that is too long is cut, and three points show it. -/
def clipSql (logger : Logger) (sql : String) : String :=
  match logger.maxSqlLength with
  | none => sql
  | some most =>
    if most < byteLength sql.toList then String.ofList (clip most sql.toList ++ ['.', '.', '.'])
    else sql

def events (logger : Logger) (statement : Statement) : List Event :=
  if logger.enabled then
    [.statement logger.level (.ofSql statement.sql) statement.parameters.length
      (logger.clipSql statement.sql)]
  else []

end Logger

end RecordMapper
