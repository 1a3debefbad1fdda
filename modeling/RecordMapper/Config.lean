/-!
How a manager logs and hydrates.
-/

namespace RecordMapper

inductive LogLevel where
  | error
  | warn
  | info
  | debug
  | trace
deriving DecidableEq, Repr

def LogLevel.name : LogLevel → String
  | .error => "ERROR"
  | .warn => "WARN"
  | .info => "INFO"
  | .debug => "DEBUG"
  | .trace => "TRACE"

def LogLevel.ofName? (name : String) : Option LogLevel :=
  [LogLevel.error, .warn, .info, .debug, .trace].find? fun level => level.name == name

inductive UnmappedColumns where
  | ignore
  | reject
deriving DecidableEq, Repr

def UnmappedColumns.name : UnmappedColumns → String
  | .ignore => "Ignore"
  | .reject => "Reject"

structure Config where
  logStatements : Bool
  logLevel : LogLevel
  /-- The most bytes of a statement's text that are logged. -/
  maxSqlLength : Option Nat
  unmapped : UnmappedColumns
deriving DecidableEq, Repr

/-- Statements are logged for debugging, 200 bytes of each; unknown columns are ignored. -/
def Config.standard : Config := ⟨true, .debug, some 200, .ignore⟩

end RecordMapper
