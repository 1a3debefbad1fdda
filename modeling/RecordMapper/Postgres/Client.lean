import RecordMapper.Connection
import RecordMapper.Postgres.Bind
import RecordMapper.Postgres.Decode
import RecordMapper.Postgres.Placeholder

/-!
The connection to a server. A statement is prepared with numbered placeholders, its parameters are
bound as the server's types say, and it is run; the rows of the reply are decoded.
-/

namespace RecordMapper.Postgres

structure Refusal where
  code : String

structure Prepared where
  parameterTypes : List ValueType
  columns : List (String × ValueType)

/-- What a server sends for a statement that was run: cells, and a tag that ends with a number. -/
structure Reply where
  rows : List (List (Option Bytes))
  tag : String

structure Server (σ : Type) where
  prepare : String → σ → Except Refusal Prepared × σ
  run : String → List (Option Bytes) → σ → Except Refusal Reply × σ

def noIdentityCode : String := "55000"

def bindAll : (index : Nat) → List ValueType → List SqlValue →
    Except QueryFault (List (Option Bytes))
  | index, type :: types, value :: values =>
    match bindChecked type value with
    | .error _ => .error (.unboundParameter index)
    | .ok bytes => (bindAll (index + 1) types values).map (bytes :: ·)
  | _, _, _ => .ok []

def bindParameters (types : List ValueType) (values : List SqlValue) :
    Except QueryFault (List (Option Bytes)) :=
  if types.length = values.length then bindAll 0 types values
  else .error (.parameterCount types.length values.length)

namespace Server

variable {σ : Type}

def send (server : Server σ) (statement : Statement) (state : σ) :
    Except QueryFault (Prepared × Reply) × σ :=
  let sql := numberedSql statement.sql
  match server.prepare sql state with
  | (.error refusal, state) => (.error (.refused refusal.code), state)
  | (.ok prepared, state) =>
    match bindParameters prepared.parameterTypes statement.parameters with
    | .error cause => (.error cause, state)
    | .ok cells =>
      match server.run sql cells state with
      | (.error refusal, state) => (.error (.refused refusal.code), state)
      | (.ok reply, state) => (.ok (prepared, reply), state)

/-- The number that ends a tag, zero for a tag without one. -/
def affectedRows (tag : String) : Nat :=
  let last := (tag.toList.reverse.takeWhile (· ≠ ' ')).reverse
  match (IntegerRange.unsigned 64).read last with
  | .ok n => n.toNat
  | .error _ => 0

def identityOf (prepared : Prepared) (reply : Reply) : Except QueryFault SqlValue :=
  match reply.rows with
  | [cells] =>
    match prepared.columns, cells with
    | (_, .int8) :: _, some bytes :: _ =>
      if bytes.length = 8 then .ok (.int (Int64.ofInt (bytesInt bytes)))
      else .error (.unreadableColumn 0)
    | [], _ => .error (.noColumn 0)
    | _, _ => .error (.unreadableColumn 0)
  | _ => .error .rowCount

def identityStatement : Statement := ⟨"SELECT lastval()", []⟩

def query (server : Server σ) (statement : Statement) (state : σ) :
    Except Fault (List Row) × σ :=
  match server.send statement state with
  | (.error cause, state) => (.error (.query cause), state)
  | (.ok (prepared, reply), state) => (reply.rows.mapM (decodeRow prepared.columns), state)

def execute (server : Server σ) (statement : Statement) (state : σ) : Except Fault Nat × σ :=
  match server.send statement state with
  | (.error cause, state) => (.error (.query cause), state)
  | (.ok (_, reply), state) => (.ok (affectedRows reply.tag), state)

/-- The number given to the last row; a server that has given none yet says so by its code. -/
def lastIdentity (server : Server σ) (state : σ) : Except Fault (Option SqlValue) × σ :=
  match server.send identityStatement state with
  | (.error cause, state) =>
    if cause.code? = some noIdentityCode then (.ok none, state) else (.error (.query cause), state)
  | (.ok (prepared, reply), state) =>
    match identityOf prepared reply with
    | .ok value => (.ok (some value), state)
    | .error cause => (.error (.query cause), state)

def client (server : Server σ) : Connection σ :=
  ⟨server.query, server.execute, server.lastIdentity⟩

end Server

end RecordMapper.Postgres
