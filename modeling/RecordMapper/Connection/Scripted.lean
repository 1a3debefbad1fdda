import RecordMapper.Connection

/-!
A connection that answers from a script: the replies for rows and for changed rows are used up one
after another, and the number of the last row stays what it was set to.
-/

namespace RecordMapper

structure Script where
  rows : List (Except Fault (List Row))
  affected : List (Except Fault Nat)
  identity : Except Fault (Option SqlValue)

def Script.empty : Script := ⟨[], [], .ok none⟩

/-- Without a reply at hand there are no rows, one row is changed, and no row has a number. -/
def Connection.scripted : Connection Script where
  query _ script :=
    match script.rows with
    | [] => (.ok [], script)
    | reply :: rows => (reply, { script with rows := rows })
  execute _ script :=
    match script.affected with
    | [] => (.ok 1, script)
    | reply :: affected => (reply, { script with affected := affected })
  lastIdentity script := (script.identity, script)

end RecordMapper
