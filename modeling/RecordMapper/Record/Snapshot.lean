import RecordMapper.Schema.Basic

/-!
Snapshots: the members of a record as JSON values, and what they say of its key.
-/

namespace RecordMapper

structure Snapshot where
  members : Members Json

namespace Snapshot

def empty : Snapshot := ⟨[]⟩

def ofJson : Json → Except Fault Snapshot
  | .object members => .ok ⟨members⟩
  | other => .error (.serialization (.notAnObject other))

def toJson (snapshot : Snapshot) : Json :=
  .object snapshot.members

def get? (snapshot : Snapshot) (member : String) : Option Json :=
  snapshot.members.get? member

def value? (snapshot : Snapshot) (member : String) : Option Json :=
  (snapshot.get? member).filter fun value => !value.isNull

def isSet (snapshot : Snapshot) (member : String) : Bool :=
  (snapshot.value? member).isSome

def set (snapshot : Snapshot) (member : String) (value : Json) : Snapshot :=
  ⟨snapshot.members.insert member value⟩

/-- Whether the whole key is set. A key that is set in part is a fault; a table without a key has
none that is set. -/
def hasKey (snapshot : Snapshot) (schema : Schema) : Except Fault Bool :=
  let set := schema.keyColumns.filter fun column => snapshot.isSet column.member
  if set.length = 0 then .ok false
  else if set.length = schema.keyColumns.length then .ok true
  else .error (.partialKey schema.table.text)

end Snapshot

end RecordMapper
