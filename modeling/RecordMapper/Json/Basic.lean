import RecordMapper.Json.Members
import RecordMapper.Number.Decimal

/-!
JSON values. A number is an integer that fits 64 bits, signed or not, or else a finite double.
-/

namespace RecordMapper

inductive Json.Number where
  | integer (value : Int) (fits : FitsWord value)
  | real (value : FiniteDouble)
deriving DecidableEq

inductive Json where
  | null
  | bool (value : Bool)
  | number (value : Json.Number)
  | string (value : String)
  | array (elements : List Json)
  | object (members : List (String × Json))

namespace Json

namespace Number

def toDouble : Number → Double
  | .integer value _ => .ofInt .double value
  | .real x => .finite x

def int64? : Number → Option Int64
  | .integer value _ => if FitsInt64 value then some (Int64.ofInt value) else none
  | .real _ => none

theorem int64?_integer {i : Int} (h : FitsInt64 i) (fits : FitsWord i) :
    (integer i fits).int64? = some (Int64.ofInt i) :=
  if_pos h

def ofInt64 (i : Int64) : Number :=
  .integer i.toInt (by have := i.le_toInt; have := i.toInt_lt; omega)

end Number

def ofInt64 (i : Int64) : Json :=
  .number (.ofInt64 i)

theorem ofInt64_ofInt {i : Int} (h : FitsInt64 i) (fits : FitsWord i) :
    ofInt64 (Int64.ofInt i) = .number (.integer i fits) := by
  have hi : (Int64.ofInt i).toInt = i := Int64.toInt_ofInt_of_le h.1 h.2
  simp only [ofInt64, Number.ofInt64, hi]

def ofDouble? : Double → Option Json
  | .finite x => some (.number (.real x))
  | _ => none

def isNull : Json → Bool
  | .null => true
  | _ => false

def kind : Json → String
  | .null => "null"
  | .bool _ => "a boolean"
  | .number _ => "a number"
  | .string _ => "a string"
  | .array _ => "an array"
  | .object _ => "an object"

mutual

def nesting : Json → Nat
  | .array elements => elementsNesting elements + 1
  | .object members => membersNesting members + 1
  | _ => 0

def elementsNesting : List Json → Nat
  | [] => 0
  | value :: elements => max value.nesting (elementsNesting elements)

def membersNesting : List (String × Json) → Nat
  | [] => 0
  | (_, value) :: members => max value.nesting (membersNesting members)

end

mutual

def Ordered : Json → Prop
  | .array elements => ElementsOrdered elements
  | .object members => Members.Sorted members ∧ MembersOrdered members
  | _ => True

def ElementsOrdered : List Json → Prop
  | [] => True
  | value :: elements => value.Ordered ∧ ElementsOrdered elements

def MembersOrdered : List (String × Json) → Prop
  | [] => True
  | (_, value) :: members => value.Ordered ∧ MembersOrdered members

end

end Json

end RecordMapper
