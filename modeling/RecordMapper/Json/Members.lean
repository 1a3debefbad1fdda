/-!
The members of an object: names with values, kept in the order of the names by code point, each name
once.
-/

namespace RecordMapper

abbrev Members (α : Type) := List (String × α)

namespace Members

variable {α : Type}

def Sorted (members : Members α) : Prop :=
  members.Pairwise fun a b => a.1 < b.1

def get? : Members α → String → Option α
  | [], _ => none
  | (other, value) :: members, name => if other = name then some value else get? members name

def insert (name : String) (value : α) : Members α → Members α
  | [] => [(name, value)]
  | (other, kept) :: members =>
    if name < other then (name, value) :: (other, kept) :: members
    else if name = other then (name, value) :: members
    else (other, kept) :: insert name value members

/-- Orders pairs by name; of equal names the last one stays. -/
def ofList (pairs : List (String × α)) : Members α :=
  pairs.foldl (fun members pair => members.insert pair.1 pair.2) []

theorem get?_insert (members : Members α) (name : String) (value : α) (sought : String) :
    (members.insert name value).get? sought =
      if name = sought then some value else members.get? sought := by
  induction members with
  | nil => rfl
  | cons member members ih =>
    obtain ⟨other, kept⟩ := member
    simp only [insert]
    split
    · rfl
    · split
      · rename_i same
        subst same
        simp only [get?]
        split <;> rfl
      · simp only [get?, ih]
        split <;> split <;> simp_all

end Members

end RecordMapper
