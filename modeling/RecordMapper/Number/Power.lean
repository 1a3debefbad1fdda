/-!
Powers, and numbers in positional notation.
-/

namespace RecordMapper

-- A power is the same term in every module, whatever other powers a module imports.
attribute [scoped instance (2000)] instPowNat

/-- Reading on from a number moves it up by one place for each digit. -/
theorem foldl_positional {α : Type} (base : Nat) (value : α → Nat) (digits : List α) (n : Nat) :
    digits.foldl (fun n digit => n * base + value digit) n =
      n * base ^ digits.length + digits.foldl (fun n digit => n * base + value digit) 0 := by
  induction digits generalizing n with
  | nil => simp
  | cons digit digits ih =>
    rw [List.foldl_cons, List.foldl_cons, ih, ih (0 * base + value digit), List.length_cons,
      Nat.pow_succ', Nat.zero_mul, Nat.zero_add, Nat.add_mul, Nat.mul_assoc, Nat.add_assoc]

end RecordMapper
