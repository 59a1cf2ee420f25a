/-!
# Count ranges

How often something may repeat: an inclusive range of counts whose upper end may be missing.
-/

set_option autoImplicit false

namespace Triparse

/-- An inclusive range of counts; without `max` it has no upper end. -/
structure Repetition where
  min : Nat
  max : Option Nat
deriving DecidableEq, Repr

namespace Repetition

/-- The range with the given ends; ends in the wrong order are swapped. -/
def between (a : Nat) : Option Nat → Repetition
  | none => ⟨a, none⟩
  | some b => if b < a then ⟨b, some a⟩ else ⟨a, some b⟩

/-- Any count. -/
def any : Repetition := between 0 none

/-- `n` or more. -/
def atLeast (n : Nat) : Repetition := between n none

/-- `n` or fewer. -/
def atMost (n : Nat) : Repetition := between 0 (some n)

/-- `n` and no other count. -/
def exactly (n : Nat) : Repetition := between n (some n)

/-- Whether more than `max` have been counted, after which no further count is in the range. -/
def exceededBy (r : Repetition) (count : Nat) : Bool :=
  match r.max with
  | none => false
  | some m => m < count

/-- Whether a count is in the range. -/
def contains (r : Repetition) (count : Nat) : Bool :=
  r.min ≤ count && !r.exceededBy count

/-- A range in writing. -/
def describe (r : Repetition) : String :=
  match r.min, r.max with
  | n, some m => if n = m then "exactly " ++ n.repr else n.repr ++ "-" ++ m.repr
  | 0, none => "any number of"
  | n, none => "at least " ++ n.repr

/-- The lesser end comes first, whichever way round the ends are given. -/
theorem between_some (a b : Nat) :
    between a (some b) = ⟨if b < a then b else a, some (if b < a then a else b)⟩ := by
  simp only [between]
  split <;> rfl

@[simp] theorem atLeast_eq (n : Nat) : atLeast n = ⟨n, none⟩ := rfl

@[simp] theorem atMost_eq (n : Nat) : atMost n = ⟨0, some n⟩ := by simp [atMost, between]

@[simp] theorem exactly_eq (n : Nat) : exactly n = ⟨n, some n⟩ := by simp [exactly, between]

end Repetition

end Triparse
