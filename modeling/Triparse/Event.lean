import Triparse.Failure

/-!
# Events

What can be seen of a parse besides its answer. A parser instance is known by its address, the path
from the root of the grammar to it, innermost step first; a recursive reference is a new instance
whose address goes through the reference.
-/

set_option autoImplicit false

namespace Triparse

/-- The path from the root of a grammar to a parser instance, innermost step first. -/
abbrev Address := List Nat

/-- Something that happened during a parse. -/
inductive Event where
  /-- A tap was executed at a cursor. -/
  | tapped (label : String) (cursor : Nat)
  /-- A recursive parser was executed; `traced` is its name if its building is to be traced. -/
  | entered (address : Address) (traced : Option String)
  /-- The producer of a recursive parser was called. -/
  | built (address : Address) (traced : Option String)
  /-- An alternative of a choice failed. -/
  | alternativeFailed (index : Nat) (failure : Failure)
  /-- A repetition ended at a failure after `count` matches. -/
  | repetitionStopped (count : Nat) (failure : Failure)
  /-- A separated list ended at a failure after `count` values. -/
  | listStopped (count : Nat) (failure : Failure)
  /-- The body of a rule was abandoned. -/
  | ruleAborted (position : Nat) (failure : Failure)
deriving Repr

end Triparse
