import Triparse.Parser.Basic

/-!
# Recursion

A parser may refer to itself through a handle. A handle has descriptors of its own, which do not
depend on the definition, and stands for the definition unfolded to a bounded depth (`unfold`). The
definition is given a handle for each address: references can share one instance, or each be an
instance of its own at the place where it stands.
-/

set_option autoImplicit false

namespace Triparse.Parser

variable {α : Type} {m : Type → Type}

/-- A reference to a parser that is defined elsewhere. -/
def handle (parse : Input → Nat → m (Reply α)) : Parser α m where
  name := "recursive"
  expected := "recursive value"
  accepts := .univ
  parse := parse

/-- The instance at an address of the parser with the given definition, unfolded to depth `bound`;
`enter` happens at each execution. -/
def unfold (enter : Address → Run Unit) (define : (Address → Parser α) → Address → Parser α) :
    Nat → Address → Parser α
  | 0, _ => handle fun _ _ => .unfinished
  | bound + 1, address => handle fun input cursor => do
    enter address
    (define (unfold enter define bound) address).execute input cursor

/-- The parser with a definition, under the name of the definition; any input reaches it. -/
def defined [Monad m] (definition : Parser α m) : Parser α m where
  name := definition.name
  expected := definition.expected
  accepts := .univ
  parse := definition.execute

theorem execute_handle [Monad m] (parse : Input → Nat → m (Reply α)) (input : Input) (n : Nat) :
    (handle parse).execute input n = parse input n := execute_of_mem (Modalities.mem_univ _) n

theorem execute_defined [Monad m] (definition : Parser α m) (input : Input) (n : Nat) :
    (defined definition).execute input n = definition.execute input n :=
  execute_of_mem (Modalities.mem_univ _) n

/-- The failure of a handle whose parser is not there. -/
def orphanFailure (cursor : Nat) : Failure :=
  .rejected "recursive" cursor "recursive parser used outside of its definition"

/-- A handle whose parser is not there. -/
def orphan [Monad m] : Parser α m := handle fun _ cursor => pure (.fail cursor (orphanFailure cursor))

end Triparse.Parser
