import Triparse.Parser.Mapping

/-!
# Parts of collected results

Picking one value of a list fails at the start if the list has no such value.
-/

set_option autoImplicit false

namespace Triparse.Parser

variable {α : Type} {m : Type → Type} [Monad m]

/-- The value that `select` finds in the list; a failure of the list's parser stays as it is. -/
def pick (p : Parser (List α) m) (name expected : String) (select : List α → Option α) :
    Parser α m where
  name := name
  expected := expected
  accepts := p.accepts
  parse input cursor := do
    let reply ← p.execute input cursor
    match reply.outcome with
    | .error e => pure (.fail reply.cursor e)
    | .ok values =>
      match select values with
      | some value => pure (.succeed reply.cursor value)
      | none => pure (.fail cursor (input.noMatch cursor name expected))

/-- The value at an index of the list. -/
def nth (p : Parser (List α) m) (index : Nat) : Parser α m :=
  p.pick "nth" ("a value at index " ++ index.repr) fun values => values[index]?

/-- The first value of the list. -/
def first (p : Parser (List α) m) : Parser α m := p.nth 0

/-- The last value of the list. -/
def last (p : Parser (List α) m) : Parser α m :=
  p.pick "last" "at least one value" List.getLast?

/-- The values in writing, with a separator between them. -/
def join (render : α → String) (p : Parser (List α) m) (separator : String) : Parser String m :=
  p.map fun values => String.intercalate separator (values.map render)

end Triparse.Parser
