import Triparse.Parser.Mapping

/-!
# Optional parts

`maybe` turns a failure into an absent value at the start. An absent value can be replaced by a
default or left out of enclosing collections.
-/

set_option autoImplicit false

namespace Triparse.Parser

variable {α : Type} {m : Type → Type} [Monad m]

/-- The value of a parser, or none where it fails. -/
def maybe (p : Parser α m) : Parser (Option α) m where
  name := "maybe"
  expected := "optionally " ++ p.expected
  accepts := p.accepts
  parse input cursor := do
    let reply ← p.execute input cursor
    match reply.outcome with
    | .error _ => pure (.succeed cursor none)
    | .ok _ => pure (reply.map some)

/-- Replace an absent value by a default. -/
def valueIfAbsent (p : Parser (Option α) m) (default : α) : Parser α m :=
  p.map fun value => value.getD default

/-- Leave an absent value out of enclosing collections. -/
def ignoreIfAbsent (p : Parser (Option α) m) : Parser (Option α) m :=
  p.mapReply fun _ reply =>
    match reply.outcome with
    | .ok none => reply.suppress
    | _ => reply

end Triparse.Parser
