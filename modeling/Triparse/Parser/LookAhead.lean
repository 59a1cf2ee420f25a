import Triparse.Parser.Mapping

/-!
# Looking ahead

`lookAhead` matches without moving; `anythingExcept` takes one element where a probe does not match;
`everythingUntil` takes the elements up to the first place where a probe matches.
-/

set_option autoImplicit false

namespace Triparse.Parser

variable {α β : Type} {m : Type → Type} [Monad m]

/-- Match, but stay at the start. -/
def lookAhead (p : Parser α m) : Parser α m where
  name := "look_ahead"
  expected := p.expected
  accepts := p.accepts
  parse input cursor := do
    let reply ← p.execute input cursor
    match reply.outcome with
    | .error e => pure (.fail cursor (e.moveTo cursor))
    | .ok _ => pure (reply.withCursor cursor)

/-- One element where the probe does not match. -/
def anythingExcept (α : Type) [Element α] (probe : Parser β m) : Parser α m where
  name := "anything_except"
  expected := "anything except " ++ probe.expected
  accepts := .only (Element.modality α)
  parse input cursor := do
    let reply ← probe.execute input cursor
    match reply.outcome with
    | .ok _ =>
      pure (.fail cursor (input.noMatch cursor "anything_except"
        ("anything except " ++ probe.expected)))
    | .error _ =>
      match (input.elements α)[cursor]? with
      | some element => pure (.succeed (cursor + 1) element)
      | none =>
        pure (.fail cursor (input.endOfInput cursor "anything_except"
          ("anything except " ++ probe.expected)))

/-- Probe at `cursor` and the `left` cursors after it: the first at which the probe matches, or the
last one. -/
def search (probe : Parser β m) (input : Input) : Nat → Nat → m (Except Nat Nat)
  | left, cursor => do
    let reply ← probe.execute input cursor
    match reply.outcome with
    | .ok _ => pure (.ok cursor)
    | .error _ =>
      match left with
      | 0 => pure (.error cursor)
      | left + 1 => search probe input left (cursor + 1)

/-- Everything up to where the probe matches; what the probe matches is left. -/
def everythingUntil (α : Type) [Element α] (probe : Parser β m) : Parser (List α) m where
  name := "everything_until"
  expected := "anything followed by " ++ probe.expected
  accepts := .only (Element.modality α)
  parse input cursor := do
    let elements := input.elements α
    match ← search probe input (elements.length - cursor) cursor with
    | .ok stop => pure (.succeed stop ((elements.drop cursor).take (stop - cursor)))
    | .error last =>
      pure (.fail cursor (.endOfInput "everything_until" last
        ("anything followed by " ++ probe.expected) 0))

/-- The text up to where the probe matches. -/
def stringUntil (probe : Parser β m) : Parser String m :=
  ((everythingUntil Char probe).map String.ofList).named "string_until"

end Triparse.Parser
