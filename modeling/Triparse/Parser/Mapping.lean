import Triparse.Parser.Basic

/-!
# Changing results and names

`map` and its kin change successful replies and keep descriptors; `named` and `label` replace
failures and keep successes.
-/

set_option autoImplicit false

namespace Triparse.Parser

variable {α β : Type} {m : Type → Type} [Monad m]

/-- Change successful replies; a failure stays where the parser left it. -/
def mapReply (p : Parser α m) (f : Input → Reply α → Reply β) : Parser β m where
  name := p.name
  expected := p.expected
  accepts := p.accepts
  parse input cursor := do
    let reply ← p.execute input cursor
    match reply.outcome with
    | .error e => pure (.fail reply.cursor e)
    | .ok _ => pure (f input reply)

/-- Change the value of successes. -/
def map (p : Parser α m) (f : α → β) : Parser β m :=
  p.mapReply fun _ reply => reply.map f

/-- Match as before, but leave the value out of enclosing collections. -/
def ignore (p : Parser α m) : Parser α m :=
  p.mapReply fun _ reply => reply.suppress

/-- The failure of a parser as its wrapper reports it: relabelled, if there is a label, and under
the wrapper's name, if it was reported under the parser's own. -/
def restate (inner name : String) (label : Option String) (e : Failure) : Failure :=
  let e := match label with
    | some text => e.relabel text
    | none => e
  if e.parser = inner then e.rename name else e

/-- Report failures under another name and, with a label, as expecting something else; they are
reported at the cursor where the parser started. -/
def described (p : Parser α m) (name : String) (label : Option String) : Parser α m where
  name := name
  expected := label.getD p.expected
  accepts := p.accepts
  parse input cursor := do
    let reply ← p.execute input cursor
    match reply.outcome with
    | .error e => pure (.fail cursor (restate p.name name label e))
    | .ok _ => pure reply

/-- Report the parser's own failures under another name. -/
def named (p : Parser α m) (name : String) : Parser α m := p.described name none

/-- Report failures as expecting what the label says. -/
def label (p : Parser α m) (text : String) : Parser α m := p.described p.name (some text)

end Triparse.Parser
