import Triparse.Session

/-!
# Scripts

A script works on one state, step by step: it executes grammars on it, changes it by hand, and
keeps copies of it under names. Each step leaves a state, and some leave a remark.
-/

set_option autoImplicit false

namespace Triparse

/-- A step of a script. -/
inductive ScriptStep where
  /-- Execute a grammar on the state. -/
  | execute (g : Grammar)
  /-- Success without a result at a cursor. -/
  | atCursor (cursor : Nat)
  /-- The same state at another cursor. -/
  | withCursor (cursor : Nat)
  | suppress
  | succeed (cursor : Nat) (value : Value)
  | fail (failure : Failure)
  | noMatch (parser expected : String)
  | endOfInput (parser expected : String)
  | badInput (parser : String) (accepts : Modalities)
  | map (f : Mapper)
  /-- Go on with the failure of the state, if it has one. -/
  | propagate
  /-- Go on with the position alone. -/
  | split
  | save (name : String)
  | load (name : String)
  /-- Look at the settings. -/
  | settings

/-- What a step of a script says besides the state that it leaves. -/
inductive Remark where
  | nothing
  | propagated (failed : Bool)
  | outcome (result : Except Failure Value)
  | equal (same : Bool)
  | settings (s : Settings)

/-- A script at work: the state, the copies kept, and what has been seen of executions. -/
structure Bench where
  state : State Value
  saved : List (String × State Value) := []
  session : Session := {}

namespace Bench

/-- The bench at the beginning of a script. -/
def start (input : Input) : Bench := { state := (State.start input).map fun _ => .unit }

/-- A step that leaves a state and says nothing. -/
def put (b : Bench) (state : State Value) : Bench × Remark := ({ b with state := state }, .nothing)

/-- Do a step. A grammar is a new one, of which nothing has been built. -/
def step (bound : Nat) (b : Bench) : ScriptStep → Option (Bench × Remark)
  | .execute g => do
    let (state, session) ← { b.session with built := {} }.execute (g.assemble bound) b.state
    return ({ b with state := state, session := session }, .nothing)
  | .atCursor cursor => some (b.put (b.state.succeed cursor .unit))
  | .withCursor cursor => some (b.put (b.state.withCursor cursor))
  | .suppress => some (b.put b.state.suppress)
  | .succeed cursor value => some (b.put (b.state.succeed cursor value))
  | .fail e => some (b.put (b.state.fail e))
  | .noMatch parser expected => some (b.put (b.state.noMatch parser expected))
  | .endOfInput parser expected => some (b.put (b.state.endOfInput parser expected))
  | .badInput parser accepts => some (b.put (b.state.badInput parser accepts))
  | .map f => some (b.put (b.state.map f.apply))
  | .propagate =>
    match b.state.propagate? with
    | some failed => some ({ b with state := failed }, .propagated true)
    | none => some (b, .propagated false)
  | .split =>
    let position := b.state.positionOnly.map fun _ => .unit
    some ({ b with state := position }, .outcome b.state.outcome)
  | .save name => some ({ b with saved := (name, b.state) :: b.saved }, .nothing)
  | .load name =>
    match b.saved.lookup name with
    | some kept => some ({ b with state := kept }, .equal (kept = b.state))
    | none => none
  | .settings => some (b, .settings b.state.input.settings)

/-- Do steps in order: the states they leave, with their remarks. -/
def steps (bound : Nat) (b : Bench) : List ScriptStep → Option (List (State Value × Remark) × Bench)
  | [] => some ([], b)
  | s :: ss => do
    let (next, remark) ← b.step bound s
    let (rest, final) ← steps bound next ss
    return ((next.state, remark) :: rest, final)

end Bench

end Triparse
