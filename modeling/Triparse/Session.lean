import Triparse.Grammar.Building

/-!
# Sessions

A session is what there is of a grammar between its runs: the recursive parsers built so far, which
the next run finds and adds to, with the log and the trace of what has happened (`Session.note`).
-/

set_option autoImplicit false

namespace Triparse

/-- How important a line of the log is. -/
inductive LogLevel where
  | debug
  | trace
deriving DecidableEq, Repr

/-- The word for a level. -/
def LogLevel.describe : LogLevel → String
  | .debug => "DEBUG"
  | .trace => "TRACE"

/-- A line of the log. -/
structure LogLine where
  level : LogLevel
  message : String
deriving DecidableEq, Repr

/-- Something that a grammar has asked to be told about. -/
inductive TraceMark where
  | tapped (label : String) (cursor : Nat)
  | built (name : String)
deriving DecidableEq, Repr

/-- What some runs have built, and what has been seen of them. -/
structure Session where
  built : Store := {}
  log : Array LogLine := #[]
  trace : Array TraceMark := #[]

namespace Session

/-- Add a line to the log. -/
def write (s : Session) (level : LogLevel) (message : String) : Session :=
  { s with log := s.log.push ⟨level, message⟩ }

/-- Add a mark to the trace. -/
def mark (s : Session) (m : TraceMark) : Session := { s with trace := s.trace.push m }

/-- The producer of a recursive parser is called. -/
def building (s : Session) (traced : Option String) : Session :=
  let s := s.write .trace "building recursive parser"
  match traced with
  | some name => s.mark (.built name)
  | none => s

/-- Take note of an event. -/
def note (s : Session) : Event → Session
  | .tapped label cursor => s.mark (.tapped label cursor)
  | .entered _ _ => s
  | .built _ traced => s.building traced
  | .alternativeFailed index e =>
    s.write .trace ("choice alternative " ++ index.repr ++ " failed: " ++ e.message)
  | .repetitionStopped count e =>
    s.write .trace ("many stopped after " ++ count.repr ++ " matches: " ++ e.message)
  | .listStopped count e =>
    s.write .trace ("separated list stopped after " ++ count.repr ++ " values: " ++ e.message)
  | .ruleAborted position e =>
    s.write .trace ("coroutine aborted at " ++ position.repr ++ ": " ++ e.message)

/-- Take note of events in order. -/
def noteAll (s : Session) (events : List Event) : Session := events.foldl note s

/-- Execute a parser on a state with what has been built; the answer is missing if the run does not
finish. -/
def execute {α β : Type} (s : Session) (p : Parser α Building) (state : State β) :
    Option (State α × Session) :=
  match (p.apply state).run s.built with
  | .unfinished => none
  | .finished (next, built) events => some (next, { s with built := built }.noteAll events)

/-- Run a parser on an input from its beginning. -/
def run {α : Type} (s : Session) (p : Parser α Building) (input : Input) : Option (State α × Session) := do
  let s := s.write .debug ("running " ++ p.name ++ " parser over " ++ input.source.length.repr ++
    " elements of " ++ input.modality.describe)
  let (state, s) ← s.execute p (State.start input)
  let s := match state.outcome with
    | .error e => s.write .debug (p.name ++ " parser failed: " ++ e.message)
    | .ok _ => s.write .debug (p.name ++ " parser stopped at " ++ state.cursor.repr)
  return (state, s)

/-- Run a parser on several inputs, one after the other. -/
def runAll {α : Type} (s : Session) (p : Parser α Building) :
    List Input → Option (List (State α) × Session)
  | [] => some ([], s)
  | input :: inputs => do
    let (state, s) ← s.run p input
    let (states, s) ← s.runAll p inputs
    return (state :: states, s)

/-- Run a reference to a definition that is not complete, on an empty text: the grammar that
succeeds with what its failure says. -/
def earlyReference (s : Session) : Grammar × Session :=
  match s.run (Parser.orphan : Parser Unit Building) ⟨.characters [], {}⟩ with
  | some (⟨⟨_, .error e, _⟩, _⟩, s) => (.succeedWith (.str e.message), s)
  | _ => (.succeedWith (.str ""), s)

end Session

end Triparse
