import Triparse.Parser.Mapping

/-!
# One after another

Pairs (`seq` and its projections) fail with the failure of their part, at their own start;
`sequence` and `times` wrap it with the index of the part. Suppressed values are left out of the
lists, but not of pairs.
-/

set_option autoImplicit false

namespace Triparse.Parser

variable {α β γ : Type} {m : Type → Type} [Monad m]

/-- Both values, one parser after the other. -/
def seq (p : Parser α m) (q : Parser β m) : Parser (α × β) m :=
  ofFunction fun input cursor => do
    let first ← p.execute input cursor
    match first.outcome with
    | .error e => pure (.fail cursor e)
    | .ok a => do
      let second ← q.execute input first.cursor
      match second.outcome with
      | .error e => pure (.fail cursor e)
      | .ok b => pure (.succeed second.cursor (a, b))

/-- One parser after the other, and the value of the first. -/
def skip (p : Parser α m) (q : Parser β m) : Parser α m := (p.seq q).map Prod.fst

/-- One parser after the other, and the value of the second. -/
def skipLeft (p : Parser α m) (q : Parser β m) : Parser β m := (p.seq q).map Prod.snd

/-- `before`, then `value`, then `after`, and the value in the middle. -/
def between (before : Parser α m) (after : Parser β m) (value : Parser γ m) : Parser γ m :=
  (before.skipLeft value).skip after

/-- What running parsers one after another comes to: the values kept and the cursor at the end, or
the index of the first parser that failed and its failure. -/
abbrev Chain (α : Type) : Type := Except (Nat × Failure) (Nat × List α)

/-- Run parsers one after another; `element` is the index of the first of them. -/
def runEach (input : Input) : List (Parser α m) → Nat → Nat → m (Chain α)
  | [], _, cursor => pure (.ok (cursor, []))
  | p :: ps, element, cursor => do
    let reply ← p.execute input cursor
    match reply.outcome with
    | .error e => pure (.error (element, e))
    | .ok a => do
      let rest ← runEach input ps (element + 1) reply.cursor
      pure (rest.map fun (stop, values) => (stop, reply.kept a ++ values))

/-- All parsers in order, and the list of their values. -/
def sequence (ps : List (Parser α m)) : Parser (List α) m where
  name := "sequence"
  expected := match ps with
    | [] => "nothing"
    | p :: _ => p.expected
  accepts := .univ
  parse input cursor := do
    match ← runEach input ps 0 cursor with
    | .error (element, e) => pure (.fail cursor (.within "sequence" element e))
    | .ok (stop, values) => pure (.succeed stop values)

/-- Run one parser `count` times; `index` is the number of matches before. -/
def runTimes (p : Parser α m) (input : Input) : Nat → Nat → Nat → m (Chain α)
  | 0, _, cursor => pure (.ok (cursor, []))
  | count + 1, index, cursor => do
    let reply ← p.execute input cursor
    match reply.outcome with
    | .error e => pure (.error (index, e))
    | .ok a => do
      let rest ← runTimes p input count (index + 1) reply.cursor
      pure (rest.map fun (stop, values) => (stop, reply.kept a ++ values))

/-- Exactly `count` matches; no further one is tried. A failed match is the cause of the failure,
which stands at the cause's position. -/
def times (p : Parser α m) (count : Nat) : Parser (List α) m where
  name := "repeat"
  expected := "exactly " ++ count.repr ++ " " ++ p.expected
  accepts := p.accepts
  parse input cursor := do
    match ← runTimes p input count 0 cursor with
    | .error (index, e) =>
      pure (.fail cursor (.countOutOfRange "repeat" e.position (.exactly count) index (some e)))
    | .ok (stop, values) => pure (.succeed stop values)

/-- Running one parser `count` times is running `count` copies of it. -/
theorem runTimes_eq_runEach (p : Parser α m) (input : Input) (count index cursor : Nat) :
    runTimes p input count index cursor =
      runEach input (List.replicate count p) index cursor := by
  induction count generalizing index cursor with
  | zero => rfl
  | succ count ih => simp only [runTimes, List.replicate_succ, runEach, ih]

end Triparse.Parser
