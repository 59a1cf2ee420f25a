import Triparse.Parser.Basic

/-!
# Repetition

A greedy loop (`repeatFrom`) tries one match after another. It ends at the first failure, after a
match that leaves the cursor where it was, and after the first match that makes the count exceed
the range. `many` tries the same parser each time; `separatedBy` puts a separator in front of each
value but the first, and leaves a separator without a value unread. A count outside the range fails
at the start. The bound on the number of tries is the first argument.
-/

set_option autoImplicit false

namespace Triparse.Parser

variable {α β : Type} {m : Type → Type} [Monad m]

/-- What a loop comes to: how many matches, where it stopped, and the values kept. -/
structure Tally (α : Type) where
  count : Nat
  cursor : Nat
  values : List α

/-- Try one match after another. `attempt n` is the try after `n` matches, `stopped n` the event of
its failure; `count` matches were made before `cursor`. -/
def repeatFrom [MonadLiftT Run m] (attempt : Nat → Nat → m (Reply α))
    (stopped : Nat → Failure → Event) (range : Repetition) : Nat → Nat → Nat → m (Tally α)
  | 0, _, _ => liftM (Run.unfinished (α := Tally α))
  | bound + 1, count, cursor => do
    let reply ← attempt count cursor
    match reply.outcome with
    | .error e => do
      Run.emit (stopped count e)
      pure ⟨count, cursor, []⟩
    | .ok a =>
      if reply.cursor = cursor ∨ range.exceededBy (count + 1) then
        pure ⟨count + 1, reply.cursor, reply.kept a⟩
      else do
        let rest ← repeatFrom attempt stopped range bound (count + 1) reply.cursor
        pure { rest with values := reply.kept a ++ rest.values }

/-- The reply of a repetition that started at `cursor`. -/
def Tally.reply (name : String) (range : Repetition) (cursor : Nat) (t : Tally α) :
    Reply (List α) :=
  if range.contains t.count then .succeed t.cursor t.values
  else .fail cursor (.countOutOfRange name cursor range t.count none)

/-- As many matches as there are, if their number is in the range. -/
def many [MonadLiftT Run m] (bound : Nat) (range : Repetition) (p : Parser α m) :
    Parser (List α) m where
  name := "many"
  expected := range.describe ++ " " ++ p.expected
  accepts := p.accepts
  parse input cursor := do
    let attempt := fun _ => p.execute input
    let tally ← repeatFrom attempt .repetitionStopped range bound 0 cursor
    pure (tally.reply "many" range cursor)

/-- The try for the next value of a list after `count` values: all but the first come after a
separator. -/
def nextValue (separator : Parser β m) (value : Parser α m) (input : Input) (count cursor : Nat) :
    m (Reply α) :=
  if count = 0 then value.execute input cursor
  else do
    let gap ← separator.execute input cursor
    match gap.outcome with
    | .error e => pure (.fail gap.cursor e)
    | .ok _ => value.execute input gap.cursor

/-- As many values with separators between them as there are, if their number is in the range. -/
def separatedBy [MonadLiftT Run m] (bound : Nat) (range : Repetition) (separator : Parser β m)
    (value : Parser α m) : Parser (List α) m where
  name := "separated_by"
  expected := range.describe ++ " " ++ value.expected ++ " separated by " ++ separator.expected
  accepts := value.accepts
  parse input cursor := do
    let attempt := nextValue separator value input
    let tally ← repeatFrom attempt .listStopped range bound 0 cursor
    pure (tally.reply "separated_by" range cursor)

end Triparse.Parser
