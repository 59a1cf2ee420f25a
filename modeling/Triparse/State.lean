import Triparse.Failure
import Triparse.Source

/-!
# States

A parser reads an `Input` (a source and settings) from a cursor and answers with a `Reply`: where
it stopped, a value or a failure, and whether enclosing collections should leave the value out. A
`State` is a reply together with the input it is about: a snapshot of a parse.
-/

set_option autoImplicit false

namespace Triparse

variable {α β : Type}

/-! ## Inputs -/

/-- What a parse reads, and how its failures quote it. -/
structure Input where
  source : Source
  settings : Settings
deriving DecidableEq, Repr

namespace Input

/-- The shape of the source. -/
def modality (i : Input) : Modality := i.source.modality

/-- The elements of the source, if it is made of elements of this type; none otherwise. -/
def elements (α : Type) [Element α] (i : Input) : List α := (Element.elements i.source).getD []

/-- The number of elements from a cursor on. -/
def remaining (i : Input) (cursor : Nat) : Nat := i.source.length - cursor

/-- Whether no element is left at a cursor. -/
def isEnd (i : Input) (cursor : Nat) : Bool := i.source.isEnd cursor

/-- The input at a cursor, quoted. -/
def snippet (i : Input) (cursor : Nat) : String := i.source.snippet i.settings cursor

/-- The failure that quotes the input at a cursor. -/
def noMatch (i : Input) (cursor : Nat) (parser expected : String) : Failure :=
  .noMatch parser cursor expected (i.snippet cursor)

/-- The failure that tells how many elements are left at a cursor. -/
def endOfInput (i : Input) (cursor : Nat) (parser expected : String) : Failure :=
  .endOfInput parser cursor expected (i.remaining cursor)

/-- The failure of a parser that does not accept the shape of the input. -/
def badInput (i : Input) (cursor : Nat) (parser : String) (accepts : Modalities) : Failure :=
  .badInput parser cursor accepts i.modality

end Input

/-! ## Replies -/

instance decidableEqExcept {ε : Type} [DecidableEq ε] [DecidableEq α] : DecidableEq (Except ε α)
  | .ok a, .ok b => decidable_of_iff (a = b) (by simp)
  | .error d, .error e => decidable_of_iff (d = e) (by simp)
  | .ok _, .error _ => isFalse nofun
  | .error _, .ok _ => isFalse nofun

/-- What a parser answers. -/
structure Reply (α : Type) where
  cursor : Nat
  outcome : Except Failure α
  suppressed : Bool
deriving DecidableEq, Repr

namespace Reply

/-- Success at a cursor. -/
def succeed (cursor : Nat) (value : α) : Reply α := ⟨cursor, .ok value, false⟩

/-- Failure at a cursor. -/
def fail (cursor : Nat) (failure : Failure) : Reply α := ⟨cursor, .error failure, false⟩

/-- Whether the reply is a failure. -/
def isFailure (r : Reply α) : Bool :=
  match r.outcome with
  | .error _ => true
  | .ok _ => false

/-- The value changed, cursor and flag kept. -/
def map (f : α → β) (r : Reply α) : Reply β := ⟨r.cursor, r.outcome.map f, r.suppressed⟩

/-- The reply with its value marked to be left out of collections. -/
def suppress (r : Reply α) : Reply α := { r with suppressed := true }

/-- The reply at another cursor. -/
def withCursor (cursor : Nat) (r : Reply α) : Reply α := { r with cursor := cursor }

/-- What a collection takes from a reply with value `value`. -/
def kept (r : Reply α) (value : α) : List α := if r.suppressed then [] else [value]

end Reply

/-! ## States -/

/-- A snapshot of a parse: a reply and the input it is about. -/
structure State (α : Type) extends Reply α where
  input : Input
deriving DecidableEq, Repr

namespace State

/-- The state before anything has been read. -/
def start (input : Input) : State Unit := ⟨.succeed 0 (), input⟩

/-- The number of elements from the cursor on. -/
def remaining (s : State α) : Nat := s.input.remaining s.cursor

/-- Whether no element is left. -/
def isAtEnd (s : State α) : Bool := s.input.isEnd s.cursor

/-- The input at the cursor, quoted. -/
def snippet (s : State α) : String := s.input.snippet s.cursor

/-- Success at a cursor of the same input. -/
def succeed (s : State α) (cursor : Nat) (value : β) : State β := ⟨.succeed cursor value, s.input⟩

/-- Success without a result. -/
def atCursor (s : State α) (cursor : Nat) : State Unit := s.succeed cursor ()

/-- Failure at the cursor. -/
def fail (s : State α) (failure : Failure) : State β := ⟨.fail s.cursor failure, s.input⟩

/-- Failure that quotes the input at the cursor. -/
def noMatch (s : State α) (parser expected : String) : State β :=
  s.fail (s.input.noMatch s.cursor parser expected)

/-- Failure that tells how many elements are left. -/
def endOfInput (s : State α) (parser expected : String) : State β :=
  s.fail (s.input.endOfInput s.cursor parser expected)

/-- Failure of a parser that accepts other shapes of input. -/
def badInput (s : State α) (parser : String) (accepts : Modalities) : State β :=
  s.fail (s.input.badInput s.cursor parser accepts)

/-- The value changed, cursor and flag kept. -/
def map (f : α → β) (s : State α) : State β := ⟨s.toReply.map f, s.input⟩

/-- The state with its value marked to be left out of collections. -/
def suppress (s : State α) : State α := { s with suppressed := true }

/-- The state at another cursor. -/
def withCursor (s : State α) (cursor : Nat) : State α := { s with cursor := cursor }

/-- The failure of a state as a state of another type; nothing if the state succeeded. -/
def propagate? (s : State α) : Option (State β) :=
  match s.outcome with
  | .error e => some (s.fail e)
  | .ok _ => none

/-- The position alone: success without a result, where the state stands. -/
def positionOnly (s : State α) : State Unit := s.atCursor s.cursor

end State

end Triparse
