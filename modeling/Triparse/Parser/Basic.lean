import Triparse.Run
import Triparse.State

/-!
# Parsers

A parser is a behaviour (`parse`) and three descriptors for diagnostics: its name, what it expects
and the shapes of input it accepts. Parsers are always run through `execute`, which turns away
input of other shapes before the parser's own logic sees it, or through `apply`, which besides lets
failed states pass.
-/

set_option autoImplicit false

namespace Triparse

/-- A parser with results of type `α`; its runs may have effects of their own. -/
structure Parser (α : Type) (m : Type → Type := Run) where
  name : String
  expected : String
  accepts : Modalities
  parse : Input → Nat → m (Reply α)

namespace Parser

variable {α β : Type} {m : Type → Type}

/-- The parser that is a function, with the descriptors of an anonymous parser. -/
def ofFunction (parse : Input → Nat → m (Reply α)) : Parser α m where
  name := "parser"
  expected := "a value"
  accepts := .univ
  parse := parse

/-- The same parser among parsers whose runs have effects of their own. -/
def lift [MonadLiftT Run m] (p : Parser α) : Parser α m :=
  { p with parse := fun input cursor => liftM (p.parse input cursor) }

@[simp] theorem lift_self (p : Parser α) : (p.lift : Parser α) = p := rfl

/-- Run a parser on an input from a cursor. -/
def execute [Monad m] (p : Parser α m) (input : Input) (cursor : Nat) : m (Reply α) :=
  if input.modality ∈ p.accepts then p.parse input cursor
  else pure (.fail cursor (input.badInput cursor p.name p.accepts))

/-- Run a parser on a state; a failed state stays as it is. -/
def apply [Monad m] (p : Parser α m) (s : State β) : m (State α) :=
  match s.outcome with
  | .error e => pure (s.fail e)
  | .ok _ => do
    let reply ← p.execute s.input s.cursor
    pure ⟨reply, s.input⟩

theorem execute_of_mem [Monad m] {p : Parser α m} {input : Input} (h : input.modality ∈ p.accepts)
    (cursor : Nat) : p.execute input cursor = p.parse input cursor := if_pos h

theorem execute_of_not_mem {p : Parser α} {input : Input} (h : input.modality ∉ p.accepts)
    (cursor : Nat) :
    p.execute input cursor =
      .finished (.fail cursor (input.badInput cursor p.name p.accepts)) [] := if_neg h

@[simp] theorem execute_ofFunction (f : Input → Nat → Run (Reply α)) (input : Input)
    (cursor : Nat) : (ofFunction f).execute input cursor = f input cursor :=
  execute_of_mem (Modalities.mem_univ _) cursor

/-- On a live state a parser is executed at its cursor. -/
theorem apply_of_ok (p : Parser α) {s : State β} {b : β} (hs : s.outcome = .ok b) :
    p.apply s = p.execute s.input s.cursor >>= fun reply => pure ⟨reply, s.input⟩ := by
  rw [apply, hs]

theorem answer?_apply_of_ok (p : Parser α) {s : State β} {b : β} (hs : s.outcome = .ok b) :
    (p.apply s).answer? = (p.execute s.input s.cursor).answer?.map fun reply => ⟨reply, s.input⟩ := by
  rw [apply_of_ok p hs, Run.answer?_bind]
  exact Option.map_eq_bind.symm

end Parser

end Triparse
