import Triparse.Parser.Basic

/-!
# Step-by-step rules

A rule is written as a program: it runs parsers one by one from a position of its own, which
successful steps advance, and may stop early with a failure (`Rule`). As a parser it ends where its
last successful step ended. A rule that is abandoned fails at its start; the failure is moved there
too if nothing had been consumed.
-/

set_option autoImplicit false

namespace Triparse

variable {α β γ : Type} {m : Type → Type}

/-- A program over a position in an input that ends with a value or is abandoned; its runs may have
effects of their own. -/
def RuleT (m : Type → Type) (α : Type) : Type := Input → Nat → m (Nat × Except Failure α)

/-- A program over a position in an input that ends with a value or is abandoned. -/
abbrev Rule : Type → Type := RuleT Run

namespace Rule

variable [Monad m]

instance : Monad (RuleT m) where
  pure a := fun _ position => pure (position, .ok a)
  bind x f := fun input position => do
    let (next, outcome) ← x input position
    match outcome with
    | .error e => pure (next, .error e)
    | .ok a => f a input next

/-- The rule that does not finish. -/
def unfinished [MonadLiftT Run m] : RuleT m α := fun _ _ =>
  liftM (Run.unfinished (α := Nat × Except Failure α))

/-- Abandon the rule. -/
def abort (e : Failure) : RuleT m α := fun _ position => pure (position, .error e)

/-- Run a parser and move past what it matched; its failure is an outcome, and the position stays. -/
def trial (p : Parser α m) : RuleT m (Except Failure α) := fun input position => do
  let reply ← p.execute input position
  match reply.outcome with
  | .error e => pure (position, .ok (.error e))
  | .ok a => pure (reply.cursor, .ok (.ok a))

/-- Run a parser; its failure abandons the rule. -/
def step (p : Parser α m) : RuleT m α := do
  match ← trial p with
  | .error e => abort e
  | .ok a => pure a

/-- Run a parser; where it fails there is no value. -/
def attempt (p : Parser α m) : RuleT m (Option α) := do
  match ← trial p with
  | .error _ => pure none
  | .ok a => pure (some a)

/-- The position. -/
def position : RuleT m Nat := fun _ position => pure (position, .ok position)

/-- Something that can be read off the input at the position. -/
def inspect (f : Input → Nat → α) : RuleT m α := fun input position =>
  pure (position, .ok (f input position))

/-- Abandon the rule with a message. -/
def reject (message : String) : RuleT m α := fun _ position =>
  pure (position, .error (.rejected "coroutine" position message))

/-! ## Laws -/

theorem pure_apply (a : α) (input : Input) (n : Nat) :
    (pure a : RuleT m α) input n = pure (n, .ok a) := rfl

theorem bind_apply (x : RuleT m α) (f : α → RuleT m β) (input : Input) (n : Nat) :
    (x >>= f) input n = x input n >>= fun ending =>
      match ending.2 with
      | .error e => pure (ending.1, .error e)
      | .ok a => f a input ending.1 := rfl

/-- To read the position changes nothing. -/
theorem position_bind_apply [LawfulMonad m] (f : Nat → RuleT m β) (input : Input) (n : Nat) :
    (position >>= f) input n = f n input n := by
  rw [bind_apply, position, LawfulMonad.pure_bind]

theorem id_map [LawfulMonad m] (x : RuleT m α) : id <$> x = x := by
  funext input n
  show (x >>= fun a => pure a) input n = x input n
  rw [bind_apply]
  refine (bind_congr fun ending => ?_).trans (bind_pure (x input n))
  obtain ⟨stop, e | a⟩ := ending <;> rfl

theorem pure_bind [LawfulMonad m] (a : α) (f : α → RuleT m β) : pure a >>= f = f a := by
  funext input n
  rw [bind_apply, pure_apply, LawfulMonad.pure_bind]

theorem bind_assoc [LawfulMonad m] (x : RuleT m α) (f : α → RuleT m β) (g : β → RuleT m γ) :
    x >>= f >>= g = x >>= fun a => f a >>= g := by
  funext input n
  rw [bind_apply, bind_apply, bind_apply, LawfulMonad.bind_assoc]
  refine bind_congr fun ending => ?_
  obtain ⟨stop, e | a⟩ := ending
  · exact LawfulMonad.pure_bind _ _
  · rfl

instance [LawfulMonad m] : LawfulMonad (RuleT m) :=
  LawfulMonad.mk' (RuleT m) id_map pure_bind bind_assoc

end Rule

/-- The parser that follows a rule. -/
def Parser.ofRule [Monad m] [MonadLiftT Run m] (body : RuleT m α) : Parser α m where
  name := "coroutine"
  expected := "a value produced by a rule"
  accepts := .univ
  parse input cursor := do
    let (position, outcome) ← body input cursor
    match outcome with
    | .ok a => pure (.succeed position a)
    | .error e => do
      Run.emit (.ruleAborted position e)
      pure (.fail cursor (if position = cursor then e.moveTo cursor else e))

/-- The words for an abandoned rule. -/
def Failure.abortMessage (e : Failure) : String := "rule aborted: " ++ e.message

end Triparse
