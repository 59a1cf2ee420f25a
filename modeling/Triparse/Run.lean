import Triparse.Event

/-!
# Runs

A run answers with a value and the events on the way to it, or does not answer at all
(`Run.unfinished`). Loops and recursion are given a bound on their depth; a run that meets the bound
is unfinished, so a finished run is the same under every larger bound. `bind_eq_finished` takes a
finished run apart.
-/

set_option autoImplicit false

namespace Triparse

/-- A computation that may not finish, with the events on the way. -/
inductive Run (α : Type) where
  | unfinished
  | finished (value : α) (events : List Event)
deriving Repr

namespace Run

variable {α β γ : Type}

/-- One run after another; their events follow each other. -/
protected def bind (x : Run α) (f : α → Run β) : Run β :=
  match x with
  | unfinished => unfinished
  | finished a before =>
    match f a with
    | unfinished => unfinished
    | finished b after => finished b (before ++ after)

instance : Monad Run where
  pure a := finished a []
  bind := Run.bind

/-- The run that is one event. -/
def emit (e : Event) : Run Unit := finished () [e]

/-- The answer of a finished run. -/
def answer? : Run α → Option α
  | unfinished => none
  | finished a _ => some a

/-! ## Laws -/

@[simp] theorem pure_eq (a : α) : (pure a : Run α) = finished a [] := rfl

@[simp] theorem unfinished_bind (f : α → Run β) : (unfinished : Run α) >>= f = unfinished := rfl

theorem finished_bind (a : α) (before : List Event) (f : α → Run β) :
    finished a before >>= f =
      match f a with
      | unfinished => unfinished
      | finished b after => finished b (before ++ after) := rfl

@[simp] theorem finished_nil_bind (a : α) (f : α → Run β) : finished a [] >>= f = f a := by
  rw [finished_bind]
  cases f a <;> rfl

/-- A run of two parts is finished when both are. -/
theorem bind_eq_finished {x : Run α} {f : α → Run β} {b : β} {events : List Event} :
    x >>= f = finished b events ↔
      ∃ a before after, x = finished a before ∧ f a = finished b after ∧
        events = before ++ after := by
  cases x with
  | unfinished => simp
  | finished a before =>
    rw [finished_bind]
    cases h : f a with
    | unfinished => simp [h]
    | finished b' after =>
      constructor
      · rintro ⟨⟩
        exact ⟨a, before, after, rfl, h, rfl⟩
      · rintro ⟨a', before', after', ⟨⟩, h', rfl⟩
        rw [h] at h'
        cases h'
        rfl

theorem id_map (x : Run α) : id <$> x = x := by
  cases x <;> simp [Functor.map, Run.bind]

theorem bind_assoc (x : Run α) (f : α → Run β) (g : β → Run γ) :
    x >>= f >>= g = x >>= fun a => f a >>= g := by
  cases x with
  | unfinished => rfl
  | finished a before =>
    show Run.bind (Run.bind _ f) g = Run.bind _ fun a => Run.bind (f a) g
    cases hf : f a with
    | unfinished => simp [Run.bind, hf]
    | finished b after => cases hg : g b <;> simp [Run.bind, hf, hg]

instance : LawfulMonad Run := LawfulMonad.mk' Run id_map finished_nil_bind bind_assoc

/-! ## Answers -/

@[simp] theorem answer?_finished (a : α) (events : List Event) :
    (finished a events).answer? = some a := rfl

@[simp] theorem answer?_emit (e : Event) : (emit e).answer? = some () := rfl

theorem answer?_eq_some {x : Run α} {a : α} :
    x.answer? = some a ↔ ∃ events, x = finished a events := by
  cases x <;> simp [answer?]

/-- A run of two parts answers what the second part answers on the answer of the first. -/
@[simp] theorem answer?_bind (x : Run α) (f : α → Run β) :
    (x >>= f).answer? = x.answer?.bind fun a => (f a).answer? := by
  cases x with
  | unfinished => rfl
  | finished a before =>
    show (Run.bind (finished a before) f).answer? = (f a).answer?
    cases h : f a <;> simp only [Run.bind, h, answer?]

end Run

end Triparse
