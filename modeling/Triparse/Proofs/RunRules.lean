import Triparse.Run

/-!
# Rules for runs

Two ways to speak about runs without taking them apart. `Run.Yields P x`: if the run `x` finishes, it
does so with a value in `P`. `Run.Agree R x y`: the runs `x` and `y` finish both or neither, and then
with values in `R`; what happens on the way need not be the same. Either has one rule for runs one
after another (`Yields.bind`, `Agree.bind`); the rules for parsers are put together from them.
-/

set_option autoImplicit false

namespace Triparse

namespace Run

variable {α β γ δ : Type}

/-! ## One run -/

/-- A run that finishes with a value in `P`, if it finishes. -/
def Yields (P : α → Prop) (x : Run α) : Prop := ∀ a events, x = finished a events → P a

namespace Yields

variable {P : α → Prop} {Q : β → Prop}

theorem unfinished : Yields P .unfinished := fun _ _ h => nomatch h

theorem finished {a : α} (h : P a) (events : List Event) : Yields P (.finished a events) := by
  rintro _ _ ⟨⟩
  exact h

theorem pure {a : α} (h : P a) : Yields P (Pure.pure a) := finished h []

theorem trivial (x : Run α) : Yields (fun _ => True) x := fun _ _ _ => True.intro

theorem bind {x : Run α} {f : α → Run β} (hx : Yields P x) (hf : ∀ a, P a → Yields Q (f a)) :
    Yields Q (x >>= f) := by
  intro b events h
  obtain ⟨a, before, after, hxa, hfa, -⟩ := bind_eq_finished.1 h
  exact hf a (hx a before hxa) b after hfa

theorem mono {P' : α → Prop} {x : Run α} (hx : Yields P x) (h : ∀ a, P a → P' a) :
    Yields P' x := fun a events he => h a (hx a events he)

theorem and {P' : α → Prop} {x : Run α} (hx : Yields P x) (hx' : Yields P' x) :
    Yields (fun a => P a ∧ P' a) x := fun a events he => ⟨hx a events he, hx' a events he⟩

theorem answer {x : Run α} (hx : Yields P x) {a : α} (h : x.answer? = some a) : P a := by
  obtain ⟨events, he⟩ := answer?_eq_some.1 h
  exact hx a events he

end Yields

/-! ## Two runs -/

/-- Runs of which both or neither finish, and then with values in `R`. -/
inductive Agree (R : α → β → Prop) : Run α → Run β → Prop
  | unfinished : Agree R .unfinished .unfinished
  | finished {a : α} {b : β} (h : R a b) (before after : List Event) :
      Agree R (.finished a before) (.finished b after)

namespace Agree

variable {R : α → β → Prop} {S : γ → δ → Prop}

theorem pure {a : α} {b : β} (h : R a b) : Agree R (Pure.pure a) (Pure.pure b) :=
  finished h [] []

/-- A run agrees with itself. -/
theorem refl (x : Run α) : Agree Eq x x := by
  cases x with
  | unfinished => exact .unfinished
  | finished a events => exact .finished rfl events events

theorem emit (d e : Event) : Agree (fun _ _ => True) (Run.emit d) (Run.emit e) :=
  finished True.intro [d] [e]

theorem bind {x : Run α} {y : Run β} {f : α → Run γ} {g : β → Run δ} (h : Agree R x y)
    (hfg : ∀ a b, R a b → Agree S (f a) (g b)) : Agree S (x >>= f) (y >>= g) := by
  cases h with
  | unfinished => exact .unfinished
  | @finished a b hab before after =>
    rw [finished_bind, finished_bind]
    generalize f a = u, g b = w, hfg a b hab = huw
    cases huw with
    | unfinished => exact .unfinished
    | finished hcd _ _ => exact .finished hcd _ _

theorem mono {R' : α → β → Prop} {x : Run α} {y : Run β} (h : Agree R x y)
    (hR : ∀ a b, R a b → R' a b) : Agree R' x y := by
  cases h with
  | unfinished => exact .unfinished
  | finished hab before after => exact .finished (hR _ _ hab) before after

/-- What the left run yields is known besides of what the two agree on. -/
theorem yields_left {P : α → Prop} {x : Run α} {y : Run β} (h : Agree R x y) (hx : Yields P x) :
    Agree (fun a b => P a ∧ R a b) x y := by
  cases h with
  | unfinished => exact .unfinished
  | finished hab before after => exact .finished ⟨hx _ before rfl, hab⟩ before after

/-- Runs that agree on what two functions make of their values have the same answer under them. -/
theorem map_answer? {f : α → γ} {g : β → γ} {x : Run α} {y : Run β}
    (h : Agree (fun a b => f a = g b) x y) : x.answer?.map f = y.answer?.map g := by
  cases h with
  | unfinished => rfl
  | finished hab _ _ => exact congrArg some hab

end Agree

end Run

end Triparse
