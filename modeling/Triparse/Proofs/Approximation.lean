import Triparse.Proofs.Simulation

/-!
# Approximation

Of two runs, one *approximates* the other if the other gives its answer whenever it answers at all
(`Run.Approx`). So do the runs of a parser under a smaller and a greater bound, as all combinators pass
approximation on (`approx_congruent`), and it does not matter at which addresses the two stand. What a
grammar comes to, if loops and recursion may go as deep as they need, is therefore one state at most
(`Grammar.Returns`).
-/

set_option autoImplicit false

namespace Triparse

variable {α β γ : Type}

/-! ## Runs -/

/-- What the first run answers, if it answers, is what the second one answers. -/
def Run.Approx (x y : Run α) : Prop := ∀ a, x.answer? = some a → y.answer? = some a

namespace Run.Approx

theorem refl (x : Run α) : Approx x x := fun _ h => h

theorem unfinished (y : Run α) : Approx .unfinished y := fun _ h => nomatch h

theorem bind {x y : Run α} {f g : α → Run β} (h : Approx x y) (hfg : ∀ a, Approx (f a) (g a)) :
    Approx (x >>= f) (y >>= g) := by
  intro b hb
  rw [answer?_bind, Option.bind_eq_some_iff] at *
  obtain ⟨a, ha, hb⟩ := hb
  exact ⟨a, h a ha, hfg a b hb⟩

/-- What happens before the second run makes no difference to its answer. -/
theorem after {x y : Run α} (h : Approx x y) (before : List Event) :
    Approx x (.finished () before >>= fun _ => y) := by
  intro a ha
  rw [answer?_bind]
  exact h a ha

theorem before {x y : Run α} (h : Approx x y) (before : List Event) :
    Approx (.finished () before >>= fun _ => x) y := by
  intro a ha
  rw [answer?_bind] at ha
  exact h a ha

theorem of_agree {x y : Run α} (h : Run.Agree Eq x y) : Approx x y := by
  cases h with
  | unfinished => exact refl _
  | finished hab _ _ =>
    rw [hab]
    exact fun _ ha => ha

end Run.Approx

/-- Approximation goes on as runs do. -/
def Run.approximation : Simulation Run Run where
  rel := Run.Approx
  pure a := .refl (pure a)
  bind h hfg := h.bind hfg
  lift _ := .refl _

/-! ## Parsers -/

namespace Parser

/-- Parsers that look alike, the second of which answers what the first one does. -/
abbrev Approx (p q : Parser α) : Prop := Related Run.approximation p q

namespace Related

theorem refl (p : Parser α) : Parser.Approx p p := ⟨rfl, rfl, rfl, fun _ _ => Run.Approx.refl _⟩

/-- Instances of definitions that pass approximation on, the second one unfolded as deep at least. -/
theorem unfold {enter enter' : Address → Run Unit}
    {define define' : (Address → Parser α) → Address → Parser α}
    (he : ∀ a a', Run.Agree (fun _ _ => True) (enter a) (enter' a'))
    (hd : ∀ handles handles', (∀ a a', Parser.Approx (handles a) (handles' a')) →
      ∀ a a', Parser.Approx (define handles a) (define' handles' a')) :
    ∀ {depth depth' : Nat}, depth ≤ depth' → ∀ a a',
      Parser.Approx (Parser.unfold enter define depth a) (Parser.unfold enter' define' depth' a')
  | 0, 0, _, _, _ | 0, _ + 1, _, _, _ => handle fun _ _ => .unfinished _
  | depth + 1, depth' + 1, h, a, a' => by
    have hi := hd _ _ (unfold he hd (Nat.le_of_succ_le_succ h)) a a'
    refine handle fun input n => ?_
    exact (Run.Approx.of_agree ((he a a').mono fun _ _ _ => rfl)).bind fun _ => hi.execute input n

end Related

/-- A parser that is applied to states one after the other comes to what it comes to on each of them. -/
theorem answer?_applyAll {p : Parser α} {ss : List (State β)} {ts : List (State α)} :
    (p.applyAll ss).answer? = some ts ↔ List.Forall₂ (fun s t => (p.apply s).answer? = some t) ss ts := by
  induction ss generalizing ts with
  | nil => simp [applyAll, eq_comm]
  | cons s ss ih =>
    simp only [applyAll, Run.answer?_bind, Option.bind_eq_some_iff, ih, List.forall₂_cons_left_iff,
      Run.pure_eq, Run.answer?_finished, Option.some_inj]
    constructor
    · rintro ⟨t, ht, ts, hts, rfl⟩
      exact ⟨t, ts, ht, hts, rfl⟩
    · rintro ⟨t, ts, ht, hts, rfl⟩
      exact ⟨t, ht, ts, hts, rfl⟩

end Parser

/-! ## Grammars -/

section
variable {bound bound' : Nat}

/-- **All combinators pass approximation on.** -/
theorem approx_compositional (hb : bound ≤ bound') (F : Fragment) :
    Compositional bound bound' F Parser.Approx (RuleT.Related Run.approximation) :=
  Run.approximation.compositional (.less hb fun _ => .unfinished _) F

theorem approx_congruent (hb : bound ≤ bound') (F : Fragment) :
    Congruent bound bound' F Parser.Approx (RuleT.Related Run.approximation) :=
  { approx_compositional hb F with
    unfold := fun _ he hd => .unfold he hd hb }

/-- Under a greater bound a grammar answers as under a smaller one, wherever it stands. -/
theorem Grammar.parser_approx (g : Grammar) (hb : bound ≤ bound') (a a' : Address) :
    Parser.Approx (g.parser bound [] a) (g.parser bound' [] a') :=
  (approx_congruent hb .all).parser g (Fragment.admits_all g) (.nil (.refl _) _) a a'

end

/-! ## What a grammar comes to -/

namespace Grammar

/-- The grammar, started in the state `s`, comes to the state `t`: it does so under some bound. -/
def Returns (g : Grammar) (s : State α) (t : State Value) : Prop :=
  ∃ bound, ((g.toParser bound).apply s).answer? = some t

namespace Returns

variable {g : Grammar} {s : State α} {t t' : State Value}

/-- What the grammar comes to under one bound it comes to under every greater one. -/
theorem of_le {bound bound' : Nat} (h : ((g.toParser bound).apply s).answer? = some t)
    (hb : bound ≤ bound') : ((g.toParser bound').apply s).answer? = some t :=
  (g.parser_approx hb [] []).apply s t h

/-- A grammar that approximates another one, under whatever bound, comes to no other state than it. -/
theorem of_approx {h : Grammar}
    (H : ∀ bound, ∃ bound', ∀ input n,
      Run.Approx ((g.toParser bound).execute input n) ((h.toParser bound').execute input n))
    (hg : g.Returns s t) : h.Returns s t := by
  obtain ⟨bound, hg⟩ := hg
  obtain ⟨bound', H⟩ := H bound
  exact ⟨bound', Run.approximation.apply H s t hg⟩

/-- There is one state at most that a grammar comes to. -/
theorem unique (h : g.Returns s t) (h' : g.Returns s t') : t = t' := by
  obtain ⟨bound, h⟩ := h
  obtain ⟨bound', h'⟩ := h'
  have hm := of_le h (Nat.le_max_left bound bound')
  rw [of_le h' (Nat.le_max_right bound bound')] at hm
  exact (Option.some.inj hm).symm

/-- A grammar comes to something on each of some states if it does under one bound for all of them. -/
theorem forall₂_iff {ss : List (State α)} {ts : List (State Value)} :
    List.Forall₂ g.Returns ss ts ↔
      ∃ bound, List.Forall₂ (fun s t => ((g.toParser bound).apply s).answer? = some t) ss ts := by
  constructor
  · intro h
    induction h with
    | nil => exact ⟨0, .nil⟩
    | cons hr _ ih =>
      obtain ⟨bound, hr⟩ := hr
      obtain ⟨bound', ih⟩ := ih
      refine ⟨max bound bound', .cons (of_le hr (Nat.le_max_left _ _)) (ih.imp ?_)⟩
      exact fun _ _ hr => of_le hr (Nat.le_max_right _ _)
  · rintro ⟨bound, h⟩
    exact h.imp fun _ _ hr => ⟨bound, hr⟩

end Returns

end Grammar

end Triparse
