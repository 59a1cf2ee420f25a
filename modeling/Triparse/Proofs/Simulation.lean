import Triparse.Proofs.Congruence
import Triparse.Proofs.Primitives

/-!
# Simulations

A relation between runs with effects of two kinds is a *simulation* if related runs can go on in related ways,
and it holds between a run and itself, on both sides, unless recursive parsers are executed in it
(`Simulation`). Parsers are related by it if they look alike and do related things (`Parser.Related`), and
rules if they do (`RuleT.Related`). As no combinator does anything but to put runs together, every combinator
passes that on: a simulation is compositional (`Simulation.compositional`). The bounds are the same on both
sides, unless the relation lets the left one break off anywhere (`Simulation.Bounds`).
-/

set_option autoImplicit false

namespace Triparse

/-- The address of the recursive parser that an event is the execution or the building of. -/
def Event.instance? : Event → Option Address
  | .entered a _ | .built a _ => some a
  | _ => none

/-- No recursive parser is executed or built in the run. -/
def Run.Quiet {α : Type} : Run α → Prop
  | .unfinished => True
  | .finished _ events => ∀ e ∈ events, e.instance? = none

/-- A relation between runs that goes on as they do. -/
structure Simulation (m m' : Type → Type) [Monad m] [Monad m'] [MonadLiftT Run m] [MonadLiftT Run m'] where
  rel {α : Type} : m α → m' α → Prop
  pure {α : Type} (a : α) : rel (pure a) (pure a)
  bind {α β : Type} {x : m α} {y : m' α} {f : α → m β} {g : α → m' β} :
    rel x y → (∀ a, rel (f a) (g a)) → rel (x >>= f) (y >>= g)
  lift {α : Type} {x : Run α} : x.Quiet → rel (liftM x) (liftM x)

variable {m m' : Type → Type} [Monad m] [Monad m'] [MonadLiftT Run m] [MonadLiftT Run m']
  {α β γ : Type} {S : Simulation m m'} {bound bound' : Nat}

namespace Simulation

theorem emit (S : Simulation m m') {e : Event} (he : e.instance? = none) :
    S.rel (liftM (Run.emit e)) (liftM (Run.emit e)) := S.lift (by simpa [Run.emit, Run.Quiet] using he)

/-- Bounds under which loops are related: the same on both sides, or a greater one on the right, if a run
that does not finish is related to any. -/
inductive Bounds (S : Simulation m m') : Nat → Nat → Prop where
  | same (bound : Nat) : Bounds S bound bound
  | less {bound bound' : Nat} (h : bound ≤ bound')
    (hu : ∀ {α : Type} (y : m' α), S.rel (liftM (Run.unfinished (α := α))) y) : Bounds S bound bound'

/-- A loop that has met its bound on the left is related to one that may go on. -/
theorem Bounds.unfinished (hb : S.Bounds 0 bound) {f : Nat → m' α}
    (hf : f 0 = liftM (Run.unfinished (α := α))) :
    S.rel (liftM (Run.unfinished (α := α))) (f bound) := by
  cases hb with
  | same => exact hf ▸ S.lift trivial
  | less _ hu => exact hu _

theorem Bounds.exists_eq_succ (hb : S.Bounds (bound + 1) bound') :
    ∃ rest, bound' = rest + 1 ∧ S.Bounds bound rest := by
  cases hb with
  | same => exact ⟨bound, rfl, .same bound⟩
  | less h hu => exact ⟨bound' - 1, by omega, .less (by omega) hu⟩

/-- What two parsers do to a state is related if what they do wherever they are executed is. -/
theorem apply (S : Simulation m m') {p : Parser α m} {q : Parser α m'}
    (h : ∀ input n, S.rel (p.execute input n) (q.execute input n)) (s : State β) :
    S.rel (p.apply s) (q.apply s) := by
  unfold Parser.apply
  split
  · exact S.pure _
  · exact S.bind (h _ _) fun _ => S.pure _

end Simulation

/-! ## Parsers -/

namespace Parser

/-- Apply a parser to states, to one after the other. -/
def applyAll (p : Parser α m) : List (State β) → m (List (State α))
  | [] => pure []
  | s :: ss => do
    let t ← p.apply s
    let ts ← p.applyAll ss
    pure (t :: ts)

/-- Parsers that look alike and do related things. -/
structure Related (S : Simulation m m') (p : Parser α m) (q : Parser α m') : Prop where
  accepts : p.accepts = q.accepts
  name : p.name = q.name
  expected : p.expected = q.expected
  execute (input : Input) (n : Nat) : S.rel (p.execute input n) (q.execute input n)

namespace Related

variable {p : Parser α m} {q : Parser α m'}

theorem of_parse (ha : p.accepts = q.accepts) (hn : p.name = q.name) (hx : p.expected = q.expected)
    (h : ∀ input n, S.rel (p.parse input n) (q.parse input n)) : Related S p q where
  accepts := ha
  name := hn
  expected := hx
  execute input n := by
    unfold Parser.execute
    rw [ha, hn]
    split
    · exact h input n
    · exact S.pure _

theorem lift {p : Parser α} (hp : ∀ input n, (p.execute input n).Quiet) : Related S p.lift p.lift where
  accepts := rfl
  name := rfl
  expected := rfl
  execute input n := by
    have hq := hp input n
    unfold Parser.execute Parser.lift at *
    dsimp only
    split
    · rename_i hm
      rw [if_pos hm] at hq
      exact S.lift hq
    · exact S.pure _

/-- Related parsers do related things to a state. -/
theorem apply (h : Related S p q) (s : State β) : S.rel (p.apply s) (q.apply s) := S.apply h.execute s

theorem applyAll (h : Related S p q) (ss : List (State β)) : S.rel (p.applyAll ss) (q.applyAll ss) := by
  induction ss with
  | nil => exact S.pure _
  | cons s ss ih => exact S.bind (h.apply s) fun _ => S.bind ih fun _ => S.pure _

/-! ### Combinators -/

theorem mapReply (h : Related S p q) (f : Input → Reply α → Reply β) :
    Related S (p.mapReply f) (q.mapReply f) := by
  refine of_parse h.accepts h.name h.expected fun input n => S.bind (h.execute input n) ?_
  rintro ⟨stop, e | a, flag⟩ <;> exact S.pure _

theorem map (h : Related S p q) (f : α → β) : Related S (p.map f) (q.map f) := h.mapReply _

theorem described (h : Related S p q) (name : String) (label : Option String) :
    Related S (p.described name label) (q.described name label) := by
  refine of_parse h.accepts rfl (congrArg label.getD h.expected) fun input n =>
    S.bind (h.execute input n) ?_
  rintro ⟨stop, e | a, flag⟩
  · dsimp only
    rw [h.name]
    exact S.pure _
  · exact S.pure _

theorem label (h : Related S p q) (text : String) : Related S (p.label text) (q.label text) := by
  unfold Parser.label
  rw [h.name]
  exact h.described _ _

theorem pick {p : Parser (List α) m} {q : Parser (List α) m'} (h : Related S p q)
    (name expected : String) (select : List α → Option α) :
    Related S (p.pick name expected select) (q.pick name expected select) := by
  refine of_parse h.accepts rfl rfl fun input n => S.bind (h.execute input n) ?_
  rintro ⟨stop, e | a, flag⟩
  · exact S.pure _
  · dsimp only
    split <;> exact S.pure _

theorem firstMatch {ps : List (Parser α m)} {qs : List (Parser α m')}
    (h : List.Forall₂ (Related S) ps qs) (input : Input) (n : Nat) :
    ∀ index, S.rel (firstMatch input n ps index) (firstMatch input n qs index) := by
  induction h with
  | nil => exact fun _ => S.pure _
  | cons hpq _ ih =>
    refine fun index => S.bind (hpq.execute input n) ?_
    rintro ⟨stop, e | a, flag⟩
    · exact S.bind (S.emit rfl) fun _ => ih (index + 1)
    · exact S.pure _

theorem choice {ps : List (Parser α m)} {qs : List (Parser α m')} (h : List.Forall₂ (Related S) ps qs) :
    Related S (Parser.choice ps) (Parser.choice qs) := by
  have ha : ps.map Parser.accepts = qs.map Parser.accepts := by
    rw [← List.forall₂_eq_eq_eq, List.forall₂_map_left_iff, List.forall₂_map_right_iff]
    exact h.imp fun _ _ hpq => hpq.accepts
  have hx : ps.map Parser.expected = qs.map Parser.expected := by
    rw [← List.forall₂_eq_eq_eq, List.forall₂_map_left_iff, List.forall₂_map_right_iff]
    exact h.imp fun _ _ hpq => hpq.expected
  have hx' : (Parser.choice ps).expected = (Parser.choice qs).expected :=
    congrArg (fun xs => "one of " ++ String.intercalate ", " xs) hx
  refine of_parse (acceptsAny_congr ha) rfl hx' fun input n =>
    S.bind (firstMatch h input n 0) fun found => ?_
  rw [hx]
  cases found <;> exact S.pure _

theorem seq {p' : Parser β m} {q' : Parser β m'} (h : Related S p q) (h' : Related S p' q') :
    Related S (p.seq p') (q.seq q') := by
  refine of_parse rfl rfl rfl fun input n => S.bind (h.execute input n) ?_
  rintro ⟨stop, e | a, flag⟩
  · exact S.pure _
  · refine S.bind (h'.execute input stop) ?_
    rintro ⟨stop', e | b, flag'⟩ <;> exact S.pure _

theorem runEach {ps : List (Parser α m)} {qs : List (Parser α m')} (h : List.Forall₂ (Related S) ps qs)
    (input : Input) :
    ∀ element n, S.rel (runEach input ps element n) (runEach input qs element n) := by
  induction h with
  | nil => exact fun _ _ => S.pure _
  | cons hpq _ ih =>
    refine fun element n => S.bind (hpq.execute input n) ?_
    rintro ⟨stop, e | a, flag⟩
    · exact S.pure _
    · exact S.bind (ih (element + 1) stop) fun _ => S.pure _

theorem sequence {ps : List (Parser α m)} {qs : List (Parser α m')} (h : List.Forall₂ (Related S) ps qs) :
    Related S (Parser.sequence ps) (Parser.sequence qs) := by
  have hx : (Parser.sequence ps).expected = (Parser.sequence qs).expected := by
    cases h with
    | nil => rfl
    | cons hpq _ => exact hpq.expected
  refine of_parse rfl rfl hx fun input n => S.bind (runEach h input 0 n) ?_
  rintro (e | ⟨stop, values⟩) <;> exact S.pure _

theorem times (h : Related S p q) (count : Nat) :
    Related S (Parser.times p count) (Parser.times q count) := by
  have hps : List.Forall₂ (Related S) (List.replicate count p) (List.replicate count q) :=
    List.forall₂_iff_get.2 ⟨by simp, fun _ _ _ => by simpa using h⟩
  have hx : (Parser.times p count).expected = (Parser.times q count).expected :=
    congrArg (fun x => "exactly " ++ count.repr ++ " " ++ x) h.expected
  refine of_parse h.accepts rfl hx fun input n => ?_
  simp only [Parser.times, runTimes_eq_runEach]
  refine S.bind (runEach hps input 0 n) ?_
  rintro (e | ⟨stop, values⟩) <;> exact S.pure _

theorem maybe (h : Related S p q) : Related S (Parser.maybe p) (Parser.maybe q) := by
  refine of_parse h.accepts rfl (congrArg ("optionally " ++ ·) h.expected) fun input n =>
    S.bind (h.execute input n) ?_
  rintro ⟨stop, e | a, flag⟩ <;> exact S.pure _

theorem lookAhead (h : Related S p q) : Related S (Parser.lookAhead p) (Parser.lookAhead q) := by
  refine of_parse h.accepts rfl h.expected fun input n => S.bind (h.execute input n) ?_
  rintro ⟨stop, e | a, flag⟩ <;> exact S.pure _

theorem anythingExcept [Element γ] (h : Related S p q) :
    Related S (Parser.anythingExcept γ p) (Parser.anythingExcept γ q) := by
  refine of_parse rfl rfl (congrArg ("anything except " ++ ·) h.expected) fun input n =>
    S.bind (h.execute input n) ?_
  rintro ⟨stop, e | a, flag⟩
  · dsimp only
    rw [h.expected]
    split <;> exact S.pure _
  · dsimp only
    rw [h.expected]
    exact S.pure _

theorem search (h : Related S p q) (input : Input) :
    ∀ left n, S.rel (search p input left n) (search q input left n)
  | left, n => by
    unfold Parser.search
    refine S.bind (h.execute input n) ?_
    rintro ⟨stop, e | a, flag⟩
    · -- The probe has failed on both sides; the next place is tried, if there is one.
      cases left with
      | zero => exact S.pure _
      | succ left => exact search h input left (n + 1)
    · exact S.pure _

theorem everythingUntil [Element γ] (h : Related S p q) :
    Related S (Parser.everythingUntil γ p) (Parser.everythingUntil γ q) := by
  refine of_parse rfl rfl (congrArg ("anything followed by " ++ ·) h.expected) fun input n =>
    S.bind (search h input _ n) fun found => ?_
  rw [h.expected]
  cases found <;> exact S.pure _

/-! ### Repetition -/

theorem repeatFrom {attempt : Nat → Nat → m (Reply α)} {attempt' : Nat → Nat → m' (Reply α)}
    (h : ∀ count n, S.rel (attempt count n) (attempt' count n))
    {stopped : Nat → Failure → Event} (hs : ∀ count e, (stopped count e).instance? = none)
    (range : Repetition) :
    ∀ {bound bound' : Nat}, S.Bounds bound bound' → ∀ count n,
      S.rel (repeatFrom attempt stopped range bound count n)
        (repeatFrom attempt' stopped range bound' count n)
  | 0, _, hb, count, n => hb.unfinished (f := fun b => Parser.repeatFrom attempt' stopped range b count n) rfl
  | bound + 1, _, hb, count, n => by
    obtain ⟨rest, rfl, hrest⟩ := hb.exists_eq_succ
    refine S.bind (h count n) ?_
    rintro ⟨stop, e | a, flag⟩
    · exact S.bind (S.emit (hs count e)) fun _ => S.pure _
    · dsimp only
      split
      · exact S.pure _
      · exact S.bind (repeatFrom h hs range hrest _ _) fun _ => S.pure _

theorem many (h : Related S p q) (hb : S.Bounds bound bound') (range : Repetition) :
    Related S (Parser.many bound range p) (Parser.many bound' range q) :=
  of_parse h.accepts rfl (congrArg (range.describe ++ " " ++ ·) h.expected) fun input n =>
    S.bind (repeatFrom (fun _ => h.execute input) (fun _ _ => rfl) range hb 0 n) fun _ => S.pure _

theorem nextValue {p' : Parser β m} {q' : Parser β m'} (h' : Related S p' q') (h : Related S p q)
    (input : Input) (count n : Nat) :
    S.rel (nextValue p' p input count n) (nextValue q' q input count n) := by
  unfold Parser.nextValue
  split
  · exact h.execute input n
  · refine S.bind (h'.execute input n) ?_
    rintro ⟨gap, e | b, flag⟩
    · exact S.pure _
    · exact h.execute input gap

theorem separatedBy {p' : Parser β m} {q' : Parser β m'} (h' : Related S p' q') (h : Related S p q)
    (hb : S.Bounds bound bound') (range : Repetition) :
    Related S (Parser.separatedBy bound range p' p) (Parser.separatedBy bound' range q' q) := by
  have hx : (Parser.separatedBy bound range p' p).expected =
      (Parser.separatedBy bound' range q' q).expected := by
    simp only [Parser.separatedBy, h.expected, h'.expected]
  exact of_parse h.accepts rfl hx fun input n =>
    S.bind (repeatFrom (nextValue h' h input) (fun _ _ => rfl) range hb 0 n) fun _ => S.pure _

/-! ### Recursion and taps -/

theorem defined (h : Related S p q) : Related S (Parser.defined p) (Parser.defined q) :=
  of_parse rfl h.name h.expected h.execute

theorem handle {parse : Input → Nat → m (Reply α)} {parse' : Input → Nat → m' (Reply α)}
    (h : ∀ input n, S.rel (parse input n) (parse' input n)) :
    Related S (Parser.handle parse) (Parser.handle parse') := of_parse rfl rfl rfl h

theorem orphan : Related S (Parser.orphan (α := α)) Parser.orphan := handle fun _ _ => S.pure _

theorem tap (h : Related S p q) (label : String) :
    Related S
      (Parser.ofFunction fun input cursor => do
        Run.emit (.tapped label cursor)
        p.execute input cursor)
      (Parser.ofFunction fun input cursor => do
        Run.emit (.tapped label cursor)
        q.execute input cursor) :=
  of_parse rfl rfl rfl fun input n => S.bind (S.emit rfl) fun _ => h.execute input n

end Related

end Parser

/-! ## Rules -/

namespace RuleT

/-- Rules that do related things. -/
def Related (S : Simulation m m') (x : RuleT m α) (y : RuleT m' α) : Prop :=
  ∀ input n, S.rel (x input n) (y input n)

namespace Related

theorem pure (a : α) : Related S (pure a) (pure a) := fun _ _ => S.pure _

theorem bind {x : RuleT m α} {y : RuleT m' α} {f : α → RuleT m β} {g : α → RuleT m' β}
    (h : Related S x y) (hfg : ∀ a, Related S (f a) (g a)) : Related S (x >>= f) (y >>= g) := by
  refine fun input n => S.bind (h input n) ?_
  rintro ⟨stop, e | a⟩
  · exact S.pure _
  · exact hfg a input stop

theorem abort (e : Failure) : Related S (Rule.abort (α := α) e) (Rule.abort e) := fun _ _ => S.pure _

theorem reject (message : String) : Related S (Rule.reject (α := α) message) (Rule.reject message) :=
  fun _ _ => S.pure _

theorem inspect (f : Input → Nat → α) : Related S (Rule.inspect f) (Rule.inspect f) := fun _ _ => S.pure _

theorem position : Related S Rule.position Rule.position := fun _ _ => S.pure _

section
variable {p : Parser α m} {q : Parser α m'} (h : Parser.Related S p q)
include h

theorem trial : Related S (Rule.trial p) (Rule.trial q) := by
  refine fun input n => S.bind (h.execute input n) ?_
  rintro ⟨stop, e | a, flag⟩ <;> exact S.pure _

theorem step : Related S (Rule.step p) (Rule.step q) := by
  refine (trial h).bind fun found => ?_
  cases found with
  | error e => exact abort e
  | ok a => exact pure a

theorem attempt : Related S (Rule.attempt p) (Rule.attempt q) := by
  refine (trial h).bind fun found => ?_
  cases found with
  | error e => exact pure none
  | ok a => exact pure (some a)

end

theorem recover {p : Parser Value m} {q : Parser Value m'} (h : Parser.Related S p q) :
    Related S
      (do
        match ← Rule.trial p with
        | .ok v => Rule.collect v
        | .error e => Rule.collectFailure e)
      (do
        match ← Rule.trial q with
        | .ok v => Rule.collect v
        | .error e => Rule.collectFailure e) := by
  refine (trial h).bind fun found => ?_
  cases found with
  | error e => exact pure _
  | ok v => exact pure _

theorem andThen {x x' : RuleT m Rule.Progress} {y y' : RuleT m' Rule.Progress} (h : Related S x y)
    (h' : Related S x' y') : Related S (Rule.andThen x x') (Rule.andThen y y') := by
  refine h.bind fun before => ?_
  split
  · exact pure before
  · exact h'.bind fun _ => pure _

theorem loop {p : Parser Value m} {q : Parser Value m'} {x : RuleT m Rule.Progress}
    {y : RuleT m' Rule.Progress} (h : Parser.Related S p q) (hxy : Related S x y) :
    ∀ {bound bound' : Nat}, S.Bounds bound bound' →
      Related S (Rule.loop p x bound) (Rule.loop q y bound')
  | 0, _, hb => fun input n => hb.unfinished (f := fun b => Rule.loop q y b input n) rfl
  | bound + 1, _, hb => by
    obtain ⟨rest, rfl, hrest⟩ := hb.exists_eq_succ
    refine position.bind fun start => (attempt h).bind fun found => ?_
    cases found with
    | none => exact pure _
    | some v =>
      refine ((pure _).andThen hxy).bind fun round => ?_
      split
      · exact pure _
      · refine position.bind fun here => ?_
        split
        · exact pure _
        · exact (pure _).andThen (loop h hxy hrest)

theorem ofRule {x : RuleT m α} {y : RuleT m' α} (h : Related S x y) :
    Parser.Related S (Parser.ofRule x) (Parser.ofRule y) := by
  refine .of_parse rfl rfl rfl fun input n => S.bind (h input n) ?_
  rintro ⟨stop, e | a⟩
  · exact S.bind (S.emit rfl) fun _ => S.pure _
  · exact S.pure _

end Related

end RuleT

/-! ## Primitives -/

/-- One run in which no recursive parser is executed. -/
def Run.quiet : Simulation Run Run where
  rel x y := y = x ∧ x.Quiet
  pure _ := ⟨rfl, fun _ h => nomatch h⟩
  lift h := ⟨rfl, h⟩
  bind {_ _ x y f g} hxy hfg := by
    obtain ⟨rfl, hx⟩ := hxy
    refine ⟨bind_congr fun a => (hfg a).1, ?_⟩
    cases y with
    | unfinished => trivial
    | finished a before =>
      have hf := (hfg a).2
      rw [Run.finished_bind]
      cases hfa : f a with
      | unfinished => trivial
      | finished b after =>
        rw [hfa] at hf
        exact fun e he => (List.mem_append.1 he).elim (hx e) (hf e)

/-- A run that goes as another one does, but may break off anywhere. -/
def Run.below : Simulation Run Run where
  rel x y := x = .unfinished ∨ y = x
  pure _ := .inr rfl
  lift _ := .inr rfl
  bind {_ _ x y f g} hxy hfg := by
    obtain rfl | rfl := hxy
    · exact .inl rfl
    · cases y with
      | unfinished => exact .inl rfl
      | finished a events =>
        obtain h | h := hfg a
        · exact .inl (by rw [Run.finished_bind, h])
        · exact .inr (by rw [Run.finished_bind, Run.finished_bind, h])

/-- Among parsers whose runs have effects of their own, what may break off is related to what need not, if a
run that does not finish is related to any. -/
theorem Parser.Related.lift_of_below {p q : Parser α} (h : Related Run.below p q)
    (hp : ∀ input n, (p.execute input n).Quiet)
    (hu : ∀ {α : Type} (y : m' α), S.rel (liftM (Run.unfinished (α := α))) y) :
    Related S p.lift q.lift := by
  refine ⟨h.accepts, h.name, h.expected, fun input n => ?_⟩
  have he := h.execute input n
  have hq := hp input n
  unfold Parser.execute at he hq
  unfold Parser.execute Parser.lift
  dsimp only
  rw [← h.accepts, ← h.name] at he ⊢
  split
  · rename_i hm
    rw [if_pos hm] at hq
    rw [if_pos hm, if_pos hm] at he
    obtain he | he := he <;> rw [he]
    · exact hu _
    · exact S.lift hq
  · exact S.pure _

namespace Primitive

/-- No recursive parser is executed in a primitive. -/
theorem quiet (p : Primitive) (input : Input) (n : Nat) : ((p.parser bound).execute input n).Quiet := by
  have silent {α : Type} (a : α) : Run.quiet.rel (Pure.pure a) (Pure.pure a) := Run.quiet.pure a
  have h : Parser.Related Run.quiet (p.parser bound) (p.parser bound) := by
    refine p.parser_of_plain (P := fun q => Parser.Related Run.quiet q q) (fun hq => ?_)
      (fun f h => h.map f) (fun name label h => h.described name label) (fun h => h.maybe)
      (fun range h => h.many (.same bound) range) ?_ ?_
    · refine ⟨rfl, rfl, rfl, fun input n => ?_⟩
      unfold Parser.execute
      split
      · rename_i hm
        obtain ⟨r, hr, -⟩ := hq input n hm
        rw [hr]
        exact silent r
      · exact silent _
    · exact fun _ _ => .of_parse rfl rfl rfl fun _ _ => silent _
    · refine fun format wanted _ => .of_parse rfl rfl rfl fun input n => ?_
      dsimp only [Parser.exactBinary]
      split
      · exact silent _
      · split <;> exact silent _
  exact (h.execute input n).2

theorem related_below (p : Primitive) (h : bound ≤ bound') :
    Parser.Related Run.below (p.parser bound) (p.parser bound') := by
  have hb : Run.below.Bounds bound bound' := .less h fun _ => .inl rfl
  have same {α : Type} (q : Parser α) : Parser.Related Run.below q q :=
    ⟨rfl, rfl, rfl, fun _ _ => .inr rfl⟩
  have hrun (q : Parser Char) : Parser.Related Run.below (Parser.runOf bound q) (Parser.runOf bound' q) :=
    ((same q).many hb _).map _
  cases p with
  | digits | letters | whitespace => exact ((hrun _).described _ _).map _
  | optionalWhitespace => exact (((hrun _).described _ _).maybe.map _).map _
  | any shape | peek shape | peekOne shape => cases shape <;> exact same _
  | _ => exact same _

/-- A primitive does related things under bounds that are related. -/
theorem related (p : Primitive) (hb : S.Bounds bound bound') :
    Parser.Related S (p.parser bound).lift (p.parser bound').lift := by
  cases hb with
  | same => exact .lift p.quiet
  | less h hu => exact (p.related_below h).lift_of_below p.quiet hu

end Primitive

/-! ## Grammars -/

/-- **All combinators pass a simulation on.** -/
theorem Simulation.compositional (hb : S.Bounds bound bound') (F : Fragment) :
    Compositional bound bound' F (Parser.Related S) (RuleT.Related S) where
  primitive _ := Primitive.related _ hb
  choice := .choice
  sequence _ := .sequence
  many range h := h.many hb range
  separatedBy range h h' := h.separatedBy h' hb range
  times count h := h.times count
  maybe := .maybe
  lookAhead _ := .lookAhead
  exceptChar := .anythingExcept
  exceptByte := .anythingExcept
  exceptToken := .anythingExcept
  untilChar := .everythingUntil
  untilByte := .everythingUntil
  untilToken := .everythingUntil
  map f h := h.map f
  mapReply _ h := h.mapReply _
  ignore h := h.mapReply _
  ignoreIfAbsent h := h.mapReply _
  named name h := h.described name none
  label text h := h.label text
  pick name expected select h := h.pick name expected select
  seq _ := .seq
  tap _ h := h.tap _
  defined _ := .defined
  orphan _ := .orphan
  rule _ := RuleT.Related.ofRule
  pure := .pure
  bind := .bind
  step := .step
  attempt := .attempt
  reject _ := .reject _
  loop h h' := .loop h h' hb
  recover _ := .recover
  position _ := .position
  atEnd _ := .inspect _
  remaining _ := .inspect _
  snippet _ := .inspect _
  raise _ := .abort _

end Triparse
