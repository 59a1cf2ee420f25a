import Triparse.Proofs.Answers
import Triparse.Proofs.Hereditary
import Triparse.Proofs.Primitives
import Triparse.Session

/-!
# Where a parser stops

`Parser.Bounded`: a success stands at or after the start, and past the end of the input only if the
start was; a failure stands at the start and is not suppressed (`Reply.Bounded`). Every primitive is
bounded and every combinator keeps it, except that reply mappers may move the cursor anywhere
(`bounded_hereditary`). So grammars without reply mappers are bounded; `apply_keeps_bounds` says what
this comes to for a state.
-/

set_option autoImplicit false

namespace Triparse

variable {α β : Type}

/-- Where the reply of a parser that was started at `start` stands. -/
def Reply.Bounded (input : Input) (start : Nat) (r : Reply α) : Prop :=
  match r.outcome with
  | .ok _ => input.Reach start r.cursor
  | .error _ => r.cursor = start ∧ r.suppressed = false

/-- A parser whose replies stand where they should. -/
def Parser.Bounded (input : Input) (p : Parser α) : Prop := p.Answers input (Reply.Bounded input)

namespace Reply.Bounded

variable {input : Input} {start : Nat}

theorem succeed {stop : Nat} (h : input.Reach start stop) (a : α) :
    (Reply.succeed stop a).Bounded input start := h

theorem fail (e : Failure) : (Reply.fail start e : Reply α).Bounded input start := ⟨rfl, rfl⟩

end Reply.Bounded

namespace Parser.Bounded

open Run (Yields)

variable {input : Input}

/-! ## Combinators -/

theorem of_parse {p : Parser α}
    (h : ∀ start, input.modality ∈ p.accepts →
      (p.parse input start).Yields (Reply.Bounded input start)) : p.Bounded input :=
  Answers.of_parse (fun _ _ _ => .fail _) h

theorem described {p : Parser α} (name : String) (label : Option String) (hp : p.Bounded input) :
    (p.described name label).Bounded input :=
  Answers.described (fun _ e => .fail e) hp name label

theorem mapReply {p : Parser α} {f : Input → Reply α → Reply β} (hp : p.Bounded input)
    (hf : ∀ start cursor a flag, input.Reach start cursor →
      (f input ⟨cursor, .ok a, flag⟩).Bounded input start) : (p.mapReply f).Bounded input := by
  refine of_parse fun start _ => (hp start).bind ?_
  intro reply hr
  obtain ⟨cursor, e | a, flag⟩ := reply
  · obtain ⟨rfl, -⟩ := hr
    exact .pure (.fail e)
  · exact .pure (hf start cursor a flag hr)

theorem map {p : Parser α} (f : α → β) (hp : p.Bounded input) : (p.map f).Bounded input :=
  hp.mapReply fun _ _ _ _ h => h

theorem ignore {p : Parser α} (hp : p.Bounded input) : p.ignore.Bounded input :=
  hp.mapReply fun _ _ _ _ h => h

theorem ignoreIfAbsent {p : Parser (Option α)} (hp : p.Bounded input) :
    p.ignoreIfAbsent.Bounded input :=
  hp.mapReply fun _ _ a _ h => by cases a <;> exact h

theorem pick {p : Parser (List α)} (name expected : String) (select : List α → Option α)
    (hp : p.Bounded input) : (p.pick name expected select).Bounded input := by
  refine of_parse fun start _ => (hp start).bind ?_
  intro reply hr
  obtain ⟨cursor, e | values, flag⟩ := reply
  · obtain ⟨rfl, -⟩ := hr
    exact .pure (.fail e)
  · dsimp only
    cases select values with
    | some value => exact .pure hr
    | none => exact .pure (.fail _)

theorem seq {p : Parser α} {q : Parser β} (hp : p.Bounded input) (hq : q.Bounded input) :
    (p.seq q).Bounded input := by
  refine of_parse fun start _ => (hp start).bind ?_
  intro reply hr
  obtain ⟨middle, e | a, _⟩ := reply
  · exact .pure (.fail e)
  · refine (hq middle).bind ?_
    intro reply hs
    obtain ⟨stop, e | b, _⟩ := reply
    · exact .pure (.fail e)
    · exact .pure (.succeed (Input.Reach.trans hr hs) (a, b))

/-- A chain of bounded parsers ends within reach. -/
theorem runEach {ps : List (Parser α)} (hps : ∀ p ∈ ps, p.Bounded input) :
    ∀ element start, (runEach input ps element start).Yields fun chain =>
      ∀ stop values, chain = .ok (stop, values) → input.Reach start stop := by
  induction ps with
  | nil =>
    refine fun _ start => .pure ?_
    intro _ _ h
    cases h
    exact .refl input start
  | cons p ps ih =>
    obtain ⟨hp, hps⟩ := List.forall_mem_cons.1 hps
    intro element start
    refine (hp start).bind ?_
    intro reply hr
    obtain ⟨middle, e | a, flag⟩ := reply
    · exact .pure fun _ _ h => nomatch h
    · refine (ih hps (element + 1) middle).bind fun chain hc => .pure ?_
      rintro stop values h
      obtain _ | _ := chain
      · cases h
      · cases h
        exact Input.Reach.trans hr (hc _ _ rfl)

theorem sequence {ps : List (Parser α)} (hps : ∀ p ∈ ps, p.Bounded input) :
    (Parser.sequence ps).Bounded input := by
  refine of_parse fun start _ => (runEach hps 0 start).bind ?_
  intro chain hc
  rcases chain with ⟨element, e⟩ | ⟨stop, values⟩
  · exact .pure (.fail _)
  · exact .pure (.succeed (hc stop values rfl) values)

theorem times {p : Parser α} (count : Nat) (hp : p.Bounded input) :
    (Parser.times p count).Bounded input := by
  refine of_parse fun start _ => ?_
  have hps : ∀ q ∈ List.replicate count p, q.Bounded input := List.forall_mem_replicate.2 (.inr hp)
  simp only [Parser.times, runTimes_eq_runEach]
  refine (runEach hps 0 start).bind ?_
  intro chain hc
  rcases chain with ⟨index, e⟩ | ⟨stop, values⟩
  · exact .pure (.fail _)
  · exact .pure (.succeed (hc stop values rfl) values)

/-- A loop of tries that do not leave the reach of their starts ends within reach. -/
theorem repeatFrom {attempt : Nat → Nat → Run (Reply α)}
    (h : ∀ count start, (attempt count start).Yields fun r =>
      ∀ a, r.outcome = .ok a → input.Reach start r.cursor)
    (stopped : Nat → Failure → Event) (range : Repetition) (bound : Nat) :
    ∀ count start, (repeatFrom attempt stopped range bound count start).Yields fun t =>
      input.Reach start t.cursor := by
  induction bound with
  | zero => exact fun _ _ => .unfinished
  | succ bound ih =>
    intro count start
    refine (h count start).bind ?_
    intro reply hr
    obtain ⟨cursor, e | a, flag⟩ := reply
    · exact (Yields.trivial _).bind fun _ _ => .pure (.refl input start)
    · have hr := hr a rfl
      dsimp only
      split
      · exact .pure hr
      · refine (ih (count + 1) cursor).bind fun rest ht => ?_
        exact .pure (Input.Reach.trans hr ht)

theorem tally {start : Nat} {t : Tally α} (h : input.Reach start t.cursor)
    (name : String) (range : Repetition) : (t.reply name range start).Bounded input start := by
  unfold Tally.reply
  split
  · exact .succeed h _
  · exact .fail _

/-- What a bounded parser says of successes alone. -/
theorem reach {p : Parser α} (hp : p.Bounded input) (start : Nat) :
    (p.execute input start).Yields fun r => ∀ a, r.outcome = .ok a → input.Reach start r.cursor := by
  refine (hp start).mono ?_
  rintro ⟨cursor, _, flag⟩ hr a rfl
  exact hr

theorem many {p : Parser α} (bound : Nat) (range : Repetition) (hp : p.Bounded input) :
    (Parser.many bound range p).Bounded input :=
  of_parse fun start _ =>
    (repeatFrom (fun _ => hp.reach) _ range bound 0 start).bind fun _ ht =>
      .pure (tally ht _ _)

theorem nextValue {separator : Parser β} {value : Parser α} (hs : separator.Bounded input)
    (hv : value.Bounded input) (count start : Nat) :
    (nextValue separator value input count start).Yields fun r =>
      ∀ a, r.outcome = .ok a → input.Reach start r.cursor := by
  unfold Parser.nextValue
  split
  · exact hv.reach start
  · refine (hs start).bind ?_
    intro reply hg
    obtain ⟨gap, e | b, flag⟩ := reply
    · exact .pure fun _ h => nomatch h
    · exact (hv.reach gap).mono fun r hr a ha => Input.Reach.trans hg (hr a ha)

theorem separatedBy {separator : Parser β} {value : Parser α} (bound : Nat) (range : Repetition)
    (hs : separator.Bounded input) (hv : value.Bounded input) :
    (Parser.separatedBy bound range separator value).Bounded input :=
  of_parse fun start _ =>
    (repeatFrom (nextValue hs hv) _ range bound 0 start).bind fun _ ht =>
      .pure (tally ht _ _)

theorem maybe {p : Parser α} (hp : p.Bounded input) : (Parser.maybe p).Bounded input := by
  refine of_parse fun start _ => (hp start).bind ?_
  intro reply hr
  obtain ⟨cursor, e | a, flag⟩ := reply
  · exact .pure (.succeed (.refl input start) none)
  · exact .pure hr

theorem lookAhead {p : Parser α} (hp : p.Bounded input) : (Parser.lookAhead p).Bounded input := by
  refine of_parse fun start _ => (hp start).bind ?_
  intro reply _
  obtain ⟨cursor, e | a, flag⟩ := reply
  · exact .pure (.fail _)
  · exact .pure (Input.Reach.refl input start)

theorem anythingExcept [Element α] [LawfulElement α] (probe : Parser β) :
    (Parser.anythingExcept α probe).Bounded input := by
  refine of_parse fun start _ => (Yields.trivial _).bind ?_
  intro reply _
  obtain ⟨cursor, e | b, flag⟩ := reply
  · dsimp only
    split
    · rename_i element he
      exact .pure (.succeed (.add (input.one_le_remaining he)) element)
    · exact .pure (.fail _)
  · exact .pure (.fail _)

/-- A search stops at one of the places that it was given. -/
theorem search (probe : Parser β) (input : Input) (left : Nat) :
    ∀ start, (search probe input left start).Yields fun found =>
      ∀ stop, found = .ok stop → start ≤ stop ∧ stop ≤ start + left := by
  induction left with
  | zero =>
    intro start
    unfold Parser.search
    refine (Yields.trivial _).bind ?_
    intro reply _
    obtain ⟨cursor, e | b, flag⟩ := reply
    · exact .pure fun _ h => nomatch h
    · refine .pure ?_
      intro _ h
      cases h
      omega
  | succ left ih =>
    intro start
    unfold Parser.search
    refine (Yields.trivial _).bind ?_
    intro reply _
    obtain ⟨cursor, e | b, flag⟩ := reply
    · refine (ih (start + 1)).mono fun found hf stop h => ?_
      have := hf stop h
      omega
    · refine .pure ?_
      intro _ h
      cases h
      omega

theorem everythingUntil [Element α] [LawfulElement α] (probe : Parser β) :
    (Parser.everythingUntil α probe).Bounded input := by
  refine of_parse fun start _ => (search probe input _ start).bind ?_
  intro found hs
  rcases found with last | stop
  · exact .pure (.fail _)
  · have hs := hs stop rfl
    have hl := input.length_elements_le (α := α)
    exact .pure (.succeed ⟨hs.1, by omega⟩ _)

/-! ## Primitives -/

/-- A plain parser matches within reach, and fails where it has been started. -/
theorem of_plain {p : Parser α} (h : p.Plain) : p.Bounded input := by
  refine of_parse fun start hm => ?_
  obtain ⟨_, hr, hp⟩ := h input start hm
  rw [hr]
  cases hp with
  | matched h a => exact .pure (.succeed h a)
  | different | short => exact .pure (.fail _)

theorem exactBinary (format : Binary.Format) (wanted : Int) :
    (Parser.exactBinary format wanted).Bounded input := by
  refine of_parse fun start _ => ?_
  dsimp only [Parser.exactBinary]
  split
  · exact .pure (.fail _)
  · rename_i hl
    split
    · exact .pure (.succeed (.add (Plain.width_le_remaining hl)) _)
    · exact .pure (.fail _)

theorem primitive (bound : Nat) (p : Primitive) : (p.parser bound).Bounded input :=
  p.parser_of_plain (P := fun p => p.Bounded input) of_plain map described maybe (many bound)
    (fun _ _ => of_parse fun _ _ => .pure (.fail _)) fun format wanted _ => exactBinary format wanted

end Parser.Bounded

/-! ## Rules -/

/-- A rule whose position, if it is not abandoned, is within reach. -/
def RuleT.Bounded (input : Input) (x : Rule α) : Prop :=
  ∀ start, (x input start).Yields fun (stop, outcome) =>
    ∀ a, outcome = .ok a → input.Reach start stop

namespace RuleT.Bounded

open Run (Yields)

variable {input : Input}

theorem pure (a : α) : (pure a : Rule α).Bounded input :=
  fun start => .pure fun _ _ => .refl input start

theorem bind {x : Rule α} {f : α → Rule β} (hx : x.Bounded input) (hf : ∀ a, (f a).Bounded input) :
    (x >>= f).Bounded input := by
  intro start
  refine (hx start).bind ?_
  intro ending hm
  obtain ⟨middle, e | a⟩ := ending
  · exact .pure fun _ h => nomatch h
  · refine (hf a middle).mono fun ending he b hb => ?_
    exact Input.Reach.trans (hm a rfl) (he b hb)

theorem abort (e : Failure) : (Rule.abort e : Rule α).Bounded input :=
  fun _ => .pure fun _ h => nomatch h

theorem reject (message : String) : (Rule.reject message : Rule α).Bounded input :=
  fun _ => .pure fun _ h => nomatch h

theorem position : Rule.position.Bounded input :=
  fun start => .pure fun _ _ => .refl input start

theorem inspect (f : Input → Nat → α) : (Rule.inspect f).Bounded input :=
  fun start => .pure fun _ _ => .refl input start

theorem trial {p : Parser α} (hp : p.Bounded input) : (Rule.trial p).Bounded input := by
  intro start
  refine (hp start).bind ?_
  intro reply hr
  obtain ⟨cursor, e | a, flag⟩ := reply
  · exact .pure fun _ _ => .refl input start
  · exact .pure fun _ _ => hr

theorem step {p : Parser α} (hp : p.Bounded input) : (Rule.step p).Bounded input := by
  refine (trial hp).bind fun found => ?_
  cases found with
  | error e => exact abort e
  | ok a => exact pure a

theorem attempt {p : Parser α} (hp : p.Bounded input) : (Rule.attempt p).Bounded input := by
  refine (trial hp).bind fun found => ?_
  cases found with
  | error e => exact pure none
  | ok a => exact pure (some a)

theorem recover {p : Parser Value} (hp : p.Bounded input) :
    (do
      match ← Rule.trial p with
      | .ok v => Rule.collect v
      | .error e => Rule.collectFailure e : Rule Rule.Progress).Bounded input := by
  refine (trial hp).bind fun found => ?_
  cases found with
  | error e => exact pure _
  | ok v => exact pure _

theorem andThen {x y : Rule Rule.Progress} (hx : x.Bounded input) (hy : y.Bounded input) :
    (Rule.andThen x y).Bounded input := by
  refine hx.bind fun before => ?_
  split
  · exact pure before
  · exact hy.bind fun _ => pure _

theorem loop {p : Parser Value} {body : Rule Rule.Progress} (hp : p.Bounded input) (hb : body.Bounded input)
    (bound : Nat) : (Rule.loop p body bound).Bounded input := by
  induction bound with
  | zero => exact fun _ => .unfinished
  | succ bound ih =>
    refine position.bind fun start => (attempt hp).bind fun found => ?_
    cases found with
    | none => exact pure _
    | some v =>
      refine (andThen (pure _) hb).bind fun round => ?_
      split
      · exact pure round
      · refine position.bind fun here => ?_
        split
        · exact pure round
        · exact andThen (pure round) ih

/-- The parser that follows a bounded rule is bounded: an abandoned rule fails at the start. -/
theorem ofRule {x : Rule α} (hx : x.Bounded input) : (Parser.ofRule x).Bounded input := by
  refine .of_parse fun start _ => (hx start).bind ?_
  intro ending hs
  obtain ⟨stop, e | a⟩ := ending
  · exact (Yields.trivial _).bind fun _ _ => .pure (.fail _)
  · exact .pure (.succeed (hs a rfl) a)

end RuleT.Bounded

/-! ## Grammars -/

namespace Fragment

/-- The grammars without reply mappers. -/
def withoutReplyMappers : Fragment where
  node
    | .mapReply .. => false
    | _ => true

end Fragment

open Fragment (withoutReplyMappers)

theorem bounded_hereditary (input : Input) (bound : Nat) :
    Hereditary bound withoutReplyMappers (Parser.Bounded input) (RuleT.Bounded input) where
  primitive _ := .primitive bound _
  choice := .choice fun _ e => .fail e
  sequence := .sequence
  many := .many bound
  separatedBy := .separatedBy bound
  times := .times
  maybe := .maybe
  lookAhead _ := .lookAhead
  exceptChar _ := .anythingExcept _
  exceptByte _ := .anythingExcept _
  exceptToken _ := .anythingExcept _
  untilChar _ := .everythingUntil _
  untilByte _ := .everythingUntil _
  untilToken _ := .everythingUntil _
  map := .map
  mapReply h := nomatch h
  ignore := .ignore
  ignoreIfAbsent := .ignoreIfAbsent
  described := .described
  pick := .pick
  seq := .seq
  tap label := .tap (fun _ _ _ => .fail _) label
  defined := .defined fun _ _ _ => .fail _
  unfinished _ := .unfinished fun _ _ _ => .fail _
  handle enter _ hp := .handle (fun _ _ _ => .fail _) enter hp
  orphan := .orphan fun _ e => .fail e
  rule _ := RuleT.Bounded.ofRule
  pure := .pure
  bind := .bind
  step := .step
  attempt := .attempt
  reject := .reject
  loop hp hb := .loop hp hb bound
  recover _ := .recover
  position _ := .position
  atEnd _ := .inspect _
  remaining _ := .inspect _
  snippet _ := .inspect _
  raise _ := .abort _

/-- **Cursors stay in bounds, and failures rewind.** A parser without reply mappers, executed on a live
state, leaves the input as it is; a success stands between the start and the end of the input, or at
the start if that is past the end; a failure stands at the start and is not suppressed. -/
theorem apply_keeps_bounds {bound : Nat} {g : Grammar} (hg : withoutReplyMappers.admits g = true)
    {address : Address} {s : State α} {a : α} (hs : s.outcome = .ok a) {t : State Value}
    {events : List Event} (ht : (g.parser bound [] address).apply s = .finished t events) :
    t.input = s.input ∧
      (∀ v, t.outcome = .ok v →
        s.cursor ≤ t.cursor ∧ t.cursor ≤ max s.cursor s.input.source.length) ∧
      ∀ e, t.outcome = .error e → t.cursor = s.cursor ∧ t.suppressed = false := by
  have hb : (g.parser bound [] address).Bounded s.input :=
    (bounded_hereditary s.input bound).parser g hg (.nil _) address
  rw [Parser.apply, hs] at ht
  obtain ⟨⟨cursor, outcome, flag⟩, before, after, hr, hp, -⟩ := Run.bind_eq_finished.1 ht
  cases hp
  have hr := hb s.cursor _ _ hr
  refine ⟨rfl, ?_, ?_⟩
  · rintro v rfl
    exact hr
  · rintro e rfl
    exact hr

/-- A list gives back the separator it has read last; past the end of the input it matches nothing, and
fails if it must. -/
theorem apply_keeps_bounds_of_lists :
    let list := fun range =>
      (Grammar.separated range (.character ',') (.primitive .letter)).parser 4 [] []
    let s := State.start ⟨.characters ['a', ',', 'b', ','], {}⟩
    (∃ t events v, (list .any).apply s = .finished t events ∧ t.outcome = .ok v ∧ t.cursor = 3 ∧
      t.cursor ≤ max s.cursor s.input.source.length) ∧
    ∃ t events e, (list (.atLeast 1)).apply (s.atCursor 9) = .finished t events ∧
      t.outcome = .error e ∧ t.cursor = 9 ∧ t.suppressed = false := by
  intro list s
  constructor
  · obtain ⟨t, events, v, ht, hv, hc⟩ :
        ∃ t events v, (list .any).apply s = .finished t events ∧ t.outcome = .ok v ∧ t.cursor = 3 :=
      ⟨_, _, _, rfl, rfl, rfl⟩
    exact ⟨t, events, v, ht, hv, hc, ((apply_keeps_bounds rfl rfl ht).2.1 v hv).2⟩
  · obtain ⟨t, events, e, ht, he⟩ :
        ∃ t events e, (list (.atLeast 1)).apply (s.atCursor 9) = .finished t events ∧
          t.outcome = .error e :=
      ⟨_, _, _, rfl, rfl⟩
    exact ⟨t, events, e, ht, he, (apply_keeps_bounds rfl rfl ht).2.2 e he⟩

end Triparse
