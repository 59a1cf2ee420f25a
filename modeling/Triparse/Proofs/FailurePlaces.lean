import Triparse.Proofs.CursorBounds
import Triparse.Proofs.FailureClasses

/-!
# Failures and the places they point at

A failure says of a place what was found there and how much of the input was left. Combinators make
failures at their own starts, wrap those of their parts, make them causes, copy their positions and give
them other names; scans make up a position of their own. All the same every record of a failure says what
is so at the place it points at, and that place is within reach of the start of the parse
(`failures_describe_places`). `Failure.Faithful` is the invariant. It does not hold of what looks ahead, of
rules and of reply mappers, which move failures or bring their own, nor of the primitive that quotes a
number in place of the input (`Fragment.faithful`).
-/

set_option autoImplicit false

namespace Triparse

variable {α β : Type}

/-! ## Records -/

namespace Failure

/-- The records of a failure: itself, what it is about, and their causes. -/
def records : Failure → List Failure
  | within parser element inner => within parser element inner :: inner.records
  | countOutOfRange parser n range count (some cause) =>
    countOutOfRange parser n range count (some cause) :: cause.records
  | e => [e]

/-- The record points at a place from `start` on, not past the end of the input but for `start` itself,
and what it says of the input is so there. -/
def Describes (input : Input) (start : Nat) (e : Failure) : Prop :=
  (start ≤ e.position ∧ e.position ≤ max start input.source.length) ∧
    match e with
    | noMatch _ n _ actual => actual = input.snippet n
    | endOfInput _ n _ available => available = input.source.length - n
    | badInput _ _ _ actual => actual = input.modality
    | _ => True

/-- Failures whose records all describe the places they point at. -/
inductive Faithful (input : Input) (start : Nat) : Failure → Prop
  | noMatch {n : Nat} (h : input.Reach start n) (parser expected : String) :
      Faithful input start (.noMatch parser n expected (input.snippet n))
  | endOfInput {n : Nat} (h : input.Reach start n) (parser expected : String) :
      Faithful input start (.endOfInput parser n expected (input.remaining n))
  | badInput {n : Nat} (h : input.Reach start n) (parser : String) (accepts : Modalities) :
      Faithful input start (.badInput parser n accepts input.modality)
  | countOutOfRange {n : Nat} (h : input.Reach start n) (parser : String) (range : Repetition)
      (count : Nat) : Faithful input start (.countOutOfRange parser n range count none)
  | caused {n : Nat} (h : input.Reach start n) (parser : String) (range : Repetition) (count : Nat)
      {cause : Failure} : Faithful input start cause →
      Faithful input start (.countOutOfRange parser n range count (some cause))
  | rejected {n : Nat} (h : input.Reach start n) (parser message : String) :
      Faithful input start (.rejected parser n message)
  | within (parser : String) (element : Nat) {inner : Failure} : Faithful input start inner →
      Faithful input start (.within parser element inner)

namespace Faithful

variable {input : Input} {start : Nat} {e : Failure}

/-- What is within reach of a later place is within reach of the start. -/
theorem mono {middle : Nat} (h : input.Reach start middle) (he : e.Faithful input middle) :
    e.Faithful input start := by
  induction he with
  | noMatch hn => exact .noMatch (h.trans hn) _ _
  | endOfInput hn => exact .endOfInput (h.trans hn) _ _
  | badInput hn => exact .badInput (h.trans hn) _ _
  | countOutOfRange hn => exact .countOutOfRange (h.trans hn) _ _ _
  | caused hn _ _ _ _ ih => exact .caused (h.trans hn) _ _ _ ih
  | rejected hn => exact .rejected (h.trans hn) _ _
  | within _ _ _ ih => exact .within _ _ ih

theorem position (he : e.Faithful input start) : input.Reach start e.position := by
  induction he with
  | noMatch h | endOfInput h | badInput h | countOutOfRange h | caused h | rejected h => exact h
  | within _ _ _ ih => exact ih

theorem relabel (he : e.Faithful input start) (text : String) :
    (e.relabel text).Faithful input start := by
  induction he with
  | noMatch h => exact .noMatch h _ text
  | endOfInput h => exact .endOfInput h _ text
  | badInput h => exact .badInput h _ _
  | countOutOfRange h => exact .countOutOfRange h _ _ _
  | caused h _ _ _ hc => exact .caused h _ _ _ hc
  | rejected h => exact .rejected h _ _
  | within _ _ _ ih => exact .within _ _ ih

theorem rename (he : e.Faithful input start) (name : String) :
    (e.rename name).Faithful input start := by
  cases he with
  | noMatch h => exact .noMatch h name _
  | endOfInput h => exact .endOfInput h name _
  | badInput h => exact .badInput h name _
  | countOutOfRange h => exact .countOutOfRange h name _ _
  | caused h _ _ _ hc => exact .caused h name _ _ hc
  | rejected h => exact .rejected h name _
  | within _ _ hi => exact .within name _ hi

theorem describes (he : e.Faithful input start) : ∀ d ∈ e.records, d.Describes input start := by
  induction he with
  | noMatch h | endOfInput h | badInput h => exact List.forall_mem_singleton.2 ⟨h, rfl⟩
  | countOutOfRange h | rejected h => exact List.forall_mem_singleton.2 ⟨h, trivial⟩
  | caused h _ _ _ _ ih => exact List.forall_mem_cons.2 ⟨⟨h, trivial⟩, ih⟩
  | within _ _ hi ih => exact List.forall_mem_cons.2 ⟨⟨hi.position, trivial⟩, ih⟩

end Faithful

end Failure

/-! ## Parsers -/

/-- A parser whose failures describe the places they point at. -/
def Parser.Faithful (input : Input) (p : Parser α) : Prop :=
  p.Answers input fun start => Reply.FailsIn (Failure.Faithful input start)

namespace Parser.Faithful

open Run (Yields)

variable {input : Input} {p : Parser α} {q : Parser β}

theorem badInput (input : Input) (start : Nat) (name : String) (accepts : Modalities) :
    (Reply.fail start (input.badInput start name accepts) : Reply α).FailsIn
      (Failure.Faithful input start) := .fail (.badInput (.refl input start) _ _) start

theorem of_parse (h : ∀ start, input.modality ∈ p.accepts →
    (p.parse input start).Yields (Reply.FailsIn (Failure.Faithful input start))) :
    p.Faithful input := Answers.of_parse (badInput input) h

/-! ### Combinators -/

theorem mapReply {f : Input → Reply α → Reply β} (hp : p.Faithful input)
    (hf : ∀ start n a flag,
      Reply.FailsIn (Failure.Faithful input start) (f input ⟨n, .ok a, flag⟩)) :
    (p.mapReply f).Faithful input := by
  refine of_parse fun start _ => (hp start).bind ?_
  rintro ⟨n, e | a, flag⟩ hr
  · exact .pure (.fail (hr e rfl) n)
  · exact .pure (hf start n a flag)

theorem map (f : α → β) (hp : p.Faithful input) : (p.map f).Faithful input :=
  hp.mapReply fun _ n a flag => .ok n (f a) flag

theorem ignore (hp : p.Faithful input) : p.ignore.Faithful input :=
  hp.mapReply fun _ n a _ => .ok n a true

theorem ignoreIfAbsent {p : Parser (Option α)} (hp : p.Faithful input) :
    p.ignoreIfAbsent.Faithful input := by
  refine hp.mapReply fun _ n a flag => ?_
  cases a with
  | none => exact .ok n none true
  | some a => exact .ok n (some a) flag

theorem described (name : String) (label : Option String) (hp : p.Faithful input) :
    (p.described name label).Faithful input := by
  refine of_parse fun start _ => (hp start).bind ?_
  rintro ⟨n, e | a, flag⟩ hr
  · have he := restate_of_closed (fun _ text h => h.relabel text) (fun _ name h => h.rename name)
      (hr e rfl) p.name name label
    exact .pure (.fail he start)
  · exact .pure hr

theorem pick {p : Parser (List α)} (name expected : String) (select : List α → Option α)
    (hp : p.Faithful input) : (p.pick name expected select).Faithful input := by
  refine of_parse fun start _ => (hp start).bind ?_
  rintro ⟨n, e | values, flag⟩ hr
  · exact .pure (.fail (hr e rfl) n)
  · dsimp only
    split
    · exact .pure (.succeed _ _)
    · exact .pure (.fail (.noMatch (.refl input start) _ _) start)

theorem choice (ps : List (Parser α)) : (Parser.choice ps).Faithful input := by
  refine of_parse fun start _ => (FailsIn.firstMatch input start ps 0).bind ?_
  rintro (_ | r) hr
  · exact .pure (.fail (.noMatch (.refl input start) _ _) start)
  · obtain ⟨a, ha⟩ := hr r rfl
    refine .pure fun e he => ?_
    rw [ha] at he
    cases he

/-- The second part fails within reach of where the first has ended. -/
theorem seq (hb : p.Bounded input) (hp : p.Faithful input) (hq : q.Faithful input) :
    (p.seq q).Faithful input := by
  refine of_parse fun start _ => ((hb start).and (hp start)).bind ?_
  rintro ⟨middle, e | a, _⟩ ⟨hr, hf⟩
  · exact .pure (.fail (hf e rfl) start)
  · refine (hq middle).bind ?_
    rintro ⟨stop, e | b, _⟩ hs
    · exact .pure (.fail ((hs e rfl).mono hr) start)
    · exact .pure (.succeed stop (a, b))

/-- A chain stops with a failure within reach of its own start, however far it has come. -/
theorem runEach {ps : List (Parser α)} (hb : ∀ p ∈ ps, p.Bounded input)
    (hps : ∀ p ∈ ps, p.Faithful input) :
    ∀ element start, (runEach input ps element start).Yields fun chain =>
      ∀ k e, chain = .error (k, e) → e.Faithful input start := by
  induction ps with
  | nil => exact fun _ _ => .pure fun _ _ h => nomatch h
  | cons p ps ih =>
    obtain ⟨hp, hps⟩ := List.forall_mem_cons.1 hps
    obtain ⟨hbp, hb⟩ := List.forall_mem_cons.1 hb
    refine fun element start => ((hbp start).and (hp start)).bind ?_
    rintro ⟨middle, e | a, flag⟩ ⟨hr, hf⟩
    · refine .pure ?_
      rintro _ _ ⟨⟩
      exact hf e rfl
    · refine (ih hb hps (element + 1) middle).bind ?_
      rintro (⟨k, e⟩ | ⟨stop, values⟩) hc
      · refine .pure ?_
        rintro _ _ ⟨⟩
        exact (hc k e rfl).mono hr
      · exact .pure fun _ _ h => nomatch h

theorem sequence {ps : List (Parser α)} (hb : ∀ p ∈ ps, p.Bounded input)
    (hps : ∀ p ∈ ps, p.Faithful input) : (Parser.sequence ps).Faithful input := by
  refine of_parse fun start _ => (runEach hb hps 0 start).bind ?_
  rintro (⟨k, e⟩ | ⟨stop, values⟩) hc
  · exact .pure (.fail (.within _ _ (hc k e rfl)) start)
  · exact .pure (.succeed stop values)

/-- The failure stands at the position of its cause. -/
theorem times (count : Nat) (hb : p.Bounded input) (hp : p.Faithful input) :
    (Parser.times p count).Faithful input := by
  refine of_parse fun start _ => ?_
  have hbs : ∀ q ∈ List.replicate count p, q.Bounded input := List.forall_mem_replicate.2 (.inr hb)
  have hps : ∀ q ∈ List.replicate count p, q.Faithful input := List.forall_mem_replicate.2 (.inr hp)
  simp only [Parser.times, runTimes_eq_runEach]
  refine (runEach hbs hps 0 start).bind ?_
  rintro (⟨k, e⟩ | ⟨stop, values⟩) hc
  · have he := hc k e rfl
    exact .pure (.fail (.caused he.position _ _ _ he) start)
  · exact .pure (.succeed stop values)

theorem maybe (p : Parser α) : (Parser.maybe p).Faithful input := by
  refine of_parse fun start _ => (Yields.trivial _).bind ?_
  rintro ⟨n, e | a, flag⟩ -
  · exact .pure (.succeed start none)
  · exact .pure (.ok n (some a) flag)

/-! ### Loops and scans

What ends them is an event, and no failure of theirs. -/

theorem tally (t : Parser.Tally α) (name : String) (range : Repetition) (start : Nat) :
    (t.reply name range start).FailsIn (Failure.Faithful input start) := by
  unfold Parser.Tally.reply
  split
  · exact .succeed _ _
  · exact .fail (.countOutOfRange (.refl input start) _ _ _) start

theorem many (bound : Nat) (range : Repetition) (p : Parser α) :
    (Parser.many bound range p).Faithful input :=
  of_parse fun start _ => (Yields.trivial _).bind fun t _ => .pure (tally t _ range start)

theorem separatedBy (bound : Nat) (range : Repetition) (q : Parser β) (p : Parser α) :
    (Parser.separatedBy bound range q p).Faithful input :=
  of_parse fun start _ => (Yields.trivial _).bind fun t _ => .pure (tally t _ range start)

theorem anythingExcept [Element α] (q : Parser β) : (Parser.anythingExcept α q).Faithful input := by
  refine of_parse fun start _ => (Yields.trivial _).bind ?_
  rintro ⟨n, e | b, flag⟩ -
  · dsimp only
    split
    · exact .pure (.succeed _ _)
    · exact .pure (.fail (.endOfInput (.refl input start) _ _) start)
  · exact .pure (.fail (.noMatch (.refl input start) _ _) start)

/-- A search that finds nothing has come to the last of its places. -/
theorem search (probe : Parser β) (input : Input) (left : Nat) :
    ∀ start, (search probe input left start).Yields fun found =>
      ∀ last, found = .error last → last = start + left := by
  induction left with
  | zero =>
    intro start
    unfold Parser.search
    refine (Yields.trivial _).bind ?_
    rintro ⟨n, e | b, flag⟩ -
    · refine .pure ?_
      rintro _ ⟨⟩
      rfl
    · refine .pure ?_
      rintro _ ⟨⟩
  | succ left ih =>
    intro start
    unfold Parser.search
    refine (Yields.trivial _).bind ?_
    rintro ⟨n, e | b, flag⟩ -
    · refine (ih (start + 1)).mono fun found hf last h => ?_
      rw [hf last h]
      omega
    · refine .pure ?_
      rintro _ ⟨⟩

/-- The last place of a search is the end of the input, or the start if that is past the end; nothing
is left there. -/
theorem everythingUntil [Element α] [LawfulElement α] (probe : Parser β) :
    (Parser.everythingUntil α probe).Faithful input := by
  refine of_parse fun start hm => ?_
  have hl := input.length_elements (Modalities.mem_only.1 hm)
  dsimp only [Parser.everythingUntil]
  rw [hl]
  refine (search probe input _ start).bind ?_
  rintro (last | stop) hs
  · have hlast := hs last rfl
    have hr : input.Reach start last := ⟨by omega, by omega⟩
    have hz : input.remaining last = 0 := by
      rw [Input.remaining]
      omega
    have he (expected : String) : Failure.Faithful input start
        (.endOfInput "everything_until" last expected 0) :=
      hz ▸ .endOfInput hr "everything_until" expected
    exact .pure (.fail (he _) start)
  · exact .pure (.succeed _ _)

theorem orphan : (Parser.orphan : Parser α).Faithful input :=
  of_parse fun start _ => .pure (.fail (.rejected (.refl input start) _ _) start)

/-! ### Primitives -/

/-- What a plain parser says of the input is so where it has been started. -/
theorem of_plain (h : p.Plain) : p.Faithful input := by
  refine of_parse fun start hm => ?_
  obtain ⟨_, hr, hp⟩ := h input start hm
  rw [hr]
  cases hp with
  | matched _ a => exact .pure (.succeed _ a)
  | different => exact .pure (.fail (.noMatch (.refl input start) _ _) start)
  | short => exact .pure (.fail (.endOfInput (.refl input start) _ _) start)

end Parser.Faithful

/-- The grammars that neither move failures, nor bring their own, nor quote numbers in place of the input. -/
def Fragment.faithful : Fragment where
  node
    | .lookAhead _ | .rule _ | .mapReply .. | .primitive (.exactBinary ..) => false
    | _ => true

open Fragment (faithful withoutReplyMappers)

theorem Parser.Faithful.primitive (input : Input) (bound : Nat) (p : Primitive)
    (hp : faithful.node (.primitive p) = true) : (p.parser bound).Faithful input := by
  refine p.parser_of_plain (P := fun p => p.Faithful input) of_plain map described (fun _ => maybe _)
    (fun range _ => many bound range _) ?_ ?_
  · intro message _
    exact of_parse fun start _ => .pure (.fail (.rejected (.refl input start) _ _) start)
  · rintro format wanted rfl
    cases hp

/-! ## Grammars -/

/-- Parsers stop where they should, and their failures describe the places they point at: where a chain
has come to is where its next part fails. -/
theorem faithful_hereditary (input : Input) (bound : Nat) :
    Hereditary bound faithful (fun p => p.Bounded input ∧ p.Faithful input) (fun _ => True) :=
  have hn (g : Grammar) (h : faithful.node g = true) : withoutReplyMappers.node g = true := by
    cases g <;> first | rfl | cases h
  have B := (bounded_hereditary input bound).weaken (F := faithful) hn fun _ h => h
  have hb {α : Type} := Parser.Faithful.badInput (α := α) input
  { primitive := fun h => ⟨B.primitive h, .primitive input bound _ h⟩
    choice := fun h => ⟨B.choice fun p hp => (h p hp).1, .choice _⟩
    sequence := fun h => ⟨B.sequence fun p hp => (h p hp).1,
      .sequence (fun p hp => (h p hp).1) fun p hp => (h p hp).2⟩
    many := fun range h => ⟨B.many range h.1, .many bound range _⟩
    separatedBy := fun range h h' => ⟨B.separatedBy range h.1 h'.1, .separatedBy bound range _ _⟩
    times := fun count h => ⟨B.times count h.1, .times count h.1 h.2⟩
    maybe := fun h => ⟨B.maybe h.1, .maybe _⟩
    lookAhead := fun h => nomatch h
    exceptChar := fun h => ⟨B.exceptChar h.1, .anythingExcept _⟩
    exceptByte := fun h => ⟨B.exceptByte h.1, .anythingExcept _⟩
    exceptToken := fun h => ⟨B.exceptToken h.1, .anythingExcept _⟩
    untilChar := fun h => ⟨B.untilChar h.1, .everythingUntil _⟩
    untilByte := fun h => ⟨B.untilByte h.1, .everythingUntil _⟩
    untilToken := fun h => ⟨B.untilToken h.1, .everythingUntil _⟩
    map := fun f h => ⟨B.map f h.1, h.2.map f⟩
    mapReply := fun h => nomatch h
    ignore := fun h => ⟨B.ignore h.1, h.2.ignore⟩
    ignoreIfAbsent := fun h => ⟨B.ignoreIfAbsent h.1, h.2.ignoreIfAbsent⟩
    described := fun name label h => ⟨B.described name label h.1, h.2.described name label⟩
    pick := fun name expected select h =>
      ⟨B.pick name expected select h.1, h.2.pick name expected select⟩
    seq := fun h h' => ⟨B.seq h.1 h'.1, .seq h.1 h.2 h'.2⟩
    tap := fun label h => ⟨B.tap label h.1, .tap hb label h.2⟩
    defined := fun h => ⟨B.defined h.1, .defined hb h.2⟩
    unfinished := fun h => ⟨B.unfinished h, .unfinished hb⟩
    handle := fun enter hr h => ⟨B.handle enter hr h.1, .handle hb enter h.2⟩
    orphan := ⟨B.orphan, .orphan⟩
    rule := fun h => nomatch h
    pure := fun _ => trivial
    bind := fun _ _ => trivial
    step := fun _ => trivial
    attempt := fun _ => trivial
    reject := fun _ => trivial
    loop := fun _ _ => trivial
    recover := fun _ _ => trivial
    position := fun _ => trivial
    atEnd := fun _ => trivial
    remaining := fun _ => trivial
    snippet := fun _ => trivial
    raise := fun _ => trivial }

/-- **Failures describe the places they point at.** If a parser of the fragment, executed on a live
state, fails, then each record of the failure, in all of its causes, points at a place between the start and
the end of the input, or at the start if that is past the end; what the record quotes is the input at that
place, and what it says to be left is what is left there. -/
theorem failures_describe_places {bound : Nat} {g : Grammar} (hg : faithful.admits g = true)
    {address : Address} {s : State α} {a : α} (hs : s.outcome = .ok a) {t : State Value}
    {events : List Event} (ht : (g.parser bound [] address).apply s = .finished t events)
    {e : Failure} (he : t.outcome = .error e) :
    ∀ d ∈ e.records, d.Describes s.input s.cursor := by
  have hf := ((faithful_hereditary s.input bound).parser g hg (.nil _) address).2
  rw [Parser.apply, hs] at ht
  obtain ⟨reply, before, after, hr, hp, -⟩ := Run.bind_eq_finished.1 ht
  cases hp
  exact (hf s.cursor reply before hr e he).describes

/-- A count that ends early is a failure at the place of its cause; past the end of the input nothing is
left, and the failure stands at the start. -/
theorem failures_describe_places_of_count :
    let word := Grammar.named (.times (.primitive .letter) 3) "word"
    let p := (Grammar.sequence [.character 'a', word]).parser 4 [] []
    let s := State.start ⟨.characters ['a', 'b', '1'], {}⟩
    (∃ t events e, p.apply s = .finished t events ∧ t.outcome = .error e ∧
        e.records.map Failure.position = [2, 2, 2] ∧ ∀ d ∈ e.records, d.Describes s.input 0) ∧
      ∃ t events e, p.apply (s.atCursor 9) = .finished t events ∧ t.outcome = .error e ∧
        e.records.map Failure.position = [9, 9] ∧ ∀ d ∈ e.records, d.Describes s.input 9 := by
  intro word p s
  have hg : faithful.admits (.sequence [.character 'a', word]) = true := rfl
  constructor
  · obtain ⟨t, events, e, ht, he, hp⟩ :
        ∃ t events e, p.apply s = .finished t events ∧ t.outcome = .error e ∧
          e.records.map Failure.position = [2, 2, 2] :=
      ⟨_, _, _, rfl, rfl, rfl⟩
    exact ⟨t, events, e, ht, he, hp, failures_describe_places hg rfl ht he⟩
  · obtain ⟨t, events, e, ht, he, hp⟩ :
        ∃ t events e, p.apply (s.atCursor 9) = .finished t events ∧ t.outcome = .error e ∧
          e.records.map Failure.position = [9, 9] :=
      ⟨_, _, _, rfl, rfl, rfl⟩
    exact ⟨t, events, e, ht, he, hp, failures_describe_places hg rfl ht he⟩

end Triparse
