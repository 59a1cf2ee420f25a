import Triparse.Proofs.CursorBounds
import Triparse.Proofs.Rounds

/-!
# Repetitions stop

A repetition goes on only after a match that has moved, and no match moves past the end of the input; so
its loop makes at most one match more than there are elements left (`SteadyTries.course`). A grammar
without reply mappers, recursion and rules therefore answers on every state as soon as loops are given two
tries more than the input has elements. `repetitions_stop` puts this together with what can be said of the
matches on the way: they stop only where they must. That separators do not move back has to be said too, as
a list may go on for ever otherwise (`list_goes_on_behind_separators`).
-/

set_option autoImplicit false

namespace Triparse

variable {α β : Type}

/-! ## Runs that answer -/

/-- A run that answers. -/
def Run.Halts (x : Run α) : Prop := ∃ a, x.answer? = some a

namespace Run.Halts

theorem pure (a : α) : (Pure.pure a : Run α).Halts := ⟨a, rfl⟩

theorem emit (e : Event) : (Run.emit e).Halts := ⟨(), rfl⟩

theorem bind {x : Run α} {f : α → Run β} (hx : x.Halts) (hf : ∀ a, (f a).Halts) :
    (x >>= f).Halts := by
  obtain ⟨a, ha⟩ := hx
  obtain ⟨b, hb⟩ := hf a
  exact ⟨b, by rw [answer?_bind, ha, Option.bind_some, hb]⟩

end Run.Halts

/-- A parser that answers wherever it is started on the input. -/
def Parser.Total (input : Input) (p : Parser α) : Prop := ∀ start, (p.execute input start).Halts

/-- A parser that answers wherever it is started on the input, and whose matches end within reach. -/
def Parser.Steady (input : Input) (p : Parser α) : Prop :=
  ∀ start, ∃ found, (p.execute input start).found = some found ∧
    ∀ m ∈ found, input.Reach start m.cursor

theorem Parser.Total.steady {input : Input} {p : Parser α} (ht : p.Total input)
    (hb : p.Bounded input) : p.Steady input := by
  intro start
  obtain ⟨r, hr⟩ := ht start
  refine ⟨r.match?, by rw [Run.found, hr, Option.map_some], ?_⟩
  have hbounded := (hb start).answer hr
  obtain ⟨cursor, e | a, flag⟩ := r
  · intro m hm
    cases hm
  · intro m hm
    cases hm
    exact hbounded

/-! ## Loops -/

theorem Input.Reach.remaining_lt {i : Input} {a b : Nat} (h : i.Reach a b) (hne : b ≠ a) :
    i.remaining b < i.remaining a := by
  obtain ⟨hab, hb⟩ := h
  rw [Input.remaining, Input.remaining]
  omega

/-- Tries that answer wherever they are made, and whose matches end within reach. -/
def SteadyTries (input : Input) (attempt : Nat → Nat → Run (Reply α)) : Prop :=
  ∀ count start, ∃ found, (attempt count start).found = some found ∧
    ∀ m ∈ found, input.Reach start m.cursor

namespace SteadyTries

variable {input : Input} {p : Parser α} {separator : Parser β}

theorem execute (hp : p.Steady input) : SteadyTries input fun _ => p.execute input :=
  fun _ => hp

/-- A value after a separator is within reach if it is so after what the separator has read. -/
theorem nextValue (hs : separator.Steady input) (hp : p.Steady input) :
    SteadyTries input (Parser.nextValue separator p input) := by
  intro count start
  cases count with
  | zero => exact hp start
  | succ count =>
    rw [Parser.found_nextValue]
    obtain ⟨_ | gap, hgap, hreach⟩ := hs start
    · rw [hgap]
      exact ⟨none, rfl, nofun⟩
    · obtain ⟨found, hf, hreach'⟩ := hp gap.cursor
      rw [hgap]
      exact ⟨found, hf, fun m hm => (hreach gap rfl).trans (hreach' m hm)⟩

/-- Steady tries make a loop of at most one match more than there are elements left. -/
theorem course {attempt : Nat → Nat → Run (Reply α)} (h : SteadyTries input attempt)
    (count start : Nat) :
    ∃ ms, Course attempt count start ms ∧ ms.length ≤ input.remaining start + 1 := by
  -- A match that the loop goes on after leaves fewer elements than there were before it.
  induction hn : input.remaining start using Nat.strongRecOn generalizing count start with
  | _ n ih =>
    obtain ⟨_ | m, hf, hreach⟩ := h count start
    · exact ⟨[], .failed hf, Nat.zero_le _⟩
    · by_cases hm : m.cursor = start
      · exact ⟨[m], .stalled hf hm, Nat.succ_le_succ (Nat.zero_le _)⟩
      · have hlt := (hreach m rfl).remaining_lt hm
        obtain ⟨ms, hc, hlen⟩ := ih _ (by omega) (count + 1) m.cursor rfl
        refine ⟨m :: ms, .moved hf hm hc, ?_⟩
        rw [List.length_cons]
        omega

/-- A loop of steady tries answers if it may try twice more often than there are elements. -/
theorem repeatFrom_halts {attempt : Nat → Nat → Run (Reply α)} (h : SteadyTries input attempt)
    (stopped : Nat → Failure → Event) (range : Repetition) {bound : Nat}
    (hb : input.source.length + 1 < bound) (start : Nat) :
    (Parser.repeatFrom attempt stopped range bound 0 start).Halts := by
  obtain ⟨ms, hc, hlen⟩ := h.course 0 start
  have hleft : input.remaining start ≤ input.source.length := Nat.sub_le _ _
  obtain ⟨t, ht, -⟩ := hc.answer stopped range.exceededBy_zero (show ms.length < bound by omega)
  exact ⟨t, ht⟩

end SteadyTries

/-! ## Parsers that answer -/

namespace Parser.Total

open Run (Halts)

variable {input : Input} {p : Parser α} {q : Parser β}

theorem of_parse (h : ∀ start, (p.parse input start).Halts) : p.Total input := by
  intro start
  by_cases hm : input.modality ∈ p.accepts
  · rw [execute_of_mem hm]
    exact h start
  · rw [execute_of_not_mem hm]
    exact .pure _

/-! ### Combinators -/

theorem mapReply (hp : p.Total input) (f : Input → Reply α → Reply β) :
    (p.mapReply f).Total input := by
  refine of_parse fun start => (hp start).bind fun reply => ?_
  obtain ⟨cursor, e | a, flag⟩ := reply <;> exact .pure _

theorem map (hp : p.Total input) (f : α → β) : (p.map f).Total input := hp.mapReply _

theorem described (hp : p.Total input) (name : String) (label : Option String) :
    (p.described name label).Total input := by
  refine of_parse fun start => (hp start).bind fun reply => ?_
  obtain ⟨cursor, e | a, flag⟩ := reply <;> exact .pure _

theorem pick {p : Parser (List α)} (hp : p.Total input) (name expected : String)
    (select : List α → Option α) : (p.pick name expected select).Total input := by
  refine of_parse fun start => (hp start).bind fun reply => ?_
  obtain ⟨cursor, e | values, flag⟩ := reply
  · exact .pure _
  · dsimp only
    split <;> exact .pure _

theorem firstMatch {ps : List (Parser α)} (hps : ∀ p ∈ ps, p.Total input) (start : Nat) :
    ∀ index, (Parser.firstMatch input start ps index).Halts := by
  induction ps with
  | nil => exact fun _ => .pure none
  | cons p ps ih =>
    obtain ⟨hp, hps⟩ := List.forall_mem_cons.1 hps
    refine fun index => (hp start).bind fun reply => ?_
    obtain ⟨cursor, e | a, flag⟩ := reply
    · exact (Halts.emit _).bind fun _ => ih hps (index + 1)
    · exact .pure _

theorem choice {ps : List (Parser α)} (hps : ∀ p ∈ ps, p.Total input) :
    (Parser.choice ps).Total input := by
  refine of_parse fun start => (firstMatch hps start 0).bind fun found => ?_
  cases found <;> exact .pure _

theorem seq (hp : p.Total input) (hq : q.Total input) : (p.seq q).Total input := by
  refine of_parse fun start => (hp start).bind fun first => ?_
  obtain ⟨middle, e | a, _⟩ := first
  · exact .pure _
  · refine (hq middle).bind fun second => ?_
    obtain ⟨stop, e | b, _⟩ := second <;> exact .pure _

theorem runEach {ps : List (Parser α)} (hps : ∀ p ∈ ps, p.Total input) :
    ∀ element start, (Parser.runEach input ps element start).Halts := by
  induction ps with
  | nil => exact fun _ _ => .pure _
  | cons p ps ih =>
    obtain ⟨hp, hps⟩ := List.forall_mem_cons.1 hps
    refine fun element start => (hp start).bind fun reply => ?_
    obtain ⟨cursor, e | a, flag⟩ := reply
    · exact .pure _
    · exact (ih hps (element + 1) cursor).bind fun _ => .pure _

theorem sequence {ps : List (Parser α)} (hps : ∀ p ∈ ps, p.Total input) :
    (Parser.sequence ps).Total input := by
  refine of_parse fun start => (runEach hps 0 start).bind fun chain => ?_
  rcases chain with ⟨element, e⟩ | ⟨stop, values⟩ <;> exact .pure _

theorem times (hp : p.Total input) (count : Nat) : (Parser.times p count).Total input := by
  refine of_parse fun start => ?_
  have hps : ∀ q ∈ List.replicate count p, q.Total input := List.forall_mem_replicate.2 (.inr hp)
  simp only [Parser.times, runTimes_eq_runEach]
  refine (runEach hps 0 start).bind fun chain => ?_
  rcases chain with ⟨index, e⟩ | ⟨stop, values⟩ <;> exact .pure _

theorem many (hp : p.Steady input) (range : Repetition) {bound : Nat}
    (hb : input.source.length + 1 < bound) : (Parser.many bound range p).Total input :=
  of_parse fun start =>
    ((SteadyTries.execute hp).repeatFrom_halts _ range hb start).bind fun _ => .pure _

theorem separatedBy (hq : q.Steady input) (hp : p.Steady input) (range : Repetition) {bound : Nat}
    (hb : input.source.length + 1 < bound) : (Parser.separatedBy bound range q p).Total input :=
  of_parse fun start =>
    ((SteadyTries.nextValue hq hp).repeatFrom_halts _ range hb start).bind fun _ => .pure _

theorem maybe (hp : p.Total input) : (Parser.maybe p).Total input := by
  refine of_parse fun start => (hp start).bind fun reply => ?_
  obtain ⟨cursor, e | a, flag⟩ := reply <;> exact .pure _

theorem lookAhead (hp : p.Total input) : (Parser.lookAhead p).Total input := by
  refine of_parse fun start => (hp start).bind fun reply => ?_
  obtain ⟨cursor, e | a, flag⟩ := reply <;> exact .pure _

theorem anythingExcept (α : Type) [Element α] (hq : q.Total input) :
    (Parser.anythingExcept α q).Total input := by
  refine of_parse fun start => (hq start).bind fun reply => ?_
  obtain ⟨cursor, e | b, flag⟩ := reply
  · dsimp only
    split <;> exact .pure _
  · exact .pure _

theorem search (hq : q.Total input) (left : Nat) :
    ∀ start, (Parser.search q input left start).Halts := by
  induction left with
  | zero =>
    intro start
    unfold Parser.search
    refine (hq start).bind fun reply => ?_
    obtain ⟨cursor, e | b, flag⟩ := reply <;> exact .pure _
  | succ left ih =>
    intro start
    unfold Parser.search
    refine (hq start).bind fun reply => ?_
    obtain ⟨cursor, e | b, flag⟩ := reply
    · exact ih (start + 1)
    · exact .pure _

theorem everythingUntil (α : Type) [Element α] (hq : q.Total input) :
    (Parser.everythingUntil α q).Total input := by
  refine of_parse fun start => (search hq _ start).bind fun found => ?_
  cases found <;> exact .pure _

theorem tap (hp : p.Total input) (label : String) :
    (Parser.ofFunction fun input cursor => do
      Run.emit (.tapped label cursor)
      p.execute input cursor).Total input :=
  of_parse fun start => (Halts.emit _).bind fun _ => hp start

/-! ### Primitives -/

theorem of_plain (h : p.Plain) : p.Total input := by
  intro start
  by_cases hm : input.modality ∈ p.accepts
  · obtain ⟨r, hr, -⟩ := h input start hm
    rw [execute_of_mem hm, hr]
    exact .pure r
  · rw [execute_of_not_mem hm]
    exact .pure _

theorem exactBinary (format : Binary.Format) (wanted : Int) :
    (Parser.exactBinary format wanted).Total input := by
  refine of_parse fun start => ?_
  dsimp only [Parser.exactBinary]
  split
  · exact .pure _
  · split <;> exact .pure _

theorem steady_elementWhere [Element α] [LawfulElement α] (name expected : String)
    (test : α → Bool) : (Parser.elementWhere name expected test).Steady input :=
  have h := Plain.elementWhere name expected test
  (of_plain h).steady (.of_plain h)

/-- Runs of characters are loops, so that their parts have to stay in bounds, too. -/
theorem primitive {bound : Nat} (hb : input.source.length + 1 < bound) (p : Primitive) :
    (p.parser bound).Total input := by
  have h : (p.parser bound).Total input ∧ (p.parser bound).Bounded input :=
    p.parser_of_plain (P := fun p => p.Total input ∧ p.Bounded input)
      (fun h => ⟨of_plain h, .of_plain h⟩) (fun f h => ⟨h.1.map f, h.2.map f⟩)
      (fun name label h => ⟨h.1.described name label, h.2.described name label⟩)
      (fun h => ⟨h.1.maybe, h.2.maybe⟩)
      (fun range h => ⟨many (h.1.steady h.2) range hb, h.2.many bound range⟩)
      (fun _ _ => ⟨of_parse fun _ => .pure _, .of_parse fun _ _ => .pure (.fail _)⟩)
      fun format wanted _ => ⟨exactBinary format wanted, .exactBinary format wanted⟩
  exact h.1

end Parser.Total

/-! ## Grammars that answer -/

namespace Fragment

/-- The grammars without reply mappers, recursive definitions and rules. -/
def withoutRecursion : Fragment where
  node
    | .mapReply .. | .fix .. | .recursive .. | .rule .. => false
    | _ => true

end Fragment

open Fragment (withoutReplyMappers withoutRecursion)

theorem not_recursive_withoutRecursion : ¬ withoutRecursion.Recursive := by
  rintro ⟨name, body, h | ⟨traced, h⟩⟩ <;> cases h

theorem withoutReplyMappers_of_withoutRecursion (g : Grammar) (h : withoutRecursion.node g = true) :
    withoutReplyMappers.node g = true := by
  cases g <;> first | rfl | cases h

/-- Parsers that answer, and whose replies stay in bounds, have loops of such parsers; rules play no part. -/
theorem total_hereditary {input : Input} {bound : Nat} (hb : input.source.length + 1 < bound) :
    Hereditary bound withoutRecursion (fun p => p.Total input ∧ p.Bounded input)
      fun x => x.Bounded input :=
  have B := (bounded_hereditary input bound).weaken (F := withoutRecursion)
    withoutReplyMappers_of_withoutRecursion fun _ h => h
  { primitive := fun h => ⟨.primitive hb _, B.primitive h⟩
    choice := fun h => ⟨.choice fun p hp => (h p hp).1, B.choice fun p hp => (h p hp).2⟩
    sequence := fun h => ⟨.sequence fun p hp => (h p hp).1, B.sequence fun p hp => (h p hp).2⟩
    many := fun range h => ⟨.many (h.1.steady h.2) range hb, B.many range h.2⟩
    separatedBy := fun range h h' =>
      ⟨.separatedBy (h.1.steady h.2) (h'.1.steady h'.2) range hb, B.separatedBy range h.2 h'.2⟩
    times := fun count h => ⟨h.1.times count, B.times count h.2⟩
    maybe := fun h => ⟨h.1.maybe, B.maybe h.2⟩
    lookAhead := fun hn h => ⟨h.1.lookAhead, B.lookAhead hn h.2⟩
    exceptChar := fun h => ⟨h.1.anythingExcept _, B.exceptChar h.2⟩
    exceptByte := fun h => ⟨h.1.anythingExcept _, B.exceptByte h.2⟩
    exceptToken := fun h => ⟨h.1.anythingExcept _, B.exceptToken h.2⟩
    untilChar := fun h => ⟨h.1.everythingUntil _, B.untilChar h.2⟩
    untilByte := fun h => ⟨h.1.everythingUntil _, B.untilByte h.2⟩
    untilToken := fun h => ⟨h.1.everythingUntil _, B.untilToken h.2⟩
    map := fun f h => ⟨h.1.map f, B.map f h.2⟩
    mapReply := fun h => nomatch h
    ignore := fun h => ⟨h.1.mapReply _, B.ignore h.2⟩
    ignoreIfAbsent := fun h => ⟨h.1.mapReply _, B.ignoreIfAbsent h.2⟩
    described := fun name label h => ⟨h.1.described name label, B.described name label h.2⟩
    pick := fun name expected select h =>
      ⟨h.1.pick name expected select, B.pick name expected select h.2⟩
    seq := fun h h' => ⟨h.1.seq h'.1, B.seq h.2 h'.2⟩
    tap := fun label h => ⟨h.1.tap label, B.tap label h.2⟩
    defined := fun h => ⟨.of_parse h.1, B.defined h.2⟩
    unfinished := fun h => absurd h not_recursive_withoutRecursion
    handle := fun _ h => absurd h not_recursive_withoutRecursion
    orphan := ⟨.of_parse fun _ => .pure _, B.orphan⟩
    rule := fun h => nomatch h
    pure := B.pure
    bind := B.bind
    step := fun h => B.step h.2
    attempt := fun h => B.attempt h.2
    reject := B.reject
    loop := fun h => B.loop h.2
    recover := fun hn h => B.recover hn h.2
    position := B.position
    atEnd := B.atEnd
    remaining := B.remaining
    snippet := B.snippet
    raise := B.raise }

/-! ## Where repetitions stop -/

/-- The matches `ms` of a loop that stops, and only where it must: there is at most one more than there
are elements left, all but the last one have moved on, and if that one has too, the next try fails. -/
structure Stops (input : Input) (attempt : Nat → Nat → Run (Reply α)) (start : Nat)
    (ms : List (Match α)) : Prop where
  course : Course attempt 0 start ms
  length_le : ms.length ≤ input.remaining start + 1
  advances {front rest : List (Match α)} {m : Match α} : ms = front ++ m :: rest → rest ≠ [] →
    Match.stop start front < m.cursor
  next_fails : (∀ front m, ms = front ++ [m] → m.cursor ≠ Match.stop start front) →
    (attempt ms.length (Match.stop start ms)).found = some none

/-- Steady tries make a loop that stops where it must. -/
theorem SteadyTries.stops {input : Input} {attempt : Nat → Nat → Run (Reply α)}
    (h : SteadyTries input attempt) (start : Nat) : ∃ ms, Stops input attempt start ms := by
  obtain ⟨ms, hc, hlen⟩ := h.course 0 start
  refine ⟨ms, hc, hlen, ?_, ?_⟩
  · rintro front rest m rfl hrest
    obtain ⟨_, hf, hreach⟩ := h (0 + front.length) (Match.stop start front)
    rw [hc.found] at hf
    cases hf
    exact Nat.lt_of_le_of_ne (hreach m rfl).1 (hc.moves hrest).symm
  · intro hlast
    have hnext := hc.next_fails hlast
    rwa [Nat.zero_add] at hnext

/-- A loop without a range that stops answers with the values of its matches, where they stop. -/
theorem Stops.answer {input : Input} {attempt : Nat → Nat → Run (Reply α)} {start : Nat}
    {ms : List (Match α)} (h : Stops input attempt start ms) (name : String)
    (stopped : Nat → Failure → Event) {bound : Nat} (hb : ms.length < bound) :
    (Parser.repeatFrom attempt stopped .any bound 0 start).answer?.map
        (Parser.Tally.reply name .any start) =
      some (.succeed (Match.stop start ms) (Match.values ms)) := by
  obtain ⟨t, ht, -, hall⟩ := h.course.answer stopped (Repetition.exceededBy_any 0) hb
  rw [ht, Option.map_some, hall (Repetition.exceededBy_any _)]
  rfl

open Triparse.Parser (many separatedBy nextValue answer?_many answer?_separatedBy)

/-- **Repetitions stop, and only where they must.** A grammar without reply mappers, recursive definitions
and rules answers on every state, if its loops may try twice more often than the input has elements. More
closely, a repetition of a parser that answers everywhere and never moves backwards or out of the input
stops where it must, and answers with what it has matched until then; so does a list, if its separators
are such a parser too. -/
theorem repetitions_stop (input : Input) :
    (∀ g, withoutRecursion.admits g = true → ∀ bound > input.source.length + 1,
      ∀ address {γ : Type} (s : State γ), s.input = input →
        ((g.parser bound [] address).apply s).Halts) ∧
    ∀ p : Parser α, p.Steady input → input.modality ∈ p.accepts → ∀ start,
      (∃ ms, Stops input (fun _ => p.execute input) start ms ∧ ∀ bound > ms.length,
        ((many bound .any p).execute input start).answer? =
          some (.succeed (Match.stop start ms) (Match.values ms))) ∧
      ∀ separator : Parser β, separator.Steady input →
        ∃ ms, Stops input (nextValue separator p input) start ms ∧ ∀ bound > ms.length,
          ((separatedBy bound .any separator p).execute input start).answer? =
            some (.succeed (Match.stop start ms) (Match.values ms)) := by
  constructor
  · rintro g hg bound hb address _ s rfl
    have ht := ((total_hereditary hb).parser g hg (.nil _) address).1
    unfold Parser.apply
    split
    · exact .pure _
    · exact (ht s.cursor).bind fun _ => .pure _
  · intro p hp hm start
    constructor
    · obtain ⟨ms, h⟩ := (SteadyTries.execute hp).stops start
      exact ⟨ms, h, fun bound hb => by rw [answer?_many hm, h.answer _ _ hb]⟩
    · intro separator hs
      obtain ⟨ms, h⟩ := (SteadyTries.nextValue hs hp).stops start
      exact ⟨ms, h, fun bound hb => by rw [answer?_separatedBy hm, h.answer _ _ hb]⟩

/-- A repetition of a repetition of an optional part stops, though it may match nothing for ever; a list
that ends with a separator stops before it, where what comes next is no separator with a value. -/
theorem repetitions_stop_of_optional :
    let comma := Parser.character ','
    let letter := Parser.charWhere "a letter" Text.isLetter
    let text : Input := ⟨.characters ['a', ',', ','], {}⟩
    let g := Grammar.anyNumber (.anyNumber (.maybe (.character ',')))
    ((g.parser 5 [] []).apply (State.start text)).Halts ∧
      (nextValue comma letter text 1 1).found = some none ∧
      ((separatedBy 2 .any comma letter).execute text 0).answer? = some (.succeed 1 ['a']) := by
  intro comma letter text g
  obtain ⟨hg, hp⟩ := repetitions_stop text (α := Char) (β := Char)
  have hm : text.modality ∈ letter.accepts := by decide
  obtain ⟨ms, hs, ha⟩ := (hp letter (Parser.Total.steady_elementWhere _ _ _) hm 0).2 comma
    (Parser.Total.steady_elementWhere _ _ _)
  have hms : ms = [⟨1, 'a', false⟩] :=
    hs.course.unique (.moved rfl (by decide) (.failed rfl))
  subst hms
  refine ⟨hg g rfl 5 (by decide) [] _ rfl, hs.next_fails fun front m hlast => ?_, ha 2 (by decide)⟩
  obtain ⟨rfl, hm⟩ := List.append_inj' (show [] ++ [_] = front ++ [m] from hlast) rfl
  cases hm
  decide

/-- A list may go on for ever, or go on after a value that has not moved forwards, though its values are those
of a parser that answers everywhere and never moves backwards: it is enough that a separator moves back. -/
theorem list_goes_on_behind_separators :
    let value := Parser.any Char
    let restart := (Parser.endOfInput.mapReply fun _ reply => reply.withCursor 0).or (Parser.succeedWith ())
    let twice := ((Parser.character 'c').mapReply fun _ reply => reply.withCursor 0).or (Parser.character 'b')
    (∀ input, value.Steady input) ∧
      (∀ bound, (separatedBy bound .any restart value).execute ⟨.characters ['a', 'b'], {}⟩ 0 = .unfinished) ∧
      ((separatedBy 4 .any twice value).execute ⟨.characters ['a', 'b', 'c'], {}⟩ 1).answer? =
        some (.succeed 3 ['b', 'a', 'c']) := by
  intro value restart twice
  refine ⟨fun input => Parser.Total.steady_elementWhere _ _ _, fun bound => ?_, rfl⟩
  have hm : (⟨.characters ['a', 'b'], {}⟩ : Input).modality ∈ value.accepts := by decide
  -- After the first value, the second one is read behind it, and the first one again from the end.
  rw [Parser.execute_separatedBy hm, Parser.repeatFrom_endless
    (P := fun count cursor => count = 0 ∧ cursor = 0 ∨ 0 < count ∧ (cursor = 1 ∨ cursor = 2))]
  · rfl
  · rintro count _ (⟨rfl, rfl⟩ | ⟨hpos, rfl | rfl⟩)
    · exact ⟨⟨1, 'a', false⟩, _, rfl, by decide, rfl, by decide⟩
    · obtain ⟨count, rfl⟩ := Nat.exists_eq_add_of_lt hpos
      exact ⟨⟨2, 'b', false⟩, _, rfl, by decide, rfl, .inr ⟨Nat.succ_pos _, .inr rfl⟩⟩
    · obtain ⟨count, rfl⟩ := Nat.exists_eq_add_of_lt hpos
      exact ⟨⟨1, 'a', false⟩, _, rfl, by decide, rfl, .inr ⟨Nat.succ_pos _, .inl rfl⟩⟩
  · exact .inl ⟨rfl, rfl⟩

end Triparse
