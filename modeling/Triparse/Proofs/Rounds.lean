import Triparse.Parser.Choice
import Triparse.Parser.Element
import Triparse.Parser.Optional
import Triparse.Proofs.Matches

/-!
# The last match of a repetition

A loop ends with a match that leaves the cursor where it was, and with one that makes the count exceed the
range; it tries again after any other (`repetition_ends_at_stall`). `Rounds attempt range count start rs`
says that it makes the matches of `rs`, with the events on the way, and tries again after each: they are
what comes before any match that a loop makes (`Rounds.run`).

Whether a match has moved forwards or backwards does not matter for this. A match that moves back is
therefore not the last one (`repetition_goes_on_backwards`), and a loop that keeps to places from where it
moves on to one of them never ends (`Parser.repeatFrom_endless`).
-/

set_option autoImplicit false

namespace Triparse

variable {α β : Type}

/-! ## Rounds -/

/-- A match and the events on the way to it. -/
structure Round (α : Type) where
  found : Match α
  events : List Event

namespace Round

/-- Where the last of the rounds stops. -/
def stop (start : Nat) (rs : List (Round α)) : Nat := Match.stop start (rs.map found)

/-- What a collection takes from rounds. -/
def values (rs : List (Round α)) : List α := Match.values (rs.map found)

/-- The events of rounds. -/
def log (rs : List (Round α)) : List Event := rs.flatMap events

@[simp] theorem stop_cons (start : Nat) (r : Round α) (rs : List (Round α)) :
    stop start (r :: rs) = stop r.found.cursor rs := rfl

@[simp] theorem values_cons (r : Round α) (rs : List (Round α)) :
    values (r :: rs) = r.found.kept ++ values rs := rfl

@[simp] theorem log_nil : log ([] : List (Round α)) = [] := rfl

@[simp] theorem log_cons (r : Round α) (rs : List (Round α)) : log (r :: rs) = r.events ++ log rs := rfl

theorem stop_concat (start : Nat) (rs : List (Round α)) (r : Round α) :
    stop start (rs ++ [r]) = r.found.cursor := by
  rw [stop, List.map_append]
  exact Match.stop_concat start (rs.map found) r.found

theorem log_concat (rs : List (Round α)) (r : Round α) : log (rs ++ [r]) = log rs ++ r.events := by
  rw [log, List.flatMap_append, List.flatMap_singleton]
  rfl

end Round

/-- Matches that a loop makes after `count` others, from `start` on, and after each of which it tries
again: each has moved, and none makes the count exceed the range. -/
inductive Rounds (attempt : Nat → Nat → Run (Reply α)) (range : Repetition) :
    Nat → Nat → List (Round α) → Prop
  | nil {count start : Nat} : Rounds attempt range count start []
  | cons {count start : Nat} {m : Match α} {events : List Event} {rs : List (Round α)} :
      attempt count start = .finished m.reply events → m.cursor ≠ start →
      range.exceededBy (count + 1) = false → Rounds attempt range (count + 1) m.cursor rs →
      Rounds attempt range count start (⟨m, events⟩ :: rs)

open Triparse.Parser (Tally repeatFrom)

@[simp] theorem Run.map_finished (f : α → β) (a : α) (events : List Event) :
    f <$> finished a events = finished (f a) events := by
  rw [map_eq_pure_bind, finished_bind]
  exact congrArg (finished _) (List.append_nil events)

theorem Run.map_eq_finished {f : α → β} {x : Run α} {b : β} {events : List Event} :
    f <$> x = finished b events ↔ ∃ a, x = finished a events ∧ f a = b := by
  cases x with
  | unfinished => exact ⟨nofun, fun ⟨_, h, _⟩ => nomatch h⟩
  | finished a log =>
    rw [map_finished]
    constructor
    · rintro ⟨⟩
      exact ⟨a, rfl, rfl⟩
    · rintro ⟨_, ⟨⟩, rfl⟩
      rfl

/-! ## One try -/

section
variable {attempt : Nat → Nat → Run (Reply α)} {stopped : Nat → Failure → Event} {range : Repetition}
  {bound count start : Nat} {m : Match α} {events : List Event}

/-- A loop whose try has matched ends there or goes on from there. -/
theorem Parser.repeatFrom_matched (h : attempt count start = .finished m.reply events) :
    repeatFrom attempt stopped range (bound + 1) count start =
      .finished () events >>= fun _ =>
        if m.cursor = start ∨ range.exceededBy (count + 1) then pure ⟨count + 1, m.cursor, m.kept⟩
        else Tally.after m <$> repeatFrom attempt stopped range bound (count + 1) m.cursor := by
  rw [repeatFrom, h, Run.finished_bind, Run.finished_bind, map_eq_pure_bind]
  rfl

theorem Parser.repeatFrom_last (h : attempt count start = .finished m.reply events)
    (hlast : m.cursor = start ∨ range.exceededBy (count + 1) = true) :
    repeatFrom attempt stopped range (bound + 1) count start =
      .finished ⟨count + 1, m.cursor, m.kept⟩ events := by
  rw [repeatFrom_matched h, if_pos hlast]
  exact congrArg (Run.finished _) (List.append_nil events)

theorem Parser.repeatFrom_next (h : attempt count start = .finished m.reply events)
    (hmove : m.cursor ≠ start) (hr : range.exceededBy (count + 1) = false) :
    repeatFrom attempt stopped range (bound + 1) count start =
      .finished () events >>= fun _ =>
        Tally.after m <$> repeatFrom attempt stopped range bound (count + 1) m.cursor := by
  rw [repeatFrom_matched h, if_neg]
  rintro (h | h)
  · exact hmove h
  · rw [hr] at h
    cases h

end

/-! ## What comes before a match -/

/-- What a loop comes to with rounds before it. -/
def Parser.Tally.afterAll (rs : List (Round α)) (t : Tally α) : Tally α :=
  { t with values := Round.values rs ++ t.values }

namespace Rounds

variable {attempt : Nat → Nat → Run (Reply α)} {stopped : Nat → Failure → Event} {range : Repetition}
  {count start : Nat} {rs : List (Round α)}

/-- A loop that makes rounds goes on with what it comes to after them. -/
theorem run (h : Rounds attempt range count start rs) (stopped : Nat → Failure → Event) (bound : Nat) :
    repeatFrom attempt stopped range (rs.length + bound) count start =
      .finished () (Round.log rs) >>= fun _ =>
        Tally.afterAll rs <$>
          repeatFrom attempt stopped range bound (count + rs.length) (Round.stop start rs) := by
  induction h with
  | nil =>
    rw [List.length_nil, Nat.zero_add, Round.log_nil, Run.finished_nil_bind]
    exact (id_map _).symm
  | @cons count start m events rs hm hmove hr _ ih =>
    have hlen : (⟨m, events⟩ :: rs : List (Round α)).length + bound = rs.length + bound + 1 := by
      rw [List.length_cons]
      omega
    have hcount : count + (⟨m, events⟩ :: rs : List (Round α)).length = count + 1 + rs.length := by
      rw [List.length_cons]
      omega
    rw [hlen, hcount, Parser.repeatFrom_next hm hmove hr, ih, Round.stop_cons]
    cases repeatFrom attempt stopped range bound (count + 1 + rs.length) (Round.stop m.cursor rs) with
    | unfinished => rfl
    | finished t log =>
      simp only [Run.map_finished, Run.finished_bind, Round.log_cons, Tally.after, Tally.afterAll,
        Round.values_cons, List.append_assoc]

/-- A loop that may try no more often than it makes rounds does not come to an end. -/
theorem run_unfinished (h : Rounds attempt range count start rs) (stopped : Nat → Failure → Event)
    {bound : Nat} (hb : bound ≤ rs.length) :
    repeatFrom attempt stopped range bound count start = .unfinished := by
  induction h generalizing bound with
  | nil =>
    obtain rfl := Nat.le_zero.1 hb
    rfl
  | cons hm hmove hr _ ih =>
    cases bound with
    | zero => rfl
    | succ bound =>
      rw [Parser.repeatFrom_next hm hmove hr, ih (Nat.le_of_succ_le_succ hb)]
      rfl

/-- A further match that has moved is a further round. -/
theorem concat (h : Rounds attempt range count start rs) {m : Match α} {events : List Event}
    (hm : attempt (count + rs.length) (Round.stop start rs) = .finished m.reply events)
    (hmove : m.cursor ≠ Round.stop start rs) (hr : range.exceededBy (count + rs.length + 1) = false) :
    Rounds attempt range count start (rs ++ [⟨m, events⟩]) := by
  induction h with
  | nil => exact .cons hm hmove hr .nil
  | @cons count start m' events' rs hm' hmove' hr' _ ih =>
    rw [List.length_cons, Nat.add_comm rs.length 1, ← Nat.add_assoc] at hm hr
    exact .cons hm' hmove' hr' (ih hm hmove hr)

/-- After rounds, a match that has not moved, or that is one too many, is counted, and is the last thing
that the loop does. -/
theorem run_last (h : Rounds attempt range count start rs) (stopped : Nat → Failure → Event)
    {m : Match α} {events : List Event}
    (hm : attempt (count + rs.length) (Round.stop start rs) = .finished m.reply events)
    (hlast : m.cursor = Round.stop start rs ∨ range.exceededBy (count + rs.length + 1) = true)
    {bound : Nat} (hb : rs.length < bound) :
    repeatFrom attempt stopped range bound count start =
      .finished ⟨count + rs.length + 1, m.cursor, Round.values rs ++ m.kept⟩
        (Round.log rs ++ events) := by
  obtain ⟨k, rfl⟩ := Nat.exists_eq_add_of_lt hb
  rw [Nat.add_assoc, h.run, Parser.repeatFrom_last hm hlast, Run.map_finished, Run.finished_bind]
  rfl

/-- After rounds a loop that comes to an end has made another try, right after them. -/
theorem tries_next (h : Rounds attempt range count start rs) {bound : Nat} {t : Tally α}
    {log : List Event} (ht : repeatFrom attempt stopped range bound count start = .finished t log) :
    ∃ next events, attempt (count + rs.length) (Round.stop start rs) = .finished next events ∧
      Round.log rs ++ events <+: log := by
  have hb : rs.length < bound := by
    refine Nat.lt_of_not_le fun hle => ?_
    rw [h.run_unfinished stopped hle] at ht
    cases ht
  obtain ⟨k, rfl⟩ := Nat.exists_eq_add_of_lt hb
  rw [Nat.add_assoc, h.run] at ht
  obtain ⟨-, before, after, ⟨⟩, hafter, rfl⟩ := Run.bind_eq_finished.1 ht
  obtain ⟨t', htry, -⟩ := Run.map_eq_finished.1 hafter
  rw [repeatFrom] at htry
  obtain ⟨next, events, more, hnext, -, rfl⟩ := Run.bind_eq_finished.1 htry
  refine ⟨next, events, hnext, ?_⟩
  rw [← List.append_assoc]
  exact List.prefix_append _ more

end Rounds

/-- A loop that only comes to places where its try matches, moves and leaves it at such a place again never
comes to an end. -/
theorem Parser.repeatFrom_endless {attempt : Nat → Nat → Run (Reply α)} {range : Repetition}
    {P : Nat → Nat → Prop} (stopped : Nat → Failure → Event)
    (h : ∀ count start, P count start → ∃ (m : Match α) (events : List Event),
      attempt count start = .finished m.reply events ∧ m.cursor ≠ start ∧
        range.exceededBy (count + 1) = false ∧ P (count + 1) m.cursor) :
    ∀ {count start : Nat} (bound : Nat), P count start →
      repeatFrom attempt stopped range bound count start = .unfinished
  | _, _, 0, _ => rfl
  | count, start, bound + 1, hp => by
    obtain ⟨m, events, hm, hmove, hr, hnext⟩ := h count start hp
    rw [repeatFrom_next hm hmove hr, repeatFrom_endless stopped h bound hnext]
    rfl

/-! ## Repetitions -/

/-- The runs of a repetition that tries again after each match that has moved, forwards or backwards, and
no other: what it does after `rs` and a match at the end of them. -/
structure EndsAtStall (attempt : Nat → Nat → Run (Reply α)) (range : Repetition) (start : Nat)
    (reply : Tally α → Reply (List α)) (run : Nat → Run (Reply (List α))) : Prop where
  last {rs : List (Round α)} {m : Match α} {events : List Event} :
    Rounds attempt range 0 start rs →
    attempt rs.length (Round.stop start rs) = .finished m.reply events →
    m.cursor = Round.stop start rs ∨ range.exceededBy (rs.length + 1) = true →
    ∀ bound > rs.length, run bound =
      .finished (reply ⟨rs.length + 1, m.cursor, Round.values rs ++ m.kept⟩) (Round.log rs ++ events)
  onward {rs : List (Round α)} {m : Match α} {events : List Event} :
    Rounds attempt range 0 start rs →
    attempt rs.length (Round.stop start rs) = .finished m.reply events →
    m.cursor ≠ Round.stop start rs → range.exceededBy (rs.length + 1) = false →
    ∀ bound r log, run bound = .finished r log →
      ∃ next events', attempt (rs.length + 1) m.cursor = .finished next events' ∧
        Round.log rs ++ events ++ events' <+: log

/-- Whatever follows from what its loop comes to, a repetition ends when the loop does. -/
theorem EndsAtStall.of_loop {attempt : Nat → Nat → Run (Reply α)} {range : Repetition} {start : Nat}
    {stopped : Nat → Failure → Event} {reply : Tally α → Reply (List α)}
    {run : Nat → Run (Reply (List α))}
    (hrun : ∀ bound, run bound = reply <$> repeatFrom attempt stopped range bound 0 start) :
    EndsAtStall attempt range start reply run where
  last {rs m events} h hm hlast bound hb := by
    rw [← Nat.zero_add rs.length] at hm hlast
    rw [hrun, h.run_last stopped hm hlast hb, Run.map_finished, Nat.zero_add]
  onward {rs m events} h hm hmove hr bound r log hlog := by
    rw [← Nat.zero_add rs.length] at hm hr
    rw [hrun] at hlog
    obtain ⟨t, ht, -⟩ := Run.map_eq_finished.1 hlog
    obtain ⟨next, events', hnext, hprefix⟩ := (h.concat hm hmove hr).tries_next ht
    rw [Round.stop_concat, List.length_append, Nat.zero_add] at hnext
    rw [Round.log_concat] at hprefix
    exact ⟨next, events', hnext, hprefix⟩

open Triparse.Parser (many separatedBy nextValue)

section
variable {p : Parser α} {input : Input}

theorem Parser.execute_many (hm : input.modality ∈ p.accepts) (bound : Nat) (range : Repetition)
    (start : Nat) :
    (many bound range p).execute input start =
      Tally.reply "many" range start <$>
        repeatFrom (fun _ => p.execute input) .repetitionStopped range bound 0 start := by
  have hm' : input.modality ∈ (many bound range p).accepts := hm
  rw [Parser.execute_of_mem hm', many, map_eq_pure_bind]

theorem Parser.execute_separatedBy (hm : input.modality ∈ p.accepts) (separator : Parser β)
    (bound : Nat) (range : Repetition) (start : Nat) :
    (separatedBy bound range separator p).execute input start =
      Tally.reply "separated_by" range start <$>
        repeatFrom (nextValue separator p input) .listStopped range bound 0 start := by
  have hm' : input.modality ∈ (separatedBy bound range separator p).accepts := hm
  rw [Parser.execute_of_mem hm', separatedBy, map_eq_pure_bind]

/-- **A repetition ends with the first match that leaves the cursor where it was**, or that makes the count
exceed the range: the match is counted, and nothing is tried after it. After every other match it tries
again, in whichever direction the match has moved the cursor, and comes to no end without that try. This
is so for every parser, separator, range and start. -/
theorem repetition_ends_at_stall (hm : input.modality ∈ p.accepts) (separator : Parser β)
    (range : Repetition) (start : Nat) :
    EndsAtStall (fun _ => p.execute input) range start (Tally.reply "many" range start)
        (fun bound => (many bound range p).execute input start) ∧
      EndsAtStall (nextValue separator p input) range start (Tally.reply "separated_by" range start)
        (fun bound => (separatedBy bound range separator p).execute input start) :=
  ⟨.of_loop fun bound => Parser.execute_many hm bound range start,
    .of_loop fun bound => Parser.execute_separatedBy hm separator bound range start⟩

end

/-- An optional letter, once there is none, is the last one; two letters are tried as the upper end is
only exceeded by the second. -/
theorem repetition_ends_at_stall_of_optional :
    let letter := Parser.charWhere "a letter" Char.isAlpha
    let text : Input := ⟨.characters ['a', 'b', '1'], {}⟩
    text.modality ∈ letter.maybe.accepts ∧
      (many 3 .any letter.maybe).execute text 0 = .finished (.succeed 2 [some 'a', some 'b', none]) [] ∧
      (many 2 (.atMost 1) letter.maybe).execute text 0 =
        .finished (.fail 0 (.countOutOfRange "many" 0 (.atMost 1) 2 none)) [] := by
  intro letter text
  have hm : text.modality ∈ letter.maybe.accepts := by decide
  have hall := (repetition_ends_at_stall hm letter .any 0).1
  have hone := (repetition_ends_at_stall hm letter (.atMost 1) 0).1
  refine ⟨hm, ?_, ?_⟩
  · exact hall.last (m := ⟨2, none, false⟩)
      (.cons (m := ⟨1, some 'a', false⟩) rfl (by decide) rfl
        (.cons (m := ⟨2, some 'b', false⟩) rfl (by decide) rfl .nil)) rfl (.inl rfl) 3 (by decide)
  · exact hone.last (m := ⟨2, some 'b', false⟩)
      (.cons (m := ⟨1, some 'a', false⟩) rfl (by decide) rfl .nil) rfl (.inr rfl) 2 (by decide)

/-- A match that moves back does not end a repetition: with one that reads the second character and goes
back to the first, the first is read as well. With one that goes back to where it has been the repetition
has no end. -/
theorem repetition_goes_on_backwards :
    let text : Input := ⟨.characters ['a', 'b'], {}⟩
    let back := (Parser.any Char).mapReply fun _ reply => reply.withCursor 0
    let turn := (Parser.character 'a').or
      ((Parser.character 'b').mapReply fun _ reply => reply.withCursor 0)
    back.execute text 1 = .finished (.succeed 0 'b') [] ∧
      (many 2 .any back).execute text 1 = .finished (.succeed 0 ['b', 'a']) [] ∧
      ∀ bound, (many bound .any turn).execute text 0 = .unfinished := by
  intro text back turn
  refine ⟨rfl, rfl, fun bound => ?_⟩
  have hm : text.modality ∈ turn.accepts := by decide
  -- The two letters are read in turn, from the two cursors before them.
  rw [Parser.execute_many hm, Parser.repeatFrom_endless (P := fun _ cursor => cursor = 0 ∨ cursor = 1)]
  · rfl
  · rintro count _ (rfl | rfl)
    · exact ⟨⟨1, 'a', false⟩, _, rfl, by decide, rfl, .inr rfl⟩
    · exact ⟨⟨0, 'b', false⟩, _, rfl, by decide, rfl, .inl rfl⟩
  · exact .inl rfl

end Triparse
