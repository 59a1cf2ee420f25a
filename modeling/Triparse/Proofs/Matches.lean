import Triparse.Parser.Mapping
import Triparse.Parser.Repetition
import Triparse.Parser.Sequence

/-!
# The matches of a loop

A loop sees of a try no more than whether it answers, whether it fails, and the match if there is one
(`Run.found`). `Course attempt count start ms` says which matches `ms` a loop without an upper end makes
after `count` others, from `start` on: it goes on after a match that has moved, and ends where a try fails
or with a match that has not moved. A loop answers if and only if it has a course
(`Course.of_answer`, `Course.answer`), and its course tells the answer under every range.

The answers of parsers that change replies, and those of pairs, are told from the answers of their parts.
-/

set_option autoImplicit false

namespace Triparse

variable {α β : Type}

/-! ## Matches -/

/-- A successful reply. -/
structure Match (α : Type) where
  cursor : Nat
  value : α
  suppressed : Bool := false

/-- The match that a reply is, if it is one. -/
def Reply.match? (r : Reply α) : Option (Match α) :=
  match r.outcome with
  | .ok a => some ⟨r.cursor, a, r.suppressed⟩
  | .error _ => none

/-- What a loop sees of a try: nothing if there is no answer, and else a match or none. -/
def Run.found (x : Run (Reply α)) : Option (Option (Match α)) := x.answer?.map Reply.match?

/-- The parser matches at a cursor of the input. -/
def Parser.MatchesAt (p : Parser α) (input : Input) (cursor : Nat) : Prop :=
  ∃ m, (p.execute input cursor).found = some (some m)

namespace Match

/-- The reply that a match is. -/
def reply (m : Match α) : Reply α := ⟨m.cursor, .ok m.value, m.suppressed⟩

/-- What a collection takes from a match. -/
def kept (m : Match α) : List α := if m.suppressed then [] else [m.value]

/-- Where matches stop that are made one after the other, the first of them from `start`. -/
def stop (start : Nat) : List (Match α) → Nat
  | [] => start
  | m :: ms => stop m.cursor ms

/-- What a collection takes from matches. -/
def values (ms : List (Match α)) : List α := ms.flatMap kept

theorem stop_concat (start : Nat) (ms : List (Match α)) (m : Match α) :
    stop start (ms ++ [m]) = m.cursor := by
  induction ms generalizing start with
  | nil => rfl
  | cons m' ms ih => exact ih m'.cursor

/-- The count after a match and others, counted from the first one on. -/
theorem add_length_cons (count : Nat) (m : Match α) (ms : List (Match α)) :
    count + (m :: ms).length = count + 1 + ms.length := by
  rw [List.length_cons]
  omega

end Match

namespace Run

variable {x : Run (Reply α)}

/-- A match tells all of the reply that it is. -/
theorem found_eq_match {m : Match α} : x.found = some (some m) ↔ x.answer? = some m.reply := by
  rw [found, Option.map_eq_some_iff]
  constructor
  · rintro ⟨⟨stop, e | a, flag⟩, hx, hm⟩
    · cases hm
    · cases hm
      exact hx
  · intro hx
    exact ⟨m.reply, hx, rfl⟩

theorem found_eq_none_iff : x.found = some none ↔
    ∃ r e, x.answer? = some r ∧ r.outcome = .error e := by
  rw [found, Option.map_eq_some_iff]
  constructor
  · rintro ⟨⟨stop, e | a, flag⟩, hx, hm⟩
    · exact ⟨_, e, hx, rfl⟩
    · cases hm
  · rintro ⟨⟨stop, _, flag⟩, e, hx, ⟨⟩⟩
    exact ⟨_, hx, rfl⟩

end Run

namespace Parser

/-! ### Changed replies -/

/-- A parser whose successes are changed answers in the same cases, and fails where it fails without. -/
theorem answer?_mapReply (p : Parser α) (f : Input → Reply α → Reply β) (input : Input) (cursor : Nat) :
    ((p.mapReply f).execute input cursor).answer? =
      (p.execute input cursor).answer?.map fun reply =>
        match reply.outcome with
        | .error e => .fail reply.cursor e
        | .ok _ => f input reply := by
  by_cases hm : input.modality ∈ p.accepts
  · have hm' : input.modality ∈ (p.mapReply f).accepts := hm
    rw [execute_of_mem hm', mapReply, Run.answer?_bind, Option.map_eq_bind]
    congr 1
    funext reply
    obtain ⟨stop, e | a, flag⟩ := reply <;> rfl
  · have hm' : input.modality ∉ (p.mapReply f).accepts := hm
    rw [execute_of_not_mem hm', execute_of_not_mem hm]
    rfl

theorem found_map (p : Parser α) (f : α → β) (input : Input) (cursor : Nat) :
    ((p.map f).execute input cursor).found =
      (p.execute input cursor).found.map (Option.map fun m => ⟨m.cursor, f m.value, m.suppressed⟩) := by
  rw [Run.found, map, answer?_mapReply, Run.found, Option.map_map, Option.map_map]
  congr 1
  funext reply
  obtain ⟨stop, e | a, flag⟩ := reply <;> rfl

/-! ### Pairs -/

/-- A pair answers where its second part does, after the first, or where the first one fails; a failure
stands at the start of the pair. -/
theorem answer?_seq (p : Parser α) (q : Parser β) (input : Input) (cursor : Nat) :
    ((p.seq q).execute input cursor).answer? =
      (p.execute input cursor).answer?.bind fun first =>
        match first.outcome with
        | .error e => some (.fail cursor e)
        | .ok a => (q.execute input first.cursor).answer?.map fun second =>
          match second.outcome with
          | .error e => .fail cursor e
          | .ok b => .succeed second.cursor (a, b) := by
  rw [seq, execute_ofFunction, Run.answer?_bind]
  congr 1
  funext first
  obtain ⟨middle, e | a, _⟩ := first
  · rfl
  · dsimp only
    rw [Run.answer?_bind, Option.map_eq_bind]
    congr 1
    funext second
    obtain ⟨stop, e | b, flag⟩ := second <;> rfl

theorem answer?_map_seq {γ : Type} (p : Parser α) (q : Parser β) (f : α × β → γ) (input : Input)
    (cursor : Nat) :
    (((p.seq q).map f).execute input cursor).answer? =
      (p.execute input cursor).answer?.bind fun first =>
        match first.outcome with
        | .error e => some (.fail cursor e)
        | .ok a => (q.execute input first.cursor).answer?.map fun second =>
          match second.outcome with
          | .error e => .fail cursor e
          | .ok b => .succeed second.cursor (f (a, b)) := by
  rw [map, answer?_mapReply, answer?_seq, Option.map_bind]
  congr 1
  funext first
  obtain ⟨middle, e | a, _⟩ := first
  · rfl
  · simp only [Function.comp_apply, Option.map_map]
    congr 1
    funext second
    obtain ⟨stop, e | b, flag⟩ := second <;> rfl

theorem found_map_seq {γ : Type} (p : Parser α) (q : Parser β) (f : α × β → γ) (input : Input)
    (cursor : Nat) :
    (((p.seq q).map f).execute input cursor).found =
      (p.execute input cursor).found.bind fun
        | none => some none
        | some m => (q.execute input m.cursor).found.map
            (Option.map fun m' => ⟨m'.cursor, f (m.value, m'.value), false⟩) := by
  rw [Run.found, answer?_map_seq, Run.found, Option.map_bind, Option.bind_map]
  congr 1
  funext first
  obtain ⟨middle, e | a, _⟩ := first
  · rfl
  · simp only [Function.comp_apply, Reply.match?, Run.found, Option.map_map]
    congr 1
    funext second
    obtain ⟨stop, e | b, flag⟩ := second <;> rfl

/-- A part and one that is skipped after it: the value of the former, up to where the latter stops. -/
theorem found_skip (p : Parser α) (q : Parser β) (input : Input) (cursor : Nat) :
    ((p.skip q).execute input cursor).found =
      (p.execute input cursor).found.bind fun
        | none => some none
        | some m => (q.execute input m.cursor).found.map
            (Option.map fun m' => ⟨m'.cursor, m.value, false⟩) :=
  found_map_seq p q Prod.fst input cursor

/-- A separator and a value as one parser: the match of the value, which now is not suppressed. -/
theorem found_skipLeft (separator : Parser β) (value : Parser α) (input : Input) (cursor : Nat) :
    ((separator.skipLeft value).execute input cursor).found =
      (separator.execute input cursor).found.bind fun
        | none => some none
        | some gap => (value.execute input gap.cursor).found.map
            (Option.map fun m => { m with suppressed := false }) :=
  found_map_seq separator value Prod.snd input cursor

/-- A value between two parts, if the first part and the value match, goes as the second part does. -/
theorem answer?_between {γ : Type} {before : Parser α} {after : Parser β} {value : Parser γ}
    {input : Input} {start : Nat} {m : Match α} {m' : Match γ}
    (hbefore : (before.execute input start).answer? = some m.reply)
    (hvalue : (value.execute input m.cursor).answer? = some m'.reply) :
    ((between before after value).execute input start).answer? =
      (after.execute input m'.cursor).answer?.map fun last =>
        match last.outcome with
        | .error e => .fail start e
        | .ok _ => .succeed last.cursor m'.value := by
  rw [between, skip, answer?_map_seq, skipLeft, answer?_map_seq, hbefore, Option.bind_some]
  dsimp only [Match.reply]
  rw [hvalue]
  rfl

/-! ### Loops -/

/-- What a loop comes to with one more match before it. -/
def Tally.after (m : Match α) (t : Tally α) : Tally α := { t with values := m.kept ++ t.values }

/-- One try of a loop, as far as its answer goes. -/
theorem answer?_repeatFrom (attempt : Nat → Nat → Run (Reply α)) (stopped : Nat → Failure → Event)
    (range : Repetition) (bound count cursor : Nat) :
    (repeatFrom attempt stopped range (bound + 1) count cursor).answer? =
      (attempt count cursor).found.bind fun
        | none => some ⟨count, cursor, []⟩
        | some m =>
          if m.cursor = cursor ∨ range.exceededBy (count + 1) then some ⟨count + 1, m.cursor, m.kept⟩
          else
            (repeatFrom attempt stopped range bound (count + 1) m.cursor).answer?.map
              (Tally.after m) := by
  rw [repeatFrom, Run.answer?_bind, Run.found, Option.bind_map]
  congr 1
  funext reply
  obtain ⟨stop, e | a, flag⟩ := reply
  · rfl
  · simp only [Reply.match?, Function.comp_apply]
    split
    · rfl
    · rw [Run.answer?_bind, Option.map_eq_bind]
      rfl

section
variable {attempt : Nat → Nat → Run (Reply α)} {stopped : Nat → Failure → Event}
  {range : Repetition} {bound count cursor : Nat} {m : Match α}

/-- The first try of a loop that answers has answered. -/
theorem found_of_answer?_repeatFrom {t : Tally α}
    (h : (repeatFrom attempt stopped range (bound + 1) count cursor).answer? = some t) :
    ∃ found, (attempt count cursor).found = some found := by
  rw [answer?_repeatFrom, Option.bind_eq_some_iff] at h
  obtain ⟨found, hf, -⟩ := h
  exact ⟨found, hf⟩

theorem answer?_repeatFrom_failed (h : (attempt count cursor).found = some none) :
    (repeatFrom attempt stopped range (bound + 1) count cursor).answer? =
      some ⟨count, cursor, []⟩ := by
  rw [answer?_repeatFrom, h]
  rfl

theorem answer?_repeatFrom_last (h : (attempt count cursor).found = some (some m))
    (hm : m.cursor = cursor ∨ range.exceededBy (count + 1)) :
    (repeatFrom attempt stopped range (bound + 1) count cursor).answer? =
      some ⟨count + 1, m.cursor, m.kept⟩ := by
  rw [answer?_repeatFrom, h]
  exact if_pos hm

theorem answer?_repeatFrom_next (h : (attempt count cursor).found = some (some m))
    (hm : m.cursor ≠ cursor) (hr : range.exceededBy (count + 1) = false) :
    (repeatFrom attempt stopped range (bound + 1) count cursor).answer? =
      (repeatFrom attempt stopped range bound (count + 1) m.cursor).answer?.map
        (Tally.after m) := by
  rw [answer?_repeatFrom, h]
  refine if_neg ?_
  rintro (h | h)
  · exact hm h
  · rw [hr] at h
    cases h

end

variable {p : Parser α} {input : Input}

/-- A repetition answers what its loop comes to. -/
theorem answer?_many (hm : input.modality ∈ p.accepts) (bound : Nat) (range : Repetition)
    (start : Nat) :
    ((many bound range p).execute input start).answer? =
      (repeatFrom (fun _ => p.execute input) .repetitionStopped range bound 0 start).answer?.map
        (Tally.reply "many" range start) := by
  have hm' : input.modality ∈ (many bound range p).accepts := hm
  rw [execute_of_mem hm', many, Run.answer?_bind, Option.map_eq_bind]
  rfl

theorem answer?_separatedBy (hm : input.modality ∈ p.accepts) (separator : Parser β) (bound : Nat)
    (range : Repetition) (start : Nat) :
    ((separatedBy bound range separator p).execute input start).answer? =
      (repeatFrom (nextValue separator p input) .listStopped range bound 0 start).answer?.map
        (Tally.reply "separated_by" range start) := by
  have hm' : input.modality ∈ (separatedBy bound range separator p).accepts := hm
  rw [execute_of_mem hm', separatedBy, Run.answer?_bind, Option.map_eq_bind]
  rfl

theorem found_nextValue_zero (separator : Parser β) (cursor : Nat) :
    (nextValue separator p input 0 cursor).found = (p.execute input cursor).found := rfl

/-- All values of a list but the first come after a separator. -/
theorem found_nextValue (separator : Parser β) (count cursor : Nat) :
    (nextValue separator p input (count + 1) cursor).found =
      (separator.execute input cursor).found.bind fun
        | none => some none
        | some gap => (p.execute input gap.cursor).found := by
  rw [nextValue, if_neg (Nat.succ_ne_zero count), Run.found, Run.answer?_bind, Run.found,
    Option.map_bind, Option.bind_map]
  congr 1
  funext reply
  obtain ⟨gap, e | b, flag⟩ := reply <;> rfl

end Parser

/-! ## Courses -/

open Triparse.Parser (Tally repeatFrom found_of_answer?_repeatFrom answer?_repeatFrom_failed
  answer?_repeatFrom_last answer?_repeatFrom_next)

/-- The matches that a loop without an upper end makes after `count` others, from `start` on. -/
inductive Course (attempt : Nat → Nat → Run (Reply α)) : Nat → Nat → List (Match α) → Prop
  /-- There is no further one. -/
  | failed {count start : Nat} : (attempt count start).found = some none →
      Course attempt count start []
  /-- The last one has not moved. -/
  | stalled {count start : Nat} {m : Match α} : (attempt count start).found = some (some m) →
      m.cursor = start → Course attempt count start [m]
  /-- One that has moved is followed by what comes from there on. -/
  | moved {count start : Nat} {m : Match α} {ms : List (Match α)} :
      (attempt count start).found = some (some m) → m.cursor ≠ start →
      Course attempt (count + 1) m.cursor ms → Course attempt count start (m :: ms)

namespace Repetition

/-- The count that a loop comes to which would come to `n` if the range had no upper end. -/
def cutOff (r : Repetition) (n : Nat) : Nat :=
  match r.max with
  | none => n
  | some m => Min.min n (m + 1)

variable {r : Repetition} {n : Nat}

theorem exceededBy_any (n : Nat) : any.exceededBy n = false := rfl

theorem exceededBy_zero (r : Repetition) : r.exceededBy 0 = false := by
  unfold exceededBy
  split <;> simp

/-- A count in the range, or below it, is not cut off. -/
theorem cutOff_of_not_exceededBy (h : r.exceededBy n = false) : r.cutOff n = n := by
  cases hm : r.max with
  | none => simp only [cutOff, hm]
  | some m =>
    simp only [exceededBy, hm, decide_eq_false_iff_not] at h
    simp only [cutOff, hm]
    omega

/-- If a count has gone past the range, but not the count before, all greater ones are cut off there. -/
theorem cutOff_of_exceededBy (h : r.exceededBy n = false) (h' : r.exceededBy (n + 1) = true) (k : Nat) :
    r.cutOff (n + 1 + k) = n + 1 := by
  cases hm : r.max with
  | none => simp only [exceededBy, hm, reduceCtorEq] at h'
  | some m =>
    simp only [exceededBy, hm, decide_eq_true_eq, decide_eq_false_iff_not] at h h'
    simp only [cutOff, hm]
    omega

theorem exceededBy_mono (h : r.exceededBy n = true) (k : Nat) : r.exceededBy (n + k) = true := by
  cases hm : r.max with
  | none => simp only [exceededBy, hm, reduceCtorEq] at h
  | some m =>
    simp only [exceededBy, hm, decide_eq_true_eq] at h ⊢
    omega

end Repetition

namespace Course

variable {attempt : Nat → Nat → Run (Reply α)} {stopped : Nat → Failure → Event}
  {count start : Nat} {ms : List (Match α)}

theorem unique (h : Course attempt count start ms) {ms' : List (Match α)}
    (h' : Course attempt count start ms') : ms = ms' := by
  induction h generalizing ms' with
  | failed hf =>
    cases h' with
    | failed _ => rfl
    | stalled hf' _ | moved hf' _ _ => rw [hf] at hf'; cases hf'
  | stalled hf hm =>
    cases h' with
    | failed hf' => rw [hf] at hf'; cases hf'
    | stalled hf' _ => rw [hf] at hf'; cases hf'; rfl
    | moved hf' hm' _ => rw [hf] at hf'; cases hf'; exact absurd hm hm'
  | moved hf hm _ ih =>
    cases h' with
    | failed hf' => rw [hf] at hf'; cases hf'
    | stalled hf' hm' => rw [hf] at hf'; cases hf'; exact absurd hm' hm
    | moved hf' _ hc => rw [hf] at hf'; cases hf'; rw [ih hc]

/-! ### Courses and answers -/

/-- A loop that answers, and has not gone past the end of its range, has a course, and answers what its
course says. -/
theorem of_answer {range : Repetition} {bound : Nat} {t : Tally α}
    (ht : (repeatFrom attempt stopped range bound count start).answer? = some t)
    (hr : range.exceededBy t.count = false) :
    ∃ ms, Course attempt count start ms ∧
      t = ⟨count + ms.length, Match.stop start ms, Match.values ms⟩ := by
  -- Each try that the bound allows is one of the three cases of a course.
  induction bound generalizing count start t with
  | zero => cases ht
  | succ bound ih =>
    obtain ⟨found, hf⟩ := found_of_answer?_repeatFrom ht
    cases found with
    | none =>
      rw [answer?_repeatFrom_failed hf] at ht
      cases ht
      exact ⟨[], .failed hf, rfl⟩
    | some m =>
      by_cases hm : m.cursor = start
      · rw [answer?_repeatFrom_last hf (.inl hm)] at ht
        cases ht
        refine ⟨[m], .stalled hf hm, ?_⟩
        simp [Match.stop, Match.values]
      · cases hr' : range.exceededBy (count + 1) with
        | true =>
          rw [answer?_repeatFrom_last hf (.inr hr')] at ht
          cases ht
          rw [hr'] at hr
          cases hr
        | false =>
          rw [answer?_repeatFrom_next hf hm hr', Option.map_eq_some_iff] at ht
          obtain ⟨rest, hrest, rfl⟩ := ht
          obtain ⟨ms, hc, rfl⟩ := ih hrest hr
          refine ⟨m :: ms, .moved hf hm hc, ?_⟩
          rw [Tally.after, Match.add_length_cons]
          rfl

/-- A loop that has a course answers, under every range that the count is not past yet: as the course
says, if that does not go past the end of the range, and otherwise with the first count that does. -/
theorem answer (h : Course attempt count start ms) (stopped : Nat → Failure → Event)
    {range : Repetition} (hr : range.exceededBy count = false) {bound : Nat} (hb : ms.length < bound) :
    ∃ t, (repeatFrom attempt stopped range bound count start).answer? = some t ∧
      t.count = range.cutOff (count + ms.length) ∧
      (range.exceededBy (count + ms.length) = false →
        t = ⟨count + ms.length, Match.stop start ms, Match.values ms⟩) := by
  induction h generalizing bound with
  | @failed count start hf =>
    obtain ⟨bound, rfl⟩ := Nat.exists_eq_succ_of_ne_zero (Nat.ne_of_gt hb)
    exact ⟨_, answer?_repeatFrom_failed hf, (Repetition.cutOff_of_not_exceededBy hr).symm,
      fun _ => rfl⟩
  | @stalled count start m hf hm =>
    obtain ⟨bound, rfl⟩ := Nat.exists_eq_succ_of_ne_zero (Nat.ne_zero_of_lt hb)
    refine ⟨_, answer?_repeatFrom_last hf (.inl hm), ?_, fun _ => ?_⟩
    · cases hr' : range.exceededBy (count + 1) with
      | true => exact (Repetition.cutOff_of_exceededBy hr hr' 0).symm
      | false => exact (Repetition.cutOff_of_not_exceededBy hr').symm
    · simp [Match.stop, Match.values]
  | @moved count start m ms hf hm _ ih =>
    obtain ⟨bound, rfl⟩ := Nat.exists_eq_succ_of_ne_zero (Nat.ne_zero_of_lt hb)
    rw [Match.add_length_cons]
    -- Only here the range can end the loop before the course ends.
    cases hr' : range.exceededBy (count + 1) with
    | true =>
      refine ⟨_, answer?_repeatFrom_last hf (.inr hr'), ?_, fun h => ?_⟩
      · exact (Repetition.cutOff_of_exceededBy hr hr' ms.length).symm
      · rw [Repetition.exceededBy_mono hr'] at h
        cases h
    | false =>
      obtain ⟨t, ht, htc, hall⟩ := ih hr' (Nat.lt_of_succ_lt_succ hb)
      refine ⟨t.after m, ?_, htc, fun h => ?_⟩
      · rw [answer?_repeatFrom_next hf hm hr', ht]
        rfl
      · rw [hall h]
        rfl

/-! ### What comes after some of the matches -/

/-- After some of the matches, but not all, the course goes on with the others. -/
theorem drop {front rest : List (Match α)} (h : Course attempt count start (front ++ rest))
    (hrest : rest ≠ []) :
    Course attempt (count + front.length) (Match.stop start front) rest := by
  induction front generalizing count start with
  | nil => exact h
  | cons m front ih =>
    have hne : front ++ rest ≠ [] := fun h => hrest (List.append_eq_nil_iff.1 h).2
    rw [List.cons_append] at h
    generalize hms : front ++ rest = ms at h hne
    cases h with
    | stalled => exact absurd rfl hne
    | moved _ _ hc =>
      subst hms
      rw [Match.add_length_cons]
      exact ih hc

/-- Each match is what the loop sees where those before it stop. -/
theorem found {front rest : List (Match α)} {m : Match α}
    (h : Course attempt count start (front ++ m :: rest)) :
    (attempt (count + front.length) (Match.stop start front)).found = some (some m) := by
  have hm := h.drop (List.cons_ne_nil m rest)
  cases hm with
  | stalled hf _ | moved hf _ _ => exact hf

/-- A match that others come after has moved. -/
theorem moves {front rest : List (Match α)} {m : Match α}
    (h : Course attempt count start (front ++ m :: rest)) (hrest : rest ≠ []) :
    m.cursor ≠ Match.stop start front := by
  have hm := h.drop (List.cons_ne_nil m rest)
  cases hm with
  | stalled => exact absurd rfl hrest
  | moved _ hne _ => exact hne

/-- If the last match has moved, or if there was none, the next try fails. -/
theorem next_fails (h : Course attempt count start ms)
    (hlast : ∀ front m, ms = front ++ [m] → m.cursor ≠ Match.stop start front) :
    (attempt (count + ms.length) (Match.stop start ms)).found = some none := by
  induction h with
  | failed hf => exact hf
  | @stalled count start m _ hm => exact absurd hm (hlast [] m rfl)
  | @moved count start m ms _ _ _ ih =>
    rw [Match.add_length_cons]
    exact ih fun front m' hms => hlast (m :: front) m' (by rw [hms, List.cons_append])

end Course

end Triparse
