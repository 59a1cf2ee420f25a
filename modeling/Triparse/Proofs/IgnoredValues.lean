import Triparse.Parser.Element
import Triparse.Proofs.Chains

/-!
# Ignored values

To ignore a parser changes what collections take from its matches, and nothing else
(`ignore_removes_values`). A sequence some parts of which are ignored keeps the values of the others; a
repetition, a list or a fixed number of matches keeps none. All of them go on, count their parts and fail
as before: the mark on a match is read only where its value is kept, and is not passed on to the next one.
-/

set_option autoImplicit false

namespace Triparse

variable {α β γ : Type}

/-! ## Replies and matches -/

/-- The reply as an ignored parser makes it: a match is marked to be left out, a failure is not. -/
def Reply.ignored (r : Reply α) : Reply α :=
  match r.outcome with
  | .error e => .fail r.cursor e
  | .ok _ => r.suppress

/-- The match marked to be left out. -/
def Match.ignored (m : Match α) : Match α := { m with suppressed := true }

namespace Parser

theorem answer?_ignore (p : Parser α) (input : Input) (cursor : Nat) :
    (p.ignore.execute input cursor).answer? =
      (p.execute input cursor).answer?.map Reply.ignored :=
  answer?_mapReply p _ input cursor

/-- An ignored parser has the matches that it has without, all of them marked. -/
theorem found_ignore (p : Parser α) (input : Input) (cursor : Nat) :
    (p.ignore.execute input cursor).found =
      (p.execute input cursor).found.map (Option.map Match.ignored) := by
  rw [Run.found, answer?_ignore, Run.found, Option.map_map, Option.map_map]
  congr 1
  funext reply
  obtain ⟨stop, e | a, flag⟩ := reply <;> rfl

/-! ## Loops -/

/-- What a loop comes to, without the values. -/
def Tally.emptied (t : Tally α) : Tally α := { t with values := [] }

theorem Tally.reply_emptied (name : String) (range : Repetition) (start : Nat) (t : Tally α) :
    t.emptied.reply name range start = (t.reply name range start).map fun _ => [] := by
  rw [Tally.reply, Tally.reply, apply_ite (Reply.map fun _ => [])]
  rfl

/-- A loop whose matches are all marked goes the same way, and keeps nothing. -/
theorem answer?_repeatFrom_ignored {attempt attempt' : Nat → Nat → Run (Reply α)}
    (h : ∀ count cursor,
      (attempt' count cursor).found = (attempt count cursor).found.map (Option.map Match.ignored))
    (stopped : Nat → Failure → Event) (range : Repetition) (bound count cursor : Nat) :
    (repeatFrom attempt' stopped range bound count cursor).answer? =
      (repeatFrom attempt stopped range bound count cursor).answer?.map Tally.emptied := by
  induction bound generalizing count cursor with
  | zero => rfl
  | succ bound ih =>
    have hf' := h count cursor
    cases hf : (attempt count cursor).found with
    | none =>
      rw [answer?_repeatFrom, answer?_repeatFrom, hf', hf]
      rfl
    | some found =>
      rw [hf] at hf'
      cases found with
      | none =>
        rw [answer?_repeatFrom_failed hf, answer?_repeatFrom_failed hf']
        rfl
      | some m =>
        by_cases hend : m.cursor = cursor ∨ range.exceededBy (count + 1)
        · rw [answer?_repeatFrom_last hf hend, answer?_repeatFrom_last hf' hend]
          rfl
        · obtain ⟨hmove, hr⟩ := not_or.1 hend
          have hr' := Bool.eq_false_iff.2 hr
          rw [answer?_repeatFrom_next hf hmove hr', answer?_repeatFrom_next hf' hmove hr']
          show Option.map _ (repeatFrom attempt' stopped range bound (count + 1) m.cursor).answer? = _
          rw [ih, Option.map_map, Option.map_map]
          rfl

/-- The tries of a list whose values are ignored are those of the list, all matches marked. -/
theorem found_nextValue_ignore (separator : Parser β) (value : Parser α) (input : Input)
    (count cursor : Nat) :
    (nextValue separator value.ignore input count cursor).found =
      (nextValue separator value input count cursor).found.map (Option.map Match.ignored) := by
  cases count with
  | zero => exact found_ignore value input cursor
  | succ count =>
    rw [found_nextValue, found_nextValue, Option.map_bind]
    congr 1
    funext found
    cases found with
    | none => rfl
    | some gap => exact found_ignore value input gap.cursor

/-- Two collections under the same descriptors that differ, where they accept the input, in no more than the
values, do so everywhere. -/
theorem answer?_emptied {q q' : Parser (List α)} {input : Input} {start : Nat} (hname : q'.name = q.name)
    (haccepts : q'.accepts = q.accepts)
    (h : input.modality ∈ q.accepts → (q'.execute input start).answer? =
      (q.execute input start).answer?.map (Reply.map fun _ => [])) :
    (q'.execute input start).answer? =
      (q.execute input start).answer?.map (Reply.map fun _ => []) := by
  by_cases hm : input.modality ∈ q.accepts
  · exact h hm
  · rw [execute_of_not_mem hm, execute_of_not_mem (haccepts ▸ hm), hname, haccepts]
    rfl

/-- A repetition of an ignored parser answers as it does without, but for the values. -/
theorem answer?_many_ignore (bound : Nat) (range : Repetition) (p : Parser α) (input : Input)
    (start : Nat) :
    ((many bound range p.ignore).execute input start).answer? =
      ((many bound range p).execute input start).answer?.map (Reply.map fun _ => []) := by
  refine answer?_emptied rfl rfl fun (hm : input.modality ∈ p.accepts) => ?_
  have hm' : input.modality ∈ p.ignore.accepts := hm
  rw [answer?_many hm, answer?_many hm', answer?_repeatFrom_ignored (fun _ => found_ignore p input),
    Option.map_map, Option.map_map]
  congr 1
  funext t
  exact t.reply_emptied _ _ _

theorem answer?_separatedBy_ignore (bound : Nat) (range : Repetition) (separator : Parser β)
    (p : Parser α) (input : Input) (start : Nat) :
    ((separatedBy bound range separator p.ignore).execute input start).answer? =
      ((separatedBy bound range separator p).execute input start).answer?.map
        (Reply.map fun _ => []) := by
  refine answer?_emptied rfl rfl fun (hm : input.modality ∈ p.accepts) => ?_
  have hm' : input.modality ∈ p.ignore.accepts := hm
  rw [answer?_separatedBy hm, answer?_separatedBy hm',
    answer?_repeatFrom_ignored (found_nextValue_ignore separator p input), Option.map_map,
    Option.map_map]
  congr 1
  funext t
  exact t.reply_emptied _ _ _

end Parser

/-! ## Chains -/

/-- What a collection takes from matches, those at the positions `I` left out. -/
def Match.valuesOutside (I : Nat → Bool) (ms : List (Match α)) : List α :=
  (ms.mapIdx fun i m => if I i then [] else m.kept).flatten

theorem Match.valuesOutside_all (ms : List (Match α)) : valuesOutside (fun _ => true) ms = [] := by
  rw [valuesOutside, List.flatten_eq_nil_iff]
  simp

namespace Parser

/-- The parsers of a list, those at the positions `I` ignored. -/
def ignoreAt (I : Nat → Bool) (ps : List (Parser α)) : List (Parser α) :=
  ps.mapIdx fun i p => if I i then p.ignore else p

theorem ignoreAt_cons (I : Nat → Bool) (p : Parser α) (ps : List (Parser α)) :
    ignoreAt I (p :: ps) =
      (if I 0 then p.ignore else p) :: ignoreAt (fun i => I (i + 1)) ps := List.mapIdx_cons

theorem ignoreAt_replicate (count : Nat) (p : Parser α) :
    ignoreAt (fun _ => true) (List.replicate count p) = List.replicate count p.ignore := by
  induction count with
  | zero => rfl
  | succ count ih => rw [List.replicate_succ, ignoreAt_cons, ih, if_pos rfl, List.replicate_succ]

/-- What the chain of some parsers has come to, and the chain in which those at the positions `I` are
ignored: to the same failure, or to the end, without what those parsers have matched. -/
inductive Thinned (input : Input) (ps : List (Parser α)) (start : Nat) (I : Nat → Bool) :
    Chain α → Chain α → Prop
  | failed (element : Nat) (e : Failure) :
      Thinned input ps start I (.error (element, e)) (.error (element, e))
  | ended {ms : List (Match α)} : Chained input ps start ms →
      Thinned input ps start I (.ok (Match.stop start ms, Match.values ms))
        (.ok (Match.stop start ms, Match.valuesOutside I ms))

/-- A parser that is ignored, or not, stops where it does and comes to what it does; only what is kept of
its match may differ. -/
theorem answer?_ignoreIf {p : Parser α} {input : Input} {start : Nat} {r : Reply α}
    (h : (p.execute input start).answer? = some r) (ignored : Bool) :
    ∃ r', ((if ignored then p.ignore else p).execute input start).answer? = some r' ∧
      r'.cursor = r.cursor ∧ r'.outcome = r.outcome ∧
      ∀ a, r.outcome = .ok a → r'.kept a = if ignored then [] else r.kept a := by
  cases ignored with
  | false => exact ⟨r, h, rfl, rfl, fun _ _ => rfl⟩
  | true =>
    have hr : (p.ignore.execute input start).answer? = some r.ignored := by
      rw [answer?_ignore, h]
      rfl
    obtain ⟨stop, e | a, flag⟩ := r
    · exact ⟨_, hr, rfl, rfl, nofun⟩
    · exact ⟨_, hr, rfl, rfl, fun _ _ => rfl⟩

theorem answer?_ignoreIf_none {p : Parser α} {input : Input} {start : Nat}
    (h : (p.execute input start).answer? = none) (ignored : Bool) :
    ((if ignored then p.ignore else p).execute input start).answer? = none := by
  cases ignored with
  | false => exact h
  | true => exact (answer?_ignore p input start).trans (congrArg _ h)

/-- The chain in which some parsers are ignored goes as it does without, part by part. -/
theorem thinned (input : Input) (ps : List (Parser α)) (I : Nat → Bool) (first start : Nat) :
    Option.Rel (Thinned input ps start I) (runEach input ps first start).answer?
      (runEach input (ignoreAt I ps) first start).answer? := by
  induction ps generalizing I first start with
  | nil => exact .some (.ended .nil)
  | cons p ps ih =>
    rw [ignoreAt_cons]
    cases hr : (p.execute input start).answer? with
    | none =>
      rw [runEach, runEach, Run.answer?_bind, Run.answer?_bind, hr, answer?_ignoreIf_none hr]
      exact .none
    | some r =>
      obtain ⟨⟨stop, outcome, flag'⟩, hr', rfl, rfl, hkept⟩ := answer?_ignoreIf hr (I 0)
      obtain ⟨stop, e | a, flag⟩ := r
      · rw [answer?_runEach_failed hr, answer?_runEach_failed hr']
        exact .some (.failed first e)
      · have hf : (p.execute input start).found = some (some ⟨stop, a, flag⟩) :=
          Run.found_eq_match.2 hr
        rw [answer?_runEach_ok hr rfl, answer?_runEach_ok hr' rfl, hkept a rfl]
        dsimp only
        generalize (runEach input ps (first + 1) stop).answer? = x,
          (runEach input (ignoreAt (fun i => I (i + 1)) ps) (first + 1) stop).answer? = y,
          ih (fun i => I (i + 1)) (first + 1) stop = h
        cases h with
        | none => exact .none
        | some h =>
          cases h with
          | failed element e => exact .some (.failed element e)
          | @ended ms hms =>
            have h := Thinned.ended (I := I) (.cons hf hms)
            rw [Match.valuesOutside, List.mapIdx_cons, List.flatten_cons] at h
            exact .some h

end Parser

/-! ## Collections -/

open Triparse.Parser (sequence many separatedBy times ignoreAt thinned answer?_times
  answer?_many_ignore answer?_separatedBy_ignore answer?_apply_of_ok)

/-- A fixed number of matches of an ignored parser answers as it does without, but for the values. -/
theorem Parser.answer?_times_ignore (p : Parser α) (count : Nat) (input : Input) (start : Nat) :
    ((times p.ignore count).execute input start).answer? =
      ((times p count).execute input start).answer?.map (Reply.map fun _ => []) := by
  refine Parser.answer?_emptied rfl rfl fun (hm : input.modality ∈ p.accepts) => ?_
  have hm' : input.modality ∈ p.ignore.accepts := hm
  rw [answer?_times hm, answer?_times hm', ← ignoreAt_replicate]
  generalize (runEach input (List.replicate count p) 0 start).answer? = x,
    (runEach input (ignoreAt (fun _ => true) (List.replicate count p)) 0 start).answer? = y,
    thinned input (List.replicate count p) (fun _ => true) 0 start = h
  cases h with
  | none => rfl
  | some h =>
    cases h with
    | failed element e => rfl
    | @ended ms hms =>
      rw [Match.valuesOutside_all]
      rfl

/-- **To ignore parsers changes no more than the values of collections.** On a live state, a sequence
whose parts at the positions `I` are ignored answers in the same cases, and fails in the same states, as
the sequence without; and if that matches, it does so too, at the same cursor, with the values of the
matches at the other positions. A repetition, a list or a fixed number of matches of an ignored parser
answers what it does without, but that the values of a match are none. -/
theorem ignore_removes_values {s : State β} {b : β} (hs : s.outcome = .ok b) :
    (∀ (ps : List (Parser α)) (I : Nat → Bool),
      let plain := ((sequence ps).apply s).answer?
      let thinned := ((sequence (ignoreAt I ps)).apply s).answer?
      (plain = none ↔ thinned = none) ∧
      (∀ t, t.isFailure = true → (plain = some t ↔ thinned = some t)) ∧
      ∀ t, t.isFailure = false → plain = some t →
        ∃ ms, Chained s.input ps s.cursor ms ∧
          t = s.succeed (Match.stop s.cursor ms) (Match.values ms) ∧
          thinned = some (s.succeed (Match.stop s.cursor ms) (Match.valuesOutside I ms))) ∧
    ∀ p : Parser α,
      (∀ bound range, ((many bound range p.ignore).apply s).answer? =
        ((many bound range p).apply s).answer?.map (State.map fun _ => [])) ∧
      (∀ bound range (separator : Parser γ),
        ((separatedBy bound range separator p.ignore).apply s).answer? =
          ((separatedBy bound range separator p).apply s).answer?.map (State.map fun _ => [])) ∧
      ∀ count, ((times p.ignore count).apply s).answer? =
        ((times p count).apply s).answer?.map (State.map fun _ => []) := by
  refine ⟨fun ps I => ?_, fun p => ⟨fun bound range => ?_, fun bound range separator => ?_,
    fun count => ?_⟩⟩
  · dsimp only
    rw [Parser.answer?_apply_sequence _ hs, Parser.answer?_apply_sequence _ hs]
    generalize (Parser.runEach s.input ps 0 s.cursor).answer? = x,
      (Parser.runEach s.input (ignoreAt I ps) 0 s.cursor).answer? = y,
      thinned s.input ps I 0 s.cursor = h
    cases h with
    | none => exact ⟨Iff.rfl, fun _ _ => Iff.rfl, fun _ _ h => nomatch h⟩
    | some h =>
      cases h with
      | failed element e =>
        refine ⟨by simp, fun _ _ => Iff.rfl, ?_⟩
        rintro _ ht ⟨⟩
        cases ht
      | @ended ms hms =>
        refine ⟨by simp, ?_, ?_⟩
        · -- Neither of the two is a failure.
          intro t ht
          constructor
          · rintro ⟨⟩
            cases ht
          · rintro ⟨⟩
            cases ht
        · rintro _ _ ⟨⟩
          exact ⟨ms, hms, rfl, rfl⟩
  · rw [answer?_apply_of_ok _ hs, answer?_apply_of_ok _ hs, answer?_many_ignore, Option.map_map,
      Option.map_map]
    rfl
  · rw [answer?_apply_of_ok _ hs, answer?_apply_of_ok _ hs, answer?_separatedBy_ignore,
      Option.map_map, Option.map_map]
    rfl
  · rw [answer?_apply_of_ok _ hs, answer?_apply_of_ok _ hs, Parser.answer?_times_ignore,
      Option.map_map, Option.map_map]
    rfl

/-- Of three letters the second is left out by itself and the third is ignored besides: the first one is
kept. Where the third is another, the failure names it as before. As many letters as there are, all of
them ignored, are still counted, and still too many for a range that ends at two. -/
theorem ignore_removes_values_of_letters :
    let letters := [Parser.character 'a', (Parser.character 'b').ignore, Parser.character 'c']
    let third := fun i => i == 2
    let s := State.start ⟨.characters ['a', 'b', 'c'], {}⟩
    let other := State.start ⟨.characters ['a', 'b', 'x'], {}⟩
    ((sequence (ignoreAt third letters)).apply s).answer? = some (s.succeed 3 ['a']) ∧
      ((sequence (ignoreAt third letters)).apply other).answer? =
        some (other.fail (.within "sequence" 2 (.noMatch "character" 2 "character 'c'" "\"x\""))) ∧
      ((many 9 (.atMost 2) (Parser.any Char).ignore).apply s).answer? =
        some (s.fail (.countOutOfRange "many" 0 ⟨0, some 2⟩ 3 none)) := by
  intro letters third s other
  have h := ignore_removes_values (α := Char) (γ := Char) (s := s) rfl
  have h' := ignore_removes_values (α := Char) (γ := Char) (s := other) rfl
  refine ⟨?_, ?_, ?_⟩
  · obtain ⟨ms, hms, ht, hthinned⟩ := (h.1 letters third).2.2 (s.succeed 3 ['a', 'c']) rfl rfl
    have hletters : ms = [⟨1, 'a', false⟩, ⟨2, 'b', true⟩, ⟨3, 'c', false⟩] :=
      hms.unique (.cons rfl (.cons rfl (.cons rfl .nil)))
    subst hletters
    exact hthinned
  · exact ((h'.1 letters third).2.1 _ rfl).1 rfl
  · exact (h.2 (Parser.any Char)).1 9 (.atMost 2)

end Triparse
