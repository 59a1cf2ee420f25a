import Triparse.Parser.Optional
import Triparse.Proofs.Matches

/-!
# Repetition of an optional part

A repetition of an optional part, whose absent values are left out, is the repetition of the part itself, its
values marked as present (`many_of_optional`). The two loops do not end in the same way: where the part
fails, the optional one matches without moving, so that the loop counts this match, keeps nothing of it and
stops; the other loop stops at the failure.
-/

set_option autoImplicit false

namespace Triparse

variable {α β : Type}

/-- What an optional part makes of what its part comes to: an absent value, which collections leave out,
where that fails, and else its match with the value marked as present. -/
def Match.optional (cursor : Nat) : Option (Match α) → Match (Option α)
  | none => ⟨cursor, none, true⟩
  | some m => ⟨m.cursor, some m.value, m.suppressed⟩

theorem Match.kept_optional_some (cursor : Nat) (m : Match α) :
    (optional cursor (some m)).kept = m.kept.map some := by
  obtain ⟨stop, a, _ | _⟩ := m <;> rfl

namespace Parser

theorem answer?_maybe {p : Parser α} {input : Input} (hm : input.modality ∈ p.accepts) (cursor : Nat) :
    ((maybe p).execute input cursor).answer? =
      (p.execute input cursor).found.map fun
        | none => .succeed cursor none
        | some m => m.reply.map some := by
  have hm' : input.modality ∈ (maybe p).accepts := hm
  rw [execute_of_mem hm', maybe, Run.answer?_bind, Run.found, Option.map_map, Option.map_eq_bind]
  congr 1
  funext reply
  obtain ⟨stop, e | a, flag⟩ := reply <;> rfl

/-- An optional part whose absent values are left out always matches, if its part accepts the input. -/
theorem found_ignoreIfAbsent_maybe {p : Parser α} {input : Input} (hm : input.modality ∈ p.accepts)
    (cursor : Nat) :
    ((maybe p).ignoreIfAbsent.execute input cursor).found =
      (p.execute input cursor).found.map fun found => some (Match.optional cursor found) := by
  rw [Run.found, ignoreIfAbsent, answer?_mapReply, answer?_maybe hm, Option.map_map, Option.map_map]
  congr 1
  funext found
  cases found <;> rfl

/-- The place where a loop has stopped, and what it has kept. -/
def Tally.ending (t : Tally α) : Nat × List α := (t.cursor, t.values)

/-- Without a range, the ending of a loop is all that shows of it. -/
theorem Tally.reply_any (name : String) (start : Nat) :
    Tally.reply name .any start =
      (fun ending : Nat × List α => .succeed ending.1 ending.2) ∘ Tally.ending := rfl

/-- The loop over the optional part stops where the one over the part does, and keeps the same values; it
may have counted one match more. -/
theorem answer?_repeatFrom_optional {attempt : Nat → Nat → Run (Reply α)}
    {attempt' : Nat → Nat → Run (Reply (Option α))}
    (h : ∀ count cursor, (attempt' count cursor).found =
      (attempt count cursor).found.map fun found => some (Match.optional cursor found))
    (stopped : Nat → Failure → Event) (bound count cursor : Nat) :
    (repeatFrom attempt' stopped .any bound count cursor).answer?.map Tally.ending =
      (repeatFrom attempt stopped .any bound count cursor).answer?.map fun t =>
        (t.cursor, t.values.map some) := by
  induction bound generalizing count cursor with
  | zero => rfl
  | succ bound ih =>
    have hf' := h count cursor
    cases hf : (attempt count cursor).found with
    | none =>
      rw [answer?_repeatFrom, answer?_repeatFrom, hf', hf]
      rfl
    | some found =>
      rw [hf, Option.map_some] at hf'
      cases found with
      | none =>
        rw [answer?_repeatFrom_failed hf, answer?_repeatFrom_last hf' (.inl rfl)]
        rfl
      | some m =>
        by_cases hmove : m.cursor = cursor
        · rw [answer?_repeatFrom_last hf (.inl hmove), answer?_repeatFrom_last hf' (.inl hmove)]
          simp only [Option.map_some, Tally.ending, Match.kept_optional_some]
          rfl
        · have hr := Repetition.exceededBy_any (count + 1)
          have hnext := congrArg (Option.map fun ending : Nat × List (Option α) =>
            (ending.1, m.kept.map some ++ ending.2)) (ih (count + 1) m.cursor)
          rw [Option.map_map, Option.map_map] at hnext
          rw [answer?_repeatFrom_next hf hmove hr, answer?_repeatFrom_next hf' hmove hr, Option.map_map,
            Option.map_map]
          simp only [Function.comp_def, Tally.ending, Tally.after, Match.kept_optional_some,
            List.map_append] at hnext ⊢
          exact hnext

/-- On every input, and from every cursor, the two repetitions come to the same reply but for the mark. -/
theorem answer?_many_optional (p : Parser α) (bound : Nat) (input : Input) (start : Nat) :
    ((many bound .any (maybe p).ignoreIfAbsent).execute input start).answer? =
      ((many bound .any p).execute input start).answer?.map (Reply.map (List.map some)) := by
  by_cases hm : input.modality ∈ p.accepts
  · have hm' : input.modality ∈ (maybe p).ignoreIfAbsent.accepts := hm
    have hloop := answer?_repeatFrom_optional (fun _ => found_ignoreIfAbsent_maybe hm)
      .repetitionStopped bound 0 start
    rw [answer?_many hm, answer?_many hm', Tally.reply_any, Tally.reply_any, ← Option.map_map, hloop,
      Option.map_map, Option.map_map]
    rfl
  · have hmany : input.modality ∉ (many bound .any p).accepts := hm
    have hmany' : input.modality ∉ (many bound .any (maybe p).ignoreIfAbsent).accepts := hm
    rw [execute_of_not_mem hmany, execute_of_not_mem hmany']
    rfl

end Parser

open Triparse.Parser (many maybe answer?_many_optional answer?_apply_of_ok)

/-- **Leaving out absent values makes the repetition of an optional part the repetition of the part.** From
every state, a failed one or one of a shape that the part does not accept included, and whatever the part
does, the two answer in the same cases, and come to the same state, in which the values of the former are
those of the latter marked as present. -/
theorem many_of_optional (p : Parser α) (bound : Nat) (s : State β) :
    ((many bound .any (maybe p).ignoreIfAbsent).apply s).answer? =
      ((many bound .any p).apply s).answer?.map (State.map (List.map some)) := by
  cases hs : s.outcome with
  | error e =>
    rw [Parser.apply, Parser.apply, hs]
    rfl
  | ok b =>
    rw [answer?_apply_of_ok _ hs, answer?_apply_of_ok _ hs, answer?_many_optional,
      Option.map_map, Option.map_map]
    rfl

end Triparse
