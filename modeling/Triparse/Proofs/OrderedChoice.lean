import Triparse.Parser.Choice
import Triparse.Parser.Element
import Triparse.Parser.Sequence

/-!
# Ordered choice

A choice tries its alternatives at one cursor, in order, and is done with the first that matches
(`choice_takes_first`). So an alternative that is itself a choice may as well be replaced by its
alternatives: what the two choices answer differs at most in the text of what was expected.

`AllFail s index ps events` follows the alternatives that fail, with all that happens on the way; the run
of a choice goes on after it with what is left of the list (`AllFail.firstMatch_append`). What becomes of
the alternatives of an inner choice is compared answer by answer (`Parser.answer?_firstMatch_nested`),
since the two choices count them differently.
-/

set_option autoImplicit false

namespace Triparse

variable {α β : Type}

/-! ## The shapes that a choice accepts -/

theorem Modalities.ext_mem {s t : Modalities} (h : ∀ m, m ∈ s ↔ m ∈ t) : s = t := by
  obtain ⟨c, b, k⟩ := s
  obtain ⟨c', b', k'⟩ := t
  have hc : c = c' := Bool.eq_iff_iff.2 (h .characters)
  have hb : b = b' := Bool.eq_iff_iff.2 (h .bytes)
  have hk : k = k' := Bool.eq_iff_iff.2 (h .tokens)
  rw [hc, hb, hk]

namespace Parser

variable {ps : List (Parser α)} {m : Modality}

theorem mem_foldl_accepts (ps : List (Parser α)) (s : Modalities) :
    m ∈ ps.foldl (fun s p => s ∪ p.accepts) s ↔ m ∈ s ∨ ∃ p ∈ ps, m ∈ p.accepts := by
  induction ps generalizing s with
  | nil => simp
  | cons p ps ih => simp [ih, or_assoc]

/-- A choice accepts what one of its alternatives accepts; without alternatives it accepts every shape. -/
theorem mem_acceptsAny : m ∈ acceptsAny ps ↔ ps = [] ∨ ∃ p ∈ ps, m ∈ p.accepts := by
  cases ps with
  | nil => simp [acceptsAny]
  | cons p ps =>
    have h : m ∈ acceptsAny (p :: ps) ↔ _ := mem_foldl_accepts (p :: ps) .empty
    rw [h]
    simp

/-- A choice inside a choice accepts no more and no less than its alternatives in its place. -/
theorem acceptsAny_nested (front rest : List (Parser α)) {inner : List (Parser α)} (h : inner ≠ []) :
    acceptsAny (front ++ choice inner :: rest) = acceptsAny (front ++ inner ++ rest) := by
  refine Modalities.ext_mem fun m => ?_
  have hinner : m ∈ (choice inner).accepts ↔ ∃ p ∈ inner, m ∈ p.accepts :=
    mem_acceptsAny.trans (or_iff_right h)
  rw [mem_acceptsAny, mem_acceptsAny]
  simp only [List.append_eq_nil_iff, reduceCtorEq, h, and_false, false_and, false_or,
    List.mem_append, List.mem_cons, or_and_right, exists_or, exists_eq_left, hinner, or_assoc]

/-! ## One alternative after the other -/

variable {input : Input} {cursor : Nat}

/-- The first match of a list is its first parser's, or that of the others if it fails. -/
theorem answer?_firstMatch_cons (p : Parser α) (ps : List (Parser α)) (index : Nat) :
    (firstMatch input cursor (p :: ps) index).answer? =
      (p.execute input cursor).answer?.bind fun reply =>
        if reply.isFailure then (firstMatch input cursor ps (index + 1)).answer?
        else some (some reply) := by
  rw [firstMatch, Run.answer?_bind]
  congr 1
  funext reply
  obtain ⟨stop, e | a, flag⟩ := reply
  · exact Run.answer?_bind _ _
  · rfl

/-- What the first match is does not depend on the number of the first alternative. -/
theorem answer?_firstMatch_index (ps : List (Parser α)) (index index' : Nat) :
    (firstMatch input cursor ps index).answer? = (firstMatch input cursor ps index').answer? := by
  induction ps generalizing index index' with
  | nil => rfl
  | cons p ps ih => rw [answer?_firstMatch_cons, answer?_firstMatch_cons, ih (index + 1) (index' + 1)]

/-- The first match of two lists is that of the first one, or that of the second if there is none. -/
theorem answer?_firstMatch_append (ps qs : List (Parser α)) (index : Nat) :
    (firstMatch input cursor (ps ++ qs) index).answer? =
      (firstMatch input cursor ps index).answer?.bind fun
        | some reply => some (some reply)
        | none => (firstMatch input cursor qs index).answer? := by
  induction ps generalizing index with
  | nil => rfl
  | cons p ps ih =>
    rw [List.cons_append, answer?_firstMatch_cons, answer?_firstMatch_cons, Option.bind_assoc]
    congr 1
    funext reply
    split
    · rw [ih, answer?_firstMatch_index qs (index + 1) index]
    · rfl

/-- There is no match among parsers none of which accepts the input. -/
theorem answer?_firstMatch_of_not_mem {ps : List (Parser α)} (h : ∀ p ∈ ps, input.modality ∉ p.accepts)
    (index : Nat) : (firstMatch input cursor ps index).answer? = some none := by
  induction ps generalizing index with
  | nil => rfl
  | cons p ps ih =>
    obtain ⟨hp, hps⟩ := List.forall_mem_cons.1 h
    rw [answer?_firstMatch_cons, execute_of_not_mem hp]
    exact ih hps (index + 1)

/-- The first match is a match. -/
theorem isFailure_of_firstMatch {ps : List (Parser α)} {index : Nat} {r : Reply α}
    (h : (firstMatch input cursor ps index).answer? = some (some r)) : r.isFailure = false := by
  induction ps generalizing index with
  | nil => cases h
  | cons p ps ih =>
    rw [answer?_firstMatch_cons, Option.bind_eq_some_iff] at h
    obtain ⟨reply, -, h⟩ := h
    split at h
    · exact ih h
    · rename_i hreply
      cases h
      exact Bool.eq_false_iff.2 hreply

/-- A choice that accepts the input comes to its first match, or says that there is none. -/
theorem execute_choice {ps : List (Parser α)} (hm : input.modality ∈ acceptsAny ps) (cursor : Nat) :
    (choice ps).execute input cursor =
      firstMatch input cursor ps 0 >>= fun
        | some reply => pure reply
        | none => pure (.fail cursor (input.noMatch cursor "choice" (choice ps).expected)) := by
  have hm' : input.modality ∈ (choice ps).accepts := hm
  exact execute_of_mem hm' cursor

/-- An inner choice has the first match that its alternatives have in its place. -/
theorem answer?_firstMatch_nested (inner rest : List (Parser α)) (index : Nat) :
    (firstMatch input cursor (choice inner :: rest) index).answer? =
      (firstMatch input cursor (inner ++ rest) index).answer? := by
  rw [answer?_firstMatch_cons, answer?_firstMatch_append,
    answer?_firstMatch_index inner index 0, answer?_firstMatch_index rest (index + 1) index]
  by_cases hm : input.modality ∈ acceptsAny inner
  · rw [execute_choice hm, Run.answer?_bind, Option.bind_assoc]
    cases hf : (firstMatch input cursor inner 0).answer? with
    | none => rfl
    | some found =>
      cases found with
      | none => rfl
      | some reply => exact if_neg (Bool.eq_false_iff.1 (isFailure_of_firstMatch hf))
  · -- None of the inner alternatives accepts the input either, and each of them fails.
    have hm' : input.modality ∉ (choice inner).accepts := hm
    have hinner : ∀ p ∈ inner, input.modality ∉ p.accepts := fun p hp hmp =>
      hm (mem_acceptsAny.2 (.inr ⟨p, hp, hmp⟩))
    rw [execute_of_not_mem hm', answer?_firstMatch_of_not_mem hinner]
    rfl

end Parser

/-! ## Alternatives that fail -/

/-- All parsers of a list fail on a state. What happens on the way is for each of them what happens in it,
and then that it has failed, the first being counted as `index`. -/
inductive AllFail (s : State β) : Nat → List (Parser α) → List Event → Prop
  | nil {index : Nat} : AllFail s index [] []
  | cons {index : Nat} {p : Parser α} {ps : List (Parser α)} {t : State α} {e : Failure}
      {events after : List Event} : p.apply s = .finished t events → t.outcome = .error e →
      AllFail s (index + 1) ps after →
      AllFail s index (p :: ps) (events ++ .alternativeFailed index e :: after)

/-- The parser does not fail on the state: it matches, or it does not answer. -/
def Parser.Prevails (p : Parser α) (s : State β) : Prop :=
  ∀ t events, p.apply s = .finished t events → t.isFailure = false

section
variable {s : State β} {b : β} {p : Parser α} (hs : s.outcome = .ok b)
include hs

/-- Input that a parser does not accept makes it fail at once. -/
theorem Parser.apply_of_not_mem (hm : s.input.modality ∉ p.accepts) :
    p.apply s = .finished (s.badInput p.name p.accepts) [] := by
  rw [apply_of_ok p hs, execute_of_not_mem hm]
  rfl

theorem Parser.Prevails.mem_accepts (hp : p.Prevails s) : s.input.modality ∈ p.accepts :=
  Decidable.byContradiction fun hm => nomatch hp _ _ (apply_of_not_mem hs hm)

namespace AllFail

open Triparse.Parser (firstMatch)

variable {index : Nat} {ps : List (Parser α)} {before : List Event}

/-- After alternatives that have failed, a choice goes on with the others. -/
theorem firstMatch_append (h : AllFail s index ps before) (rest : List (Parser α)) :
    firstMatch s.input s.cursor (ps ++ rest) index =
      Run.finished () before >>= fun _ =>
        firstMatch s.input s.cursor rest (index + ps.length) := by
  induction h with
  | nil =>
    rw [Run.finished_nil_bind]
    rfl
  | @cons index p ps t e events after hp he _ ih =>
    rw [Parser.apply_of_ok p hs, Run.bind_eq_finished] at hp
    obtain ⟨⟨stop, outcome, flag⟩, events, _, hexecute, ⟨⟩, rfl⟩ := hp
    cases he
    have hcount : index + (p :: ps).length = index + 1 + ps.length := by
      rw [List.length_cons]
      omega
    rw [List.cons_append, firstMatch, hexecute, hcount, List.append_nil]
    -- The three parts of what happens are three runs, one after the other.
    show Run.finished () events >>= (fun _ => Run.emit (.alternativeFailed index e) >>= fun _ =>
        firstMatch s.input s.cursor (ps ++ rest) (index + 1)) =
      (Run.finished () events >>= fun _ => Run.emit (.alternativeFailed index e) >>= fun _ =>
        Run.finished () after) >>= _
    rw [ih, Run.bind_assoc]
    congr 1
    funext _
    exact (Run.bind_assoc _ _ _).symm

/-- There is no match if all alternatives fail. -/
theorem firstMatch_none (h : AllFail s index ps before) :
    firstMatch s.input s.cursor ps index = .finished none before := by
  have hnone := h.firstMatch_append hs []
  rw [List.append_nil] at hnone
  rw [hnone, firstMatch, Run.finished_bind]
  simp only [Run.pure_eq, List.append_nil]

/-- The first match is that of the parser after the alternatives that fail. -/
theorem firstMatch_prevails (h : AllFail s index ps before) (hp : p.Prevails s)
    (rest : List (Parser α)) :
    firstMatch s.input s.cursor (ps ++ p :: rest) index =
      Run.finished () before >>= fun _ => p.execute s.input s.cursor >>= fun reply =>
        pure (some reply) := by
  rw [h.firstMatch_append hs, firstMatch]
  congr 1
  funext _
  cases hx : p.execute s.input s.cursor with
  | unfinished => rfl
  | finished reply events =>
    obtain ⟨stop, e | a, flag⟩ := reply
    · have hfail : p.apply s = .finished ⟨⟨stop, .error e, flag⟩, s.input⟩ (events ++ []) := by
        rw [Parser.apply_of_ok p hs, hx]
        rfl
      cases hp _ _ hfail
    · rfl

end AllFail

end

/-! ## Choices on states -/

open Triparse.Parser (choice acceptsAny firstMatch mem_acceptsAny)

section
variable {s : State β} {b : β} {p : Parser α} (hs : s.outcome = .ok b)
include hs

theorem apply_choice {ps : List (Parser α)} (hm : s.input.modality ∈ acceptsAny ps) :
    (choice ps).apply s =
      firstMatch s.input s.cursor ps 0 >>= fun
        | some reply => pure ⟨reply, s.input⟩
        | none => pure (s.noMatch "choice" (choice ps).expected) := by
  rw [Parser.apply_of_ok _ hs, Parser.execute_choice hm, Run.bind_assoc]
  congr 1
  funext found
  cases found <;> rfl

/-- The first alternative that does not fail decides. -/
theorem apply_choice_of_prevails {front : List (Parser α)} {before : List Event}
    (h : AllFail s 0 front before) (hp : p.Prevails s) (rest : List (Parser α)) :
    (choice (front ++ p :: rest)).apply s = Run.finished () before >>= fun _ => p.apply s := by
  have hm : s.input.modality ∈ acceptsAny (front ++ p :: rest) :=
    mem_acceptsAny.2 (.inr ⟨p, by simp, hp.mem_accepts hs⟩)
  rw [apply_choice hs hm, h.firstMatch_prevails hs hp, Parser.apply_of_ok p hs]
  simp only [Run.bind_assoc, Run.pure_eq, Run.finished_nil_bind]

/-- If all alternatives fail, a choice says so, or that none of them accepts the input. -/
theorem apply_choice_of_allFail {ps : List (Parser α)} {before : List Event}
    (h : AllFail s 0 ps before) :
    (choice ps).apply s =
      if ps ≠ [] ∧ ∀ p ∈ ps, s.input.modality ∉ p.accepts then
        .finished (s.badInput "choice" (choice ps).accepts) []
      else .finished (s.noMatch "choice" (choice ps).expected) before := by
  have hiff : (ps ≠ [] ∧ ∀ p ∈ ps, s.input.modality ∉ p.accepts) ↔
      s.input.modality ∉ acceptsAny ps := by
    rw [mem_acceptsAny, not_or]
    simp only [not_exists, not_and]
  split
  · rename_i hm
    exact Parser.apply_of_not_mem hs (p := choice ps) (hiff.1 hm)
  · rename_i hm
    have hm' : s.input.modality ∈ acceptsAny ps := Decidable.not_not.1 fun hn => hm (hiff.2 hn)
    rw [apply_choice hs hm', h.firstMatch_none hs, Run.finished_bind]
    simp only [Run.pure_eq, List.append_nil]

/-- What two choices come to on a state: the same match, or failures that are the same but for what the
second one says was expected. -/
inductive SameButExpected (s : State β) (expected : String) : State α → State α → Prop
  | matched {t : State α} : t.isFailure = false → SameButExpected s expected t t
  | noMatch (other : String) :
      SameButExpected s expected (s.noMatch "choice" other) (s.noMatch "choice" expected)
  | badInput (accepts : Modalities) :
      SameButExpected s expected (s.badInput "choice" accepts) (s.badInput "choice" accepts)

theorem nested_sameButExpected (front rest : List (Parser α)) {inner : List (Parser α)}
    (h : inner ≠ []) :
    Option.Rel (SameButExpected s (choice (front ++ inner ++ rest)).expected)
      ((choice (front ++ choice inner :: rest)).apply s).answer?
      ((choice (front ++ inner ++ rest)).apply s).answer? := by
  have haccepts : (choice (front ++ choice inner :: rest)).accepts =
      (choice (front ++ inner ++ rest)).accepts := Parser.acceptsAny_nested front rest h
  by_cases hm : s.input.modality ∈ (choice (front ++ inner ++ rest)).accepts
  · have hm' : s.input.modality ∈ (choice (front ++ choice inner :: rest)).accepts := haccepts ▸ hm
    rw [apply_choice hs hm, apply_choice hs hm', Run.answer?_bind, Run.answer?_bind,
      List.append_assoc, Parser.answer?_firstMatch_append, Parser.answer?_firstMatch_nested,
      ← Parser.answer?_firstMatch_append]
    cases hf : (firstMatch s.input s.cursor (front ++ (inner ++ rest)) 0).answer? with
    | none => exact .none
    | some found =>
      cases found with
      | none => exact .some (.noMatch _)
      | some reply => exact .some (.matched (Parser.isFailure_of_firstMatch hf))
  · rw [Parser.apply_of_not_mem hs hm, Parser.apply_of_not_mem hs (haccepts ▸ hm), haccepts]
    exact .some (.badInput _)

end

/-- **A choice takes its first alternative that matches**, on a live state. After alternatives that fail
comes one that does not: if it does not answer, nor does the choice; if it matches, the choice comes to
just that state, and nothing happens besides what has happened until then, so later alternatives are not
run. If all fail, the choice fails where it stands: it finds no match, or, if it has alternatives and none
of them accepts the input, it does not accept it either.

So an inner choice may be replaced by its alternatives, if it has any. Both choices accept the same
shapes; they answer in the same cases, and match in the same states; where they fail, they fail with the
same failure but for the text of what was expected. -/
theorem choice_takes_first {s : State β} {b : β} (hs : s.outcome = .ok b) :
    (∀ (front : List (Parser α)) (p : Parser α) (rest : List (Parser α)) (before : List Event),
      AllFail s 0 front before →
        (p.apply s = .unfinished → (choice (front ++ p :: rest)).apply s = .unfinished) ∧
        ∀ t events, p.apply s = .finished t events → t.isFailure = false →
          (choice (front ++ p :: rest)).apply s = .finished t (before ++ events)) ∧
    (∀ (ps : List (Parser α)) (before : List Event), AllFail s 0 ps before →
      (choice ps).apply s =
        if ps ≠ [] ∧ ∀ p ∈ ps, s.input.modality ∉ p.accepts then
          .finished (s.badInput "choice" (choice ps).accepts) []
        else .finished (s.noMatch "choice" (choice ps).expected) before) ∧
    ∀ front inner rest : List (Parser α), inner ≠ [] →
      let nested := choice (front ++ choice inner :: rest)
      let flat := choice (front ++ inner ++ rest)
      nested.accepts = flat.accepts ∧
      ((nested.apply s).answer? = none ↔ (flat.apply s).answer? = none) ∧
      (∀ t, t.isFailure = false →
        ((nested.apply s).answer? = some t ↔ (flat.apply s).answer? = some t)) ∧
      ∀ t e, (nested.apply s).answer? = some t → t.outcome = .error e →
        t = s.fail e ∧ ∃ e', (flat.apply s).answer? = some (s.fail e') ∧
          e'.kind = e.kind ∧ e'.position = e.position ∧ e'.parser = e.parser ∧
          e' = e.relabel flat.expected := by
  refine ⟨fun front p rest before h => ⟨fun hp => ?_, fun t events hp ht => ?_⟩,
    fun ps before h => apply_choice_of_allFail hs h, fun front inner rest hinner => ?_⟩
  · have hprevails : p.Prevails s := fun _ _ hx => by rw [hp] at hx; cases hx
    rw [apply_choice_of_prevails hs h hprevails, hp]
    rfl
  · have hprevails : p.Prevails s := fun _ _ hx => by rw [hp] at hx; cases hx; exact ht
    rw [apply_choice_of_prevails hs h hprevails, hp]
    rfl
  · intro nested flat
    refine ⟨Parser.acceptsAny_nested front rest hinner, ?_⟩
    generalize (nested.apply s).answer? = x, (flat.apply s).answer? = y,
      nested_sameButExpected hs front rest hinner = hxy
    cases hxy with
    | none => exact ⟨Iff.rfl, fun _ _ => Iff.rfl, fun _ _ h => nomatch h⟩
    | some h =>
      cases h with
      | matched ht =>
        refine ⟨by simp, fun _ _ => Iff.rfl, ?_⟩
        rintro ⟨⟨stop, outcome, flag⟩, input⟩ e ⟨⟩ he
        cases he
        cases ht
      | noMatch other =>
        refine ⟨by simp, ?_, ?_⟩
        · -- Neither of the two is a match.
          intro t ht
          constructor
          · rintro ⟨⟩
            cases ht
          · rintro ⟨⟩
            cases ht
        · rintro _ _ ⟨⟩ ⟨⟩
          exact ⟨rfl, _, rfl, rfl, rfl, rfl, rfl⟩
      | badInput accepts =>
        refine ⟨by simp, fun _ _ => Iff.rfl, ?_⟩
        rintro _ _ ⟨⟩ ⟨⟩
        exact ⟨rfl, _, rfl, rfl, rfl, rfl, rfl⟩

/-- An alternative that breaks off in its middle, one that matches and is left out of collections, and one
that would be seen if it were run. Where the first is all there is besides an inner choice of bytes, no
part of which accepts the text, the choice finds no match, and so does that of all three alternatives. -/
theorem choice_takes_first_of_letters :
    let s := State.start ⟨.characters ['a', 'c'], {}⟩
    let broken := (Parser.character 'a').skip (Parser.character 'b')
    let seen := Parser.ofFunction fun input cursor => do
      Run.emit (.tapped "late" cursor)
      (Parser.any Char).execute input cursor
    let bytes := [(Parser.any UInt8).map fun _ => 'x', (Parser.any UInt8).map fun _ => 'y']
    let flat := choice ([broken] ++ bytes ++ [])
    (choice ([broken] ++ (Parser.character 'a').ignore :: [seen])).apply s =
        .finished ⟨⟨1, .ok 'a', true⟩, s.input⟩
          [.alternativeFailed 0 (.noMatch "character" 1 "character 'b'" "\"c\"")] ∧
      (choice bytes).apply s = .finished (s.badInput "choice" (.only .bytes)) [] ∧
      (flat.apply s).answer? = some (s.noMatch "choice" flat.expected) := by
  intro s broken seen bytes flat
  obtain ⟨hfirst, hnone, hflat⟩ := choice_takes_first (α := Char) (s := s) rfl
  refine ⟨?_, ?_, ?_⟩
  · have happly : broken.apply s = .finished _ [] := rfl
    have hbroken : AllFail s 0 [broken]
        [.alternativeFailed 0 (.noMatch "character" 1 "character 'b'" "\"c\"")] :=
      .cons happly rfl .nil
    exact (hfirst [broken] _ [seen] _ hbroken).2 _ [] rfl rfl
  · have hbytes : AllFail s 0 bytes _ := .cons rfl rfl (.cons rfl rfl .nil)
    rw [hnone bytes _ hbytes, if_pos ⟨List.cons_ne_nil _ _, by decide⟩]
    rfl
  · obtain ⟨-, -, -, hfail⟩ := hflat [broken] bytes [] (List.cons_ne_nil _ _)
    obtain ⟨-, e, hanswer, -, -, -, rfl⟩ := hfail _ _ rfl rfl
    exact hanswer

/-- That no alternative accepts the input does not make a choice turn it away: a choice of nothing accepts
every shape, and finds no match. -/
theorem choice_of_nothing :
    let s := State.start ⟨.characters ['a'], {}⟩
    let nothing : List (Parser Char) := []
    (∀ p ∈ nothing, s.input.modality ∉ p.accepts) ∧
      ∃ e, ((choice nothing).apply s).answer? = some (s.fail e) ∧ e.kind = .noMatch :=
  ⟨nofun, _, rfl, rfl⟩

end Triparse
