import Triparse.Parser.Element
import Triparse.Parser.Sequence

/-!
# Sequences

A sequence is its chain (`Chain.reply`): the values of its parts and the place where they end, or the
failure of the first part that fails. The chain of one list of parsers followed by another is the chain of
the first and then, from where that ends, the chain of the second, its parts counted on
(`runEach_append`). So sequences respect concatenation (`sequence_append`), wherever a list is cut, and
whether values are left out or not.
-/

set_option autoImplicit false

namespace Triparse

variable {α β : Type}

namespace Parser

variable {input : Input} {start : Nat} {p : Parser α} {ps : List (Parser α)}

/-! ## One part after the other -/

/-- The reply of a sequence, by what its chain has come to. -/
def Chain.reply (start : Nat) : Chain α → Reply (List α)
  | .error (element, e) => .fail start (.within "sequence" element e)
  | .ok (stop, values) => .succeed stop values

/-- A chain with values in front of its own. -/
def Chain.after (front : List α) (chain : Chain α) : Chain α :=
  chain.map fun (stop, values) => (stop, front ++ values)

/-- A chain whose parts are counted from a later number on. -/
def Chain.countedOn (count : Nat) (chain : Chain α) : Chain α :=
  chain.mapError fun (element, e) => (element + count, e)

theorem Chain.after_nil (chain : Chain α) : chain.after [] = chain := by
  obtain ⟨element, e⟩ | ⟨stop, values⟩ := chain <;> rfl

theorem Chain.after_append (front values : List α) (chain : Chain α) :
    chain.after (front ++ values) = (chain.after values).after front := by
  obtain ⟨element, e⟩ | ⟨stop, more⟩ := chain
  · rfl
  · exact congrArg (fun values => Except.ok (stop, values)) (List.append_assoc front values more)

theorem answer?_sequence (ps : List (Parser α)) (input : Input) (start : Nat) :
    ((sequence ps).execute input start).answer? =
      (runEach input ps 0 start).answer?.map (Chain.reply start) := by
  rw [execute_of_mem (Modalities.mem_univ _)]
  show Run.answer? (runEach input ps 0 start >>= _) = _
  rw [Run.answer?_bind, Option.map_eq_bind]
  congr 1
  funext chain
  obtain ⟨element, e⟩ | ⟨stop, values⟩ := chain <;> rfl

theorem answer?_apply_sequence (ps : List (Parser α)) {s : State β} {b : β} (hs : s.outcome = .ok b) :
    ((sequence ps).apply s).answer? =
      (runEach s.input ps 0 s.cursor).answer?.map fun chain => ⟨chain.reply s.cursor, s.input⟩ := by
  rw [answer?_apply_of_ok _ hs, answer?_sequence, Option.map_map]
  rfl

theorem answer?_runEach_failed {e : Failure} {cursor : Nat} {flag : Bool}
    (h : (p.execute input start).answer? = some ⟨cursor, .error e, flag⟩) (first : Nat) :
    (runEach input (p :: ps) first start).answer? = some (.error (first, e)) := by
  rw [runEach, Run.answer?_bind, h]
  rfl

/-- A chain goes on after a part that matches, with what is kept of its value. -/
theorem answer?_runEach_ok {r : Reply α} {a : α} (h : (p.execute input start).answer? = some r)
    (hr : r.outcome = .ok a) (first : Nat) :
    (runEach input (p :: ps) first start).answer? =
      (runEach input ps (first + 1) r.cursor).answer?.map (Chain.after (r.kept a)) := by
  rw [runEach, Run.answer?_bind, h, Option.bind_some, hr]
  show Run.answer? (runEach input ps (first + 1) r.cursor >>= _) = _
  rw [Run.answer?_bind, Option.map_eq_bind]
  rfl

/-! ## One list after the other -/

/-- Parsers of two lists, one after the other: the second list goes on where the first ends. -/
theorem runEach_append (input : Input) (ps qs : List (Parser α)) (first start : Nat) :
    runEach input (ps ++ qs) first start =
      runEach input ps first start >>= fun
        | .error failed => pure (.error failed)
        | .ok (stop, values) =>
          Chain.after values <$> runEach input qs (first + ps.length) stop := by
  induction ps generalizing first start with
  | nil =>
    have hafter : (Chain.after [] : Chain α → Chain α) = id := funext Chain.after_nil
    simp only [runEach, pure_bind, hafter, id_map, List.nil_append, List.length_nil, Nat.add_zero]
  | cons p ps ih =>
    rw [List.cons_append, runEach, runEach, bind_assoc]
    congr 1
    funext reply
    obtain ⟨stop, e | a, flag⟩ := reply
    · rfl
    · dsimp only
      rw [ih, bind_assoc, bind_assoc, List.length_cons, Nat.add_right_comm]
      congr 1
      funext chain
      obtain ⟨element, e⟩ | ⟨stop, values⟩ := chain
      · rfl
      · simp only [pure_bind, map_eq_pure_bind, bind_assoc, Except.map]
        congr 1
        funext rest
        exact congrArg pure (Chain.after_append _ values rest).symm

/-- The count of the parts shows in the failure alone. -/
theorem runEach_countedOn (input : Input) (ps : List (Parser α)) (count first start : Nat) :
    runEach input ps (first + count) start =
      Chain.countedOn count <$> runEach input ps first start := by
  induction ps generalizing first start with
  | nil => rfl
  | cons p ps ih =>
    rw [runEach, runEach, map_bind]
    congr 1
    funext reply
    obtain ⟨stop, e | a, flag⟩ := reply
    · rfl
    · dsimp only
      rw [Nat.add_right_comm, ih, map_bind, bind_map_left]
      congr 1
      funext chain
      obtain ⟨element, e⟩ | ⟨stop, values⟩ := chain <;> rfl

theorem answer?_runEach_append_failed {first : Nat} {failed : Nat × Failure}
    (h : (runEach input ps first start).answer? = some (.error failed)) (qs : List (Parser α)) :
    (runEach input (ps ++ qs) first start).answer? = some (.error failed) := by
  rw [runEach_append, Run.answer?_bind, h]
  rfl

/-- After a list that matches, the answer is that of the second list from there. -/
theorem answer?_runEach_append {first stop : Nat} {values : List α}
    (h : (runEach input ps first start).answer? = some (.ok (stop, values))) (qs : List (Parser α)) :
    (runEach input (ps ++ qs) first start).answer? =
      (runEach input qs first stop).answer?.map fun chain =>
        (chain.countedOn ps.length).after values := by
  rw [runEach_append, Run.answer?_bind, h, Option.bind_some]
  dsimp only
  rw [runEach_countedOn, map_eq_pure_bind, map_eq_pure_bind, bind_assoc, Run.answer?_bind,
    Option.map_eq_bind]
  rfl

/-- A chain that stops short stops at one of its parts: the parts before it match, and it fails, with what
the chain says, where they end. -/
theorem failed_of_answer?_runEach {first element : Nat} {e : Failure}
    (h : (runEach input ps first start).answer? = some (.error (element, e))) :
    ∃ k p stop values, element = first + k ∧ ps[k]? = some p ∧
      (runEach input (ps.take k) first start).answer? = some (.ok (stop, values)) ∧
      ∃ cursor flag, (p.execute input stop).answer? = some ⟨cursor, .error e, flag⟩ := by
  induction ps generalizing first start with
  | nil => cases h
  | cons p ps ih =>
    cases hr : (p.execute input start).answer? with
    | none =>
      rw [runEach, Run.answer?_bind, hr] at h
      cases h
    | some r =>
      obtain ⟨cursor, e' | a, flag⟩ := r
      · rw [answer?_runEach_failed hr] at h
        cases h
        exact ⟨0, p, start, [], rfl, rfl, rfl, cursor, flag, hr⟩
      · rw [answer?_runEach_ok hr rfl, Option.map_eq_some_iff] at h
        obtain ⟨⟨element, e⟩ | ⟨stop, values⟩, hrest, h⟩ := h
        · cases h
          obtain ⟨k, q, stop, values, rfl, hq, hfront, hfail⟩ := ih hrest
          refine ⟨k + 1, q, stop, Reply.kept ⟨cursor, .ok a, flag⟩ a ++ values, by omega, hq, ?_, hfail⟩
          rw [List.take_succ_cons, answer?_runEach_ok hr rfl, hfront]
          rfl
        · cases h

end Parser

open Triparse.Parser (sequence runEach runEach_append answer?_runEach_append
  answer?_runEach_append_failed answer?_apply_sequence failed_of_answer?_runEach)

/-! ## Sequences on states -/

section
variable {ps : List (Parser α)} {s : State β} {b : β} {t : State (List α)}

theorem chain_of_sequence_ok (hs : s.outcome = .ok b) (ht : ((sequence ps).apply s).answer? = some t)
    {values : List α} (hok : t.outcome = .ok values) :
    (runEach s.input ps 0 s.cursor).answer? = some (.ok (t.cursor, values)) ∧
      t = s.succeed t.cursor values := by
  rw [answer?_apply_sequence ps hs, Option.map_eq_some_iff] at ht
  obtain ⟨⟨element, e⟩ | ⟨stop, values⟩, hchain, rfl⟩ := ht
  · cases hok
  · cases hok
    exact ⟨hchain, rfl⟩

theorem chain_of_sequence_error (hs : s.outcome = .ok b)
    (ht : ((sequence ps).apply s).answer? = some t) {e : Failure} (he : t.outcome = .error e) :
    ∃ k inner, (runEach s.input ps 0 s.cursor).answer? = some (.error (k, inner)) ∧
      e = .within "sequence" k inner ∧ t = s.fail e := by
  rw [answer?_apply_sequence ps hs, Option.map_eq_some_iff] at ht
  obtain ⟨⟨k, inner⟩ | ⟨stop, values⟩, hchain, rfl⟩ := ht
  · cases he
    exact ⟨k, inner, hchain, rfl, rfl⟩
  · cases he

/-- The failure that a sequence reports is the answer of one of its parts, where those before it end. -/
theorem part_of_sequence_error (hs : s.outcome = .ok b) {k : Nat} {inner : Failure}
    (hc : (runEach s.input ps 0 s.cursor).answer? = some (.error (k, inner))) :
    ∃ p u v, ps[k]? = some p ∧ ((sequence (ps.take k)).apply s).answer? = some u ∧
      u.isFailure = false ∧ (p.apply u).answer? = some v ∧ v.outcome = .error inner := by
  obtain ⟨k, p, stop, values, rfl, hp, hfront, cursor, flag, hfail⟩ := failed_of_answer?_runEach hc
  rw [Nat.zero_add]
  refine ⟨p, s.succeed stop values, ⟨⟨cursor, .error inner, flag⟩, s.input⟩, hp, ?_, rfl, ?_, rfl⟩
  · rw [answer?_apply_sequence _ hs, hfront]
    rfl
  · rw [Parser.answer?_apply_of_ok p (s := s.succeed stop values) rfl]
    exact congrArg (Option.map _) hfail

end

/-- **Sequences respect concatenation.** Where the sequence of the first list fails, that of both fails in
the same state. Where it succeeds, that of both does what the sequence of the second list does from there:
it does not answer either; or it succeeds with the values of both lists where the second ends; or it fails
at its own start, at the same part, which is counted on. The failure of a part is what that part has
answered where those before it end, and its kind, its position and its root are those of the whole. -/
theorem sequence_append (ps qs : List (Parser α)) {s : State β} {b : β} (hs : s.outcome = .ok b) :
    let front := ((sequence ps).apply s).answer?
    let rest := fun t : State (List α) => ((sequence qs).apply t).answer?
    let whole := ((sequence (ps ++ qs)).apply s).answer?
    (front = none → whole = none) ∧
    (∀ t e, front = some t → t.outcome = .error e → whole = some t) ∧
    ∀ t values, front = some t → t.outcome = .ok values →
      (rest t = none → whole = none) ∧
      (∀ u more, rest t = some u → u.outcome = .ok more →
        whole = some (s.succeed u.cursor (values ++ more))) ∧
      ∀ u e, rest t = some u → u.outcome = .error e →
        ∃ k inner, e = .within "sequence" k inner ∧
          (∃ q v w, qs[k]? = some q ∧ ((sequence (qs.take k)).apply t).answer? = some v ∧
            v.isFailure = false ∧ (q.apply v).answer? = some w ∧ w.outcome = .error inner) ∧
          ∃ e', whole = some (s.fail e') ∧ e' = .within "sequence" (k + ps.length) inner ∧
            e'.kind = inner.kind ∧ e'.position = inner.position ∧ e'.root = inner.root := by
  intro front rest whole
  have hwhole : whole = (runEach s.input (ps ++ qs) 0 s.cursor).answer?.map fun chain =>
      ⟨chain.reply s.cursor, s.input⟩ := answer?_apply_sequence (ps ++ qs) hs
  refine ⟨fun hnone => ?_, fun t e ht he => ?_, fun t values ht hok => ?_⟩
  · have hchain := Option.map_eq_none_iff.1 ((answer?_apply_sequence ps hs).symm.trans hnone)
    rw [hwhole, runEach_append, Run.answer?_bind, hchain]
    rfl
  · obtain ⟨k, inner, hchain, rfl, rfl⟩ := chain_of_sequence_error hs ht he
    rw [hwhole, answer?_runEach_append_failed hchain]
    rfl
  · obtain ⟨hchain, hstate⟩ := chain_of_sequence_ok hs ht hok
    have hinput : t.input = s.input := by rw [hstate]; rfl
    rw [answer?_runEach_append hchain, ← hinput] at hwhole
    refine ⟨fun hnone => ?_, fun u more hu hmore => ?_, fun u e hu he => ?_⟩
    · rw [hwhole, Option.map_eq_none_iff.1 ((answer?_apply_sequence qs hok).symm.trans hnone)]
      rfl
    · rw [hwhole, (chain_of_sequence_ok hok hu hmore).1, hinput]
      rfl
    · obtain ⟨k, inner, hrest, rfl, -⟩ := chain_of_sequence_error hok hu he
      refine ⟨k, inner, rfl, part_of_sequence_error hok hrest, _, ?_, rfl, rfl, rfl, rfl⟩
      rw [hwhole, hrest, hinput]
      rfl

/-- Two letters, the second left out, and two more: the values in one list; and where the last letter is
another, the failure of that part, which is the fourth of all. -/
theorem sequence_append_of_letters :
    let front := [Parser.character 'a', (Parser.character 'b').ignore]
    let rest := [Parser.character 'c', Parser.character 'd']
    let text := State.start ⟨.characters ['a', 'b', 'c', 'd'], {}⟩
    let other := State.start ⟨.characters ['a', 'b', 'c', 'x'], {}⟩
    ((sequence (front ++ rest)).apply text).answer? = some (text.succeed 4 ['a', 'c', 'd']) ∧
      ((sequence (front ++ rest)).apply other).answer? =
        some (other.fail (.within "sequence" 3 (.noMatch "character" 3 "character 'd'" "\"x\""))) := by
  intro front rest text other
  constructor
  · have h := (sequence_append front rest (s := text) rfl).2.2 (text.succeed 2 ['a']) ['a'] rfl rfl
    exact h.2.1 ((text.succeed 2 ['a']).succeed 4 ['c', 'd']) ['c', 'd'] rfl rfl
  · have h := (sequence_append front rest (s := other) rfl).2.2 (other.succeed 2 ['a']) ['a'] rfl rfl
    obtain ⟨k, inner, he, -, e, hwhole, rfl, -⟩ := h.2.2 _ _ rfl rfl
    cases he
    exact hwhole

end Triparse
