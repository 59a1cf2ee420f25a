import Triparse.Proofs.SeparatedLists
import Triparse.Proofs.Termination

/-!
# Scanning for a match

To take everything until a probe matches is to take it up to the first cursor at which the probe matches,
the end of the input included (`everythingUntil_first_match`). A repetition of elements at which the probe
does not match, followed by a look at what comes next, does the same in another way: it stops at the first
match or at the end of the input, and only the look ahead tells which of the two it was. The two are
compared through the cursor where they stop (`answer?_search_first`, `answer?_search_none` for the one,
`answer?_many_anythingExcept` for the other).
-/

set_option autoImplicit false

namespace Triparse

variable {α β γ : Type}

/-! ## Probes -/

namespace Parser

/-- `k` is the first of the cursors from `start` to `last` at which the parser matches. -/
structure FirstHit (p : Parser α) (input : Input) (start last k : Nat) : Prop where
  start_le : start ≤ k
  le_last : k ≤ last
  hit : p.MatchesAt input k
  before : ∀ j, start ≤ j → j < k → ¬ p.MatchesAt input j

variable {input : Input} {probe : Parser β}

/-- Where a parser that answers does not match, it fails. -/
theorem Total.found_eq_none (hu : probe.Total input) {cursor : Nat}
    (h : ¬ probe.MatchesAt input cursor) : (probe.execute input cursor).found = some none := by
  obtain ⟨r, hr⟩ := hu cursor
  have hf : (probe.execute input cursor).found = some r.match? := by
    rw [Run.found, hr, Option.map_some]
  cases hm : r.match? with
  | none => rw [hf, hm]
  | some m => exact absurd ⟨m, by rw [hf, hm]⟩ h

/-! ## The search -/

theorem answer?_search (probe : Parser β) (input : Input) (left cursor : Nat) :
    (search probe input left cursor).answer? =
      (probe.execute input cursor).found.bind fun
        | some _ => some (.ok cursor)
        | none =>
          match left with
          | 0 => some (.error cursor)
          | left + 1 => (search probe input left (cursor + 1)).answer? := by
  rw [search.eq_def, Run.answer?_bind, Run.found, Option.bind_map]
  congr 1
  funext reply
  obtain ⟨stop, e | a, flag⟩ := reply
  · cases left <;> rfl
  · rfl

/-- A search that is given the first match finds it. -/
theorem answer?_search_first (hu : probe.Total input) {left start k : Nat}
    (h : probe.FirstHit input start (start + left) k) :
    (search probe input left start).answer? = some (.ok k) := by
  obtain ⟨hstart, hlast, ⟨m, hit⟩, hbefore⟩ := h
  induction left generalizing start with
  | zero =>
    obtain rfl : k = start := by omega
    rw [answer?_search, hit]
    rfl
  | succ left ih =>
    by_cases hk : k = start
    · subst hk
      rw [answer?_search, hit]
      rfl
    · have hmiss := hu.found_eq_none (hbefore start (Nat.le_refl start) (by omega))
      rw [answer?_search, hmiss]
      exact ih (by omega) (by omega) fun j hj => hbefore j (by omega)

/-- A search where there is no match tells the last cursor that it has come to. -/
theorem answer?_search_none (hu : probe.Total input) {left start : Nat}
    (h : ∀ j, start ≤ j → j ≤ start + left → ¬ probe.MatchesAt input j) :
    (search probe input left start).answer? = some (.error (start + left)) := by
  induction left generalizing start with
  | zero =>
    have hmiss := hu.found_eq_none (h start (Nat.le_refl start) (Nat.le_refl start))
    rw [answer?_search, hmiss]
    rfl
  | succ left ih =>
    have hmiss := hu.found_eq_none (h start (Nat.le_refl start) (Nat.le_add_right start _))
    have hnext : (search probe input left (start + 1)).answer? = some (.error (start + 1 + left)) :=
      ih fun j hj hj' => h j (by omega) (by omega)
    rw [answer?_search, hmiss, Option.bind_some]
    exact hnext.trans (by rw [Nat.add_right_comm, Nat.add_assoc])

/-! ## A part and a look at what comes next -/

theorem found_lookAhead (p : Parser α) (input : Input) (cursor : Nat) :
    ((lookAhead p).execute input cursor).found =
      (p.execute input cursor).found.map (Option.map fun m => { m with cursor := cursor }) := by
  by_cases hm : input.modality ∈ p.accepts
  · have hm' : input.modality ∈ (lookAhead p).accepts := hm
    rw [execute_of_mem hm', lookAhead, Run.found, Run.answer?_bind, Run.found, Option.map_bind,
      Option.map_map, Option.map_eq_bind]
    congr 1
    funext reply
    obtain ⟨stop, e | a, flag⟩ := reply <;> rfl
  · have hm' : input.modality ∉ (lookAhead p).accepts := hm
    rw [execute_of_not_mem hm', execute_of_not_mem hm]
    rfl

/-- A part and another that is looked ahead for: the match of the first, if the other matches there. -/
theorem found_skip_lookAhead (p : Parser α) (q : Parser β) (input : Input) (cursor : Nat) :
    ((p.skip (lookAhead q)).execute input cursor).found =
      (p.execute input cursor).found.bind fun
        | none => some none
        | some m => (q.execute input m.cursor).found.map
            (Option.map fun _ => ⟨m.cursor, m.value, false⟩) := by
  rw [found_skip]
  congr 1
  funext found
  cases found with
  | none => rfl
  | some m =>
    simp only [found_lookAhead, Option.map_map]
    congr 1
    funext found
    cases found <;> rfl

/-! ## Elements at which the probe does not match -/

section
variable [Element α] (hm : input.modality = Element.modality α)
include hm

theorem answer?_everythingUntil (probe : Parser β) (start : Nat) :
    ((everythingUntil α probe).execute input start).answer? =
      (search probe input ((input.elements α).length - start) start).answer?.map fun
        | .ok stop => .succeed stop (((input.elements α).drop start).take (stop - start))
        | .error last => .fail start (.endOfInput "everything_until" last
            ("anything followed by " ++ probe.expected) 0) := by
  have hm' : input.modality ∈ (everythingUntil α probe).accepts := Modalities.mem_only.2 hm
  rw [execute_of_mem hm', everythingUntil, Run.answer?_bind, Option.map_eq_bind]
  congr 1
  funext found
  obtain last | stop := found <;> rfl

theorem found_anythingExcept (probe : Parser β) (cursor : Nat) :
    ((anythingExcept α probe).execute input cursor).found =
      (probe.execute input cursor).found.map fun
        | some _ => none
        | none => (input.elements α)[cursor]?.map fun x => ⟨cursor + 1, x, false⟩ := by
  have hm' : input.modality ∈ (anythingExcept α probe).accepts := Modalities.mem_only.2 hm
  rw [execute_of_mem hm', anythingExcept, Run.found, Run.answer?_bind, Run.found, Option.map_bind,
    Option.map_map, Option.map_eq_bind]
  congr 1
  funext reply
  obtain ⟨stop, e | b, flag⟩ := reply
  · simp only [Function.comp_apply, Reply.match?]
    cases (input.elements α)[cursor]? <;> rfl
  · rfl

theorem found_anythingExcept_of_matchesAt {cursor : Nat} (h : probe.MatchesAt input cursor) :
    ((anythingExcept α probe).execute input cursor).found = some none := by
  obtain ⟨m, hf⟩ := h
  rw [found_anythingExcept hm, hf]
  rfl

theorem found_anythingExcept_of_end [LawfulElement α] (hu : probe.Total input) {cursor : Nat}
    (h : ¬ probe.MatchesAt input cursor) (hend : input.source.length ≤ cursor) :
    ((anythingExcept α probe).execute input cursor).found = some none := by
  have helement : (input.elements α)[cursor]? = none := by
    rw [List.getElem?_eq_none_iff, input.length_elements hm]
    exact hend
  rw [found_anythingExcept hm, hu.found_eq_none h, Option.map_some, helement]
  rfl

end

end Parser

/-- Elements, as matches of one of them each, the first from `start` on. -/
def Match.ofElements (start : Nat) : List α → List (Match α)
  | [] => []
  | x :: xs => ⟨start + 1, x, false⟩ :: ofElements (start + 1) xs

namespace Match

theorem length_ofElements (start : Nat) (xs : List α) : (ofElements start xs).length = xs.length := by
  induction xs generalizing start with
  | nil => rfl
  | cons x xs ih => rw [ofElements, List.length_cons, ih, List.length_cons]

theorem stop_ofElements (start : Nat) (xs : List α) :
    stop start (ofElements start xs) = start + xs.length := by
  induction xs generalizing start with
  | nil => rfl
  | cons x xs ih => rw [ofElements, stop, ih, List.length_cons, Nat.add_right_comm, Nat.add_assoc]

theorem values_ofElements (start : Nat) (xs : List α) : values (ofElements start xs) = xs := by
  induction xs generalizing start with
  | nil => rfl
  | cons x xs ih => exact congrArg (x :: ·) (ih (start + 1))

end Match

/-- A loop whose tries take one element each takes the elements up to where a try fails. -/
theorem Course.ofElements {attempt : Nat → Run (Reply α)} {all xs rest : List α} {start : Nat}
    (hxs : all.drop start = xs ++ rest)
    (htake : ∀ j, start ≤ j → j < start + xs.length →
      (attempt j).found = some (all[j]?.map fun x => ⟨j + 1, x, false⟩))
    (hend : (attempt (start + xs.length)).found = some none) (count : Nat) :
    Course (fun _ => attempt) count start (Match.ofElements start xs) := by
  induction xs generalizing start count with
  | nil => exact .failed hend
  | cons x xs ih =>
    have hlength : start + (x :: xs).length = start + 1 + xs.length := by
      rw [List.length_cons]
      omega
    have hx : all[start]? = some x := by
      rw [← List.head?_drop, hxs]
      rfl
    have hf : (attempt start).found = some (some ⟨start + 1, x, false⟩) := by
      rw [htake start (Nat.le_refl start) (by omega), hx]
      rfl
    have hdrop : all.drop (start + 1) = xs ++ rest := by
      rw [← List.drop_drop, hxs]
      rfl
    rw [hlength] at htake hend
    exact .moved hf (by simp) (ih hdrop (fun j hj => htake j (by omega)) hend (count + 1))

namespace Parser

section
variable [Element α] {input : Input} (hm : input.modality = Element.modality α) {probe : Parser β}
  (hu : probe.Total input)
include hm hu

/-- A repetition of elements goes on where the probe does not match. -/
theorem course_anythingExcept {xs rest : List α} {start : Nat}
    (hxs : (input.elements α).drop start = xs ++ rest)
    (hmiss : ∀ j, start ≤ j → j < start + xs.length → ¬ probe.MatchesAt input j)
    (hend : ((anythingExcept α probe).execute input (start + xs.length)).found = some none)
    (count : Nat) :
    Course (fun _ => (anythingExcept α probe).execute input) count start
      (Match.ofElements start xs) := by
  refine .ofElements hxs (fun j hj hj' => ?_) hend count
  rw [found_anythingExcept hm, hu.found_eq_none (hmiss j hj hj')]
  rfl

variable [LawfulElement α]

/-- A repetition of elements answers with those up to the cursor `k`, if the probe does not match before
`k` and no element is taken there. -/
theorem answer?_many_anythingExcept {start k : Nat} (hstart : start ≤ k)
    (hlast : k ≤ max start input.source.length)
    (hmiss : ∀ j, start ≤ j → j < k → ¬ probe.MatchesAt input j)
    (hend : ((anythingExcept α probe).execute input k).found = some none) {bound : Nat}
    (hb : input.remaining start < bound) :
    ((many bound .any (anythingExcept α probe)).execute input start).answer? =
      some (.succeed k (((input.elements α).drop start).take (k - start))) := by
  generalize hxs : ((input.elements α).drop start).take (k - start) = xs
  have hlength : xs.length = k - start := by
    have hl := input.length_elements hm
    rw [← hxs, List.length_take, List.length_drop]
    omega
  have hk : start + xs.length = k := by omega
  have hsplit : (input.elements α).drop start =
      xs ++ ((input.elements α).drop start).drop (k - start) := by
    rw [← hxs, List.take_append_drop]
  have hc := course_anythingExcept hm hu hsplit (hk.symm ▸ hmiss) (hk.symm ▸ hend) 0
  have hbound : (Match.ofElements start xs).length < bound := by
    rw [Match.length_ofElements]
    rw [Input.remaining] at hb
    omega
  have hm' : input.modality ∈ (anythingExcept α probe).accepts := Modalities.mem_only.2 hm
  obtain ⟨t, ht, -, hall⟩ := hc.answer .repetitionStopped (Repetition.exceededBy_any 0) hbound
  rw [answer?_many hm', ht, hall (Repetition.exceededBy_any _), Match.stop_ofElements,
    Match.values_ofElements, hk]
  rfl

/-- With a look ahead for the probe, such a repetition matches if the probe matches where it stops. -/
theorem found_many_anythingExcept {start k : Nat} (hstart : start ≤ k)
    (hlast : k ≤ max start input.source.length)
    (hmiss : ∀ j, start ≤ j → j < k → ¬ probe.MatchesAt input j)
    (hend : ((anythingExcept α probe).execute input k).found = some none) {bound : Nat}
    (hb : input.remaining start < bound) :
    (((many bound .any (anythingExcept α probe)).skip (lookAhead probe)).execute input start).found =
      (probe.execute input k).found.map (Option.map fun _ =>
        ⟨k, ((input.elements α).drop start).take (k - start), false⟩) := by
  rw [found_skip_lookAhead, Run.found,
    answer?_many_anythingExcept hm hu hstart hlast hmiss hend hb]
  rfl

end

end Parser

open Triparse.Parser (many anythingExcept everythingUntil lookAhead answer?_apply_of_ok)

/-- **Everything until a match is everything up to the first match.** Let the probe answer at every
cursor, and the input be made of the elements asked for. If there is a first cursor, from that of the state
to the end of the input, or to that of the state if it is past the end, at which the probe matches, then
everything until the probe is the elements before that cursor; and the repetition of elements at which
the probe does not match, with a look ahead for the probe, comes to the same state. If there is no such
cursor, the former fails where it has started, with no element left at the last of these cursors, and the
latter fails too. -/
theorem everythingUntil_first_match [Element α] [LawfulElement α] {probe : Parser β} {s : State γ}
    {c : γ} (hs : s.outcome = .ok c) (hm : s.input.modality = Element.modality α)
    (hu : probe.Total s.input) :
    let last := max s.cursor s.input.source.length
    let direct := ((everythingUntil α probe).apply s).answer?
    let composed := fun bound =>
      (((many bound .any (anythingExcept α probe)).skip (lookAhead probe)).apply s).answer?
    (∀ k, probe.FirstHit s.input s.cursor last k →
      let t := s.succeed k (((s.input.elements α).drop s.cursor).take (k - s.cursor))
      direct = some t ∧ ∀ bound > s.input.remaining s.cursor, composed bound = some t) ∧
    ((∀ k, s.cursor ≤ k → k ≤ last → ¬ probe.MatchesAt s.input k) →
      direct = some (s.fail (.endOfInput "everything_until" last
        ("anything followed by " ++ probe.expected) 0)) ∧
      ∀ bound > s.input.remaining s.cursor, ∃ t, composed bound = some t ∧ t.isFailure = true) := by
  intro last direct composed
  have hleft : s.cursor + ((s.input.elements α).length - s.cursor) = last := by
    rw [s.input.length_elements hm]
    omega
  have hdirect : direct = _ := (answer?_apply_of_ok _ hs).trans
    (congrArg _ (Parser.answer?_everythingUntil hm probe s.cursor))
  have hcomposed (bound : Nat) : composed bound = _ := answer?_apply_of_ok _ hs
  constructor
  · intro k hk t
    have hfound := Parser.answer?_search_first hu (hleft.symm ▸ hk)
    have hend := Parser.found_anythingExcept_of_matchesAt hm hk.hit
    obtain ⟨hstart, hlast, ⟨m, hit⟩, hmiss⟩ := hk
    refine ⟨by rw [hdirect, hfound]; rfl, fun bound hb => ?_⟩
    have hboth := Parser.found_many_anythingExcept hm hu hstart hlast hmiss hend hb
    rw [hit] at hboth
    rw [hcomposed, Run.found_eq_match.1 hboth]
    rfl
  · intro hnone
    have hfound := Parser.answer?_search_none hu fun j hj hj' => hnone j hj (hleft ▸ hj')
    have hlast := hnone last (Nat.le_max_left _ _) (Nat.le_refl last)
    have hend := Parser.found_anythingExcept_of_end hm hu hlast (Nat.le_max_right _ _)
    refine ⟨by rw [hdirect, hfound, hleft]; rfl, fun bound hb => ?_⟩
    have hboth := Parser.found_many_anythingExcept hm hu (Nat.le_max_left _ _) (Nat.le_refl last)
      (fun j hj hj' => hnone j hj (Nat.le_of_lt hj')) hend hb
    rw [hu.found_eq_none hlast] at hboth
    obtain ⟨⟨stop, _, flag⟩, e, hr, ⟨⟩⟩ := Run.found_eq_none_iff.1 hboth
    exact ⟨_, by rw [hcomposed, hr]; rfl, rfl⟩

/-- A probe that matches nothing but the end of the input takes all that is left. One for bytes matches
nowhere in a text; from a cursor past the end, the failure tells of that cursor. -/
theorem everythingUntil_first_match_of_end :
    let s := (State.start ⟨.characters ['a', 'b', 'c'], {}⟩).atCursor 1
    let past := s.atCursor 5
    let bytes := Parser.any UInt8
    ((everythingUntil Char Parser.endOfInput).apply s).answer? = some (s.succeed 3 ['b', 'c']) ∧
      (((many 3 .any (anythingExcept Char Parser.endOfInput)).skip
        (lookAhead Parser.endOfInput)).apply s).answer? = some (s.succeed 3 ['b', 'c']) ∧
      ((everythingUntil Char bytes).apply past).answer? =
        some (past.fail (.endOfInput "everything_until" 5
          ("anything followed by " ++ bytes.expected) 0)) := by
  intro s past bytes
  have hend := everythingUntil_first_match (α := Char) (s := s) rfl rfl (.of_plain .endOfInput)
  have hbytes := everythingUntil_first_match (α := Char) (s := past) rfl rfl
    (.of_plain (.elementWhere _ _ _) : bytes.Total past.input)
  have hhit : Parser.endOfInput.FirstHit s.input 1 3 3 := by
    refine ⟨by decide, by decide, ⟨⟨3, (), false⟩, rfl⟩, ?_⟩
    rintro j hj hj' ⟨m, h⟩
    obtain rfl | rfl : j = 1 ∨ j = 2 := by omega
    · cases h
    · cases h
  refine ⟨(hend.1 3 hhit).1, (hend.1 3 hhit).2 3 (by decide), (hbytes.2 ?_).1⟩
  rintro k - - ⟨m, h⟩
  cases h

end Triparse
