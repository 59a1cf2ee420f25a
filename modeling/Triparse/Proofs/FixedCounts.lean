import Triparse.Parser.Element
import Triparse.Parser.LookAhead
import Triparse.Proofs.Chains
import Triparse.Proofs.CountCheck

/-!
# Exact counts and fixed numbers of matches

A fixed number `n` of matches of a parser is a sequence of `n` copies of it, but for what the failure of a
copy is turned into (`times_of_copies`).

A repetition with the range `n` to `n` and a fixed number `n` of matches are two loops. The second stops
after `n` matches whatever follows; the first must stop there by itself. Where the first one succeeds, so
does the second, and with the same answer; the cases in which only the second does are those of `Overrun`
(`exactly_refines_times`).
-/

set_option autoImplicit false

namespace Triparse

variable {α β : Type}

/-! ## Copies -/

open Triparse.Parser (sequence times runEach answer?_times answer?_apply_of_ok answer?_apply_sequence
  failed_of_answer?_runEach)

/-- A copy at which a chain of copies fails is one of them. -/
theorem Parser.lt_of_copy_failed {p : Parser α} {input : Input} {n start k : Nat} {e : Failure}
    (h : (runEach input (List.replicate n p) 0 start).answer? = some (.error (k, e))) : k < n := by
  obtain ⟨k, q, stop, values, rfl, hq, -⟩ := failed_of_answer?_runEach h
  obtain ⟨hk, -⟩ := List.getElem?_eq_some_iff.1 hq
  rwa [List.length_replicate, ← Nat.zero_add k] at hk

/-- **A fixed number of matches is a sequence of copies.** On a live state whose input `p` accepts, the two
answer in the same cases, and succeed in the same states. Where the sequence fails, it is at one of the
copies, the one with the index `k`; then the fixed number fails, too, where it was started: it tells that
`k` matches have been made out of exactly `n`, at the position of the failure of that copy, which it has,
unchanged, for its cause. -/
theorem times_of_copies {p : Parser α} {s : State β} {b : β} (hs : s.outcome = .ok b)
    (hm : s.input.modality ∈ p.accepts) (n : Nat) :
    let copies := ((sequence (List.replicate n p)).apply s).answer?
    let fixed := ((times p n).apply s).answer?
    (copies = none ↔ fixed = none) ∧
    (∀ t, t.isFailure = false → (copies = some t ↔ fixed = some t)) ∧
    ∀ t e, copies = some t → t.outcome = .error e →
      ∃ k inner, k < n ∧ e = .within "sequence" k inner ∧ t = s.fail e ∧
        fixed = some (s.fail
          (.countOutOfRange "repeat" inner.position (.exactly n) k (some inner))) := by
  intro copies fixed
  have hcopies : copies = _ := answer?_apply_sequence (List.replicate n p) hs
  have hfixed : fixed = _ := answer?_apply_of_ok (times p n) hs
  rw [answer?_times hm, Option.map_map] at hfixed
  -- Both are read off one chain.
  cases hchain : (runEach s.input (List.replicate n p) 0 s.cursor).answer? with
  | none =>
    rw [hchain] at hcopies hfixed
    rw [hcopies, hfixed]
    exact ⟨Iff.rfl, fun _ _ => Iff.rfl, nofun⟩
  | some chain =>
    rw [hchain] at hcopies hfixed
    obtain ⟨k, inner⟩ | ⟨stop, values⟩ := chain
    · refine ⟨by rw [hcopies, hfixed]; simp, fun t ht => ?_, fun t e hte he => ?_⟩
      · -- Neither of the two is a match.
        rw [hcopies, hfixed]
        constructor
        · rintro ⟨⟩
          cases ht
        · rintro ⟨⟩
          cases ht
      · rw [hcopies] at hte
        cases hte
        cases he
        exact ⟨k, inner, Parser.lt_of_copy_failed hchain, rfl, rfl, hfixed⟩
    · rw [hcopies, hfixed]
      refine ⟨Iff.rfl, fun _ _ => Iff.rfl, ?_⟩
      rintro _ _ ⟨⟩ ⟨⟩

/-- Two pairs of letters, and the third one broken off in its second part: the failure is that of the third
copy, and stands where the letter is missing. -/
theorem times_of_copies_of_pairs :
    let pair := sequence [Parser.character 'a', Parser.character 'b']
    let s := State.start ⟨.characters ['a', 'b', 'a', 'b', 'a', 'x'], {}⟩
    let broken := Failure.within "sequence" 1 (.noMatch "character" 5 "character 'b'" "\"x\"")
    ((times pair 2).apply s).answer? = some (s.succeed 4 [['a', 'b'], ['a', 'b']]) ∧
      ((sequence (List.replicate 3 pair)).apply s).answer? =
        some (s.fail (.within "sequence" 2 broken)) ∧
      ((times pair 3).apply s).answer? =
        some (s.fail (.countOutOfRange "repeat" 5 ⟨3, some 3⟩ 2 (some broken))) := by
  intro pair s broken
  have h := times_of_copies (p := pair) (s := s) rfl (by decide)
  have hthree : ((sequence (List.replicate 3 pair)).apply s).answer? =
      some (s.fail (.within "sequence" 2 broken)) := rfl
  refine ⟨((h 2).2.1 _ rfl).1 rfl, hthree, ?_⟩
  obtain ⟨k, inner, -, he, -, hfixed⟩ := (h 3).2.2 _ _ hthree rfl
  cases he
  exact hfixed

/-! ## Where a loop does not stop -/

/-- The matches `ms` of `p`, the first of them from `start`, are not where a greedy loop stops. -/
inductive Overrun (p : Parser α) (input : Input) (start : Nat) : List (Match α) → Prop
  /-- There are none, but a first one could be made. -/
  | atOnce : p.MatchesAt input start → Overrun p input start []
  /-- One that is not the last has not moved: the loop has stopped there. -/
  | stalled (front : List (Match α)) {rest : List (Match α)} {m : Match α} : rest ≠ [] →
      m.cursor = Match.stop start front → Overrun p input start (front ++ m :: rest)
  /-- The last one has moved, and a further one could be made. -/
  | further (front : List (Match α)) {m : Match α} : m.cursor ≠ Match.stop start front →
      p.MatchesAt input m.cursor → Overrun p input start (front ++ [m])

/-- After a match that has moved, the loop goes on as it would from there. -/
theorem Overrun.cons {p : Parser α} {input : Input} {start : Nat} {m : Match α} {ms : List (Match α)}
    (h : Overrun p input m.cursor ms) (hm : m.cursor ≠ start) : Overrun p input start (m :: ms) := by
  cases h with
  | atOnce hp => exact .further [] hm hp
  | stalled front hrest hstall => exact .stalled (m :: front) hrest hstall
  | further front hmove hp => exact .further (m :: front) hmove hp

namespace Course

variable {p : Parser α} {input : Input} {count start : Nat} {ms : List (Match α)}

/-- The course of a repetition is a chain of copies of its parser. -/
theorem chained (h : Course (fun _ => p.execute input) count start ms) :
    Chained input (List.replicate ms.length p) start ms := by
  induction h with
  | failed _ => exact .nil
  | stalled hf _ => exact .cons hf .nil
  | moved hf _ _ ih => exact .cons hf ih

/-- A loop stops where its course ends. -/
theorem not_overrun (h : Course (fun _ => p.execute input) count start ms) :
    ¬ Overrun p input start ms := by
  rintro (⟨m, hf⟩ | ⟨front, hrest, hm⟩ | ⟨front, hm, m, hf⟩)
  · cases h with
    | failed hf' => exact nomatch hf.symm.trans hf'
  · exact h.moves hrest hm
  · cases h.drop (List.cons_ne_nil _ []) with
    | stalled _ hm' => exact hm hm'
    | moved _ _ hnext =>
      cases hnext with
      | failed hf' => exact nomatch hf.symm.trans hf'

end Course

/-! ## The loop for exactly so many matches -/

namespace Parser

variable {p : Parser α} {input : Input} {n bound start : Nat} {t : Tally α}

theorem Tally.reply_exactly (t : Tally α) (name : String) (n start : Nat) :
    t.reply name (.exactly n) start =
      if t.count = n then .succeed t.cursor t.values
      else .fail start (.countOutOfRange name start (.exactly n) t.count none) := by
  simp only [Tally.reply, Repetition.exactly_eq, Repetition.contains_iff, Nat.le_antisymm_iff,
    and_comm]

/-- A loop for exactly `n` matches that comes to that count makes the matches of the chain of as many
copies of its parser. -/
theorem chained_of_count (ht : (repeatFrom (fun _ => p.execute input) .repetitionStopped (.exactly n)
      bound 0 start).answer? = some t) (hcount : t.count = n) :
    ∃ ms, Course (fun _ => p.execute input) 0 start ms ∧
      Chained input (List.replicate n p) start ms ∧
      t = ⟨n, Match.stop start ms, Match.values ms⟩ := by
  have hr : (Repetition.exactly n).exceededBy t.count = false := by
    simp [Repetition.exceededBy, hcount]
  obtain ⟨ms, hc, rfl⟩ := Course.of_answer ht hr
  subst hcount
  rw [Nat.zero_add]
  exact ⟨ms, hc, hc.chained, rfl⟩

/-- A loop that comes to more than it had before has matched. -/
theorem matchesAt_of_count {range : Repetition} {count : Nat}
    (ht : (repeatFrom (fun _ => p.execute input) .repetitionStopped range bound count
      start).answer? = some t) (hcount : t.count ≠ count) : p.MatchesAt input start := by
  cases bound with
  | zero => cases ht
  | succ bound =>
    obtain ⟨_ | m, hf⟩ := found_of_answer?_repeatFrom ht
    · rw [answer?_repeatFrom_failed hf] at ht
      cases ht
      exact absurd rfl hcount
    · exact ⟨m, hf⟩

/-- A loop for exactly `n` matches that comes to another count, after `count` matches, does not stop after
the `left` ones that there are from there on. -/
theorem overrun_of_count {count left : Nat} {ms : List (Match α)}
    (ht : (repeatFrom (fun _ => p.execute input) .repetitionStopped (.exactly n) bound count
      start).answer? = some t) (hcount : t.count ≠ n) (hn : count + left = n)
    (hms : Chained input (List.replicate left p) start ms) : Overrun p input start ms := by
  induction left generalizing bound count start ms t with
  | zero =>
    cases hms
    subst hn
    exact .atOnce (matchesAt_of_count ht hcount)
  | succ left ih =>
    obtain _ | @⟨_, _, _, m, ms, hf, hms⟩ := hms
    cases bound with
    | zero => cases ht
    | succ bound =>
      by_cases hm : m.cursor = start
      · rw [answer?_repeatFrom_last hf (.inl hm)] at ht
        cases ht
        refine .stalled [] ?_ hm
        rintro rfl
        have hlen : 0 = left := hms.length_eq.trans List.length_replicate
        exact hcount (by rw [← hn, ← hlen])
      · have hr : (Repetition.exactly n).exceededBy (count + 1) = false := by
          simp only [Repetition.exactly_eq, Repetition.exceededBy, decide_eq_false_iff_not]
          omega
        rw [answer?_repeatFrom_next hf hm hr, Option.map_eq_some_iff] at ht
        obtain ⟨t, ht, rfl⟩ := ht
        exact (ih ht hcount (by omega) hms).cons hm

end Parser

/-! ## The two loops -/

open Triparse.Parser (many times answer?_many answer?_times answer?_apply_of_ok execute_of_not_mem
  chained_of_count overrun_of_count)

/-- **A repetition for an exact count refines the fixed number of matches.** On a live state on which both
answer, the fixed number answers what the repetition does, if that succeeds. If the fixed number succeeds,
the repetition fails nevertheless if and only if a greedy loop does not stop after just these matches: there
are none but `p` matches, or one that is not the last has not moved, or the last one has moved and `p`
matches again. What it tells then is that the count is another. -/
theorem exactly_refines_times {p : Parser α} {n bound : Nat} {s : State β} {b : β}
    (hs : s.outcome = .ok b) {t u : State (List α)}
    (ht : ((times p n).apply s).answer? = some t)
    (hu : ((many bound (.exactly n) p).apply s).answer? = some u) :
    (u.isFailure = false → t = u) ∧
    (t.isFailure = false →
      ∃ ms, Chained s.input (List.replicate n p) s.cursor ms ∧
        t = s.succeed (Match.stop s.cursor ms) (Match.values ms) ∧
        (u.isFailure = true ↔ Overrun p s.input s.cursor ms) ∧
        (u.isFailure = true → ∃ count, count ≠ n ∧
          u = s.fail (.countOutOfRange "many" s.cursor (.exactly n) count none))) := by
  rw [answer?_apply_of_ok _ hs, Option.map_eq_some_iff] at ht hu
  obtain ⟨fixed, ht, rfl⟩ := ht
  obtain ⟨counted, hu, rfl⟩ := hu
  by_cases hm : s.input.modality ∈ p.accepts
  · rw [answer?_times hm, Option.map_eq_some_iff] at ht
    rw [answer?_many hm, Option.map_eq_some_iff] at hu
    obtain ⟨chain, ht, rfl⟩ := ht
    obtain ⟨tally, hu, rfl⟩ := hu
    rw [Parser.Tally.reply_exactly]
    by_cases hcount : tally.count = n
    · obtain ⟨ms, hcourse, hms, rfl⟩ := chained_of_count hu hcount
      rw [hms.answer] at ht
      cases ht
      rw [if_pos rfl]
      refine ⟨fun _ => rfl, fun _ => ⟨ms, hms, rfl, ?_, nofun⟩⟩
      exact iff_of_false nofun hcourse.not_overrun
    · rw [if_neg hcount]
      refine ⟨nofun, fun hsucceeds => ?_⟩
      obtain ⟨index, e⟩ | ⟨stop, values⟩ := chain
      · cases hsucceeds
      · obtain ⟨ms, hms, rfl, rfl⟩ := Chained.of_answer ht
        have hover := overrun_of_count hu hcount (Nat.zero_add n) hms
        exact ⟨ms, hms, rfl, iff_of_true rfl hover, fun _ => ⟨tally.count, hcount, rfl⟩⟩
  · -- Neither of the two succeeds.
    have hm' : s.input.modality ∉ (times p n).accepts := hm
    have hm'' : s.input.modality ∉ (many bound (.exactly n) p).accepts := hm
    rw [execute_of_not_mem hm'] at ht
    rw [execute_of_not_mem hm''] at hu
    cases ht
    cases hu
    exact ⟨nofun, nofun⟩

/-- Of three letters, all three are exactly three, and both loops keep them. Two of them are a fixed number
of two, but not exactly two, since a third one follows; nor are two looks at the first letter, since the
second one would not be taken. -/
theorem exactly_refines_times_of_letters :
    let letter := Parser.any Char
    let s := State.start ⟨.characters ['a', 'b', 'c'], {}⟩
    ((times letter 3).apply s).answer? = some (s.succeed 3 ['a', 'b', 'c']) ∧
      Overrun letter s.input 0 [⟨1, 'a', false⟩, ⟨2, 'b', false⟩] ∧
      Overrun letter.lookAhead s.input 0 [⟨0, 'a', false⟩, ⟨0, 'a', false⟩] := by
  intro letter s
  have hthree : ((many 9 (.exactly 3) letter).apply s).answer? = some _ := rfl
  have htwo : ((many 9 (.exactly 2) letter).apply s).answer? = some _ := rfl
  have hlooks : ((many 9 (.exactly 2) letter.lookAhead).apply s).answer? = some _ := rfl
  refine ⟨?_, ?_, ?_⟩
  · obtain ⟨t, ht⟩ : ∃ t, ((times letter 3).apply s).answer? = some t := ⟨_, rfl⟩
    rw [ht, (exactly_refines_times rfl ht hthree).1 rfl]
    rfl
  · obtain ⟨ms, hms, -, hover, -⟩ := (exactly_refines_times rfl rfl htwo).2 rfl
    cases hms.unique (.cons rfl (.cons rfl .nil))
    exact hover.1 rfl
  · obtain ⟨ms, hms, -, hover, -⟩ := (exactly_refines_times rfl rfl hlooks).2 rfl
    cases hms.unique (.cons rfl (.cons rfl .nil))
    exact hover.1 rfl

end Triparse
