import Triparse.Grammar.Meaning
import Triparse.Proofs.SeparatedLists
import Triparse.Proofs.Sequences

/-!
# Rules that are sequences

A rule that runs parsers one after the other and collects their values does what the sequence of the
parsers does (`rule_of_steps`), except that it reports a failure in its own way: a sequence says which of
its parts failed, and a rule hands on what the part has said, moved to the start if nothing had been
consumed before.

The two are compared through what they leave behind: the chain of a sequence and the ending of a rule
(`Stepped`), one part after the other. A rule of a grammar whose statements are all steps is such a rule
(`Grammar.parser_rule_steps`).
-/

set_option autoImplicit false

namespace Triparse

variable {α β : Type}

/-! ## Answers of rules -/

/-- The position of a rule that has run a parser from `start`: past a match, and unchanged by a
failure. -/
def Reply.positionFrom (start : Nat) (r : Reply α) : Nat :=
  match r.outcome with
  | .ok _ => r.cursor
  | .error _ => start

/-- The reply of the parser that follows a rule, by what the rule, begun at `start`, has come to. -/
def Rule.reply (start : Nat) (ending : Nat × Except Failure α) : Reply α :=
  match ending.2 with
  | .ok a => .succeed ending.1 a
  | .error e => .fail start (if ending.1 = start then e.moveTo start else e)

namespace Rule

variable (input : Input) (n : Nat)

theorem answer?_bind (x : Rule α) (f : α → Rule β) :
    ((x >>= f) input n).answer? = (x input n).answer?.bind fun ending =>
      match ending.2 with
      | .error e => some (ending.1, .error e)
      | .ok a => (f a input ending.1).answer? := by
  rw [bind_apply, Run.answer?_bind]
  congr 1
  funext ending
  obtain ⟨stop, e | a⟩ := ending <;> rfl

theorem answer?_trial (p : Parser α) :
    (trial p input n).answer? =
      (p.execute input n).answer?.map fun r => (r.positionFrom n, .ok r.outcome) := by
  rw [trial, Run.answer?_bind, Option.map_eq_bind]
  congr 1
  funext r
  obtain ⟨stop, e | a, flag⟩ := r <;> rfl

theorem answer?_step (p : Parser α) :
    (step p input n).answer? =
      (p.execute input n).answer?.map fun r => (r.positionFrom n, r.outcome) := by
  rw [step, answer?_bind, answer?_trial, Option.bind_map, Option.map_eq_bind]
  congr 1
  funext r
  obtain ⟨stop, e | a, flag⟩ := r <;> rfl

theorem answer?_attempt (p : Parser α) :
    (attempt p input n).answer? =
      (p.execute input n).answer?.map fun r => (r.positionFrom n, .ok r.outcome.toOption) := by
  rw [attempt, answer?_bind, answer?_trial, Option.bind_map, Option.map_eq_bind]
  congr 1
  funext r
  obtain ⟨stop, e | a, flag⟩ := r <;> rfl

/-- The parser that follows a rule answers what the rule comes to. -/
theorem answer?_ofRule (x : Rule α) :
    ((Parser.ofRule x).execute input n).answer? = (x input n).answer?.map (reply n) := by
  rw [Parser.execute_of_mem (Modalities.mem_univ _), Parser.ofRule, Run.answer?_bind,
    Option.map_eq_bind]
  congr 1
  funext ending
  obtain ⟨stop, e | a⟩ := ending <;> rfl

end Rule

/-! ## One parser after the other -/

namespace Parser

variable {input : Input} {start : Nat} {p : Parser α} {ps : List (Parser α)}

/-- A chain goes on after a part whose value is kept. -/
theorem answer?_runEach_matched {a : α} {stop : Nat}
    (h : (p.execute input start).answer? = some ⟨stop, .ok a, false⟩) (first : Nat) :
    (runEach input (p :: ps) first start).answer? =
      (runEach input ps (first + 1) stop).answer?.map
        (Except.map fun (stop, values) => (stop, a :: values)) :=
  answer?_runEach_ok h rfl first

theorem answer?_steps_failed {e : Failure} {cursor : Nat} {flag : Bool}
    (h : (p.execute input start).answer? = some ⟨cursor, .error e, flag⟩) :
    ((p :: ps).mapM Rule.step input start).answer? = some (start, .error e) := by
  rw [List.mapM_cons, Rule.answer?_bind, Rule.answer?_step, h]
  rfl

theorem answer?_steps_matched {a : α} {stop : Nat} {flag : Bool}
    (h : (p.execute input start).answer? = some ⟨stop, .ok a, flag⟩) :
    ((p :: ps).mapM Rule.step input start).answer? =
      (ps.mapM Rule.step input stop).answer?.map fun ending =>
        (ending.1, ending.2.map (a :: ·)) := by
  rw [List.mapM_cons, Rule.answer?_bind, Rule.answer?_step, h]
  show Run.answer? ((ps.mapM Rule.step >>= fun values => pure (a :: values)) input stop) = _
  rw [Rule.answer?_bind, Option.map_eq_bind]
  congr 1
  funext ending
  obtain ⟨stop, e | values⟩ := ending <;> rfl

/-- A chain of parsers and the ending of a rule that runs them: they have come to the same place with the
same values, or to the failure of the same parser; the rule is then where the parsers before it have
ended. -/
inductive Stepped (input : Input) (ps : List (Parser α)) (first start : Nat) :
    Chain α → Nat × Except Failure (List α) → Prop
  | done (stop : Nat) (values : List α) :
      Stepped input ps first start (.ok (stop, values)) (stop, .ok values)
  | stopped {k stop : Nat} {values : List α} {e : Failure} (hk : k < ps.length)
      (h : (runEach input (ps.take k) first start).answer? = some (.ok (stop, values))) :
      Stepped input ps first start (.error (first + k, e)) (stop, .error e)

/-- Parsers whose values are kept come to the same in a chain as in a rule. -/
theorem stepped (hp : ∀ p ∈ ps, p.Unsuppressed input) (first start : Nat) :
    Option.Rel (Stepped input ps first start) (runEach input ps first start).answer?
      (ps.mapM Rule.step input start).answer? := by
  induction ps generalizing first start with
  | nil => exact .some (.done start [])
  | cons p ps ih =>
    obtain ⟨hp, hps⟩ := List.forall_mem_cons.1 hp
    cases hr : (p.execute input start).answer? with
    | none =>
      rw [runEach, List.mapM_cons, Run.answer?_bind, Rule.answer?_bind, Rule.answer?_step, hr]
      exact .none
    | some r =>
      obtain ⟨cursor, e | a, flag⟩ := r
      · rw [answer?_runEach_failed hr, answer?_steps_failed hr]
        exact .some (.stopped (k := 0) (by simp) rfl)
      · have hflag : flag = false := hp start ⟨cursor, a, flag⟩ (by rw [Run.found, hr]; rfl)
        subst hflag
        rw [answer?_runEach_matched hr, answer?_steps_matched hr]
        generalize hc : (runEach input ps (first + 1) cursor).answer? = chain,
          (ps.mapM Rule.step input cursor).answer? = ending, ih hps (first + 1) cursor = h
        cases h with
        | none => exact .none
        | some h =>
          cases h with
          | done stop values => exact .some (.done stop (a :: values))
          | @stopped k stop values e hk hfront =>
            have hk' : k + 1 < (p :: ps).length := Nat.succ_lt_succ hk
            have hfront' : (runEach input ((p :: ps).take (k + 1)) first start).answer? =
                some (.ok (stop, a :: values)) := by
              rw [List.take_succ_cons, answer?_runEach_matched hr, hfront]
              rfl
            have h := Stepped.stopped (e := e) hk' hfront'
            rw [show first + (k + 1) = first + 1 + k by omega] at h
            exact .some h

end Parser

open Triparse.Parser (runEach stepped answer?_sequence)

/-- **A rule that takes its steps one by one agrees with the sequence of the same parsers**, if no value
is left out. It answers whenever the sequence does, and succeeds in the same states, with the same values
at the same cursor. Where the sequence says that its part `k` has failed, the rule fails too, at the start,
with what that part has said: as it was, if the parts before it have moved the cursor, and else moved to
the start. -/
theorem rule_of_steps {ps : List (Parser α)} {s : State β} {b : β} (hs : s.outcome = .ok b)
    (hp : ∀ p ∈ ps, p.Unsuppressed s.input) :
    let rule := ((Parser.ofRule (ps.mapM Rule.step)).apply s).answer?
    let sequence := fun ps : List (Parser α) => ((Parser.sequence ps).apply s).answer?
    (rule = none ↔ sequence ps = none) ∧
      (∀ t values, t.outcome = .ok values → (rule = some t ↔ sequence ps = some t)) ∧
      ∀ t e, sequence ps = some t → t.outcome = .error e →
        ∃ k inner stop values, k < ps.length ∧ e = .within "sequence" k inner ∧
          sequence (ps.take k) = some (s.succeed stop values) ∧
          rule = some (s.fail (if stop = s.cursor then inner.moveTo s.cursor else inner)) := by
  intro rule sequence
  have hrule : rule = (ps.mapM Rule.step s.input s.cursor).answer?.map fun ending =>
      ⟨Rule.reply s.cursor ending, s.input⟩ := by
    dsimp only [rule]
    rw [Parser.answer?_apply_of_ok _ hs, Rule.answer?_ofRule, Option.map_map]
    rfl
  have hsequence (qs : List (Parser α)) : sequence qs =
      (runEach s.input qs 0 s.cursor).answer?.map fun chain =>
        ⟨chain.reply s.cursor, s.input⟩ := by
    dsimp only [sequence]
    rw [Parser.answer?_apply_of_ok _ hs, answer?_sequence, Option.map_map]
    rfl
  rw [hrule, hsequence]
  generalize hc : (runEach s.input ps 0 s.cursor).answer? = chain,
    (ps.mapM Rule.step s.input s.cursor).answer? = ending, stepped hp 0 s.cursor = h
  cases h with
  | none => exact ⟨Iff.rfl, fun _ _ _ => Iff.rfl, fun _ _ h => nomatch h⟩
  | some h =>
    cases h with
    | done stop values =>
      refine ⟨by simp, fun _ _ _ => Iff.rfl, ?_⟩
      rintro _ e ⟨⟩ he
      cases he
    | @stopped k stop values e hk hfront =>
      refine ⟨by simp, ?_, ?_⟩
      · -- Neither of the two is a success.
        intro t values' ht
        constructor
        · rintro ⟨⟩
          cases ht
        · rintro ⟨⟩
          cases ht
      · rintro _ _ ⟨⟩ ⟨⟩
        refine ⟨k, e, stop, values, hk, ?_, ?_, rfl⟩
        · rw [Nat.zero_add]
        · rw [hsequence, hfront]
          rfl

theorem Parser.Unsuppressed.skipLeft (p : Parser α) (q : Parser β) (input : Input) :
    (p.skipLeft q).Unsuppressed input := by
  intro cursor m h
  rw [found_skipLeft, Option.bind_eq_some_iff] at h
  obtain ⟨_ | gap, -, h⟩ := h
  · cases h
  · obtain ⟨found, -, hm⟩ := Option.map_eq_some_iff.1 h
    obtain ⟨m', -, rfl⟩ := Option.map_eq_some_iff.1 hm
    rfl

/-- The second of two items breaks off in its middle: the rule says so where it has found it; begun at
that item, it says so at its start. -/
theorem rule_of_steps_of_items :
    let item := (Parser.character 'a').skipLeft (Parser.character 'b')
    let s := State.start ⟨.characters ['a', 'b', 'a', 'x'], {}⟩
    let rule := fun ps : List (Parser Char) => Parser.ofRule (ps.mapM Rule.step)
    ((rule [item, item]).apply s).answer? =
        some (s.fail (.noMatch "character" 3 "character 'b'" "\"x\"")) ∧
      ((rule [item]).apply (s.atCursor 2)).answer? =
        some ((s.atCursor 2).fail (.noMatch "character" 2 "character 'b'" "\"x\"")) := by
  intro item s rule
  have hitem : item.Unsuppressed s.input := .skipLeft _ _ _
  constructor
  · obtain ⟨k, inner, stop, values, -, he, hfront, hrule⟩ :=
      (rule_of_steps (s := s) rfl (List.forall_mem_cons.2 ⟨hitem, List.forall_mem_singleton.2 hitem⟩)).2.2
        _ _ rfl rfl
    cases he
    cases hfront
    exact hrule
  · obtain ⟨k, inner, stop, values, -, he, hfront, hrule⟩ :=
      (rule_of_steps (s := s.atCursor 2) rfl (List.forall_mem_singleton.2 hitem)).2.2 _ _ rfl rfl
    cases he
    cases hfront
    exact hrule

/-! ## The rules of grammars -/

/-- The steps of a rule that are all steps of grammars are steps of the parsers that the grammars are. -/
theorem Stmt.runAll_steps (bound : Nat) (scope : Scope) (a : Address) (gs : List Grammar)
    (index : Nat) :
    Stmt.runAll bound (gs.map .step) scope a index =
      ((gs.zipIdx index).map fun (g, i) => g.parser bound scope (0 :: i :: a)).mapM Rule.step >>=
        fun values => pure { values := values } := by
  induction gs generalizing index with
  | nil => rfl
  | cons g gs ih =>
    rw [List.map_cons, Stmt.runAll, Stmt.interpretAll, ← Stmt.runAll, ih, Stmt.interpret, Rule.andThen, List.zipIdx_cons,
      List.map_cons, List.mapM_cons]
    simp only [Rule.collect, Rule.bind_assoc, Rule.pure_bind, Bool.false_eq_true, if_false,
      List.singleton_append]

/-- **A rule of a grammar that has steps alone is the rule of the steps of their parsers.** -/
theorem Grammar.parser_rule_steps (bound : Nat) (scope : Scope) (a : Address) (gs : List Grammar) :
    (Grammar.rule (gs.map .step)).parser bound scope a =
      (Parser.ofRule (((gs.zipIdx 0).map fun (g, i) =>
        g.parser bound scope (0 :: i :: a)).mapM Rule.step)).map .list := by
  rw [Grammar.parser, Grammar.interpret, ← Stmt.runAll, Stmt.runAll_steps, Rule.bind_assoc]
  simp only [Rule.pure_bind, bind_pure]

end Triparse
