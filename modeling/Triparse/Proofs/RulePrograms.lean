import Mathlib.Tactic.Choose
import Triparse.Grammar.Meaning
import Triparse.Proofs.StepByStep

/-!
# What a rule does, call by call

The body of a rule is a program: it calls parsers by `step` and `attempt`, makes failures by `reject`,
and goes on with what the calls have come to (`Program`). The only thing that changes on the way is the
position, and it is known from the calls alone: it is the end of the last match (`Call.captured`).
`Program.Reaches` says in these terms which calls a program makes, and what is left of it after them.

`rule_follows_calls` is what this comes to: a rule that is broken off after some calls is at the position
that they have captured, and the parser that follows the rule answers by the calls of the whole body.
Whatever is done after some calls is done from that position on (`Reaches.interrupt`); both halves are
instances of it. Rules of grammars are such programs if they have no loops and do not look at where they
are (`Grammar.rule_programmed`).
-/

set_option autoImplicit false

namespace Triparse

variable {α β : Type}

/-! ## Programs -/

/-- The body of a rule, as a finite program. -/
inductive Program (α : Type) : Type 1 where
  /-- Return a value, or the failure that the rule is abandoned with. -/
  | done (outcome : Except Failure α)
  /-- Run a parser, and go on with its value or its failure. -/
  | step {β : Type} (p : Parser β) (next : Except Failure β → Program α)
  /-- Run a parser, and go on with its value, if it has one. -/
  | attempt {β : Type} (p : Parser β) (next : Option β → Program α)
  /-- Make a failure with a message, and go on with it. -/
  | reject (message : String) (next : Failure → Program α)

namespace Program

/-- The rule with a program for its body. -/
def rule : Program α → Rule α
  | done (.ok a) => pure a
  | done (.error e) => Rule.abort e
  | step p next => do
    let outcome ← Rule.trial p
    (next outcome).rule
  | attempt p next => do
    let found ← Rule.attempt p
    (next found).rule
  | reject message next => do
    let n ← Rule.position
    (next (.rejected "coroutine" n message)).rule

/-- The first `count` calls of a program, or all if there are fewer, and then `rest` of what is left
of it. -/
def interrupt (rest : Program α → Rule β) : Nat → Program α → Rule β
  | 0, x => rest x
  | _ + 1, done outcome => rest (done outcome)
  | count + 1, step p next => do
    let outcome ← Rule.trial p
    interrupt rest count (next outcome)
  | count + 1, attempt p next => do
    let found ← Rule.attempt p
    interrupt rest count (next found)
  | count + 1, reject message next => do
    let n ← Rule.position
    interrupt rest count (next (.rejected "coroutine" n message))

/-- To go on with the body is not to interrupt it. -/
theorem interrupt_rule : ∀ (count : Nat) (x : Program α), x.interrupt rule count = x.rule
  | 0, _ => rfl
  | _ + 1, done _ => rfl
  | count + 1, step _ next => bind_congr fun outcome => interrupt_rule count (next outcome)
  | count + 1, attempt _ next => bind_congr fun found => interrupt_rule count (next found)
  | count + 1, reject _ next => bind_congr fun _ => interrupt_rule count (next _)

/-- One more call, as the last one. -/
theorem interrupt_succ (rest : Program α → Rule β) :
    ∀ (count : Nat) (x : Program α),
      x.interrupt rest (count + 1) = x.interrupt (interrupt rest 1) count
  | 0, _ => rfl
  | _ + 1, done _ => rfl
  | count + 1, step _ next => bind_congr fun outcome => interrupt_succ rest count (next outcome)
  | count + 1, attempt _ next => bind_congr fun found => interrupt_succ rest count (next found)
  | count + 1, reject _ next => bind_congr fun _ => interrupt_succ rest count (next _)

end Program

/-! ## Calls -/

/-- What a call of a program has come to. -/
inductive Call where
  /-- The parser has matched up to `stop`. -/
  | matched (stop : Nat)
  /-- The parser has failed. -/
  | failed (failure : Failure)
  /-- The failure has been made. -/
  | rejected (failure : Failure)

namespace Call

/-- The call of a parser that has given a reply. -/
def ofReply (r : Reply α) : Call :=
  match r.outcome with
  | .ok _ => matched r.cursor
  | .error e => failed e

/-- The end of a match. -/
def stop? : Call → Option Nat
  | matched stop => some stop
  | failed _ | rejected _ => none

/-- The position that calls have captured: the end of the last match, or the start if there is none. -/
def captured (start : Nat) (calls : List Call) : Nat := (calls.filterMap stop?).getLast?.getD start

theorem captured_concat_ofReply (start : Nat) (calls : List Call) (r : Reply α) :
    captured start (calls ++ [ofReply r]) = r.positionFrom (captured start calls) := by
  obtain ⟨stop, e | a, flag⟩ := r
  · simp [captured, ofReply, stop?, Reply.positionFrom]
  · simp [captured, ofReply, stop?, Reply.positionFrom]

theorem captured_concat_rejected (start : Nat) (calls : List Call) (e : Failure) :
    captured start (calls ++ [rejected e]) = captured start calls := by
  simp [captured, stop?]

end Call

open Call (captured)

/-- After the calls, begun at `start`, the program `y` is left of `x`. Each parser is run from the position
that the calls before it have captured, and a failure that is made there is about that position. -/
inductive Program.Reaches (input : Input) (start : Nat) (x : Program α) :
    List Call → Program α → Prop
  | start : Reaches input start x [] x
  | step {β : Type} {p : Parser β} {next : Except Failure β → Program α} {calls : List Call}
      {r : Reply β} (h : Reaches input start x calls (.step p next))
      (hr : (p.execute input (captured start calls)).answer? = some r) :
      Reaches input start x (calls ++ [.ofReply r]) (next r.outcome)
  | attempt {β : Type} {p : Parser β} {next : Option β → Program α} {calls : List Call}
      {r : Reply β} (h : Reaches input start x calls (.attempt p next))
      (hr : (p.execute input (captured start calls)).answer? = some r) :
      Reaches input start x (calls ++ [.ofReply r]) (next r.outcome.toOption)
  | reject {message : String} {next : Failure → Program α} {calls : List Call} {e : Failure}
      (h : Reaches input start x calls (.reject message next))
      (he : e = .rejected "coroutine" (captured start calls) message) :
      Reaches input start x (calls ++ [.rejected e]) (next e)

namespace Program

variable {input : Input} {start : Nat} {x y : Program α} {calls : List Call}

/-- **What is done after some calls is done from the position that they have captured.** -/
theorem Reaches.interrupt (h : x.Reaches input start calls y) (rest : Program α → Rule β) :
    (x.interrupt rest calls.length input start).answer? =
      (rest y input (captured start calls)).answer? := by
  induction h generalizing rest with
  | start => rfl
  | step _ hr ih =>
    rw [List.length_append, List.length_singleton, interrupt_succ, ih, Call.captured_concat_ofReply,
      Program.interrupt, Rule.answer?_bind, Rule.answer?_trial, hr]
    rfl
  | attempt _ hr ih =>
    rw [List.length_append, List.length_singleton, interrupt_succ, ih, Call.captured_concat_ofReply,
      Program.interrupt, Rule.answer?_bind, Rule.answer?_attempt, hr]
    rfl
  | reject _ he ih =>
    rw [List.length_append, List.length_singleton, interrupt_succ, ih,
      Call.captured_concat_rejected, Program.interrupt, Rule.position_bind_apply, he]
    rfl

/-- What is left of a body comes to what the whole body comes to. -/
theorem Reaches.rule (h : x.Reaches input start calls y) :
    (x.rule input start).answer? = (y.rule input (captured start calls)).answer? := by
  rw [← interrupt_rule calls.length x]
  exact h.interrupt Program.rule

theorem answer?_rule_done (outcome : Except Failure α) (input : Input) (n : Nat) :
    ((done outcome).rule input n).answer? = some (n, outcome) := by
  cases outcome <;> rfl

/-- A body that has come to an end has made the calls of one of its branches. -/
theorem Reaches.exists_done {ending : Nat × Except Failure α} (h : x.Reaches input start calls y)
    (hy : (y.rule input (captured start calls)).answer? = some ending) :
    ∃ calls outcome, x.Reaches input start calls (.done outcome) ∧
      ending = (captured start calls, outcome) := by
  induction y generalizing calls with
  | done outcome =>
    rw [answer?_rule_done, Option.some.injEq] at hy
    exact ⟨calls, outcome, h, hy.symm⟩
  | step p next ih =>
    rw [Program.rule, Rule.answer?_bind, Rule.answer?_trial, Option.bind_map,
      Option.bind_eq_some_iff] at hy
    obtain ⟨r, hr, hy⟩ := hy
    refine ih r.outcome (h.step hr) ?_
    rw [Call.captured_concat_ofReply]
    exact hy
  | attempt p next ih =>
    rw [Program.rule, Rule.answer?_bind, Rule.answer?_attempt, Option.bind_map,
      Option.bind_eq_some_iff] at hy
    obtain ⟨r, hr, hy⟩ := hy
    refine ih r.outcome.toOption (h.attempt hr) ?_
    rw [Call.captured_concat_ofReply]
    exact hy
  | reject message next ih =>
    rw [Program.rule, Rule.position_bind_apply] at hy
    refine ih _ (h.reject rfl) ?_
    rw [Call.captured_concat_rejected]
    exact hy

theorem answer?_rule_eq_some {ending : Nat × Except Failure α} :
    (x.rule input start).answer? = some ending ↔
      ∃ calls outcome, x.Reaches input start calls (.done outcome) ∧
        ending = (captured start calls, outcome) := by
  constructor
  · exact fun h => Reaches.start.exists_done h
  · rintro ⟨calls, outcome, h, rfl⟩
    rw [h.rule, answer?_rule_done]

/-! ## Attempts -/

/-- `y` is `x` with attempts of parsers that accept the shape, some or none, made steps of the optional
parsers. -/
inductive OptionalSteps (m : Modality) : Program α → Program α → Prop
  | done (outcome : Except Failure α) : OptionalSteps m (.done outcome) (.done outcome)
  | step {β : Type} (p : Parser β) {next next' : Except Failure β → Program α}
      (h : ∀ outcome, OptionalSteps m (next outcome) (next' outcome)) :
      OptionalSteps m (.step p next) (.step p next')
  | attempt {β : Type} (p : Parser β) {next next' : Option β → Program α}
      (h : ∀ found, OptionalSteps m (next found) (next' found)) :
      OptionalSteps m (.attempt p next) (.attempt p next')
  | reject (message : String) {next next' : Failure → Program α}
      (h : ∀ e, OptionalSteps m (next e) (next' e)) :
      OptionalSteps m (.reject message next) (.reject message next')
  | optional {β : Type} {p : Parser β} (hp : m ∈ p.accepts) {next : Option β → Program α}
      {next' : Except Failure (Option β) → Program α}
      (h : ∀ found, OptionalSteps m (next found) (next' (.ok found))) :
      OptionalSteps m (.attempt p next) (.step p.maybe next')

end Program

/-- A step of an optional parser is an attempt of the parser. -/
theorem Rule.trial_maybe {p : Parser α} {input : Input} (hp : input.modality ∈ p.accepts) (n : Nat) :
    trial p.maybe input n = (attempt p >>= fun found => pure (.ok found)) input n := by
  have hp' : input.modality ∈ p.maybe.accepts := hp
  rw [bind_apply, attempt, bind_apply, trial, trial, Parser.execute_of_mem hp', Parser.maybe]
  simp only [LawfulMonad.bind_assoc]
  refine bind_congr fun r => ?_
  obtain ⟨stop, e | a, flag⟩ := r <;> rfl

theorem Rule.execute_ofRule_congr {x y : Rule α} {input : Input} (h : x input = y input) (n : Nat) :
    (Parser.ofRule x).execute input n = (Parser.ofRule y).execute input n := by
  have hm (z : Rule α) : input.modality ∈ (Parser.ofRule z).accepts := Modalities.mem_univ _
  rw [Parser.execute_of_mem (hm x), Parser.execute_of_mem (hm y)]
  show (x input n >>= _) = (y input n >>= _)
  rw [h]

theorem Program.OptionalSteps.rule_eq {input : Input} {x y : Program α}
    (h : x.OptionalSteps input.modality y) (n : Nat) : y.rule input n = x.rule input n := by
  induction h generalizing n with
  | done => rfl
  | step p _ ih =>
    rw [rule, rule, Rule.bind_apply, Rule.bind_apply]
    refine bind_congr fun ending => ?_
    obtain ⟨stop, e | outcome⟩ := ending
    · rfl
    · exact ih outcome stop
  | attempt p _ ih =>
    rw [rule, rule, Rule.bind_apply, Rule.bind_apply]
    refine bind_congr fun ending => ?_
    obtain ⟨stop, e | found⟩ := ending
    · rfl
    · exact ih found stop
  | reject message _ ih =>
    rw [rule, rule, Rule.position_bind_apply, Rule.position_bind_apply]
    exact ih _ n
  | optional hp _ ih =>
    rw [rule, rule, Rule.bind_apply, Rule.bind_apply, Rule.trial_maybe hp, Rule.bind_apply,
      LawfulMonad.bind_assoc]
    refine bind_congr fun ending => ?_
    obtain ⟨stop, e | found⟩ := ending
    · rfl
    · exact (LawfulMonad.pure_bind _ _).trans (ih found stop)

open Program (answer?_rule_eq_some)

/-- **A rule is where its calls have brought it.** After each beginning of its calls, the position is the
end of the last match, or the start if there is none. The rule answers when its body has come to an end: a
value is the parser's, without a mark, at the position; a failure is the parser's at the start, and is moved
there if the position is the start. To make an attempt a step of the optional parser changes nothing on input
that the parser accepts. -/
theorem rule_follows_calls (x : Program α) {s : State β} {b : β} (hs : s.outcome = .ok b) :
    (∀ calls y, x.Reaches s.input s.cursor calls y →
      (x.interrupt (fun _ => Rule.position) calls.length s.input s.cursor).answer? =
        some (captured s.cursor calls, .ok (captured s.cursor calls))) ∧
    (∀ t, ((Parser.ofRule x.rule).apply s).answer? = some t ↔
      ∃ calls outcome, x.Reaches s.input s.cursor calls (.done outcome) ∧
        t = match outcome with
          | .ok a => s.succeed (captured s.cursor calls) a
          | .error e =>
            s.fail (if captured s.cursor calls = s.cursor then e.moveTo s.cursor else e)) ∧
    ∀ y, x.OptionalSteps s.input.modality y →
      (Parser.ofRule y.rule).apply s = (Parser.ofRule x.rule).apply s := by
  refine ⟨fun calls y h => h.interrupt _, fun t => ?_, fun y h => ?_⟩
  · rw [Parser.answer?_apply_of_ok _ hs, Rule.answer?_ofRule, Option.map_map, Option.map_eq_some_iff]
    constructor
    · rintro ⟨ending, hx, rfl⟩
      obtain ⟨calls, outcome, h, rfl⟩ := answer?_rule_eq_some.1 hx
      refine ⟨calls, outcome, h, ?_⟩
      cases outcome <;> rfl
    · rintro ⟨calls, outcome, h, rfl⟩
      refine ⟨_, answer?_rule_eq_some.2 ⟨calls, outcome, h, rfl⟩, ?_⟩
      cases outcome <;> rfl
  · rw [Parser.apply_of_ok _ hs, Parser.apply_of_ok _ hs,
      Rule.execute_ofRule_congr (funext h.rule_eq)]

/-- An item is tried in vain, its first character is taken, and the rest is refused where it stands. -/
theorem rule_follows_calls_of_item :
    let a := Parser.character 'a'
    let item := a.skipLeft (Parser.character 'b')
    let refuse : Program Char := .reject "no item" fun e => .done (.error e)
    let body : Program Char := .attempt item fun _ => .step a fun _ => refuse
    let optional : Program Char := .step item.maybe fun _ => .step a fun _ => refuse
    let s := State.start ⟨.characters ['a', 'x'], {}⟩
    let reply := some (s.fail (.rejected "coroutine" 1 "no item"))
    (body.interrupt (fun _ => Rule.position) 1 s.input s.cursor).answer? = some (0, .ok 0) ∧
      ((Parser.ofRule body.rule).apply s).answer? = reply ∧
      ((Parser.ofRule optional.rule).apply s).answer? = reply := by
  intro a item refuse body optional s reply
  have h := rule_follows_calls body (s := s) rfl
  have hbegun : body.Reaches s.input s.cursor [] body := .start
  have htried := hbegun.attempt rfl
  have hbody : ((Parser.ofRule body.rule).apply s).answer? = reply :=
    (h.2.1 _).2 ⟨_, _, (htried.step rfl).reject rfl, rfl⟩
  have hoptional : body.OptionalSteps s.input.modality optional := by
    refine .optional (by decide) fun _ => .step a fun _ => .reject "no item" fun e => ?_
    exact .done (.error e)
  refine ⟨h.1 _ _ htried, hbody, ?_⟩
  rw [h.2.2 optional hoptional, hbody]

/-! ## The rules of grammars -/

namespace Program

/-- A program after another. -/
def bind : Program α → (α → Program β) → Program β
  | done (.ok a), f => f a
  | done (.error e), _ => done (.error e)
  | step p next, f => step p fun outcome => (next outcome).bind f
  | attempt p next, f => attempt p fun found => (next found).bind f
  | reject message next, f => reject message fun e => (next e).bind f

theorem rule_bind (f : α → Program β) :
    ∀ x : Program α, (x.bind f).rule = x.rule >>= fun a => (f a).rule
  | done (.ok a) => (Rule.pure_bind a fun a => (f a).rule).symm
  | done (.error e) => rfl
  | step p next => by
    rw [rule, Rule.bind_assoc]
    exact bind_congr fun outcome => rule_bind f (next outcome)
  | attempt p next => by
    rw [rule, Rule.bind_assoc]
    exact bind_congr fun found => rule_bind f (next found)
  | reject message next => by
    rw [rule, Rule.bind_assoc]
    exact bind_congr fun _ => rule_bind f (next _)

end Program

/-- The rule has a program for its body. -/
def RuleT.Programmed (x : Rule α) : Prop := ∃ program : Program α, program.rule = x

namespace RuleT.Programmed

theorem pure (a : α) : (pure a : Rule α).Programmed := ⟨.done (.ok a), rfl⟩

theorem abort (e : Failure) : (Rule.abort e : Rule α).Programmed := ⟨.done (.error e), rfl⟩

theorem reject (message : String) : (Rule.reject message : Rule α).Programmed := by
  refine ⟨.reject message fun e => .done (.error e), ?_⟩
  funext input n
  exact Rule.position_bind_apply _ input n

theorem bind {x : Rule α} {f : α → Rule β} (hx : x.Programmed) (hf : ∀ a, (f a).Programmed) :
    (x >>= f).Programmed := by
  obtain ⟨program, rfl⟩ := hx
  choose next hnext using hf
  refine ⟨program.bind next, ?_⟩
  rw [Program.rule_bind]
  exact bind_congr hnext

theorem trial (p : Parser α) : (Rule.trial p).Programmed :=
  ⟨.step p fun outcome => .done (.ok outcome), bind_pure (Rule.trial p)⟩

theorem attempt (p : Parser α) : (Rule.attempt p).Programmed :=
  ⟨.attempt p fun found => .done (.ok found), bind_pure (Rule.attempt p)⟩

theorem step (p : Parser α) : (Rule.step p).Programmed := by
  refine (trial p).bind fun outcome => ?_
  cases outcome with
  | ok a => exact pure a
  | error e => exact abort e

theorem andThen {x y : Rule Rule.Progress} (hx : x.Programmed) (hy : y.Programmed) :
    (Rule.andThen x y).Programmed := by
  refine hx.bind fun before => ?_
  split
  · exact pure before
  · exact hy.bind fun _ => pure _

end RuleT.Programmed

namespace Stmt

mutual

/-- Whether a step of a rule, with the steps in it, does no more than call parsers and make failures: it
does not loop, and does not look at where it is. -/
def callsOnly : Stmt → Bool
  | .position | .atEnd | .remaining | .snippet | .loop .. => false
  | .when _ matched failed => callsOnlyAll matched && callsOnlyAll failed
  | .step _ | .limited .. | .attempt _ | .recover _ | .reject _ | .raise _ | .finish => true

/-- Whether steps of a rule do no more than call parsers and make failures. -/
def callsOnlyAll : List Stmt → Bool
  | [] => true
  | s :: ss => s.callsOnly && callsOnlyAll ss

end

mutual

theorem run_programmed (bound : Nat) (scope : Scope) :
    ∀ {s : Stmt}, s.callsOnly = true → ∀ a, (s.run bound scope a).Programmed
  | .step _, _, _ => (RuleT.Programmed.step _).bind fun _ => .pure _
  | .limited _ limit message, _, _ => by
    refine (RuleT.Programmed.step _).bind fun v => ?_
    split
    · exact .reject message
    · exact .pure _
  | .attempt _, _, _ => (RuleT.Programmed.attempt _).bind fun _ => .pure _
  | .recover _, _, _ => by
    refine (RuleT.Programmed.trial _).bind fun outcome => ?_
    cases outcome with
    | ok v => exact .pure _
    | error e => exact .pure _
  | .reject message, _, _ => .reject message
  | .raise e, _, _ => .abort e
  | .finish, _, _ => .pure _
  | .when _ matched failed, h, _ => by
    rw [callsOnly, Bool.and_eq_true] at h
    refine (RuleT.Programmed.attempt _).bind fun found => ?_
    cases found with
    | some v => exact .andThen (.pure _) (runAll_programmed bound scope h.1 _ 0)
    | none => exact runAll_programmed bound scope h.2 _ 0

theorem runAll_programmed (bound : Nat) (scope : Scope) :
    ∀ {ss : List Stmt}, callsOnlyAll ss = true → ∀ a index,
      (runAll bound ss scope a index).Programmed
  | [], _, _, _ => .pure _
  | s :: ss, h, a, index => by
    rw [callsOnlyAll, Bool.and_eq_true] at h
    exact .andThen (run_programmed bound scope h.1 _) (runAll_programmed bound scope h.2 a _)

end

end Stmt

/-- **A rule of a grammar that only calls parsers and makes failures follows a program.** -/
theorem Grammar.rule_programmed {body : List Stmt} (h : Stmt.callsOnlyAll body = true) (bound : Nat)
    (scope : Scope) (a : Address) :
    ∃ x : Program (List Value),
      (Grammar.rule body).parser bound scope a = (Parser.ofRule x.rule).map .list := by
  obtain ⟨x, hx⟩ := (Stmt.runAll_programmed bound scope h a 0).bind fun progress =>
    RuleT.Programmed.pure progress.values
  refine ⟨x, ?_⟩
  rw [hx]
  rfl

end Triparse
