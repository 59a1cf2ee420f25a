import Triparse.Parser.Sequence

/-!
# Regrouping pairs

Parsers that are put together in pairs, of which one value or both are kept, can be grouped either way
(`pairs_regroup`). A pair that is a part of another is run part by part, as if it were not there
(`part_seq`): wherever it puts a failure, the outer pair puts it at its own start. For the same reason it
does not matter for anything else what is kept of its values (`part_map`).
-/

set_option autoImplicit false

namespace Triparse

variable {α β γ δ : Type}

namespace Parser

/-! ## Parts of a pair -/

/-- Run a parser as a part: go on with its failure, wherever it stands, or with its match. -/
def part (p : Parser α) (input : Input) (failed : Failure → Run γ) (next : Nat → α → Run γ)
    (cursor : Nat) : Run γ := do
  let reply ← p.execute input cursor
  match reply.outcome with
  | .error e => failed e
  | .ok a => next reply.cursor a

theorem part_bind (p : Parser α) (input : Input) (failed : Failure → Run γ)
    (next : Nat → α → Run γ) (k : γ → Run δ) (cursor : Nat) :
    p.part input failed next cursor >>= k =
      p.part input (fun e => failed e >>= k) (fun stop a => next stop a >>= k) cursor := by
  rw [part, part, bind_assoc]
  refine bind_congr fun reply => ?_
  obtain ⟨stop, e | a, flag⟩ := reply <;> rfl

/-- A pair is its parts, one after the other. -/
theorem execute_seq (p : Parser α) (q : Parser β) (input : Input) (start : Nat) :
    (p.seq q).execute input start =
      let failed := fun e => pure (.fail start e)
      p.part input failed (fun middle a =>
        q.part input failed (fun stop b => pure (.succeed stop (a, b))) middle) start :=
  execute_ofFunction _ input start

/-- A pair as a part goes on after its second part, and fails with the first of its parts that fails. -/
theorem part_seq (p : Parser α) (q : Parser β) (input : Input) (failed : Failure → Run γ)
    (next : Nat → α × β → Run γ) (cursor : Nat) :
    (p.seq q).part input failed next cursor =
      p.part input failed (fun middle a =>
        q.part input failed (fun stop b => next stop (a, b)) middle) cursor := by
  rw [part, execute_seq]
  simp only [part_bind, pure_bind]
  rfl

/-- What is made of the value of a part shows only in what follows. -/
theorem part_map (p : Parser α) (f : α → β) (input : Input) (failed : Failure → Run γ)
    (next : Nat → β → Run γ) (cursor : Nat) :
    (p.map f).part input failed next cursor =
      p.part input failed (fun stop a => next stop (f a)) cursor := by
  -- What changes a value looks at the shape of the input once more: a refusal comes from it, not from `p`.
  by_cases hm : input.modality ∈ p.accepts
  · have hm' : input.modality ∈ (p.map f).accepts := hm
    rw [part, part, execute_of_mem hm', map, mapReply, bind_assoc]
    refine bind_congr fun reply => ?_
    obtain ⟨stop, e | a, flag⟩ := reply <;> exact pure_bind _ _
  · have hm' : input.modality ∉ (p.map f).accepts := hm
    rw [part, part, execute_of_not_mem hm', execute_of_not_mem hm]
    rfl

/-- A pair of which `f` is kept is its parts, one after the other. -/
theorem map_seq (p : Parser α) (q : Parser β) (f : α × β → γ) :
    (p.seq q).map f = ofFunction fun input start =>
      let failed := fun e => pure (.fail start e)
      p.part input failed (fun middle a =>
        q.part input failed (fun stop b => pure (.succeed stop (f (a, b)))) middle) start := by
  refine congrArg ofFunction (funext fun input => funext fun start => ?_)
  rw [execute_seq]
  simp only [part_bind, pure_bind]
  rfl

theorem skip_eq (p : Parser α) (q : Parser β) :
    p.skip q = ofFunction fun input start =>
      let failed := fun e => pure (.fail start e)
      p.part input failed (fun middle a =>
        q.part input failed (fun stop _ => pure (.succeed stop a)) middle) start :=
  map_seq p q Prod.fst

theorem skipLeft_eq (p : Parser α) (q : Parser β) :
    p.skipLeft q = ofFunction fun input start =>
      let failed := fun e => pure (.fail start e)
      p.part input failed (fun middle _ =>
        q.part input failed (fun stop b => pure (.succeed stop b)) middle) start :=
  map_seq p q Prod.snd

section
variable (p : Parser α) (q : Parser β) (input : Input) (failed : Failure → Run γ) (cursor : Nat)

theorem part_skip (next : Nat → α → Run γ) :
    (p.skip q).part input failed next cursor =
      p.part input failed (fun middle a =>
        q.part input failed (fun stop _ => next stop a) middle) cursor := by
  rw [skip, part_map, part_seq]

theorem part_skipLeft (next : Nat → β → Run γ) :
    (p.skipLeft q).part input failed next cursor =
      p.part input failed (fun middle _ => q.part input failed next middle) cursor := by
  rw [skipLeft, part_map, part_seq]

end

end Parser

open Triparse.Parser (between part_bind part_seq part_skip part_skipLeft execute_seq)

/-! ## Three parts -/

section
variable (p : Parser α) (q : Parser β) (r : Parser γ)

theorem Parser.skipLeft_skip : (p.skipLeft q).skip r = p.skipLeft (q.skip r) := by
  rw [skip_eq (p.skipLeft q), skipLeft_eq p (q.skip r)]
  simp only [part_skip, part_skipLeft]

theorem Parser.skipLeft_skipLeft : (p.skipLeft q).skipLeft r = p.skipLeft (q.skipLeft r) := by
  rw [skipLeft_eq (p.skipLeft q), skipLeft_eq p (q.skipLeft r)]
  simp only [part_skipLeft]

theorem Parser.skip_skip : (p.skip q).skip r = p.skip (q.skipLeft r) := by
  rw [skip_eq (p.skip q), skip_eq p (q.skipLeft r)]
  simp only [part_skip, part_skipLeft]

end

/-- The values of three parts in the other grouping. -/
def regroup (abc : α × β × γ) : (α × β) × γ := ((abc.1, abc.2.1), abc.2.2)

theorem Parser.execute_seq_seq (p : Parser α) (q : Parser β) (r : Parser γ) (input : Input)
    (start : Nat) : ((p.seq q).seq r).execute input start =
      Reply.map regroup <$> (p.seq (q.seq r)).execute input start := by
  rw [execute_seq, execute_seq]
  simp only [part_seq, map_eq_pure_bind, part_bind, pure_bind]
  rfl

theorem Parser.apply_seq_seq (p : Parser α) (q : Parser β) (r : Parser γ) (s : State δ) :
    ((p.seq q).seq r).apply s = State.map regroup <$> (p.seq (q.seq r)).apply s := by
  cases hs : s.outcome with
  | error e =>
    rw [apply, apply, hs]
    rfl
  | ok d =>
    rw [apply_of_ok _ hs, apply_of_ok _ hs, execute_seq_seq, map_bind, bind_map_left]
    rfl

/-- **It does not matter how parts are grouped.** Where one value is kept of three, the two ways to put the
parts together in pairs are the same parser: they have the same descriptors and come, on every state, to
the same state, with the same events on the way. So a value between two parts may be read either way. Where
all three values are kept, they are the same but for the grouping of the values. -/
theorem pairs_regroup (before : Parser α) (after : Parser β) (value : Parser γ) :
    (before.skipLeft value).skip after = before.skipLeft (value.skip after) ∧
    between before after value = before.skipLeft (value.skip after) ∧
    (before.skipLeft after).skipLeft value = before.skipLeft (after.skipLeft value) ∧
    (value.skip before).skip after = value.skip (before.skipLeft after) ∧
    let left := (before.seq after).seq value
    let right := before.seq (after.seq value)
    (left.name = right.name ∧ left.expected = right.expected ∧ left.accepts = right.accepts) ∧
      ∀ {δ : Type} (s : State δ), left.apply s = State.map regroup <$> right.apply s := by
  have hbetween := Parser.skipLeft_skip before value after
  refine ⟨hbetween, hbetween, Parser.skipLeft_skipLeft before after value,
    Parser.skip_skip value before after, ⟨rfl, rfl, rfl⟩, fun s => ?_⟩
  exact Parser.apply_seq_seq before after value s

end Triparse
