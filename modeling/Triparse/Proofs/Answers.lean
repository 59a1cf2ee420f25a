import Triparse.Parser.Choice
import Triparse.Parser.Mapping
import Triparse.Parser.Recursion
import Triparse.Proofs.RunRules

/-!
# What a parser answers

`p.Answers input L`: started at any cursor of the input, the parser `p` gives only replies that are in
`L` for that cursor. Some combinators hand on the replies of their parts; these keep any law that allows
for input of the wrong shape. Some besides make failures where they have been started; these keep any law
that allows all such failures. What the others need is proved law by law.
-/

set_option autoImplicit false

namespace Triparse

variable {α β : Type}

/-- A parser whose replies, on an input, are in `L` for the cursor it is started at. -/
def Parser.Answers (input : Input) (L : Nat → Reply α → Prop) (p : Parser α) : Prop :=
  ∀ start, (p.execute input start).Yields (L start)

namespace Parser.Answers

open Run (Yields)

variable {input : Input} {L : Nat → Reply α → Prop}

/-- An alternative that fails leaves nothing behind. -/
theorem firstMatch {ps : List (Parser α)} (hps : ∀ p ∈ ps, p.Answers input L) (start : Nat) :
    ∀ index, (firstMatch input start ps index).Yields fun found => ∀ r ∈ found, L start r := by
  induction ps with
  | nil => exact fun _ => .pure nofun
  | cons p ps ih =>
    obtain ⟨hp, hps⟩ := List.forall_mem_cons.1 hps
    intro index
    refine (hp start).bind ?_
    intro reply hr
    obtain ⟨cursor, e | a, flag⟩ := reply
    · exact (Yields.trivial _).bind fun _ _ => ih hps (index + 1)
    · refine .pure ?_
      intro r h
      cases h
      exact hr

section
variable (hB : ∀ start name accepts, L start (.fail start (input.badInput start name accepts)))
include hB

theorem of_parse {p : Parser α}
    (h : ∀ start, input.modality ∈ p.accepts → (p.parse input start).Yields (L start)) :
    p.Answers input L := by
  intro start
  by_cases hm : input.modality ∈ p.accepts
  · rw [execute_of_mem hm]
    exact h start hm
  · rw [execute_of_not_mem hm]
    exact .finished (hB start _ _) _

theorem defined {p : Parser α} (hp : p.Answers input L) : (Parser.defined p).Answers input L :=
  of_parse hB fun start _ => hp start

theorem handle (enter : Run Unit) {p : Parser α} (hp : p.Answers input L) :
    (Parser.handle fun input cursor => do
      enter
      p.execute input cursor).Answers input L :=
  of_parse hB fun start _ => (Yields.trivial enter).bind fun _ _ => hp start

theorem unfinished : (Parser.handle fun _ _ => .unfinished : Parser α).Answers input L :=
  of_parse hB fun _ _ => .unfinished

/-- Each instance of a definition that keeps the law has it, however deep it is unfolded. -/
theorem unfold (enter : Address → Run Unit) {define : (Address → Parser α) → Address → Parser α}
    (hd : ∀ handles, (∀ a, (handles a).Answers input L) → ∀ a, (define handles a).Answers input L)
    (depth : Nat) : ∀ a, (Parser.unfold enter define depth a).Answers input L := by
  induction depth with
  | zero => exact fun _ => unfinished hB
  | succ depth ih => exact fun a => handle hB (enter a) (hd _ ih a)

theorem tap (label : String) {p : Parser α} (hp : p.Answers input L) :
    (ofFunction fun input cursor => do
      Run.emit (.tapped label cursor)
      p.execute input cursor).Answers input L :=
  of_parse hB fun start _ => (Yields.trivial _).bind fun _ _ => hp start

end

section
variable (hL : ∀ start e, L start (.fail start e))
include hL

theorem described {p : Parser α} (hp : p.Answers input L) (name : String) (label : Option String) :
    (p.described name label).Answers input L := by
  refine of_parse (fun _ _ _ => hL _ _) fun start _ => (hp start).bind ?_
  intro reply hr
  obtain ⟨cursor, e | a, flag⟩ := reply
  · exact .pure (hL start _)
  · exact .pure hr

theorem choice {ps : List (Parser α)} (hps : ∀ p ∈ ps, p.Answers input L) :
    (Parser.choice ps).Answers input L := by
  refine of_parse (fun _ _ _ => hL _ _) fun start _ => (firstMatch hps start 0).bind ?_
  intro found hr
  rcases found with _ | r
  · exact .pure (hL start _)
  · exact .pure (hr r rfl)

theorem orphan : (Parser.orphan : Parser α).Answers input L :=
  of_parse (fun _ _ _ => hL _ _) fun start _ => .pure (hL start _)

end

end Parser.Answers

end Triparse
