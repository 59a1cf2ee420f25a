import Triparse.Proofs.InputShapes
import Triparse.Proofs.OptionalMatches

/-!
# Optional parts and shapes of input

An optional part refuses the shapes of input that its part does not accept, and no others: on input that
the part accepts it never fails, not even where the part refuses what it is given (`maybe_refuses_iff`).
What a part accepts is what it says of itself. A reference to a parser that is not built yet accepts every
shape, whatever the parser accepts, so an optional reference passes over the refusal of what it stands for
(`maybe_hides_refusal`).
-/

set_option autoImplicit false

namespace Triparse

variable {α β : Type}

/-! ## Refusals -/

/-- On every live state over input of the shape, the parser fails with a failure of mismatched input. -/
def Parser.Refuses (p : Parser α) (m : Modality) : Prop :=
  ∀ ⦃β : Type⦄ (s : State β) (b : β), s.outcome = .ok b → s.input.modality = m →
    ∃ t e, (p.apply s).answer? = some t ∧ t.outcome = .error e ∧ e.kind = .badInput

/-- There is input of every shape. -/
theorem Modality.exists_input (m : Modality) : ∃ input : Input, input.modality = m := by
  cases m with
  | characters => exact ⟨⟨.characters [], {}⟩, rfl⟩
  | bytes => exact ⟨⟨.bytes [], {}⟩, rfl⟩
  | tokens => exact ⟨⟨.tokens [], {}⟩, rfl⟩

namespace Parser

variable {p : Parser α} {m : Modality}

/-- A parser refuses what it does not accept, under its own name. -/
theorem answer?_apply_of_not_mem {s : State β} {b : β} (hs : s.outcome = .ok b)
    (hm : s.input.modality ∉ p.accepts) :
    (p.apply s).answer? = some (s.fail (.badInput p.name s.cursor p.accepts s.input.modality)) := by
  rw [p.answer?_apply_of_ok hs, execute_of_not_mem hm]
  rfl

theorem refuses_of_not_mem (hm : m ∉ p.accepts) : p.Refuses m := by
  rintro β s b hs rfl
  exact ⟨_, _, answer?_apply_of_not_mem hs hm, rfl, rfl⟩

/-- A parser whose failures on input that it accepts are of other kinds refuses nothing else. -/
theorem not_mem_of_refuses (hp : p.FailsIn fun e => e.kind ≠ .badInput) (h : p.Refuses m) :
    m ∉ p.accepts := by
  intro hm
  obtain ⟨input, rfl⟩ := m.exists_input
  obtain ⟨t, e, ht, he, hk⟩ := h (State.start input) () rfl rfl
  rw [p.answer?_apply_of_ok (s := State.start input) rfl, Option.map_eq_some_iff] at ht
  obtain ⟨reply, hr, rfl⟩ := ht
  exact (hp.execute_of_mem hm 0).answer hr e he hk

end Parser

/-! ## Optional grammars -/

/-- What an optional grammar makes of the state that its part comes to from `s`: an absent value where it
started if the part has failed, and else the match with its value marked as present. -/
def State.optional (s : State β) (t : State Value) : State Value :=
  match t.outcome with
  | .error _ => s.succeed s.cursor .absent
  | .ok _ => t.map .present

theorem State.outcome_optional (s : State β) (t : State Value) (e : Failure) :
    (s.optional t).outcome ≠ .error e := by
  obtain ⟨⟨stop, d | v, flag⟩, input⟩ := t
  · exact nofun
  · exact nofun

/-- On input that its part accepts, an optional grammar goes as the part does. -/
theorem Grammar.answer?_maybe (g : Grammar) (bound : Nat) (scope : Scope) (address : Address)
    {s : State β} {b : β} (hs : s.outcome = .ok b)
    (hm : s.input.modality ∈ (g.parser bound scope (0 :: address)).accepts) :
    (((Grammar.maybe g).parser bound scope address).apply s).answer? =
      ((g.parser bound scope (0 :: address)).apply s).answer?.map s.optional := by
  rw [Parser.answer?_apply_of_ok _ hs, Parser.answer?_apply_of_ok _ hs, Grammar.parser,
    Grammar.interpret, Parser.map, Parser.answer?_mapReply, Parser.answer?_maybe hm, Run.found, Option.map_map, Option.map_map,
    Option.map_map, Option.map_map]
  congr 1
  funext reply
  obtain ⟨stop, e | v, flag⟩ := reply <;> rfl

/-- **An optional part refuses the shapes that its part does not accept, and no others.** It does so in its
own name, where it started. On input that the part accepts it never fails: where the part fails, with
whatever failure, it succeeds with an absent value. If the part has no sequences, pairs, recursion, taps,
rules and reply mappers in it, the optional part refuses all that the part refuses. -/
theorem maybe_refuses_iff (g : Grammar) (m : Modality) (bound : Nat) (address : Address) :
    let p := g.parser bound [] (0 :: address)
    let optional := (Grammar.maybe g).parser bound [] address
    (optional.Refuses m ↔ m ∉ p.accepts) ∧
      (∀ {β : Type} (s : State β) (b : β), s.outcome = .ok b → s.input.modality = m →
        (m ∉ p.accepts →
          (optional.apply s).answer? = some (s.fail (.badInput "maybe" s.cursor p.accepts m))) ∧
        (m ∈ p.accepts → (optional.apply s).answer? = (p.apply s).answer?.map s.optional)) ∧
      (Fragment.selective.admits g = true → p.Refuses m → optional.Refuses m) := by
  intro p optional
  have hrefuses (hm : m ∉ optional.accepts) : optional.Refuses m := Parser.refuses_of_not_mem hm
  refine ⟨⟨fun h hm => ?_, hrefuses⟩, ?_, fun hg h => ?_⟩
  · obtain ⟨input, rfl⟩ := m.exists_input
    obtain ⟨t, e, ht, he, -⟩ := h (State.start input) () rfl rfl
    rw [g.answer?_maybe bound [] address rfl hm, Option.map_eq_some_iff] at ht
    obtain ⟨u, -, rfl⟩ := ht
    exact State.outcome_optional _ u e he
  · rintro β s b hs rfl
    exact ⟨fun hm => Parser.answer?_apply_of_not_mem hs hm,
      fun hm => g.answer?_maybe bound [] address hs hm⟩
  · have hp : p.FailsIn fun e => e.kind ≠ .badInput :=
      Grammar.failsIn Fragment.selective_failsIn hg (.inr fun _ => nofun) bound _
    have hm : m ∉ p.accepts := Parser.not_mem_of_refuses hp h
    exact hrefuses hm

/-- An optional byte refuses text; on bytes, of which none is left, there is none. -/
theorem maybe_refuses_iff_of_byte :
    let byte := Grammar.primitive (.any .bytes)
    let p := byte.parser 0 [] [0]
    let optional := (Grammar.maybe byte).parser 0 [] []
    let text := State.start ⟨.characters ['a'], {}⟩
    let bytes := State.start ⟨.bytes [], {}⟩
    p.Refuses .characters ∧ optional.Refuses .characters ∧
      (optional.apply text).answer? =
        some (text.fail (.badInput "maybe" 0 (.only .bytes) .characters)) ∧
      (optional.apply bytes).answer? = some (bytes.succeed 0 .absent) := by
  intro byte p optional text bytes
  have hm : Modality.characters ∉ p.accepts := by decide
  have hp : p.Refuses .characters := Parser.refuses_of_not_mem hm
  refine ⟨hp, (maybe_refuses_iff byte .characters 0 []).2.2 rfl hp, ?_, ?_⟩
  · exact ((maybe_refuses_iff byte .characters 0 []).2.1 text () rfl rfl).1 hm
  · rw [((maybe_refuses_iff byte .bytes 0 []).2.1 bytes () rfl rfl).2 (by decide)]
    rfl

/-- A recursive parser accepts every shape before it is built; that of a byte refuses all text, and yet an
optional one finds nothing there instead of refusing it. -/
theorem maybe_hides_refusal :
    let g := Grammar.recursive "byte" false (.primitive (.any .bytes))
    let text := State.start ⟨.characters ['a', 'b', 'c'], {}⟩
    (g.parser 1 [] [0]).Refuses .characters ∧
      (((Grammar.maybe g).parser 1 [] []).apply text).answer? = some (text.succeed 0 .absent) := by
  intro g text
  refine ⟨?_, rfl⟩
  rintro β s b hs hm
  let byte := (Parser.any UInt8).map Value.byte
  have hbyte : s.input.modality ∉ byte.accepts := by
    rw [hm]
    decide
  have hrun : (g.parser 1 [] [0]).execute s.input s.cursor =
      Run.emit (.entered [0] none) >>= fun _ => byte.execute s.input s.cursor :=
    Parser.execute_handle _ _ _
  refine ⟨s.badInput "any" (.only .bytes), _, ?_, rfl, rfl⟩
  rw [Parser.answer?_apply_of_ok _ hs, hrun, Parser.execute_of_not_mem hbyte]
  rfl

end Triparse
