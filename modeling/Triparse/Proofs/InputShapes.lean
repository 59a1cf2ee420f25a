import Triparse.Proofs.FailureClasses
import Triparse.Proofs.FailureUpdates

/-!
# Input of the wrong shape

A grammar that hands its parts input only of shapes that they accept, or passes over their failures, says
that its input has the wrong shape if and only if it has, and then as its own failure
(`badInput_iff_not_accepted`). What other parts it has, and which shapes these accept, does not matter.
Sequences and pairs are not among these grammars: they accept every shape, and a part of theirs may not.
-/

set_option autoImplicit false

namespace Triparse

variable {α : Type}

namespace Failure

/-- Combinators do not make other failures into failures of mismatched input. -/
theorem class_of_kind_ne_badInput : FailureClass fun e => e.kind ≠ .badInput where
  noMatch _ _ _ _ := nofun
  endOfInput _ _ _ _ := nofun
  countOutOfRange _ _ _ _ := nofun
  caused _ _ _ _ _ := nofun
  moveTo n h := by rwa [kind_moveTo]
  relabel text h := by rwa [kind_relabel]
  rename name h := by rwa [kind_rename]

end Failure

namespace Fragment

/-- The grammars without sequences, pairs, recursion, taps, rules and reply mappers. -/
def selective : Fragment where
  node
    | .sequence _ | .seq .. | .skip .. | .skipLeft .. | .fix .. | .recursive .. | .ref _ | .orphan
    | .tap .. | .rule _ | .mapReply .. => false
    | _ => true
  step _ := false

theorem selective_failsIn : selective.FailsIn fun e => e.kind ≠ .badInput where
  toFailureClass := Failure.class_of_kind_ne_badInput
  failWith _ _ _ := nofun
  mapReply h := nomatch h
  within h := nomatch h
  badInput := by
    rintro (⟨_, _, h | h | h⟩ | ⟨_, _, h | ⟨_, h⟩⟩ | ⟨_, h⟩ | ⟨_, _, h⟩ | ⟨_, h⟩) <;> cases h
  orphan h := nomatch h
  reject := by rintro _ (h | ⟨_, _, h⟩) <;> cases h
  raise h := nomatch h

end Fragment

open Fragment (selective)

/-- **A mismatch of shapes is reported if and only if there is one.** Executed on a live state, a grammar
without sequences, pairs, recursion, rules and reply mappers fails with a failure of mismatched input if
and only if it does not accept the shape of the input; it then fails where it started, in its own name,
with the shapes that it accepts and that of the input. -/
theorem badInput_iff_not_accepted {g : Grammar} (hg : selective.admits g = true) (bound : Nat)
    (address : Address) {s : State α} {a : α} (hs : s.outcome = .ok a) :
    let p := g.parser bound [] address
    ((∃ t e, (p.apply s).answer? = some t ∧ t.outcome = .error e ∧ e.kind = .badInput) ↔
        s.input.modality ∉ p.accepts) ∧
      (s.input.modality ∉ p.accepts →
        (p.apply s).answer? =
          some (s.fail (.badInput p.name s.cursor p.accepts s.input.modality))) := by
  intro p
  have hp : p.FailsIn fun e => e.kind ≠ .badInput :=
    Grammar.failsIn Fragment.selective_failsIn hg (.inr fun _ => nofun) bound address
  have hmismatch (hm : s.input.modality ∉ p.accepts) : (p.apply s).answer? =
      some (s.fail (.badInput p.name s.cursor p.accepts s.input.modality)) := by
    rw [p.answer?_apply_of_ok hs, Parser.execute_of_not_mem hm]
    rfl
  refine ⟨⟨?_, fun hm => ⟨_, _, hmismatch hm, rfl, rfl⟩⟩, hmismatch⟩
  rintro ⟨t, e, ht, he, hk⟩ hm
  rw [p.answer?_apply_of_ok hs, Option.map_eq_some_iff] at ht
  obtain ⟨reply, hr, rfl⟩ := ht
  exact (hp.execute_of_mem hm s.cursor).answer hr e he hk

/-- A list of digits between which bytes should stand. On bytes the list does not accept its input. On
characters it does; its separator does not, and what comes of that is a list that is too short. -/
theorem badInput_iff_not_accepted_of_list :
    let p := (Grammar.separated (.atLeast 2) (.primitive (.byte 44)) (.primitive .digit)).parser 4 [] []
    let text := State.start ⟨.characters ['1', ','], {}⟩
    let bytes := State.start ⟨.bytes [49, 44], {}⟩
    (∃ t e, (p.apply text).answer? = some t ∧ t.outcome = .error e ∧ e.kind ≠ .badInput) ∧
      (p.apply bytes).answer? =
        some (bytes.fail (.badInput "separated_by" 0 (.only .characters) .bytes)) := by
  intro p text bytes
  constructor
  · obtain ⟨t, e, ht, he⟩ : ∃ t e, (p.apply text).answer? = some t ∧ t.outcome = .error e :=
      ⟨_, _, rfl, rfl⟩
    refine ⟨t, e, ht, he, fun hk => ?_⟩
    exact (badInput_iff_not_accepted rfl 4 [] rfl).1.1 ⟨t, e, ht, he, hk⟩ rfl
  · exact (badInput_iff_not_accepted rfl 4 [] rfl).2 (by decide)

end Triparse
