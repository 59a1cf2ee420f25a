import Triparse.Proofs.Matches
import Triparse.Proofs.Sequences

/-!
# The matches of a chain

`Chained input ps start ms` says which matches `ms` the parsers `ps` make one after the other, from
`start` on: each one match, the next from where it ends. A chain comes to its end if and only if its
parsers have such matches, and then to the values kept of them, where they stop (`Chained.answer`,
`Chained.of_answer`). A fixed number of matches of one parser is a chain of copies of it.
-/

set_option autoImplicit false

namespace Triparse

variable {α : Type}

/-! ## A fixed number of matches -/

namespace Parser

/-- The reply of a fixed number of matches, by what its chain has come to. -/
def Chain.countedReply (count start : Nat) : Chain α → Reply (List α)
  | .error (index, e) =>
    .fail start (.countOutOfRange "repeat" e.position (.exactly count) index (some e))
  | .ok (stop, values) => .succeed stop values

/-- A fixed number of matches is the chain of as many copies of the parser. -/
theorem answer?_times {p : Parser α} {input : Input} (hm : input.modality ∈ p.accepts)
    (count start : Nat) :
    ((times p count).execute input start).answer? =
      (runEach input (List.replicate count p) 0 start).answer?.map
        (Chain.countedReply count start) := by
  have hm' : input.modality ∈ (times p count).accepts := hm
  rw [execute_of_mem hm', ← runTimes_eq_runEach]
  show Run.answer? (runTimes p input count 0 start >>= _) = _
  rw [Run.answer?_bind, Option.map_eq_bind]
  congr 1
  funext chain
  obtain ⟨index, e⟩ | ⟨stop, values⟩ := chain <;> rfl

end Parser

/-! ## Matches -/

/-- The matches that parsers make one after the other, from `start` on. -/
inductive Chained (input : Input) : List (Parser α) → Nat → List (Match α) → Prop
  | nil {start : Nat} : Chained input [] start []
  | cons {p : Parser α} {ps : List (Parser α)} {start : Nat} {m : Match α} {ms : List (Match α)} :
      (p.execute input start).found = some (some m) → Chained input ps m.cursor ms →
      Chained input (p :: ps) start (m :: ms)

namespace Chained

open Triparse.Parser (runEach answer?_runEach_ok answer?_runEach_failed)

variable {input : Input} {ps : List (Parser α)} {start : Nat} {ms : List (Match α)}

theorem length_eq (h : Chained input ps start ms) : ms.length = ps.length := by
  induction h with
  | nil => rfl
  | cons _ _ ih => rw [List.length_cons, List.length_cons, ih]

theorem unique (h : Chained input ps start ms) {ms' : List (Match α)}
    (h' : Chained input ps start ms') : ms = ms' := by
  induction h generalizing ms' with
  | nil => cases h'; rfl
  | cons hf _ ih =>
    obtain _ | ⟨hf', hms'⟩ := h'
    rw [hf] at hf'
    cases hf'
    rw [ih hms']

/-- A chain whose parsers match comes to the values kept, where the last match stops. -/
theorem answer (h : Chained input ps start ms) (first : Nat) :
    (runEach input ps first start).answer? =
      some (.ok (Match.stop start ms, Match.values ms)) := by
  induction h generalizing first with
  | nil => rfl
  | cons hf _ ih =>
    rw [answer?_runEach_ok (Run.found_eq_match.1 hf) rfl]
    exact congrArg (Option.map _) (ih (first + 1))

/-- A chain that comes to its end has matches, one of each parser. -/
theorem of_answer {first stop : Nat} {values : List α}
    (h : (runEach input ps first start).answer? = some (.ok (stop, values))) :
    ∃ ms, Chained input ps start ms ∧ stop = Match.stop start ms ∧ values = Match.values ms := by
  induction ps generalizing first start stop values with
  | nil =>
    cases h
    exact ⟨[], .nil, rfl, rfl⟩
  | cons p ps ih =>
    cases hf : (p.execute input start).found with
    | none =>
      rw [runEach, Run.answer?_bind, Option.map_eq_none_iff.1 hf] at h
      cases h
    | some found =>
      cases found with
      | none =>
        obtain ⟨⟨cursor, _, flag⟩, e, hr, ⟨⟩⟩ := Run.found_eq_none_iff.1 hf
        rw [answer?_runEach_failed hr] at h
        cases h
      | some m =>
        rw [answer?_runEach_ok (Run.found_eq_match.1 hf) rfl, Option.map_eq_some_iff] at h
        obtain ⟨⟨element, e⟩ | ⟨stop, values⟩, hrest, ⟨⟩⟩ := h
        obtain ⟨ms, hms, rfl, rfl⟩ := ih hrest
        exact ⟨m :: ms, .cons hf hms, rfl, rfl⟩

end Chained

end Triparse
