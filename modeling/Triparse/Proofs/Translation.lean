import Triparse.Proofs.GrammarAgreement

/-!
# Parsers look only forward

What stands before the cursor has no part in a parse: from a cursor on, a grammar does what it does from
the beginning of what is left of the source, and all positions are that much larger (`execute_suffix`).
A rule can tell the two apart only by what it reads off its position; besides reading the position itself,
it could look at the failure of a step, or be abandoned with a failure that names a place.
-/

set_option autoImplicit false

namespace Triparse

/-! ## Suffixes -/

theorem Snippet.quoted_drop (chars : List Char) (k n width : Nat) :
    quoted (chars.drop k) n width = quoted chars (k + n) width := by
  unfold quoted
  rw [List.length_drop, List.drop_drop, Nat.sub_sub]
  by_cases h : chars.length ≤ k + n
  · rw [if_pos h, if_pos (by omega)]
  · rw [if_neg h, if_neg (by omega)]

theorem Snippet.listed_drop {α : Type} (word : String) (render : α → String) (elements : List α)
    (k n width : Nat) :
    listed word render (elements.drop k) n width = listed word render elements (k + n) width := by
  unfold listed
  rw [List.length_drop, List.drop_drop]
  have hmark : elements.length - k ≤ n + width ↔ elements.length ≤ k + n + width := by omega
  simp only [hmark]

namespace Source

theorem suffix_suffix (s : Source) (k n : Nat) : (s.suffix k).suffix n = s.suffix (k + n) := by
  cases s <;> simp only [suffix, List.drop_drop]

theorem snippet_suffix (s : Source) (settings : Settings) (k n : Nat) :
    (s.suffix k).snippet settings n = s.snippet settings (k + n) := by
  cases s with
  | characters cs => exact Snippet.quoted_drop cs k n _
  | bytes bs => exact Snippet.listed_drop _ _ bs k n _
  | tokens ts => exact Snippet.listed_drop _ _ ts k n _

end Source

/-! ## A source and what is left of it -/

/-- All of failures is looked at, with `k` elements before the first one that is counted. -/
def View.shifted (k : Nat) : View := { offset := k }

/-- A source from an element on, and the suffix that begins there. -/
def Comparison.suffix (source : Source) (settings : Settings) (k : Nat) : Comparison where
  toView := .shifted k
  left := ⟨source, settings⟩
  right := ⟨source.suffix k, settings⟩
  modality_eq := (source.modality_suffix k).symm
  remaining_eq n := by
    rw [Input.remaining, Input.remaining, Source.length_suffix, Nat.sub_sub]
    rfl
  snippet_eq n := congrArg _ (source.snippet_suffix settings k n).symm

theorem Comparison.suffix_sameElements (source : Source) (settings : Settings) (k : Nat) :
    (suffix source settings k).SameElements := fun n => (source.suffix_suffix k n).symm

/-- The grammars that say nothing of places: there are no reply mappers, and rules neither read the
position, nor look at the failure of a step, nor are abandoned with a failure of their own. -/
def Fragment.placeless : Fragment where
  node
    | .mapReply .. => false
    | _ => true
  step
    | .recover _ | .position | .raise _ => false
    | _ => true

open Fragment (placeless)

/-- **Parsers look only forward.** From a cursor, also past the end, a grammar answers what it answers
from the beginning of the elements left there, but for the cursor and the positions in failures, which
are larger by the cursor; and it answers in one case if it does in the other. -/
theorem execute_suffix {g : Grammar} (hg : placeless.admits g = true) (bound : Nat)
    (address : Address) (source : Source) (settings : Settings) (k : Nat) :
    ((g.parser bound [] address).execute ⟨source, settings⟩ k).answer? =
      ((g.parser bound [] address).execute ⟨source.suffix k, settings⟩ 0).answer?.map
        (Reply.seen (.shifted k)) := by
  have hn (g : Grammar) (h : placeless.node g = true) : (View.shifted k).fragment.node g = true := by
    cases g <;> first | rfl | cases h
  have hs (s : Stmt) (h : placeless.step s = true) : (View.shifted k).fragment.step s = true := by
    cases s <;> first | rfl | cases h
  have h := answer_agree (Comparison.suffix_sameElements source settings k) hn hs hg bound address 0
  have hid : Reply.seen (α := Value) (View.shifted k).still = id := funext Reply.seen_default
  change Option.map (Reply.seen (View.shifted k).still) _ = _ at h
  rw [hid, Option.map_id] at h
  exact h

/-- A number that is not followed as it should be, in the middle of a text. -/
theorem execute_suffix_of_number :
    let p := (Grammar.seq (.many .any (.primitive .digit)) (.character 'x')).parser 4 [] []
    (p.execute ⟨.characters ['1', '2', 'b'], {}⟩ 0).answer? =
        some (.fail 0 (.noMatch "character" 2 "character 'x'" "\"b\"")) ∧
      (p.execute ⟨.characters ['a', '1', '2', 'b'], {}⟩ 1).answer? =
        some (.fail 1 (.noMatch "character" 3 "character 'x'" "\"b\"")) :=
  ⟨rfl, (execute_suffix rfl 4 [] (.characters ['a', '1', '2', 'b']) {} 1).trans rfl⟩

/-! ## Rules that know where they are -/

/-- The grammars without reply mappers whose rules do not read their position or the state they are
in. -/
def Fragment.unaware : Fragment where
  node
    | .mapReply .. => false
    | _ => true
  step
    | .position | .remaining | .snippet => false
    | _ => true

/-- That a rule does not read its position is not enough. The failure of a step says where it is, and
a failure that a rule is abandoned with says where it was made to be. -/
theorem unaware_not_forward :
    let recovering := Grammar.rule [.recover (.character 'x')]
    let raising :=
      Grammar.rule [.step (.primitive (.any .characters)), .raise (.rejected "digits" 5 "too large")]
    let text := Source.characters ['a', 'b']
    Fragment.unaware.admitsAll [recovering, raising] = true ∧
      ((recovering.parser 4 [] []).execute ⟨text, {}⟩ 1).answer? ≠
        ((recovering.parser 4 [] []).execute ⟨text.suffix 1, {}⟩ 0).answer?.map
          (Reply.seen (.shifted 1)) ∧
      ((raising.parser 4 [] []).execute ⟨text, {}⟩ 1).answer? ≠
        ((raising.parser 4 [] []).execute ⟨text.suffix 1, {}⟩ 0).answer?.map
          (Reply.seen (.shifted 1)) := by
  decide

end Triparse
