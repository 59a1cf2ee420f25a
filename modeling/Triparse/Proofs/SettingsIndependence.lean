import Triparse.Proofs.GrammarAgreement

/-!
# Settings and results

Settings say how much of the input failures quote, and nothing else: under any two settings a grammar
answers the same, but for the texts of what was found (`execute_settings`). Among the steps of a rule two
bring such a text into its value: to look at the failure of a step, and to quote the input.
-/

set_option autoImplicit false

namespace Triparse

/-- All of failures is looked at but the texts of what was found. -/
def View.unquoted : View := { quotes := false }

/-- The same source under two settings. -/
def Comparison.settings (source : Source) (a b : Settings) : Comparison where
  toView := .unquoted
  left := ⟨source, a⟩
  right := ⟨source, b⟩
  modality_eq := rfl
  remaining_eq n := by rw [show View.unquoted.offset = 0 from rfl, Nat.zero_add]; rfl
  snippet_eq _ := rfl

theorem Comparison.settings_sameElements (source : Source) (a b : Settings) :
    (settings source a b).SameElements := by
  intro n
  rw [show (settings source a b).offset = 0 from rfl, Nat.zero_add]
  rfl

/-- The grammars whose rules neither look at the failure of a step nor quote the input. -/
def Fragment.quoteless : Fragment where
  node _ := true
  step
    | .recover _ | .snippet => false
    | _ => true

open Fragment (quoteless)

/-- **Settings have no influence on a parse.** Under any two settings a grammar succeeds with the same
value at the same cursor and with the same flag, or fails at the same cursor with failures that are the
same but for the texts of what was found, in all of their causes; or it answers under neither. -/
theorem execute_settings {g : Grammar} (hg : quoteless.admits g = true) (bound : Nat)
    (address : Address) (source : Source) (a b : Settings) (cursor : Nat) :
    ((g.parser bound [] address).execute ⟨source, a⟩ cursor).answer?.map (Reply.seen .unquoted) =
      ((g.parser bound [] address).execute ⟨source, b⟩ cursor).answer?.map
        (Reply.seen .unquoted) := by
  have hs (s : Stmt) (h : quoteless.step s = true) : View.unquoted.fragment.step s = true := by
    cases s <;> first | rfl | cases h
  have hn (g : Grammar) (_ : quoteless.node g = true) : View.unquoted.fragment.node g = true := by
    cases g <;> rfl
  have h :=
    answer_agree (Comparison.settings_sameElements source a b) hn hs hg bound address cursor
  rw [show (Comparison.settings source a b).offset + cursor = cursor from Nat.zero_add cursor] at h
  exact h

/-- A sequence that breaks off, and a long and a short quotation of the place. -/
theorem execute_settings_of_sequence :
    let p := (Grammar.sequence [.character 'a', .character 'x']).parser 4 [] []
    let text := Source.characters ['a', 'b', 'c']
    (p.execute ⟨text, {}⟩ 0).answer? =
        some (.fail 0 (.within "sequence" 1 (.noMatch "character" 1 "character 'x'" "\"bc\""))) ∧
      (p.execute ⟨text, {}⟩ 0).answer?.map (Reply.seen .unquoted) =
        (p.execute ⟨text, { charWidth := 1 }⟩ 0).answer?.map (Reply.seen .unquoted) :=
  ⟨rfl, execute_settings rfl 4 [] (.characters ['a', 'b', 'c']) {} { charWidth := 1 } 0⟩

/-! ## Rules that quote the input -/

/-- The grammars whose rules do not look at the failure of a step. -/
def Fragment.incurious : Fragment where
  node _ := true
  step
    | .recover _ => false
    | _ => true

/-- That no rule looks at failures is not enough: it may quote the input where it stands. -/
theorem incurious_not_independent :
    let quoting := Grammar.rule [.snippet]
    let text := Source.characters ['a', 'b']
    Fragment.incurious.admits quoting = true ∧
      ((quoting.parser 4 [] []).execute ⟨text, {}⟩ 0).answer?.map (Reply.seen .unquoted) ≠
        ((quoting.parser 4 [] []).execute ⟨text, { charWidth := 1 }⟩ 0).answer?.map
          (Reply.seen .unquoted) := by
  decide

end Triparse
