import Triparse.Proofs.NestedGroups

/-!
# Groups that are not closed

Where a text breaks off in a group of parentheses, some parentheses stay open, and the grammar of groups fails
(`missing_close_reported`). The failure is that of the closing parenthesis of the outermost group: it is looked
for after the groups that are complete in it, since the repetition takes a group that breaks off for none, and
does not tell why. So the end of the text is reported only if the outermost parenthesis is the only one that
stays open; otherwise the next one that does is in the way.
-/

set_option autoImplicit false

namespace Triparse

open Triparse.Groups (NoneAhead)

namespace Parser

variable {input : Input} {text : List Char} (hsrc : input.source = .characters text) {cursor : Nat}
include hsrc

/-- A character is not found at the end of a text. -/
theorem characterFailure_of_end (wanted : Char) (h : cursor = text.length) :
    characterFailure input wanted cursor =
      .endOfInput "character" text.length ("character " ++ Text.quoteChar wanted) 0 := by
  have hend : input.isEnd text.length = true := by
    rw [Input.isEnd, hsrc, Source.isEnd_iff]
    exact Nat.le_refl _
  have hleft : input.remaining text.length = 0 := by
    rw [Input.remaining, hsrc]
    exact Nat.sub_self _
  rw [h, characterFailure, if_pos hend, Input.endOfInput, hleft]

/-- A character is not found where there is another one. -/
theorem characterFailure_of_lt (wanted : Char) (h : cursor < text.length) :
    characterFailure input wanted cursor =
      .noMatch "character" cursor ("character " ++ Text.quoteChar wanted) (input.snippet cursor) := by
  have hend : ¬ input.isEnd cursor = true := by
    rw [Input.isEnd, hsrc, Source.isEnd_iff]
    exact Nat.not_le.2 h
  rw [characterFailure, if_neg hend, Input.noMatch]

end Parser

namespace Grammar

variable {input : Input} {text : List Char}

/-- If a grammar fails, it does so up to the end of the input, too. -/
theorem answer?_toEnd_failed {g : Grammar} {bound n stop : Nat} {e : Failure}
    (h : ((g.parser bound [] [0]).execute input n).answer? = some (.fail stop e)) :
    (((toEnd g).toParser bound).execute input n).answer? = some (.fail n e) := by
  rw [toParser, toEnd, Grammar.parser, Grammar.interpret, Parser.skip, Parser.answer?_map_seq, h]
  rfl

/-- After a parenthesis that is opened, and the groups that follow it, the one that closes it is missing. -/
theorem answer?_nested_unclosed (hsrc : input.source = .characters text) (name : String) (traced : Bool)
    {gs : Groups} {rest : List Char} {start : Nat}
    (htext : text.drop start = '(' :: (gs.written ++ rest)) (hrest : NoneAhead rest)
    (hclose : rest.head? ≠ some ')') (a : Address) :
    (((nested name traced).parser (text.length + 1) [] a).execute input start).answer? =
      some (.fail start (Parser.characterFailure input ')' (start + 1 + gs.written.length))) := by
  have hlength := congrArg List.length htext
  rw [List.length_drop, List.length_cons, List.length_append] at hlength
  rw [parser_nested, answer?_instances_succ, Parser.answer?_groupAround hsrc
    (modality_mem_instances _ _ _ _) ?_ htext hrest (by omega), if_neg hclose]
  exact fun n hn => readsGroup_instances hsrc (Nat.lt_succ_self _) (by omega) _

end Grammar

open Triparse.Grammar (nested toEnd answer?_toEnd_failed answer?_nested_unclosed)
open Triparse.Parser (answer?_apply_of_ok characterFailure)

/-- The grammar of groups, up to the end of the input, fails with the failure of a parenthesis that is not
closed. -/
theorem returns_unclosed {α : Type} {s : State α} {a : α} {text : List Char} (name : String)
    (traced : Bool) (hs : s.outcome = .ok a) (hsrc : s.input.source = .characters text) {gs : Groups}
    {rest : List Char} (htext : text.drop s.cursor = '(' :: (gs.written ++ rest))
    (hrest : NoneAhead rest) (hclose : rest.head? ≠ some ')') :
    (toEnd (nested name traced)).Returns s
      (s.fail (characterFailure s.input ')' (s.cursor + 1 + gs.written.length))) := by
  refine ⟨text.length + 1, ?_⟩
  rw [answer?_apply_of_ok _ hs,
    answer?_toEnd_failed (answer?_nested_unclosed hsrc name traced htext hrest hclose [0])]
  rfl

/-- **A group that is not closed is reported.** Let all that is left of a text be the beginning of a group, but
neither nothing nor all of the group. Then the grammar of groups, up to the end of the input, fails. If one
parenthesis is open at the end of the text, the failure tells that a closing parenthesis was expected there.
If there are more of them, it tells that one was expected where the second of them stands: the first one
that stays open after the groups that the outermost one encloses. -/
theorem missing_close_reported {α : Type} {s : State α} {a : α} {text : List Char} {inside : Groups}
    (name : String) (traced : Bool) (hs : s.outcome = .ok a)
    (hsrc : s.input.source = .characters text) (hne : text.drop s.cursor ≠ [])
    (hpre : text.drop s.cursor <+: inside.enclosed) (hproper : text.drop s.cursor ≠ inside.enclosed) :
    let ahead := text.drop s.cursor
    ∃ e, (toEnd (nested name traced)).Returns s (s.fail e) ∧
      (excess ahead = 1 ∧ e = .endOfInput "character" text.length "character ')'" 0 ∨
        1 < excess ahead ∧ ∃ (before : Groups) (q : List Char),
          ahead = '(' :: (before.written ++ '(' :: q) ∧ (∀ pre, pre <+: q → 0 ≤ excess pre) ∧
          let second := s.cursor + 1 + before.written.length
          e = .noMatch "character" second "character ')'" (s.input.snippet second)) := by
  intro ahead
  obtain ⟨before, ⟨hahead, hone⟩ | ⟨next, q, hahead, hq, hmore⟩⟩ :=
    Groups.prefix_unclosed hpre hne hproper
  · -- The groups inside are complete, so that the text ends where the outermost one could be closed.
    have hend : s.cursor + 1 + before.written.length = text.length := by
      have hlength := congrArg List.length hahead
      rw [List.length_drop, List.length_cons] at hlength
      omega
    have hreturns := returns_unclosed name traced hs hsrc
      (hahead.trans (by rw [List.append_nil])) .nil nofun
    rw [Parser.characterFailure_of_end hsrc ')' hend] at hreturns
    exact ⟨_, hreturns, .inl ⟨hone, rfl⟩⟩
  · -- The group that breaks off inside is taken for none, and so it is where the closing one is looked for.
    have hlt : s.cursor + 1 + before.written.length < text.length := by
      have hlength := congrArg List.length hahead
      rw [List.length_drop, List.length_cons, List.length_append, List.length_cons] at hlength
      omega
    have hclose : ('(' :: q).head? ≠ some ')' := fun h => absurd (Option.some.inj h) (by decide)
    have hreturns := returns_unclosed name traced hs hsrc hahead (.broken hq) hclose
    rw [Parser.characterFailure_of_lt hsrc ')' hlt] at hreturns
    have hopen := fun pre (h : pre <+: q) => (Groups.excess_bounds (h.trans hq)).1
    exact ⟨_, hreturns, .inr ⟨hmore, before, q, hahead, hopen, rfl⟩⟩

/-- A group in a group, without the last parenthesis. -/
theorem missing_close_reported_of_pair :
    let s := State.start ⟨.characters ['(', '(', ')'], {}⟩
    (toEnd (nested "group" false)).Returns s
      (s.fail (.endOfInput "character" 3 "character ')'" 0)) := by
  intro s
  have hpre : ['(', '(', ')'] <+: (Groups.group .none .none).enclosed := ⟨[')'], rfl⟩
  obtain ⟨e, he, ⟨-, rfl⟩ | ⟨hmore, -⟩⟩ :=
    missing_close_reported (s := s) "group" false rfl rfl (by decide) hpre (by decide)
  · exact he
  · exact absurd hmore (by decide)

/-- Without the last two, the end of the text is not reported. -/
theorem missing_close_hidden :
    let text := ['(', '(']
    let s := State.start ⟨.characters text, {}⟩
    (∃ inside : Groups, text <+: inside.enclosed ∧ text ≠ inside.enclosed) ∧
      (toEnd (nested "group" false)).Returns s
        (s.fail (.noMatch "character" 1 "character ')'" "\"(\"")) ∧
      ¬ ∃ e, (toEnd (nested "group" false)).Returns s (s.fail e) ∧ e.kind = .endOfInput ∧
        e.position = text.length := by
  intro text s
  have hfails : (toEnd (nested "group" false)).Returns s
      (s.fail (.noMatch "character" 1 "character ')'" "\"(\"")) := ⟨4, rfl⟩
  refine ⟨⟨.group .none .none, ⟨[')', ')'], rfl⟩, by decide⟩, hfails, ?_⟩
  rintro ⟨e, he, hkind, -⟩
  cases hfails.unique he
  cases hkind

end Triparse
