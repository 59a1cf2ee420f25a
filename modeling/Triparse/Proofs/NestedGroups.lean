import Triparse.Parser.Element
import Triparse.Proofs.Parentheses
import Triparse.Proofs.RecursiveDefinitions
import Triparse.Proofs.Matches

/-!
# The grammar of groups of parentheses

`Grammar.nested` reads a group of parentheses, as one between two parentheses and a repetition of groups there
is. It reads just the groups there are (`nested_reads_groups`), though the repetition takes as many as it can
and gives none of them back: which groups stand at a place is determined by the text, and what comes after
them is not the beginning of another. The unfolding of the definition is deep enough if it is deeper than the
text is long from there on, since each group inside stands further on in the text.
-/

set_option autoImplicit false

namespace Triparse

open Triparse.Groups (NoneAhead)

/-! ## Characters and the end of the input -/

namespace Parser

variable {input : Input} {text : List Char}

/-- The failure of a character where there is another one or none. -/
def characterFailure (input : Input) (wanted : Char) (cursor : Nat) : Failure :=
  let expected := "character " ++ Text.quoteChar wanted
  if input.isEnd cursor then input.endOfInput cursor "character" expected
  else input.noMatch cursor "character" expected

theorem answer?_character (hsrc : input.source = .characters text) (wanted : Char) (cursor : Nat) :
    ((character wanted).execute input cursor).answer? =
      some (if text[cursor]? = some wanted then .succeed (cursor + 1) wanted
        else .fail cursor (characterFailure input wanted cursor)) := by
  have hm : input.modality ∈ (character wanted).accepts := by
    rw [Input.modality, hsrc]
    rfl
  have helements : input.elements Char = text := by
    rw [Input.elements, hsrc]
    rfl
  have hend : input.isEnd cursor = decide (text.length ≤ cursor) := by
    rw [Input.isEnd, hsrc]
    rfl
  rw [execute_of_mem hm, characterFailure, hend]
  dsimp only [character, elementWhere]
  rw [helements]
  cases hc : text[cursor]? with
  | none => simp [List.getElem?_eq_none_iff.1 hc]
  | some c =>
    have hlt := Nat.not_le.2 (List.getElem?_eq_some_iff.1 hc).1
    by_cases h : c = wanted <;> simp [h, hlt]

theorem found_endOfInput (input : Input) (cursor : Nat) :
    (endOfInput.execute input cursor).found =
      some (if input.isEnd cursor then some ⟨cursor, (), false⟩ else none) := by
  have hm : input.modality ∈ endOfInput.accepts := Modalities.mem_univ _
  rw [execute_of_mem hm, endOfInput]
  dsimp only
  split <;> rfl

end Parser

/-! ## Groups in a text -/

/-- What a parser of groups finds at a place of a text: the group that stands there, or none. -/
inductive GroupAt (text : List Char) (start : Nat) : Option (Match Value) → Prop
  | present {inside : Groups} {rest : List Char} : text.drop start = inside.enclosed ++ rest →
      GroupAt text start
        (some ⟨start + inside.enclosed.length, .int (inside.depth + 1), false⟩)
  | absent : NoneAhead (text.drop start) → GroupAt text start none

/-- A match if nothing of a text is left after it. -/
def Match.toEnd (text : List Char) (m : Match Value) : Option (Match Value) :=
  if text.length ≤ m.cursor then some { m with suppressed := false } else none

theorem Match.isSome_toEnd_iff {text : List Char} {m : Match Value} :
    (m.toEnd text).isSome = true ↔ text.length ≤ m.cursor := by
  rw [Match.toEnd]
  split <;> simp [*]

/-- What stands in a text after a part that stands at some place. -/
theorem drop_of_append {text part rest : List Char} {start : Nat} (h : text.drop start = part ++ rest) :
    text.drop (start + part.length) = rest := by
  rw [← List.drop_drop, h, List.drop_left]

namespace GroupAt

variable {text : List Char} {start : Nat} {found : Option (Match Value)} {inside : Groups}

theorem isSome_iff (h : GroupAt text start found) :
    found.isSome = true ↔ ∃ inside : Groups, inside.enclosed <+: text.drop start := by
  cases h with
  | @present inside rest htext => exact iff_of_true rfl ⟨inside, rest, htext.symm⟩
  | absent hnone => exact iff_of_false Bool.false_ne_true fun ⟨inside, hin⟩ => hnone inside hin

/-- There is one group at most at a place. -/
theorem eq_some (h : GroupAt text start found) (hin : inside.enclosed <+: text.drop start) :
    found = some ⟨start + inside.enclosed.length, .int (inside.depth + 1), false⟩ := by
  cases h with
  | @present inside' rest htext =>
    obtain ⟨tail, hin⟩ := hin
    obtain ⟨rfl, -⟩ := Groups.eq_of_enclosed_append (hin.trans htext)
    rfl
  | absent hnone => exact absurd hin (hnone inside)

theorem toEnd_eq_some (h : GroupAt text start found) (hin : text.drop start = inside.enclosed) :
    found.bind (Match.toEnd text) =
      some ⟨start + inside.enclosed.length, .int (inside.depth + 1), false⟩ := by
  have hlength := congrArg List.length hin
  rw [List.length_drop] at hlength
  have hend : text.length ≤ start + inside.enclosed.length := by omega
  rw [h.eq_some ⟨[], by rw [hin, List.append_nil]⟩, Option.bind_some, Match.toEnd, if_pos hend]

theorem isSome_toEnd_iff (h : GroupAt text start found) :
    (found.bind (Match.toEnd text)).isSome = true ↔
      ∃ inside : Groups, text.drop start = inside.enclosed := by
  constructor
  · intro hsome
    cases h with
    | absent => cases hsome
    | @present inside rest htext =>
      have hend : text.length ≤ start + inside.enclosed.length := Match.isSome_toEnd_iff.1 hsome
      have hrest : rest = [] := (drop_of_append htext).symm.trans (List.drop_eq_nil_of_le hend)
      exact ⟨inside, by rw [htext, hrest, List.append_nil]⟩
  · rintro ⟨inside, hin⟩
    rw [h.toEnd_eq_some hin]
    rfl

end GroupAt

/-- The parser answers at a place of a text, with the group that stands there. -/
def Parser.ReadsGroup (p : Parser Value) (input : Input) (text : List Char) (start : Nat) : Prop :=
  ∃ found, (p.execute input start).found = some found ∧ GroupAt text start found

/-- Groups, as matches of one of them each, the first from `start` on. -/
def Match.ofGroups (start : Nat) : Groups → List (Match Value)
  | .none => []
  | .group inside after =>
    ⟨start + inside.enclosed.length, .int (inside.depth + 1), false⟩ ::
      ofGroups (start + inside.enclosed.length) after

namespace Match

theorem length_ofGroups_le (start : Nat) (gs : Groups) :
    (ofGroups start gs).length ≤ gs.written.length := by
  induction gs generalizing start with
  | none => exact Nat.le_refl 0
  | group inside after _ iha =>
    rw [ofGroups, List.length_cons, Groups.written_group, List.length_append, Groups.length_enclosed]
    have := iha (start + (inside.written.length + 2))
    omega

theorem stop_ofGroups (start : Nat) (gs : Groups) :
    stop start (ofGroups start gs) = start + gs.written.length := by
  induction gs generalizing start with
  | none => rfl
  | group inside after _ iha =>
    rw [ofGroups, stop, iha, Groups.written_group, List.length_append, Nat.add_assoc]

/-- The values of groups are how deep each of them nests. -/
theorem numbers_ofGroups_group (start : Nat) (inside after : Groups) :
    (values (ofGroups start (.group inside after))).map Value.number =
      ((inside.depth + 1 : Nat) : Int) ::
        (values (ofGroups (start + inside.enclosed.length) after)).map Value.number := rfl

theorem foldl_max_ofGroups (start : Nat) (gs : Groups) (least : Nat) :
    ((values (ofGroups start gs)).map Value.number).foldl max (least : Int) =
      (max least gs.depth : Nat) := by
  induction gs generalizing start least with
  | none => rw [Groups.depth, Nat.max_zero]; rfl
  | group inside after _ iha =>
    have hcast : max (least : Int) ((inside.depth + 1 : Nat) : Int) =
        (max least (inside.depth + 1) : Nat) := by omega
    rw [numbers_ofGroups_group, List.foldl_cons, hcast, iha, Groups.depth, Nat.max_assoc]

/-- A group is one deeper than the groups in it. -/
theorem depth_ofGroups (start : Nat) (gs : Groups) :
    Mapper.depth.apply (.list (values (ofGroups start gs))) = .int (gs.depth + 1) := by
  rw [Mapper.apply, Value.asList, Int.add_comm]
  congr 2
  cases gs with
  | none => rfl
  | group inside after =>
    rw [numbers_ofGroups_group, Mapper.greatest, foldl_max_ofGroups, Groups.depth]

end Match

namespace Parser

variable {input : Input} {text rest : List Char} {start bound : Nat} {gs : Groups}
  {inner : Parser Value}

/-- A repetition goes from group to group, as long as there are any. -/
theorem course_groups (hinner : ∀ n, start ≤ n → inner.ReadsGroup input text n)
    (htext : text.drop start = gs.written ++ rest) (hrest : NoneAhead rest) (count : Nat) :
    Course (fun _ => inner.execute input) count start (Match.ofGroups start gs) := by
  -- The groups are those of the text, whatever `inner` finds: the place where one ends is not for it to choose.
  induction gs generalizing start count with
  | none =>
    obtain ⟨found, hf, hat⟩ := hinner start (Nat.le_refl start)
    cases hat with
    | @present inside tail hin => exact absurd ⟨tail, hin.symm.trans htext⟩ (hrest inside)
    | absent _ => exact .failed hf
  | group inside after _ iha =>
    rw [Groups.written_group, List.append_assoc] at htext
    obtain ⟨found, hf, hat⟩ := hinner start (Nat.le_refl start)
    cases hat with
    | absent hnone => exact absurd ⟨_, htext.symm⟩ (hnone inside)
    | @present inside' tail hin =>
      obtain ⟨rfl, -⟩ := Groups.eq_of_enclosed_append (hin.symm.trans htext)
      have hlength := Groups.length_enclosed inside'
      refine .moved hf (by dsimp only; omega) (iha (fun n hn => hinner n ?_) ?_ (count + 1))
      · dsimp only at hn
        omega
      · exact drop_of_append htext

theorem answer?_many_groups (hm : input.modality ∈ inner.accepts)
    (hinner : ∀ n, start ≤ n → inner.ReadsGroup input text n)
    (htext : text.drop start = gs.written ++ rest) (hrest : NoneAhead rest)
    (hb : gs.written.length < bound) :
    ((many bound .any inner).execute input start).answer? =
      some (.succeed (start + gs.written.length) (Match.values (Match.ofGroups start gs))) := by
  have hc := course_groups hinner htext hrest 0
  have hlength := Match.length_ofGroups_le start gs
  obtain ⟨t, ht, -, hall⟩ := hc.answer .repetitionStopped (Repetition.exceededBy_any 0)
    (Nat.lt_of_le_of_lt hlength hb)
  rw [answer?_many hm, ht, hall (Repetition.exceededBy_any _), Match.stop_ofGroups]
  rfl

/-- A group, where `inner` reads the groups in it. -/
def groupAround (bound : Nat) (inner : Parser Value) : Parser Value :=
  (between ((character '(').map Value.char) ((character ')').map Value.char)
    ((many bound .any inner).map Value.list)).map Mapper.depth.apply

variable (hsrc : input.source = .characters text)
include hsrc

/-- Without a parenthesis that is opened, there is no group. -/
theorem answer?_groupAround_unopened (h : text[start]? ≠ some '(') :
    ((groupAround bound inner).execute input start).answer? =
      some (.fail start (characterFailure input '(' start)) := by
  rw [groupAround, map, answer?_mapReply, between, skip, answer?_map_seq, skipLeft, answer?_map_seq,
    map, answer?_mapReply, answer?_character hsrc, if_neg h]
  rfl

/-- After the groups inside, a group is closed, or fails as its closing parenthesis does. -/
theorem answer?_groupAround (hm : input.modality ∈ inner.accepts)
    (hinner : ∀ n, start < n → inner.ReadsGroup input text n)
    (htext : text.drop start = '(' :: (gs.written ++ rest)) (hrest : NoneAhead rest)
    (hb : gs.written.length < bound) :
    ((groupAround bound inner).execute input start).answer? =
      some (if rest.head? = some ')' then
          .succeed (start + gs.enclosed.length) (.int (gs.depth + 1))
        else .fail start (characterFailure input ')' (start + 1 + gs.written.length))) := by
  have hopen : text[start]? = some '(' := by
    rw [← List.head?_drop, htext]
    rfl
  have hinside : text.drop (start + 1) = gs.written ++ rest :=
    drop_of_append (show text.drop start = ['('] ++ _ from htext)
  have hclose : text[start + 1 + gs.written.length]? = rest.head? := by
    rw [← List.head?_drop, drop_of_append hinside]
  have hfirst : (((character '(').map Value.char).execute input start).answer? =
      some (Match.reply ⟨start + 1, .char '(', false⟩) := by
    rw [map, answer?_mapReply, answer?_character hsrc, if_pos hopen]
    rfl
  have hmiddle : (((many bound .any inner).map Value.list).execute input (start + 1)).answer? =
      some (Match.reply ⟨start + 1 + gs.written.length,
        .list (Match.values (Match.ofGroups (start + 1) gs)), false⟩) := by
    rw [map, answer?_mapReply, answer?_many_groups hm hinner hinside hrest hb]
    rfl
  rw [groupAround, map, answer?_mapReply, answer?_between hfirst hmiddle, map, answer?_mapReply,
    answer?_character hsrc, hclose]
  split
  · have hend : start + gs.enclosed.length = start + 1 + gs.written.length + 1 := by
      rw [Groups.length_enclosed]
      omega
    rw [hend, ← Match.depth_ofGroups (start + 1) gs]
    rfl
  · rfl

/-- A group reads what stands at a place, if `inner` does so further on in the text. -/
theorem readsGroup_groupAround (hm : input.modality ∈ inner.accepts) (hb : text.length < bound)
    (hinner : start < text.length → ∀ n, start < n → inner.ReadsGroup input text n) :
    (groupAround bound inner).ReadsGroup input text start := by
  by_cases hopen : (text.drop start).head? = some '('
  · -- The text is taken apart as the parser does it: a parenthesis, groups, and what there is no group at.
    obtain ⟨gs, rest, htext, hrest⟩ := Groups.exists_of_opened hopen
    have hlength := congrArg List.length htext
    rw [List.length_drop, List.length_cons, List.length_append] at hlength
    have hanswer := answer?_groupAround hsrc hm (hinner (by omega)) htext hrest
      (by omega : gs.written.length < bound)
    by_cases hclose : rest.head? = some ')'
    · rw [if_pos hclose] at hanswer
      obtain ⟨tail, rfl⟩ := List.head?_eq_some_iff.1 hclose
      rw [← Groups.enclosed_append] at htext
      exact ⟨_, congrArg (Option.map Reply.match?) hanswer, .present htext⟩
    · rw [if_neg hclose] at hanswer
      exact ⟨none, congrArg (Option.map Reply.match?) hanswer, .absent (htext ▸ hrest.unclosed hclose)⟩
  · have hanswer : ((groupAround bound inner).execute input start).answer? = _ :=
      answer?_groupAround_unopened hsrc (List.head?_drop ▸ hopen)
    exact ⟨none, congrArg (Option.map Reply.match?) hanswer, .absent (.of_unopened hopen)⟩

end Parser

/-! ## The grammar -/

namespace Grammar

/-- What a group is, by the name under which groups inside are read: its value is how deep it nests. -/
def nestedBody (name : String) : Grammar :=
  map (between (character '(') (character ')') (anyNumber (ref name))) .depth

/-- A group of parentheses, with any number of groups in it. -/
def nested (name : String) (traced : Bool) : Grammar := recursive name traced (nestedBody name)

/-- A grammar up to the end of the input. -/
def toEnd (g : Grammar) : Grammar := skip g (.primitive .endOfInput)

/-- What a grammar has found where a state stands tells what the grammar comes to from that state. -/
theorem returns_of_found {α : Type} {g : Grammar} {s : State α} {a : α} (hs : s.outcome = .ok a)
    {bound : Nat} {found : Option (Match Value)}
    (hf : ((g.toParser bound).execute s.input s.cursor).found = some found) :
    ∃ t, g.Returns s t ∧ (t.isFailure = false ↔ found.isSome = true) ∧
      ∀ m, found = some m → t = ⟨m.reply, s.input⟩ := by
  have happly := Parser.answer?_apply_of_ok (g.toParser bound) hs
  cases found with
  | none =>
    obtain ⟨⟨stop, _, flag⟩, e, hr, ⟨⟩⟩ := Run.found_eq_none_iff.1 hf
    refine ⟨⟨⟨stop, .error e, flag⟩, s.input⟩, ⟨bound, ?_⟩, iff_of_false nofun nofun, nofun⟩
    rw [happly, hr]
    rfl
  | some m =>
    refine ⟨⟨m.reply, s.input⟩, ⟨bound, ?_⟩, iff_of_true rfl rfl, fun _ h => by cases h; rfl⟩
    rw [happly, Run.found_eq_match.1 hf]
    rfl

variable {name : String} {traced : Bool}

theorem parser_nestedBody (bound : Nat) (handles : Address → Parser Value) (a : Address) :
    (nestedBody name).parser bound [(name, handles)] a =
      Parser.groupAround bound (handles (0 :: 1 :: 0 :: 0 :: a)) := by
  have hr (b : Address) : (Scope.naming bound).ref name [(name, handles)] b = handles b := by
    rw [← Grammar.interpret, ← Grammar.parser, Grammar.parser_ref, Scope.find_cons_self]
  simp only [nestedBody, between, anyNumber, character, Grammar.interpret, hr]
  rfl

/-- The definition is as its references are that are unfolded as deep as the bound allows. -/
theorem parser_nested (bound : Nat) (a : Address) :
    (nested name traced).parser bound [] a =
      instances name traced (nestedBody name) bound bound a := by
  rw [nested, Grammar.parser_recursive]
  rfl

/-- A reference to the group runs a group whose references are one unfolding less deep. -/
theorem answer?_instances_succ (bound depth : Nat) (a : Address) (input : Input) (n : Nat) :
    ((instances name traced (nestedBody name) bound (depth + 1) a).execute input n).answer? =
      ((Parser.groupAround bound (instances name traced (nestedBody name) bound depth
        (0 :: 1 :: 0 :: 0 :: 0 :: a))).execute input n).answer? := by
  rw [instances, references, Parser.unfold, Parser.execute_handle, Run.answer?_bind,
    parser_nestedBody]
  rfl

theorem modality_mem_instances (bound depth : Nat) (a : Address) (m : Modality) :
    m ∈ (instances name traced (nestedBody name) bound depth a).accepts := by
  cases depth <;> exact Modalities.mem_univ m

variable {input : Input} {text : List Char} (hsrc : input.source = .characters text)
include hsrc

/-- References that are unfolded deeper than the text is long read its groups. -/
theorem readsGroup_instances {bound depth start : Nat} (hb : text.length < bound)
    (hdepth : text.length - start < depth) (a : Address) :
    (instances name traced (nestedBody name) bound depth a).ReadsGroup input text start := by
  -- One unfolding is spent on each parenthesis that is opened, after which less of the text is left.
  induction depth generalizing start a with
  | zero => exact absurd hdepth (Nat.not_lt_zero _)
  | succ depth ih =>
    rw [Parser.ReadsGroup, Run.found, answer?_instances_succ]
    exact Parser.readsGroup_groupAround hsrc (modality_mem_instances _ _ _ _) hb
      fun hstart n hn => ih (by omega) _

theorem readsGroup_nested (name : String) (traced : Bool) (a : Address) (start : Nat) :
    ((nested name traced).parser (text.length + 1) [] a).ReadsGroup input text start := by
  rw [parser_nested]
  exact readsGroup_instances hsrc (Nat.lt_succ_self _) (by omega) a

theorem found_toEnd {g : Grammar} {bound n : Nat} {found : Option (Match Value)}
    (hf : ((g.parser bound [] [0]).execute input n).found = some found) :
    (((toEnd g).toParser bound).execute input n).found =
      some (found.bind (Match.toEnd text)) := by
  rw [toParser, toEnd, Grammar.parser, Grammar.interpret, Parser.found_skip, hf, Grammar.interpret,
    Parser.lift_self, Option.bind_some]
  cases found with
  | none => rfl
  | some m =>
    dsimp only
    rw [Primitive.parser, Parser.found_map, Parser.found_endOfInput, Option.bind_some, Match.toEnd,
      Input.isEnd, hsrc, Source.isEnd, Source.length]
    simp only [decide_eq_true_eq]
    split <;> rfl

end Grammar

open Triparse.Grammar (nested toEnd returns_of_found readsGroup_nested found_toEnd)

/-- **The grammar of groups reads just the groups of parentheses.** On a text, and from every state that has not
failed, it comes to an end. It succeeds if and only if a group stands at the cursor; then it goes just after
the parenthesis that closes the first one, and its value is the greatest number of parentheses of the group
that are open at once. With nothing but the end of the input allowed after it, it succeeds if and only if all
that is left of the text is one group. -/
theorem nested_reads_groups {α : Type} {s : State α} {a : α} {text : List Char} (name : String)
    (traced : Bool) (hs : s.outcome = .ok a) (hsrc : s.input.source = .characters text) :
    let ahead := text.drop s.cursor
    let after := fun inside : Groups =>
      s.succeed (s.cursor + inside.enclosed.length) (Value.int (inside.depth + 1))
    (∃ t, (nested name traced).Returns s t ∧
      (t.isFailure = false ↔ ∃ inside : Groups, inside.enclosed <+: ahead) ∧
      ∀ inside : Groups, inside.enclosed <+: ahead →
        t = after inside ∧ Encloses inside.enclosed (inside.depth + 1)) ∧
    ∃ t, (toEnd (nested name traced)).Returns s t ∧
      (t.isFailure = false ↔ ∃ inside : Groups, ahead = inside.enclosed) ∧
      ∀ inside : Groups, ahead = inside.enclosed → t = after inside := by
  intro ahead after
  obtain ⟨found, hf, hat⟩ := readsGroup_nested hsrc name traced [] s.cursor
  obtain ⟨found', hf', hat'⟩ := readsGroup_nested hsrc name traced [0] s.cursor
  constructor
  · have hrun : (((nested name traced).toParser (text.length + 1)).execute s.input s.cursor).found =
        some found := hf
    obtain ⟨t, ht, hsuccess, hmatch⟩ := returns_of_found hs hrun
    refine ⟨t, ht, hsuccess.trans hat.isSome_iff, fun inside hin => ⟨?_, inside.encloses⟩⟩
    exact hmatch _ (hat.eq_some hin)
  · have hwhole := found_toEnd hsrc hf'
    obtain ⟨t, ht, hsuccess, hmatch⟩ := returns_of_found hs hwhole
    refine ⟨t, ht, hsuccess.trans hat'.isSome_toEnd_iff, fun inside hin => ?_⟩
    exact hmatch _ (hat'.toEnd_eq_some hin)

/-- A group in a group, with another character after it. -/
theorem nested_reads_groups_of_pair :
    let s := State.start ⟨.characters ['(', '(', ')', ')', 'x'], {}⟩
    (nested "group" true).Returns s (s.succeed 4 (.int 2)) ∧
      ∃ t, (toEnd (nested "group" true)).Returns s t ∧ t.isFailure = true := by
  intro s
  obtain ⟨⟨t, ht, -, hgroup⟩, ⟨t', ht', hwhole, -⟩⟩ :=
    nested_reads_groups (s := s) "group" true rfl rfl
  constructor
  · obtain ⟨rfl, -⟩ := hgroup (.group .none .none) ⟨['x'], rfl⟩
    exact ht
  · refine ⟨t', ht', eq_true_of_ne_false fun h => ?_⟩
    obtain ⟨inside, hin⟩ := hwhole.1 h
    have htext : (Groups.group .none .none).enclosed ++ ['x'] = inside.enclosed ++ [] :=
      hin.trans (List.append_nil _).symm
    exact List.cons_ne_nil _ _ (Groups.eq_of_enclosed_append htext).2

end Triparse
