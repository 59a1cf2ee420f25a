import Triparse.Parser.CharRun
import Triparse.Proofs.OptionalMatches
import Triparse.Proofs.Scanning

/-!
# Runs of characters

One or more characters of a class are the longest run of them that stands at the cursor, and there is a failure
if and only if that run is empty (`runs_are_longest`). A parser that takes one element at a time
(`Parser.TakesOne`) makes the elements of the longest run its matches (`LongestRun.course`); what the
repetition comes to is then changed into a text and put under the name of the class.
-/

set_option autoImplicit false

namespace Triparse

variable {α β : Type}

/-! ## Longest runs -/

/-- `run` is the longest beginning of `xs` in which all elements pass the test. -/
structure LongestRun (test : α → Bool) (xs run : List α) : Prop where
  starts : run <+: xs
  passes : ∀ x ∈ run, test x = true
  longest : ∀ other, other <+: xs → (∀ x ∈ other, test x = true) → other.length ≤ run.length

theorem longestRun_takeWhile (test : α → Bool) (xs : List α) :
    LongestRun test xs (xs.takeWhile test) where
  starts := List.takeWhile_prefix test
  passes := List.all_eq_true.1 List.all_takeWhile
  longest other ho hp := by
    obtain ⟨rest, rfl⟩ := ho
    rw [List.takeWhile_append_of_pos hp, List.length_append]
    exact Nat.le_add_right _ _

theorem LongestRun.unique {test : α → Bool} {xs run run' : List α} (h : LongestRun test xs run)
    (h' : LongestRun test xs run') : run = run' := by
  have hle := h'.longest run h.starts h.passes
  have hge := h.longest run' h'.starts h'.passes
  exact (List.prefix_of_prefix_length_le h.starts h'.starts hle).eq_of_length (Nat.le_antisymm hle hge)

/-- What comes after the longest run does not begin with an element that passes the test. -/
theorem LongestRun.next_fails {test : α → Bool} {run rest : List α}
    (h : LongestRun test (run ++ rest) run) : rest.head?.filter test = none := by
  cases rest with
  | nil => rfl
  | cons x rest =>
    have hx : ¬ test x = true := by
      intro hx
      -- With `x` the run would be longer still.
      have hlonger : run ++ [x] <+: run ++ x :: rest := (List.prefix_append_right_inj run).2 ⟨rest, rfl⟩
      have hlength := h.longest (run ++ [x]) hlonger fun y hy => by
        rcases List.mem_append.1 hy with hy | hy
        · exact h.passes y hy
        · rwa [List.mem_singleton.1 hy]
      rw [List.length_append, List.length_singleton] at hlength
      omega
    rw [List.head?_cons, Option.filter_some, if_neg hx]

/-! ## One element at a time -/

/-- On an input, the parser takes one element that passes the test, and fails where there is none. -/
structure Parser.TakesOne [Element α] (input : Input) (test : α → Bool) (p : Parser α) : Prop where
  accepts : input.modality ∈ p.accepts
  found (cursor : Nat) : (p.execute input cursor).found =
    some (((input.elements α)[cursor]?.filter test).map fun x => ⟨cursor + 1, x, false⟩)

namespace Parser

/-- A parser under another name matches where it does without, and reports its failures at its start. -/
theorem answer?_described {p : Parser α} {input : Input} (hm : input.modality ∈ p.accepts)
    (name : String) (label : Option String) (cursor : Nat) :
    ((p.described name label).execute input cursor).answer? =
      (p.execute input cursor).answer?.map fun reply =>
        match reply.outcome with
        | .error e => .fail cursor (restate p.name name label e)
        | .ok _ => reply := by
  have hm' : input.modality ∈ (p.described name label).accepts := hm
  rw [execute_of_mem hm', described, Run.answer?_bind, Option.map_eq_bind]
  congr 1
  funext reply
  obtain ⟨stop, e | a, flag⟩ := reply <;> rfl

namespace TakesOne

variable [Element α] {input : Input} {test : α → Bool}

theorem elementWhere (hm : input.modality = Element.modality α) (name expected : String)
    (test : α → Bool) : (elementWhere name expected test).TakesOne input test := by
  have hm' : input.modality ∈ (Parser.elementWhere name expected test).accepts :=
    Modalities.mem_only.2 hm
  refine ⟨hm', fun cursor => ?_⟩
  rw [execute_of_mem hm']
  dsimp only [Parser.elementWhere]
  cases (input.elements α)[cursor]? with
  | none => rfl
  | some x =>
    dsimp only
    rw [Option.filter_some]
    split <;> rfl

theorem named {p : Parser α} (hp : p.TakesOne input test) (name : String) :
    (p.named name).TakesOne input test := by
  refine ⟨hp.accepts, fun cursor => ?_⟩
  rw [← hp.found cursor, Run.found, Parser.named, answer?_described hp.accepts, Run.found,
    Option.map_map]
  congr 1
  funext reply
  obtain ⟨stop, e | a, flag⟩ := reply <;> rfl

end TakesOne

end Parser

/-- A repetition of single elements takes the longest run of them. -/
theorem LongestRun.course [Element α] {input : Input} {test : α → Bool} {start : Nat} {run : List α}
    (h : LongestRun test ((input.elements α).drop start) run) {p : Parser α}
    (hp : p.TakesOne input test) (count : Nat) :
    Course (fun _ => p.execute input) count start (Match.ofElements start run) := by
  obtain ⟨rest, hrest⟩ := h.starts
  have hat (k : Nat) : (input.elements α)[start + k]? = (run ++ rest)[k]? := by
    rw [hrest, List.getElem?_drop]
  refine .ofElements hrest.symm (fun j hj hj' => ?_) ?_ count
  · obtain ⟨k, rfl⟩ := Nat.exists_eq_add_of_le hj
    have hk : k < run.length := Nat.lt_of_add_lt_add_left hj'
    rw [hp.found, hat, List.getElem?_append_left hk, List.getElem?_eq_getElem hk, Option.filter_some,
      if_pos (h.passes _ (List.getElem_mem hk))]
  · rw [← hrest] at h
    rw [hp.found, hat, List.getElem?_append_right (Nat.le_refl _), Nat.sub_self,
      ← List.head?_eq_getElem?, h.next_fails]
    rfl

/-! ## One or more elements -/

open Triparse.Parser (many maybe charWhere runOf digits letters whitespace optionalWhitespace
  answer?_mapReply answer?_described answer?_maybe answer?_apply_of_ok)

/-- The reply of one or more elements, by the run of them at the start: a success with `value` behind the
run, or, if the run is empty, a failure that tells of none. -/
def runReply (name : String) (start : Nat) (run : List α) (value : β) : Reply β :=
  if run = [] then .fail start (.countOutOfRange name start (.atLeast 1) 0 none)
  else .succeed (start + run.length) value

section
variable {input : Input} {start bound : Nat}

theorem LongestRun.answer?_many [Element α] {test : α → Bool} {run : List α}
    (h : LongestRun test ((input.elements α).drop start) run) {p : Parser α}
    (hp : p.TakesOne input test) (hb : run.length < bound) :
    ((many bound (.atLeast 1) p).execute input start).answer? =
      some (runReply "many" start run run) := by
  rw [← Match.length_ofElements start run] at hb
  obtain ⟨t, ht, -, hall⟩ := (h.course hp 0).answer .repetitionStopped
    (Repetition.exceededBy_zero (.atLeast 1)) hb
  rw [Parser.answer?_many hp.accepts, ht, hall rfl, Match.length_ofElements, Match.stop_ofElements,
    Match.values_ofElements, Option.map_some, Nat.zero_add]
  cases run with
  | nil => rfl
  | cons x run => rfl

/-- One or more characters as a text, under the name of their class. -/
theorem LongestRun.answer?_runOf {test : Char → Bool} {run : List Char}
    (h : LongestRun test ((input.elements Char).drop start) run) {p : Parser Char}
    (hp : p.TakesOne input test) (name : String) (hb : run.length < bound) :
    (((runOf bound p).named name).execute input start).answer? =
      some (runReply name start run (String.ofList run)) := by
  have hm : input.modality ∈ (runOf bound p).accepts := hp.accepts
  rw [Parser.named, answer?_described hm, runOf, Parser.map, answer?_mapReply, h.answer?_many hp hb]
  cases run with
  | nil => rfl
  | cons x run => rfl

/-- If the characters may be missing, the empty run is a success too. -/
theorem LongestRun.answer?_optional {test : Char → Bool} {run : List Char}
    (h : LongestRun test ((input.elements Char).drop start) run) {p : Parser Char}
    (hp : p.TakesOne input test) (name : String) (hb : run.length < bound) :
    (((maybe ((runOf bound p).named name)).valueIfAbsent "").execute input start).answer? =
      some (.succeed (start + run.length) (String.ofList run)) := by
  have hm : input.modality ∈ ((runOf bound p).named name).accepts := hp.accepts
  rw [Parser.valueIfAbsent, Parser.map, answer?_mapReply, answer?_maybe hm, Run.found,
    h.answer?_runOf hp name hb]
  cases run with
  | nil => rfl
  | cons x run => rfl

end

/-- What a state comes to under one or more characters of a class, where `rest` stands at its cursor: what
the longest run of them says. -/
def TakesRun (s : State β) (rest : List Char) (test : Char → Bool) (name : String)
    (value : List Char → α) (answer : Nat → Option (State α)) : Prop :=
  ∃ run, LongestRun test rest run ∧
    ∀ bound > run.length, answer bound = some ⟨runReply name s.cursor run (value run), s.input⟩

theorem TakesRun.of_execute {s : State β} {b : β} (hs : s.outcome = .ok b) {rest : List Char}
    {test : Char → Bool} {name : String} {value : List Char → α} {p : Nat → Parser α}
    (h : ∀ {run bound}, LongestRun test rest run → run.length < bound →
      ((p bound).execute s.input s.cursor).answer? = some (runReply name s.cursor run (value run))) :
    TakesRun s rest test name value fun bound => ((p bound).apply s).answer? := by
  refine ⟨_, longestRun_takeWhile test rest, fun bound hb => ?_⟩
  dsimp only
  rw [answer?_apply_of_ok _ hs, h (longestRun_takeWhile test rest) hb]
  rfl

/-- **Runs of characters are as long as they can be.** On every live state of characters, at whatever
cursor, also at the end or past it: one or more characters that pass a test, digits, letters and blanks are
each the longest run there is at the cursor, in order; where it is empty they fail, each under its own
name, with the count of none. Blanks that may be missing are the longest run, be it empty or not. -/
theorem runs_are_longest {s : State β} {b : β} (hs : s.outcome = .ok b) {chars : List Char}
    (hc : s.input.source = .characters chars) :
    let rest := chars.drop s.cursor
    (∀ description test, TakesRun s rest test "many" id fun bound =>
      ((many bound (.atLeast 1) (charWhere description test)).apply s).answer?) ∧
    (TakesRun s rest Text.isDigit "digits" String.ofList fun bound =>
      ((digits bound).apply s).answer?) ∧
    (TakesRun s rest Text.isLetter "letters" String.ofList fun bound =>
      ((letters bound).apply s).answer?) ∧
    (TakesRun s rest Text.isBlank "whitespace" String.ofList fun bound =>
      ((whitespace bound).apply s).answer?) ∧
    ∃ run, LongestRun Text.isBlank rest run ∧ ∀ bound > run.length,
      ((optionalWhitespace bound).apply s).answer? =
        some (s.succeed (s.cursor + run.length) (String.ofList run)) := by
  intro rest
  have hone (description : String) (test : Char → Bool) :
      (charWhere description test).TakesOne s.input test := by
    refine .elementWhere ?_ _ _ _
    rw [Input.modality, hc]
    rfl
  have hrest : rest = (s.input.elements Char).drop s.cursor := by
    rw [Input.elements, hc]
    rfl
  rw [hrest]
  refine ⟨fun description test => .of_execute hs fun h hb => ?_, .of_execute hs fun h hb => ?_,
    .of_execute hs fun h hb => ?_, .of_execute hs fun h hb => ?_,
    _, longestRun_takeWhile Text.isBlank _, fun bound hb => ?_⟩
  · exact h.answer?_many (hone description test) hb
  · exact h.answer?_runOf ((hone "a digit" Text.isDigit).named "digit") "digits" hb
  · exact h.answer?_runOf ((hone "a letter" Text.isLetter).named "letter") "letters" hb
  · exact h.answer?_runOf (hone "whitespace" Text.isBlank) "whitespace" hb
  · rw [answer?_apply_of_ok _ hs, optionalWhitespace, whitespace,
      (longestRun_takeWhile _ _).answer?_optional (hone "whitespace" Text.isBlank) "whitespace" hb]
    rfl

/-- Two digits after a letter that is no basic one are a run; at the letter behind them there is none, and
past the end no blank is missing. -/
theorem runs_are_longest_of_digits :
    let s := (State.start ⟨.characters ['é', '1', '2', 'a'], {}⟩).withCursor 1
    let behind := s.withCursor 3
    let past := s.withCursor 9
    ((digits 3).apply s).answer? = some (s.succeed 3 "12") ∧
      ((digits 3).apply behind).answer? =
        some (behind.fail (.countOutOfRange "digits" 3 ⟨1, none⟩ 0 none)) ∧
      ((optionalWhitespace 1).apply past).answer? = some (past.succeed 9 "") := by
  intro s behind past
  obtain ⟨run, hrun, hdigits⟩ := (runs_are_longest (s := s) rfl rfl).2.1
  obtain rfl := hrun.unique (longestRun_takeWhile _ _)
  obtain ⟨none, hnone, hfail⟩ := (runs_are_longest (s := behind) rfl rfl).2.1
  obtain rfl := hnone.unique (longestRun_takeWhile _ _)
  obtain ⟨blanks, hblanks, hpast⟩ := (runs_are_longest (s := past) rfl rfl).2.2.2.2
  obtain rfl := hblanks.unique (longestRun_takeWhile _ _)
  exact ⟨hdigits 3 (by decide), hfail 3 (by decide), hpast 1 (by decide)⟩

end Triparse
