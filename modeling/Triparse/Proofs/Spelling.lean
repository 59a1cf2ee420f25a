import Triparse.Proofs.CursorBounds
import Triparse.Proofs.Literals
import Triparse.Proofs.PatternGroups

/-!
# No text is lost

A grammar is textual (`Grammar.Textual`) if it is put together from parsers of text by combinators that
keep all values in order. The value of a textual grammar, written out, is the text that has been passed
(`text_of_success`): nothing of it is missing, and nothing is there twice or left from an attempt that
was given up.

What is proved for each combinator is `Parser.Spells`: the way of writing its values that follows from
the ways of writing the values of its parts writes what it passes, and its values are not suppressed,
so that collections keep them.
-/

set_option autoImplicit false

namespace Triparse

variable {α β : Type}

/-! ## Passing over text -/

/-- Between two places of a text stands `passed`. -/
structure Passes (cs : List Char) (start stop : Nat) (passed : List Char) : Prop where
  drop_eq : cs.drop start = passed ++ cs.drop stop
  stop_eq : stop = start + passed.length

namespace Passes

variable {cs xs ys : List Char} {start middle stop : Nat}

theorem nil (cs : List Char) (start : Nat) : Passes cs start start [] := ⟨rfl, rfl⟩

theorem append (h : Passes cs start middle xs) (h' : Passes cs middle stop ys) :
    Passes cs start stop (xs ++ ys) where
  drop_eq := by rw [h.drop_eq, h'.drop_eq, List.append_assoc]
  stop_eq := by rw [h'.stop_eq, h.stop_eq, List.length_append, Nat.add_assoc]

theorem one {c : Char} (h : cs[start]? = some c) : Passes cs start (start + 1) [c] where
  drop_eq := by
    obtain ⟨hlt, rfl⟩ := List.getElem?_eq_some_iff.1 h
    exact List.drop_eq_getElem_cons hlt
  stop_eq := rfl

/-- The characters ahead, as many as there are. -/
theorem take {n : Nat} (h : n ≤ (cs.drop start).length) :
    Passes cs start (start + n) ((cs.drop start).take n) where
  drop_eq := by rw [← List.drop_drop, List.take_append_drop]
  stop_eq := by rw [List.length_take, Nat.min_eq_left h]

/-- What is passed is what stands there. -/
theorem eq_take (h : Passes cs start stop xs) : xs = (cs.drop start).take (stop - start) := by
  rw [h.drop_eq, h.stop_eq, Nat.add_sub_cancel_left, List.take_left]

theorem reach (h : Passes cs start stop xs) : start ≤ stop ∧ stop ≤ max start cs.length := by
  have hl := congrArg List.length h.drop_eq
  have hs := h.stop_eq
  rw [List.length_append, List.length_drop, List.length_drop] at hl
  omega

end Passes

/-- A way of writing optional values, with nothing for an absent one. -/
def writeOption (write : α → List Char) : Option α → List Char
  | some a => write a
  | none => []

/-- A reply whose value, if it has one, is not suppressed and is written as the text passed. -/
def Reply.Spells (cs : List Char) (start : Nat) (write : α → List Char) (r : Reply α) : Prop :=
  ∀ a, r.outcome = .ok a → r.suppressed = false ∧ Passes cs start r.cursor (write a)

/-- A parser whose values, on a text, are written as the text passed. -/
def Parser.Spells (cs : List Char) (settings : Settings) (write : α → List Char) (p : Parser α) :
    Prop :=
  p.Answers ⟨.characters cs, settings⟩ fun start => Reply.Spells cs start write

namespace Reply.Spells

variable {cs : List Char} {start : Nat} {write : α → List Char}

theorem succeed {stop : Nat} {a : α} (h : Passes cs start stop (write a)) :
    (Reply.succeed stop a).Spells cs start write := by
  intro _ ha
  cases ha
  exact ⟨rfl, h⟩

theorem fail (cursor : Nat) (e : Failure) :
    (Reply.fail cursor e : Reply α).Spells cs start write := by
  intro _ h
  cases h

/-- Collections keep the value. -/
theorem kept {r : Reply α} (h : r.Spells cs start write) {a : α} (ha : r.outcome = .ok a) :
    r.kept a = [a] := by
  rw [Reply.kept, (h a ha).1]
  rfl

end Reply.Spells

namespace Parser.Spells

open Run (Yields)

variable {cs : List Char} {settings : Settings} {write : α → List Char} {write' : β → List Char}
  {p : Parser α} {q : Parser β}

theorem of_parse
    (h : ∀ start, (p.parse ⟨.characters cs, settings⟩ start).Yields
      (Reply.Spells cs start write)) : p.Spells cs settings write :=
  Answers.of_parse (fun _ _ _ => .fail _ _) fun start _ => h start

theorem described (hp : p.Spells cs settings write) (name : String) (label : Option String) :
    (p.described name label).Spells cs settings write :=
  Answers.described (fun _ _ => .fail _ _) hp name label

/-! ## Combinators -/

theorem map (hp : p.Spells cs settings write) (f : α → β) (hf : ∀ a, write' (f a) = write a) :
    (p.map f).Spells cs settings write' := by
  refine of_parse fun start => (hp start).bind ?_
  intro reply hr
  obtain ⟨cursor, e | a, flag⟩ := reply
  · exact .pure (.fail _ _)
  · refine .pure ?_
    intro _ h
    cases h
    rw [hf]
    exact hr a rfl

theorem seq (hp : p.Spells cs settings write) (hq : q.Spells cs settings write') :
    (p.seq q).Spells cs settings fun (a, b) => write a ++ write' b := by
  refine of_parse fun start => (hp start).bind ?_
  intro reply hr
  obtain ⟨middle, e | a, flag⟩ := reply
  · exact .pure (.fail _ _)
  · obtain ⟨-, hpass⟩ := hr a rfl
    refine (hq middle).bind ?_
    intro reply hs
    obtain ⟨stop, e | b, flag'⟩ := reply
    · exact .pure (.fail _ _)
    · obtain ⟨-, hpass'⟩ := hs b rfl
      exact .pure (.succeed (hpass.append hpass'))

/-- The values of a chain are written one after the other. -/
theorem runEach {ps : List (Parser α)} (hps : ∀ p ∈ ps, p.Spells cs settings write) :
    ∀ element start, (runEach ⟨.characters cs, settings⟩ ps element start).Yields fun chain =>
      ∀ stop values, chain = .ok (stop, values) → Passes cs start stop (values.flatMap write) := by
  induction ps with
  | nil =>
    refine fun _ start => .pure ?_
    intro _ _ h
    cases h
    exact .nil cs start
  | cons p ps ih =>
    obtain ⟨hp, hps⟩ := List.forall_mem_cons.1 hps
    intro element start
    refine (hp start).bind ?_
    intro reply hr
    obtain ⟨middle, e | a, flag⟩ := reply
    · exact .pure fun _ _ h => nomatch h
    · refine (ih hps (element + 1) middle).bind fun chain hc => .pure ?_
      rintro stop values h
      obtain _ | ⟨stop', rest⟩ := chain
      · cases h
      · cases h
        rw [hr.kept rfl, List.singleton_append, List.flatMap_cons]
        exact (hr a rfl).2.append (hc _ _ rfl)

theorem sequence {ps : List (Parser α)} (hps : ∀ p ∈ ps, p.Spells cs settings write) :
    (Parser.sequence ps).Spells cs settings (List.flatMap write) := by
  refine of_parse fun start => (runEach hps 0 start).bind ?_
  intro chain hc
  rcases chain with ⟨element, e⟩ | ⟨stop, values⟩
  · exact .pure (.fail _ _)
  · exact .pure (.succeed (hc stop values rfl))

theorem times (hp : p.Spells cs settings write) (count : Nat) :
    (Parser.times p count).Spells cs settings (List.flatMap write) := by
  refine of_parse fun start => ?_
  have hps : ∀ q ∈ List.replicate count p, q.Spells cs settings write := List.forall_mem_replicate.2 (.inr hp)
  simp only [Parser.times, runTimes_eq_runEach]
  refine (runEach hps 0 start).bind ?_
  intro chain hc
  rcases chain with ⟨index, e⟩ | ⟨stop, values⟩
  · exact .pure (.fail _ _)
  · exact .pure (.succeed (hc stop values rfl))

/-- The values of a loop are written one after the other; a match that fails leaves nothing. -/
theorem repeatFrom (hp : p.Spells cs settings write) (stopped : Nat → Failure → Event)
    (range : Repetition) (bound : Nat) :
    ∀ count start,
      (repeatFrom (fun _ => p.execute ⟨.characters cs, settings⟩) stopped range bound count
        start).Yields fun t => Passes cs start t.cursor (t.values.flatMap write) := by
  induction bound with
  | zero => exact fun _ _ => .unfinished
  | succ bound ih =>
    intro count start
    refine (hp start).bind ?_
    intro reply hr
    obtain ⟨cursor, e | a, flag⟩ := reply
    · exact (Yields.trivial _).bind fun _ _ => .pure (.nil cs start)
    · obtain ⟨-, hpass⟩ := hr a rfl
      dsimp only
      rw [hr.kept rfl]
      split
      · refine .pure ?_
        rw [List.flatMap_singleton]
        exact hpass
      · refine (ih (count + 1) cursor).bind fun rest ht => .pure ?_
        rw [List.singleton_append, List.flatMap_cons]
        exact hpass.append ht

theorem many (hp : p.Spells cs settings write) (bound : Nat) (range : Repetition) :
    (Parser.many bound range p).Spells cs settings (List.flatMap write) := by
  refine of_parse fun start => (repeatFrom hp _ range bound 0 start).bind fun t ht => ?_
  unfold Tally.reply
  split
  · exact .pure (.succeed ht)
  · exact .pure (.fail _ _)

theorem maybe (hp : p.Spells cs settings write) :
    (Parser.maybe p).Spells cs settings (writeOption write) := by
  refine of_parse fun start => (hp start).bind ?_
  intro reply hr
  obtain ⟨cursor, e | a, flag⟩ := reply
  · exact .pure (.succeed (.nil cs start))
  · refine .pure ?_
    intro _ h
    cases h
    exact hr a rfl

theorem anythingExcept (probe : Parser β) :
    (Parser.anythingExcept Char probe).Spells cs settings fun c => [c] := by
  refine of_parse fun start => (Yields.trivial _).bind ?_
  intro reply _
  obtain ⟨cursor, e | b, flag⟩ := reply
  · dsimp only
    split
    · rename_i c hc
      exact .pure (.succeed (.one hc))
    · exact .pure (.fail _ _)
  · exact .pure (.fail _ _)

theorem everythingUntil (probe : Parser β) :
    (Parser.everythingUntil Char probe).Spells cs settings id := by
  refine of_parse fun start => (Parser.Bounded.search probe _ _ start).bind ?_
  intro found hs
  rcases found with last | stop
  · exact .pure (.fail _ _)
  · obtain ⟨hstart, hstop⟩ := hs stop rfl
    have hpass : Passes cs start (start + (stop - start)) ((cs.drop start).take (stop - start)) := by
      refine .take ?_
      rw [List.length_drop]
      exact Nat.sub_le_iff_le_add'.2 hstop
    rw [Nat.add_sub_cancel' hstart] at hpass
    exact .pure (.succeed hpass)

theorem stringUntil (probe : Parser β) :
    (Parser.stringUntil probe).Spells cs settings String.toList :=
  ((everythingUntil probe).map String.ofList fun _ => String.toList_ofList).described _ _

/-! ## Primitives -/

theorem elementWhere (name expected : String) (test : Char → Bool) :
    (Parser.elementWhere name expected test).Spells cs settings fun c => [c] := by
  refine of_parse fun start => ?_
  dsimp only [Parser.elementWhere]
  split
  · rename_i c hc
    split
    · exact .pure (.succeed (.one hc))
    · exact .pure (.fail _ _)
  · exact .pure (.fail _ _)

theorem string (text : String) : (Parser.string text).Spells cs settings String.toList := by
  refine of_parse fun start => ?_
  dsimp only [Parser.string]
  cases hm : compareLiteral (· == ·) (cs.drop start) text.toList with
  | matched =>
    have hprefix := compareLiteral_eq_matched_iff.1 hm
    have hpass := Passes.take hprefix.length_le
    rw [← List.prefix_iff_eq_take.1 hprefix, String.length_toList] at hpass
    exact .pure (.succeed hpass)
  | tooShort => exact .pure (.fail _ _)
  | different => exact .pure (.fail _ _)

theorem regex {text : String} {pattern : Pattern.Compiled Pattern.engine}
    (h : Pattern.Compiled.ofText Pattern.engine text 0 = .ok pattern) :
    (Parser.regex pattern).Spells cs settings String.toList := by
  refine of_parse fun start => ?_
  rw [Parser.parse_regex]
  split
  · rename_i width found hm
    obtain ⟨hfound, hwidth⟩ := Pattern.Compiled.match?_whole h (Pattern.Compiled.anchoredCaptures h) hm
    have hpass := Passes.take hwidth
    refine .pure (.succeed ?_)
    rw [hfound]
    exact hpass
  · exact .pure (.fail _ _)

theorem runOf {p : Parser Char} (hp : p.Spells cs settings fun c => [c]) (bound : Nat) :
    (Parser.runOf bound p).Spells cs settings String.toList :=
  (hp.many bound _).map String.ofList fun xs => by
    rw [String.toList_ofList, List.flatMap_singleton']

theorem digit : Parser.digit.Spells cs settings fun c => [c] := (elementWhere _ _ _).described _ _

theorem letter : Parser.letter.Spells cs settings fun c => [c] := (elementWhere _ _ _).described _ _

theorem digits (bound : Nat) : (Parser.digits bound).Spells cs settings String.toList :=
  (digit.runOf bound).described _ _

theorem letters (bound : Nat) : (Parser.letters bound).Spells cs settings String.toList :=
  (letter.runOf bound).described _ _

theorem whitespace (bound : Nat) : (Parser.whitespace bound).Spells cs settings String.toList :=
  ((elementWhere _ _ _).runOf bound).described _ _

theorem optionalWhitespace (bound : Nat) :
    (Parser.optionalWhitespace bound).Spells cs settings String.toList := by
  refine (whitespace bound).maybe.map _ fun found => ?_
  cases found <;> rfl

end Parser.Spells

/-! ## Values in writing -/

namespace Value

/-- The characters of the text of a value. -/
def written (v : Value) : List Char := v.text.toList

theorem written_list (vs : List Value) : (list vs).written = vs.flatMap written := by
  rw [written, text]
  induction vs with
  | nil => rfl
  | cons v vs ih => rw [texts, String.toList_append, ih, List.flatMap_cons, written]

theorem written_char (c : Char) : (char c).written = [c] := by
  rw [written, text, String.toList_singleton]

theorem written_chars (cs : List Char) : (ofList char cs).written = cs := by
  rw [ofList, written_list, List.flatMap_map]
  simp only [written_char, List.flatMap_singleton']

theorem written_ofPair (vw : Value × Value) :
    (ofPair vw).written = vw.1.written ++ vw.2.written := by
  rw [ofPair, written, text, String.toList_append, written, written]

theorem written_ofOption (o : Option Value) :
    (ofOption o).written = writeOption written o := by
  cases o <;> rfl

/-- The elements of a list, or the value that is no list, are written as the value is. -/
theorem flatMap_written_asList (v : Value) : v.asList.flatMap written = v.written := by
  cases v with
  | list vs => exact (written_list vs).symm
  | _ => exact List.append_nil _

/-- Texts joined with nothing between them are written one after the other. -/
theorem toList_join (vs : List Value) :
    (String.intercalate "" (vs.map text)).toList = vs.flatMap written := by
  induction vs with
  | nil => rfl
  | cons v vs ih =>
    rw [List.flatMap_cons, ← ih, written]
    cases vs <;> simp

end Value

/-! ## Grammars -/

/-- The grammars of text whose combinators keep all values in order. What a probe is made of does not
matter. -/
inductive Grammar.Textual : Grammar → Prop
  | string (text : String) : Textual (.primitive (.string text))
  | character (c : Char) : Textual (.primitive (.character c))
  | anyOf (choices : String) : Textual (.primitive (.anyOf choices))
  | charWhere (description : String) (test : CharTest) :
      Textual (.primitive (.charWhere description test))
  | anyChar : Textual (.primitive (.any .characters))
  | digit : Textual (.primitive .digit)
  | digits : Textual (.primitive .digits)
  | letter : Textual (.primitive .letter)
  | letters : Textual (.primitive .letters)
  | whitespace : Textual (.primitive .whitespace)
  | optionalWhitespace : Textual (.primitive .optionalWhitespace)
  | regex {text : String} {pattern : Pattern.Compiled Pattern.engine}
      (h : Pattern.Compiled.ofText Pattern.engine text 0 = .ok pattern) :
      Textual (.primitive (.regex pattern))
  | anythingExcept (probe : Grammar) : Textual (.anythingExcept .characters probe)
  | everythingUntil (probe : Grammar) : Textual (.everythingUntil .characters probe)
  | stringUntil (probe : Grammar) : Textual (.stringUntil probe)
  | sequence {gs : List Grammar} (h : ∀ g ∈ gs, Textual g) : Textual (.sequence gs)
  | seq {g h : Grammar} (hg : Textual g) (hh : Textual h) : Textual (.seq g h)
  | choice {gs : List Grammar} (h : ∀ g ∈ gs, Textual g) : Textual (.choice gs)
  | maybe {g : Grammar} (hg : Textual g) : Textual (.maybe g)
  | many (range : Repetition) {g : Grammar} (hg : Textual g) : Textual (.many range g)
  | times {g : Grammar} (hg : Textual g) (count : Nat) : Textual (.times g count)
  | join {g : Grammar} (hg : Textual g) : Textual (.join g "")
  | named {g : Grammar} (hg : Textual g) (name : String) : Textual (.named g name)
  | label {g : Grammar} (hg : Textual g) (text : String) : Textual (.label g text)
  | fix (name : String) {body : Grammar} (hb : Textual body) : Textual (.fix name body)
  | recursive (name : String) (traced : Bool) {body : Grammar} (hb : Textual body) :
      Textual (.recursive name traced body)
  | ref (name : String) : Textual (.ref name)

namespace Grammar

/-- The parsers of grammars are parsers of the grammars. -/
theorem forall_mem_parsers {bound : Nat} {scope : Scope} {P : Parser Value → Prop} :
    ∀ {gs : List Grammar}, (∀ g ∈ gs, ∀ a, P (g.parser bound scope a)) →
      ∀ a index, ∀ p ∈ parsers bound gs scope a index, P p
  | [], _, _, _ => nofun
  | g :: gs, h, a, index => by
    obtain ⟨hg, hgs⟩ := List.forall_mem_cons.1 h
    rw [parsers]
    exact List.forall_mem_cons.2 ⟨hg _, forall_mem_parsers hgs a (index + 1)⟩

/-- A textual grammar spells, in every scope whose parsers do. -/
theorem Textual.spells {g : Grammar} (hg : g.Textual) (bound : Nat) (cs : List Char)
    (settings : Settings) :
    ∀ {scope : Scope}, Scope.All (Parser.Spells cs settings Value.written) scope →
      ∀ a, (g.parser bound scope a).Spells cs settings Value.written := by
  induction hg with
  | string text => exact fun _ _ => (Parser.Spells.string text).map _ fun _ => rfl
  | character | anyOf | charWhere | anyChar =>
    exact fun _ _ => (Parser.Spells.elementWhere _ _ _).map _ Value.written_char
  | digit => exact fun _ _ => Parser.Spells.digit.map _ Value.written_char
  | digits => exact fun _ _ => (Parser.Spells.digits bound).map _ fun _ => rfl
  | letter => exact fun _ _ => Parser.Spells.letter.map _ Value.written_char
  | letters => exact fun _ _ => (Parser.Spells.letters bound).map _ fun _ => rfl
  | whitespace => exact fun _ _ => (Parser.Spells.whitespace bound).map _ fun _ => rfl
  | optionalWhitespace =>
    exact fun _ _ => (Parser.Spells.optionalWhitespace bound).map _ fun _ => rfl
  | regex h => exact fun _ _ => (Parser.Spells.regex h).map _ fun _ => rfl
  | anythingExcept probe =>
    exact fun _ _ => (Parser.Spells.anythingExcept _).map _ Value.written_char
  | everythingUntil probe =>
    exact fun _ _ => (Parser.Spells.everythingUntil _).map _ Value.written_chars
  | stringUntil probe => exact fun _ _ => (Parser.Spells.stringUntil _).map _ fun _ => rfl
  | sequence _ ih =>
    intro scope hs a
    refine (Parser.Spells.sequence ?_).map _ Value.written_list
    exact forall_mem_parsers (fun g hg => ih g hg hs) a 0
  | seq _ _ ihg ihh => exact fun hs a => ((ihg hs _).seq (ihh hs _)).map _ Value.written_ofPair
  | choice _ ih =>
    intro scope hs a
    exact Parser.Answers.choice (fun _ _ => .fail _ _)
      (forall_mem_parsers (fun g hg => ih g hg hs) a 0)
  | maybe _ ih => exact fun hs a => (ih hs _).maybe.map _ Value.written_ofOption
  | many range _ ih => exact fun hs a => ((ih hs _).many bound range).map _ Value.written_list
  | times _ count ih => exact fun hs a => ((ih hs _).times count).map _ Value.written_list
  | join _ ih =>
    intro scope hs a
    have hl := (ih hs (0 :: a)).map _ Value.flatMap_written_asList
    exact (hl.map _ Value.toList_join).map _ fun _ => rfl
  | named _ name ih => exact fun hs a => (ih hs _).described name none
  | label _ text ih => exact fun hs a => (ih hs _).described _ _
  | @fix name body _ ih =>
    intro scope hs a
    have hd : ∀ handles, (∀ b, (handles b).Spells cs settings Value.written) → ∀ _ : Address,
        (body.parser bound ((name, handles) :: scope) (0 :: a)).Spells cs settings Value.written :=
      fun handles hh _ => ih (hs.cons hh) (0 :: a)
    have hu := Parser.Answers.unfold (fun _ _ _ => .fail _ _) (fun _ => pure ()) hd bound
    exact Parser.Answers.defined (fun _ _ _ => .fail _ _) (hd _ hu a)
  | @recursive name traced body _ ih =>
    intro scope hs a
    have hd : ∀ handles, (∀ b, (handles b).Spells cs settings Value.written) → ∀ b : Address,
        (body.parser bound ((name, handles) :: scope) (0 :: b)).Spells cs settings Value.written :=
      fun handles hh b => ih (hs.cons hh) (0 :: b)
    exact Parser.Answers.unfold (fun _ _ _ => .fail _ _) _ hd bound a
  | ref name =>
    intro scope hs a
    rw [parser_ref]
    unfold Scope.find
    split
    · rename_i handles hl
      exact hs name handles hl a
    · exact Parser.Answers.orphan fun _ _ => .fail _ _

end Grammar

/-- **No text is lost, and none is there twice.** If a textual grammar succeeds on a text, its value in
writing is the part of the text from where it has started to where it has stopped. -/
theorem text_of_success {g : Grammar} (hg : g.Textual) {bound : Nat} {address : Address}
    {cs : List Char} {settings : Settings} {start : Nat} {r : Reply Value} {events : List Event}
    (hr : (g.parser bound [] address).execute ⟨.characters cs, settings⟩ start = .finished r events)
    {v : Value} (hv : r.outcome = .ok v) :
    v.text = String.ofList ((cs.drop start).take (r.cursor - start)) ∧
      start ≤ r.cursor ∧ r.cursor ≤ max start cs.length := by
  have hs := hg.spells bound cs settings (.nil _) address start r events hr
  obtain ⟨-, hpass⟩ := hs v hv
  refine ⟨?_, hpass.reach⟩
  rw [← hpass.eq_take, Value.written, String.ofList_toList]

/-- Nested parentheses with letters inside, from the second character on. -/
theorem text_of_success_of_parentheses :
    let inside := Grammar.seq (.character '(') (.seq (.ref "group") (.character ')'))
    let letters := Grammar.many .any (.anythingExcept .characters (.character ')'))
    let group := Grammar.fix "group" (.choice [inside, letters])
    let run := (group.parser 4 [] []).execute ⟨.characters ['x', '(', '(', 'a', 'b', ')', ')'], {}⟩ 1
    ∃ r events v, run = .finished r events ∧ r.outcome = .ok v ∧ r.cursor = 7 ∧
      v.text = String.ofList (['(', '(', 'a', 'b', ')', ')'].take (r.cursor - 1)) := by
  intro inside letters group run
  have hinside : inside.Textual := .seq (.character '(') (.seq (.ref "group") (.character ')'))
  have hletters : letters.Textual := .many .any (.anythingExcept (.character ')'))
  have hgroup : group.Textual := by
    refine .fix "group" (.choice (List.forall_mem_cons.2 ⟨hinside, ?_⟩))
    exact List.forall_mem_singleton.2 hletters
  obtain ⟨r, events, v, hr, hv, hcursor⟩ :
      ∃ r events v, run = .finished r events ∧ r.outcome = .ok v ∧ r.cursor = 7 :=
    ⟨_, _, _, rfl, rfl, rfl⟩
  exact ⟨r, events, v, hr, hv, hcursor, (text_of_success hgroup hr hv).1⟩

end Triparse
