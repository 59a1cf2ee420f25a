import Triparse.Proofs.CursorBounds
import Triparse.Proofs.GrammarAgreement

/-!
# Names and labels

A grammar without its names and labels (`Grammar.erase`) parses what the grammar parses, and fails where
and how it fails but for the wording of the failures (`execute_erase`). A wrapper reports failures where
its parser started; so this rests on failures standing there already, and a grammar is related to what is
left of it by two things at once, agreement and bounds (`Parser.Reworded`).
-/

set_option autoImplicit false

namespace Triparse

/-! ## Erasure -/

mutual

/-- A grammar without its names and labels. -/
def Grammar.erase : Grammar → Grammar
  | .primitive p => .primitive p
  | .choice gs => .choice (Grammar.eraseAll gs)
  | .sequence gs => .sequence (Grammar.eraseAll gs)
  | .many range g => .many range g.erase
  | .separated range separator value => .separated range separator.erase value.erase
  | .times g count => .times g.erase count
  | .maybe g => .maybe g.erase
  | .lookAhead g => .lookAhead g.erase
  | .anythingExcept shape g => .anythingExcept shape g.erase
  | .everythingUntil shape g => .everythingUntil shape g.erase
  | .stringUntil g => .stringUntil g.erase
  | .valueIfAbsent g default => .valueIfAbsent g.erase default
  | .ignoreIfAbsent g => .ignoreIfAbsent g.erase
  | .nth g index => .nth g.erase index
  | .last g => .last g.erase
  | .join g separator => .join g.erase separator
  | .map g f => .map g.erase f
  | .mapReply g f => .mapReply g.erase f
  | .ignore g => .ignore g.erase
  | .named g _ => g.erase
  | .label g _ => g.erase
  | .seq g h => .seq g.erase h.erase
  | .skip g h => .skip g.erase h.erase
  | .skipLeft g h => .skipLeft g.erase h.erase
  | .fix name g => .fix name g.erase
  | .recursive name traced g => .recursive name traced g.erase
  | .ref name => .ref name
  | .orphan => .orphan
  | .tap label g => .tap label g.erase
  | .rule body => .rule (Stmt.eraseAll body)

/-- Grammars without their names and labels. -/
def Grammar.eraseAll : List Grammar → List Grammar
  | [] => []
  | g :: gs => g.erase :: Grammar.eraseAll gs

/-- A step of a rule without the names and labels in it. -/
def Stmt.erase : Stmt → Stmt
  | .step g => .step g.erase
  | .limited g limit message => .limited g.erase limit message
  | .attempt g => .attempt g.erase
  | .recover g => .recover g.erase
  | .position => .position
  | .atEnd => .atEnd
  | .remaining => .remaining
  | .snippet => .snippet
  | .reject message => .reject message
  | .raise failure => .raise failure
  | .finish => .finish
  | .when g matched failed => .when g.erase (Stmt.eraseAll matched) (Stmt.eraseAll failed)
  | .loop g body => .loop g.erase (Stmt.eraseAll body)

/-- Steps of a rule without the names and labels in them. -/
def Stmt.eraseAll : List Stmt → List Stmt
  | [] => []
  | s :: ss => s.erase :: Stmt.eraseAll ss

end

/-- The grammars without names and labels. -/
def Fragment.undescribed : Fragment where
  node
    | .named .. | .label .. => false
    | _ => true

open Fragment (undescribed)

mutual

/-- No name and no label is left, however deep it was. -/
theorem Grammar.admits_erase : ∀ g : Grammar, undescribed.admits g.erase = true
  | .primitive _ | .ref _ | .orphan => rfl
  | .choice gs | .sequence gs => Grammar.admitsAll_erase gs
  | .many _ g | .times g _ | .maybe g | .lookAhead g | .anythingExcept _ g | .everythingUntil _ g
  | .stringUntil g | .valueIfAbsent g _ | .ignoreIfAbsent g | .nth g _ | .last g | .join g _
  | .map g _ | .mapReply g _ | .ignore g | .named g _ | .label g _ | .fix _ g | .recursive _ _ g
  | .tap _ g => g.admits_erase
  | .separated _ g h | .seq g h | .skip g h | .skipLeft g h =>
    (Bool.and_eq_true _ _).mpr ⟨g.admits_erase, h.admits_erase⟩
  | .rule body => Stmt.admitsSteps_erase body

theorem Grammar.admitsAll_erase :
    ∀ gs : List Grammar, undescribed.admitsAll (Grammar.eraseAll gs) = true
  | [] => rfl
  | g :: gs => (Bool.and_eq_true _ _).mpr ⟨g.admits_erase, Grammar.admitsAll_erase gs⟩

theorem Stmt.admitsStep_erase : ∀ s : Stmt, undescribed.admitsStep s.erase = true
  | .step g | .limited g _ _ | .attempt g | .recover g => g.admits_erase
  | .position | .atEnd | .remaining | .snippet | .reject _ | .raise _ | .finish => rfl
  | .when g matched failed =>
    (Bool.and_eq_true _ _).mpr ⟨(Bool.and_eq_true _ _).mpr
      ⟨g.admits_erase, Stmt.admitsSteps_erase matched⟩, Stmt.admitsSteps_erase failed⟩
  | .loop g body =>
    (Bool.and_eq_true _ _).mpr ⟨g.admits_erase, Stmt.admitsSteps_erase body⟩

theorem Stmt.admitsSteps_erase :
    ∀ ss : List Stmt, undescribed.admitsSteps (Stmt.eraseAll ss) = true
  | [] => rfl
  | s :: ss => (Bool.and_eq_true _ _).mpr ⟨s.admitsStep_erase, Stmt.admitsSteps_erase ss⟩

end

/-! ## Wording -/

/-- All of failures is looked at but the names of parsers and the texts of what they expect. -/
def View.wordless : View := { wording := false }

/-- An input compared with itself but for the wording of failures. -/
def Comparison.wordless (input : Input) : Comparison where
  toView := .wordless
  left := input
  right := input
  modality_eq := rfl
  remaining_eq n := by rw [show View.wordless.offset = 0 from rfl, Nat.zero_add]
  snippet_eq n := by rw [show View.wordless.offset = 0 from rfl, Nat.zero_add]

theorem Comparison.wordless_sameElements (input : Input) : (wordless input).SameElements := by
  intro n
  rw [show (wordless input).offset = 0 from rfl, Nat.zero_add]
  rfl

/-- What a wrapper makes of a failure is a matter of wording. -/
theorem Failure.seen_restate_of_not_wording {v : View} (hw : v.wording = false) (inner name : String)
    (label : Option String) (e : Failure) : (Parser.restate inner name label e).seen v = e.seen v := by
  cases label with
  | none => exact seen_renameIf_of_not_wording hw inner name e
  | some text =>
    exact (seen_renameIf_of_not_wording hw inner name _).trans (seen_relabel_of_not_wording hw text e)

section
variable {α : Type} {c : Comparison}

/-- Under a wrapper, a parser that fails where it started agrees with what it agreed with before. -/
theorem Parser.Agree.wrapped (hw : c.wording = false) {p q : Parser α} (h : Parser.Agree c Eq p q)
    (hp : p.Bounded c.left) (name : String) (label : Option String) :
    Parser.Agree c Eq (p.described name label) q := by
  have word (s t : String) : c.word s = c.word t := by
    simp only [View.word, hw, Bool.false_eq_true, if_false]
  refine .of_parse h.accepts (word _ _) (word _ _) fun n hq => ?_
  -- The right side has no wrapper: what stands against it is nothing more than handing the reply on.
  rw [← execute_of_mem hq, ← bind_pure (q.execute c.right n)]
  refine ((h.execute n).yields_left (hp _)).bind ?_
  rintro _ _ ⟨hb, hreply⟩
  obtain ⟨cursor, flag, @⟨e, d, he⟩ | hab⟩ := hreply
  · obtain ⟨hcursor, hflag⟩ := hb
    obtain rfl : cursor = n := Nat.add_left_cancel hcursor
    obtain rfl : flag = false := hflag
    refine .pure (.fail cursor ?_)
    rw [Failure.Agree, Failure.seen_restate_of_not_wording (show c.still.wording = false from hw)]
    exact he
  · exact .pure (.mk cursor flag (.ok hab))

end

/-! ## Scopes -/

/-- A parser that fails where it started, and one that agrees with it but for the wording. -/
structure Parser.Reworded (input : Input) (p q : Parser Value) : Prop where
  bounded : p.Bounded input
  agree : Parser.Agree (.wordless input) Eq p q

/-- Scopes in which the same names stand for parsers that differ in wording. -/
def Scope.Reworded (input : Input) (scope scope' : Scope) : Prop :=
  ∀ name, Option.Rel (fun handles handles' => ∀ a a', Parser.Reworded input (handles a) (handles' a'))
    (scope.lookup name) (scope'.lookup name)

namespace Scope.Reworded

variable {input : Input} {scope scope' : Scope}

theorem nil (input : Input) : Scope.Reworded input [] [] := fun _ => .none

theorem cons (h : Scope.Reworded input scope scope') {handles handles' : Address → Parser Value}
    (hh : ∀ a a', Parser.Reworded input (handles a) (handles' a')) (name : String) :
    Scope.Reworded input ((name, handles) :: scope) ((name, handles') :: scope') := by
  intro other
  rw [List.lookup_cons, List.lookup_cons]
  split
  · exact .some hh
  · exact h other

theorem bounded (h : Scope.Reworded input scope scope') :
    Scope.All (Parser.Bounded input) scope := by
  intro name handles hf a
  have hrel := h name
  rw [hf] at hrel
  generalize scope'.lookup name = found at hrel
  cases hrel with
  | some hh => exact (hh a []).bounded

end Scope.Reworded

/-- Definitions that differ in wording, if their handles do, differ in wording however deep they are
unfolded. -/
theorem Parser.Reworded.unfold {input : Input} {enter enter' : Address → Run Unit}
    (he : ∀ a a', Run.Agree (fun _ _ => True) (enter a) (enter' a'))
    {define define' : (Address → Parser Value) → Address → Parser Value}
    (hd : ∀ handles handles', (∀ a a', Parser.Reworded input (handles a) (handles' a')) →
      ∀ a a', Parser.Reworded input (define handles a) (define' handles' a')) (depth : Nat) :
    ∀ a a', Parser.Reworded input (Parser.unfold enter define depth a)
      (Parser.unfold enter' define' depth a') := by
  induction depth with
  | zero => exact fun _ _ => ⟨.unfinished fun _ _ _ => .fail _, .unfinished⟩
  | succ depth ih =>
    intro a a'
    obtain ⟨hb, ha⟩ := hd _ _ ih a a'
    exact ⟨.handle (fun _ _ _ => .fail _) (enter a) hb, ha.handle (he a a')⟩

/-! ## Grammars -/

/-- The grammars without reply mappers whose rules do not look at the failure of a step. -/
def Fragment.withoutRecovery : Fragment where
  node
    | .mapReply .. => false
    | _ => true
  step
    | .recover _ => false
    | _ => true

open Fragment (withoutRecovery withoutReplyMappers)

theorem withoutReplyMappers_of_withoutRecovery (g : Grammar) (h : withoutRecovery.node g = true) :
    withoutReplyMappers.node g = true := by
  cases g <;> first | rfl | cases h

section
variable {input : Input} {bound : Nat} {scope scope' : Scope}

/-- What bounds come to for a grammar of the fragment. -/
theorem Scope.Reworded.bounded_of_admits (hs : Scope.Reworded input scope scope') {g : Grammar}
    (hg : withoutRecovery.admits g = true) (a : Address) : (g.parser bound scope a).Bounded input :=
  ((bounded_hereditary input bound).weaken withoutReplyMappers_of_withoutRecovery
    fun _ _ => rfl).parser g hg hs.bounded a

mutual

/-- **A grammar agrees with what is left of it without names and labels**, but for the wording. -/
theorem Grammar.parser_erase : ∀ (g : Grammar), withoutRecovery.admits g = true →
    ∀ {scope scope' : Scope}, Scope.Reworded input scope scope' → ∀ a a',
      Parser.Agree (.wordless input) Eq (g.parser bound scope a) (g.erase.parser bound scope' a')
  | .primitive p, _, _, _, _, _, _ =>
    Parser.primitive_agree (Comparison.wordless_sameElements input) bound p
  | .choice gs, hg, _, _, hs, a, a' => by
    simp only [Fragment.admits, Bool.and_eq_true] at hg
    exact .choice (Grammar.parsers_erase gs hg.2 hs a a' 0 0)
  | .sequence gs, hg, _, _, hs, a, a' => by
    simp only [Fragment.admits, Bool.and_eq_true] at hg
    exact (Parser.Agree.sequence (Grammar.parsers_erase gs hg.2 hs a a' 0 0)).sameList.mapSame _
  | .many range g, hg, _, _, hs, _, _ => by
    simp only [Fragment.admits, Bool.and_eq_true] at hg
    exact ((g.parser_erase hg.2 hs _ _).many bound range).sameList.mapSame _
  | .separated range g h, hg, _, _, hs, _, _ => by
    simp only [Fragment.admits, Bool.and_eq_true] at hg
    exact ((g.parser_erase hg.1.2 hs _ _).separatedBy (h.parser_erase hg.2 hs _ _) bound
      range).sameList.mapSame _
  | .times g count, hg, _, _, hs, _, _ => by
    simp only [Fragment.admits, Bool.and_eq_true] at hg
    exact ((g.parser_erase hg.2 hs _ _).times count).sameList.mapSame _
  | .maybe g, hg, _, _, hs, _, _ => by
    simp only [Fragment.admits, Bool.and_eq_true] at hg
    exact (g.parser_erase hg.2 hs _ _).maybeSame.mapSame _
  | .lookAhead g, hg, _, _, hs, _, _ => by
    simp only [Fragment.admits, Bool.and_eq_true] at hg
    exact (g.parser_erase hg.2 hs _ _).lookAhead
  | .anythingExcept shape g, hg, _, _, hs, a, a' => by
    simp only [Fragment.admits, Bool.and_eq_true] at hg
    have h := g.parser_erase hg.2 hs (0 :: a) (0 :: a')
    cases shape <;>
      exact (Parser.Agree.anythingExcept
        (Comparison.wordless_sameElements input).elements h).mapSame _
  | .everythingUntil shape g, hg, _, _, hs, a, a' => by
    simp only [Fragment.admits, Bool.and_eq_true] at hg
    have h := g.parser_erase hg.2 hs (0 :: a) (0 :: a')
    cases shape <;>
      exact (Parser.Agree.everythingUntil
        (Comparison.wordless_sameElements input).elements h).sameList.mapSame _
  | .stringUntil g, hg, _, _, hs, a, a' => by
    simp only [Fragment.admits, Bool.and_eq_true] at hg
    have h := Parser.Agree.everythingUntil (α := Char)
      (Comparison.wordless_sameElements input).elements (g.parser_erase hg.2 hs (0 :: a) (0 :: a'))
    exact ((h.sameList.mapSame _).described _ _).mapSame _
  | .valueIfAbsent g _, hg, _, _, hs, _, _ => by
    simp only [Fragment.admits, Bool.and_eq_true] at hg
    exact ((g.parser_erase hg.2 hs _ _).mapSame _).mapSame _
  | .ignoreIfAbsent g, hg, _, _, hs, _, _ => by
    simp only [Fragment.admits, Bool.and_eq_true] at hg
    exact ((g.parser_erase hg.2 hs _ _).mapSame _).ignoreIfAbsentSame.mapSame _
  | .nth g _, hg, _, _, hs, _, _ => by
    simp only [Fragment.admits, Bool.and_eq_true] at hg
    exact ((g.parser_erase hg.2 hs _ _).mapSame _).pickSame _ _ _
  | .last g, hg, _, _, hs, _, _ => by
    simp only [Fragment.admits, Bool.and_eq_true] at hg
    exact ((g.parser_erase hg.2 hs _ _).mapSame _).pickSame _ _ _
  | .join g _, hg, _, _, hs, _, _ => by
    simp only [Fragment.admits, Bool.and_eq_true] at hg
    exact (((g.parser_erase hg.2 hs _ _).mapSame _).mapSame _).mapSame _
  | .map g _, hg, _, _, hs, _, _ => by
    simp only [Fragment.admits, Bool.and_eq_true] at hg
    exact (g.parser_erase hg.2 hs _ _).mapSame _
  | .mapReply _ _, hg, _, _, _, _, _ => nomatch hg
  | .ignore g, hg, _, _, hs, _, _ => by
    simp only [Fragment.admits, Bool.and_eq_true] at hg
    exact (g.parser_erase hg.2 hs _ _).ignore
  | .named g _, hg, _, _, hs, _, _ => by
    simp only [Fragment.admits, Bool.and_eq_true] at hg
    exact (g.parser_erase hg.2 hs _ _).wrapped rfl (hs.bounded_of_admits hg.2 _) _ _
  | .label g _, hg, _, _, hs, _, _ => by
    simp only [Fragment.admits, Bool.and_eq_true] at hg
    exact (g.parser_erase hg.2 hs _ _).wrapped rfl (hs.bounded_of_admits hg.2 _) _ _
  | .seq g h, hg, _, _, hs, _, _ => by
    simp only [Fragment.admits, Bool.and_eq_true] at hg
    exact ((g.parser_erase hg.1.2 hs _ _).seqSame (h.parser_erase hg.2 hs _ _)).mapSame _
  | .skip g h, hg, _, _, hs, _, _ => by
    simp only [Fragment.admits, Bool.and_eq_true] at hg
    exact ((g.parser_erase hg.1.2 hs _ _).seqSame (h.parser_erase hg.2 hs _ _)).mapSame _
  | .skipLeft g h, hg, _, _, hs, _, _ => by
    simp only [Fragment.admits, Bool.and_eq_true] at hg
    exact ((g.parser_erase hg.1.2 hs _ _).seqSame (h.parser_erase hg.2 hs _ _)).mapSame _
  | .fix name g, hg, scope, scope', hs, a, a' => by
    simp only [Fragment.admits, Bool.and_eq_true] at hg
    -- The handles for the name differ in wording at every depth, and so does the definition with them.
    have hd (handles handles' : Address → Parser Value)
        (hh : ∀ b b', Parser.Reworded input (handles b) (handles' b')) (_ _ : Address) :
        Parser.Reworded input (g.parser bound ((name, handles) :: scope) (0 :: a))
          (g.erase.parser bound ((name, handles') :: scope') (0 :: a')) :=
      ⟨(hs.cons hh name).bounded_of_admits hg.2 _, g.parser_erase hg.2 (hs.cons hh name) _ _⟩
    exact (hd _ _ (.unfold (fun _ _ => .pure True.intro) hd bound) a a').agree.defined
  | .recursive name traced g, hg, scope, scope', hs, a, a' => by
    simp only [Fragment.admits, Bool.and_eq_true] at hg
    have hd (handles handles' : Address → Parser Value)
        (hh : ∀ b b', Parser.Reworded input (handles b) (handles' b')) (b b' : Address) :
        Parser.Reworded input (g.parser bound ((name, handles) :: scope) (0 :: b))
          (g.erase.parser bound ((name, handles') :: scope') (0 :: b')) :=
      ⟨(hs.cons hh name).bounded_of_admits hg.2 _, g.parser_erase hg.2 (hs.cons hh name) _ _⟩
    exact (Parser.Reworded.unfold (fun _ _ => .emit _ _) hd bound a a').agree
  | .ref name, _, scope, scope', hs, a, a' => by
    rw [Grammar.erase, Grammar.parser_ref, Grammar.parser_ref]
    unfold Scope.find
    generalize scope.lookup name = o, scope'.lookup name = o', hs name = ho
    cases ho with
    | none => exact .orphan
    | some hh => exact (hh a a').agree
  | .orphan, _, _, _, _, _, _ => .orphan
  | .tap label g, hg, _, _, hs, _, _ => by
    simp only [Fragment.admits, Bool.and_eq_true] at hg
    exact (g.parser_erase hg.2 hs _ _).tap label
  | .rule body, hg, _, _, hs, a, a' => by
    simp only [Fragment.admits, Bool.and_eq_true] at hg
    refine (Rule.Agree.ofRule ?_).mapSame _
    exact (Stmt.runAll_erase body hg.2 hs a a' 0 0).bindSame fun _ => .pure rfl

theorem Grammar.parsers_erase : ∀ (gs : List Grammar), withoutRecovery.admitsAll gs = true →
    ∀ {scope scope' : Scope}, Scope.Reworded input scope scope' → ∀ a a' index index',
      List.Forall₂ (Parser.Agree (.wordless input) Eq) (Grammar.parsers bound gs scope a index)
        (Grammar.parsers bound (Grammar.eraseAll gs) scope' a' index')
  | [], _, _, _, _, _, _, _, _ => .nil
  | g :: gs, hg, _, _, hs, a, a', index, index' => by
    simp only [Fragment.admitsAll, Bool.and_eq_true] at hg
    exact .cons (g.parser_erase hg.1 hs _ _)
      (Grammar.parsers_erase gs hg.2 hs a a' (index + 1) (index' + 1))

theorem Stmt.run_erase : ∀ (s : Stmt), withoutRecovery.admitsStep s = true →
    ∀ {scope scope' : Scope}, Scope.Reworded input scope scope' → ∀ a a',
      Rule.Agree (.wordless input) Eq (s.run bound scope a) (s.erase.run bound scope' a')
  | .step g, hs, _, _, h, _, _ => by
    simp only [Fragment.admitsStep, Bool.and_eq_true] at hs
    exact (Rule.Agree.step (g.parser_erase hs.2 h _ _)).bindSame fun _ => .pure rfl
  | .limited g limit message, hs, _, _, h, _, _ => by
    simp only [Fragment.admitsStep, Bool.and_eq_true] at hs
    refine (Rule.Agree.step (g.parser_erase hs.2 h _ _)).bindSame fun v => ?_
    split
    · exact .reject message
    · exact .pure rfl
  | .attempt g, hs, _, _, h, _, _ => by
    simp only [Fragment.admitsStep, Bool.and_eq_true] at hs
    exact (Rule.Agree.attemptSame (g.parser_erase hs.2 h _ _)).bindSame fun _ => .pure rfl
  | .recover _, hs, _, _, _, _, _ => nomatch hs
  | .position, _, _, _, _, _, _ => by
    refine Rule.Agree.bindSame ?_ fun _ => .pure rfl
    refine Rule.Agree.position.mono ?_
    rintro _ n rfl
    exact Nat.zero_add n
  | .atEnd, _, _, _, _, _, _ =>
    Rule.Agree.bindSame (.inspect (Comparison.wordless input).isEnd_eq) fun _ => .pure rfl
  | .remaining, _, _, _, _, _, _ =>
    Rule.Agree.bindSame (.inspect (Comparison.wordless input).remaining_eq) fun _ => .pure rfl
  | .snippet, _, _, _, _, _, _ =>
    Rule.Agree.bindSame (.inspect (Comparison.wordless input).snippet_eq) fun _ => .pure rfl
  | .reject message, _, _, _, _, _, _ => .reject message
  | .raise e, _, _, _, _, _, _ => .abort (.refl rfl e)
  | .finish, _, _, _, _, _, _ => .pure rfl
  | .when g matched failed, hs, _, _, h, a, a' => by
    simp only [Fragment.admitsStep, Bool.and_eq_true] at hs
    refine (Rule.Agree.attemptSame (g.parser_erase hs.1.1.2 h _ _)).bindSame fun found => ?_
    cases found with
    | some v => exact .andThen (.pure rfl) (Stmt.runAll_erase matched hs.1.2 h _ _ 0 0)
    | none => exact Stmt.runAll_erase failed hs.2 h _ _ 0 0
  | .loop g body, hs, _, _, h, a, a' => by
    simp only [Fragment.admitsStep, Bool.and_eq_true] at hs
    exact .loop (g.parser_erase hs.1.2 h _ _) (Stmt.runAll_erase body hs.2 h _ _ 0 0) bound

theorem Stmt.runAll_erase : ∀ (ss : List Stmt), withoutRecovery.admitsSteps ss = true →
    ∀ {scope scope' : Scope}, Scope.Reworded input scope scope' → ∀ a a' index index',
      Rule.Agree (.wordless input) Eq (Stmt.runAll bound ss scope a index)
        (Stmt.runAll bound (Stmt.eraseAll ss) scope' a' index')
  | [], _, _, _, _, _, _, _, _ => .pure rfl
  | s :: ss, hs, _, _, h, a, a', index, index' => by
    simp only [Fragment.admitsSteps, Bool.and_eq_true] at hs
    exact .andThen (s.run_erase hs.1 h _ _)
      (Stmt.runAll_erase ss hs.2 h a a' (index + 1) (index' + 1))

end

end

/-- **Names and labels have no influence on a parse.** Without them a grammar succeeds with the same value
at the same cursor and with the same flag, or fails at the same cursor with failures that are the same but
for names and for the texts of what is expected, in all of their causes; or it answers neither with them
nor without. -/
theorem execute_erase {g : Grammar} (hg : withoutRecovery.admits g = true) (bound : Nat)
    (address address' : Address) (input : Input) (cursor : Nat) :
    ((g.parser bound [] address).execute input cursor).answer?.map (Reply.seen .wordless) =
      ((g.erase.parser bound [] address').execute input cursor).answer?.map
        (Reply.seen .wordless) := by
  have hagree : Parser.Agree (.wordless input) Eq (g.parser bound [] address)
      (g.erase.parser bound [] address') := g.parser_erase hg (.nil input) address address'
  have h := hagree.execute cursor
  rw [show (Comparison.wordless input).offset + cursor = cursor from Nat.zero_add cursor] at h
  exact (h.mono fun _ _ => Reply.Agree.seen_eq).map_answer?

/-- A group that breaks off in its second part, with a label and without it: the wording of what is
expected there is all that differs. -/
theorem execute_erase_of_group :
    let group := Grammar.fix "group" (.label (.sequence
      [.character '(', .choice [.named (.ref "group") "inner", .primitive .digit]]) "a group")
    let run := fun g : Grammar => (g.parser 4 [] []).execute ⟨.characters ['(', 'x'], {}⟩ 0
    let broken := fun expected =>
      Reply.fail 0 (.within "sequence" 1 (.noMatch "choice" 1 expected "\"x\""))
    (run group).answer? = some (broken "a group") ∧
      (run group.erase).answer? = some (broken "one of recursive value, a digit") ∧
      (run group).answer?.map (Reply.seen .wordless) =
        (run group.erase).answer?.map (Reply.seen .wordless) :=
  ⟨rfl, rfl, execute_erase rfl 4 [] [] _ 0⟩

end Triparse
