import Triparse.Proofs.Congruence
import Triparse.Proofs.Primitives
import Triparse.Session

/-!
# Classes of failures

Combinators make failures from those of their parts: they move, relabel and rename them, and make them
the causes of others. If a class of failures is closed under this (`FailureClass`) and contains the
failures that a grammar makes itself (`Fragment.FailsIn`), then it contains all failures of the grammar on
input of a shape that the grammar accepts (`Parser.FailsIn`, `failsIn_congruent`). Some combinators run
their parts whatever shape the input has (`Fragment.Blind`); a grammar with one of them may fail with what
a part says of input that it does not accept.
-/

set_option autoImplicit false

namespace Triparse

variable {α β : Type}

/-! ## Failures -/

/-- A class of failures that contains what combinators make of its members. -/
structure FailureClass (K : Failure → Prop) : Prop where
  noMatch (parser : String) (n : Nat) (expected actual : String) :
    K (.noMatch parser n expected actual)
  endOfInput (parser : String) (n : Nat) (expected : String) (available : Nat) :
    K (.endOfInput parser n expected available)
  countOutOfRange (parser : String) (n : Nat) (range : Repetition) (count : Nat) :
    K (.countOutOfRange parser n range count none)
  caused {e : Failure} (parser : String) (n : Nat) (range : Repetition) (count : Nat) :
    K e → K (.countOutOfRange parser n range count (some e))
  moveTo {e : Failure} (n : Nat) : K e → K (e.moveTo n)
  relabel {e : Failure} (text : String) : K e → K (e.relabel text)
  rename {e : Failure} (name : String) : K e → K (e.rename name)

/-- What is kept by another description and by another name is kept by a wrapper. -/
theorem Parser.restate_of_closed {K : Failure → Prop} (hl : ∀ e text, K e → K (e.relabel text))
    (hr : ∀ e name, K e → K (e.rename name)) {e : Failure} (h : K e) (inner name : String)
    (label : Option String) : K (restate inner name label e) := by
  unfold restate
  cases label with
  | none =>
    dsimp only
    split
    · exact hr _ name h
    · exact h
  | some text =>
    dsimp only
    split
    · exact hr _ name (hl _ text h)
    · exact hl _ text h

theorem FailureClass.restate {K : Failure → Prop} (hK : FailureClass K) {e : Failure} (h : K e)
    (inner name : String) (label : Option String) : K (Parser.restate inner name label e) :=
  Parser.restate_of_closed (fun _ text => hK.relabel text) (fun _ name => hK.rename name) h inner name
    label

/-- The failures of mismatched input, whatever parser has been given it, are in the class. -/
def ContainsBadInput (K : Failure → Prop) : Prop :=
  ∀ parser n accepts modality, K (.badInput parser n accepts modality)

/-- The failure of the reply, if it is one, is in the class. -/
def Reply.FailsIn (K : Failure → Prop) (r : Reply α) : Prop := ∀ e, r.outcome = .error e → K e

namespace Reply.FailsIn

variable {K : Failure → Prop}

theorem ok (n : Nat) (a : α) (flag : Bool) : FailsIn K ⟨n, .ok a, flag⟩ := fun _ h => nomatch h

theorem succeed (n : Nat) (a : α) : FailsIn K (.succeed n a) := ok n a false

theorem error {e : Failure} (h : K e) (n : Nat) (flag : Bool) :
    FailsIn K (⟨n, .error e, flag⟩ : Reply α) := by
  intro d hd
  cases hd
  exact h

theorem fail {e : Failure} (h : K e) (n : Nat) : FailsIn K (.fail n e : Reply α) := error h n false

end Reply.FailsIn

/-! ## Parsers -/

/-- On input of a shape that it accepts, the parser fails in the class. -/
def Parser.FailsIn (K : Failure → Prop) (p : Parser α) : Prop :=
  ∀ input n, input.modality ∈ p.accepts → (p.parse input n).Yields (Reply.FailsIn K)

namespace Parser.FailsIn

open Run (Yields)

variable {K : Failure → Prop} {p : Parser α} {q : Parser β}

theorem execute_of_mem (h : p.FailsIn K) {input : Input} (hm : input.modality ∈ p.accepts) (n : Nat) :
    (p.execute input n).Yields (Reply.FailsIn K) := by
  rw [Parser.execute_of_mem hm]
  exact h input n hm

/-- A class that contains the failures of mismatched input contains them on input of every shape. -/
theorem execute (h : p.FailsIn K) (hK : ContainsBadInput K) (input : Input) (n : Nat) :
    (p.execute input n).Yields (Reply.FailsIn K) := by
  by_cases hm : input.modality ∈ p.accepts
  · exact h.execute_of_mem hm n
  · rw [execute_of_not_mem hm]
    exact .finished (.fail (hK _ _ _ _) n) []

/-! ### Combinators -/

theorem mapReply (h : p.FailsIn K) {f : Input → Reply α → Reply β}
    (hf : ∀ input r, r.FailsIn K → (f input r).FailsIn K) : (p.mapReply f).FailsIn K := by
  refine fun input n hm => (h.execute_of_mem hm n).bind ?_
  rintro ⟨stop, e | a, flag⟩ hr
  · exact .pure (.fail (hr e rfl) stop)
  · exact .pure (hf input _ hr)

theorem map (h : p.FailsIn K) (f : α → β) : (p.map f).FailsIn K := by
  refine h.mapReply ?_
  rintro input ⟨stop, e | a, flag⟩ hr
  · exact .error (hr e rfl) stop flag
  · exact .ok stop (f a) flag

theorem ignore (h : p.FailsIn K) : p.ignore.FailsIn K := h.mapReply fun _ _ hr => hr

theorem ignoreIfAbsent {p : Parser (Option α)} (h : p.FailsIn K) : p.ignoreIfAbsent.FailsIn K := by
  refine h.mapReply fun input r hr => ?_
  split
  · exact hr
  · exact hr

variable (hK : FailureClass K)
include hK

theorem described (h : p.FailsIn K) (name : String) (label : Option String) :
    (p.described name label).FailsIn K := by
  refine fun input n hm => (h.execute_of_mem hm n).bind ?_
  rintro ⟨stop, e | a, flag⟩ hr
  · exact .pure (.fail (hK.restate (hr e rfl) _ _ _) n)
  · exact .pure hr

theorem pick {p : Parser (List α)} (h : p.FailsIn K) (name expected : String)
    (select : List α → Option α) : (p.pick name expected select).FailsIn K := by
  refine fun input n hm => (h.execute_of_mem hm n).bind ?_
  rintro ⟨stop, e | values, flag⟩ hr
  · exact .pure (.fail (hr e rfl) stop)
  · dsimp only
    split
    · exact .pure (.succeed _ _)
    · exact .pure (.fail (hK.noMatch _ _ _ _) n)

omit hK in
/-- The reply that a choice takes over is a success. -/
theorem firstMatch (input : Input) (n : Nat) (ps : List (Parser α)) :
    ∀ index, (firstMatch input n ps index).Yields fun found =>
      ∀ r, found = some r → ∃ a, r.outcome = .ok a := by
  induction ps with
  | nil => exact fun _ => .pure fun _ h => nomatch h
  | cons p ps ih =>
    refine fun index => (Yields.trivial _).bind ?_
    rintro ⟨stop, e | a, flag⟩ -
    · exact (Yields.trivial _).bind fun _ _ => ih (index + 1)
    · refine .pure ?_
      rintro _ ⟨⟩
      exact ⟨a, rfl⟩

theorem choice (ps : List (Parser α)) : (Parser.choice ps).FailsIn K := by
  refine fun input n _ => (firstMatch input n ps 0).bind ?_
  rintro (_ | r) hr
  · exact .pure (.fail (hK.noMatch _ _ _ _) n)
  · obtain ⟨a, ha⟩ := hr r rfl
    refine .pure fun e he => ?_
    rw [ha] at he
    cases he

omit hK in
/-- A chain of parsers in the class stops in the class. -/
theorem runEach {ps : List (Parser α)} {input : Input}
    (h : ∀ p ∈ ps, ∀ n, (p.execute input n).Yields (Reply.FailsIn K)) :
    ∀ element n, (runEach input ps element n).Yields fun chain => ∀ k e, chain = .error (k, e) → K e := by
  induction ps with
  | nil => exact fun _ _ => .pure fun _ _ h => nomatch h
  | cons p ps ih =>
    obtain ⟨hp, hps⟩ := List.forall_mem_cons.1 h
    refine fun element n => (hp n).bind ?_
    rintro ⟨stop, e | a, flag⟩ hr
    · refine .pure ?_
      rintro _ _ ⟨⟩
      exact hr e rfl
    · refine (ih hps (element + 1) stop).bind ?_
      rintro (⟨k, e⟩ | ⟨stop, values⟩) hc
      · refine .pure ?_
        rintro _ _ ⟨⟩
        exact hc k e rfl
      · exact .pure fun _ _ h => nomatch h

omit hK in
theorem sequence {ps : List (Parser α)} (h : ∀ p ∈ ps, p.FailsIn K) (hb : ContainsBadInput K)
    (hw : ∀ parser element e, K e → K (.within parser element e)) : (Parser.sequence ps).FailsIn K := by
  refine fun input n _ => (runEach (fun p hp => (h p hp).execute hb input) 0 n).bind ?_
  rintro (⟨k, e⟩ | ⟨stop, values⟩) hc
  · exact .pure (.fail (hw _ _ e (hc k e rfl)) n)
  · exact .pure (.succeed stop values)

theorem times (h : p.FailsIn K) (count : Nat) : (Parser.times p count).FailsIn K := by
  intro input n hm
  have hps : ∀ q ∈ List.replicate count p, ∀ n, (q.execute input n).Yields (Reply.FailsIn K) :=
    List.forall_mem_replicate.2 (.inr (h.execute_of_mem hm))
  simp only [Parser.times, runTimes_eq_runEach]
  refine (runEach hps 0 n).bind ?_
  rintro (⟨k, e⟩ | ⟨stop, values⟩) hc
  · exact .pure (.fail (hK.caused _ _ _ _ (hc k e rfl)) n)
  · exact .pure (.succeed stop values)

omit hK in
theorem seq (hp : p.FailsIn K) (hq : q.FailsIn K) (hb : ContainsBadInput K) :
    (p.seq q).FailsIn K := by
  refine fun input n _ => (hp.execute hb input n).bind ?_
  rintro ⟨middle, e | a, flag⟩ hr
  · exact .pure (.fail (hr e rfl) n)
  · refine (hq.execute hb input middle).bind ?_
    rintro ⟨stop, e | b, flag⟩ hr
    · exact .pure (.fail (hr e rfl) n)
    · exact .pure (.succeed stop (a, b))

omit hK in
/-- What a part fails with is no failure of an optional part. -/
theorem maybe (p : Parser α) : (Parser.maybe p).FailsIn K := by
  refine fun input n _ => (Yields.trivial _).bind ?_
  rintro ⟨stop, e | a, flag⟩ -
  · exact .pure (.succeed n none)
  · exact .pure (.ok stop (some a) flag)

theorem lookAhead (h : p.FailsIn K) : (Parser.lookAhead p).FailsIn K := by
  refine fun input n hm => (h.execute_of_mem hm n).bind ?_
  rintro ⟨stop, e | a, flag⟩ hr
  · exact .pure (.fail (hK.moveTo n (hr e rfl)) n)
  · exact .pure (.ok n a flag)

/-! ### Loops and scans

What ends them is an event, and no failure of theirs. -/

theorem tally (t : Parser.Tally α) (name : String) (range : Repetition) (n : Nat) :
    (t.reply name range n).FailsIn K := by
  unfold Parser.Tally.reply
  split
  · exact .succeed _ _
  · exact .fail (hK.countOutOfRange _ _ _ _) n

theorem many (bound : Nat) (range : Repetition) (p : Parser α) :
    (Parser.many bound range p).FailsIn K :=
  fun _ n _ => (Yields.trivial _).bind fun t _ => .pure (tally hK t _ range n)

theorem separatedBy (bound : Nat) (range : Repetition) (q : Parser β) (p : Parser α) :
    (Parser.separatedBy bound range q p).FailsIn K :=
  fun _ n _ => (Yields.trivial _).bind fun t _ => .pure (tally hK t _ range n)

theorem anythingExcept [Element α] (q : Parser β) : (Parser.anythingExcept α q).FailsIn K := by
  refine fun input n _ => (Yields.trivial _).bind ?_
  rintro ⟨stop, e | b, flag⟩ -
  · dsimp only
    split
    · exact .pure (.succeed _ _)
    · exact .pure (.fail (hK.endOfInput _ _ _ _) n)
  · exact .pure (.fail (hK.noMatch _ _ _ _) n)

theorem everythingUntil [Element α] (q : Parser β) : (Parser.everythingUntil α q).FailsIn K := by
  refine fun input n _ => (Yields.trivial _).bind ?_
  rintro (last | stop) -
  · exact .pure (.fail (hK.endOfInput _ _ _ _) n)
  · exact .pure (.succeed _ _)

/-! ### Recursion and taps -/

omit hK

theorem defined (h : p.FailsIn K) (hb : ContainsBadInput K) : (Parser.defined p).FailsIn K :=
  fun input n _ => h.execute hb input n

theorem unfold {enter : Address → Run Unit} {define : (Address → Parser α) → Address → Parser α}
    (hb : ContainsBadInput K)
    (hd : ∀ handles, (∀ a, (handles a).FailsIn K) → ∀ a, (define handles a).FailsIn K) :
    ∀ depth a, (Parser.unfold enter define depth a).FailsIn K
  | 0, _ => fun _ _ _ => .unfinished
  | depth + 1, a => fun input n _ =>
    (Yields.trivial _).bind fun _ _ => (hd _ (unfold hb hd depth) a).execute hb input n

theorem tap (h : p.FailsIn K) (hb : ContainsBadInput K) (label : String) :
    (Parser.ofFunction fun input cursor => do
      Run.emit (.tapped label cursor)
      p.execute input cursor).FailsIn K :=
  fun input n _ => (Yields.trivial _).bind fun _ _ => h.execute hb input n

/-! ### Primitives -/

include hK

/-- The class contains what plain parsers say of the input. -/
theorem of_plain {p : Parser α} (h : p.Plain) : p.FailsIn K := by
  intro input n hm
  obtain ⟨_, hr, hp⟩ := h input n hm
  rw [hr]
  cases hp with
  | matched _ a => exact .pure (.succeed _ a)
  | different => exact .pure (.fail (hK.noMatch _ _ _ _) n)
  | short => exact .pure (.fail (hK.endOfInput _ _ _ _) n)

theorem exactBinary (format : Binary.Format) (wanted : Int) :
    (Parser.exactBinary format wanted).FailsIn K := by
  intro input n _
  dsimp only [Parser.exactBinary]
  split
  · exact .pure (.fail (hK.endOfInput _ _ _ _) n)
  · split
    · exact .pure (.succeed _ _)
    · exact .pure (.fail (hK.noMatch _ _ _ _) n)

theorem primitive (bound : Nat) (p : Primitive)
    (hf : ∀ message, p = .failWith message → ∀ parser n, K (.rejected parser n message)) :
    (p.parser bound).FailsIn K :=
  p.parser_of_plain (P := fun p => p.FailsIn K) (of_plain hK) (fun f h => h.map f)
    (fun name label h => h.described hK name label) (fun _ => maybe _)
    (fun range _ => many hK bound range _)
    (fun message h _ n _ => .pure (.fail (hf message h _ n) n))
    fun format wanted _ => exactBinary hK format wanted

end Parser.FailsIn

/-! ## Rules -/

/-- The rule, if it is abandoned, is abandoned with a failure in the class. -/
def RuleT.FailsIn (K : Failure → Prop) (x : Rule α) : Prop :=
  ∀ input n, (x input n).Yields fun ending => ∀ e, ending.2 = .error e → K e

namespace RuleT.FailsIn

open Run (Yields)

variable {K : Failure → Prop}

theorem pure (a : α) : (pure a : Rule α).FailsIn K := fun _ _ => .pure fun _ h => nomatch h

theorem bind {x : Rule α} {f : α → Rule β} (hx : x.FailsIn K) (hf : ∀ a, (f a).FailsIn K) :
    (x >>= f).FailsIn K := by
  refine fun input n => (hx input n).bind ?_
  rintro ⟨stop, e | a⟩ hr
  · refine .pure ?_
    rintro _ ⟨⟩
    exact hr e rfl
  · exact hf a input stop

theorem abort {e : Failure} (h : K e) : (Rule.abort e : Rule α).FailsIn K := by
  refine fun _ _ => .pure ?_
  rintro _ ⟨⟩
  exact h

theorem reject {message : String} (h : ∀ parser n, K (.rejected parser n message)) :
    (Rule.reject message : Rule α).FailsIn K := by
  refine fun _ n => .pure ?_
  rintro _ ⟨⟩
  exact h _ n

theorem inspect (f : Input → Nat → α) : (Rule.inspect f).FailsIn K :=
  fun _ _ => .pure fun _ h => nomatch h

theorem position : Rule.position.FailsIn K := fun _ _ => .pure fun _ h => nomatch h

/-- A trial does not abandon the rule, whatever becomes of it. -/
theorem trial (p : Parser α) : (Rule.trial p).FailsIn K := by
  refine fun input n => (Yields.trivial _).bind ?_
  rintro ⟨stop, e | a, flag⟩ -
  · exact .pure fun _ h => nomatch h
  · exact .pure fun _ h => nomatch h

theorem attempt (p : Parser α) : (Rule.attempt p).FailsIn K := by
  refine (trial p).bind fun found => ?_
  cases found with
  | error e => exact pure none
  | ok a => exact pure (some a)

theorem step {p : Parser α} (h : ∀ input n, (p.execute input n).Yields (Reply.FailsIn K)) :
    (Rule.step p).FailsIn K := by
  intro input n
  have ht : (Rule.trial p input n).Yields fun ending =>
      ∃ found, ending.2 = .ok found ∧ ∀ e, found = .error e → K e := by
    refine (h input n).bind ?_
    rintro ⟨stop, e | a, flag⟩ hr
    · refine .pure ⟨_, rfl, ?_⟩
      rintro _ ⟨⟩
      exact hr e rfl
    · exact .pure ⟨_, rfl, fun _ h => nomatch h⟩
  refine ht.bind ?_
  rintro ⟨stop, _⟩ ⟨e | a, rfl, hr⟩
  · exact abort (hr e rfl) input stop
  · exact pure a input stop

theorem andThen {x y : Rule Rule.Progress} (hx : x.FailsIn K) (hy : y.FailsIn K) :
    (Rule.andThen x y).FailsIn K := by
  refine hx.bind fun before => ?_
  split
  · exact pure before
  · exact hy.bind fun _ => pure _

theorem loop (p : Parser Value) {body : Rule Rule.Progress} (h : body.FailsIn K) (bound : Nat) :
    (Rule.loop p body bound).FailsIn K := by
  induction bound with
  | zero => exact fun _ _ => .unfinished
  | succ bound ih =>
    refine position.bind fun start => (attempt p).bind fun found => ?_
    cases found with
    | none => exact pure _
    | some v =>
      refine (andThen (pure _) h).bind fun round => ?_
      split
      · exact pure round
      · refine position.bind fun here => ?_
        split
        · exact pure round
        · exact andThen (pure round) ih

theorem ofRule (hK : FailureClass K) {x : Rule α} (h : x.FailsIn K) : (Parser.ofRule x).FailsIn K := by
  refine fun input n _ => (h input n).bind ?_
  rintro ⟨stop, e | a⟩ hr
  · refine (Yields.trivial _).bind fun _ _ => ?_
    split
    · exact .pure (.fail (hK.moveTo n (hr e rfl)) n)
    · exact .pure (.fail (hr e rfl) n)
  · exact .pure (.succeed stop a)

end RuleT.FailsIn

/-! ## Grammars -/

namespace Fragment

/-- The fragment has combinators that run their parts whatever shape the input has. -/
def Blind (F : Fragment) : Prop :=
  F.Paired ∨ F.Recursive ∨ (∃ gs, F.node (.sequence gs) = true) ∨
    (∃ label g, F.node (.tap label g) = true) ∨ ∃ body, F.node (.rule body) = true

/-- The failures that the grammars of the fragment make themselves are in the class. -/
structure FailsIn (F : Fragment) (K : Failure → Prop) : Prop extends FailureClass K where
  failWith {message : String} : F.node (.primitive (.failWith message)) = true →
    ∀ parser n, K (.rejected parser n message)
  mapReply {g : Grammar} {f : ReplyMapper} : F.node (.mapReply g f) = true →
    ∀ input r, r.FailsIn K → (f.apply input r).FailsIn K
  within {gs : List Grammar} : F.node (.sequence gs) = true →
    ∀ parser element e, K e → K (.within parser element e)
  badInput : F.Blind → ContainsBadInput K
  orphan : F.node .orphan = true → ∀ n, K (Parser.orphanFailure n)
  reject {message : String} : F.Rejects message → ∀ parser n, K (.rejected parser n message)
  raise {e : Failure} : F.step (.raise e) = true → K e

end Fragment

variable {F : Fragment} {K : Failure → Prop}

/-- **All combinators keep failures in the class.** Of rules this is asked only if there are any. -/
theorem failsIn_congruent (h : F.FailsIn K) (bound bound' : Nat) :
    Congruent bound bound' F (fun p _ => p.FailsIn K)
      (fun x _ => (∃ body, F.node (.rule body) = true) → x.FailsIn K) where
  primitive {p} hp := .primitive h.toFailureClass bound p fun _ hm => h.failWith (hm ▸ hp)
  choice _ := .choice h.toFailureClass _
  sequence hn hps :=
    .sequence (forall_mem_of_forall₂ hps) (h.badInput (.inr (.inr (.inl ⟨_, hn⟩)))) (h.within hn)
  -- A loop, a scan, a choice and an optional part fail as they do whatever their parts fail with.
  many range _ := .many h.toFailureClass bound range _
  separatedBy range _ _ := .separatedBy h.toFailureClass bound range _ _
  times count hp := .times h.toFailureClass hp count
  maybe _ := .maybe _
  lookAhead _ := .lookAhead h.toFailureClass
  exceptChar _ := .anythingExcept h.toFailureClass _
  exceptByte _ := .anythingExcept h.toFailureClass _
  exceptToken _ := .anythingExcept h.toFailureClass _
  untilChar _ := .everythingUntil h.toFailureClass _
  untilByte _ := .everythingUntil h.toFailureClass _
  untilToken _ := .everythingUntil h.toFailureClass _
  map f hp := hp.map f
  mapReply hn hp := hp.mapReply (h.mapReply hn)
  ignore := .ignore
  ignoreIfAbsent := .ignoreIfAbsent
  named name hp := .described h.toFailureClass hp name none
  label text hp := .described h.toFailureClass hp _ (some text)
  pick name expected select hp := .pick h.toFailureClass hp name expected select
  seq hF hp hq := .seq hp hq (h.badInput (.inl hF))
  tap hn hp := .tap hp (h.badInput (.inr (.inr (.inr (.inl ⟨_, _, hn⟩))))) _
  defined hF hp := .defined hp (h.badInput (.inr (.inl hF)))
  unfold hF _ hd a _ :=
    .unfold (h.badInput (.inr (.inl hF))) (fun handles hh b => hd handles handles (fun a _ => hh a) b b)
      bound a
  orphan hn := fun _ n _ => .pure (.fail (h.orphan hn n) n)
  rule hn hx := RuleT.FailsIn.ofRule h.toFailureClass (hx ⟨_, hn⟩)
  pure a _ := .pure a
  bind hx hf hF := (hx hF).bind fun a => hf a hF
  step hp hF := .step (hp.execute (h.badInput (.inr (.inr (.inr (.inr hF))))))
  attempt _ _ := .attempt _
  reject hm _ := .reject (h.reject hm)
  loop _ hb hF := .loop _ (hb hF) bound
  recover _ _ _ := (RuleT.FailsIn.trial _).bind fun found => by
    cases found with
    | ok v => exact .pure _
    | error e => exact .pure _
  position _ _ := .position
  atEnd _ _ := .inspect _
  remaining _ _ := .inspect _
  snippet _ _ := .inspect _
  raise he _ := .abort (h.raise he)

/-- What a grammar of the fragment fails with is in the class, if what an undefined name fails with is or
if it has none. -/
theorem Grammar.failsIn (h : F.FailsIn K) {g : Grammar} (hg : F.admits g = true)
    (hn : g.free = [] ∨ ∀ n, K (Parser.orphanFailure n)) (bound : Nat) (address : Address) :
    (g.parser bound [] address).FailsIn K := by
  have hs : Scope.Related (fun p _ => p.FailsIn K) g.free [] [] := by
    obtain hn | hn := hn
    · rw [hn]
      exact fun _ h => nomatch h
    · exact .nil (fun _ n _ => .pure (.fail (hn n) n)) _
  exact (failsIn_congruent h bound bound).parser g hg hs address address

end Triparse
