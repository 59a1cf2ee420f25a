import Triparse.Proofs.Approximation
import Triparse.Proofs.Erasure
import Triparse.Proofs.FailureClasses
import Triparse.Proofs.SettingsIndependence

/-!
# Recursive definitions

The two kinds of recursive definition come to the same: that by `fix`, whose references share one
instance, and that by `recursive`, whose references are instances of their own
(`fix_recursive_interchangeable`). Each runs its body with references that are unfolded less deep; so each
approximates the other under a greater bound, and how deep references are unfolded is not seen in an
answer. In a closed definition no reference is without its definition.

A definition is a fixed point (`fix_fixed_point`): its body, with the definition itself in place of the
name, comes to what the definition comes to. The wording of failures differs, as a reference goes under a
name of its own and the definition under that of its body.
-/

set_option autoImplicit false

namespace Triparse

variable {α : Type}

/-! ## Unfoldings -/

namespace Grammar

variable (name : String) (traced : Bool) (body : Grammar) (bound : Nat)

/-- The references to a definition, unfolded to a depth: `enter` is what happens at an execution, and `place`
says where the body stands for a reference. -/
def references (enter : Address → Run Unit) (place : Address → Address) (depth : Nat) :
    Address → Parser Value :=
  Parser.unfold enter (fun handles b => body.parser bound [(name, handles)] (place b)) depth

/-- The references to a definition by `fix` at an address. -/
def shared (a : Address) : Nat → Address → Parser Value :=
  references name body bound (fun _ => pure ()) fun _ => 0 :: a

/-- The references to a definition by `recursive`. -/
def instances : Nat → Address → Parser Value :=
  references name body bound (fun b => Run.emit (.entered b (if traced then some name else none)))
    fun b => 0 :: b

theorem execute_fix (a : Address) (input : Input) (n : Nat) :
    ((fix name body).parser bound [] a).execute input n =
      (body.parser bound [(name, shared name body bound a bound)] (0 :: a)).execute input n := by
  rw [Grammar.parser_fix]
  exact Parser.execute_defined _ input n

theorem execute_recursive_zero (a : Address) (input : Input) (n : Nat) :
    ((recursive name traced body).parser 0 [] a).execute input n = .unfinished := by
  rw [Grammar.parser_recursive]
  exact Parser.execute_handle _ input n

theorem execute_recursive_succ (a : Address) (input : Input) (n : Nat) :
    ((recursive name traced body).parser (bound + 1) [] a).execute input n =
      Run.emit (.entered a (if traced then some name else none)) >>= fun _ =>
        (body.parser (bound + 1) [(name, instances name traced body (bound + 1) bound)]
          (0 :: a)).execute input n := by
  rw [Grammar.parser_recursive]
  exact Parser.execute_handle _ input n

variable {name traced body bound}
variable {bound' : Nat} (hb : bound ≤ bound')
include hb

/-- The body of a definition under references that approximate one another. -/
theorem body_approx {handles handles' : Address → Parser Value}
    (h : ∀ a a', Parser.Approx (handles a) (handles' a')) (a a' : Address) :
    Parser.Approx (body.parser bound [(name, handles)] a) (body.parser bound' [(name, handles')] a') :=
  (approx_congruent hb .all).parser body (Fragment.admits_all body)
    ((Scope.Related.nil (.refl _) _).under h) a a'

/-- References that are unfolded deeper answer what those do that are less deep, whatever kind they are of. -/
theorem references_approx {enter enter' : Address → Run Unit} {place place' : Address → Address}
    (he : ∀ a a', Run.Agree (fun _ _ => True) (enter a) (enter' a')) {depth depth' : Nat}
    (hd : depth ≤ depth') (a a' : Address) :
    Parser.Approx (references name body bound enter place depth a)
      (references name body bound' enter' place' depth' a') :=
  .unfold he (fun _ _ hh _ _ => body_approx hb hh _ _) hd a a'

end Grammar

open Grammar (fix recursive shared body_approx)

/-! ## The two kinds of definition -/

section
variable (name : String) (traced : Bool) (body : Grammar)

/-- A definition by `fix` and one by `recursive` come to the same states. -/
theorem returns_fix_iff_recursive {s : State α} {t : State Value} :
    (fix name body).Returns s t ↔ (recursive name traced body).Returns s t := by
  constructor
  · -- The bound counts the definition itself for `recursive`, and only its references for `fix`.
    refine .of_approx fun bound => ⟨bound + 1, fun input n => ?_⟩
    rw [Grammar.toParser, Grammar.toParser, Grammar.execute_fix, Grammar.execute_recursive_succ]
    refine .after ?_ _
    exact (body_approx (Nat.le_succ bound) (Grammar.references_approx (Nat.le_succ bound)
      (fun _ _ => .finished True.intro _ _) (Nat.le_refl bound)) _ _).execute input n
  · refine .of_approx fun bound => ⟨bound, fun input n => ?_⟩
    cases bound with
    | zero =>
      rw [Grammar.toParser, Grammar.execute_recursive_zero]
      exact .unfinished _
    | succ bound =>
      rw [Grammar.toParser, Grammar.toParser, Grammar.execute_fix, Grammar.execute_recursive_succ]
      refine .before ?_ _
      exact (body_approx (Nat.le_refl _) (Grammar.references_approx (Nat.le_refl _)
        (fun _ _ => .finished True.intro _ _) (Nat.le_succ bound)) _ _).execute input n

end

/-! ## References without their definition -/

/-- The words of a reference whose definition is gone. -/
def orphanMessage : String := "recursive parser used outside of its definition"

namespace Failure

/-- The messages of refusals in a failure, its causes included. -/
def rejections : Failure → List String
  | noMatch .. | endOfInput .. | badInput .. | countOutOfRange _ _ _ _ none => []
  | countOutOfRange _ _ _ _ (some e) => e.rejections
  | rejected _ _ message => [message]
  | within _ _ inner => inner.rejections

@[simp] theorem rejections_moveTo (n : Nat) : ∀ e : Failure, (e.moveTo n).rejections = e.rejections
  | noMatch .. | endOfInput .. | badInput .. | rejected .. => rfl
  | countOutOfRange _ _ _ _ none | countOutOfRange _ _ _ _ (some _) => rfl
  | within _ _ inner => rejections_moveTo n inner

@[simp] theorem rejections_relabel (text : String) :
    ∀ e : Failure, (e.relabel text).rejections = e.rejections
  | noMatch .. | endOfInput .. | badInput .. | rejected .. => rfl
  | countOutOfRange _ _ _ _ none | countOutOfRange _ _ _ _ (some _) => rfl
  | within _ _ inner => rejections_relabel text inner

@[simp] theorem rejections_rename (name : String) (e : Failure) :
    (e.rename name).rejections = e.rejections := by
  rcases e with _ | _ | _ | ⟨_, _, _, _, _ | _⟩ | _ | _ <;> rfl

@[simp] theorem rejections_orphanFailure (n : Nat) :
    (Parser.orphanFailure n).rejections = [orphanMessage] := rfl

/-- Combinators add no refusals. -/
theorem class_of_not_mem_rejections (message : String) :
    FailureClass fun e => message ∉ e.rejections where
  noMatch _ _ _ _ := List.not_mem_nil
  endOfInput _ _ _ _ := List.not_mem_nil
  countOutOfRange _ _ _ _ := List.not_mem_nil
  caused _ _ _ _ h := h
  moveTo n h := by rwa [rejections_moveTo]
  relabel text h := by rwa [rejections_relabel]
  rename name h := by rwa [rejections_rename]

end Failure

namespace Fragment

/-- The grammars that have no reference whose definition is gone, and that do not refuse in its words. -/
def withoutOrphans : Fragment where
  node
    | .orphan => false
    | .primitive (.failWith message) => message != orphanMessage
    | .mapReply _ (.fail e) => !e.rejections.contains orphanMessage
    | _ => true
  step
    | .limited _ _ message | .reject message => message != orphanMessage
    | .raise e => !e.rejections.contains orphanMessage
    | _ => true

theorem withoutOrphans_failsIn : withoutOrphans.FailsIn fun e => orphanMessage ∉ e.rejections := by
  have refusal {message : String} (h : (message != orphanMessage) = true) (parser : String) (n : Nat) :
      orphanMessage ∉ (Failure.rejected parser n message).rejections :=
    fun hm => bne_iff_ne.1 h (List.mem_singleton.1 hm).symm
  have given {e : Failure} (h : (!e.rejections.contains orphanMessage) = true) :
      orphanMessage ∉ e.rejections := by
    simpa using h
  refine
    { toFailureClass := Failure.class_of_not_mem_rejections orphanMessage
      failWith := refusal
      mapReply := ?_
      within := fun _ _ _ _ h => h
      badInput := fun _ _ _ _ _ => List.not_mem_nil
      orphan := fun h => nomatch h
      reject := ?_
      raise := given }
  · intro g f h input r hr
    cases f with
    | suppress | withCursor | advance => exact hr
    | locate =>
      obtain ⟨stop, e | v, flag⟩ := r
      · exact .error (hr e rfl) stop flag
      · exact .ok stop _ flag
    | fail e => exact .fail (given h) _
    | noMatch => exact .fail List.not_mem_nil _
  · rintro message (h | ⟨g, limit, h⟩)
    · exact refusal h
    · exact refusal h

end Fragment

open Fragment (withoutOrphans)

/-- A definition without orphans, all of whose names are defined, does not fail as an orphan does. -/
theorem orphanMessage_not_mem {name : String} {body : Grammar} (hc : (fix name body).free = [])
    (hb : withoutOrphans.admits body = true) {s : State α} {a : α} (hs : s.outcome = .ok a)
    {t : State Value} (ht : (fix name body).Returns s t) {e : Failure} (he : t.outcome = .error e) :
    orphanMessage ∉ e.rejections := by
  obtain ⟨bound, ht⟩ := ht
  have hp := Grammar.failsIn Fragment.withoutOrphans_failsIn (g := fix name body) hb (.inl hc) bound []
  rw [Parser.answer?_apply_of_ok _ hs, Option.map_eq_some_iff] at ht
  obtain ⟨reply, hr, rfl⟩ := ht
  exact (hp.execute (fun _ _ _ _ => List.not_mem_nil) s.input s.cursor).answer hr e he

/-- **The two kinds of recursive definition are interchangeable.** From every state both come to the same
states, and they accept the same shapes of input. If all names are defined, it does not matter what names
mean around the definition, as no reference is without its own; and unless the grammar has references that
are, or refuses in their words, no failure says that there was one. -/
theorem fix_recursive_interchangeable (name : String) (traced : Bool) (body : Grammar) :
    (∀ (s : State α) (t : State Value),
        (fix name body).Returns s t ↔ (recursive name traced body).Returns s t) ∧
      (∀ bound, ((fix name body).toParser bound).accepts =
        ((recursive name traced body).toParser bound).accepts) ∧
      ((fix name body).free = [] →
        ∀ g ∈ [fix name body, recursive name traced body],
          (∀ bound scope scope' address,
            g.parser bound scope address = g.parser bound scope' address) ∧
          (withoutOrphans.admits body = true →
            ∀ (s : State α) (a : α) (t : State Value) (e : Failure),
              s.outcome = .ok a → g.Returns s t → t.outcome = .error e →
                orphanMessage ∉ e.rejections)) := by
  refine ⟨fun _ _ => returns_fix_iff_recursive name traced body, fun bound => ?_, fun hc g hg => ?_⟩
  · rw [Grammar.toParser, Grammar.toParser, Grammar.parser_fix, Grammar.parser_recursive]
    cases bound <;> rfl
  · simp only [List.mem_cons, List.not_mem_nil, or_false] at hg
    obtain rfl | rfl := hg
    · refine ⟨fun bound => Grammar.parser_of_closed hc, fun hb s a t e hs ht he => ?_⟩
      exact orphanMessage_not_mem hc hb hs ht he
    · refine ⟨fun bound => Grammar.parser_of_closed hc, fun hb s a t e hs ht he => ?_⟩
      exact orphanMessage_not_mem hc hb hs ((returns_fix_iff_recursive name traced body).2 ht) he

/-- A group that breaks off in its second part, defined in one way and in the other. -/
theorem fix_recursive_interchangeable_of_group :
    let body := Grammar.sequence [.character '(', .choice [.ref "group", .primitive .digit]]
    let s := State.start ⟨.characters ['(', 'x'], {}⟩
    let e := Failure.within "sequence" 1 (.noMatch "choice" 1 "one of recursive value, a digit" "\"x\"")
    (fix "group" body).free = [] ∧ (fix "group" body).Returns s (s.fail e) ∧
      (recursive "group" true body).Returns s (s.fail e) ∧ orphanMessage ∉ e.rejections := by
  intro body s e
  have hs : (fix "group" body).Returns s (s.fail e) := ⟨4, rfl⟩
  obtain ⟨hiff, -, hclosed⟩ := fix_recursive_interchangeable "group" true body
  exact ⟨rfl, hs, (hiff s _).1 hs,
    (hclosed rfl _ (.head _)).2 rfl s () (s.fail e) e rfl hs rfl⟩

/-! ## The fixed point -/

/-- A state in a view. -/
def State.seen (v : View) (t : State α) : State α := ⟨t.toReply.seen v, t.input⟩

/-- Parsers whose replies look alike take a state to states that look alike. -/
theorem Parser.apply_seen {β : Type} {v : View} {p q : Parser β}
    (h : ∀ input n, (p.execute input n).answer?.map (Reply.seen v) =
      (q.execute input n).answer?.map (Reply.seen v)) (s : State α) :
    (p.apply s).answer?.map (State.seen v) = (q.apply s).answer?.map (State.seen v) := by
  cases hs : s.outcome with
  | error e => rw [Parser.apply, Parser.apply, hs]
  | ok a =>
    have hseen (x : Option (Reply β)) : (x.map fun reply => (⟨reply, s.input⟩ : State β)).map
        (State.seen v) = (x.map (Reply.seen v)).map fun reply => ⟨reply, s.input⟩ := by
      rw [Option.map_map, Option.map_map]
      rfl
    rw [Parser.answer?_apply_of_ok p hs, Parser.answer?_apply_of_ok q hs, hseen, hseen, h]

section
variable {name : String} {body : Grammar} (hc : (fix name body).free = [])
  (hb : Fragment.incurious.admits body = true)

/-- The body of a definition, whose references are one unfolding deeper than the definition has them. -/
def Grammar.unfolding (name : String) (body : Grammar) (bound : Nat) : Parser Value :=
  body.parser bound [(name, shared name body bound [] (bound + 1))] []

include hc hb in
/-- A reference that is one unfolding deeper runs what the definition runs. -/
theorem unfolding_seen (bound : Nat) (input : Input) (n : Nat) :
    ((Grammar.unfolding name body bound).execute input n).answer?.map (Reply.seen .wordless) =
      (((body.replace name (fix name body)).toParser bound).execute input n).answer?.map
        (Reply.seen .wordless) := by
  have hcongr := (agree_congruent (Comparison.wordless_sameElements input) bound).weaken
    (F := Fragment.incurious) (fun g _ => by cases g <;> rfl)
    (fun st h => by cases st <;> first | rfl | cases h)
  have hbody {handles handles' : Address → Parser Value}
      (hh : ∀ a a', Parser.Agree (.wordless input) Eq (handles a) (handles' a')) (a a' : Address) :
      Parser.Agree (.wordless input) Eq (body.parser bound [(name, handles)] a)
        (body.parser bound [(name, handles')] a') :=
    hcongr.parser body hb ((Scope.Related.nil .orphan _).under hh) a a'
  have hrefs (a a' : Address) : Parser.Agree (.wordless input) Eq
      (shared name body bound [] (bound + 1) a) ((fix name body).parser bound [] a') := by
    have hshared (b b' : Address) : Parser.Agree (.wordless input) Eq
        (shared name body bound [] bound b) (shared name body bound a' bound b') :=
      .unfold (fun _ _ => .pure True.intro) (fun _ _ hh _ _ => hbody hh _ _) bound b b'
    rw [Grammar.parser_fix]
    refine .of_parse rfl rfl rfl fun n _ => ?_
    show Run.Agree _ (pure () >>= fun _ => _) _
    rw [Run.pure_eq, Run.finished_nil_bind]
    exact (hbody hshared _ _).execute n
  have h := (hbody hrefs [] []).execute n
  rw [Grammar.toParser, Grammar.parser_replace body (Scope.Defines.front hc [])]
  rw [show (Comparison.wordless input).offset + n = n from Nat.zero_add n] at h
  exact (h.mono fun _ _ => Reply.Agree.seen_eq).map_answer?

include hc hb in
/-- **A definition is a fixed point.** A closed definition whose rules do not look at the failure of a step,
and its body with the definition in place of the name, either both come to no state from a state or both come
to one; and these succeed with the same value or fail with the same failure, but for names and for the texts
of what is expected, at the same cursor and with the same flag. -/
theorem fix_fixed_point (s : State α) :
    (∀ t, (fix name body).Returns s t → ∃ t', (body.replace name (fix name body)).Returns s t' ∧
        t'.seen .wordless = t.seen .wordless) ∧
      ∀ t', (body.replace name (fix name body)).Returns s t' → ∃ t, (fix name body).Returns s t ∧
        t'.seen .wordless = t.seen .wordless := by
  have hseen (bound : Nat) := Parser.apply_seen (unfolding_seen hc hb bound) s
  -- In between stands the body with references that are one unfolding deeper: the definition approximates it
  -- under the same bound, and it approximates the definition under the next one.
  constructor
  · rintro t ⟨bound, ht⟩
    have hu : ((Grammar.unfolding name body bound).apply s).answer? = some t := by
      refine Run.approximation.apply (fun input n => ?_) s t ht
      rw [Grammar.toParser, Grammar.execute_fix]
      exact (body_approx (Nat.le_refl _) (Grammar.references_approx (Nat.le_refl _)
        (fun _ _ => .finished True.intro _ _) (Nat.le_succ bound)) _ _).execute input n
    have h := hseen bound
    rw [hu, Option.map_some, eq_comm, Option.map_eq_some_iff] at h
    obtain ⟨t', ht', h⟩ := h
    exact ⟨t', ⟨bound, ht'⟩, h⟩
  · rintro t' ⟨bound, ht'⟩
    have h := hseen bound
    rw [ht', Option.map_some, Option.map_eq_some_iff] at h
    obtain ⟨t, hu, h⟩ := h
    refine ⟨t, ⟨bound + 1, ?_⟩, h.symm⟩
    refine Run.approximation.apply (fun input n => ?_) s t hu
    rw [Grammar.toParser, Grammar.execute_fix]
    exact (body_approx (Nat.le_succ bound) (Grammar.references_approx (Nat.le_succ bound)
      (fun _ _ => .finished True.intro _ _) (Nat.le_refl _)) _ _).execute input n

end

/-- The same group, and what the group is with the definition in place of the reference. There the choice
has heard what it may expect of the definition, and not of a reference to it. -/
theorem fix_fixed_point_of_group :
    let body := Grammar.sequence [.character '(', .choice [.ref "group", .primitive .digit]]
    let s := State.start ⟨.characters ['(', 'x'], {}⟩
    let broken := fun expected =>
      s.fail (β := Value) (.within "sequence" 1 (.noMatch "choice" 1 expected "\"x\""))
    (fix "group" body).Returns s (broken "one of recursive value, a digit") ∧
      (body.replace "group" (fix "group" body)).Returns s (broken "one of character '(', a digit") ∧
      ∃ t, (body.replace "group" (fix "group" body)).Returns s t ∧
        t.seen .wordless = (broken "one of recursive value, a digit").seen .wordless :=
  ⟨⟨4, rfl⟩, ⟨4, rfl⟩, (fix_fixed_point rfl rfl _).1 _ ⟨4, rfl⟩⟩

end Triparse
