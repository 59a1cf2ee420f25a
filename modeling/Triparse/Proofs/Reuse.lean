import Triparse.Proofs.Places
import Triparse.Proofs.Storeless
import Triparse.Session

/-!
# Running a grammar again

A grammar that keeps what it builds can be run on one input after another, and each run comes to the state
that a run of a new copy comes to (`reuse_unobservable`). The store grows in these runs, and any of them
may read what an earlier one has put there. But what is kept for an instance is always what its producer
would make now, as its address decides that (`Store.Sound`). So a run with a store goes step by step as the
one without: it leaves a store like that behind, and its events are those of the other run and, after the
first execution of each instance that is not in the store, the call of its producer
(`Building.Refines`, `Grammar.assemble_refines`).
-/

set_option autoImplicit false

namespace Triparse

variable {α β : Type}

/-! ## Events of runs with a store -/

namespace Event

/-- The address of the recursive parser that an event is the execution of. -/
def executed? : Event → Option Address
  | .entered a _ => some a
  | _ => none

/-- The address of the recursive parser whose producer is called. -/
def produced? : Event → Option Address
  | .built a _ => some a
  | _ => none

/-- The addresses of the recursive parsers that are executed. -/
def executed (events : List Event) : List Address := events.filterMap executed?

/-- The addresses of the recursive parsers whose producers are called. -/
def produced (events : List Event) : List Address := events.filterMap produced?

/-- What has been built after some events, if everything is built that is executed. -/
def known (built : Address → Bool) (events : List Event) : Address → Bool :=
  fun a => built a || (executed events).contains a

/-- The call of the producer, if an event is the execution of an instance that has not been built. -/
def building (built : Address → Bool) : Event → List Event
  | .entered a traced => if built a then [] else [.built a traced]
  | _ => []

/-- Some events, with the calls of producers. -/
def withBuilding (built : Address → Bool) : List Event → List Event
  | [] => []
  | e :: events => e :: (e.building built ++ withBuilding (known built [e]) events)

variable {built : Address → Bool} {e : Event} {events : List Event} {a : Address} {traced : Option String}

theorem executed_append (before after : List Event) :
    executed (before ++ after) = executed before ++ executed after := List.filterMap_append

theorem executed_cons (e : Event) (events : List Event) :
    executed (e :: events) = executed [e] ++ executed events := executed_append [e] events

theorem produced_append (before after : List Event) :
    produced (before ++ after) = produced before ++ produced after := List.filterMap_append

theorem known_nil (built : Address → Bool) : known built [] = built := by
  funext a
  simp [known, executed]

theorem known_append (built : Address → Bool) (before after : List Event) :
    known built (before ++ after) = known (known built before) after := by
  funext a
  simp [known, executed, Bool.or_assoc]

theorem withBuilding_append (built : Address → Bool) (before after : List Event) :
    withBuilding built (before ++ after) =
      withBuilding built before ++ withBuilding (known built before) after := by
  induction before generalizing built with
  | nil => rw [known_nil, List.nil_append, withBuilding, List.nil_append]
  | cons e before ih =>
    have hk : known built (e :: before) = known (known built [e]) before := known_append built [e] before
    rw [List.cons_append, withBuilding, ih, ← hk, withBuilding, List.cons_append, List.append_assoc]

theorem known_of_instance?_eq_none (h : ∀ e ∈ events, e.instance? = none) : known built events = built := by
  have hx : executed events = [] := by
    refine List.filterMap_eq_nil_iff.2 fun e he => ?_
    cases e with
    | entered b traced => cases h _ he
    | _ => rfl
  funext a
  simp [known, hx]

theorem withBuilding_of_instance?_eq_none (h : ∀ e ∈ events, e.instance? = none) :
    withBuilding built events = events := by
  induction events with
  | nil => rfl
  | cons e events ih =>
    obtain ⟨he, hs⟩ := List.forall_mem_cons.1 h
    have hk : known built [e] = built := known_of_instance?_eq_none (by simpa using he)
    have hb : e.building built = [] := by
      cases e with
      | entered b traced => cases he
      | _ => rfl
    rw [withBuilding, hk, hb, List.nil_append, ih hs]

/-- One producer at most is called for an event, and only for the execution of what has not been built. -/
theorem building_cases (built : Address → Bool) (e : Event) :
    e.building built = [] ∨
      ∃ a traced, e = .entered a traced ∧ built a = false ∧ e.building built = [.built a traced] := by
  cases e with
  | entered a traced =>
    cases ha : built a with
    | true => exact .inl (if_pos ha)
    | false => exact .inr ⟨a, traced, rfl, ha, if_neg (by simp [ha])⟩
  | _ => exact .inl rfl

theorem executed_building (built : Address → Bool) (e : Event) : executed (e.building built) = [] := by
  obtain h | ⟨a, traced, -, -, h⟩ := building_cases built e <;> rw [h] <;> rfl

/-- No instance is executed by building another one. -/
theorem executed_withBuilding (built : Address → Bool) (events : List Event) :
    executed (withBuilding built events) = executed events := by
  induction events generalizing built with
  | nil => rfl
  | cons e events ih =>
    rw [withBuilding, executed_cons, executed_cons e events, executed_append, executed_building, ih,
      List.nil_append]

/-- What happens with the calls of producers is what happens without, or the call for what has happened just
before. -/
theorem split_withBuilding {before after : List Event} {x : Event}
    (h : withBuilding built events = before ++ x :: after) :
    ∃ earlier e later, events = earlier ++ e :: later ∧
      (before = withBuilding built earlier ∧ x = e ∧
          after = e.building (known built earlier) ++
            withBuilding (known built (earlier ++ [e])) later ∨
        before = withBuilding built earlier ++ [e] ∧ e.building (known built earlier) = [x]) := by
  induction events generalizing built before with
  | nil => exact absurd h.symm (List.append_ne_nil_of_right_ne_nil _ (List.cons_ne_nil _ _))
  | cons e events ih =>
    rw [withBuilding] at h
    cases before with
    | nil =>
      obtain ⟨rfl, rfl⟩ := List.cons.inj h
      exact ⟨[], _, events, rfl, .inl ⟨rfl, rfl, by rw [known_nil, List.nil_append]⟩⟩
    | cons y front =>
      obtain ⟨rfl, htail⟩ := List.cons.inj h
      -- What comes behind the front is the call for the first event, or it is in what happens later.
      have hfront : front = [] ∧ e.building built = [x] ∨
          ∃ rest, front = e.building built ++ rest ∧
            withBuilding (known built [e]) events = rest ++ x :: after := by
        obtain hb | ⟨a, traced, -, -, hb⟩ := building_cases built e <;> rw [hb] at htail ⊢
        · exact .inr ⟨front, rfl, htail⟩
        · cases front with
          | nil => exact .inl ⟨rfl, by rw [(List.cons.inj htail).1]⟩
          | cons z rest =>
            obtain ⟨rfl, hrest⟩ := List.cons.inj htail
            exact .inr ⟨rest, rfl, hrest⟩
      obtain ⟨rfl, hb⟩ | ⟨rest, rfl, hrest⟩ := hfront
      · exact ⟨[], e, events, rfl, .inr ⟨rfl, by rw [known_nil, hb]⟩⟩
      · obtain ⟨earlier, e', later, rfl, hsplit⟩ := ih hrest
        refine ⟨e :: earlier, e', later, rfl, ?_⟩
        rw [← known_append, ← known_append] at hsplit
        obtain ⟨rfl, hx⟩ | ⟨rfl, hx⟩ := hsplit
        · exact .inl ⟨rfl, hx⟩
        · exact .inr ⟨by rw [withBuilding, List.cons_append, List.append_assoc], hx⟩

section
variable (hp : produced events = [])
include hp

/-- A producer is called only right after the first execution of its instance, and if that has not been
built before. -/
theorem first_of_produced {before after : List Event}
    (h : withBuilding built events = before ++ .built a traced :: after) :
    built a = false ∧ ∃ earlier, before = earlier ++ [.entered a traced] ∧ a ∉ executed earlier := by
  obtain ⟨earlier, e, later, rfl, ⟨-, rfl, -⟩ | ⟨rfl, hb⟩⟩ := split_withBuilding h
  · rw [produced_append, List.append_eq_nil_iff] at hp
    cases hp.2
  · obtain hn | ⟨b, name, rfl, hk, he⟩ := building_cases (known built earlier) e
    · rw [hn] at hb
      cases hb
    · cases he.symm.trans hb
      simp only [known, Bool.or_eq_false_iff, List.contains_eq_mem, decide_eq_false_iff_not] at hk
      exact ⟨hk.1, _, rfl, by rw [executed_withBuilding]; exact hk.2⟩

omit hp in
/-- The producer is called right after the first execution of an instance that has not been built before. -/
theorem produced_of_first {before after : List Event} (ha : built a = false)
    (h : withBuilding built events = before ++ .entered a traced :: after) (hf : a ∉ executed before) :
    ∃ rest, after = .built a traced :: rest := by
  obtain ⟨earlier, e, later, rfl, ⟨rfl, rfl, hafter⟩ | ⟨rfl, hb⟩⟩ := split_withBuilding h
  · rw [executed_withBuilding] at hf
    have hk : known built earlier a = false := by simp [known, ha, hf]
    rw [hafter, building, hk]
    exact ⟨_, rfl⟩
  · obtain hn | ⟨b, name, rfl, -, he⟩ := building_cases (known built earlier) e
    · rw [hn] at hb
      cases hb
    · cases he.symm.trans hb

/-- No producer is called twice. -/
theorem nodup_produced (built : Address → Bool) : (produced (withBuilding built events)).Nodup := by
  induction events generalizing built with
  | nil => exact List.nodup_nil
  | cons e events ih =>
    obtain ⟨he, hs⟩ := List.append_eq_nil_iff.1 ((produced_append [e] events).symm.trans hp)
    have hall : produced (withBuilding built (e :: events)) =
        produced (e.building built) ++ produced (withBuilding (known built [e]) events) := by
      rw [withBuilding, ← List.singleton_append, produced_append, he, List.nil_append, produced_append]
    obtain hb | ⟨a, traced, rfl, -, hb⟩ := building_cases built e <;> rw [hall, hb]
    · exact ih hs _
    · refine List.nodup_cons.2 ⟨fun ha => ?_, ih hs _⟩
      -- The instance has been built by then.
      obtain ⟨x, hx, hxa⟩ := List.mem_filterMap.1 ha
      obtain ⟨before, after, hsplit⟩ := List.append_of_mem hx
      cases x with
      | built b name =>
        cases hxa
        have hk := (first_of_produced hs hsplit).1
        simp [known, executed, executed?] at hk
      | _ => cases hxa

end

end Event

/-! ## Stores -/

/-- What is kept for each instance stands at its address, one step on. -/
def Store.Sound (root : Grammar) (store : Store) : Prop :=
  ∀ a built, store[a]? = some built → built.address = 0 :: a ∧ built.Placed root

/-- Nothing else than what its producer makes can be kept for an instance. -/
theorem Store.Sound.eq {root : Grammar} {store : Store} (h : store.Sound root) {a : Address}
    {built product : Built} (hb : store[a]? = some built) (ha : product.address = 0 :: a)
    (hp : product.Placed root) : built = product := by
  obtain ⟨body, around, address⟩ := product
  obtain ⟨hba, hbp⟩ := h a built hb
  obtain ⟨body', around', address'⟩ := built
  cases ha
  cases hba
  cases hbp.symm.trans hp
  rfl

theorem Store.Sound.empty (root : Grammar) : Store.Sound root {} := by
  intro a built h
  simp at h

theorem Store.Sound.insert {root : Grammar} {store : Store} (h : store.Sound root) {a : Address}
    {product : Built} (ha : product.address = 0 :: a) (hp : product.Placed root) :
    Store.Sound root (store.insert a product) := by
  intro b built hb
  rw [Std.HashMap.getElem?_insert] at hb
  split at hb
  · rename_i heq
    cases hb
    cases eq_of_beq heq
    exact ⟨ha, hp⟩
  · exact h b built hb

section
variable {store : Store} {a : Address} (traced : Option String) (product : Built)

/-- What is kept for an instance is used. -/
theorem run_demand_of_some {built : Built} (h : store[a]? = some built) :
    (demand a traced product).run store = .finished (built, store) [.entered a traced] := by
  simp only [demand, getOrBuild, StateT.run_bind, StateT.run_monadLift, monadLift_self, StateT.run_get,
    StateT.run_pure, bind_assoc, pure_bind, h]
  rfl

/-- If nothing is kept for an instance, its producer is called. -/
theorem run_demand_of_none (h : store[a]? = none) :
    (demand a traced product).run store =
      .finished (product, store.insert a product) [.entered a traced, .built a traced] := by
  simp only [demand, getOrBuild, StateT.run_bind, StateT.run_monadLift, monadLift_self, StateT.run_get,
    StateT.run_pure, StateT.run_modify, bind_assoc, pure_bind, h]
  rfl

end

/-! ## Runs with a store -/

/-- A run with a store goes as the run does without one: started on whatever is sound, it leaves what is
sound, with all in it that is executed, and calls producers for nothing else than what is executed and is not
in the store. -/
def Building.Refines (root : Grammar) (x : Building α) : Run α → Prop
  | .unfinished => ∀ store : Store, store.Sound root → x.run store = .unfinished
  | .finished a events => Event.produced events = [] ∧ ∀ store : Store, store.Sound root →
      ∃ after : Store, after.Sound root ∧ after.contains = Event.known store.contains events ∧
        x.run store = .finished (a, after) (Event.withBuilding store.contains events)

namespace Building.Refines

variable {root : Grammar}

theorem pure (a : α) : Refines root (pure a) (pure a) :=
  ⟨rfl, fun store hs => ⟨store, hs, (Event.known_nil _).symm, rfl⟩⟩

/-- Related runs go on in a related way, if they do from what the one without a store answers. -/
theorem bind {x : Building α} {y : Run α} {f : α → Building β} {g : α → Run β} (h : Refines root x y)
    (hfg : ∀ a, y.answer? = some a → Refines root (f a) (g a)) : Refines root (x >>= f) (y >>= g) := by
  cases y with
  | unfinished =>
    intro store hs
    rw [StateT.run_bind, h store hs, Run.unfinished_bind]
  | finished a before =>
    obtain ⟨hp, hx⟩ := h
    have hf := hfg a rfl
    rw [Run.finished_bind]
    cases hga : g a with
    | unfinished =>
      rw [hga] at hf
      intro store hs
      obtain ⟨mid, hmid, -, hrun⟩ := hx store hs
      rw [StateT.run_bind, hrun, Run.finished_bind, hf mid hmid]
    | finished b after =>
      rw [hga] at hf
      obtain ⟨hp', hf⟩ := hf
      refine ⟨by rw [Event.produced_append, hp, hp', List.nil_append], fun store hs => ?_⟩
      obtain ⟨mid, hmid, hknown, hrun⟩ := hx store hs
      obtain ⟨last, hlast, hknown', hrun'⟩ := hf mid hmid
      refine ⟨last, hlast, by rw [hknown', hknown, Event.known_append], ?_⟩
      rw [StateT.run_bind, hrun, Run.finished_bind, hrun', hknown, Event.withBuilding_append]

theorem lift {x : Run α} (hx : x.Quiet) : Refines root (liftM x) (liftM x : Run α) := by
  cases x with
  | unfinished => exact fun _ _ => rfl
  | finished a events =>
    refine ⟨List.filterMap_eq_nil_iff.2 fun e he => ?_, fun store hs => ⟨store, hs, ?_, ?_⟩⟩
    · cases e with
      | built b traced => cases hx _ he
      | _ => rfl
    · rw [Event.known_of_instance?_eq_none hx]
    · rw [Event.withBuilding_of_instance?_eq_none hx]
      exact congrArg (Run.finished (a, store)) (List.append_nil events)

/-- **The step.** What is demanded of an instance is what its producer makes. -/
theorem demand {a : Address} {product : Built} (ha : product.address = 0 :: a) (hp : product.Placed root)
    (traced : Option String) :
    Refines root (Triparse.demand a traced product) (rebuild a traced product) := by
  show Refines root _ (.finished product [.entered a traced])
  refine ⟨rfl, fun store hs => ?_⟩
  have hknown (b : Address) :
      Event.known store.contains [.entered a traced] b = (a == b || store.contains b) := by
    have hab : decide (b = a) = (a == b) := by rw [Bool.beq_comm, beq_eq_decide]
    simp [Event.known, Event.executed, Event.executed?, Bool.or_comm, hab]
  cases hb : store[a]? with
  | some built =>
    have hc : store.contains a = true := by
      rw [Std.HashMap.contains_eq_isSome_getElem?, hb, Option.isSome_some]
    refine ⟨store, hs, ?_, ?_⟩
    · funext b
      rw [hknown]
      by_cases hab : a = b
      · rw [← hab, hc, Bool.or_true]
      · rw [beq_false_of_ne hab, Bool.false_or]
    · rw [run_demand_of_some traced product hb, hs.eq hb ha hp, Event.withBuilding, Event.building, hc]
      rfl
  | none =>
    have hc : store.contains a = false := by
      rw [Std.HashMap.contains_eq_isSome_getElem?, hb, Option.isSome_none]
    refine ⟨store.insert a product, hs.insert ha hp, ?_, ?_⟩
    · funext b
      rw [Std.HashMap.contains_insert, hknown]
    · rw [run_demand_of_none traced product hb, Event.withBuilding, Event.building, hc]
      rfl

end Building.Refines

/-- A run with a store in the place of one without. -/
def Building.refinement (root : Grammar) : Simulation Building Run where
  rel := Building.Refines root
  pure := .pure
  bind h hfg := h.bind fun a _ => hfg a
  lift := .lift

/-! ## Grammars with a store -/

section
variable {root : Grammar} {run : Built → Parser Value Building} {run' : Built → Parser Value}
  (hrun : ∀ b : Built, b.Placed root → Parser.Related (Building.refinement root) (run b) (run' b))
include hrun

/-- An instance does what it does without a store, if what its producer makes does. -/
theorem Definition.instance_refines {d : Definition} {around : Definitions} {a : Address}
    (hshared : ∀ b, d.sharing = .shared b → (d.build around b).Placed root)
    (hfresh : (d.build around a).Placed root) :
    Parser.Related (Building.refinement root) (d.instance demand run around a)
      (d.instance rebuild run' around a) := by
  obtain ⟨name, body, b | traced⟩ := d
  · exact .handle (hrun _ (hshared b rfl)).execute
  · refine .handle fun input n => (Building.Refines.demand rfl hfresh _).bind fun b hb => ?_
    cases hb
    exact (hrun _ hfresh).execute input n

/-- So do the parts of a grammar, each where it stands. -/
theorem Definitions.refines (bound : Nat) :
    Along bound bound .all (Parser.Related (Building.refinement root)) (naming demand run)
      (naming rebuild run') fun p around a around' a' =>
        around = around' ∧ a = a' ∧ root.place? a = some (p, around) :=
  Definitions.along (P := fun p around a => root.place? a = some (p, around)) Grammar.place?_child
    Grammar.place?_fix
    (fun h => Definition.instance_refines hrun (fun _ hd => nomatch hd) (Grammar.place?_recursive h))
    fun h hd => Definition.instance_refines hrun
      (fun _ hs => Grammar.place?_of_shared hs h (suffix_of_find? hd)) (Grammar.place?_ref h hd)

end

/-- What has been built does with a store what it does without one, as deep as executions are nested. -/
theorem Built.parser_refines {root : Grammar} (bound : Nat) :
    ∀ (depth : Nat) (b : Built), b.Placed root → Parser.Related (Building.refinement root)
      (b.parser demand bound depth) (b.parser rebuild bound depth)
  | 0, _, _ => .handle fun _ _ => (Building.refinement root).lift trivial
  | depth + 1, b, hb =>
    ((Building.refinement root).compositional (.same bound) .all).interpret
      (Definitions.refines (parser_refines bound depth) bound) b.body ⟨rfl, rfl, hb⟩

/-- **A grammar does with a store what it does without one.** -/
theorem Grammar.assemble_refines (g : Grammar) (bound : Nat) :
    Parser.Related (Building.refinement g) (g.assemble bound) (g.storeless bound bound [] []) :=
  Built.parser_refines bound (bound + 1) ⟨g, [], []⟩ rfl

/-- **So do its runs on states one after the other**, each with the store that the one before has left. -/
theorem Grammar.applyAll_refines (g : Grammar) (bound : Nat) (ss : List (State α)) :
    Building.Refines g ((g.assemble bound).applyAll ss) ((g.storeless bound bound [] []).applyAll ss) :=
  (g.assemble_refines bound).applyAll ss

/-! ## Sessions -/

namespace Session

/-- What a session has been told by events: the log without the lines about runs, and the trace. -/
def undebugged (s : Session) : Session :=
  { s with built := {}, log := s.log.filter fun line => line.level = .trace }

variable (s : Session)

theorem noteAll_cons (e : Event) (events : List Event) :
    s.noteAll (e :: events) = (s.note e).noteAll events := rfl

theorem noteAll_append (before after : List Event) :
    s.noteAll (before ++ after) = (s.noteAll before).noteAll after := List.foldl_append

theorem undebugged_write_debug (message : String) :
    (s.write .debug message).undebugged = s.undebugged := by
  simp [undebugged, write]

theorem undebugged_write_trace (message : String) :
    (s.write .trace message).undebugged = s.undebugged.write .trace message := by
  simp [undebugged, write]

/-- Events are no lines about runs. -/
theorem undebugged_note (e : Event) : (s.note e).undebugged = s.undebugged.note e := by
  cases e with
  | tapped label cursor => rfl
  | entered a traced => rfl
  | built a traced =>
    have hw := s.undebugged_write_trace "building recursive parser"
    cases traced with
    | none => exact hw
    | some name => exact congrArg (·.mark (.built name)) hw
  | alternativeFailed | repetitionStopped | listStopped | ruleAborted =>
    exact s.undebugged_write_trace _

theorem undebugged_noteAll (events : List Event) :
    (s.noteAll events).undebugged = s.undebugged.noteAll events := by
  induction events generalizing s with
  | nil => rfl
  | cons e events ih => rw [noteAll_cons, noteAll_cons, ih, undebugged_note]

theorem built_note (e : Event) : (s.note e).built = s.built := by
  cases e with
  | built a traced => cases traced <;> rfl
  | _ => rfl

theorem built_noteAll (events : List Event) : (s.noteAll events).built = s.built := by
  induction events generalizing s with
  | nil => rfl
  | cons e events ih => rw [noteAll_cons, ih, built_note]

/-- What a session comes to is what a run with its store comes to: it has been told of the events, and what
is built then is there. -/
def Follows (s : Session) : Run (β × Store) → Option (β × Session) → Prop
  | .unfinished, r => r = none
  | .finished (b, built) events, r =>
    ∃ t : Session, r = some (b, t) ∧ t.built = built ∧ t.undebugged = s.undebugged.noteAll events

variable {s} {p : Parser α Building}

theorem Follows.bind {x : Run (α × Store)} {r : Option (α × Session)} {f : α → Store → Run (β × Store)}
    {k : α → Session → Option (β × Session)} (h : s.Follows x r)
    (hk : ∀ a (t : Session), t.Follows (f a t.built) (k a t)) :
    s.Follows (x >>= fun found => f found.1 found.2) (r >>= fun found => k found.1 found.2) := by
  cases x with
  | unfinished =>
    cases h
    rfl
  | finished found before =>
    obtain ⟨a, built⟩ := found
    obtain ⟨t, rfl, rfl, ht⟩ := h
    have hf := hk a t
    rw [Run.finished_bind]
    dsimp only
    cases hx : f a t.built with
    | unfinished =>
      rw [hx] at hf
      exact hf
    | finished found' after =>
      rw [hx] at hf
      obtain ⟨t', hk', hbuilt, ht'⟩ := hf
      exact ⟨t', hk', hbuilt, by rw [ht', ht, noteAll_append]⟩

theorem execute_follows (s : Session) (p : Parser α Building) (state : State β) :
    s.Follows ((p.apply state).run s.built) (s.execute p state) := by
  unfold execute
  cases (p.apply state).run s.built with
  | unfinished => rfl
  | finished found events =>
    exact ⟨_, rfl, built_noteAll _ events, undebugged_noteAll { s with built := found.2 } events⟩

/-- A run in a session goes as the run with its store does. -/
theorem run_follows (s : Session) (p : Parser α Building) (input : Input) :
    s.Follows ((p.apply (State.start input)).run s.built) (s.run p input) := by
  unfold run
  generalize hw : s.write .debug _ = w
  dsimp only
  have hbuilt : w.built = s.built := by rw [← hw, write]
  have hundebugged : w.undebugged = s.undebugged := by rw [← hw, undebugged_write_debug]
  have h := w.execute_follows p (State.start input)
  rw [hbuilt] at h
  cases hx : (p.apply (State.start input)).run s.built with
  | unfinished =>
    rw [hx] at h
    rw [show w.execute p (State.start input) = none from h]
    rfl
  | finished found events =>
    rw [hx] at h
    obtain ⟨t, hr, ht, hevents⟩ := h
    rw [hr]
    rw [hundebugged] at hevents
    refine ⟨_, rfl, ?_, ?_⟩
    · split <;> exact ht
    · split <;> rw [undebugged_write_debug, hevents]

/-- Several runs in a session go as the runs with its store do. -/
theorem runAll_follows (p : Parser α Building) (inputs : List Input) (s : Session) :
    s.Follows ((p.applyAll (inputs.map State.start)).run s.built) (s.runAll p inputs) := by
  induction inputs generalizing s with
  | nil => exact ⟨s, rfl, rfl, rfl⟩
  | cons input inputs ih =>
    let rest : Building (List (State α)) := p.applyAll (inputs.map State.start)
    rw [List.map_cons, Parser.applyAll, StateT.run_bind, runAll]
    refine (s.run_follows p input).bind
      (f := fun state => StateT.run do return state :: (← rest))
      (k := fun state t => t.runAll p inputs >>= fun found => some (state :: found.1, found.2))
      fun state t => ?_
    rw [StateT.run_bind]
    exact (ih t).bind (f := fun states => StateT.run (pure (state :: states)))
      (k := fun states t => some (state :: states, t)) fun _ t => ⟨t, rfl, rfl, rfl⟩

section
variable {root : Grammar} {x : Building β} {y : Run β} {r : Option (β × Session)} {b : β} {t : Session}
  (hf : s.Follows (x.run s.built) r) (hx : Building.Refines root x y) (hs : s.built.Sound root)
include hf hx hs

/-- A session comes to what the run without a store comes to. -/
theorem Follows.exists_iff : (∃ t, r = some (b, t)) ↔ y.answer? = some b := by
  cases y with
  | unfinished =>
    rw [hx s.built hs] at hf
    simp [show r = none from hf, Run.answer?]
  | finished a events =>
    obtain ⟨after, -, -, hrun⟩ := hx.2 s.built hs
    rw [hrun] at hf
    obtain ⟨t, rfl, -⟩ := hf
    simp

/-- It has been told of the events of the run without a store, and of the calls of producers. -/
theorem Follows.told (h : r = some (b, t)) :
    ∃ events, y = .finished b events ∧ Event.produced events = [] ∧
      x.run s.built = .finished (b, t.built) (Event.withBuilding s.built.contains events) ∧
      t.undebugged = s.undebugged.noteAll (Event.withBuilding s.built.contains events) := by
  cases y with
  | unfinished =>
    rw [hx s.built hs] at hf
    cases h.symm.trans hf
  | finished a events =>
    obtain ⟨hp, hx⟩ := hx
    obtain ⟨after, -, -, hrun⟩ := hx s.built hs
    rw [hrun] at hf
    obtain ⟨t', ht', rfl, hevents⟩ := hf
    cases h.symm.trans ht'
    exact ⟨events, rfl, hp, hrun, hevents⟩

end

end Session

/-! ## Reuse -/

/-- **To use a grammar again is not noticed.** Runs of one grammar on inputs one after the other, all with the
store that the runs before have left, come to the states that a run of a new copy on each of the inputs comes
to, and these are what the grammar comes to without a store. In the events of all these runs, no producer is
called twice; it is called right after the first execution of its instance and at no other time, and none is
left out. -/
theorem reuse_unobservable (g : Grammar) (inputs : List Input) :
    (∀ bound states, (∃ t, Session.runAll {} (g.assemble bound) inputs = some (states, t)) ↔
        List.Forall₂ (fun input state => ∃ t, Session.run {} (g.assemble bound) input = some (state, t))
          inputs states) ∧
      (∀ states, (∃ bound t, Session.runAll {} (g.assemble bound) inputs = some (states, t)) ↔
        List.Forall₂ (fun input => g.Returns (State.start input)) inputs states) ∧
      ∀ bound states t, Session.runAll {} (g.assemble bound) inputs = some (states, t) →
        ∃ events, ((g.assemble bound).applyAll (inputs.map State.start)).run {} =
            .finished (states, t.built) events ∧
          t.undebugged = Session.noteAll {} events ∧
          (Event.produced events).Nodup ∧
          (∀ before a traced after, events = before ++ .built a traced :: after →
            ∃ earlier, before = earlier ++ [.entered a traced] ∧ a ∉ Event.executed earlier) ∧
          ∀ before a traced after, events = before ++ .entered a traced :: after →
            a ∉ Event.executed before → ∃ rest, after = .built a traced :: rest := by
  have hempty := Store.Sound.empty g
  have hruns (bound : Nat) := g.applyAll_refines bound (inputs.map State.start)
  have hall (bound : Nat) (states : List (State Value)) :
      (∃ t, Session.runAll {} (g.assemble bound) inputs = some (states, t)) ↔
        ((g.storeless bound bound [] []).applyAll (inputs.map State.start)).answer? = some states :=
    (Session.runAll_follows (g.assemble bound) inputs {}).exists_iff (hruns bound) hempty
  refine ⟨fun bound states => ?_, fun states => ?_, fun bound states t ht => ?_⟩
  · have hone (input : Input) (state : State Value) :
        (∃ t, Session.run {} (g.assemble bound) input = some (state, t)) ↔
          ((g.storeless bound bound [] []).apply (State.start input)).answer? = some state :=
      (Session.run_follows {} (g.assemble bound) input).exists_iff
        ((g.assemble_refines bound).apply (State.start input)) hempty
    simp only [hall, hone, Parser.answer?_applyAll, List.forall₂_map_left_iff]
  · simp only [hall, Grammar.exists_storeless_iff, List.forall₂_map_left_iff]
  · obtain ⟨events, -, hp, hrun, hevents⟩ :=
      (Session.runAll_follows (g.assemble bound) inputs {}).told (hruns bound) hempty ht
    have hnew (a : Address) : ({} : Store).contains a = false := Std.HashMap.contains_empty
    refine ⟨_, hrun, hevents, Event.nodup_produced hp _, ?_, ?_⟩
    · exact fun _ _ _ _ h => (Event.first_of_produced hp h).2
    · exact fun _ a _ _ h hf => Event.produced_of_first (hnew a) h hf

/-- A group in parentheses, a digit, and a group that is not closed. Two instances are built, the group and,
when it is first executed, the reference in it, and both serve the later runs. -/
theorem reuse_unobservable_of_groups :
    let g := Grammar.recursive "group" true
      (.choice [.between (.character '(') (.character ')') (.ref "group"), .primitive .digit])
    let inputs := [['(', '1', ')'], ['2'], ['(', '3']].map fun cs => (⟨.characters cs, {}⟩ : Input)
    ∃ states t events, Session.runAll {} (g.assemble 4) inputs = some (states, t) ∧
      ((g.assemble 4).applyAll (inputs.map State.start)).run {} = .finished (states, t.built) events ∧
      states.map (fun state => state.isFailure) = [false, false, true] ∧
      Event.executed events = [[], [1, 0, 0, 0], [], [], [1, 0, 0, 0]] ∧
      Event.produced events = [[], [1, 0, 0, 0]] ∧ (Event.produced events).Nodup := by
  intro g inputs
  have hfollows := Session.runAll_follows (g.assemble 4) inputs {}
  have hrefines := g.applyAll_refines 4 (inputs.map State.start)
  obtain ⟨t, ht⟩ := (hfollows.exists_iff hrefines (.empty g)).2 rfl
  obtain ⟨events, hrun, -, hnodup, -⟩ := (reuse_unobservable g inputs).2.2 4 _ t ht
  obtain ⟨plain, hplain, -, hrun', -⟩ := hfollows.told hrefines (.empty g) ht
  have hnew : ({} : Store).contains = fun _ => false := funext fun _ => Std.HashMap.contains_empty
  cases hrun.symm.trans hrun'
  cases hplain
  refine ⟨_, t, _, ht, hrun, rfl, ?_, ?_, hnodup⟩
  · rw [Event.executed_withBuilding]
    rfl
  · rw [hnew]
    rfl

end Triparse
