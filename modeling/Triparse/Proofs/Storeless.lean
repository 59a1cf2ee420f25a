import Triparse.Grammar.Building
import Triparse.Proofs.Approximation

/-!
# Grammars without a store

A grammar can be run without a store: then the producer of an instance is called at every execution, and
what it makes is run and forgotten (`Grammar.storeless`). This comes to the same states as unfolding
definitions in scopes does (`Grammar.exists_storeless_iff`). The two count the depth of recursion in different
ways, one for all definitions and one for each. So a bound that is enough with a scope is one here, too; but
how large a bound has to be here is not known before the run: it is enough that there is one for each run
(`Run.eventual`).
-/

set_option autoImplicit false

namespace Triparse

variable {m m' : Type → Type} [Monad m] [Monad m'] [MonadLiftT Run m] [MonadLiftT Run m']
  {α : Type}

/-- The parser of an instance that is executed, built anew. -/
def rebuild (a : Address) (traced : Option String) (product : Built) : Run Built := do
  Run.emit (.entered a traced)
  pure product

/-- A grammar as a parser that keeps nothing of what it builds; `bound` is for loops, and `depth` for nested
executions of instances. -/
def Grammar.storeless (bound depth : Nat) (g : Grammar) (around : Definitions) (a : Address) :
    Parser Value :=
  g.interpret (Definitions.naming rebuild (Built.parser rebuild bound depth)) bound around a

/-! ## Definitions on both sides -/

namespace Definitions

variable {obtain : Address → Option String → Built → m Built} {run : Built → Parser Value m}

omit [MonadLiftT Run m] in
theorem ref_naming (name : String) (around : Definitions) (a : Address) :
    (naming obtain run).ref name around a =
      match around.find? name with
      | some (d, outer) => d.instance obtain run outer a
      | none => Parser.orphan := rfl

omit [MonadLiftT Run m] in
theorem ref_naming_cons_self (d : Definition) (around : Definitions) (a : Address) :
    (naming obtain run).ref d.name (d :: around) a = d.instance obtain run around a := by
  rw [ref_naming, find?, if_pos rfl]

omit [MonadLiftT Run m] in
theorem ref_naming_cons_of_ne {d : Definition} {name : String} (h : d.name ≠ name) (around : Definitions)
    (a : Address) : (naming obtain run).ref name (d :: around) a = (naming obtain run).ref name around a := by
  rw [ref_naming, find?, if_neg h, ref_naming]

end Definitions

/-- Grammars among the same definitions are related if the instances of these are, wherever parts with a
property may stand that is passed on to parts. -/
theorem Definitions.along {S : Simulation m m'} {bound bound' : Nat}
    {obtain : Address → Option String → Built → m Built} {run : Built → Parser Value m}
    {obtain' : Address → Option String → Built → m' Built} {run' : Built → Parser Value m'}
    {P : Part → Definitions → Address → Prop}
    (hchild : ∀ {p q i around a}, p.children[i]? = some q → P p around a → P q around (i :: a))
    (hfix : ∀ {name g around a}, P (.grammar (.fix name g)) around a →
      P (.grammar g) (⟨name, g, .shared a⟩ :: around) (0 :: a))
    (hrecursive : ∀ {name traced g around a}, P (.grammar (.recursive name traced g)) around a →
      Parser.Related S (Definition.instance obtain run ⟨name, g, .fresh traced⟩ around a)
        (Definition.instance obtain' run' ⟨name, g, .fresh traced⟩ around a))
    (href : ∀ {name d outer around a}, P (.grammar (.ref name)) around a →
      around.find? name = some (d, outer) →
      Parser.Related S (d.instance obtain run outer a) (d.instance obtain' run' outer a)) :
    Along bound bound' .all (Parser.Related S) (Definitions.naming obtain run)
      (Definitions.naming obtain' run') fun p around a around' a' =>
        around = around' ∧ a = a' ∧ P p around a where
  node _ := rfl
  step _ := rfl
  child := by
    rintro p q i around _ a _ hc ⟨rfl, rfl, hp⟩
    exact ⟨rfl, rfl, hchild hc hp⟩
  fix := by
    rintro name g around _ a _ ⟨rfl, rfl, hp⟩ hm
    exact (hm ⟨rfl, rfl, hfix hp⟩).defined
  recursive := by
    rintro name traced g around _ a _ ⟨rfl, rfl, hp⟩ -
    exact hrecursive hp
  ref := by
    rintro name around _ a _ ⟨rfl, rfl, hp⟩
    rw [ref_naming, ref_naming]
    cases h : around.find? name with
    | none => exact .orphan
    | some found => exact href hp h

section
variable {S : Simulation m m'} {obtain : Address → Option String → Built → m Built}
  {run : Built → Parser Value m} {obtain' : Address → Option String → Built → m' Built}
  {run' : Built → Parser Value m'} (ho : ∀ a traced b, S.rel (obtain a traced b) (obtain' a traced b))
  (hr : ∀ b input n, S.rel ((run b).execute input n) ((run' b).execute input n))
include ho hr

/-- Instances are related if all that is built is related. -/
theorem Definition.related_instance (d : Definition) (around : Definitions) (a : Address) :
    Parser.Related S (d.instance obtain run around a) (d.instance obtain' run' around a) := by
  obtain ⟨name, body, b | traced⟩ := d
  · exact .handle fun input n => hr _ input n
  · exact .handle fun input n => S.bind (ho _ _ _) fun b => hr b input n

/-- Grammars among the same definitions are related if all that is built is related. -/
theorem Definitions.related_interpret {bound bound' : Nat} (hb : S.Bounds bound bound') (g : Grammar)
    (around : Definitions) (a : Address) :
    Parser.Related S (g.interpret (naming obtain run) bound around a)
      (g.interpret (naming obtain' run') bound' around a) :=
  (S.compositional hb .all).interpret
    (along (P := fun _ _ _ => True) (fun _ _ => trivial) (fun _ => trivial)
      (fun _ => Definition.related_instance ho hr _ _ _)
      fun _ _ => Definition.related_instance ho hr _ _ _) g ⟨rfl, rfl, trivial⟩

end

/-! ## From definitions to scopes -/

/-- The references to a definition in a scope, unfolded to a depth: `enter` is what happens at an execution,
and `place` says where the body stands for a reference. -/
def Definition.unfolding (d : Definition) (bound : Nat) (scope : Scope) (enter : Address → Run Unit)
    (place : Address → Address) : Nat → Address → Parser Value :=
  Parser.unfold enter fun handles a => d.body.parser bound ((d.name, handles) :: scope) (place a)

/-- In the scope each definition is unfolded, to the depth at least. -/
inductive Definitions.UnfoldedIn (bound depth : Nat) : Definitions → Scope → Prop where
  | nil : UnfoldedIn bound depth [] []
  | cons {d : Definition} {around : Definitions} {scope : Scope} {enter : Address → Run Unit}
    {place : Address → Address} {unfoldings : Nat} (he : ∀ a, (enter a).answer? = some ())
    (hd : depth ≤ unfoldings) (h : UnfoldedIn bound depth around scope) :
    UnfoldedIn bound depth (d :: around) ((d.name, d.unfolding bound scope enter place unfoldings) :: scope)

/-- Without a store, instances do what the unfoldings of their definitions do that are as deep at least. -/
def Definitions.Approx (bound bound' depth : Nat) : Prop :=
  ∀ (d : Definition) (around : Definitions) (scope : Scope) (enter : Address → Run Unit)
    (place : Address → Address) (unfoldings : Nat), (∀ a, (enter a).answer? = some ()) →
    depth ≤ unfoldings → around.UnfoldedIn bound' depth scope → ∀ a a',
      Parser.Approx (d.instance rebuild (Built.parser rebuild bound depth) around a)
        (d.unfolding bound' scope enter place unfoldings a')

namespace Definitions.UnfoldedIn

variable {bound bound' depth depth' : Nat} {around : Definitions} {scope : Scope}

theorem mono (h : UnfoldedIn bound depth around scope) (hd : depth' ≤ depth) :
    UnfoldedIn bound depth' around scope := by
  induction h with
  | nil => exact .nil
  | cons he hk _ ih => exact .cons he (Nat.le_trans hd hk) ih

/-- What a reference is among the definitions, and in the scope. -/
theorem reference (h : UnfoldedIn bound' depth around scope) (hi : Definitions.Approx bound bound' depth)
    (name : String) (a a' : Address) :
    Parser.Approx ((naming rebuild (Built.parser rebuild bound depth)).ref name around a)
      (scope.find name a') := by
  induction h with
  | nil => exact .orphan
  | @cons d outer scope enter place unfoldings he hd h ih =>
    by_cases hn : d.name = name
    · subst hn
      rw [Scope.find_cons_self, ref_naming_cons_self]
      exact hi _ _ _ _ _ _ he hd h a a'
    · rw [Scope.find_cons_of_ne _ _ _ (Ne.symm hn), ref_naming_cons_of_ne hn]
      exact ih

/-- Definitions go along with scopes in which they are unfolded as deep at least. -/
theorem along (hd : depth ≤ bound') (hi : Definitions.Approx bound bound' depth) :
    Along bound bound' .all Parser.Approx (naming rebuild (Built.parser rebuild bound depth))
      (Scope.naming bound') fun _ around _ scope _ => UnfoldedIn bound' depth around scope where
  node _ := rfl
  step _ := rfl
  child _ h := h
  fix {name g _ _ a _} h hm :=
    (hm (.cons (d := ⟨name, g, .shared a⟩) (fun _ => rfl) hd h)).defined
  recursive {name traced g around scope a a'} h _ :=
    hi ⟨name, g, .fresh traced⟩ around scope _ (0 :: ·) bound' (fun _ => rfl) hd h a a'
  ref h := h.reference hi _ _ _

end Definitions.UnfoldedIn

section
variable {bound bound' : Nat}

/-- An instance does what its parser does once it has been built. -/
theorem Definition.instance_approx {d : Definition} {around : Definitions} {depth : Nat}
    {p : Input → Nat → Run (Reply Value)}
    (h : ∀ b input n, Run.Approx (((d.build around b).parser rebuild bound depth).execute input n)
      (p input n)) (a : Address) :
    Parser.Approx (d.instance rebuild (Built.parser rebuild bound depth) around a) (.handle p) := by
  obtain ⟨name, body, b | traced⟩ := d
  · exact .handle fun input n => h b input n
  · exact .handle fun input n => (h a input n).before _

theorem Definitions.approx (hb : bound ≤ bound') :
    ∀ {depth : Nat}, depth ≤ bound' → Definitions.Approx bound bound' depth
  | 0, _, d, around, scope, enter, place, unfoldings, _, _, _, a, a' => by
    have hu (p : Input → Nat → Run (Reply Value)) :
        Parser.Approx (d.instance rebuild (Built.parser rebuild bound 0) around a) (.handle p) := by
      refine d.instance_approx (fun b input n => ?_) a
      rw [Built.parser, Parser.execute_handle]
      exact .unfinished _
    cases unfoldings <;> exact hu _
  | depth + 1, hdepth, d, around, scope, enter, place, unfoldings + 1, he, hd, h, a, a' => by
    have hle := Nat.le_of_succ_le hdepth
    -- One unfolding is spent on the instance; around its body there are as many as the depth that is left.
    have hbody (b : Address) : Parser.Approx
        (d.body.interpret (Definitions.naming rebuild (Built.parser rebuild bound depth)) bound
          (d :: around) (0 :: b))
        (d.body.parser bound' ((d.name, d.unfolding bound' scope enter place unfoldings) :: scope)
          (place a')) :=
      (approx_compositional hb .all).interpret (UnfoldedIn.along hle (Definitions.approx hb hle)) d.body
        (.cons he (Nat.le_of_succ_le_succ hd) (h.mono (Nat.le_succ depth)))
    refine d.instance_approx (fun b input n => ?_) a
    obtain ⟨events, hx⟩ := Run.answer?_eq_some.1 (he a')
    rw [hx]
    exact ((hbody b).execute input n).after events

/-- Without a store a grammar comes to what it comes to in scopes. -/
theorem Grammar.storeless_approx (g : Grammar) (hb : bound ≤ bound') {depth : Nat} (hd : depth ≤ bound')
    (a a' : Address) : Parser.Approx (g.storeless bound depth [] a) (g.parser bound' [] a') :=
  (approx_compositional hb .all).interpret (Definitions.UnfoldedIn.along hd (Definitions.approx hb hd)) g .nil

/-! ## From scopes to definitions -/

/-- What the run answers, if it answers, is what the runs answer from some depth on. -/
def Run.eventual : Simulation Run (ReaderT Nat Run) where
  rel x y := ∀ a, x.answer? = some a → ∃ enough, ∀ depth, enough ≤ depth → (y.run depth).answer? = some a
  pure a b h := ⟨0, fun _ _ => h⟩
  lift _ a h := ⟨0, fun _ _ => h⟩
  bind {_ _ x y f g} hxy hfg b h := by
    rw [answer?_bind, Option.bind_eq_some_iff] at h
    obtain ⟨a, ha, hb⟩ := h
    obtain ⟨enough, hy⟩ := hxy a ha
    obtain ⟨enough', hg⟩ := hfg a b hb
    refine ⟨max enough enough', fun depth hd => ?_⟩
    rw [ReaderT.run_bind, answer?_bind, hy depth (by omega), Option.bind_some]
    exact hg depth (by omega)

/-- The run at one depth. -/
def Run.atDepth (depth : Nat) : Simulation (ReaderT Nat Run) Run where
  rel y x := y.run depth = x
  pure _ := rfl
  lift _ := rfl
  bind {_ _ y x f g} hxy hfg := by
    rw [ReaderT.run_bind, hxy]
    exact bind_congr hfg

/-- What a parser does that has been built, at every depth. -/
def Built.deep (bound : Nat) (b : Built) : Parser Value (ReaderT Nat Run) :=
  .handle fun input cursor depth => (b.parser rebuild bound depth).execute input cursor

/-- Among definitions a reference is an instance at every depth. -/
def Definitions.deep (bound : Nat) : Naming (ReaderT Nat Run) Definitions :=
  naming (fun a traced product => liftM (rebuild a traced product)) (Built.deep bound)

/-- A grammar among definitions, at every depth. -/
def Grammar.deep (bound : Nat) (g : Grammar) (around : Definitions) (a : Address) :
    Parser Value (ReaderT Nat Run) := g.interpret (Definitions.deep bound) bound around a

/-- At one depth a grammar is the parser that it is under this depth. -/
theorem Grammar.deep_atDepth (g : Grammar) (bound depth : Nat) (around : Definitions) (a : Address) :
    Parser.Related (Run.atDepth depth) (g.deep bound around a) (g.storeless bound depth around a) := by
  refine Definitions.related_interpret (fun _ _ _ => rfl) (fun b input n => ?_) (.same bound) g around a
  show ((b.deep bound).execute input n).run depth = (b.parser rebuild bound depth).execute input n
  rw [Built.deep, Parser.execute_handle]
  rfl

/-- What has been built comes to the same under a greater bound for loops. -/
theorem Built.parser_approx (hb : bound ≤ bound') :
    ∀ (depth : Nat) (b : Built), Parser.Approx (b.parser rebuild bound depth) (b.parser rebuild bound' depth)
  | 0, _ => .refl _
  | depth + 1, b =>
    Definitions.related_interpret (fun _ _ _ => Run.Approx.refl _)
      (fun b => (b.parser_approx hb depth).execute) (.less hb fun _ => .unfinished _) b.body b.around
      b.address

/-- A grammar comes to the same under a greater bound for loops. -/
theorem Grammar.storeless_mono (g : Grammar) (hb : bound ≤ bound') (depth : Nat) (around : Definitions)
    (a : Address) : Parser.Approx (g.storeless bound depth around a) (g.storeless bound' depth around a) :=
  Definitions.related_interpret (fun _ _ _ => Run.Approx.refl _)
    (fun b => (b.parser_approx hb depth).execute) (.less hb fun _ => .unfinished _) g around a

/-- What the body of a parser comes to that has been built, the parser comes to one level deeper. -/
theorem Built.deep_eventual {b : Built} {p : Parser Value}
    (h : Parser.Related Run.eventual p (b.body.deep bound b.around b.address)) (input : Input) (n : Nat) :
    Run.eventual.rel (p.execute input n) ((b.deep bound).execute input n) := by
  intro r hr
  obtain ⟨enough, hdeep⟩ := h.execute input n r hr
  refine ⟨enough + 1, fun depth hd => ?_⟩
  obtain ⟨depth, rfl⟩ : ∃ rest, depth = rest + 1 := ⟨depth - 1, by omega⟩
  have hat : ((b.body.deep bound b.around b.address).execute input n).run depth =
      (b.parser rebuild bound (depth + 1)).execute input n :=
    (b.body.deep_atDepth bound depth b.around b.address).execute input n
  rw [Built.deep, Parser.execute_handle]
  show ((b.parser rebuild bound (depth + 1)).execute input n).answer? = some r
  rw [← hat]
  exact hdeep depth (by omega)

/-- The instance of a definition among definitions, at every depth. -/
def Definition.deep (bound : Nat) (d : Definition) (around : Definitions) (a : Address) :
    Parser Value (ReaderT Nat Run) :=
  d.instance (fun a traced product => liftM (rebuild a traced product)) (Built.deep bound) around a

/-- What references to a definition in a scope come to, an instance comes to. -/
theorem Definition.unfolding_eventual {d : Definition} {around : Definitions} {scope : Scope}
    {enter : Address → Run Unit} {place : Address → Address}
    (hd : ∀ handles : Address → Parser Value,
      (∀ a a', Parser.Related Run.eventual (handles a) (d.deep bound around a')) → ∀ a a',
        Parser.Related Run.eventual (d.body.parser bound ((d.name, handles) :: scope) a)
          (d.body.deep bound (d :: around) a')) :
    ∀ unfoldings a a', Parser.Related Run.eventual (d.unfolding bound scope enter place unfoldings a)
      (d.deep bound around a')
  | 0, a, a' => by
    unfold Definition.deep Definition.instance
    split <;> exact .handle fun _ _ _ h => nomatch h
  | unfoldings + 1, a, a' => by
    have hbody (b : Address) := hd (d.unfolding bound scope enter place unfoldings)
      (unfolding_eventual hd unfoldings) (place a) (0 :: b)
    have hrun (b : Address) (input : Input) (n : Nat) : Run.eventual.rel
        (enter a >>= fun _ => (d.body.parser bound
          ((d.name, d.unfolding bound scope enter place unfoldings) :: scope) (place a)).execute input n)
        (((d.build around b).deep bound).execute input n) := by
      intro r hr
      rw [Run.answer?_bind, Option.bind_eq_some_iff] at hr
      obtain ⟨_, _, hr⟩ := hr
      exact Built.deep_eventual (b := d.build around b) (hbody b) input n r hr
    obtain ⟨name, body, b | traced⟩ := d
    · exact .handle fun input n => hrun b input n
    · refine .handle fun input n r hr => ?_
      obtain ⟨enough, h⟩ := hrun a' input n r hr
      refine ⟨enough, fun depth hdepth => ?_⟩
      rw [ReaderT.run_bind, Run.answer?_bind]
      exact h depth hdepth

/-- The names stand in the scope for nothing but what their definitions come to. -/
def Scope.EventuallyIn (bound : Nat) (names : List String) (scope : Scope) (around : Definitions) : Prop :=
  ∀ name ∈ names, ∀ a a',
    Parser.Related Run.eventual (scope.find name a) ((Definitions.deep bound).ref name around a')

/-- One more definition on both sides. -/
theorem Scope.EventuallyIn.under {d : Definition} {names : List String} {scope : Scope}
    {around : Definitions} (h : scope.EventuallyIn bound (names.filter (· != d.name)) around)
    {handles : Address → Parser Value}
    (hh : ∀ a a', Parser.Related Run.eventual (handles a) (d.deep bound around a')) :
    Scope.EventuallyIn bound names ((d.name, handles) :: scope) (d :: around) := by
  intro other ho a a'
  by_cases hne : other = d.name
  · rw [hne, find_cons_self, Definitions.deep, Definitions.ref_naming_cons_self]
    exact hh a a'
  · rw [find_cons_of_ne _ _ _ hne, Definitions.deep, Definitions.ref_naming_cons_of_ne (Ne.symm hne)]
    exact h other (List.mem_filter.2 ⟨ho, bne_iff_ne.2 hne⟩) a a'

/-- Scopes go along with definitions that are run as deep as they need. -/
theorem Scope.EventuallyIn.along :
    Along bound bound .all (Parser.Related Run.eventual) (Scope.naming bound) (Definitions.deep bound)
      fun p scope _ around _ => scope.EventuallyIn bound p.free around where
  node _ := rfl
  step _ := rfl
  child {p q i _ _ _ _} hc h := fun name hn => h name (p.free_children q (List.mem_of_getElem? hc) name hn)
  fix {name g scope around a a'} h hm := by
    have hd (handles : Address → Parser Value) (hh : ∀ b b', Parser.Related Run.eventual (handles b)
        (Definition.deep bound ⟨name, g, .shared a'⟩ around b')) (b b' : Address) :
        Parser.Related Run.eventual (g.parser bound ((name, handles) :: scope) b)
          (g.deep bound (⟨name, g, .shared a'⟩ :: around) b') :=
      hm (under (d := ⟨name, g, .shared a'⟩) h hh)
    exact (hd _ (Definition.unfolding_eventual hd bound) _ _).defined
  recursive {name traced g scope around a a'} h hm := by
    have hd (handles : Address → Parser Value) (hh : ∀ b b', Parser.Related Run.eventual (handles b)
        (Definition.deep bound ⟨name, g, .fresh traced⟩ around b')) (b b' : Address) :
        Parser.Related Run.eventual (g.parser bound ((name, handles) :: scope) b)
          (g.deep bound (⟨name, g, .fresh traced⟩ :: around) b') :=
      hm (under (d := ⟨name, g, .fresh traced⟩) h hh)
    exact Definition.unfolding_eventual hd bound a a'
  ref {name _ _ a a'} h := h name (List.mem_singleton_self name) a a'

/-- What a grammar comes to in scopes it comes to without a store, if executions of instances may be nested
deep enough. -/
theorem Grammar.parser_eventual (g : Grammar) (a a' : Address) :
    Parser.Related Run.eventual (g.parser bound [] a) (g.deep bound [] a') := by
  refine (Run.eventual.compositional (.same bound) .all).interpret Scope.EventuallyIn.along g ?_
  exact fun _ _ _ _ => .orphan

end

/-! ## What a grammar comes to -/

/-- **A grammar comes to the same states without a store**, on one state after the other. -/
theorem Grammar.exists_storeless_iff {g : Grammar} {ss : List (State α)} {ts : List (State Value)} :
    (∃ bound, ((g.storeless bound bound [] []).applyAll ss).answer? = some ts) ↔
      List.Forall₂ g.Returns ss ts := by
  rw [Returns.forall₂_iff]
  simp only [← Parser.answer?_applyAll]
  constructor
  · rintro ⟨bound, h⟩
    exact ⟨bound, (g.storeless_approx (Nat.le_refl bound) (Nat.le_refl bound) [] []).applyAll ss ts h⟩
  · rintro ⟨bound, h⟩
    obtain ⟨enough, hdeep⟩ := (g.parser_eventual [] []).applyAll ss ts h
    -- The one bound that is left has to be enough for the loops and for the depth.
    have hle := Nat.le_max_left bound enough
    have hat : ((g.deep bound [] []).applyAll ss).run (max bound enough) =
        (g.storeless bound (max bound enough) [] []).applyAll ss := (g.deep_atDepth _ _ [] []).applyAll ss
    refine ⟨max bound enough, (g.storeless_mono hle _ [] []).applyAll ss ts ?_⟩
    rw [← hat]
    exact hdeep _ (Nat.le_max_right bound enough)

end Triparse
