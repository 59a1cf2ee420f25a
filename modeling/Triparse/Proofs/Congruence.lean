import Mathlib.Data.List.Forall2
import Triparse.Proofs.Parts
import Triparse.Proofs.RunRules

/-!
# Congruences

A relation between parsers, with one between rules, is *compositional* on a fragment if it holds between
the primitives of the fragment and every combinator passes it on (`Compositional`). The parsers on the two
sides may have runs with different effects, and the bounds need not be the same. Two ways to deal with names
go along with such a relation if definitions and references are related wherever they may stand on the two
sides (`Along`); then what grammars are is related, too (`Compositional.interpret`), and this is the only
induction over grammars there is to it.

A *congruence* passes from definitions to their unfoldings besides (`Congruent`). Then it holds between what
a grammar of the fragment is in two scopes, if it holds between what the free names of the grammar stand
for there (`Congruent.parser`); the addresses need not be the same, and how far a recursive definition is
unfolded on either side is left to the relation (`Congruent.unfold`).

A combinator that a fragment may lack is asked for only where the fragment has it.
-/

set_option autoImplicit false

namespace Triparse

namespace Fragment

/-- The fragment has pairs, or one of their halves. -/
def Paired (F : Fragment) : Prop :=
  ∃ g h, F.node (.seq g h) = true ∨ F.node (.skip g h) = true ∨ F.node (.skipLeft g h) = true

theorem Paired.mono {F G : Fragment} (h : F.Paired)
    (hn : ∀ g, F.node g = true → G.node g = true) : G.Paired := by
  obtain ⟨g, g', h | h | h⟩ := h
  · exact ⟨g, g', .inl (hn _ h)⟩
  · exact ⟨g, g', .inr (.inl (hn _ h))⟩
  · exact ⟨g, g', .inr (.inr (hn _ h))⟩

/-- The fragment has rules that may be abandoned with the message. -/
def Rejects (F : Fragment) (message : String) : Prop :=
  F.step (.reject message) = true ∨ ∃ g limit, F.step (.limited g limit message) = true

theorem Rejects.mono {F G : Fragment} {message : String} (h : F.Rejects message)
    (hs : ∀ s, F.step s = true → G.step s = true) : G.Rejects message := by
  obtain h | ⟨g, limit, h⟩ := h
  · exact .inl (hs _ h)
  · exact .inr ⟨g, limit, hs _ h⟩

end Fragment

section

variable {m m' : Type → Type} [Monad m] [Monad m'] [MonadLiftT Run m] [MonadLiftT Run m']

/-- A relation `R` between parsers, and one `Q` between rules, that the combinators of a fragment pass on. -/
structure Compositional (bound bound' : Nat) (F : Fragment)
    (R : {α : Type} → Parser α m → Parser α m' → Prop)
    (Q : {α : Type} → RuleT m α → RuleT m' α → Prop) : Prop where
  primitive {p : Primitive} : F.node (.primitive p) = true →
    R (p.parser bound).lift (p.parser bound').lift
  choice {ps : List (Parser Value m)} {qs : List (Parser Value m')} :
    List.Forall₂ R ps qs → R (.choice ps) (.choice qs)
  sequence {gs : List Grammar} {ps : List (Parser Value m)} {qs : List (Parser Value m')} :
    F.node (.sequence gs) = true → List.Forall₂ R ps qs → R (.sequence ps) (.sequence qs)
  many {p : Parser Value m} {q : Parser Value m'} (range : Repetition) :
    R p q → R (.many bound range p) (.many bound' range q)
  separatedBy {p p' : Parser Value m} {q q' : Parser Value m'} (range : Repetition) :
    R p q → R p' q' → R (.separatedBy bound range p p') (.separatedBy bound' range q q')
  times {p : Parser Value m} {q : Parser Value m'} (count : Nat) :
    R p q → R (.times p count) (.times q count)
  maybe {p : Parser Value m} {q : Parser Value m'} : R p q → R (.maybe p) (.maybe q)
  lookAhead {g : Grammar} {p : Parser Value m} {q : Parser Value m'} :
    F.node (.lookAhead g) = true → R p q → R (.lookAhead p) (.lookAhead q)
  exceptChar {p : Parser Value m} {q : Parser Value m'} :
    R p q → R (.anythingExcept Char p) (.anythingExcept Char q)
  exceptByte {p : Parser Value m} {q : Parser Value m'} :
    R p q → R (.anythingExcept UInt8 p) (.anythingExcept UInt8 q)
  exceptToken {p : Parser Value m} {q : Parser Value m'} :
    R p q → R (.anythingExcept Token p) (.anythingExcept Token q)
  untilChar {p : Parser Value m} {q : Parser Value m'} :
    R p q → R (.everythingUntil Char p) (.everythingUntil Char q)
  untilByte {p : Parser Value m} {q : Parser Value m'} :
    R p q → R (.everythingUntil UInt8 p) (.everythingUntil UInt8 q)
  untilToken {p : Parser Value m} {q : Parser Value m'} :
    R p q → R (.everythingUntil Token p) (.everythingUntil Token q)
  map {α β : Type} {p : Parser α m} {q : Parser α m'} (f : α → β) : R p q → R (p.map f) (q.map f)
  mapReply {g : Grammar} {p : Parser Value m} {q : Parser Value m'} {f : ReplyMapper} :
    F.node (.mapReply g f) = true → R p q → R (p.mapReply f.apply) (q.mapReply f.apply)
  ignore {p : Parser Value m} {q : Parser Value m'} : R p q → R p.ignore q.ignore
  ignoreIfAbsent {p : Parser (Option Value) m} {q : Parser (Option Value) m'} :
    R p q → R p.ignoreIfAbsent q.ignoreIfAbsent
  named {α : Type} {p : Parser α m} {q : Parser α m'} (name : String) :
    R p q → R (p.named name) (q.named name)
  label {p : Parser Value m} {q : Parser Value m'} (text : String) : R p q → R (p.label text) (q.label text)
  pick {p : Parser (List Value) m} {q : Parser (List Value) m'} (name expected : String)
    (select : List Value → Option Value) :
    R p q → R (p.pick name expected select) (q.pick name expected select)
  seq {p p' : Parser Value m} {q q' : Parser Value m'} :
    F.Paired → R p q → R p' q' → R (p.seq p') (q.seq q')
  tap {g : Grammar} {p : Parser Value m} {q : Parser Value m'} {label : String} :
    F.node (.tap label g) = true → R p q →
    R (.ofFunction fun input cursor => do
        Run.emit (.tapped label cursor)
        p.execute input cursor)
      (.ofFunction fun input cursor => do
        Run.emit (.tapped label cursor)
        q.execute input cursor)
  defined {p : Parser Value m} {q : Parser Value m'} : F.Recursive → R p q → R (.defined p) (.defined q)
  orphan : F.node .orphan = true → R (Parser.orphan (α := Value)) Parser.orphan
  rule {body : List Stmt} {x : RuleT m (List Value)} {y : RuleT m' (List Value)} :
    F.node (.rule body) = true → Q x y → R (.ofRule x) (.ofRule y)
  pure {α : Type} (a : α) : Q (pure a) (pure a)
  bind {α β : Type} {x : RuleT m α} {y : RuleT m' α} {f : α → RuleT m β} {g : α → RuleT m' β} :
    Q x y → (∀ a, Q (f a) (g a)) → Q (x >>= f) (y >>= g)
  step {p : Parser Value m} {q : Parser Value m'} : R p q → Q (Rule.step p) (Rule.step q)
  attempt {p : Parser Value m} {q : Parser Value m'} : R p q → Q (Rule.attempt p) (Rule.attempt q)
  reject {message : String} : F.Rejects message →
    Q (Rule.reject (α := Rule.Progress) message) (Rule.reject message)
  loop {p : Parser Value m} {q : Parser Value m'} {x : RuleT m Rule.Progress}
    {y : RuleT m' Rule.Progress} : R p q → Q x y → Q (Rule.loop p x bound) (Rule.loop q y bound')
  recover {g : Grammar} {p : Parser Value m} {q : Parser Value m'} : F.step (.recover g) = true → R p q →
    Q (do
        match ← Rule.trial p with
        | .ok v => Rule.collect v
        | .error e => Rule.collectFailure e)
      (do
        match ← Rule.trial q with
        | .ok v => Rule.collect v
        | .error e => Rule.collectFailure e)
  position : F.step .position = true → Q Rule.position Rule.position
  atEnd : F.step .atEnd = true → Q (Rule.inspect Input.isEnd) (Rule.inspect Input.isEnd)
  remaining : F.step .remaining = true → Q (Rule.inspect Input.remaining) (Rule.inspect Input.remaining)
  snippet : F.step .snippet = true → Q (Rule.inspect Input.snippet) (Rule.inspect Input.snippet)
  raise {e : Failure} : F.step (.raise e) = true →
    Q (Rule.abort (α := Rule.Progress) e) (Rule.abort e)

/-- Two ways to deal with names that go along with a relation `R` between parsers. `K` says which parts of
grammars may stand where on the two sides; there definitions are related if their bodies are, and references
are related. -/
structure Along {σ σ' : Type} (bound bound' : Nat) (F : Fragment)
    (R : {α : Type} → Parser α m → Parser α m' → Prop) (names : Naming m σ) (names' : Naming m' σ')
    (K : Part → σ → Address → σ' → Address → Prop) : Prop where
  node {g : Grammar} {env : σ} {env' : σ'} {a a' : Address} :
    K (.grammar g) env a env' a' → F.node g = true
  step {s : Stmt} {env : σ} {env' : σ'} {a a' : Address} :
    K (.step s) env a env' a' → F.step s = true
  child {p q : Part} {i : Nat} {env : σ} {env' : σ'} {a a' : Address} :
    p.children[i]? = some q → K p env a env' a' → K q env (i :: a) env' (i :: a')
  fix {name : String} {g : Grammar} {env : σ} {env' : σ'} {a a' : Address} :
    K (.grammar (.fix name g)) env a env' a' →
    (∀ {env env' a a'}, K (.grammar g) env a env' a' →
      R (g.interpret names bound env a) (g.interpret names' bound' env' a')) →
    R ((Grammar.fix name g).interpret names bound env a)
      ((Grammar.fix name g).interpret names' bound' env' a')
  recursive {name : String} {traced : Bool} {g : Grammar} {env : σ} {env' : σ'} {a a' : Address} :
    K (.grammar (.recursive name traced g)) env a env' a' →
    (∀ {env env' a a'}, K (.grammar g) env a env' a' →
      R (g.interpret names bound env a) (g.interpret names' bound' env' a')) →
    R ((Grammar.recursive name traced g).interpret names bound env a)
      ((Grammar.recursive name traced g).interpret names' bound' env' a')
  ref {name : String} {env : σ} {env' : σ'} {a a' : Address} :
    K (.grammar (.ref name)) env a env' a' → R (names.ref name env a) (names'.ref name env' a')

/-- The parts of a whole that are listed in it stand where it does, one step on. -/
theorem Along.listed {σ σ' : Type} {bound bound' : Nat} {F : Fragment}
    {R : {α : Type} → Parser α m → Parser α m' → Prop}
    {names : Naming m σ} {names' : Naming m' σ'} {K : Part → σ → Address → σ' → Address → Prop}
    (W : Along bound bound' F R names names' K) {p : Part} {env : σ} {env' : σ'} {a a' : Address}
    (hp : K p env a env' a') {ι : Type} {part : ι → Part} {xs : List ι}
    (hx : p.children = xs.map part) (i : Nat) (x : ι) (hi : xs[i]? = some x) :
    K (part x) env (i :: a) env' (i :: a') :=
  W.child (by rw [hx, List.getElem?_map, hi, Option.map_some]) hp

end

/-- Parts that are related by what is known of the left ones. -/
theorem forall_mem_of_forall₂ {α : Type} {T : α → Prop} {xs ys : List α}
    (h : List.Forall₂ (fun x _ => T x) xs ys) : ∀ x ∈ xs, T x :=
  ((List.forall₂_and_left xs ys).1 (h.imp fun _ _ hx => ⟨hx, True.intro⟩)).1

/-! ## Grammars -/

namespace Compositional

variable {m m' : Type → Type} [Monad m] [Monad m'] [MonadLiftT Run m] [MonadLiftT Run m'] {σ σ' : Type}
  {bound bound' : Nat} {F : Fragment} {R : {α : Type} → Parser α m → Parser α m' → Prop}
  {Q : {α : Type} → RuleT m α → RuleT m' α → Prop} {names : Naming m σ} {names' : Naming m' σ'}
  {K : Part → σ → Address → σ' → Address → Prop}

theorem andThen (H : Compositional bound bound' F R Q) {x y : RuleT m Rule.Progress}
    {x' y' : RuleT m' Rule.Progress} (hx : Q x x') (hy : Q y y') :
    Q (Rule.andThen x y) (Rule.andThen x' y') := by
  refine H.bind hx fun before => ?_
  split
  · exact H.pure before
  · exact H.bind hy fun _ => H.pure _

mutual

/-- **What a grammar of the fragment is on one side is related to what it is on the other.** -/
theorem interpret (H : Compositional bound bound' F R Q) (W : Along bound bound' F R names names' K) :
    ∀ (g : Grammar) {env : σ} {env' : σ'} {a a' : Address}, K (.grammar g) env a env' a' →
      R (g.interpret names bound env a) (g.interpret names' bound' env' a')
  | .primitive _, _, _, _, _, hk => H.primitive (W.node hk)
  | .choice gs, _, _, _, _, hk => H.choice (H.all W gs 0 (W.listed hk rfl))
  | .sequence gs, _, _, _, _, hk => H.map _ (H.sequence (W.node hk) (H.all W gs 0 (W.listed hk rfl)))
  | .many range g, _, _, _, _, hk => H.map _ (H.many range (H.interpret W g (W.child (i := 0) rfl hk)))
  | .separated range g h, _, _, _, _, hk =>
    H.map _ (H.separatedBy range (H.interpret W g (W.child (i := 0) rfl hk))
      (H.interpret W h (W.child (i := 1) rfl hk)))
  | .times g count, _, _, _, _, hk => H.map _ (H.times count (H.interpret W g (W.child (i := 0) rfl hk)))
  | .maybe g, _, _, _, _, hk => H.map _ (H.maybe (H.interpret W g (W.child (i := 0) rfl hk)))
  | .lookAhead g, _, _, _, _, hk => H.lookAhead (W.node hk) (H.interpret W g (W.child (i := 0) rfl hk))
  | .anythingExcept .characters g, _, _, _, _, hk =>
    H.map _ (H.exceptChar (H.interpret W g (W.child (i := 0) rfl hk)))
  | .anythingExcept .bytes g, _, _, _, _, hk =>
    H.map _ (H.exceptByte (H.interpret W g (W.child (i := 0) rfl hk)))
  | .anythingExcept .tokens g, _, _, _, _, hk =>
    H.map _ (H.exceptToken (H.interpret W g (W.child (i := 0) rfl hk)))
  | .everythingUntil .characters g, _, _, _, _, hk =>
    H.map _ (H.untilChar (H.interpret W g (W.child (i := 0) rfl hk)))
  | .everythingUntil .bytes g, _, _, _, _, hk =>
    H.map _ (H.untilByte (H.interpret W g (W.child (i := 0) rfl hk)))
  | .everythingUntil .tokens g, _, _, _, _, hk =>
    H.map _ (H.untilToken (H.interpret W g (W.child (i := 0) rfl hk)))
  | .stringUntil g, _, _, _, _, hk =>
    H.map _ (H.named _ (H.map _ (H.untilChar (H.interpret W g (W.child (i := 0) rfl hk)))))
  | .valueIfAbsent g _, _, _, _, _, hk =>
    H.map _ (H.map _ (H.interpret W g (W.child (i := 0) rfl hk)))
  | .ignoreIfAbsent g, _, _, _, _, hk =>
    H.map _ (H.ignoreIfAbsent (H.map _ (H.interpret W g (W.child (i := 0) rfl hk))))
  | .nth g _, _, _, _, _, hk => H.pick _ _ _ (H.map _ (H.interpret W g (W.child (i := 0) rfl hk)))
  | .last g, _, _, _, _, hk => H.pick _ _ _ (H.map _ (H.interpret W g (W.child (i := 0) rfl hk)))
  | .join g _, _, _, _, _, hk =>
    H.map _ (H.map _ (H.map _ (H.interpret W g (W.child (i := 0) rfl hk))))
  | .map g _, _, _, _, _, hk => H.map _ (H.interpret W g (W.child (i := 0) rfl hk))
  | .mapReply g _, _, _, _, _, hk => H.mapReply (W.node hk) (H.interpret W g (W.child (i := 0) rfl hk))
  | .ignore g, _, _, _, _, hk => H.ignore (H.interpret W g (W.child (i := 0) rfl hk))
  | .named g _, _, _, _, _, hk => H.named _ (H.interpret W g (W.child (i := 0) rfl hk))
  | .label g _, _, _, _, _, hk => H.label _ (H.interpret W g (W.child (i := 0) rfl hk))
  | .seq g h, _, _, _, _, hk =>
    H.map _ (H.seq ⟨g, h, .inl (W.node hk)⟩ (H.interpret W g (W.child (i := 0) rfl hk))
      (H.interpret W h (W.child (i := 1) rfl hk)))
  | .skip g h, _, _, _, _, hk =>
    H.map _ (H.seq ⟨g, h, .inr (.inl (W.node hk))⟩ (H.interpret W g (W.child (i := 0) rfl hk))
      (H.interpret W h (W.child (i := 1) rfl hk)))
  | .skipLeft g h, _, _, _, _, hk =>
    H.map _ (H.seq ⟨g, h, .inr (.inr (W.node hk))⟩ (H.interpret W g (W.child (i := 0) rfl hk))
      (H.interpret W h (W.child (i := 1) rfl hk)))
  | .fix _ g, _, _, _, _, hk => W.fix hk (H.interpret W g)
  | .recursive _ _ g, _, _, _, _, hk => W.recursive hk (H.interpret W g)
  | .ref _, _, _, _, _, hk => W.ref hk
  | .orphan, _, _, _, _, hk => H.orphan (W.node hk)
  | .tap _ g, _, _, _, _, hk => H.tap (W.node hk) (H.interpret W g (W.child (i := 0) rfl hk))
  | .rule body, _, _, _, _, hk =>
    H.map _ (H.rule (W.node hk) (H.bind (H.steps W body 0 (W.listed hk rfl)) fun _ => H.pure _))

theorem all (H : Compositional bound bound' F R Q) (W : Along bound bound' F R names names' K) :
    ∀ (gs : List Grammar) {env : σ} {env' : σ'} {a a' : Address} (index : Nat),
      (∀ (i : Nat) g, gs[i]? = some g → K (.grammar g) env ((i + index) :: a) env' ((i + index) :: a')) →
      List.Forall₂ R (Grammar.interpretAll names bound gs env a index)
        (Grammar.interpretAll names' bound' gs env' a' index)
  | [], _, _, _, _, _, _ => .nil
  | g :: gs, _, _, _, _, index, hk => by
    refine .cons (H.interpret W g ?_) (H.all W gs (index + 1) fun i h hi => ?_)
    · simpa using hk 0 g rfl
    · simpa [Nat.add_right_comm, Nat.add_assoc] using hk (i + 1) h hi

theorem stmt (H : Compositional bound bound' F R Q) (W : Along bound bound' F R names names' K) :
    ∀ (s : Stmt) {env : σ} {env' : σ'} {a a' : Address}, K (.step s) env a env' a' →
      Q (s.interpret names bound env a) (s.interpret names' bound' env' a')
  | .step g, _, _, _, _, hk =>
    H.bind (H.step (H.interpret W g (W.child (i := 0) rfl hk))) fun _ => H.pure _
  | .limited g limit message, _, _, _, _, hk => by
    refine H.bind (H.step (H.interpret W g (W.child (i := 0) rfl hk))) fun v => ?_
    split
    · exact H.reject (.inr ⟨g, limit, W.step hk⟩)
    · exact H.pure _
  | .attempt g, _, _, _, _, hk =>
    H.bind (H.attempt (H.interpret W g (W.child (i := 0) rfl hk))) fun _ => H.pure _
  | .recover g, _, _, _, _, hk => H.recover (W.step hk) (H.interpret W g (W.child (i := 0) rfl hk))
  | .position, _, _, _, _, hk => H.bind (H.position (W.step hk)) fun _ => H.pure _
  | .atEnd, _, _, _, _, hk => H.bind (H.atEnd (W.step hk)) fun _ => H.pure _
  | .remaining, _, _, _, _, hk => H.bind (H.remaining (W.step hk)) fun _ => H.pure _
  | .snippet, _, _, _, _, hk => H.bind (H.snippet (W.step hk)) fun _ => H.pure _
  | .reject _, _, _, _, _, hk => H.reject (.inl (W.step hk))
  | .raise _, _, _, _, _, hk => H.raise (W.step hk)
  | .finish, _, _, _, _, _ => H.pure _
  | .when g matched failed, _, _, _, _, hk => by
    refine H.bind (H.attempt (H.interpret W g (W.child (i := 0) rfl hk))) fun found => ?_
    cases found with
    | some v =>
      exact H.andThen (H.pure _) (H.steps W matched 0 (W.listed (W.child (i := 1) rfl hk) rfl))
    | none => exact H.steps W failed 0 (W.listed (W.child (i := 2) rfl hk) rfl)
  | .loop g body, _, _, _, _, hk =>
    H.loop (H.interpret W g (W.child (i := 0) rfl hk))
      (H.steps W body 0 (W.listed (W.child (i := 1) rfl hk) rfl))

theorem steps (H : Compositional bound bound' F R Q) (W : Along bound bound' F R names names' K) :
    ∀ (ss : List Stmt) {env : σ} {env' : σ'} {a a' : Address} (index : Nat),
      (∀ (i : Nat) s, ss[i]? = some s → K (.step s) env ((i + index) :: a) env' ((i + index) :: a')) →
      Q (Stmt.interpretAll names bound ss env a index) (Stmt.interpretAll names' bound' ss env' a' index)
  | [], _, _, _, _, _, _ => H.pure _
  | s :: ss, _, _, _, _, index, hk => by
    refine H.andThen (H.stmt W s ?_) (H.steps W ss (index + 1) fun i t hi => ?_)
    · simpa using hk 0 s rfl
    · simpa [Nat.add_right_comm, Nat.add_assoc] using hk (i + 1) t hi

end

end Compositional

/-! ## Scopes -/

/-- A relation between parsers of one kind of runs that also passes from definitions to unfoldings. -/
structure Congruent (bound bound' : Nat) (F : Fragment)
    (R : {α : Type} → Parser α → Parser α → Prop) (Q : {α : Type} → Rule α → Rule α → Prop) :
    Prop extends Compositional bound bound' F R Q where
  unfold {enter enter' : Address → Run Unit}
    {define define' : (Address → Parser Value) → Address → Parser Value} : F.Recursive →
    (∀ a a', Run.Agree (fun _ _ => True) (enter a) (enter' a')) →
    (∀ handles handles', (∀ a a', R (handles a) (handles' a')) →
      ∀ a a', R (define handles a) (define' handles' a')) →
    ∀ a a', R (Parser.unfold enter define bound a) (Parser.unfold enter' define' bound' a')

/-- The names stand for related parsers in the two scopes. -/
def Scope.Related (R : Parser Value → Parser Value → Prop) (names : List String)
    (scope scope' : Scope) : Prop :=
  ∀ name ∈ names, ∀ a a', R (scope.find name a) (scope'.find name a')

namespace Scope.Related

variable {R : Parser Value → Parser Value → Prop} {names names' : List String} {scope scope' : Scope}

/-- Outside of all definitions, references are related if references without a definition are. -/
theorem nil (h : R .orphan .orphan) (names : List String) : Related R names [] [] :=
  fun _ _ _ _ => h

theorem left (h : Related R (names ++ names') scope scope') : Related R names scope scope' :=
  fun name hn => h name (List.mem_append_left _ hn)

theorem right (h : Related R (names ++ names') scope scope') : Related R names' scope scope' :=
  fun name hn => h name (List.mem_append_right _ hn)

theorem mono (h : Related R names scope scope') (hn : ∀ name ∈ names', name ∈ names) :
    Related R names' scope scope' := fun name hm => h name (hn name hm)

/-- One more definition on both sides. -/
theorem under {name : String} (h : Related R (names.filter (· != name)) scope scope')
    {handles handles' : Address → Parser Value} (hh : ∀ a a', R (handles a) (handles' a')) :
    Related R names ((name, handles) :: scope) ((name, handles') :: scope') := by
  intro other ho
  by_cases hne : other = name
  · rw [hne, find_cons_self, find_cons_self]
    exact hh
  · rw [find_cons_of_ne _ _ _ hne, find_cons_of_ne _ _ _ hne]
    exact h other (List.mem_filter.2 ⟨ho, bne_iff_ne.2 hne⟩)

end Scope.Related

namespace Congruent

variable {bound bound' : Nat} {F : Fragment} {R : {α : Type} → Parser α → Parser α → Prop}
  {Q : {α : Type} → Rule α → Rule α → Prop}

/-- A congruence on a fragment is one on a smaller one. -/
theorem weaken {G : Fragment} (H : Congruent bound bound' G R Q)
    (hn : ∀ g, F.node g = true → G.node g = true) (hs : ∀ s, F.step s = true → G.step s = true) :
    Congruent bound bound' F R Q :=
  { H with
    primitive := fun h => H.primitive (hn _ h)
    sequence := fun h => H.sequence (hn _ h)
    lookAhead := fun h => H.lookAhead (hn _ h)
    mapReply := fun h => H.mapReply (hn _ h)
    seq := fun h => H.seq (h.mono hn)
    tap := fun h => H.tap (hn _ h)
    defined := fun h => H.defined (h.mono hn)
    unfold := fun h => H.unfold (h.mono hn)
    orphan := fun h => H.orphan (hn _ h)
    rule := fun h => H.rule (hn _ h)
    reject := fun h => H.reject (h.mono hs)
    recover := fun h => H.recover (hs _ h)
    position := fun h => H.position (hs _ h)
    atEnd := fun h => H.atEnd (hs _ h)
    remaining := fun h => H.remaining (hs _ h)
    snippet := fun h => H.snippet (hs _ h)
    raise := fun h => H.raise (hs _ h) }

/-- Scopes go along with a congruence where the free names stand for related parsers, whatever the
addresses. -/
theorem along (H : Congruent bound bound' F R Q) :
    Along bound bound' F R (Scope.naming bound) (Scope.naming bound') fun p scope _ scope' _ =>
      p.admitted F = true ∧ Scope.Related R p.free scope scope' where
  node h := Fragment.node_of_admits h.1
  step h := Fragment.step_of_admitsStep h.1
  child {p q i _ _ _ _} hc h :=
    have hq := List.mem_of_getElem? hc
    ⟨p.admitted_children h.1 q hq, h.2.mono (p.free_children q hq)⟩
  fix {name g scope scope' a a'} h hm := by
    obtain ⟨hg, hs⟩ := h
    simp only [Part.admitted, Fragment.admits, Bool.and_eq_true] at hg
    have hF : F.Recursive := ⟨name, g, .inl hg.1⟩
    -- References to the definition share the instance at its address, wherever they stand themselves.
    have hd (handles handles' : Address → Parser Value) (hh : ∀ b b', R (handles b) (handles' b'))
        (_ _ : Address) : R (g.parser bound ((name, handles) :: scope) (0 :: a))
          (g.parser bound' ((name, handles') :: scope') (0 :: a')) := hm ⟨hg.2, hs.under hh⟩
    exact H.defined hF (hd _ _ (H.unfold hF (fun _ _ => .pure True.intro) hd) a a')
  recursive {name traced g scope scope' a a'} h hm := by
    obtain ⟨hg, hs⟩ := h
    simp only [Part.admitted, Fragment.admits, Bool.and_eq_true] at hg
    have hd (handles handles' : Address → Parser Value) (hh : ∀ b b', R (handles b) (handles' b'))
        (b b' : Address) : R (g.parser bound ((name, handles) :: scope) (0 :: b))
          (g.parser bound' ((name, handles') :: scope') (0 :: b')) := hm ⟨hg.2, hs.under hh⟩
    exact H.unfold ⟨name, g, .inr ⟨traced, hg.1⟩⟩ (fun _ _ => .emit _ _) hd a a'
  ref {name _ _ a a'} h := h.2 name (List.mem_singleton_self name) a a'

/-- **What a grammar of the fragment is in one scope is related to what it is in the other**, if its free
names stand for related parsers. -/
theorem parser (H : Congruent bound bound' F R Q) (g : Grammar) (hg : F.admits g = true)
    {scope scope' : Scope} (hs : Scope.Related R g.free scope scope') (a a' : Address) :
    R (g.parser bound scope a) (g.parser bound' scope' a') :=
  H.toCompositional.interpret H.along g ⟨hg, hs⟩

end Congruent

end Triparse
