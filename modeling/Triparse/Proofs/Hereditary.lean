import Triparse.Proofs.Congruence

/-!
# Hereditary properties

A property of parsers is *hereditary* on a fragment if the primitives of the fragment have it and every
combinator passes it on from the parts to the whole (`Hereditary`); it is a congruence that looks at one
side only. So a grammar of the fragment has the property in every scope whose parsers have it
(`Hereditary.parser`). Loops and recursion need no argument of their own there: a loop is one
combinator, and recursion is unfolded as often as the bound says. A fragment without recursion does not
ask for the rules about handles (`Fragment.Recursive`).
-/

set_option autoImplicit false

namespace Triparse

/-- A property `P` of parsers, and one `Q` of rules, that the combinators of a fragment pass on. -/
structure Hereditary (bound : Nat) (F : Fragment) (P : {α : Type} → Parser α → Prop)
    (Q : {α : Type} → Rule α → Prop) : Prop where
  primitive {p : Primitive} : F.node (.primitive p) = true → P (p.parser bound)
  choice {ps : List (Parser Value)} : (∀ p ∈ ps, P p) → P (Parser.choice ps)
  sequence {ps : List (Parser Value)} : (∀ p ∈ ps, P p) → P (Parser.sequence ps)
  many {p : Parser Value} (range : Repetition) : P p → P (Parser.many bound range p)
  separatedBy {p q : Parser Value} (range : Repetition) :
    P p → P q → P (Parser.separatedBy bound range p q)
  times {p : Parser Value} (count : Nat) : P p → P (Parser.times p count)
  maybe {p : Parser Value} : P p → P (Parser.maybe p)
  lookAhead {g : Grammar} {p : Parser Value} :
    F.node (.lookAhead g) = true → P p → P (Parser.lookAhead p)
  exceptChar {p : Parser Value} : P p → P (Parser.anythingExcept Char p)
  exceptByte {p : Parser Value} : P p → P (Parser.anythingExcept UInt8 p)
  exceptToken {p : Parser Value} : P p → P (Parser.anythingExcept Token p)
  untilChar {p : Parser Value} : P p → P (Parser.everythingUntil Char p)
  untilByte {p : Parser Value} : P p → P (Parser.everythingUntil UInt8 p)
  untilToken {p : Parser Value} : P p → P (Parser.everythingUntil Token p)
  map {α β : Type} {p : Parser α} (f : α → β) : P p → P (p.map f)
  mapReply {g : Grammar} {p : Parser Value} {f : ReplyMapper} :
    F.node (.mapReply g f) = true → P p → P (p.mapReply f.apply)
  ignore {p : Parser Value} : P p → P p.ignore
  ignoreIfAbsent {p : Parser (Option Value)} : P p → P p.ignoreIfAbsent
  described {α : Type} {p : Parser α} (name : String) (label : Option String) :
    P p → P (p.described name label)
  pick {p : Parser (List Value)} (name expected : String) (select : List Value → Option Value) :
    P p → P (p.pick name expected select)
  seq {p q : Parser Value} : P p → P q → P (p.seq q)
  tap {p : Parser Value} (label : String) : P p →
    P (Parser.ofFunction fun input cursor => do
      Run.emit (.tapped label cursor)
      p.execute input cursor)
  defined {p : Parser Value} : P p → P (Parser.defined p)
  unfinished : F.Recursive → P (Parser.handle (α := Value) fun _ _ => .unfinished)
  handle {p : Parser Value} (enter : Run Unit) : F.Recursive → P p →
    P (Parser.handle fun input cursor => do
      enter
      p.execute input cursor)
  orphan : P (Parser.orphan (α := Value))
  rule {body : List Stmt} {x : Rule (List Value)} :
    F.node (.rule body) = true → Q x → P (Parser.ofRule x)
  pure {α : Type} (a : α) : Q (pure a : Rule α)
  bind {α β : Type} {x : Rule α} {f : α → Rule β} : Q x → (∀ a, Q (f a)) → Q (x >>= f)
  step {p : Parser Value} : P p → Q (Rule.step p)
  attempt {p : Parser Value} : P p → Q (Rule.attempt p)
  reject (message : String) : Q (Rule.reject (α := Rule.Progress) message)
  loop {p : Parser Value} {body : Rule Rule.Progress} : P p → Q body → Q (Rule.loop p body bound)
  recover {g : Grammar} {p : Parser Value} : F.step (.recover g) = true → P p →
    Q (do
      match ← Rule.trial p with
      | .ok v => Rule.collect v
      | .error e => Rule.collectFailure e)
  position : F.step .position = true → Q Rule.position
  atEnd : F.step .atEnd = true → Q (Rule.inspect Input.isEnd)
  remaining : F.step .remaining = true → Q (Rule.inspect Input.remaining)
  snippet : F.step .snippet = true → Q (Rule.inspect Input.snippet)
  raise {e : Failure} : F.step (.raise e) = true → Q (Rule.abort (α := Rule.Progress) e)

/-- Every parser that a name stands for in the scope has the property. -/
def Scope.All (P : Parser Value → Prop) (scope : Scope) : Prop :=
  ∀ name handles, scope.lookup name = some handles → ∀ a, P (handles a)

theorem Scope.All.nil (P : Parser Value → Prop) : Scope.All P [] := fun _ _ h => nomatch h

theorem Scope.All.cons {P : Parser Value → Prop} {scope : Scope} (h : Scope.All P scope)
    {name : String} {handles : Address → Parser Value} (hh : ∀ a, P (handles a)) :
    Scope.All P ((name, handles) :: scope) := by
  intro other found hf a
  rw [List.lookup_cons] at hf
  split at hf
  · cases hf
    exact hh a
  · exact h other found hf a

namespace Hereditary

variable {bound : Nat} {F : Fragment} {P : {α : Type} → Parser α → Prop}
  {Q : {α : Type} → Rule α → Prop}

/-- Each instance of a definition that keeps the property has it, however deep it is unfolded. -/
theorem unfold (H : Hereditary bound F P Q) (hF : F.Recursive) (enter : Address → Run Unit)
    {define : (Address → Parser Value) → Address → Parser Value}
    (hd : ∀ handles, (∀ a, P (handles a)) → ∀ a, P (define handles a)) :
    ∀ depth a, P (Parser.unfold enter define depth a)
  | 0, _ => H.unfinished hF
  | depth + 1, a => H.handle (enter a) hF (hd _ (H.unfold hF enter hd depth) a)

/-- A property that is hereditary on a fragment is so on a smaller one. -/
theorem weaken {G : Fragment} (H : Hereditary bound G P Q)
    (hn : ∀ g, F.node g = true → G.node g = true) (hs : ∀ s, F.step s = true → G.step s = true) :
    Hereditary bound F P Q :=
  { H with
    primitive := fun h => H.primitive (hn _ h)
    lookAhead := fun h => H.lookAhead (hn _ h)
    mapReply := fun h => H.mapReply (hn _ h)
    unfinished := fun h => H.unfinished (h.mono hn)
    handle := fun enter h => H.handle enter (h.mono hn)
    rule := fun h => H.rule (hn _ h)
    recover := fun h => H.recover (hs _ h)
    position := fun h => H.position (hs _ h)
    atEnd := fun h => H.atEnd (hs _ h)
    remaining := fun h => H.remaining (hs _ h)
    snippet := fun h => H.snippet (hs _ h)
    raise := fun h => H.raise (hs _ h) }

theorem congruent (H : Hereditary bound F P Q) :
    Congruent bound bound F (fun p _ => P p) (fun x _ => Q x) where
  primitive := H.primitive
  choice h := H.choice (forall_mem_of_forall₂ h)
  sequence _ h := H.sequence (forall_mem_of_forall₂ h)
  many := H.many
  separatedBy := H.separatedBy
  times := H.times
  maybe := H.maybe
  lookAhead := H.lookAhead
  exceptChar := H.exceptChar
  exceptByte := H.exceptByte
  exceptToken := H.exceptToken
  untilChar := H.untilChar
  untilByte := H.untilByte
  untilToken := H.untilToken
  map := H.map
  mapReply := H.mapReply
  ignore := H.ignore
  ignoreIfAbsent := H.ignoreIfAbsent
  named name := H.described name none
  label text := H.described _ (some text)
  pick := H.pick
  seq _ := H.seq
  tap _ := H.tap _
  defined _ := H.defined
  unfold {enter _ _ _} hF _ hd a _ :=
    H.unfold hF enter (fun handles hh b => hd handles handles (fun c _ => hh c) b b) bound a
  orphan _ := H.orphan
  rule := H.rule
  pure := H.pure
  bind := H.bind
  step := H.step
  attempt := H.attempt
  reject _ := H.reject _
  loop := H.loop
  recover := H.recover
  position := H.position
  atEnd := H.atEnd
  remaining := H.remaining
  snippet := H.snippet
  raise := H.raise

/-- **A grammar of the fragment has the property** in every scope whose parsers have it. -/
theorem parser (H : Hereditary bound F P Q) (g : Grammar) (hg : F.admits g = true) {scope : Scope}
    (hs : Scope.All P scope) (a : Address) : P (g.parser bound scope a) := by
  have hr : Scope.Related (fun p _ => P p) g.free scope scope := by
    intro name _ b _
    unfold Scope.find
    split
    · rename_i handles hl
      exact hs name handles hl b
    · exact H.orphan
  exact H.congruent.parser g hg hr a a

end Hereditary

end Triparse
