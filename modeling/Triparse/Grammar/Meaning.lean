import Triparse.Grammar.Basic
import Triparse.Parser.Choice
import Triparse.Parser.Collection
import Triparse.Parser.LookAhead
import Triparse.Parser.Recursion
import Triparse.Parser.Rule
import Triparse.Parser.Sequence

/-!
# What grammars mean

A grammar is a parser of values, by recursion on the grammar: each combinator is that of parsers, its
results turned into values (`Grammar.interpret`). The addresses of the parts of a grammar are its own,
one step on. How names are dealt with is left open (`Naming`): with names come environments and
effects.

Here a name stands for what its scope says, a parser for each address of a reference, and definitions
are unfolded (`Scope.naming`). Loops and recursion go as deep as the bound, the same for all of them.
-/

set_option autoImplicit false

namespace Triparse

variable {m : Type → Type} {σ : Type}

namespace Rule

/-- What the steps of a rule come to: the values collected, and whether the rule is finished. -/
structure Progress where
  values : List Value
  finished : Bool := false

section

variable [Monad m]

/-- One value collected. -/
def collect (v : Value) : RuleT m Progress := pure { values := [v] }

/-- Steps after others, unless those have finished the rule. -/
def andThen (x y : RuleT m Progress) : RuleT m Progress := do
  let before ← x
  if before.finished then pure before
  else
    let after ← y
    pure { after with values := before.values ++ after.values }

/-- The steps of a failed trial that is recovered from: what the failure says. -/
def collectFailure (e : Failure) : RuleT m Progress :=
  pure { values := [.str e.abortMessage, .str e.kind.describe, .int e.position] }

/-- Try a parser, collect its value and go on, over and over; end where it fails, where a round does
not move the position, and where the rule is finished. -/
def loop [MonadLiftT Run m] (p : Parser Value m) (body : RuleT m Progress) :
    Nat → RuleT m Progress
  | 0 => Rule.unfinished
  | bound + 1 => do
    let start ← position
    match ← attempt p with
    | none => pure { values := [] }
    | some v =>
      let round ← andThen (collect v) body
      if round.finished then pure round
      else if (← position) = start then pure round
      else andThen (pure round) (loop p body bound)

end

end Rule

/-- How the names of grammars are dealt with: what definitions and references are in environments of
type `σ`, with effects in `m`. A definition is told what its body is, by environment and address. -/
structure Naming (m : Type → Type) (σ : Type) where
  /-- A definition whose references share one instance. -/
  fix (name : String) (body : Grammar) (meaning : σ → Address → Parser Value m) :
    σ → Address → Parser Value m
  /-- A definition whose references are instances of their own. -/
  recursive (name : String) (traced : Bool) (body : Grammar)
    (meaning : σ → Address → Parser Value m) : σ → Address → Parser Value m
  /-- A reference. -/
  ref (name : String) : σ → Address → Parser Value m

/-! ## Grammars as parsers -/

variable [Monad m] [MonadLiftT Run m]

mutual

/-- The parser that a grammar is, in an environment and at an address. -/
def Grammar.interpret (names : Naming m σ) (bound : Nat) : Grammar → σ → Address → Parser Value m
  | .primitive p, _, _ => (p.parser bound).lift
  | .choice gs, env, a => Parser.choice (Grammar.interpretAll names bound gs env a 0)
  | .sequence gs, env, a => (Parser.sequence (Grammar.interpretAll names bound gs env a 0)).map .list
  | .many range g, env, a =>
    (Parser.many bound range (g.interpret names bound env (0 :: a))).map .list
  | .separated range separator value, env, a =>
    (Parser.separatedBy bound range (separator.interpret names bound env (0 :: a))
      (value.interpret names bound env (1 :: a))).map .list
  | .times g count, env, a => (Parser.times (g.interpret names bound env (0 :: a)) count).map .list
  | .maybe g, env, a => (Parser.maybe (g.interpret names bound env (0 :: a))).map Value.ofOption
  | .lookAhead g, env, a => Parser.lookAhead (g.interpret names bound env (0 :: a))
  | .anythingExcept .characters g, env, a =>
    (Parser.anythingExcept Char (g.interpret names bound env (0 :: a))).map .char
  | .anythingExcept .bytes g, env, a =>
    (Parser.anythingExcept UInt8 (g.interpret names bound env (0 :: a))).map .byte
  | .anythingExcept .tokens g, env, a =>
    (Parser.anythingExcept Token (g.interpret names bound env (0 :: a))).map .token
  | .everythingUntil .characters g, env, a =>
    (Parser.everythingUntil Char (g.interpret names bound env (0 :: a))).map (Value.ofList .char)
  | .everythingUntil .bytes g, env, a =>
    (Parser.everythingUntil UInt8 (g.interpret names bound env (0 :: a))).map (Value.ofList .byte)
  | .everythingUntil .tokens g, env, a =>
    (Parser.everythingUntil Token (g.interpret names bound env (0 :: a))).map (Value.ofList .token)
  | .stringUntil g, env, a => (Parser.stringUntil (g.interpret names bound env (0 :: a))).map .str
  | .valueIfAbsent g default, env, a =>
    ((g.interpret names bound env (0 :: a)).map Value.asOption).valueIfAbsent default
  | .ignoreIfAbsent g, env, a =>
    (((g.interpret names bound env (0 :: a)).map Value.asOption).ignoreIfAbsent).map Value.ofOption
  | .nth g index, env, a => ((g.interpret names bound env (0 :: a)).map Value.asList).nth index
  | .last g, env, a => ((g.interpret names bound env (0 :: a)).map Value.asList).last
  | .join g separator, env, a =>
    let p := (g.interpret names bound env (0 :: a)).map Value.asList
    (Parser.join Value.text p separator).map .str
  | .map g f, env, a => (g.interpret names bound env (0 :: a)).map f.apply
  | .mapReply g f, env, a => (g.interpret names bound env (0 :: a)).mapReply f.apply
  | .ignore g, env, a => (g.interpret names bound env (0 :: a)).ignore
  | .named g name, env, a => (g.interpret names bound env (0 :: a)).named name
  | .label g text, env, a => (g.interpret names bound env (0 :: a)).label text
  | .seq g h, env, a =>
    let p := g.interpret names bound env (0 :: a)
    (p.seq (h.interpret names bound env (1 :: a))).map Value.ofPair
  | .skip g h, env, a =>
    (g.interpret names bound env (0 :: a)).skip (h.interpret names bound env (1 :: a))
  | .skipLeft g h, env, a =>
    (g.interpret names bound env (0 :: a)).skipLeft (h.interpret names bound env (1 :: a))
  | .fix name g, env, a => names.fix name g (fun env a => g.interpret names bound env a) env a
  | .recursive name traced g, env, a =>
    names.recursive name traced g (fun env a => g.interpret names bound env a) env a
  | .ref name, env, a => names.ref name env a
  | .orphan, _, _ => Parser.orphan
  | .tap label g, env, a =>
    let p := g.interpret names bound env (0 :: a)
    Parser.ofFunction fun input cursor => do
      Run.emit (.tapped label cursor)
      p.execute input cursor
  | .rule body, env, a =>
    let steps := Stmt.interpretAll names bound body env a 0
    (Parser.ofRule do return (← steps).values).map .list

/-- The parsers that grammars are; the address of the first goes through `index`. -/
def Grammar.interpretAll (names : Naming m σ) (bound : Nat) :
    List Grammar → σ → Address → Nat → List (Parser Value m)
  | [], _, _, _ => []
  | g :: gs, env, a, index =>
    g.interpret names bound env (index :: a) :: Grammar.interpretAll names bound gs env a (index + 1)

/-- What a step of a rule does. -/
def Stmt.interpret (names : Naming m σ) (bound : Nat) :
    Stmt → σ → Address → RuleT m Rule.Progress
  | .step g, env, a => do
    Rule.collect (← Rule.step (g.interpret names bound env (0 :: a)))
  | .limited g limit message, env, a => do
    let v ← Rule.step (g.interpret names bound env (0 :: a))
    if limit < v.text.length then Rule.reject message else Rule.collect v
  | .attempt g, env, a => do
    Rule.collect (.ofOption (← Rule.attempt (g.interpret names bound env (0 :: a))))
  | .recover g, env, a => do
    match ← Rule.trial (g.interpret names bound env (0 :: a)) with
    | .ok v => Rule.collect v
    | .error e => Rule.collectFailure e
  | .position, _, _ => do Rule.collect (.int (← Rule.position))
  | .atEnd, _, _ => do Rule.collect (.bool (← Rule.inspect Input.isEnd))
  | .remaining, _, _ => do Rule.collect (.int (← Rule.inspect Input.remaining))
  | .snippet, _, _ => do Rule.collect (.str (← Rule.inspect Input.snippet))
  | .reject message, _, _ => Rule.reject message
  | .raise e, _, _ => Rule.abort e
  | .finish, _, _ => pure { values := [], finished := true }
  | .when g matched failed, env, a => do
    match ← Rule.attempt (g.interpret names bound env (0 :: a)) with
    | some v => Rule.andThen (Rule.collect v) (Stmt.interpretAll names bound matched env (1 :: a) 0)
    | none => Stmt.interpretAll names bound failed env (2 :: a) 0
  | .loop g body, env, a =>
    Rule.loop (g.interpret names bound env (0 :: a))
      (Stmt.interpretAll names bound body env (1 :: a) 0) bound

/-- What steps of a rule do; the address of the first goes through `index`. -/
def Stmt.interpretAll (names : Naming m σ) (bound : Nat) :
    List Stmt → σ → Address → Nat → RuleT m Rule.Progress
  | [], _, _, _ => pure { values := [] }
  | s :: ss, env, a, index =>
    Rule.andThen (s.interpret names bound env (index :: a))
      (Stmt.interpretAll names bound ss env a (index + 1))

end

/-! ## Scopes -/

/-- What names stand for: the parser that a reference is, by the address of the reference. -/
abbrev Scope : Type := List (String × (Address → Parser Value))

/-- In a scope a definition is unfolded to the depth `bound`, and its body stands in the scope with
the definition in front. -/
def Scope.naming (bound : Nat) : Naming Run Scope where
  fix name _ meaning scope a :=
    let define := fun handles _ => meaning ((name, handles) :: scope) (0 :: a)
    Parser.defined (define (Parser.unfold (fun _ => pure ()) define bound) a)
  recursive name traced _ meaning scope a :=
    let define := fun handles b => meaning ((name, handles) :: scope) (0 :: b)
    let enter := fun b => Run.emit (.entered b (if traced then some name else none))
    Parser.unfold enter define bound a
  ref name scope a :=
    match scope.lookup name with
    | some handles => handles a
    | none => Parser.orphan

/-- The parser that a grammar is, in a scope and at an address. -/
abbrev Grammar.parser (bound : Nat) (g : Grammar) (scope : Scope) (a : Address) : Parser Value :=
  g.interpret (Scope.naming bound) bound scope a

/-- The parsers that grammars are; the address of the first goes through `index`. -/
abbrev Grammar.parsers (bound : Nat) (gs : List Grammar) (scope : Scope) (a : Address) (index : Nat) :
    List (Parser Value) := Grammar.interpretAll (Scope.naming bound) bound gs scope a index

/-- What a step of a rule does. -/
abbrev Stmt.run (bound : Nat) (s : Stmt) (scope : Scope) (a : Address) : Rule Rule.Progress :=
  s.interpret (Scope.naming bound) bound scope a

/-- What steps of a rule do; the address of the first goes through `index`. -/
abbrev Stmt.runAll (bound : Nat) (ss : List Stmt) (scope : Scope) (a : Address) (index : Nat) :
    Rule Rule.Progress := Stmt.interpretAll (Scope.naming bound) bound ss scope a index

namespace Grammar

variable (bound : Nat) (name : String) (traced : Bool) (body : Grammar) (scope : Scope) (a : Address)

theorem parser_fix :
    (fix name body).parser bound scope a =
      Parser.defined (body.parser bound ((name, Parser.unfold (fun _ => pure ())
        (fun handles _ => body.parser bound ((name, handles) :: scope) (0 :: a)) bound) :: scope)
        (0 :: a)) := rfl

theorem parser_recursive :
    (recursive name traced body).parser bound scope a =
      Parser.unfold (fun b => Run.emit (.entered b (if traced then some name else none)))
        (fun handles b => body.parser bound ((name, handles) :: scope) (0 :: b)) bound a := rfl

end Grammar

/-- A closed grammar as a parser; `bound` limits the depth of loops and recursion. -/
def Grammar.toParser (bound : Nat) (g : Grammar) : Parser Value := g.parser bound [] []

end Triparse
