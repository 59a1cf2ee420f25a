import Std.Data.HashMap
import Triparse.Grammar.Meaning

/-!
# Building recursive parsers

A grammar is used by means of a parser that keeps what it builds (`Grammar.assemble`). Each instance
of a recursive parser has a producer. The producer is called when the instance is first executed, and
what it makes, a part of the grammar among the definitions around it (`Built`), is kept in a store by
the address of the instance (`Store`); every later execution of the instance runs what is kept there
(`getOrBuild`), in the same run of the grammar or in another one.

References to a definition by `fix` share what has been put in their slot together with the
definition, which is never filled again.
-/

set_option autoImplicit false

namespace Triparse

/-- How references to a definition are instances of it. -/
inductive Sharing where
  /-- They are all the one at an address. -/
  | shared (address : Address)
  /-- Each is an instance of its own; `traced` if its building is to be traced. -/
  | fresh (traced : Bool)

/-- A definition of a name. -/
structure Definition where
  name : String
  body : Grammar
  sharing : Sharing

/-- The definitions around a part of a grammar, innermost first. -/
abbrev Definitions : Type := List Definition

/-- The innermost definition of a name, and the definitions around it. -/
def Definitions.find? (name : String) : Definitions → Option (Definition × Definitions)
  | [] => none
  | d :: around => if d.name = name then some (d, around) else find? name around

/-- What a producer makes: a grammar with the definitions around it, at an address. -/
structure Built where
  body : Grammar
  around : Definitions
  address : Address

/-- What the producer of the instance at an address makes. -/
def Definition.build (d : Definition) (around : Definitions) (a : Address) : Built :=
  ⟨d.body, d :: around, 0 :: a⟩

/-! ## The store -/

/-- What has been built, by the addresses of the instances. -/
abbrev Store : Type := Std.HashMap Address Built

/-- Runs that read a store and fill it. -/
abbrev Building : Type → Type := StateT Store Run

/-- What is kept for an instance. If there is nothing yet, the producer is called first. -/
def getOrBuild (a : Address) (produce : Building Built) : Building Built := do
  match (← get)[a]? with
  | some built => pure built
  | none =>
    let built ← produce
    modify fun store => store.insert a built
    pure built

/-- The parser of an instance that is executed; `product` is what its producer makes, and `traced` its
name if that is to be traced. -/
def demand (a : Address) (traced : Option String) (product : Built) : Building Built := do
  Run.emit (.entered a traced)
  getOrBuild a do
    Run.emit (.built a traced)
    pure product

/-! ## Grammars among definitions -/

section

variable {m : Type → Type} [Monad m] [MonadLiftT Run m]

/-- An instance of a definition: `obtain` gets the parser of an instance that is executed, and `run`
is what a parser does that has been built. -/
def Definition.instance (obtain : Address → Option String → Built → m Built)
    (run : Built → Parser Value m) (d : Definition) (around : Definitions) (a : Address) :
    Parser Value m :=
  match d.sharing with
  | .shared b => .handle fun input cursor => (run (d.build around b)).execute input cursor
  | .fresh traced => .handle fun input cursor => do
    let built ← obtain a (if traced then some d.name else none) (d.build around a)
    (run built).execute input cursor

/-- Among definitions a reference is an instance of the innermost one of its name. -/
def Definitions.naming (obtain : Address → Option String → Built → m Built)
    (run : Built → Parser Value m) : Naming m Definitions where
  fix name body meaning around a :=
    Parser.defined (meaning (⟨name, body, .shared a⟩ :: around) (0 :: a))
  recursive name traced body _ around a :=
    Definition.instance obtain run ⟨name, body, .fresh traced⟩ around a
  ref name around a :=
    match around.find? name with
    | some (d, around) => d.instance obtain run around a
    | none => Parser.orphan

/-- What a parser does that has been built; the first bound is that of loops, the second one limits how
deep executions of instances are nested. -/
def Built.parser (obtain : Address → Option String → Built → m Built) (bound : Nat) :
    Nat → Built → Parser Value m
  | 0, _ => .handle fun _ _ => liftM (Run.unfinished (α := Reply Value))
  | depth + 1, b =>
    b.body.interpret (Definitions.naming obtain (Built.parser obtain bound depth)) bound b.around
      b.address

end

/-- A closed grammar as a parser that keeps what it builds; `bound` limits the depth of loops and
recursion. -/
def Grammar.assemble (bound : Nat) (g : Grammar) : Parser Value Building :=
  g.interpret (Definitions.naming demand (Built.parser demand bound bound)) bound [] []

end Triparse
