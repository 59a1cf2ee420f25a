import Triparse.Modality
import Triparse.Repetition

/-!
# Failures

Every parser reports failure through one record, `Failure`. Combinators re-raise the failure of a
part inside a `within` record, which is transparent: its kind, its position and its root are those
of the failure inside. The cause that a count failure may carry is kept as it was; nothing looks
through it. `moveTo`, `relabel` and `rename` are the updates that combinators apply.
-/

set_option autoImplicit false

namespace Triparse

/-- The coarse kinds of failure. -/
inductive FailureKind where
  | noMatch
  | endOfInput
  | badInput
  | countOutOfRange
  | rejected
deriving DecidableEq, Repr

/-- The word for a kind of failure. -/
def FailureKind.describe : FailureKind → String
  | .noMatch => "NoMatch"
  | .endOfInput => "EndOfInput"
  | .badInput => "BadInputType"
  | .countOutOfRange => "CountOutOfRange"
  | .rejected => "UserRejected"

/-- A parse failure: the name of the parser that reported it, the position it refers to, and what
was wrong there. -/
inductive Failure where
  /-- The input at the position is not what the parser looks for. -/
  | noMatch (parser : String) (position : Nat) (expected actual : String)
  /-- Only `available` elements were left. -/
  | endOfInput (parser : String) (position : Nat) (expected : String) (available : Nat)
  /-- The input has a shape that the parser does not accept. -/
  | badInput (parser : String) (position : Nat) (expected : Modalities) (actual : Modality)
  /-- A repetition ended after a count outside its range. -/
  | countOutOfRange (parser : String) (position : Nat) (expected : Repetition) (actual : Nat)
      (cause : Option Failure)
  /-- The grammar itself refused. -/
  | rejected (parser : String) (position : Nat) (message : String)
  /-- Element `element` of a composite parser failed. -/
  | within (parser : String) (element : Nat) (inner : Failure)
deriving Repr, Inhabited

namespace Failure

/-! ## Reading -/

/-- The kind of a failure. -/
def kind : Failure → FailureKind
  | noMatch .. => .noMatch
  | endOfInput .. => .endOfInput
  | badInput .. => .badInput
  | countOutOfRange .. => .countOutOfRange
  | rejected .. => .rejected
  | within _ _ inner => inner.kind

/-- The position a failure refers to. -/
def position : Failure → Nat
  | noMatch _ p _ _ => p
  | endOfInput _ p _ _ => p
  | badInput _ p _ _ => p
  | countOutOfRange _ p _ _ _ => p
  | rejected _ p _ => p
  | within _ _ inner => inner.position

/-- The name of the parser that reported a failure; that of a `within` record is its own. -/
def parser : Failure → String
  | noMatch n _ _ _ => n
  | endOfInput n _ _ _ => n
  | badInput n _ _ _ => n
  | countOutOfRange n _ _ _ _ => n
  | rejected n _ _ => n
  | within n _ _ => n

/-- The failure inside all `within` records. -/
def root : Failure → Failure
  | within _ _ inner => inner.root
  | e => e

/-- The failure directly inside a `within` record. -/
def inner? : Failure → Option Failure
  | within _ _ inner => some inner
  | _ => none

/-- A failure as one line of text. -/
def message : Failure → String
  | noMatch n p expected actual =>
    n ++ " parser (position " ++ p.repr ++ "): expected " ++ expected ++ ", found " ++ actual
  | endOfInput n p expected available =>
    n ++ " parser (position " ++ p.repr ++ "): expected " ++ expected ++ ", but only " ++
      available.repr ++ " element(s) remain"
  | badInput n p expected actual =>
    n ++ " parser (position " ++ p.repr ++ "): expected " ++ expected.describe ++ ", got " ++
      actual.describe
  | countOutOfRange n p expected actual _ =>
    n ++ " parser (position " ++ p.repr ++ "): expected " ++ expected.describe ++
      " values, got " ++ actual.repr
  | rejected n p text => n ++ " parser (position " ++ p.repr ++ "): " ++ text
  | within n element inner =>
    n ++ " parser, element " ++ element.repr ++ ": " ++ inner.message

/-! ## Updates -/

/-- The failure at another position; causes stay where they are. -/
def moveTo (position : Nat) : Failure → Failure
  | noMatch n _ expected actual => noMatch n position expected actual
  | endOfInput n _ expected available => endOfInput n position expected available
  | badInput n _ expected actual => badInput n position expected actual
  | countOutOfRange n _ expected actual cause => countOutOfRange n position expected actual cause
  | rejected n _ text => rejected n position text
  | within n element inner => within n element (inner.moveTo position)

/-- The failure with another description of what was expected, if it has one. -/
def relabel (label : String) : Failure → Failure
  | noMatch n p _ actual => noMatch n p label actual
  | endOfInput n p _ available => endOfInput n p label available
  | within n element inner => within n element (inner.relabel label)
  | e => e

/-- The failure reported under another name; the names inside a `within` record stay. -/
def rename (name : String) : Failure → Failure
  | noMatch _ p expected actual => noMatch name p expected actual
  | endOfInput _ p expected available => endOfInput name p expected available
  | badInput _ p expected actual => badInput name p expected actual
  | countOutOfRange _ p expected actual cause => countOutOfRange name p expected actual cause
  | rejected _ p text => rejected name p text
  | within _ element inner => within name element inner

/-! ## Equality -/

/-- Whether two failures are the same record, causes and inner failures included. -/
def same : Failure → Failure → Bool
  | noMatch n p e a, noMatch n' p' e' a' => n == n' && p == p' && e == e' && a == a'
  | endOfInput n p e a, endOfInput n' p' e' a' => n == n' && p == p' && e == e' && a == a'
  | badInput n p e a, badInput n' p' e' a' => n == n' && p == p' && e == e' && a == a'
  | countOutOfRange n p e a none, countOutOfRange n' p' e' a' none =>
    n == n' && p == p' && e == e' && a == a'
  | countOutOfRange n p e a (some c), countOutOfRange n' p' e' a' (some c') =>
    n == n' && p == p' && e == e' && a == a' && same c c'
  | rejected n p t, rejected n' p' t' => n == n' && p == p' && t == t'
  | within n k i, within n' k' i' => n == n' && k == k' && same i i'
  | _, _ => false

theorem same_refl : ∀ e : Failure, same e e = true
  | noMatch .. | endOfInput .. | badInput .. | rejected .. => by simp [same]
  | countOutOfRange _ _ _ _ none => by simp [same]
  | countOutOfRange _ _ _ _ (some c) => by simp [same, same_refl c]
  | within _ _ i => by simp [same, same_refl i]

theorem eq_of_same {e e' : Failure} (h : same e e' = true) : e = e' := by
  fun_induction same e e' <;> simp_all

theorem same_iff {e e' : Failure} : same e e' = true ↔ e = e' :=
  ⟨eq_of_same, fun h => h ▸ same_refl e⟩

instance : DecidableEq Failure := fun _ _ => decidable_of_iff _ same_iff

end Failure

end Triparse
