import Triparse.State
import Triparse.Value

/-!
# Mappers

The functions that grammars apply to values (`Mapper`) and to successful replies (`ReplyMapper`), as
data, and the character tests that they may use (`CharTest`).
-/

set_option autoImplicit false

namespace Triparse

/-! ## Values -/

/-- A function on values. -/
inductive Mapper where
  /-- A fixed value. -/
  | const (value : Value)
  /-- The number of characters of a text, or of elements of a list. -/
  | length
  /-- The number of a value. -/
  | number
  /-- The sum of the numbers of a list. -/
  | sum
  /-- The product of the numbers of a list. -/
  | product
  /-- One more than the greatest number of a list. -/
  | depth
  /-- The text of a value. -/
  | text
  /-- The list backwards. -/
  | reverse
deriving Repr, DecidableEq

namespace Mapper

/-- The greatest of integers, or 0 if there are none. -/
def greatest : List Int → Int
  | [] => 0
  | n :: ns => ns.foldl max n

/-- A mapper as a function. -/
def apply : Mapper → Value → Value
  | const w, _ => w
  | length, .str s => .int s.length
  | length, v => .int v.asList.length
  | number, v => .int v.number
  | sum, v => .int ((v.asList.map Value.number).foldl (· + ·) 0)
  | product, v => .int ((v.asList.map Value.number).foldl (· * ·) 1)
  | depth, v => .int (1 + greatest (v.asList.map Value.number))
  | text, v => .str v.text
  | reverse, v => .list v.asList.reverse

end Mapper

/-! ## Replies -/

/-- A function on successful replies. -/
inductive ReplyMapper where
  /-- Mark the value to be left out of collections. -/
  | suppress
  /-- Move the cursor to a place. -/
  | withCursor (cursor : Nat)
  /-- Move the cursor on, past the end if need be. -/
  | advance (distance : Nat)
  /-- Pair the value with the cursor. -/
  | locate
  /-- Fail where the match ended. -/
  | fail (failure : Failure)
  /-- Fail to match where the match ended. -/
  | noMatch (parser expected : String)
deriving Repr

/-- A reply mapper as a function. -/
def ReplyMapper.apply : ReplyMapper → Input → Reply Value → Reply Value
  | suppress, _, r => r.suppress
  | withCursor cursor, _, r => r.withCursor cursor
  | advance distance, _, r => r.withCursor (r.cursor + distance)
  | locate, _, r => r.map fun v => .pair v (.int r.cursor)
  | fail e, _, r => .fail r.cursor e
  | noMatch parser expected, input, r =>
    .fail r.cursor (input.noMatch r.cursor parser expected)

/-! ## Characters -/

/-- A test of characters. -/
inductive CharTest where
  | oneOf (chars : List Char)
  | range (first last : Char)
  | always
  | never
deriving Repr, DecidableEq

/-- Whether a character passes a test. -/
def CharTest.holds : CharTest → Char → Bool
  | oneOf cs, c => cs.contains c
  | range a b, c => a ≤ c && c ≤ b
  | always, _ => true
  | never, _ => false

end Triparse
