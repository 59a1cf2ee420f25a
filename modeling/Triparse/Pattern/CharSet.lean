import Triparse.Text.CaseFold
import Triparse.Text.WordChar

/-!
# Sets of characters in patterns

What a pattern can ask of one character. A set is kept as it is written, with the operations of
bracketed classes; membership is decided from it (`CharSet.contains`), and its members can be listed
in ranges (`CharSet.ranges`).
-/

set_option autoImplicit false

namespace Triparse.Pattern

/-- A set of characters. -/
inductive CharSet where
  | empty
  | any
  | single (c : Char)
  | range (first last : Char)
  | table (ranges : Text.RangeTable)
  | complement (s : CharSet)
  | union (s t : CharSet)
  | intersection (s t : CharSet)
  | difference (s t : CharSet)
  | symmetricDifference (s t : CharSet)
  /-- The characters that differ from a member in case at most; only basic letters have a case if
  the set is `basic`. -/
  | caseless (basic : Bool) (s : CharSet)
deriving DecidableEq, Repr

/-- The other code points that differ from one in case only. -/
def caseVariants (basic : Bool) (n : Nat) : List Nat :=
  if basic then Text.basicCaseVariants n else Text.caseVariants n

namespace CharSet

/-- Whether a code point is in a set. -/
def contains : CharSet → Nat → Bool
  | empty, _ => false
  | any, _ => true
  | single a, n => a.toNat == n
  | range a b, n => a.toNat ≤ n && n ≤ b.toNat
  | table t, n => t.contains n
  | complement s, n => !s.contains n
  | union s t, n => s.contains n || t.contains n
  | intersection s t, n => s.contains n && t.contains n
  | difference s t, n => s.contains n && !t.contains n
  | symmetricDifference s t, n => s.contains n != t.contains n
  | caseless basic s, n => s.contains n || (caseVariants basic n).any s.contains

/-- A table with the other code points that differ from a member in case only. -/
def caselessTable (basic : Bool) (t : Text.RangeTable) : Text.RangeTable :=
  let cased := Text.casedChars.flatMap fun (lo, hi) => List.range' lo (hi + 1 - lo)
  let variants := cased.filter fun n => (caseVariants basic n).any t.contains
  t.union (variants.map fun n => (n, n))

/-- The members of a set in ranges that do not touch, without surrogate code points. -/
def ranges : CharSet → Text.RangeTable
  | empty => []
  | any => Text.RangeTable.complement []
  | single a => [(a.toNat, a.toNat)]
  | range a b => Text.RangeTable.characters [(a.toNat, b.toNat)]
  | table t => t.characters
  | complement s => s.ranges.complement
  | union s t => s.ranges.union t.ranges
  | intersection s t => s.ranges.intersection t.ranges
  | difference s t => s.ranges.difference t.ranges
  | symmetricDifference s t => s.ranges.symmetricDifference t.ranges
  | caseless basic s => caselessTable basic s.ranges

/-- The members of a list of inclusive ranges. -/
def ofRanges (rs : List (Char × Char)) : CharSet :=
  .table (rs.map fun (a, b) => (a.toNat, b.toNat))

/-- A named class of basic characters, as in `[:alpha:]`. -/
def named? : String → Option CharSet
  | "alnum" => some (ofRanges [('0', '9'), ('A', 'Z'), ('a', 'z')])
  | "alpha" => some (ofRanges [('A', 'Z'), ('a', 'z')])
  | "ascii" => some (range '\x00' '\x7f')
  | "blank" => some ((single '\t').union (single ' '))
  | "cntrl" => some (ofRanges [('\x00', '\x1f'), ('\x7f', '\x7f')])
  | "digit" => some (range '0' '9')
  | "graph" => some (range '!' '~')
  | "lower" => some (range 'a' 'z')
  | "print" => some (range ' ' '~')
  | "punct" => some (ofRanges [('!', '/'), (':', '@'), ('[', '\x60'), ('\x7b', '~')])
  | "space" => some (ofRanges [('\t', '\r'), (' ', ' ')])
  | "upper" => some (range 'A' 'Z')
  | "word" => some (table Text.basicWordChars)
  | "xdigit" => some (ofRanges [('0', '9'), ('A', 'F'), ('a', 'f')])
  | _ => none

end CharSet

end Triparse.Pattern
