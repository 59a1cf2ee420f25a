/-!
# Ranges of code points

Tables of character properties are sorted lists of inclusive ranges of code points. Their operations
are those of sets of characters: a complement holds no surrogate code point, since none is a
character.
-/

set_option autoImplicit false

namespace Triparse.Text

/-- A sorted table of inclusive ranges of code points. -/
abbrev RangeTable := List (Nat × Nat)

namespace RangeTable

/-- Whether a code point lies in one of the ranges; the search ends at the first range above it. -/
def contains : RangeTable → Nat → Bool
  | [], _ => false
  | (lo, hi) :: rest, n => if n < lo then false else n ≤ hi || contains rest n

/-- The number of code points in a table of ranges that do not meet. -/
def count (t : RangeTable) : Nat := (t.map fun (lo, hi) => hi + 1 - lo).foldl (· + ·) 0

/-- Ranges in the order of their first code points, those that meet or touch made one; `lo` and `hi`
bound the range before them. -/
def joinFrom (lo hi : Nat) : RangeTable → RangeTable
  | [] => [(lo, hi)]
  | (a, b) :: rest =>
    if a ≤ hi + 1 then joinFrom lo (max hi b) rest else (lo, hi) :: joinFrom a b rest

/-- Ranges in the order of their first code points, those that meet or touch made one. -/
def join : RangeTable → RangeTable
  | [] => []
  | (lo, hi) :: rest => joinFrom lo hi rest

/-- The ranges of a table up to the place of `r` in their order, then `r`; the rest of the table goes
to `merge`. -/
def mergeOver (r : Nat × Nat) (merge : RangeTable → RangeTable) : RangeTable → RangeTable
  | [] => r :: merge []
  | q :: t => if r.1 ≤ q.1 then r :: merge (q :: t) else q :: mergeOver r merge t

/-- The code points in either table. -/
def union (s t : RangeTable) : RangeTable := join (s.foldr mergeOver id t)

/-- The last code point. -/
def last : Nat := 0x10FFFF

/-- The code points that are no characters. -/
def surrogates : RangeTable := [(0xD800, 0xDFFF)]

/-- The code points from `next` on that are in no range. -/
def gaps (next : Nat) : RangeTable → RangeTable
  | [] => if next ≤ last then [(next, last)] else []
  | (lo, hi) :: rest =>
    if next < lo then (next, lo - 1) :: gaps (hi + 1) rest else gaps (hi + 1) rest

/-- The characters that are not in a table. -/
def complement (t : RangeTable) : RangeTable := gaps 0 (t.union surrogates)

/-- The characters in a table. -/
def characters (t : RangeTable) : RangeTable := t.complement.complement

/-- The characters in both tables. -/
def intersection (s t : RangeTable) : RangeTable := (s.complement.union t.complement).complement

/-- The characters in the first table only. -/
def difference (s t : RangeTable) : RangeTable := (s.complement.union t).complement

/-- The characters in one of the tables only. -/
def symmetricDifference (s t : RangeTable) : RangeTable := (s.difference t).union (t.difference s)

/-! ## Tables in writing -/

/-- The words of a text, which blanks divide; `word` holds the one that has begun, latest first. -/
def words (word : List Char) : List Char → List (List Char)
  | [] => if word.isEmpty then [] else [word.reverse]
  | c :: cs =>
    if c == ' ' then
      if word.isEmpty then words [] cs else word.reverse :: words [] cs
    else words (c :: word) cs

/-- The value of a digit in lower-case hexadecimal. -/
def digit? (c : Char) : Option Nat :=
  if '0' ≤ c && c ≤ '9' then some (c.toNat - 48)
  else if 'a' ≤ c && c ≤ 'f' then some (c.toNat - 87)
  else none

/-- The number that a text begins with, in lower-case hexadecimal, and the rest; `n` is the value of
the digits before. -/
def number (n : Nat) : List Char → Nat × List Char
  | [] => (n, [])
  | c :: cs =>
    match digit? c with
    | some d => number (16 * n + d) cs
    | none => (n, c :: cs)

/-- A range in writing: its ends with a hyphen between, or one code point. -/
def readRange (word : List Char) : Nat × Nat :=
  match number 0 word with
  | (lo, '-' :: rest) => (lo, (number 0 rest).1)
  | (lo, _) => (lo, lo)

/-- A table in writing, which may take several lines. -/
def ofLines (lines : List String) : RangeTable :=
  lines.flatMap fun line => (words [] line.toList).map readRange

example : ofLines ["9-d 20", "85"] = [(0x9, 0xD), (0x20, 0x20), (0x85, 0x85)] := by decide

end RangeTable

end Triparse.Text
