import Triparse.Text.RangeTable

/-!
# Characters as bytes

A range of characters as sequences of byte ranges in UTF-8: each sequence stands for the characters
whose bytes lie in its ranges one by one. The first byte of a character holds its leading digits in
base 64, and each byte after it one more digit.
-/

set_option autoImplicit false

namespace Triparse.Pattern

/-- An inclusive range of bytes. -/
abbrev ByteRange := Nat × Nat

/-- The sequences of the numbers from `lo` to `hi`, written as a first digit, which is added to
`base`, and a given number of further digits in base 64. -/
def digitRanges (base : Nat) : Nat → Nat → Nat → List (List ByteRange)
  | 0, lo, hi => [[(base + lo, base + hi)]]
  | digits + 1, lo, hi =>
    let unit := Nat.pow 64 (digits + 1)
    let first := lo / unit
    let last := hi / unit
    let under := fun digit lo hi =>
      (digitRanges 0x80 digits lo hi).map ((base + digit, base + digit) :: ·)
    if first == last then under first (lo % unit) (hi % unit)
    else
      let cutFirst := lo % unit != 0
      let cutLast := hi % unit != unit - 1
      let from' := if cutFirst then first + 1 else first
      let upTo := if cutLast then last else last + 1
      (if cutFirst then under first (lo % unit) (unit - 1) else []) ++
        (if from' < upTo then
          [(base + from', base + upTo - 1) :: List.replicate (digits + 1) (0x80, 0xBF)]
        else []) ++
        (if cutLast then under last 0 (hi % unit) else [])

/-- The code points that take one to four bytes: the first and the last one, what is added to their
leading digits, and the number of bytes after the first. -/
def encodings : List (Nat × Nat × Nat × Nat) :=
  [(0, 0x7F, 0, 0), (0x80, 0x7FF, 0xC0, 1), (0x800, 0xFFFF, 0xE0, 2), (0x10000, 0x10FFFF, 0xF0, 3)]

/-- The sequences of the characters in a table, in their order. -/
def byteRanges (t : Text.RangeTable) : List (List ByteRange) :=
  t.flatMap fun (lo, hi) =>
    encodings.flatMap fun (first, last, base, digits) =>
      if max lo first ≤ min hi last then digitRanges base digits (max lo first) (min hi last)
      else []

/-- The bytes of a character. -/
def bytesOf (n : Nat) : List Nat := (byteRanges [(n, n)]).flatten.map (·.1)

example : byteRanges [(0x7F, 0x830)] =
    [[(0x7F, 0x7F)], [(0xC2, 0xDF), (0x80, 0xBF)], [(0xE0, 0xE0), (0xA0, 0xA0), (0x80, 0xB0)]] := by
  decide

/-- Sequences that follow each other and begin with one range, and what is behind it in each. -/
def groupHeads : List (List ByteRange) → List (ByteRange × List (List ByteRange))
  | [] => []
  | [] :: rest => groupHeads rest
  | (r :: rs) :: rest =>
    match groupHeads rest with
    | (r', tails) :: more =>
      if r == r' then (r, rs :: tails) :: more else (r, [rs]) :: (r', tails) :: more
    | [] => [(r, [rs])]

end Triparse.Pattern
