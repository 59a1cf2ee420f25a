import Triparse.Text.RangeTable

/-!
# Partitions of the code points

A property that has one value for each code point is kept as a list of stretches: a stretch goes from
its first code point up to the next stretch, and the last one to the last code point.
-/

set_option autoImplicit false

namespace Triparse.Property

/-- Code points in a row that have one value. -/
structure Stretch where
  first : Nat
  value : String
deriving DecidableEq, Repr

/-- Stretches in the order of their first code points. -/
abbrev Partition := List Stretch

namespace Partition

/-- A stretch in writing: its first code point in lower-case hexadecimal, and then the value. -/
def readStretch (word : List Char) : Stretch :=
  let (first, value) := Text.RangeTable.number 0 word
  ⟨first, String.ofList value⟩

/-- A partition in writing, which may take several lines. -/
def ofLines (lines : List String) : Partition :=
  lines.flatMap fun line => (Text.RangeTable.words [] line.toList).map readStretch

/-- The code points whose values are wanted. -/
def select (p : Partition) (wanted : String → Bool) : Text.RangeTable :=
  match p with
  | [] => []
  | [s] => if wanted s.value then [(s.first, Text.RangeTable.last)] else []
  | s :: next :: rest =>
    if wanted s.value then (s.first, next.first - 1) :: select (next :: rest) wanted
    else select (next :: rest) wanted

/-- The code points with the value of a name; `names` holds the values and their names. -/
def find? (p : Partition) (names : List (String × List String)) (name : String) :
    Option Text.RangeTable :=
  (names.find? fun (_, names) => names.contains name).map fun (value, _) => p.select (· == value)

example : select (ofLines ["0Lo 20Hi", "30Lo"]) (· == "Lo") = [(0, 0x1F), (0x30, 0x10FFFF)] := by
  decide

end Partition

end Triparse.Property
