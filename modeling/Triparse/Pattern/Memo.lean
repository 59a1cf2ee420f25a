import Std.Data.TreeMap

/-!
# Memos of bounded size

A memo finds again the number that was kept for a key. It has a given number of places, and each key has
one of them: what is kept for a key takes the place of what was kept there before, so a memo may forget
a key, but it never finds a wrong number (`find?_keep`).
-/

set_option autoImplicit false

namespace Triparse.Pattern

/-- Keys with the numbers that are kept for them. -/
structure Memo where
  /-- The number of places. -/
  places : Nat
  /-- What is kept at places. -/
  kept : Std.TreeMap Nat (List Nat × Nat) := ∅

namespace Memo

/-- The FNV hash of a key in 64 bits. -/
def hash (key : List Nat) : UInt64 :=
  key.foldl (fun h n => (h ^^^ n.toUInt64) * 1099511628211) 14695981039346656037

/-- The place of a key. -/
def place (m : Memo) (key : List Nat) : Nat := (hash key).toNat % m.places

/-- The number for a key, unless it was not kept or is forgotten. -/
def find? (m : Memo) (key : List Nat) : Option Nat :=
  match m.kept[m.place key]? with
  | some (key', n) => if key' = key then some n else none
  | none => none

/-- A memo that keeps a number for a key. -/
def keep (m : Memo) (key : List Nat) (n : Nat) : Memo :=
  { m with kept := m.kept.insert (m.place key) (key, n) }

/-- A memo finds what it kept last, has forgotten what had the same place, and finds all else as
before. -/
theorem find?_keep (m : Memo) (key other : List Nat) (n : Nat) :
    (m.keep key n).find? other =
      if m.place key = m.place other then if key = other then some n else none
      else m.find? other := by
  have hp : (m.keep key n).place other = m.place other := rfl
  unfold find?
  rw [hp]
  by_cases h : m.place key = m.place other
  · simp [keep, h]
  · simp [keep, Std.TreeMap.getElem?_insert, h]

end Memo

end Triparse.Pattern
