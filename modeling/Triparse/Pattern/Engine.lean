import Triparse.BuildError

/-!
# Engines

Patterns are compiled and matched by an engine (`Engine`). What it tells of a match in a text is the bytes
that each group has taken (`Captures`). A pattern is compiled twice, for itself and, for matches at the
start of a text, as a group with an anchor in front (`Compiled.ofText`). The match takes as many characters
as there are in the text of the whole match (`Compiled.match?`).
-/

set_option autoImplicit false

namespace Triparse.Pattern

/-- The bytes of a text from one offset to another one. -/
structure Span where
  start : Nat
  stop : Nat
deriving DecidableEq, Repr

/-- The text of the bytes. -/
def Span.text (s : Span) (text : String) : String := String.Pos.Raw.extract text ⟨s.start⟩ ⟨s.stop⟩

/-- What the groups of a match have taken, if they took part in it; group 0 is the whole match. -/
abbrev Captures : Type := Nat → Option Span

/-- What there is to patterns. -/
structure Engine where
  /-- Compiled patterns. -/
  Regex : Type
  /-- Compile a pattern, if it is one. -/
  compile : String → Option Regex
  /-- The number of groups, with the whole match. -/
  groupCount : Regex → Nat
  /-- What the groups of the match in a text have taken, if there is a match. -/
  captures : Regex → String → Option Captures

/-- Compile what has been written for a pattern. -/
def Engine.read (E : Engine) (text written : String) : Except BuildError E.Regex :=
  match E.compile written with
  | some r => .ok r
  | none => .error (.invalidPattern text)

/-- The text of a pattern, the group whose text is asked for, and the pattern compiled with an anchor. -/
structure Compiled (E : Engine) where
  text : String
  group : Nat
  anchored : E.Regex

namespace Compiled

variable {E : Engine}

/-- Compile a pattern for matches at the start of a text. -/
def ofText (E : Engine) (text : String) (group : Nat) : Except BuildError (Compiled E) := do
  let plain ← E.read text text
  if E.groupCount plain ≤ group then throw (.missingGroup text group)
  let anchored ← E.read text ("^(?:" ++ text ++ ")")
  return ⟨text, group, anchored⟩

/-- The match at the start of a text: the number of characters it takes, and the text of the group
that is asked for, empty if it took no part. -/
def match? (p : Compiled E) (text : String) : Option (Nat × String) := do
  let captures ← E.captures p.anchored text
  let whole ← captures 0
  pure ((whole.text text).length, ((captures p.group).map (·.text text)).getD "")

end Compiled

end Triparse.Pattern
