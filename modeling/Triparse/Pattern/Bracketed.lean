import Triparse.Pattern.Escape

/-!
# Bracketed classes

Sets of characters in brackets: single ones, ranges, escapes, named classes such as `[:alpha:]`,
classes in classes, and the operations `&&`, `--` and `~~` on all that stands on their two sides.

A class counts how deep it nests, because a pattern may nest only so deep.
-/

set_option autoImplicit false

namespace Triparse.Pattern

namespace Reader

/-- One character or escape in a class. -/
def classItem (bound : Nat) : Reader Escape := do
  let c ← peekSome
  if c == '\\' then escape bound
  else
    bump
    return .literal c

/-- A character in a class; without the flag `u` only a basic one. -/
def classChar (c : Char) : Reader Char := do
  require ((← get).flags.unicode || c.toNat < 0x80)
  return c

/-- An item of a class as a set of its own. -/
def itemSet : Escape → Reader CharSet
  | .literal c => return .single (← classChar c)
  | .byte c => return .single (← classChar c)
  | .set s => pure s
  | .look _ => failure

/-- An item of a class as an end of a range. -/
def itemEnd : Escape → Reader Char
  | .literal c => classChar c
  | .byte c => classChar c
  | _ => failure

/-- A named class such as `[:alpha:]`, if there is one. -/
def namedClass : Reader (Option CharSet) := do
  let before ← get
  if ← takeText "[:" then
    let negated ← takeText "^"
    let r ← get
    let name := r.rest.takeWhile (· != ':')
    set { r with rest := r.rest.drop name.length }
    if ← takeText ":]" then
      match CharSet.named? (String.ofList name) with
      | some s => return some (← negatedIf negated (← underCase s))
      | none => pure ()
  set before
  return none

/-- The first character of a pattern that is not blank, less the mark of one comment: what stands in
the comment is looked at. -/
def firstInView (inComment : Bool) : List Char → Option Char
  | [] => none
  | c :: cs =>
    if Text.isBlank c then firstInView inComment cs
    else if c == '#' && !inComment then firstInView true cs
    else some c

/-- The next character after this one; under the flag `x`, the first in view there is. -/
def peekPast : Reader (Option Char) := do
  let r ← get
  let rest := r.rest.drop 1
  return (if r.flags.verbose then firstInView false rest else none) <|> rest.head?

/-- An item of a class or a range between two. -/
def classRange (bound : Nat) : Reader CharSet := do
  let first ← classItem bound
  skipBlank
  let c ← peekSome
  let past ← peekPast
  if c != '-' || past == some ']' || past == some '-' then itemSet first
  else
    advance
    discard peekSome
    let last ← classItem bound
    let a ← itemEnd first
    let b ← itemEnd last
    require (a ≤ b)
    return .range a b

/-- A set operation in a class. -/
inductive SetOp where
  | intersection
  | difference
  | symmetricDifference

/-- The items of a class that have been read: their union, how many there are, and how deep the
deepest is. -/
structure Items where
  set : CharSet := .empty
  count : Nat := 0
  deepest : Nat := 0

/-- Items and one more. -/
def Items.add (items : Items) (s : CharSet) (depth : Nat := 0) : Items :=
  ⟨if items.count == 0 then s else items.set.union s, items.count + 1, max items.deepest depth⟩

/-- How deep items nest; several items are one level more. -/
def Items.depth (items : Items) : Nat :=
  if items.count ≤ 1 then items.deepest else items.deepest + 1

/-- An operation on the operand before it, if there is one, and the items after it: the set, and how
deep it nests. -/
def combine (pending : Option (CharSet × Nat × SetOp)) (items : Items) : Reader (CharSet × Nat) := do
  match pending with
  | none => pure (items.set, items.depth)
  | some (lhs, depth, op) =>
    let lhs ← underCase lhs
    let rhs ← underCase items.set
    let set := match op with
      | .intersection => CharSet.intersection lhs rhs
      | .difference => CharSet.difference lhs rhs
      | .symmetricDifference => CharSet.symmetricDifference lhs rhs
    pure (set, max depth items.depth + 1)

/-- An operand before an operation. -/
def operand (pending : Option (CharSet × Nat × SetOp)) (items : Items) (op : SetOp) :
    Reader (Option (CharSet × Nat × SetOp)) := do
  let (set, depth) ← combine pending items
  return some (set, depth, op)

/-- Hyphens, which are literal at the beginning of a class. -/
def hyphens : Nat → Items → Reader Items
  | 0, _ => failure
  | bound + 1, items => do
    if (← peekSome) == '-' then
      advance
      hyphens bound (items.add (.single '-'))
    else pure items

mutual

/-- A bracketed class, from its bracket on, and how deep it nests. -/
def bracketed : Nat → Reader (CharSet × Nat)
  | 0 => failure
  | bound + 1 => do
    expect '['
    skipBlank
    let negated := (← peekSome) == '^'
    if negated then advance
    let leading ← hyphens (bound + 1) {}
    let leading ←
      if leading.count == 0 && (← peekSome) == ']' then do
        advance
        pure (leading.add (.single ']'))
      else pure leading
    discard peekSome
    let (set, depth) ← classBody bound none leading
    return (← negatedIf negated (← underCase set), depth + 1)

/-- The items of a class up to its closing bracket; `items` are those of the operand being read. -/
def classBody : Nat → Option (CharSet × Nat × SetOp) → Items → Reader (CharSet × Nat)
  | 0, _, _ => failure
  | bound + 1, pending, items => do
    skipBlank
    let c ← peekSome
    if c == '[' then
      match ← namedClass with
      | some s => classBody bound pending (items.add s)
      | none => do
        let (s, depth) ← bracketed bound
        classBody bound pending (items.add s depth)
    else if c == ']' then
      bump
      combine pending items
    else if ← takeText "&&" then
      classBody bound (← operand pending items .intersection) {}
    else if ← takeText "--" then
      classBody bound (← operand pending items .difference) {}
    else if ← takeText "~~" then
      classBody bound (← operand pending items .symmetricDifference) {}
    else do
      let s ← classRange (bound + 1)
      classBody bound pending (items.add s)

end

end Reader

end Triparse.Pattern
