import Triparse.Pattern.CharSet

/-!
# Patterns as trees

A pattern is a tree of characters to take, places to hold at, groups, sequences, alternatives and
repetitions. Of two ways to match, the one that is written first is preferred; a repetition prefers
another round if it is greedy, and to stop if it is lazy.
-/

set_option autoImplicit false

namespace Triparse.Pattern

/-- A condition on a place between two characters. The places of lines take either a line feed alone
or, if `anyBreak` is set, also a carriage return and the two together as the end of a line. -/
inductive Look where
  | textStart
  | textEnd
  | lineStart (anyBreak : Bool)
  | lineEnd (anyBreak : Bool)
  | wordBoundary (basic : Bool)
  | notWordBoundary (basic : Bool)
  | wordStart (basic : Bool)
  | wordEnd (basic : Bool)
  | wordStartHalf (basic : Bool)
  | wordEndHalf (basic : Bool)
deriving DecidableEq, Repr

namespace Look

/-- Whether there is a word character on a side of a place. -/
def wordAt (basic : Bool) : Option Char → Bool
  | none => false
  | some c => Text.isWord basic c

/-- Whether a condition holds between the character before a place and the one after it. -/
def holds (before after : Option Char) : Look → Bool
  | textStart => before.isNone
  | textEnd => after.isNone
  | lineStart anyBreak =>
    before.isNone || before == some '\n' ||
      (anyBreak && before == some '\r' && after != some '\n')
  | lineEnd anyBreak =>
    after.isNone || (after == some '\n' && !(anyBreak && before == some '\r')) ||
      (anyBreak && after == some '\r')
  | wordBoundary b => wordAt b before != wordAt b after
  | notWordBoundary b => wordAt b before == wordAt b after
  | wordStart b => !wordAt b before && wordAt b after
  | wordEnd b => wordAt b before && !wordAt b after
  | wordStartHalf b => !wordAt b before
  | wordEndHalf b => !wordAt b after

end Look

/-- A pattern. -/
inductive Node where
  | empty
  | take (set : CharSet)
  | look (l : Look)
  | group (index : Nat) (inner : Node)
  | concat (parts : List Node)
  | alternate (branches : List Node)
  | loop (inner : Node) (min : Nat) (max : Option Nat) (greedy : Bool)

namespace Node

mutual

/-- Whether a pattern can match without taking a character. -/
def nullable : Node → Bool
  | empty => true
  | take _ => false
  | look _ => true
  | group _ n => n.nullable
  | concat ns => allNullable ns
  | alternate ns => anyNullable ns
  | loop n min _ _ => min == 0 || n.nullable

/-- Whether all of the parts can match without taking a character. -/
def allNullable : List Node → Bool
  | [] => true
  | n :: ns => n.nullable && allNullable ns

/-- Whether one of the branches can match without taking a character. -/
def anyNullable : List Node → Bool
  | [] => false
  | n :: ns => n.nullable || anyNullable ns

end

mutual

/-- Whether a pattern never takes a character. -/
def takesNothing : Node → Bool
  | empty => true
  | take _ => false
  | look _ => true
  | group _ n => n.takesNothing
  | concat ns => allTakeNothing ns
  | alternate ns => allTakeNothing ns
  | loop n _ max _ => max == some 0 || n.takesNothing

/-- Whether none of the patterns takes a character. -/
def allTakeNothing : List Node → Bool
  | [] => true
  | n :: ns => n.takesNothing && allTakeNothing ns

end

mutual

/-- One more than the greatest number of a group; the whole match is group 0. -/
def groupCount : Node → Nat
  | empty => 1
  | take _ => 1
  | look _ => 1
  | group i n => max (i + 1) n.groupCount
  | concat ns => maxGroupCount ns
  | alternate ns => maxGroupCount ns
  | loop n _ _ _ => n.groupCount

/-- The greatest of the group counts of patterns. -/
def maxGroupCount : List Node → Nat
  | [] => 1
  | n :: ns => max n.groupCount (maxGroupCount ns)

end

/-- A repetition. One that takes nothing is tried at most once; no rounds are no pattern at all, so
that groups in it do not count; one round is the pattern itself. -/
def repetition (n : Node) (min : Nat) (max : Option Nat) (greedy : Bool) : Node :=
  let (min, max) :=
    if n.takesNothing then (Nat.min min 1, some (Nat.min (max.getD 1) 1)) else (min, max)
  match min, max with
  | 0, some 0 => empty
  | 1, some 1 => n
  | _, _ => loop n min max greedy

end Node

end Triparse.Pattern
