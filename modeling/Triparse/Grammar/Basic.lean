import Triparse.Grammar.Primitive

/-!
# Grammars

A grammar is data: primitives put together by combinators, with names for recursion and with
step-by-step rules. What it means as a parser is said elsewhere.

References are lexically scoped, and an inner definition of a name hides an outer one. The
references to a name defined by `fix` all stand for one instance; those to a name defined by
`recursive` are each an instance of their own.
-/

set_option autoImplicit false

namespace Triparse

mutual

/-- A parser as data. -/
inductive Grammar where
  | primitive (p : Primitive)
  /-- The first alternative that matches. -/
  | choice (alternatives : List Grammar)
  /-- All elements in order. -/
  | sequence (elements : List Grammar)
  /-- Matches one after another. -/
  | many (range : Repetition) (inner : Grammar)
  /-- Values with separators between them. -/
  | separated (range : Repetition) (separator value : Grammar)
  /-- A fixed number of matches. -/
  | times (inner : Grammar) (count : Nat)
  /-- A match or none. -/
  | maybe (inner : Grammar)
  /-- A match that is not consumed. -/
  | lookAhead (inner : Grammar)
  /-- One element where the probe does not match. -/
  | anythingExcept (shape : Modality) (probe : Grammar)
  /-- The elements up to where the probe matches. -/
  | everythingUntil (shape : Modality) (probe : Grammar)
  /-- The text up to where the probe matches. -/
  | stringUntil (probe : Grammar)
  /-- An optional value with a default. -/
  | valueIfAbsent (inner : Grammar) (default : Value)
  /-- An optional value that collections leave out if it is absent. -/
  | ignoreIfAbsent (inner : Grammar)
  /-- A value of a list by its index. -/
  | nth (inner : Grammar) (index : Nat)
  /-- The last value of a list. -/
  | last (inner : Grammar)
  /-- The texts of a list with a separator between them. -/
  | join (inner : Grammar) (separator : String)
  | map (inner : Grammar) (f : Mapper)
  | mapReply (inner : Grammar) (f : ReplyMapper)
  /-- A match that collections leave out. -/
  | ignore (inner : Grammar)
  | named (inner : Grammar) (name : String)
  | label (inner : Grammar) (expected : String)
  /-- Two values, one after the other. -/
  | seq (first second : Grammar)
  /-- Two parts, one after the other, and the value of the first. -/
  | skip (kept skipped : Grammar)
  /-- Two parts, one after the other, and the value of the second. -/
  | skipLeft (skipped kept : Grammar)
  /-- A recursive definition whose references share one instance. -/
  | fix (name : String) (body : Grammar)
  /-- A recursive definition whose references are instances of their own. -/
  | recursive (name : String) (traced : Bool) (body : Grammar)
  /-- A reference to the definition of a name. -/
  | ref (name : String)
  /-- A reference whose definition is gone. -/
  | orphan
  /-- A grammar whose executions are events. -/
  | tap (label : String) (inner : Grammar)
  /-- A rule, step by step; its value is the list of what its steps collect. -/
  | rule (body : List Stmt)

/-- A step of a rule. -/
inductive Stmt where
  /-- Run a grammar and collect its value. -/
  | step (g : Grammar)
  /-- Run a grammar and collect its value, if its text is of at most `limit` characters. -/
  | limited (g : Grammar) (limit : Nat) (message : String)
  /-- Try a grammar and collect an optional value. -/
  | attempt (g : Grammar)
  /-- Run a grammar; if it fails, collect what the failure says. -/
  | recover (g : Grammar)
  /-- Collect the position. -/
  | position
  /-- Collect whether the position is at the end. -/
  | atEnd
  /-- Collect the number of elements left. -/
  | remaining
  /-- Collect the input at the position, quoted. -/
  | snippet
  /-- Abandon the rule with a message. -/
  | reject (message : String)
  /-- Abandon the rule with a failure. -/
  | raise (failure : Failure)
  /-- End the rule with what has been collected. -/
  | finish
  /-- Try a grammar; collect its value and go on in one way, or go on in the other. -/
  | when (g : Grammar) (matched failed : List Stmt)
  /-- As long as a grammar matches and the position moves, collect its value and do the body. -/
  | loop (g : Grammar) (body : List Stmt)

end

instance : Inhabited Grammar := ⟨.orphan⟩

instance : Inhabited Stmt := ⟨.finish⟩

namespace Grammar

/-! ## Derived forms -/

/-- A part between two others, and its value. -/
def between (before after value : Grammar) : Grammar := skip (skipLeft before value) after

/-- The first of two alternatives that matches. -/
def or (g h : Grammar) : Grammar := choice [g, h]

/-- The first value of a list. -/
def first (g : Grammar) : Grammar := nth g 0

/-- Any number of matches. -/
def anyNumber (g : Grammar) : Grammar := many .any g

/-- A text. -/
def string (text : String) : Grammar := primitive (.string text)

/-- A character. -/
def character (c : Char) : Grammar := primitive (.character c)

/-- A fixed value. -/
def succeedWith (v : Value) : Grammar := primitive (.succeedWith v)

/-- The text that a pattern, or a group of it, matches. -/
def regex? (pattern : String) (group : Nat) : Except BuildError Grammar := do
  return primitive (.regex (← Pattern.Compiled.ofText Pattern.engine pattern group))

/-- A binary number of a given width. -/
def binary? (width : Nat) (sign : Sign) (endian : Endian) : Except BuildError Grammar := do
  return primitive (.binary (← Binary.Format.make width sign endian))

/-- A given binary number of a given width. -/
def exactBinary? (width : Nat) (sign : Sign) (endian : Endian) (wanted : Int) :
    Except BuildError Grammar := do
  return primitive (.exactBinary (← Binary.Format.make width sign endian) wanted)

end Grammar

end Triparse
