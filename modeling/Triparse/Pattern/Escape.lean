import Triparse.Pattern.Node
import Triparse.Pattern.Reading
import Triparse.Property.Query

/-!
# Escapes

What a backslash begins: a character by its sign or its number, a class such as `\d`, a property `\p`
of characters, or a place that is looked for, such as `\b`.
-/

set_option autoImplicit false

namespace Triparse.Pattern

namespace Reader

/-- What an escape stands for. -/
inductive Escape where
  | literal (c : Char)
  /-- A character by two hexadecimal digits, which is a byte unless the flag `u` is on. -/
  | byte (c : Char)
  | set (s : CharSet)
  | look (l : Look)

/-- Whether a character has a meaning of its own in patterns. -/
def isMeta (c : Char) : Bool := "\\.+*?()|[]\x7b\x7d^$#&-~".toList.contains c

/-- Whether a character without a meaning of its own may be escaped. -/
def isEscapable (c : Char) : Bool :=
  c.toNat < 0x80 && !(Text.isDigit c || Text.isLetter c || c == '<' || c == '>')

/-- A class that a letter stands for, in the scripts that the flags admit. -/
def letterClass (unicode : Bool) : Char → Option CharSet
  | 'd' => some (if unicode then .table Text.decimalDigits else .range '0' '9')
  | 's' => some (if unicode then .table Text.blankChars else .ofRanges [('\t', '\r'), (' ', ' ')])
  | 'w' => some (.table (if unicode then Text.wordChars else Text.basicWordChars))
  | _ => none

/-- A set under the flags in force. -/
def underCase (s : CharSet) : Reader CharSet := do
  let flags := (← get).flags
  return if flags.caseless then s.caseless (!flags.unicode) else s

/-- A set or, if it is negated, the characters that are not in it; without the flag `u` these would
be bytes. Case counts before negation. -/
def negatedIf (negated : Bool) (s : CharSet) : Reader CharSet := do
  require (!negated || (← get).flags.unicode)
  return if negated then s.complement else s

/-- The parts of a text before and after the first `!=`; `before` holds what comes before it, latest
first. -/
def splitUnequal (before : List Char) : List Char → Option (List Char × List Char)
  | '!' :: '=' :: rest => some (before.reverse, rest)
  | c :: rest => splitUnequal (c :: before) rest
  | [] => none

/-- The parts of a text before and after the first of a sign. -/
def splitAtSign (sign : Char) (cs : List Char) : List Char × List Char :=
  (cs.takeWhile (· != sign), (cs.dropWhile (· != sign)).drop 1)

/-- The characters that a name in braces stands for. A name with one of the signs `!=`, `:` and `=`
is that of a property with a value; the three mean the same. -/
def property? (name : List Char) : Option Text.RangeTable :=
  match splitUnequal [] name with
  | some (property, value) => Property.findValue? property value
  | none =>
    match [':', '='].find? name.contains with
    | some sign =>
      let (property, value) := splitAtSign sign name
      Property.findValue? property value
    | none => Property.find? name

/-- The property after `\p` or, if `negated`, `\P`: a letter or a name in braces. -/
def propertySet (bound : Nat) (negated : Bool) : Reader CharSet := do
  advance
  let c ← peekSome
  let name ←
    if c == '\x7b' then do
      advance
      let name ← takeWhile (· != '\x7d') bound
      expect '\x7d'
      pure name
    else do
      require (c != '\\')
      bump
      pure [c]
  require (← get).flags.unicode
  match property? name with
  | some t => negatedIf negated (← underCase (.table t))
  | none => failure

/-- What follows `\b`: nothing, or the kind of boundary in braces. -/
def boundary (bound : Nat) (basic : Bool) : Reader Look := do
  let isKindChar := fun c => Text.isLetter c || c == '-'
  let before ← get
  if (← peek) != some '\x7b' then return .wordBoundary basic
  advance
  if !isKindChar (← peekSome) then
    set before
    return .wordBoundary basic
  let kind ← takeWhile isKindChar bound
  expect '\x7d'
  match String.ofList kind with
  | "start" => pure (.wordStart basic)
  | "end" => pure (.wordEnd basic)
  | "start-half" => pure (.wordStartHalf basic)
  | "end-half" => pure (.wordEndHalf basic)
  | _ => failure

/-- An escape, from its backslash on. -/
def escape (bound : Nat) : Reader Escape := do
  expect '\\'
  let c ← peekSome
  let unicode := (← get).flags.unicode
  match c with
  | 'x' =>
    advance
    let (c, braces) ← hex bound 2
    return if braces then .literal c else .byte c
  | 'u' => advance; return .literal (← hex bound 4).1
  | 'U' => advance; return .literal (← hex bound 8).1
  | 'p' => return .set (← propertySet bound false)
  | 'P' => return .set (← propertySet bound true)
  | _ => do
    bump
    if isMeta c || isEscapable c then return .literal c
    match letterClass unicode c, letterClass unicode c.toLower with
    | some s, _ => return .set s
    | none, some s => return .set (← negatedIf true s)
    | none, none =>
      match c with
      | 'a' => return .literal '\x07'
      | 'f' => return .literal '\x0c'
      | 't' => return .literal '\t'
      | 'n' => return .literal '\n'
      | 'r' => return .literal '\r'
      | 'v' => return .literal '\x0b'
      | 'A' => return .look .textStart
      | 'z' => return .look .textEnd
      | 'b' => return .look (← boundary bound (!unicode))
      | 'B' => return .look (.notWordBoundary (!unicode))
      | '<' => return .look (.wordStart (!unicode))
      | '>' => return .look (.wordEnd (!unicode))
      | _ => failure

end Reader

end Triparse.Pattern
