import Triparse.Pattern.Bracketed
import Triparse.Text.NameChar

/-!
# Reading patterns

Patterns in writing: alternatives with `|`, repetition with `* + ? {n} {n,} {n,m}` and a `?` behind
for the lazy form, groups `( )`, `(?: )`, `(?P<name> )`, flags `(?i)` and `(?i: )`, bracketed classes,
escapes, and the anchors `^ $ \b \B \A \z`.

Groups, repetitions, sequences, alternatives, bracketed classes and what is in these nest at most 250
deep. The readers of groups and classes nest as the pattern does, so they are given a bound on the
number of steps; `Node.read?` starts them with one that no pattern of the length exceeds.
-/

set_option autoImplicit false

namespace Triparse.Pattern

namespace Reader

/-! ## Flags and groups -/

/-- The flags with one of them switched. -/
def setFlag (flags : Flags) (on : Bool) : Char → Option Flags
  | 'i' => some { flags with caseless := on }
  | 'm' => some { flags with multiLine := on }
  | 's' => some { flags with dotAll := on }
  | 'U' => some { flags with swapGreed := on }
  | 'u' => some { flags with unicode := on }
  | 'R' => some { flags with crlf := on }
  | 'x' => some { flags with verbose := on }
  | _ => none

/-- Flags up to a colon or a closing parenthesis: the flags as they are switched, and whether there
were any. `seen` holds the letters before, `negated` whether there was a minus sign and whether it
was the last one. -/
def flagLetters : Nat → Flags → List Char → Option Bool → Reader (Flags × Bool)
  | 0, _, _, _ => failure
  | bound + 1, flags, seen, negated => do
    let c ← peekSome
    if c == ':' || c == ')' then
      require (negated != some true)
      pure (flags, !seen.isEmpty)
    else if c == '-' then
      require negated.isNone
      bump
      flagLetters bound flags seen (some true)
    else
      require (!seen.contains c)
      match setFlag flags negated.isNone c with
      | none => failure
      | some flags =>
        bump
        flagLetters bound flags (c :: seen) (negated.map fun _ => false)

/-- Whether a character may stand in the name of a group. -/
def isNameChar (first : Bool) (c : Char) : Bool :=
  c == '_' || Text.isAlphabetic c ||
    (!first && (Text.isNumeric c || c == '.' || c == '[' || c == ']'))

/-- The name of a group up to its closing bracket; no two groups have one name. -/
def groupName : Reader Unit := do
  let r ← get
  let name := r.rest.takeWhile (· != '>')
  require (match name with
    | [] => false
    | c :: cs => isNameChar true c && cs.all (isNameChar false))
  let name := String.ofList name
  require (!r.names.contains name)
  set { r with rest := r.rest.drop name.length, names := name :: r.names }
  expect '>'

/-- The sign in front of the name of a group, if there is one. -/
def nameSign : Reader Bool := do
  if ← takeText "?P<" then pure true
  else takeText "?<"

/-- How a group begins. -/
inductive Opening where
  | capture (index : Nat)
  | plain (flags : Flags)
  | flagsOnly (flags : Flags)

/-- The beginning of a group, from its parenthesis on. -/
def opening (bound : Nat) : Reader Opening := do
  expect '('
  skipBlank
  for lookaround in ["?=", "?!", "?<=", "?<!"] do
    if ← takeText lookaround then failure
  let nextGroup : Reader Nat := do
    let r ← get
    set { r with groups := r.groups + 1 }
    pure (r.groups + 1)
  if ← nameSign then
    let index ← nextGroup
    groupName
    return .capture index
  else if ← takeText "?" then
    let (flags, some?) ← flagLetters bound (← get).flags [] none
    if (← peek) == some ')' then
      require some?
      bump
      return .flagsOnly flags
    else
      expect ':'
      return .plain flags
  else return .capture (← nextGroup)

/-! ## Repetition -/

/-- The range of a counted repetition, from its brace on. -/
def counts (bound : Nat) : Reader (Nat × Option Nat) := do
  expect '\x7b'
  skipBlank
  discard peekSome
  let min ← decimal bound
  let range ←
    if (← peekSome) == ',' then do
      advance
      if (← peekSome) == '\x7d' then pure (min, none)
      else do
        let max ← decimal bound
        pure (min, some max)
    else pure (min, some min)
  require ((← peek) == some '\x7d')
  advance
  require (match range.2 with
    | some max => min ≤ max
    | none => true)
  pure range

/-- The question mark of a lazy repetition, if there is one: whether the repetition is greedy. -/
def greed : Reader Bool := do
  let lazy ← takeText "?"
  return lazy == (← get).flags.swapGreed

/-! ## Patterns -/

/-- A part of a pattern and how deep it nests; flags have no pattern of their own. -/
structure Piece where
  node? : Option Node
  depth : Nat := 0

/-- The pattern of a piece. -/
def Piece.node (p : Piece) : Node := p.node?.getD .empty

/-- A character that stands for itself. Without the flag `u`, only basic letters have a case. -/
def literal (c : Char) : Reader Node := do
  let flags := (← get).flags
  let variants := if flags.caseless then caseVariants (!flags.unicode) c.toNat else []
  return .take (variants.foldl (fun s n => s.union (.single (Char.ofNat n))) (.single c))

/-- What an escape stands for, as a pattern. -/
def escapeNode : Escape → Reader Node
  | .literal c => literal c
  | .byte c => do literal (← classChar c)
  | .set s => pure (.take s)
  | .look l => pure (.look l)

/-- The dot: any character, or any that does not end a line. -/
def dot : Reader Node := do
  let flags := (← get).flags
  require flags.unicode
  return .take (if flags.dotAll then .any
    else if flags.crlf then .complement ((CharSet.single '\n').union (.single '\r'))
    else .complement (.single '\n'))

/-- The anchors of a line or a text. -/
def anchor (line : Bool → Look) (text : Look) : Reader Node := do
  let flags := (← get).flags
  return .look (if flags.multiLine then line flags.crlf else text)

/-- Pieces one after the other, given latest first. -/
def inSequence (pieces : List Piece) : Piece :=
  match pieces with
  | [] => ⟨some .empty, 0⟩
  | [p] => p
  | _ =>
    ⟨some (.concat (pieces.reverse.filterMap (·.node?))), (pieces.map (·.depth)).foldl max 0 + 1⟩

/-- Alternatives, of which there may be one. -/
def inChoice (branches : List Piece) : Piece :=
  match branches with
  | [p] => p
  | _ => ⟨some (.alternate (branches.map (·.node))), (branches.map (·.depth)).foldl max 0 + 1⟩

/-- The latest piece repeated. -/
def repeatLast (pieces : List Piece) (min : Nat) (max : Option Nat) (greedy : Bool) :
    Reader (List Piece) :=
  match pieces with
  | ⟨some n, depth⟩ :: rest => pure (⟨some (n.repetition min max greedy), depth + 1⟩ :: rest)
  | _ => failure

mutual

/-- Alternatives, up to the end of the group. -/
def alternatives : Nat → Reader (List Piece)
  | 0 => failure
  | bound + 1 => do
    let first ← pieces bound []
    if (← peek) == some '|' then
      bump
      return first :: (← alternatives bound)
    else pure [first]

/-- Pieces up to the end of the alternative; `done` holds those before, latest first. -/
def pieces : Nat → List Piece → Reader Piece
  | 0, _ => failure
  | bound + 1, done => do
    skipBlank
    match ← peek with
    | none => pure (inSequence done)
    | some ')' => pure (inSequence done)
    | some '|' => pure (inSequence done)
    | some '(' =>
      match ← opening (bound + 1) with
      | .flagsOnly flags =>
        modify fun r => { r with flags := flags }
        pieces bound (⟨none, 0⟩ :: done)
      | .plain flags =>
        let inner ← grouped bound flags
        pieces bound (⟨some inner.node, inner.depth + 1⟩ :: done)
      | .capture index =>
        let inner ← grouped bound (← get).flags
        pieces bound (⟨some (.group index inner.node), inner.depth + 1⟩ :: done)
    | some '[' =>
      let (s, depth) ← bracketed (bound + 1)
      pieces bound (⟨some (.take s), depth⟩ :: done)
    | some '*' =>
      bump
      pieces bound (← repeatLast done 0 none (← greed))
    | some '+' =>
      bump
      pieces bound (← repeatLast done 1 none (← greed))
    | some '?' =>
      bump
      pieces bound (← repeatLast done 0 (some 1) (← greed))
    | some '\x7b' =>
      let (min, max) ← counts (bound + 1)
      pieces bound (← repeatLast done min max (← greed))
    | some '\\' =>
      let n ← escapeNode (← escape (bound + 1))
      pieces bound (⟨some n, 0⟩ :: done)
    | some '.' =>
      bump
      pieces bound (⟨some (← dot), 0⟩ :: done)
    | some '^' =>
      bump
      pieces bound (⟨some (← anchor .lineStart .textStart), 0⟩ :: done)
    | some '$' =>
      bump
      pieces bound (⟨some (← anchor .lineEnd .textEnd), 0⟩ :: done)
    | some c =>
      bump
      pieces bound (⟨some (← literal c), 0⟩ :: done)

/-- The inside of a group under the given flags, and its closing parenthesis; the flags before the
group are in force after it. -/
def grouped : Nat → Flags → Reader Piece
  | 0, _ => failure
  | bound + 1, flags => do
    let outer := (← get).flags
    modify fun r => { r with flags := flags }
    let inner ← alternatives bound
    expect ')'
    modify fun r => { r with flags := outer }
    pure (inChoice inner)

end

end Reader

/-- How deep patterns may nest. -/
def maxDepth : Nat := 250

/-- The pattern that a text writes, if it writes one. -/
def Node.read? (text : String) : Option Node :=
  match (Reader.alternatives (4 * text.length + 8)).run { rest := text.toList } with
  | some (branches, r) =>
    let whole := Reader.inChoice branches
    if r.rest.isEmpty && whole.depth ≤ maxDepth then some whole.node else none
  | none => none

end Triparse.Pattern
