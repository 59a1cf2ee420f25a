import Triparse.Text.CharClass

/-!
# Reading a pattern step by step

A reading step takes what it reads off the rest of the pattern, or fails. Here are the state that the
steps share, the steps that take single characters, and those that take numbers. Under the flag `x`,
blank characters and comments do not count.
-/

set_option autoImplicit false

namespace Triparse.Pattern

/-- The flags in force at a place of a pattern. -/
structure Flags where
  caseless : Bool := false
  multiLine : Bool := false
  dotAll : Bool := false
  swapGreed : Bool := false
  unicode : Bool := true
  verbose : Bool := false
  crlf : Bool := false
deriving DecidableEq, Repr

/-- The state of a reader: the rest of the pattern, the flags in force, how many groups have begun,
and the names of groups. -/
structure Reading where
  rest : List Char
  flags : Flags := {}
  groups : Nat := 0
  names : List String := []
deriving DecidableEq, Repr

/-- A step of reading. -/
abbrev Reader (α : Type) := StateT Reading Option α

namespace Reader

/-! ## Characters -/

/-- A pattern less the blank characters and comments that it starts with. -/
def skipVerbose (inComment : Bool) : List Char → List Char
  | [] => []
  | c :: cs =>
    if inComment then skipVerbose (c != '\n') cs
    else if c == '#' then skipVerbose true cs
    else if Text.isBlank c then skipVerbose false cs
    else c :: cs

/-- The next character, if there is one. -/
def peek : Reader (Option Char) := do
  return (← get).rest.head?

/-- The next character; at the end of the pattern the reading fails. -/
def peekSome : Reader Char := do
  match ← peek with
  | some c => pure c
  | none => failure

/-- Take one character. -/
def bump : Reader Unit :=
  modify fun r => { r with rest := r.rest.drop 1 }

/-- Under the flag `x`, take blank characters and comments. -/
def skipBlank : Reader Unit :=
  modify fun r => if r.flags.verbose then { r with rest := skipVerbose false r.rest } else r

/-- Take one character, and then what does not count. -/
def advance : Reader Unit := do
  bump
  skipBlank

/-- Take a text if the pattern goes on with it. -/
def takeText (text : String) : Reader Bool := do
  let r ← get
  if text.toList.isPrefixOf r.rest then
    set { r with rest := r.rest.drop text.length }
    pure true
  else pure false

/-- Fail unless a condition holds. -/
def require (condition : Bool) : Reader Unit := if condition then pure () else failure

/-- Take the given character, or fail. -/
def expect (c : Char) : Reader Unit := do
  require ((← peek) == some c)
  bump

/-- Take characters as long as they pass a test, and after each what does not count. -/
def takeWhile (test : Char → Bool) : Nat → Reader (List Char)
  | 0 => failure
  | bound + 1 => do
    match ← peek with
    | some c =>
      if test c then
        advance
        return c :: (← takeWhile test bound)
      else pure []
    | none => pure []

/-! ## Numbers -/

/-- A decimal number of at most 32 bits, blank characters around it not counting. -/
def decimal (bound : Nat) : Reader Nat := do
  modify fun r => { r with rest := r.rest.dropWhile Text.isBlank }
  let digits ← takeWhile Text.isDigit bound
  discard (takeWhile Text.isBlank bound)
  require (!digits.isEmpty)
  let n := digits.foldl (fun n c => n * 10 + (c.toNat - 48)) 0
  require (n < Nat.pow 2 32)
  pure n

/-- The value of a hexadecimal digit. -/
def hexDigit? (c : Char) : Option Nat :=
  if '0' ≤ c && c ≤ '9' then some (c.toNat - 48)
  else if 'a' ≤ c && c ≤ 'f' then some (c.toNat - 87)
  else if 'A' ≤ c && c ≤ 'F' then some (c.toNat - 55)
  else none

/-- The character that hexadecimal digits stand for. -/
def hexChar (digits : List Char) : Reader Char := do
  require (!digits.isEmpty)
  let n := digits.foldl (fun n c => n * 16 + (hexDigit? c).getD 0) 0
  if n.isValidChar then pure (Char.ofNat n) else failure

/-- A given number of hexadecimal digits. -/
def hexDigits : Nat → Reader (List Char)
  | 0 => pure []
  | count + 1 => do
    let c ← peekSome
    require (hexDigit? c).isSome
    advance
    return c :: (← hexDigits count)

/-- The hexadecimal digits after `\x`, `\u` or `\U`: `width` of them, or any number in braces, and
whether there are braces. -/
def hex (bound width : Nat) : Reader (Char × Bool) := do
  if (← peekSome) == '\x7b' then
    advance
    let digits ← takeWhile (fun c => (hexDigit? c).isSome) bound
    require ((← peek) == some '\x7d')
    advance
    return (← hexChar digits, true)
  else return (← hexChar (← hexDigits width), false)

end Reader

end Triparse.Pattern
