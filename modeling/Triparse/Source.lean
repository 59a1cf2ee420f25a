import Triparse.Modality
import Triparse.Token
import Triparse.Settings
import Triparse.Text.Hex
import Triparse.Text.Quoted

/-!
# Sources

The input of a parse: a list of elements of one of the three shapes (`Source`), addressed by the
index of an element. A snippet renders the elements at an index for diagnostics: text is quoted and
followed by an ellipsis if some of it is left out (`Snippet.quoted`); bytes and tokens are listed
and followed by a mark that tells whether the list reaches the end (`Snippet.listed`).
-/

set_option autoImplicit false

namespace Triparse

/-! ## Snippets -/

namespace Snippet

/-- At most `width` characters from `index` on, in quotes. -/
def quoted (chars : List Char) (index width : Nat) : String :=
  if chars.length ≤ index then "end of input"
  else
    let shown := Text.quote ((chars.drop index).take width)
    if width < chars.length - index then shown ++ "..." else shown

/-- At most `width` elements from `index` on, listed after `word`. -/
def listed {α : Type} (word : String) (render : α → String) (elements : List α)
    (index width : Nat) : String :=
  let shown := ((elements.drop index).take width).map render
  let mark := if elements.length ≤ index + width then "*END*" else "..."
  word ++ " " ++ String.intercalate ", " (shown ++ [mark])

/-- A snippet of text. -/
def ofChars : List Char → Nat → Nat → String := quoted

/-- A snippet of bytes. -/
def ofBytes : List UInt8 → Nat → Nat → String := listed "bytes" Text.hexByte

/-- A snippet of tokens. -/
def ofTokens : List Token → Nat → Nat → String := listed "tokens" Token.render

end Snippet

/-! ## Sources -/

/-- The input of a parse. -/
inductive Source where
  | characters (chars : List Char)
  | bytes (bytes : List UInt8)
  | tokens (tokens : List Token)
deriving DecidableEq, Repr

namespace Source

/-- The shape of a source. -/
def modality : Source → Modality
  | .characters _ => .characters
  | .bytes _ => .bytes
  | .tokens _ => .tokens

/-- The number of elements. -/
def length : Source → Nat
  | .characters cs => cs.length
  | .bytes bs => bs.length
  | .tokens ts => ts.length

/-- Whether an index is at the end of the source or past it. -/
def isEnd (s : Source) (index : Nat) : Bool := s.length ≤ index

/-- The source that holds the elements from `index` on. -/
def suffix : Source → Nat → Source
  | .characters cs, i => .characters (cs.drop i)
  | .bytes bs, i => .bytes (bs.drop i)
  | .tokens ts, i => .tokens (ts.drop i)

/-- The elements at an index, rendered in the width that the settings give. -/
def snippet : Source → Settings → Nat → String
  | .characters cs, settings, i => Snippet.ofChars cs i settings.charWidth
  | .bytes bs, settings, i => Snippet.ofBytes bs i settings.elementWidth
  | .tokens ts, settings, i => Snippet.ofTokens ts i settings.elementWidth

@[simp] theorem modality_suffix (s : Source) (i : Nat) : (s.suffix i).modality = s.modality := by
  cases s <;> rfl

@[simp] theorem length_suffix (s : Source) (i : Nat) : (s.suffix i).length = s.length - i := by
  cases s <;> simp [suffix, length]

@[simp] theorem isEnd_iff {s : Source} {i : Nat} : s.isEnd i = true ↔ s.length ≤ i := by
  simp [isEnd]

end Source

/-! ## Element types -/

/-- A type of elements that sources of one shape are made of. -/
class Element (α : Type) where
  modality : Modality
  elements : Source → Option (List α)

instance : Element Char where
  modality := .characters
  elements
    | .characters cs => some cs
    | _ => none

instance : Element UInt8 where
  modality := .bytes
  elements
    | .bytes bs => some bs
    | _ => none

instance : Element Token where
  modality := .tokens
  elements
    | .tokens ts => some ts
    | _ => none

end Triparse
