/-!
# Tokens

A token is a pre-lexed unit of input: an identifier and an optional payload. Matching looks at the
identifier alone (`Token.sameId`); the payload rides along.
-/

set_option autoImplicit false

namespace Triparse

/-- A pre-lexed unit of input. -/
structure Token where
  id : String
  data : Option String
deriving DecidableEq, Repr

namespace Token

/-- A token without a payload. -/
def dataless (id : String) : Token := ⟨id, none⟩

/-- The notion of equality that matching uses: payloads do not count. -/
def sameId (a b : Token) : Bool := a.id == b.id

/-- A token in writing: its identifier, and its payload in parentheses if it has one. -/
def render (t : Token) : String :=
  match t.data with
  | some data => t.id ++ "(" ++ data ++ ")"
  | none => t.id

@[simp] theorem sameId_iff {a b : Token} : a.sameId b = true ↔ a.id = b.id := by
  simp [sameId]

end Token

end Triparse
