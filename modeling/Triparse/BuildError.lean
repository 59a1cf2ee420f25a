import Triparse.Text.Quoted

/-!
# Faulty grammars

What can be wrong with a grammar before any input is read.
-/

set_option autoImplicit false

namespace Triparse

/-- Why a grammar cannot be built. -/
inductive BuildError where
  /-- The text is no pattern. -/
  | invalidPattern (pattern : String)
  /-- The pattern has no capture group of that number. -/
  | missingGroup (pattern : String) (group : Nat)
  /-- Binary numbers have 1 to 8 bytes. -/
  | unsupportedWidth (width : Nat)
deriving DecidableEq, Repr

namespace BuildError

/-- A fault in words. -/
def message : BuildError → String
  | invalidPattern pattern => "invalid regular expression: " ++ pattern
  | missingGroup pattern group =>
    "pattern " ++ Text.quoteString pattern ++ " has no capture group " ++ group.repr
  | unsupportedWidth width =>
    "unsupported binary width " ++ width.repr ++ ", use 1 to 8 bytes"

end BuildError

end Triparse
