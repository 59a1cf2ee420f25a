/-!
# Settings

How much of the input a failure quotes. Only diagnostics depend on settings.
-/

set_option autoImplicit false

namespace Triparse

/-- The widths of snippets: in characters for text, in elements for bytes and tokens. -/
structure Settings where
  charWidth : Nat := 10
  elementWidth : Nat := 8
deriving DecidableEq, Repr

end Triparse
