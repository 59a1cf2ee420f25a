import Triparse.Parser.Basic
import Triparse.Pattern.Engine
import Triparse.Text.Index

/-!
# Patterns as parsers
-/

set_option autoImplicit false

namespace Triparse.Parser

/-- The text that a pattern matches at the cursor, or that of one of its groups. The rest of the
input is a text of its own for the pattern; the cursor moves past the characters of the whole match. -/
def regex {E : Pattern.Engine} (pattern : Pattern.Compiled E) : Parser String where
  name := "regex"
  expected := "string matching pattern " ++ Text.quoteString pattern.text
  accepts := .only .characters
  parse input cursor :=
    let text := String.ofList (input.elements Char)
    match pattern.match? ((Text.Index.ofString text).textFrom cursor) with
    | some (width, text) => pure (.succeed (cursor + width) text)
    | none =>
      pure (.fail cursor (input.noMatch cursor "regex"
        ("string matching pattern " ++ Text.quoteString pattern.text)))

end Triparse.Parser
