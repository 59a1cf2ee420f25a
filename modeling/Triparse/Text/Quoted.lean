import Triparse.Text.Printable

/-!
# Quoted text

Diagnostics quote pieces of text: a mark at both ends, short escapes for the common controls, the
quoting mark itself behind a backslash, and code points that do not print as `\u{hex}`.
-/

set_option autoImplicit false

namespace Triparse.Text

/-- A code point as an escape in lower-case hexadecimal. -/
def codeEscape (c : Char) : List Char :=
  ['\\', 'u', '\x7b'] ++ Nat.toDigits 16 c.toNat ++ ['\x7d']

/-- A character between quoting marks `mark`. -/
def escape (mark c : Char) : List Char :=
  if c = '\x00' then ['\\', '0']
  else if c = '\t' then ['\\', 't']
  else if c = '\n' then ['\\', 'n']
  else if c = '\r' then ['\\', 'r']
  else if c = '\\' ∨ c = mark then ['\\', c]
  else if isPrintable c then [c]
  else codeEscape c

/-- Characters between double quotes. -/
def quote (cs : List Char) : String :=
  String.ofList ('"' :: cs.flatMap (escape '"') ++ ['"'])

/-- A text between double quotes. -/
def quoteString (s : String) : String := quote s.toList

/-- A character between single quotes. -/
def quoteChar (c : Char) : String :=
  String.ofList ('\'' :: escape '\'' c ++ ['\''])

end Triparse.Text
