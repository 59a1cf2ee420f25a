import Triparse.Text.RangeTable

/-!
# Character classes

Blank characters are those with the whitespace property; digits and letters are the basic ones.
-/

set_option autoImplicit false

namespace Triparse.Text

/-- The code points with the whitespace property. -/
def blankChars : RangeTable :=
  [(0x9, 0xD), (0x20, 0x20), (0x85, 0x85), (0xA0, 0xA0), (0x1680, 0x1680), (0x2000, 0x200A),
    (0x2028, 0x2029), (0x202F, 0x202F), (0x205F, 0x205F), (0x3000, 0x3000)]

example : blankChars.count = 25 := by decide

/-- Whether a character is blank. -/
def isBlank (c : Char) : Bool := blankChars.contains c.toNat

/-- Whether a character is one of the digits 0 to 9. -/
def isDigit (c : Char) : Bool := '0' ≤ c && c ≤ '9'

/-- Whether a character is one of the letters A to Z and a to z. -/
def isLetter (c : Char) : Bool := ('A' ≤ c && c ≤ 'Z') || ('a' ≤ c && c ≤ 'z')

end Triparse.Text
