import Triparse.Parser.Element
import Triparse.Parser.Optional
import Triparse.Parser.Repetition
import Triparse.Text.CharClass

/-!
# Runs of characters of one class
-/

set_option autoImplicit false

namespace Triparse.Parser

/-- A digit. -/
def digit : Parser Char := (charWhere "a digit" Text.isDigit).named "digit"

/-- A letter. -/
def letter : Parser Char := (charWhere "a letter" Text.isLetter).named "letter"

/-- One or more of what `p` matches, as a text. -/
def runOf (bound : Nat) (p : Parser Char) : Parser String :=
  (many bound (.atLeast 1) p).map String.ofList

/-- One or more digits. -/
def digits (bound : Nat) : Parser String := (runOf bound digit).named "digits"

/-- One or more letters. -/
def letters (bound : Nat) : Parser String := (runOf bound letter).named "letters"

/-- One or more blank characters. -/
def whitespace (bound : Nat) : Parser String :=
  (runOf bound (charWhere "whitespace" Text.isBlank)).named "whitespace"

/-- The blank characters that there are. -/
def optionalWhitespace (bound : Nat) : Parser String :=
  (maybe (whitespace bound)).valueIfAbsent ""

end Triparse.Parser
