import Triparse.Parser.Mapping

/-!
# Parsers that look at nothing
-/

set_option autoImplicit false

namespace Triparse.Parser

variable {α : Type}

/-- Succeed with a value where it stands. -/
def succeedWith (value : α) : Parser α :=
  (ofFunction fun _ cursor => pure (.succeed cursor value)).named "succeed_with"

/-- Fail with a message. -/
def failWith (message : String) : Parser α :=
  (ofFunction fun _ cursor =>
    pure (.fail cursor (.rejected "fail" cursor message))).named "fail"

end Triparse.Parser
