/-!
# Bytes in hexadecimal

A byte in writing is `0x` and two lower-case digits.
-/

set_option autoImplicit false

namespace Triparse.Text

/-- A byte as `0x` and two lower-case hexadecimal digits. -/
def hexByte (b : UInt8) : String :=
  String.ofList ['0', 'x', Nat.digitChar (b.toNat / 16), Nat.digitChar (b.toNat % 16)]

end Triparse.Text
