import Triparse.Binary
import Triparse.Parser.Basic

/-!
# Binary numbers in byte input
-/

set_option autoImplicit false

namespace Triparse.Parser

open Binary (Format decode)

/-- What the failure of a binary number that is too short expects. -/
def bytesWanted (format : Format) : String := format.width.repr ++ " binary bytes"

/-- An integer in words. -/
def numberWords (n : Int) : String := "number " ++ n.repr ++ " in binary"

/-- A binary number. -/
def binary (format : Format) : Parser Int where
  name := "binary"
  expected := bytesWanted format
  accepts := .only .bytes
  parse input cursor :=
    let bs := ((input.elements UInt8).drop cursor).take format.width
    if bs.length < format.width then
      pure (.fail cursor (input.endOfInput cursor "binary" (bytesWanted format)))
    else pure (.succeed (cursor + format.width) (decode bs format.sign format.endian))

/-- One given binary number. -/
def exactBinary (format : Format) (wanted : Int) : Parser Int where
  name := "exact_binary"
  expected := numberWords wanted
  accepts := .only .bytes
  parse input cursor :=
    let bs := ((input.elements UInt8).drop cursor).take format.width
    let value := decode bs format.sign format.endian
    if bs.length < format.width then
      pure (.fail cursor (input.endOfInput cursor "exact_binary" (bytesWanted format)))
    else if value = wanted then pure (.succeed (cursor + format.width) value)
    else
      pure (.fail cursor
        (.noMatch "exact_binary" cursor (numberWords wanted) (numberWords value)))

end Triparse.Parser
