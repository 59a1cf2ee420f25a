import Triparse.Grammar.Mapper
import Triparse.Parser.CharRun
import Triparse.Parser.Constant
import Triparse.Parser.Literal
import Triparse.Parser.Number
import Triparse.Parser.Regex
import Triparse.Pattern.Matching

/-!
# Primitives of grammars

The parsers that have no grammars for parts, as data, and what each of them is as a parser of values
(`Primitive.parser`).
-/

set_option autoImplicit false

namespace Triparse

/-- A parser without parts. -/
inductive Primitive where
  | string (text : String)
  | bytes (wanted : List UInt8)
  | byte (wanted : UInt8)
  | tokens (wanted : List Token)
  | token (wanted : Token)
  | tokenId (id : String)
  | character (wanted : Char)
  | anyOf (choices : String)
  | charWhere (description : String) (test : CharTest)
  | any (shape : Modality)
  | endOfInput
  | peek (shape : Modality) (count : Nat)
  | peekString (count : Nat)
  | peekOne (shape : Modality)
  | succeedWith (value : Value)
  | failWith (message : String)
  | regex (pattern : Pattern.Compiled Pattern.engine)
  | digit
  | digits
  | letter
  | letters
  | whitespace
  | optionalWhitespace
  | binary (format : Binary.Format)
  | exactBinary (format : Binary.Format) (wanted : Int)

namespace Primitive

open Value (ofOption ofList)

/-- A primitive as a parser. -/
def parser (bound : Nat) : Primitive → Parser Value
  | string text => (Parser.string text).map .str
  | bytes wanted => (Parser.bytes wanted).map (ofList .byte)
  | byte wanted => (Parser.byte wanted).map .byte
  | tokens wanted => (Parser.tokens wanted).map (ofList .token)
  | token wanted => (Parser.token wanted).map .token
  | tokenId id => (Parser.tokenId id).map .token
  | character wanted => (Parser.character wanted).map .char
  | anyOf choices => (Parser.anyOf choices).map .char
  | charWhere description test => (Parser.charWhere description test.holds).map .char
  | any .characters => (Parser.any Char).map .char
  | any .bytes => (Parser.any UInt8).map .byte
  | any .tokens => (Parser.any Token).map .token
  | endOfInput => Parser.endOfInput.map fun _ => .unit
  | peek .characters count => (Parser.peek Char count).map (ofList .char)
  | peek .bytes count => (Parser.peek UInt8 count).map (ofList .byte)
  | peek .tokens count => (Parser.peek Token count).map (ofList .token)
  | peekString count => (Parser.peekString count).map .str
  | peekOne .characters => (Parser.peekOne Char).map fun o => ofOption (o.map .char)
  | peekOne .bytes => (Parser.peekOne UInt8).map fun o => ofOption (o.map .byte)
  | peekOne .tokens => (Parser.peekOne Token).map fun o => ofOption (o.map .token)
  | succeedWith value => Parser.succeedWith value
  | failWith message => Parser.failWith message
  | regex pattern => (Parser.regex pattern).map .str
  | digit => Parser.digit.map .char
  | digits => (Parser.digits bound).map .str
  | letter => Parser.letter.map .char
  | letters => (Parser.letters bound).map .str
  | whitespace => (Parser.whitespace bound).map .str
  | optionalWhitespace => (Parser.optionalWhitespace bound).map .str
  | binary format => (Parser.binary format).map .int
  | exactBinary format wanted => (Parser.exactBinary format wanted).map .int

end Primitive

end Triparse
