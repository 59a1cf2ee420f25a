import Triparse.Parser.Mapping

/-!
# Literals

A literal matches a fixed run of elements. The length is tested first: input that is too short for
the literal is the end of input, whatever it holds.
-/

set_option autoImplicit false

namespace Triparse.Parser

/-- How the input at a cursor compares with a literal. -/
inductive LiteralMatch where
  | matched
  | tooShort
  | different
deriving DecidableEq, Repr

/-- Compare the elements from a cursor on with those wanted, under `eq`. -/
def compareLiteral {α : Type} (eq : α → α → Bool) (input wanted : List α) : LiteralMatch :=
  if input.length < wanted.length then .tooShort
  else if (input.zip wanted).all fun (a, b) => eq a b then .matched
  else .different

/-- The reply of a literal: on a match, `value` after `width` elements. -/
def literalReply {α : Type} (name expected : String) (input : Input) (cursor width : Nat)
    (value : α) : LiteralMatch → Reply α
  | .matched => .succeed (cursor + width) value
  | .tooShort => .fail cursor (input.endOfInput cursor name expected)
  | .different => .fail cursor (input.noMatch cursor name expected)

/-- A text, or on byte input its UTF-8 encoding. -/
def string (text : String) : Parser String where
  name := "string"
  expected := "string " ++ Text.quoteString text
  accepts := ⟨true, true, false⟩
  parse input cursor :=
    let expected := "string " ++ Text.quoteString text
    match input.source with
    | .characters cs =>
      let found := compareLiteral (· == ·) (cs.drop cursor) text.toList
      pure (literalReply "string" expected input cursor text.length text found)
    | .bytes bs =>
      let wanted := text.toUTF8.toList
      let found := compareLiteral (· == ·) (bs.drop cursor) wanted
      pure (literalReply "string" expected input cursor wanted.length text found)
    | .tokens _ => pure (.fail cursor (input.badInput cursor "string" ⟨true, true, false⟩))

/-- A run of bytes. -/
def bytes (wanted : List UInt8) : Parser (List UInt8) where
  name := "bytes"
  expected := "bytes [" ++ String.intercalate ", " (wanted.map Text.hexByte) ++ "]"
  accepts := .only .bytes
  parse input cursor :=
    let expected := "bytes [" ++ String.intercalate ", " (wanted.map Text.hexByte) ++ "]"
    let found := compareLiteral (· == ·) ((input.elements UInt8).drop cursor) wanted
    pure (literalReply "bytes" expected input cursor wanted.length wanted found)

/-- One byte. -/
def byte (wanted : UInt8) : Parser UInt8 := (bytes [wanted]).map fun _ => wanted

/-- A run of tokens, compared by identifier; the value is the tokens of the input. -/
def tokens (wanted : List Token) : Parser (List Token) where
  name := "tokens"
  expected := "tokens [" ++ String.intercalate ", " (wanted.map Token.id) ++ "] (ignoring data)"
  accepts := .only .tokens
  parse input cursor :=
    let expected :=
      "tokens [" ++ String.intercalate ", " (wanted.map Token.id) ++ "] (ignoring data)"
    let rest := (input.elements Token).drop cursor
    let found := compareLiteral Token.sameId rest wanted
    pure (literalReply "tokens" expected input cursor wanted.length (rest.take wanted.length) found)

end Triparse.Parser
