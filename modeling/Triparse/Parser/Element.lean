import Triparse.Parser.Mapping

/-!
# Single elements

Parsers for one element of the input, for the elements ahead, and for the end of the input.
-/

set_option autoImplicit false

namespace Triparse.Parser

variable {α : Type}

/-- One element that satisfies a test. -/
def elementWhere [Element α] (name expected : String) (test : α → Bool) : Parser α where
  name := name
  expected := expected
  accepts := .only (Element.modality α)
  parse input cursor :=
    match (input.elements α)[cursor]? with
    | some element =>
      if test element then pure (.succeed (cursor + 1) element)
      else pure (.fail cursor (input.noMatch cursor name expected))
    | none => pure (.fail cursor (input.endOfInput cursor name expected))

/-- One character that satisfies a test. -/
def charWhere (description : String) (test : Char → Bool) : Parser Char :=
  elementWhere "char_where" description test

/-- One given character. -/
def character (wanted : Char) : Parser Char :=
  elementWhere "character" ("character " ++ Text.quoteChar wanted) (· == wanted)

/-- Any one of the characters of a text. -/
def anyOf (choices : String) : Parser Char :=
  elementWhere "any_of" ("one of " ++ Text.quoteString choices) choices.toList.contains

/-- One token with the identifier of the given one. -/
def token (wanted : Token) : Parser Token :=
  elementWhere "token" ("token " ++ wanted.render ++ " (ignoring data)") (·.sameId wanted)

/-- One token with an identifier. -/
def tokenId (id : String) : Parser Token := token (.dataless id)

/-- One element, whatever it is. -/
def any (α : Type) [Element α] : Parser α :=
  elementWhere "any" ("any element of " ++ (Element.modality α).describe) fun _ => true

/-- Up to `count` elements ahead, without moving. -/
def peek (α : Type) [Element α] (count : Nat) : Parser (List α) where
  name := "peek"
  expected := "up to " ++ count.repr ++ " elements of " ++ (Element.modality α).describe
  accepts := .only (Element.modality α)
  parse input cursor := pure (.succeed cursor (((input.elements α).drop cursor).take count))

/-- Up to `count` characters ahead, as a text. -/
def peekString (count : Nat) : Parser String := (peek Char count).map String.ofList

/-- The element ahead, if there is one. -/
def peekOne (α : Type) [Element α] : Parser (Option α) := (peek α 1).map List.head?

/-- Nothing, at the end of the input. -/
def endOfInput : Parser Unit where
  name := "end_of_input"
  expected := "end of input"
  accepts := .univ
  parse input cursor :=
    if input.isEnd cursor then pure (.succeed cursor ())
    else pure (.fail cursor (input.noMatch cursor "end_of_input" "end of input"))

end Triparse.Parser
