import Triparse.Grammar.Primitive
import Triparse.Proofs.Captures
import Triparse.Proofs.Elements

/-!
# What primitives do

A *plain* parser answers at once, and in one of three ways: it matches within reach, it quotes what stands
where it was started, or it says how much of the input is left there (`Reply.Plain`). All primitives are put
together from plain parsers by four combinators, but for one that fails with a message of the grammar and
one that quotes a number in place of the input. So what holds of plain parsers and is passed on by these
combinators holds of every primitive, if it holds of those two (`Primitive.parser_of_plain`).
-/

set_option autoImplicit false

namespace Triparse

variable {α β : Type}

/-- The cursors that a success may reach from `start`: none before it, and none past the end but
`start` itself. -/
def Input.Reach (i : Input) (start stop : Nat) : Prop :=
  start ≤ stop ∧ stop ≤ max start i.source.length

namespace Input.Reach

variable {i : Input} {a b c : Nat}

theorem refl (i : Input) (a : Nat) : i.Reach a a := ⟨Nat.le_refl a, Nat.le_max_left _ _⟩

theorem trans (h : i.Reach a b) (h' : i.Reach b c) : i.Reach a c := by
  obtain ⟨hab, hb⟩ := h
  obtain ⟨hbc, hc⟩ := h'
  exact ⟨by omega, by omega⟩

/-- A move by at most the number of elements left. -/
theorem add {n : Nat} (h : n ≤ i.remaining a) : i.Reach a (a + n) := by
  rw [Input.remaining] at h
  exact ⟨by omega, by omega⟩

end Input.Reach

/-- What a plain parser that is started at `start` answers. -/
inductive Reply.Plain (input : Input) (start : Nat) : Reply α → Prop
  | matched {stop : Nat} (h : input.Reach start stop) (a : α) : Plain input start (.succeed stop a)
  | different (parser expected : String) :
      Plain input start (.fail start (input.noMatch start parser expected))
  | short (parser expected : String) :
      Plain input start (.fail start (input.endOfInput start parser expected))

/-- A parser that answers at once, on input of the shapes that it accepts, and plainly. -/
def Parser.Plain (p : Parser α) : Prop :=
  ∀ input start, input.modality ∈ p.accepts → ∃ r, p.parse input start = pure r ∧ r.Plain input start

namespace Parser

/-! ## Plain parsers -/

theorem length_le_of_matched {eq : β → β → Bool} {xs wanted : List β}
    (h : compareLiteral eq xs wanted = .matched) : wanted.length ≤ xs.length := by
  unfold compareLiteral at h
  split at h
  · cases h
  · omega

namespace Plain

variable {input : Input} {start : Nat}

theorem elementWhere [Element α] [LawfulElement α] (name expected : String) (test : α → Bool) :
    (elementWhere name expected test).Plain := by
  intro input start _
  dsimp only [Parser.elementWhere]
  split
  · rename_i element he
    split
    · exact ⟨_, rfl, .matched (.add (input.one_le_remaining he)) element⟩
    · exact ⟨_, rfl, .different _ _⟩
  · exact ⟨_, rfl, .short _ _⟩

theorem peek (α : Type) [Element α] (count : Nat) : (peek α count).Plain :=
  fun input start _ => ⟨_, rfl, .matched (.refl input start) _⟩

theorem endOfInput : endOfInput.Plain := by
  intro input start _
  dsimp only [Parser.endOfInput]
  split
  · exact ⟨_, rfl, .matched (.refl input start) ()⟩
  · exact ⟨_, rfl, .different _ _⟩

theorem ofFunction_succeed (a : α) : (ofFunction fun _ cursor => pure (.succeed cursor a)).Plain :=
  fun input start _ => ⟨_, rfl, .matched (.refl input start) a⟩

/-- The reply of a literal whose elements, if they match, are elements left. -/
theorem literalReply {width : Nat} {found : LiteralMatch}
    (h : found = .matched → width ≤ input.remaining start) (name expected : String) (a : α) :
    (literalReply name expected input start width a found).Plain input start := by
  cases found with
  | matched => exact .matched (.add (h rfl)) a
  | tooShort => exact .short _ _
  | different => exact .different _ _

theorem string (text : String) : (string text).Plain := by
  intro input start hm
  dsimp only [Parser.string]
  split
  · rename_i cs hcs
    refine ⟨_, rfl, literalReply (fun h => ?_) _ _ _⟩
    have hl := length_le_of_matched h
    simp only [List.length_drop, String.length_toList] at hl
    simpa [Input.remaining, hcs, Source.length] using hl
  · rename_i bs hbs
    refine ⟨_, rfl, literalReply (fun h => ?_) _ _ _⟩
    have hl := length_le_of_matched h
    rw [List.length_drop] at hl
    simpa [Input.remaining, hbs, Source.length] using hl
  · rename_i ts hts
    -- Tokens are no shape that a text is read from.
    rw [Input.modality, hts] at hm
    cases hm

/-- A literal of the elements ahead. -/
theorem literal [Element β] [LawfulElement β] {eq : β → β → Bool} {wanted : List β}
    (name expected : String) (a : α) :
    (Parser.literalReply name expected input start wanted.length a
      (compareLiteral eq ((input.elements β).drop start) wanted)).Plain input start :=
  literalReply (fun h =>
    Nat.le_trans (length_le_of_matched h) (input.length_drop_elements_le start)) _ _ _

theorem bytes (wanted : List UInt8) : (bytes wanted).Plain :=
  fun _ _ _ => ⟨_, rfl, literal _ _ _⟩

theorem tokens (wanted : List Token) : (tokens wanted).Plain :=
  fun _ _ _ => ⟨_, rfl, literal _ _ _⟩

theorem regex {E : Pattern.Engine} (pattern : Pattern.Compiled E) : (regex pattern).Plain := by
  intro input start _
  rw [parse_regex]
  split
  · rename_i width text hm
    have hw := Nat.le_trans (Pattern.Compiled.width_le_of_match hm) (input.length_drop_elements_le start)
    exact ⟨_, rfl, .matched (.add hw) text⟩
  · exact ⟨_, rfl, .different _ _⟩

theorem width_le_remaining {format : Binary.Format}
    (h : ¬ (((input.elements UInt8).drop start).take format.width).length < format.width) :
    format.width ≤ input.remaining start := by
  rw [List.length_take] at h
  have := input.length_drop_elements_le (α := UInt8) start
  omega

theorem binary (format : Binary.Format) : (binary format).Plain := by
  intro input start _
  dsimp only [Parser.binary]
  split
  · exact ⟨_, rfl, .short _ _⟩
  · rename_i hl
    exact ⟨_, rfl, .matched (.add (width_le_remaining hl)) _⟩

end Plain

end Parser

/-! ## Primitives -/

section

variable {P : {α : Type} → Parser α → Prop} {bound : Nat}
  (plain : ∀ {α : Type} {p : Parser α}, p.Plain → P p)
  (map : ∀ {α β : Type} {p : Parser α} (f : α → β), P p → P (p.map f))
  (described : ∀ {α : Type} {p : Parser α} (name : String) (label : Option String), P p →
    P (p.described name label))
  (maybe : ∀ {α : Type} {p : Parser α}, P p → P p.maybe)
  (many : ∀ {p : Parser Char} (range : Repetition), P p → P (Parser.many bound range p))

include plain map described maybe many

/-- What plain parsers have, and what the combinators in primitives pass on, is had by every primitive, if
it is had by the parsers of the two that are not put together from plain ones. -/
theorem Primitive.parser_of_plain (p : Primitive)
    (refuse : ∀ message, p = .failWith message →
      P (Parser.ofFunction (α := Value) fun _ cursor =>
        pure (.fail cursor (.rejected "fail" cursor message))))
    (number : ∀ format wanted, p = .exactBinary format wanted →
      P (Parser.exactBinary format wanted)) : P (p.parser bound) := by
  have runOf {p : Parser Char} (h : P p) (name : String) (label : Option String) :
      P ((Parser.runOf bound p).described name label) := described _ _ (map _ (many _ h))
  cases p with
  | string text => exact map _ (plain (.string text))
  | bytes wanted => exact map _ (plain (.bytes wanted))
  | byte wanted => exact map _ (map _ (plain (.bytes _)))
  | tokens wanted => exact map _ (plain (.tokens wanted))
  | token | tokenId | character | anyOf | charWhere => exact map _ (plain (.elementWhere _ _ _))
  | any shape => cases shape <;> exact map _ (plain (.elementWhere _ _ _))
  | endOfInput => exact map _ (plain .endOfInput)
  | peek shape count => cases shape <;> exact map _ (plain (.peek _ count))
  | peekString count => exact map _ (map _ (plain (.peek _ count)))
  | peekOne shape => cases shape <;> exact map _ (map _ (plain (.peek _ 1)))
  | succeedWith value => exact described _ _ (plain (.ofFunction_succeed value))
  | failWith message => exact described _ _ (refuse message rfl)
  | regex pattern => exact map _ (plain (.regex pattern))
  | digit | letter => exact map _ (described _ _ (plain (.elementWhere _ _ _)))
  | digits | letters => exact map _ (runOf (described _ _ (plain (.elementWhere _ _ _))) _ _)
  | whitespace => exact map _ (runOf (plain (.elementWhere _ _ _)) _ _)
  | optionalWhitespace => exact map _ (map _ (maybe (runOf (plain (.elementWhere _ _ _)) _ _)))
  | binary format => exact map _ (plain (.binary format))
  | exactBinary format wanted => exact map _ (number format wanted rfl)

end

end Triparse
