import Triparse.Proofs.Agreement
import Triparse.Proofs.Captures
import Triparse.Proofs.Congruence
import Triparse.Session

/-!
# Grammars on inputs with the same elements

If two inputs hold the same elements from corresponding places on (`Comparison.SameElements`), a grammar
answers the same on both, up to what the view leaves out: the same values, and failures that look alike
(`answer_agree`). The grammars are those that cannot bring into their values what the view leaves out
(`View.fragment`): with an offset they must not read cursors nor bring their own, and without quotes they
must not read quotes.
-/

set_option autoImplicit false

namespace Triparse

/-- The grammars whose values depend on nothing that the view leaves out. -/
def View.fragment (v : View) : Fragment where
  node
    | .mapReply .. => v.offset == 0
    | _ => true
  step
    | .recover _ => false
    | .position => v.offset == 0
    | .raise _ => v.offset == 0
    | .snippet => v.quotes
    | _ => true

/-- The inputs compared hold the same elements from corresponding places on. -/
def Comparison.SameElements (c : Comparison) : Prop :=
  ∀ n, c.left.source.suffix (c.offset + n) = c.right.source.suffix n

variable {c : Comparison} {α : Type}

theorem optionRel_eq : Option.Rel (Eq : α → α → Prop) = Eq := by
  funext x y
  cases x <;> cases y <;> simp

/-- The elements ahead are those of the suffix. -/
theorem Input.drop_elements [Element α] [LawfulElement α] (i : Input) (n : Nat) :
    (i.elements α).drop n = (Element.elements (i.source.suffix n)).getD [] := by
  rw [LawfulElement.suffix, Input.elements]
  cases Element.elements (α := α) i.source with
  | none => exact List.drop_nil
  | some xs => rfl

theorem Comparison.SameElements.drop_elements [Element α] [LawfulElement α] (hc : c.SameElements)
    (n : Nat) : (c.left.elements α).drop (c.offset + n) = (c.right.elements α).drop n := by
  rw [Input.drop_elements, Input.drop_elements, hc n]

theorem Comparison.SameElements.elements [Element α] [LawfulElement α] (hc : c.SameElements) :
    c.Elements (α := α) Eq := by
  intro n
  rw [hc.drop_elements, List.forall₂_eq_eq_eq]

/-! ## Equal values -/

namespace Parser.Agree

theorem sameList {p q : Parser (List α)} (h : Parser.Agree c (List.Forall₂ Eq) p q) :
    Parser.Agree c Eq p q := by
  rwa [List.forall₂_eq_eq_eq] at h

theorem mapSame {β : Type} {p q : Parser α} (h : Parser.Agree c Eq p q) (f : α → β) :
    Parser.Agree c Eq (p.map f) (q.map f) := h.map fun _ _ => congrArg f

theorem maybeSame {p q : Parser α} (h : Parser.Agree c Eq p q) :
    Parser.Agree c Eq (Parser.maybe p) (Parser.maybe q) := by
  rw [← optionRel_eq]
  exact h.maybe

theorem ignoreIfAbsentSame {p q : Parser (Option α)} (h : Parser.Agree c Eq p q) :
    Parser.Agree c Eq p.ignoreIfAbsent q.ignoreIfAbsent := by
  rw [← optionRel_eq] at h ⊢
  exact h.ignoreIfAbsent

theorem pickSame {p q : Parser (List α)} (h : Parser.Agree c Eq p q) (name expected : String)
    (select : List α → Option α) :
    Parser.Agree c Eq (p.pick name expected select) (q.pick name expected select) := by
  refine h.pick name expected ?_
  rintro xs _ rfl
  rw [optionRel_eq]

theorem seqSame {β : Type} {p q : Parser α} {p' q' : Parser β} (h : Parser.Agree c Eq p q)
    (h' : Parser.Agree c Eq p' q') : Parser.Agree c Eq (p.seq p') (q.seq q') := by
  refine (h.seq h').mono ?_
  rintro ⟨a, b⟩ ⟨a', b'⟩ ⟨ha, hb⟩
  exact Prod.ext ha hb

end Parser.Agree

namespace Rule.Agree

theorem bindSame {β : Type} {x y : Rule α} {f g : α → Rule β} (h : Rule.Agree c Eq x y)
    (hfg : ∀ a, Rule.Agree c Eq (f a) (g a)) : Rule.Agree c Eq (x >>= f) (y >>= g) := by
  refine h.bind ?_
  rintro a _ rfl
  exact hfg a

theorem attemptSame {p q : Parser α} (h : Parser.Agree c Eq p q) :
    Rule.Agree c Eq (Rule.attempt p) (Rule.attempt q) := by
  rw [← optionRel_eq]
  exact attempt h

end Rule.Agree

/-! ## Without an offset -/

theorem View.still_eq {v : View} (h : v.offset = 0) : v.still = v := by
  cases v
  cases h
  rfl

theorem Failure.Agree.refl {v : View} (h : v.offset = 0) (e : Failure) : e.Agree v e := by
  rw [Failure.Agree, View.still_eq h]

theorem Reply.Agree.here {v : View} (h : v.offset = 0) (n : Nat) (flag : Bool)
    {o o' : Except Failure α} (ho : Outcome.Agree v Eq o o') :
    Reply.Agree v Eq ⟨n, o, flag⟩ ⟨n, o', flag⟩ := by
  have hr := Reply.Agree.mk n flag ho
  rwa [h, Nat.zero_add] at hr

theorem ReplyMapper.apply_agree (h : c.offset = 0) (f : ReplyMapper) (n : Nat) (flag : Bool)
    (a : Value) :
    Reply.Agree c.toView Eq (f.apply c.left ⟨c.offset + n, .ok a, flag⟩)
      (f.apply c.right ⟨n, .ok a, flag⟩) := by
  rw [h, Nat.zero_add]
  cases f with
  | suppress => exact .here h n true (.ok rfl)
  | withCursor k => exact .here h k flag (.ok rfl)
  | advance d => exact .here h (n + d) flag (.ok rfl)
  | locate => exact .here h n flag (.ok rfl)
  | fail e => exact .here h n false (.error (.refl h e))
  | noMatch parser expected =>
    have he := c.noMatch (m := parser) (x := expected) rfl rfl n
    rw [h, Nat.zero_add] at he
    exact .here h n false (.error he)

/-! ## Primitives -/

namespace Parser

theorem elementWhere_agree [Element α] [LawfulElement α] (hc : c.SameElements)
    (name expected : String) (test : α → Bool) :
    Parser.Agree c Eq (elementWhere name expected test) (elementWhere name expected test) :=
  .elementWhere hc.elements name expected fun _ _ => congrArg test

theorem peek_agree [Element α] [LawfulElement α] (hc : c.SameElements) (count : Nat) :
    Parser.Agree c Eq (peek α count) (peek α count) :=
  (Parser.Agree.peek hc.elements count).sameList

theorem endOfInput_agree : Parser.Agree c Eq endOfInput endOfInput := by
  refine .of_parse rfl rfl rfl fun n _ => ?_
  dsimp only [endOfInput]
  rw [c.isEnd_eq]
  split
  · exact .pure (.succeed n rfl)
  · exact .pure (.fail n (c.noMatch rfl rfl n))

theorem succeedWith_agree (a : α) : Parser.Agree c Eq (succeedWith a) (succeedWith a) :=
  .described (.of_parse rfl rfl rfl fun n _ => .pure (.succeed n rfl)) _ _

theorem failWith_agree (message : String) :
    Parser.Agree c Eq (failWith (α := α) message) (failWith message) :=
  .described (.of_parse rfl rfl rfl fun n _ =>
    .pure (.fail n (.rejected c.toView "fail" n message))) _ _

theorem string_agree (hc : c.SameElements) (text : String) :
    Parser.Agree c Eq (string text) (string text) := by
  refine .of_parse rfl rfl rfl fun n _ => ?_
  have hn := hc n
  dsimp only [string]
  cases hl : c.left.source <;> cases hr : c.right.source <;>
    simp only [hl, hr, Source.suffix, reduceCtorEq, Source.characters.injEq, Source.bytes.injEq,
      Source.tokens.injEq] at hn
  · dsimp only
    rw [hn]
    exact .pure (Agree.literalReply _ _ n _ rfl _)
  · dsimp only
    rw [hn]
    exact .pure (Agree.literalReply _ _ n _ rfl _)
  · exact .pure (.fail n (c.badInput rfl _ n))

theorem bytes_agree (hc : c.SameElements) (wanted : List UInt8) :
    Parser.Agree c Eq (bytes wanted) (bytes wanted) := by
  refine .of_parse rfl rfl rfl fun n _ => ?_
  dsimp only [bytes]
  rw [hc.drop_elements]
  exact .pure (Agree.literalReply _ _ n _ rfl _)

theorem tokens_agree (hc : c.SameElements) (wanted : List Token) :
    Parser.Agree c Eq (tokens wanted) (tokens wanted) := by
  refine .of_parse rfl rfl rfl fun n _ => ?_
  dsimp only [tokens]
  rw [hc.drop_elements]
  exact .pure (Agree.literalReply _ _ n _ rfl _)

theorem regex_agree (hc : c.SameElements) {E : Pattern.Engine} (pattern : Pattern.Compiled E) :
    Parser.Agree c Eq (regex pattern) (regex pattern) := by
  refine .of_parse rfl rfl rfl fun n _ => ?_
  rw [parse_regex, parse_regex, hc.drop_elements]
  split
  · rename_i width text _
    rw [Nat.add_assoc]
    exact .pure (.succeed (n + width) rfl)
  · exact .pure (.fail n (c.noMatch rfl rfl n))

theorem binary_agree (hc : c.SameElements) (format : Binary.Format) :
    Parser.Agree c Eq (binary format) (binary format) := by
  refine .of_parse rfl rfl rfl fun n _ => ?_
  dsimp only [binary]
  rw [hc.drop_elements]
  split
  · exact .pure (.fail n (c.endOfInput rfl rfl n))
  · rw [Nat.add_assoc]
    exact .pure (.succeed (n + format.width) rfl)

theorem exactBinary_agree (hc : c.SameElements) (format : Binary.Format) (wanted : Int) :
    Parser.Agree c Eq (exactBinary format wanted) (exactBinary format wanted) := by
  refine .of_parse rfl rfl rfl fun n _ => ?_
  dsimp only [exactBinary]
  rw [hc.drop_elements]
  split
  · exact .pure (.fail n (c.endOfInput rfl rfl n))
  · split
    · rw [Nat.add_assoc]
      exact .pure (.succeed (n + format.width) rfl)
    · refine .pure (.fail n ?_)
      simp [Failure.Agree, Failure.seen]

theorem runOf_agree {p : Parser Char} (h : Parser.Agree c Eq p p) (bound : Nat) :
    Parser.Agree c Eq (runOf bound p) (runOf bound p) := (h.many bound _).sameList.mapSame _

theorem whitespace_agree (hc : c.SameElements) (bound : Nat) :
    Parser.Agree c Eq (whitespace bound) (whitespace bound) :=
  (runOf_agree (elementWhere_agree hc _ _ _) bound).described _ _

theorem primitive_agree (hc : c.SameElements) (bound : Nat) (p : Primitive) :
    Parser.Agree c Eq (p.parser bound) (p.parser bound) := by
  cases p with
  | string text => exact (string_agree hc text).mapSame _
  | bytes wanted => exact (bytes_agree hc wanted).mapSame _
  | byte wanted => exact ((bytes_agree hc _).mapSame _).mapSame _
  | tokens wanted => exact (tokens_agree hc wanted).mapSame _
  | token | tokenId | character | anyOf | charWhere =>
    exact (elementWhere_agree hc _ _ _).mapSame _
  | any shape => cases shape <;> exact (elementWhere_agree hc _ _ _).mapSame _
  | endOfInput => exact endOfInput_agree.mapSame _
  | peek shape count => cases shape <;> exact (peek_agree hc count).mapSame _
  | peekString count => exact ((peek_agree hc count).mapSame _).mapSame _
  | peekOne shape => cases shape <;> exact ((peek_agree hc 1).mapSame _).mapSame _
  | succeedWith value => exact succeedWith_agree value
  | failWith message => exact failWith_agree message
  | regex pattern => exact (regex_agree hc pattern).mapSame _
  | digit | letter => exact ((elementWhere_agree hc _ _ _).described _ _).mapSame _
  | digits | letters =>
    exact ((runOf_agree ((elementWhere_agree hc _ _ _).described _ _) bound).described _ _).mapSame _
  | whitespace => exact (whitespace_agree hc bound).mapSame _
  | optionalWhitespace => exact ((whitespace_agree hc bound).maybeSame.mapSame _).mapSame _
  | binary format => exact (binary_agree hc format).mapSame _
  | exactBinary format wanted => exact (exactBinary_agree hc format wanted).mapSame _

end Parser

/-! ## Grammars -/

/-- All combinators of the fragment pass agreement on. -/
theorem agree_congruent (hc : c.SameElements) (bound : Nat) :
    Congruent bound bound c.fragment (fun p q => Parser.Agree c Eq p q)
      (fun x y => Rule.Agree c Eq x y) where
  primitive _ := Parser.primitive_agree hc bound _
  choice := .choice
  sequence _ h := (Parser.Agree.sequence h).sameList
  many range h := (h.many bound range).sameList
  separatedBy range hs hv := (hs.separatedBy hv bound range).sameList
  times count h := (h.times count).sameList
  maybe := .maybeSame
  lookAhead _ := .lookAhead
  exceptChar := .anythingExcept hc.elements
  exceptByte := .anythingExcept hc.elements
  exceptToken := .anythingExcept hc.elements
  untilChar h := (Parser.Agree.everythingUntil hc.elements h).sameList
  untilByte h := (Parser.Agree.everythingUntil hc.elements h).sameList
  untilToken h := (Parser.Agree.everythingUntil hc.elements h).sameList
  map f h := h.mapSame f
  mapReply hf h := by
    refine h.mapReply ?_
    rintro n flag a _ rfl
    exact ReplyMapper.apply_agree (beq_iff_eq.1 hf) _ n flag a
  ignore := .ignore
  ignoreIfAbsent := .ignoreIfAbsentSame
  named name h := h.described name none
  label text h := h.label text
  pick name expected select h := h.pickSame name expected select
  seq _ := .seqSame
  tap _ h := h.tap _
  defined _ := .defined
  unfold _ he hd := .unfold he hd bound
  orphan _ := .orphan
  rule _ := Rule.Agree.ofRule
  pure _ := .pure rfl
  bind := .bindSame
  step := .step
  attempt := .attemptSame
  reject _ := .reject _
  loop hp hb := .loop hp hb bound
  recover h := nomatch h
  position h := by
    refine Rule.Agree.position.mono ?_
    rintro _ n rfl
    rw [beq_iff_eq.1 h, Nat.zero_add]
  atEnd _ := .inspect c.isEnd_eq
  remaining _ := .inspect c.remaining_eq
  snippet h := by
    refine .inspect fun n => ?_
    have hs := c.snippet_eq n
    simpa only [View.quote, show c.quotes = true from h, if_true] using hs
  raise h := .abort (.refl (beq_iff_eq.1 h) _)

/-- **A grammar answers the same on inputs with the same elements**, as far as the view goes. -/
theorem answer_agree (hc : c.SameElements) {F : Fragment}
    (hn : ∀ g, F.node g = true → c.fragment.node g = true)
    (hs : ∀ s, F.step s = true → c.fragment.step s = true) {g : Grammar} (hg : F.admits g = true)
    (bound : Nat) (address : Address) (n : Nat) :
    ((g.parser bound [] address).execute c.left (c.offset + n)).answer?.map (Reply.seen c.still) =
      ((g.parser bound [] address).execute c.right n).answer?.map (Reply.seen c.toView) := by
  have h :=
    ((agree_congruent hc bound).weaken hn hs).parser g hg (.nil .orphan _) address address
  exact ((h.execute n).mono fun _ _ => Reply.Agree.seen_eq).map_answer?

end Triparse
