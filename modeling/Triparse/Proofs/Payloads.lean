import Triparse.Proofs.SettingsIndependence

/-!
# Payloads of tokens

Matching looks at the identifiers of tokens alone. But payloads ride along into values, and there are
nodes that look at values: how many a list has, and whether an option is there. So two runs on tokens
with the same identifiers are compared by the outlines of their values (`Value.outline`), which keep
options, lists and pairs and nothing at the leaves. Every mapper respects outlines
(`Value.Alike.mapper`), every primitive does the same on both inputs (`Primitive.parser_alike`), and so
the two runs answer the same, but for payloads in values and in the texts of what was found
(`execute_payloads`).
-/

set_option autoImplicit false

namespace Triparse

/-! ## Outlines of values -/

namespace Value

mutual

/-- The options, lists and pairs of a value, with nothing at the leaves. -/
def outline : Value → Value
  | absent => absent
  | present v => present v.outline
  | list vs => list (outlines vs)
  | pair a b => pair a.outline b.outline
  | _ => unit

/-- The outlines of values. -/
def outlines : List Value → List Value
  | [] => []
  | v :: vs => v.outline :: outlines vs

end

theorem outlines_eq_map (vs : List Value) : outlines vs = vs.map outline := by
  induction vs with
  | nil => rfl
  | cons v vs ih => rw [outlines, ih, List.map_cons]

theorem asList_outline (v : Value) : v.outline.asList = v.asList.map outline := by
  cases v <;> simp [outline, asList, outlines_eq_map]

theorem asOption_outline (v : Value) : v.outline.asOption = v.asOption.map outline := by
  cases v <;> rfl

/-- Values with the same outline. -/
def Alike (v w : Value) : Prop := v.outline = w.outline

theorem forall₂_alike {vs ws : List Value} :
    List.Forall₂ Alike vs ws ↔ vs.map outline = ws.map outline := by
  rw [← List.forall₂_eq_eq_eq, List.forall₂_map_left_iff, List.forall₂_map_right_iff]
  rfl

theorem optionRel_alike {x y : Option Value} :
    Option.Rel Alike x y ↔ x.map outline = y.map outline := by
  cases x <;> cases y <;> simp [Alike]

theorem alike_list {vs ws : List Value} : (list vs).Alike (list ws) ↔ List.Forall₂ Alike vs ws := by
  rw [forall₂_alike, ← outlines_eq_map, ← outlines_eq_map]
  exact list.injEq _ _ ▸ Iff.rfl

namespace Alike

variable {v w : Value}

theorem asList (h : v.Alike w) : List.Forall₂ Alike v.asList w.asList := by
  rw [forall₂_alike, ← asList_outline, ← asList_outline, h]

theorem asOption (h : v.Alike w) : Option.Rel Alike v.asOption w.asOption := by
  rw [optionRel_alike, ← asOption_outline, ← asOption_outline, h]

theorem ofOption {x y : Option Value} (h : Option.Rel Alike x y) :
    (ofOption x).Alike (ofOption y) := by
  cases h with
  | none => rfl
  | some hv => exact congrArg present hv

theorem ofPair {x y : Value × Value} (h : x.1.Alike y.1 ∧ x.2.Alike y.2) :
    (ofPair x).Alike (ofPair y) := congrArg₂ pair h.1 h.2

/-- Lists as long as each other are alike whatever leaves they hold. -/
theorem ofList {α : Type} {R : α → α → Prop} (f : α → Value)
    (hf : ∀ a b, R a b → (f a).Alike (f b)) {xs ys : List α} (h : List.Forall₂ R xs ys) :
    (ofList f xs).Alike (ofList f ys) := by
  refine alike_list.2 ?_
  rw [List.forall₂_map_left_iff, List.forall₂_map_right_iff]
  exact h.imp hf

theorem getElem? {vs ws : List Value} (h : List.Forall₂ Alike vs ws) (index : Nat) :
    Option.Rel Alike vs[index]? ws[index]? := by
  rw [forall₂_alike] at h
  rw [optionRel_alike, ← List.getElem?_map, ← List.getElem?_map, h]

theorem getLast? {vs ws : List Value} (h : List.Forall₂ Alike vs ws) :
    Option.Rel Alike vs.getLast? ws.getLast? := by
  rw [forall₂_alike] at h
  rw [optionRel_alike, ← List.getLast?_map, ← List.getLast?_map, h]

theorem getD {x y : Option Value} (h : Option.Rel Alike x y) (default : Value) :
    (x.getD default).Alike (y.getD default) := by
  cases h with
  | none => rfl
  | some hv => exact hv

/-- Mappers keep values alike: those that look into the leaves make leaves. -/
theorem mapper (h : v.Alike w) (f : Mapper) : (f.apply v).Alike (f.apply w) := by
  cases f with
  | const _ | number | sum | product | depth | text => rfl
  | length =>
    have hl (u : Value) : (Mapper.length.apply u).outline = unit := by cases u <;> rfl
    rw [Alike, hl, hl]
  | reverse => exact alike_list.2 (List.rel_reverse h.asList)

end Alike

end Value

open Value (Alike)

/-! ## Tokens with the same identifiers -/

/-- Tokens with the same identifier. -/
def Token.Alike (a b : Token) : Prop := a.id = b.id

theorem Token.Alike.sameId {a b : Token} (h : a.Alike b) (wanted : Token) :
    a.sameId wanted = b.sameId wanted := by
  rw [Token.sameId, Token.sameId, show a.id = b.id from h]

theorem Parser.compareLiteral_congr {xs ys : List Token} (h : List.Forall₂ Token.Alike xs ys)
    (wanted : List Token) :
    compareLiteral Token.sameId xs wanted = compareLiteral Token.sameId ys wanted := by
  have hz : ((xs.zip wanted).all fun (a, b) => a.sameId b) =
      (ys.zip wanted).all fun (a, b) => a.sameId b := by
    induction h generalizing wanted with
    | nil => rfl
    | cons hab _ ih =>
      cases wanted with
      | nil => rfl
      | cons t wanted => simp only [List.zip_cons_cons, List.all_cons, hab.sameId t, ih wanted]
  rw [compareLiteral, compareLiteral, h.length_eq, hz]

variable {xs ys : List Token} (h : xs.map Token.id = ys.map Token.id) (settings : Settings)

/-- Two lists of tokens that differ in payloads at most. -/
def Comparison.payloads : Comparison where
  toView := .unquoted
  left := ⟨.tokens xs, settings⟩
  right := ⟨.tokens ys, settings⟩
  modality_eq := rfl
  remaining_eq n := by
    have hl : xs.length = ys.length := by simpa using congrArg List.length h
    rw [show View.unquoted.offset = 0 from rfl, Nat.zero_add]
    exact congrArg (· - n) hl
  snippet_eq _ := rfl

namespace Comparison

theorem elements_token : (payloads h settings).Elements Token.Alike := by
  intro n
  have ha : List.Forall₂ Token.Alike xs ys := by
    rwa [← List.forall₂_eq_eq_eq, List.forall₂_map_left_iff, List.forall₂_map_right_iff] at h
  rw [show (payloads h settings).offset = 0 from rfl, Nat.zero_add]
  exact List.forall₂_drop n ha

theorem elements_char : (payloads h settings).Elements (Eq : Char → Char → Prop) := by
  intro n
  show List.Forall₂ Eq (List.drop _ []) (List.drop _ [])
  simp

theorem elements_byte : (payloads h settings).Elements (Eq : UInt8 → UInt8 → Prop) := by
  intro n
  show List.Forall₂ Eq (List.drop _ []) (List.drop _ [])
  simp

end Comparison

/-! ## Primitives -/

/-- A parser that turns tokens away does so whatever they hold. -/
theorem Parser.alike_of_rejects {p : Parser Value} (hp : p.accepts.tokens = false) :
    Parser.Agree (.payloads h settings) Alike p p :=
  Agree.of_not_mem (c := .payloads h settings) fun (hm : p.accepts.tokens = true) =>
    Bool.false_ne_true (hp.symm.trans hm)

theorem Parser.tokens_alike (wanted : List Token) :
    Parser.Agree (.payloads h settings) (List.Forall₂ Token.Alike) (tokens wanted)
      (tokens wanted) := by
  refine .of_parse rfl rfl rfl fun n _ => ?_
  have ha := Comparison.elements_token h settings n
  dsimp only [tokens]
  rw [compareLiteral_congr ha]
  exact .pure (Agree.literalReply _ _ n _ (List.forall₂_take _ ha) _)

/-- A primitive does the same on tokens with the same identifiers. -/
theorem Primitive.parser_alike (bound : Nat) (p : Primitive) :
    Parser.Agree (.payloads h settings) Alike (p.parser bound) (p.parser bound) := by
  have ht := Comparison.elements_token h settings
  cases p with
  | tokens wanted =>
    exact (Parser.tokens_alike h settings wanted).map fun _ _ => Alike.ofList .token fun _ _ _ => rfl
  | token | tokenId =>
    exact (Parser.Agree.elementWhere ht _ _ fun _ _ hab => hab.sameId _).map fun _ _ _ => by rfl
  | any shape =>
    cases shape with
    | tokens =>
      exact (Parser.Agree.elementWhere ht _ _ fun _ _ _ => rfl).map fun _ _ _ => by rfl
    | characters | bytes => exact Parser.alike_of_rejects h settings rfl
  | peek shape count =>
    cases shape with
    | tokens => exact (Parser.Agree.peek ht count).map fun _ _ => Alike.ofList .token fun _ _ _ => rfl
    | characters | bytes => exact Parser.alike_of_rejects h settings rfl
  | peekOne shape =>
    cases shape with
    | tokens =>
      refine (Parser.Agree.peekOne ht).map fun _ _ ho => ?_
      cases ho with
      | none => rfl
      | some _ => rfl
    | characters | bytes => exact Parser.alike_of_rejects h settings rfl
  | endOfInput => exact Parser.endOfInput_agree.map fun _ _ _ => rfl
  | succeedWith value => exact (Parser.succeedWith_agree value).mono fun _ _ => congrArg _
  | failWith message => exact (Parser.failWith_agree message).mono fun _ _ => congrArg _
  | string | bytes | byte | character | anyOf | charWhere | peekString | regex | digit | digits | letter
  | letters | whitespace | optionalWhitespace | binary | exactBinary =>
    exact Parser.alike_of_rejects h settings rfl

/-! ## Grammars -/

/-- The grammars without functions on replies and without rules. -/
def Fragment.declarative : Fragment where
  node
    | .mapReply .. | .rule _ => false
    | _ => true

open Fragment (declarative)

mutual

/-- A grammar without functions on replies and without rules does the same on tokens with the same
identifiers, if its free names do. -/
theorem Grammar.parser_alike (bound : Nat) :
    ∀ (g : Grammar), declarative.admits g = true → ∀ {scope scope' : Scope},
      Scope.Related (Parser.Agree (.payloads h settings) Alike) g.free scope scope' → ∀ a a',
        Parser.Agree (.payloads h settings) Alike (g.parser bound scope a) (g.parser bound scope' a')
  | .primitive p, _, _, _, _, _, _ => p.parser_alike h settings bound
  | .choice gs, hg, _, _, hs, a, a' => by
    simp only [Fragment.admits, Bool.and_eq_true] at hg
    exact .choice (Grammar.parsers_alike bound gs hg.2 hs a a' 0)
  | .sequence gs, hg, _, _, hs, a, a' => by
    simp only [Fragment.admits, Bool.and_eq_true] at hg
    exact (Parser.Agree.sequence (Grammar.parsers_alike bound gs hg.2 hs a a' 0)).map fun _ _ =>
      Value.alike_list.2
  | .many range g, hg, _, _, hs, _, _ => by
    simp only [Fragment.admits, Bool.and_eq_true] at hg
    exact ((g.parser_alike bound hg.2 hs _ _).many bound range).map fun _ _ => Value.alike_list.2
  | .separated range g g', hg, _, _, hs, _, _ => by
    simp only [Fragment.admits, Bool.and_eq_true] at hg
    exact ((g.parser_alike bound hg.1.2 hs.left _ _).separatedBy
      (g'.parser_alike bound hg.2 hs.right _ _) bound range).map fun _ _ => Value.alike_list.2
  | .times g count, hg, _, _, hs, _, _ => by
    simp only [Fragment.admits, Bool.and_eq_true] at hg
    exact ((g.parser_alike bound hg.2 hs _ _).times count).map fun _ _ => Value.alike_list.2
  | .maybe g, hg, _, _, hs, _, _ => by
    simp only [Fragment.admits, Bool.and_eq_true] at hg
    exact (g.parser_alike bound hg.2 hs _ _).maybe.map fun _ _ => Alike.ofOption
  | .lookAhead g, hg, _, _, hs, _, _ => by
    simp only [Fragment.admits, Bool.and_eq_true] at hg
    exact (g.parser_alike bound hg.2 hs _ _).lookAhead
  | .anythingExcept .characters g, hg, _, _, hs, _, _ => by
    simp only [Fragment.admits, Bool.and_eq_true] at hg
    exact ((g.parser_alike bound hg.2 hs _ _).anythingExcept
      (Comparison.elements_char h settings)).map fun _ _ _ => by rfl
  | .anythingExcept .bytes g, hg, _, _, hs, _, _ => by
    simp only [Fragment.admits, Bool.and_eq_true] at hg
    exact ((g.parser_alike bound hg.2 hs _ _).anythingExcept
      (Comparison.elements_byte h settings)).map fun _ _ _ => by rfl
  | .anythingExcept .tokens g, hg, _, _, hs, _, _ => by
    simp only [Fragment.admits, Bool.and_eq_true] at hg
    exact ((g.parser_alike bound hg.2 hs _ _).anythingExcept
      (Comparison.elements_token h settings)).map fun _ _ _ => by rfl
  | .everythingUntil .characters g, hg, _, _, hs, _, _ => by
    simp only [Fragment.admits, Bool.and_eq_true] at hg
    exact ((g.parser_alike bound hg.2 hs _ _).everythingUntil
      (Comparison.elements_char h settings)).map fun _ _ => Alike.ofList .char fun _ _ _ => rfl
  | .everythingUntil .bytes g, hg, _, _, hs, _, _ => by
    simp only [Fragment.admits, Bool.and_eq_true] at hg
    exact ((g.parser_alike bound hg.2 hs _ _).everythingUntil
      (Comparison.elements_byte h settings)).map fun _ _ => Alike.ofList .byte fun _ _ _ => rfl
  | .everythingUntil .tokens g, hg, _, _, hs, _, _ => by
    simp only [Fragment.admits, Bool.and_eq_true] at hg
    exact ((g.parser_alike bound hg.2 hs _ _).everythingUntil
      (Comparison.elements_token h settings)).map fun _ _ => Alike.ofList .token fun _ _ _ => rfl
  | .stringUntil g, hg, _, _, hs, _, _ => by
    simp only [Fragment.admits, Bool.and_eq_true] at hg
    exact ((((g.parser_alike bound hg.2 hs _ _).everythingUntil
      (Comparison.elements_char h settings)).map (S := fun _ _ => True) fun _ _ _ => trivial).described
        _ _).map fun _ _ _ => rfl
  | .valueIfAbsent g default, hg, _, _, hs, _, _ => by
    simp only [Fragment.admits, Bool.and_eq_true] at hg
    exact ((g.parser_alike bound hg.2 hs _ _).map fun _ _ => Alike.asOption).map fun _ _ ho =>
      Alike.getD ho default
  | .ignoreIfAbsent g, hg, _, _, hs, _, _ => by
    simp only [Fragment.admits, Bool.and_eq_true] at hg
    exact ((g.parser_alike bound hg.2 hs _ _).map fun _ _ => Alike.asOption).ignoreIfAbsent.map
      fun _ _ => Alike.ofOption
  | .nth g index, hg, _, _, hs, _, _ => by
    simp only [Fragment.admits, Bool.and_eq_true] at hg
    exact ((g.parser_alike bound hg.2 hs _ _).map fun _ _ => Alike.asList).pick _ _ fun _ _ hl =>
      Alike.getElem? hl index
  | .last g, hg, _, _, hs, _, _ => by
    simp only [Fragment.admits, Bool.and_eq_true] at hg
    exact ((g.parser_alike bound hg.2 hs _ _).map fun _ _ => Alike.asList).pick _ _ fun _ _ =>
      Alike.getLast?
  | .join g _, hg, _, _, hs, _, _ => by
    simp only [Fragment.admits, Bool.and_eq_true] at hg
    exact (((g.parser_alike bound hg.2 hs _ _).map fun _ _ => Alike.asList).map
      (S := fun _ _ => True) fun _ _ _ => trivial).map fun _ _ _ => rfl
  | .map g f, hg, _, _, hs, _, _ => by
    simp only [Fragment.admits, Bool.and_eq_true] at hg
    exact (g.parser_alike bound hg.2 hs _ _).map fun _ _ hv => hv.mapper f
  | .mapReply .., hg, _, _, _, _, _ => by
    simp only [Fragment.admits, declarative, Bool.false_and, Bool.false_eq_true] at hg
  | .ignore g, hg, _, _, hs, _, _ => by
    simp only [Fragment.admits, Bool.and_eq_true] at hg
    exact (g.parser_alike bound hg.2 hs _ _).ignore
  | .named g name, hg, _, _, hs, _, _ => by
    simp only [Fragment.admits, Bool.and_eq_true] at hg
    exact (g.parser_alike bound hg.2 hs _ _).described name none
  | .label g text, hg, _, _, hs, _, _ => by
    simp only [Fragment.admits, Bool.and_eq_true] at hg
    exact (g.parser_alike bound hg.2 hs _ _).label text
  | .seq g g', hg, _, _, hs, _, _ => by
    simp only [Fragment.admits, Bool.and_eq_true] at hg
    exact ((g.parser_alike bound hg.1.2 hs.left _ _).seq
      (g'.parser_alike bound hg.2 hs.right _ _)).map fun _ _ => Alike.ofPair
  | .skip g g', hg, _, _, hs, _, _ => by
    simp only [Fragment.admits, Bool.and_eq_true] at hg
    exact ((g.parser_alike bound hg.1.2 hs.left _ _).seq
      (g'.parser_alike bound hg.2 hs.right _ _)).map fun _ _ hp => hp.1
  | .skipLeft g g', hg, _, _, hs, _, _ => by
    simp only [Fragment.admits, Bool.and_eq_true] at hg
    exact ((g.parser_alike bound hg.1.2 hs.left _ _).seq
      (g'.parser_alike bound hg.2 hs.right _ _)).map fun _ _ hp => hp.2
  | .fix name g, hg, scope, scope', hs, a, a' => by
    simp only [Fragment.admits, Bool.and_eq_true] at hg
    have hd (handles handles' : Address → Parser Value)
        (hh : ∀ b b', Parser.Agree (.payloads h settings) Alike (handles b) (handles' b'))
        (_ _ : Address) : Parser.Agree (.payloads h settings) Alike
          (g.parser bound ((name, handles) :: scope) (0 :: a))
          (g.parser bound ((name, handles') :: scope') (0 :: a')) :=
      g.parser_alike bound hg.2 (hs.under hh) _ _
    exact (hd _ _ (.unfold (fun _ _ => .pure trivial) hd bound) a a').defined
  | .recursive name traced g, hg, scope, scope', hs, a, a' => by
    simp only [Fragment.admits, Bool.and_eq_true] at hg
    have hd (handles handles' : Address → Parser Value)
        (hh : ∀ b b', Parser.Agree (.payloads h settings) Alike (handles b) (handles' b'))
        (b b' : Address) : Parser.Agree (.payloads h settings) Alike
          (g.parser bound ((name, handles) :: scope) (0 :: b))
          (g.parser bound ((name, handles') :: scope') (0 :: b')) :=
      g.parser_alike bound hg.2 (hs.under hh) _ _
    exact .unfold (fun _ _ => .emit _ _) hd bound a a'
  | .ref name, _, _, _, hs, a, a' => by
    rw [Grammar.parser_ref, Grammar.parser_ref]
    exact hs name (List.mem_singleton_self name) a a'
  | .orphan, _, _, _, _, _, _ => .orphan
  | .tap text g, hg, _, _, hs, _, _ => by
    simp only [Fragment.admits, Bool.and_eq_true] at hg
    exact (g.parser_alike bound hg.2 hs _ _).tap text
  | .rule _, hg, _, _, _, _, _ => by
    simp only [Fragment.admits, declarative, Bool.false_and, Bool.false_eq_true] at hg

theorem Grammar.parsers_alike (bound : Nat) :
    ∀ (gs : List Grammar), declarative.admitsAll gs = true → ∀ {scope scope' : Scope},
      Scope.Related (Parser.Agree (.payloads h settings) Alike) (Grammar.freeAll gs) scope scope' →
        ∀ a a' index, List.Forall₂ (Parser.Agree (.payloads h settings) Alike)
          (Grammar.parsers bound gs scope a index) (Grammar.parsers bound gs scope' a' index)
  | [], _, _, _, _, _, _, _ => .nil
  | g :: gs, hg, _, _, hs, a, a', index => by
    simp only [Fragment.admitsAll, Bool.and_eq_true] at hg
    exact .cons (g.parser_alike bound hg.1 hs.left _ _)
      (Grammar.parsers_alike bound gs hg.2 hs.right a a' _)

end

/-- **Payloads have no influence on matching.** On tokens with the same identifiers a grammar without
functions on replies and without rules succeeds with values of the same outline at the same cursor and with
the same flag, or fails at the same cursor with failures that are the same but for the texts of what was
found, in all of their causes; or it answers on neither. -/
theorem execute_payloads {g : Grammar} (hg : declarative.admits g = true) {xs ys : List Token}
    (h : xs.map Token.id = ys.map Token.id) (settings : Settings) (bound : Nat) (address : Address)
    (cursor : Nat) :
    ((g.parser bound [] address).execute ⟨.tokens xs, settings⟩ cursor).answer?.map
        (fun r => (r.map Value.outline).seen .unquoted) =
      ((g.parser bound [] address).execute ⟨.tokens ys, settings⟩ cursor).answer?.map
        (fun r => (r.map Value.outline).seen .unquoted) := by
  have ha := (g.parser_alike h settings bound hg (.nil .orphan _) address address).execute cursor
  have hs := ha.mono fun _ _ hr => (hr.map Value.outline Value.outline fun _ _ ho => ho).seen_eq
  rw [show (Comparison.payloads h settings).offset + cursor = cursor from Nat.zero_add cursor] at hs
  exact hs.map_answer?

/-- A sum over numbers with a sign between them or none, where the sums differ; and a token that stands in
the way of a third number, where the quotations differ. -/
theorem execute_payloads_of_numbers :
    let number := Grammar.primitive (.tokenId "number")
    let sign := Grammar.ignoreIfAbsent (.maybe (.primitive (.tokenId "sign")))
    let sum := Grammar.map (.sequence [number, sign, number]) .sum
    let p := sum.parser 4 [] []
    let q := (Grammar.sequence [sum, number]).parser 4 [] []
    let xs : List Token := [⟨"number", some "1"⟩, ⟨"number", some "2"⟩, ⟨"end", none⟩]
    let ys : List Token := [⟨"number", some "30"⟩, ⟨"number", some "4"⟩, ⟨"end", some "now"⟩]
    let outline := fun r : Reply Value => (r.map Value.outline).seen .unquoted
    ((p.execute ⟨.tokens xs, {}⟩ 0).answer? = some (.succeed 2 (.int 3)) ∧
        (p.execute ⟨.tokens ys, {}⟩ 0).answer? = some (.succeed 2 (.int 34)) ∧
        (p.execute ⟨.tokens xs, {}⟩ 0).answer?.map outline =
          (p.execute ⟨.tokens ys, {}⟩ 0).answer?.map outline) ∧
      (q.execute ⟨.tokens ys, {}⟩ 0).answer? = some (.fail 0 (.within "sequence" 1
          (.noMatch "token" 2 "token number (ignoring data)" "tokens end(now), *END*"))) ∧
        (q.execute ⟨.tokens xs, {}⟩ 0).answer?.map outline =
          (q.execute ⟨.tokens ys, {}⟩ 0).answer?.map outline := by
  intro number sign sum p q xs ys outline
  have hp : declarative.admits sum = true := rfl
  have hq : declarative.admits (.sequence [sum, number]) = true := rfl
  have hi : xs.map Token.id = ys.map Token.id := rfl
  refine ⟨⟨rfl, rfl, ?_⟩, rfl, ?_⟩
  · exact execute_payloads hp hi {} 4 [] 0
  · exact execute_payloads hq hi {} 4 [] 0

end Triparse
