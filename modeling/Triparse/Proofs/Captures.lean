import Triparse.Parser.Regex
import Triparse.Proofs.TextIndex

/-!
# Captures

What an engine tells of a match are bytes, and a parser counts characters. What is relied on for this is
that, with an anchor in front of a pattern, the whole match begins where the text does, that all groups lie
within it, and that no span ends inside of a character (`Engine.AnchoredCaptures`). Then the bytes up to the
end of the match are those of as many characters as the match takes, and those of a group are a part of them
(`Compiled.match?_groups`).
-/

set_option autoImplicit false

namespace Triparse

namespace Pattern

open String (utf8Len)
open String.Pos.Raw (IsValid extract)

/-! ## Spans -/

theorem prefix_go₂ (stop : String.Pos.Raw) (cs : List Char) (i : String.Pos.Raw) :
    extract.go₂ cs i stop <+: cs := by
  induction cs generalizing i with
  | nil => exact List.nil_prefix
  | cons c cs ih =>
    rw [extract.go₂]
    split
    · exact List.nil_prefix
    · exact List.cons_prefix_cons.2 ⟨rfl, ih _⟩

theorem infix_go₁ (start stop : String.Pos.Raw) (cs : List Char) (i : String.Pos.Raw) :
    extract.go₁ cs i start stop <:+: cs := by
  induction cs generalizing i with
  | nil => exact List.nil_infix
  | cons c cs ih =>
    rw [extract.go₁]
    split
    · exact (prefix_go₂ stop (c :: cs) i).isInfix
    · exact (ih _).trans (List.suffix_cons c cs).isInfix

theorem utf8Len_take_mono (cs : List Char) {i j : Nat} (h : i ≤ j) :
    utf8Len (cs.take i) ≤ utf8Len (cs.take j) := by
  obtain ⟨rest, hrest⟩ := List.take_prefix_take_left (l := cs) h
  rw [← hrest, String.utf8Len_append]
  exact Nat.le_add_right _ _

/-- Of two beginnings of a text, the one with fewer bytes is one of the other. -/
theorem prefix_of_utf8Len_le {cs : List Char} {i j : Nat}
    (h : utf8Len (cs.take i) ≤ utf8Len (cs.take j)) : cs.take i <+: cs.take j := by
  rcases Nat.le_total i j with hle | hle
  · exact List.take_prefix_take_left hle
  · obtain ⟨rest, hrest⟩ := List.take_prefix_take_left (l := cs) hle
    rw [← hrest, String.utf8Len_append] at h
    have hnil : rest = [] := String.utf8Len_eq_zero.1 (by omega)
    have heq : cs.take i = cs.take j := by rw [← hrest, hnil, List.append_nil]
    exact heq ▸ List.prefix_rfl

namespace Span

/-- The text of any span is a part of the text. -/
theorem infix_text (s : Span) (cs : List Char) : (s.text (String.ofList cs)).toList <:+: cs := by
  by_cases h : s.stop ≤ s.start
  · rw [text, extract, if_pos h]
    exact List.nil_infix
  · rw [text, extract, if_neg h, String.toList_ofList, String.toList_ofList]
    exact infix_go₁ _ _ _ _

variable {s : Span} {cs : List Char}

theorem isValid_iff {offset : Nat} :
    IsValid (String.ofList cs) ⟨offset⟩ ↔ ∃ i, offset = utf8Len (cs.take i) := by
  simp only [String.Pos.Raw.isValid_ofList, String.utf8ByteSize_ofList]

/-- The text of a span that starts and ends between characters is the characters there. -/
theorem text_of_valid {i j : Nat} (hstart : s.start = utf8Len (cs.take i))
    (hstop : s.stop = utf8Len (cs.take j)) :
    s.text (String.ofList cs) = String.ofList ((cs.take j).drop i) := by
  rw [text, hstart, hstop]
  rcases Nat.le_total i j with h | h
  · have hcut := String.extract_of_valid (cs.take i) ((cs.take j).drop i) (cs.drop j)
    have hfront := List.take_append_drop i (cs.take j)
    rw [List.take_take, Nat.min_eq_left h] at hfront
    rwa [← String.utf8Len_append, hfront, List.take_append_drop] at hcut
  · rw [extract, if_pos (utf8Len_take_mono cs h),
      List.drop_eq_nil_of_le (Nat.le_trans (List.length_take_le _ _) h), String.ofList_nil]

end Span

/-! ## Engines -/

/-- What is relied on of the matches of a pattern with an anchor in front: the whole match begins where the
text begins, every group lies within it, and spans start and end between characters. -/
structure Engine.AnchoredCaptures (E : Engine) (r : E.Regex) : Prop where
  start {text : String} {captures : Captures} {whole : Span} :
    E.captures r text = some captures → captures 0 = some whole → whole.start = 0
  within {text : String} {captures : Captures} {whole span : Span} {group : Nat} :
    E.captures r text = some captures → captures 0 = some whole → captures group = some span →
      whole.start ≤ span.start ∧ span.stop ≤ whole.stop
  aligned {text : String} {captures : Captures} {span : Span} {group : Nat} :
    E.captures r text = some captures → captures group = some span →
      IsValid text ⟨span.start⟩ ∧ IsValid text ⟨span.stop⟩

theorem Engine.read_eq_ok {E : Engine} {text written : String} {r : E.Regex} :
    E.read text written = .ok r ↔ E.compile written = some r := by
  unfold read
  cases E.compile written with
  | none => exact ⟨nofun, nofun⟩
  | some r' => rw [Except.ok.injEq, Option.some_inj]

namespace Compiled

variable {E : Engine} {text : String} {group : Nat}

/-! ### What is compiled -/

/-- A pattern is compiled, its groups are counted, and it is compiled again with an anchor in front. -/
theorem ofText_eq (E : Engine) (text : String) (group : Nat) :
    ofText E text group = (E.read text text).bind fun plain =>
      if E.groupCount plain ≤ group then .error (.missingGroup text group)
      else (E.read text ("^(?:" ++ text ++ ")")).bind fun anchored => .ok ⟨text, group, anchored⟩ := by
  unfold ofText
  cases E.read text text with
  | error e => rfl
  | ok plain =>
    show (ite _ _ _ : Except BuildError (Compiled E)) = ite _ _ _
    split <;> rfl

/-- A pattern is compiled if it is one, alone and with the anchor in front, and has the group. -/
theorem ofText_eq_ok {p : Compiled E} :
    ofText E text group = .ok p ↔ ∃ plain anchored, E.compile text = some plain ∧
      group < E.groupCount plain ∧ E.compile ("^(?:" ++ text ++ ")") = some anchored ∧
      p = ⟨text, group, anchored⟩ := by
  simp only [ofText_eq, ← @Engine.read_eq_ok E text]
  constructor
  · intro h
    cases hplain : E.read text text with
    | error e =>
      rw [hplain] at h
      cases h
    | ok plain =>
      cases hanchored : E.read text ("^(?:" ++ text ++ ")") with
      | error e =>
        rw [hplain, hanchored] at h
        dsimp only [Except.bind] at h
        split at h <;> cases h
      | ok anchored =>
        rw [hplain, hanchored] at h
        dsimp only [Except.bind] at h
        split at h
        · cases h
        · rename_i hlt
          cases h
          exact ⟨plain, anchored, rfl, Nat.lt_of_not_le hlt, rfl, rfl⟩
  · rintro ⟨plain, anchored, hplain, hlt, hanchored, rfl⟩
    rw [hplain, hanchored]
    exact if_neg (Nat.not_le.2 hlt)

/-- A pattern that is compiled for a group is compiled for the whole match too. -/
theorem ofText_zero {p : Compiled E} (h : ofText E text group = .ok p) :
    ofText E text 0 = .ok { p with group := 0 } := by
  obtain ⟨plain, anchored, hplain, hlt, hanchored, rfl⟩ := ofText_eq_ok.1 h
  exact ofText_eq_ok.2 ⟨plain, anchored, hplain, Nat.zero_lt_of_lt hlt, hanchored, rfl⟩

/-! ### What is matched -/

/-- A match lies inside the text. -/
theorem width_le_of_match {p : Compiled E} {cs : List Char} {width : Nat} {found : String}
    (h : p.match? (String.ofList cs) = some (width, found)) : width ≤ cs.length := by
  obtain ⟨captures, -, h⟩ := Option.bind_eq_some_iff.1 h
  obtain ⟨whole, -, h⟩ := Option.bind_eq_some_iff.1 h
  cases h
  rw [← String.length_toList]
  exact (whole.infix_text cs).length_le

/-- A match takes as many characters as the whole match has, whatever group is asked for, and the text of
every group is a part of them. -/
theorem match?_groups {p : Compiled E} (hp : E.AnchoredCaptures p.anchored) (cs : List Char) :
    (∀ group, { p with group := group }.match? (String.ofList cs) = none) ∨
      ∃ captures width, E.captures p.anchored (String.ofList cs) = some captures ∧ width ≤ cs.length ∧
        (∀ group, { p with group := group }.match? (String.ofList cs) =
          some (width, ((captures group).map (·.text (String.ofList cs))).getD "")) ∧
        (captures 0).map (·.text (String.ofList cs)) = some (String.ofList (cs.take width)) ∧
        ∀ group span, captures group = some span →
          ∃ part, span.text (String.ofList cs) = String.ofList part ∧ part <:+: cs.take width := by
  have hmatch (group : Nat) : { p with group := group }.match? (String.ofList cs) =
      (E.captures p.anchored (String.ofList cs)).bind fun captures => (captures 0).map fun whole =>
        ((whole.text (String.ofList cs)).length,
          ((captures group).map (·.text (String.ofList cs))).getD "") :=
    congrArg (Option.bind _) (funext fun _ => Option.map_eq_bind.symm)
  cases hc : E.captures p.anchored (String.ofList cs) with
  | none => exact .inl fun group => by rw [hmatch, hc, Option.bind_none]
  | some captures =>
    cases hw : captures 0 with
    | none => exact .inl fun group => by rw [hmatch, hc, Option.bind_some, hw, Option.map_none]
    | some whole =>
      obtain ⟨stop, hstop⟩ := Span.isValid_iff.1 (hp.aligned hc hw).2
      have hstart : whole.start = utf8Len (cs.take 0) := hp.start hc hw
      have hwhole := Span.text_of_valid hstart hstop
      rw [List.drop_zero] at hwhole
      have htake : cs.take (cs.take stop).length = cs.take stop := by
        rw [List.length_take, ← List.take_eq_take_min]
      refine .inr ⟨captures, (cs.take stop).length, rfl, List.length_take_le' _ _, fun group => ?_, ?_,
        fun group span hs => ?_⟩
      · rw [hmatch, hc, Option.bind_some, hw, Option.map_some, hwhole, String.length_ofList]
      · rw [hw, Option.map_some, hwhole, htake]
      · obtain ⟨⟨first, hfirst⟩, ⟨last, hlast⟩⟩ :=
          (hp.aligned hc hs).imp Span.isValid_iff.1 Span.isValid_iff.1
        have hle := (hp.within hc hw hs).2
        rw [hlast, hstop] at hle
        refine ⟨_, Span.text_of_valid hfirst hlast, ?_⟩
        rw [htake]
        exact (List.drop_suffix _ _).isInfix.trans (prefix_of_utf8Len_le hle).isInfix

/-- **The whole match is what a match takes off the text.** A pattern whose match is asked for as a
whole answers with the characters from the beginning of the text on, as many as it says. -/
theorem match?_whole {p : Compiled E} (hp : ofText E text 0 = .ok p) (hE : E.AnchoredCaptures p.anchored)
    {cs : List Char} {width : Nat} {found : String}
    (h : p.match? (String.ofList cs) = some (width, found)) :
    found.toList = cs.take width ∧ width ≤ cs.length := by
  obtain ⟨_, anchored, -, -, -, rfl⟩ := ofText_eq_ok.1 hp
  obtain hnone | ⟨captures, width', -, hle, hmatch, hwhole, -⟩ := match?_groups hE cs
  · cases h.symm.trans (hnone 0)
  · cases h.symm.trans (hmatch 0)
    rw [hwhole, Option.getD_some, String.toList_ofList]
    exact ⟨rfl, hle⟩

end Compiled

end Pattern

/-! ## Parsers -/

/-- A pattern is matched on the characters from the cursor on. -/
theorem Parser.parse_regex {E : Pattern.Engine} (p : Pattern.Compiled E) (input : Input) (cursor : Nat) :
    (Parser.regex p).parse input cursor =
      match p.match? (String.ofList ((input.elements Char).drop cursor)) with
      | some (width, text) => pure (.succeed (cursor + width) text)
      | none =>
        pure (.fail cursor (input.noMatch cursor "regex"
          ("string matching pattern " ++ Text.quoteString p.text))) := by
  cases hm : p.match? (String.ofList ((input.elements Char).drop cursor)) <;>
    simp only [Parser.regex, Text.Index.textFrom_eq, String.toList_ofList, hm]

end Triparse
