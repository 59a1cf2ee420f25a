import Triparse.Proofs.Captures
import Triparse.Proofs.PatternStart

/-!
# What a pattern takes, whatever group is asked for

A pattern takes its whole match off the text, whichever group is asked for: the group only tells which
part of it is the value (`regex_group_within_match`). This is so for every engine that keeps to what is relied
on of its captures. The engine here does (`Regex.anchoredCaptures`): a run records positions in their order,
and the end of the whole match after all others (`Thread.Ordered`), and the bytes of a group are those
between the characters at two of the positions (`Regex.captures_eq_some`).
-/

set_option autoImplicit false

namespace Triparse

namespace Pattern

/-! ## Positions -/

/-- A thread at a position: it has recorded none beyond, and the end of the match only where it accepts,
after all others. -/
structure Thread.Ordered (program : Array Instr) (position : Nat) (t : Thread) : Prop where
  reached : ∀ r ∈ t.slots, r.2 ≤ position
  closed {stop : Nat} (h : t.slots.lookup 1 = some stop) :
    t.instr? program = some .accept ∧ ∀ r ∈ t.slots, r.2 ≤ stop

section
variable {program : Array Instr}

/-- A thread that has not recorded the end of the match is in order. -/
theorem Thread.ordered_of_open {position : Nat} {t : Thread} (hr : ∀ r ∈ t.slots, r.2 ≤ position)
    (ho : t.slots.lookup 1 = none) : t.Ordered program position where
  reached := hr
  closed h := by
    rw [ho] at h
    cases h

/-- A thread that goes on has not recorded the end of the match. -/
theorem Thread.Ordered.open {position : Nat} {t : Thread} (h : t.Ordered program position) {i : Instr}
    (hi : t.instr? program = some i) (hne : i ≠ .accept) : t.slots.lookup 1 = none := by
  cases hl : t.slots.lookup 1 with
  | none => rfl
  | some stop =>
    rw [(h.closed hl).1] at hi
    cases hi
    exact absurd rfl hne

/-- A thread that goes on without recording a position stays in order. -/
theorem Thread.Ordered.move {position position' : Nat} {t : Thread} (h : t.Ordered program position)
    {i : Instr} (hi : t.instr? program = some i) (hne : i ≠ .accept) (hle : position ≤ position')
    (address : Nat) : Thread.Ordered program position' ⟨address, t.slots⟩ :=
  ordered_of_open (fun r hr => Nat.le_trans (h.reached r hr) hle) (h.open hi hne)

theorem Thread.Ordered.save (hp : Anchored program) {position slot : Nat} {t : Thread}
    (h : t.Ordered program position) (hi : t.instr? program = some (.save slot)) :
    Thread.Ordered program position ⟨t.address + 1, (slot, position) :: t.slots⟩ := by
  have hr : ∀ r ∈ (slot, position) :: t.slots, r.2 ≤ position :=
    List.forall_mem_cons.2 ⟨Nat.le_refl _, h.reached⟩
  by_cases hslot : slot = 1
  · subst hslot
    refine ⟨hr, fun hl => ⟨hp.last hi, ?_⟩⟩
    cases hl
    exact hr
  · refine ordered_of_open hr ?_
    rw [List.lookup_cons, beq_false_of_ne (Ne.symm hslot)]
    exact h.open hi nofun

theorem ordered_kept (hp : Anchored program) : Kept program (Thread.Ordered program) where
  take h hi := h.move hi nofun (Nat.le_succ _) _
  split h hi := ⟨h.move hi nofun (Nat.le_refl _) _, h.move hi nofun (Nat.le_refl _) _⟩
  jump h hi := h.move hi nofun (Nat.le_refl _) _
  save h hi := h.save hp hi
  look h hi := h.move hi nofun (Nat.le_refl _) _

end

/-- No position of a match is beyond the end of it. -/
theorem slots?_ordered {program : Array Instr} (hp : Anchored program) {chars : List Char}
    {slots : List (Nat × Nat)} (hs : slots? program chars = some slots) {stop : Nat}
    (hstop : slots.lookup 1 = some stop) : ∀ r ∈ slots, r.2 ≤ stop := by
  refine (ordered_kept hp).scan (Q := fun slots => ∀ stop, slots.lookup 1 = some stop →
    ∀ r ∈ slots, r.2 ≤ stop) ?_ chars none 0 [⟨0, []⟩] none ?_ nofun slots hs stop hstop
  · exact fun _ _ h _ _ hl => (h.closed hl).2
  · exact List.forall_mem_singleton.2 (Thread.ordered_of_open nofun rfl)

/-! ## Spans -/

namespace Regex

open String (utf8Len)

variable {r : Regex} {text : String} {captures : Captures}

/-- The bytes of a group are those between the characters at the positions that are recorded for it. -/
theorem captures_eq_some (h : r.captures text = some captures) :
    ∃ slots, slots? r.program text.toList = some slots ∧ ∀ group span, captures group = some span →
      ∃ first last, slots.lookup (2 * group) = some first ∧ slots.lookup (2 * group + 1) = some last ∧
        span = ⟨utf8Len (text.toList.take first), utf8Len (text.toList.take last)⟩ := by
  obtain ⟨slots, hs, h⟩ := Option.bind_eq_some_iff.1 h
  refine ⟨slots, hs, fun group span hg => ?_⟩
  cases h
  obtain ⟨first, hfirst, hg⟩ := Option.bind_eq_some_iff.1 hg
  obtain ⟨last, hlast, hg⟩ := Option.bind_eq_some_iff.1 hg
  obtain ⟨start, hstart, hg⟩ := Option.bind_eq_some_iff.1 hg
  obtain ⟨stop, hstop, hg⟩ := Option.bind_eq_some_iff.1 hg
  cases hg
  refine ⟨first, last, hfirst, hlast, ?_⟩
  rw [Text.Index.offsets_getElem?, Text.byteOffset_eq_utf8Len] at hstart hstop
  split at hstart <;> split at hstop <;> cases hstart <;> cases hstop
  rfl

/-- The engine keeps to what is relied on of engines. -/
theorem anchoredCaptures (h : compile text = some r) : engine.AnchoredCaptures r where
  start {input captures whole} hc hw := by
    obtain ⟨slots, hs, hspan⟩ := captures_eq_some hc
    obtain ⟨first, last, hfirst, -, rfl⟩ := hspan 0 whole hw
    cases (slots?_start (anchored_of_compile h) hs).symm.trans hfirst
    rfl
  within {input captures whole span group} hc hw hg := by
    obtain ⟨slots, hs, hspan⟩ := captures_eq_some hc
    obtain ⟨first, last, hfirst, hlast, rfl⟩ := hspan 0 whole hw
    obtain ⟨first', last', -, hlast', rfl⟩ := hspan group span hg
    cases (slots?_start (anchored_of_compile h) hs).symm.trans hfirst
    obtain ⟨_, _, rfl, -⟩ := List.lookup_eq_some_iff.1 hlast'
    have hordered := slots?_ordered (anchored_of_compile h) hs hlast
    have hle : last' ≤ last := hordered (2 * group + 1, last') (by simp)
    exact ⟨Nat.zero_le _, utf8Len_take_mono _ hle⟩
  aligned {input captures span group} hc hg := by
    obtain ⟨slots, -, hspan⟩ := captures_eq_some hc
    obtain ⟨first, last, -, -, rfl⟩ := hspan group span hg
    rw [← String.ofList_toList (s := input)]
    exact ⟨Span.isValid_iff.2 ⟨first, by simp⟩, Span.isValid_iff.2 ⟨last, by simp⟩⟩

end Regex

namespace Compiled

theorem anchoredCaptures {text : String} {group : Nat} {p : Compiled engine}
    (h : ofText engine text group = .ok p) : engine.AnchoredCaptures p.anchored := by
  obtain ⟨_, anchored, -, -, hanchored, rfl⟩ := ofText_eq_ok.1 h
  exact Regex.anchoredCaptures hanchored

end Compiled

end Pattern

/-! ## Parsers -/

open Pattern (Engine Compiled)

/-- On a live state of characters, a pattern answers with its match at the cursor. -/
theorem Parser.apply_regex {E : Engine} (p : Compiled E) {β : Type} {s : State β} {b : β}
    (hs : s.outcome = .ok b) {chars : List Char} (hc : s.input.source = .characters chars) :
    (Parser.regex p).apply s = pure
      (match p.match? (String.ofList (chars.drop s.cursor)) with
      | some (width, text) => s.succeed (s.cursor + width) text
      | none => s.noMatch "regex" ("string matching pattern " ++ Text.quoteString p.text)) := by
  have hm : s.input.modality ∈ (Parser.regex p).accepts := by
    rw [Input.modality, hc]
    exact Modalities.mem_only.2 rfl
  have he : s.input.elements Char = chars := by
    rw [Input.elements, hc]
    rfl
  rw [apply_of_ok _ hs, execute_of_mem hm, parse_regex, he]
  cases p.match? (String.ofList (chars.drop s.cursor)) with
  | none => rfl
  | some found => rfl

/-- **The group that is asked for does not change what a pattern takes.** Let an engine keep to what is relied
on of its captures with the anchor in front. Then on every live state of characters, a pattern that is
compiled for a group and the same pattern compiled for the whole match both fail, with one failure, or both
match the text from the cursor on, and stop at the same cursor. The value of the latter is then all that is
between the cursors, and that of the former is a part of it, or empty if the group took no part. -/
theorem regex_group_within_match {E : Engine} {text : String} {group : Nat} {p : Compiled E}
    (hp : Compiled.ofText E text group = .ok p) (hE : E.AnchoredCaptures p.anchored) :
    Compiled.ofText E text 0 = .ok { p with group := 0 } ∧
      ∀ {β : Type} (s : State β) {b : β} {chars : List Char}, s.outcome = .ok b →
        s.input.source = .characters chars →
          (∃ e, (Parser.regex p).apply s = pure (s.fail e) ∧
            (Parser.regex { p with group := 0 }).apply s = pure (s.fail e)) ∨
          ∃ captures stop,
            E.captures p.anchored ((Text.Index.ofString (String.ofList chars)).textFrom s.cursor) =
              some captures ∧
            s.cursor ≤ stop ∧ stop ≤ max s.cursor chars.length ∧
            let whole := (chars.drop s.cursor).take (stop - s.cursor)
            (Parser.regex { p with group := 0 }).apply s =
                pure (s.succeed stop (String.ofList whole)) ∧
              (captures group = none ∧ (Parser.regex p).apply s = pure (s.succeed stop "") ∨
                ∃ part, (captures group).isSome = true ∧ part <:+: whole ∧
                  (Parser.regex p).apply s = pure (s.succeed stop (String.ofList part))) := by
  refine ⟨Compiled.ofText_zero hp, fun s b chars hs hc => ?_⟩
  have hgroup : p.group = group := by
    obtain ⟨_, _, -, -, -, rfl⟩ := Compiled.ofText_eq_ok.1 hp
    rfl
  subst hgroup
  rw [Text.Index.textFrom_eq, String.toList_ofList]
  simp only [Parser.apply_regex _ hs hc]
  obtain hnone | ⟨captures, width, hcaptures, hwidth, hmatch, hwhole, hpart⟩ :=
    Compiled.match?_groups hE (chars.drop s.cursor)
  · rw [hnone p.group, hnone 0]
    exact .inl ⟨_, rfl, rfl⟩
  · rw [hmatch p.group, hmatch 0, hwhole]
    rw [List.length_drop] at hwidth
    refine .inr ⟨captures, s.cursor + width, hcaptures, Nat.le_add_right _ _, by omega, ?_⟩
    rw [Nat.add_sub_cancel_left]
    refine ⟨rfl, ?_⟩
    cases hg : captures p.group with
    | none => exact .inl ⟨rfl, rfl⟩
    | some span =>
      obtain ⟨part, htext, hinfix⟩ := hpart p.group span hg
      refine .inr ⟨part, rfl, hinfix, ?_⟩
      rw [Option.map_some, htext]
      rfl

/-- A group of two bytes at the end of a match of five. The pattern takes the two characters of the match,
also if the group of the other branch is asked for, which has no text. -/
theorem regex_group_within_match_of_branch :
    let s := (State.start ⟨.characters ['a', '€', 'é', 'a'], {}⟩).withCursor 1
    ∃ p, Compiled.ofText Pattern.engine "€(é)|(a)" 1 = .ok p ∧
      (Parser.regex p).apply s = pure (s.succeed 3 "é") ∧
      (Parser.regex { p with group := 2 }).apply s = pure (s.succeed 3 "") ∧
      (Parser.regex { p with group := 0 }).apply s = pure (s.succeed 3 "€é") := by
  intro s
  have hs : s.outcome = .ok () := rfl
  have hc : s.input.source = .characters ['a', '€', 'é', 'a'] := rfl
  have hfirst : ((Compiled.ofText Pattern.engine "€(é)|(a)" 1).toOption.bind fun p =>
      p.match? (String.ofList ['€', 'é', 'a'])) = some (2, "é") := by decide +kernel
  have hsecond : ((Compiled.ofText Pattern.engine "€(é)|(a)" 1).toOption.bind fun p =>
      { p with group := 2 }.match? (String.ofList ['€', 'é', 'a'])) = some (2, "") := by decide +kernel
  cases hp : Compiled.ofText Pattern.engine "€(é)|(a)" 1 with
  | error e =>
    rw [hp] at hfirst
    cases hfirst
  | ok p =>
    rw [hp] at hfirst hsecond
    replace hfirst : p.match? (String.ofList (['a', '€', 'é', 'a'].drop s.cursor)) = some (2, "é") := hfirst
    replace hsecond : { p with group := 2 }.match? (String.ofList (['a', '€', 'é', 'a'].drop s.cursor)) =
      some (2, "") := hsecond
    have hgroup : (Parser.regex p).apply s = pure (s.succeed 3 "é") := by
      rw [Parser.apply_regex p hs hc, hfirst]
      rfl
    refine ⟨p, rfl, hgroup, ?_, ?_⟩
    · rw [Parser.apply_regex _ hs hc, hsecond]
      rfl
    · obtain ⟨e, he, -⟩ | ⟨_, stop, -, -, -, hwhole, hvalue⟩ :=
        (regex_group_within_match hp (Compiled.anchoredCaptures hp)).2 s rfl rfl
      · rw [hgroup] at he
        cases he
      · have hstop : stop = 3 := by
          obtain ⟨-, hg⟩ | ⟨_, -, -, hg⟩ := hvalue <;>
            exact congrArg (fun x => (x.answer?.map (·.cursor)).getD 3) (hg.symm.trans hgroup)
        subst hstop
        exact hwhole

end Triparse
