import Triparse.Proofs.Captures
import Triparse.Proofs.ClosedPatterns
import Triparse.Proofs.PatternStart

/-!
# Which patterns are compiled

A pattern is read twice, alone and as a group with an anchor in front. A text that is a pattern alone may
be none in the group: if it ends in a comment, that takes the parenthesis of the group, and the group and
the anchor take two more levels and some storage (`piece?_anchored`). In these cases a pattern is refused,
in all others it is compiled (`compiled_iff_enclosable`). Of an engine it is assumed for this that it compiles
what is a pattern here (`Engine.CompilesPatterns`).
-/

set_option autoImplicit false

namespace Triparse.Pattern

namespace Reader

/-! ## The anchor -/

theorem run_pieces_caret (bound : Nat) (cs : List Char) :
    (pieces (bound + 1) []).run { rest := '^' :: cs } =
      (pieces bound [⟨some (.look .textStart), 0⟩]).run { rest := cs } := by
  rw [pieces]
  rfl

theorem run_pieces_group (bound : Nat) (done : List Piece) (cs : List Char) :
    (pieces (bound + 1) done).run { rest := '(' :: '?' :: ':' :: cs } =
      ((grouped bound {}).run { rest := cs }).bind fun p =>
        (pieces bound (⟨some p.1.node, p.1.depth + 1⟩ :: done)).run p.2 := by
  rw [pieces]
  rfl

theorem run_grouped (bound : Nat) (cs : List Char) :
    (grouped (bound + 1) {}).run { rest := cs } =
      ((alternatives bound).run { rest := cs }).bind fun p =>
        ((expect ')').run p.2).bind fun q => some (inChoice p.1, { q.2 with flags := {} }) := by
  rw [grouped]
  rfl

theorem run_pieces_end (bound : Nat) (done : List Piece) (groups : Nat) (names : List String) :
    (pieces (bound + 1) done).run ⟨[], {}, groups, names⟩ =
      some (inSequence done, ⟨[], {}, groups, names⟩) := by
  rw [pieces]
  rfl

theorem inSequence_pair (first second : Node) (depth : Nat) :
    inSequence [⟨some second, depth + 1⟩, ⟨some first, 0⟩] =
      ⟨some (.concat [first, second]), depth + 2⟩ := by
  simp [inSequence]

/-- The reading of a pattern as a group with an anchor in front, where the inside of the group and the
closing parenthesis are read as they are. -/
theorem run_anchored {bound : Nat} {cs : List Char} {branches : List Piece} {r : Reading}
    (h : (alternatives bound).run { rest := cs } = some (branches, r)) :
    (r.rest = [] → (alternatives (bound + 4)).run { rest := '^' :: '(' :: '?' :: ':' :: cs } = none) ∧
      (r.rest = [')'] →
        (alternatives (bound + 4)).run { rest := '^' :: '(' :: '?' :: ':' :: cs } =
          some ([⟨some (.concat [.look .textStart, (inChoice branches).node]),
            (inChoice branches).depth + 2⟩], ⟨[], {}, r.groups, r.names⟩)) := by
  have hgroup : (pieces (bound + 3) []).run { rest := '^' :: '(' :: '?' :: ':' :: cs } =
      ((expect ')').run r).bind fun q =>
        (pieces (bound + 1) [⟨some (inChoice branches).node, (inChoice branches).depth + 1⟩,
          ⟨some (.look .textStart), 0⟩]).run { q.2 with flags := {} } := by
    rw [run_pieces_caret, run_pieces_group, run_grouped, h, Option.bind_some, Option.bind_assoc]
    rfl
  rw [alternatives, StateT.run_bind, hgroup]
  constructor
  · intro hr
    rw [run_expect_nil hr]
    rfl
  · intro hr
    obtain ⟨rest, flags, groups, names⟩ := r
    subst hr
    have hexpect :
        (expect ')').run ⟨[')'], flags, groups, names⟩ = some ((), ⟨[], flags, groups, names⟩) := rfl
    rw [hexpect, Option.bind_some, run_pieces_end, inSequence_pair]
    rfl

end Reader

open Reader (Piece alternatives inChoice)

/-! ## Pieces -/

/-- The piece that a text writes, however deep it nests. -/
def piece? (text : String) : Option Piece :=
  match (alternatives (4 * text.length + 8)).run { rest := text.toList } with
  | some (branches, r) => if r.rest.isEmpty then some (inChoice branches) else none
  | none => none

theorem Node.read?_eq (text : String) :
    Node.read? text =
      (piece? text).bind fun p => if p.depth ≤ maxDepth then some p.node else none := by
  unfold Node.read? piece?
  cases (alternatives (4 * text.length + 8)).run { rest := text.toList } with
  | none => rfl
  | some found =>
    obtain ⟨branches, r⟩ := found
    dsimp only
    cases r.rest.isEmpty with
    | true => simp
    | false => rfl

theorem piece?_eq_some {text : String} {p : Piece} :
    piece? text = some p ↔ ∃ branches r,
      (alternatives (4 * text.length + 8)).run { rest := text.toList } = some (branches, r) ∧
        r.rest = [] ∧ inChoice branches = p := by
  unfold piece?
  cases (alternatives (4 * text.length + 8)).run { rest := text.toList } with
  | none => exact ⟨nofun, fun ⟨_, _, h, _⟩ => nomatch h⟩
  | some found =>
    obtain ⟨branches, r⟩ := found
    constructor
    · intro h
      dsimp only at h
      split at h
      · rename_i hr
        cases h
        exact ⟨branches, r, rfl, List.isEmpty_iff.1 hr, rfl⟩
      · cases h
    · rintro ⟨_, _, ⟨⟩, hr, rfl⟩
      exact if_pos (List.isEmpty_iff.2 hr)

theorem toList_closed (text : String) : (text ++ ")").toList = text.toList ++ [')'] :=
  String.toList_append

/-- A text that writes a piece is read, with a parenthesis behind it, up to the parenthesis, or to the
end, if a comment takes the parenthesis; only in the latter case the two write a piece together. -/
theorem run_closed {text : String} {p : Piece} (h : piece? text = some p) :
    ∃ branches r, inChoice branches = p ∧
      (alternatives (4 * (text ++ ")").length + 8)).run { rest := text.toList ++ [')'] } =
        some (branches, r) ∧
      (r.rest = [')'] ∧ (piece? (text ++ ")")).isSome = false ∨
        r.rest = [] ∧ (piece? (text ++ ")")).isSome = true ∧ EndsInComment text.toList) := by
  obtain ⟨branches, r, hrun, hr, rfl⟩ := piece?_eq_some.1 h
  have hb : 4 * text.length + 8 ≤ 4 * (text ++ ")").length + 8 := by
    rw [String.length_append]
    omega
  rcases (Reader.alternatives_extends _ hb _ _ _ True.intro hrun).closed with hc | ⟨-, hcomment, hc⟩
  · have hrest : r.closed.rest = [')'] := by
      rw [Reading.closed, hr]
      rfl
    refine ⟨branches, r.closed, rfl, hc, .inl ⟨hrest, Bool.eq_false_iff.2 fun hsome => ?_⟩⟩
    obtain ⟨q, hq⟩ := Option.isSome_iff_exists.1 hsome
    obtain ⟨_, r', hrun', hend, -⟩ := piece?_eq_some.1 hq
    rw [toList_closed] at hrun'
    cases hc.symm.trans hrun'
    rw [hrest] at hend
    cases hend
  · refine ⟨branches, r, rfl, hc, .inr ⟨hr, ?_, hcomment⟩⟩
    rw [piece?_eq_some.2 ⟨branches, r, by rw [toList_closed]; exact hc, hr, rfl⟩]
    rfl

/-- A pattern of which a comment takes a parenthesis behind it has a number sign in the last line. -/
theorem endsInComment_of_closed {text : String} {p : Piece} (h : piece? text = some p)
    (hc : (piece? (text ++ ")")).isSome = true) : EndsInComment text.toList := by
  obtain ⟨_, _, -, -, ⟨-, hnone⟩ | ⟨-, -, hcomment⟩⟩ := run_closed h
  · rw [hnone] at hc
    cases hc
  · exact hcomment

/-- The piece that a pattern writes as a group with an anchor in front. -/
theorem piece?_anchored {text : String} {p : Piece} (h : piece? text = some p) :
    piece? ("^(?:" ++ text ++ ")") =
      if (piece? (text ++ ")")).isSome then none
      else some ⟨some (.concat [.look .textStart, p.node]), p.depth + 2⟩ := by
  obtain ⟨branches, r, rfl, hrun, hr⟩ := run_closed h
  have hlength : 4 * ("^(?:" ++ text ++ ")").length + 8 = 4 * (text ++ ")").length + 8 + 16 := by
    rw [String.length_append, String.length_append, String.length_append]
    show 4 * (4 + text.length + 1) + 8 = 4 * (text.length + 1) + 8 + 16
    omega
  have hlist : ("^(?:" ++ text ++ ")").toList = '^' :: '(' :: '?' :: ':' :: (text.toList ++ [')']) := by
    rw [toList_closed, String.toList_append]
    rfl
  have hb : 4 * (text ++ ")").length + 8 ≤ 4 * (text ++ ")").length + 8 + 12 := Nat.le_add_right _ _
  obtain ⟨hlost, hread⟩ :=
    Reader.run_anchored (Reader.alternatives_extends _ hb _ _ _ True.intro hrun).same
  rcases hr with ⟨hr, hc⟩ | ⟨hr, hc, -⟩
  · rw [hc, if_neg Bool.false_ne_true]
    exact piece?_eq_some.2 ⟨_, _, by rw [hlength, hlist]; exact hread hr, rfl, rfl⟩
  · rw [hc, if_pos rfl]
    unfold piece?
    rw [hlength, hlist, hlost hr]

/-! ## Patterns -/

/-- A text is a pattern: it writes a piece that nests no deeper, and takes no more storage, than it may. -/
structure IsPattern (text : String) (p : Piece) : Prop where
  writes : piece? text = some p
  shallow : p.depth ≤ maxDepth
  fits : p.node.fits = true

theorem exists_isPattern {text : String}
    (h : (piece? text).any (fun p => decide (p.depth ≤ maxDepth) && p.node.fits) = true) :
    ∃ p, IsPattern text p := by
  cases hp : piece? text with
  | none =>
    rw [hp] at h
    cases h
  | some p =>
    rw [hp, Option.any_some, Bool.and_eq_true] at h
    exact ⟨p, hp, of_decide_eq_true h.1, h.2⟩

/-- A piece can stand in a group with an anchor in front: no comment of the text takes a parenthesis behind
it, and there is room for the two. -/
structure Enclosable (text : String) (p : Piece) : Prop where
  closes : (piece? (text ++ ")")).isSome = false
  shallow : p.depth + 2 ≤ maxDepth
  fits : (Node.concat [.look .textStart, p.node]).fits = true

theorem isPattern_anchored_iff {text : String} {p q : Piece} (h : piece? text = some p) :
    IsPattern ("^(?:" ++ text ++ ")") q ↔
      Enclosable text p ∧ q = ⟨some (.concat [.look .textStart, p.node]), p.depth + 2⟩ := by
  constructor
  · rintro ⟨hw, hd, hf⟩
    rw [piece?_anchored h] at hw
    split at hw
    · cases hw
    · rename_i hc
      cases hw
      exact ⟨⟨Bool.eq_false_iff.2 hc, hd, hf⟩, rfl⟩
  · rintro ⟨⟨hc, hd, hf⟩, rfl⟩
    refine ⟨?_, hd, hf⟩
    rw [piece?_anchored h, hc]
    exact if_neg Bool.false_ne_true

/-! ## Engines -/

/-- What is assumed of an engine: it compiles what is a pattern and nothing else, and it counts the groups of
the pattern. -/
structure Engine.CompilesPatterns (E : Engine) : Prop where
  compile_iff (text : String) : (∃ r, E.compile text = some r) ↔ ∃ p, IsPattern text p
  groupCount_eq {text : String} {r : E.Regex} {p : Piece} : E.compile text = some r → IsPattern text p →
    E.groupCount r = p.node.groupCount

theorem Regex.compile_iff_isPattern {text : String} {r : Regex} :
    compile text = some r ↔ ∃ p, IsPattern text p ∧ r = ⟨p.node.groupCount, p.node.program⟩ := by
  rw [compile_eq_some, Node.read?_eq]
  constructor
  · rintro ⟨n, hn, hf, rfl⟩
    obtain ⟨p, hp, hn⟩ := Option.bind_eq_some_iff.1 hn
    split at hn
    · rename_i hd
      cases hn
      exact ⟨p, ⟨hp, hd, hf⟩, rfl⟩
    · cases hn
  · rintro ⟨p, ⟨hw, hd, hf⟩, rfl⟩
    rw [hw]
    exact ⟨p.node, if_pos hd, hf, rfl⟩

/-- Patterns are what is read here. -/
theorem Regex.compilesPatterns : engine.CompilesPatterns where
  compile_iff text := by
    constructor
    · rintro ⟨r, hr⟩
      obtain ⟨p, hp, -⟩ := compile_iff_isPattern.1 hr
      exact ⟨p, hp⟩
    · rintro ⟨p, hp⟩
      exact ⟨_, compile_iff_isPattern.2 ⟨p, hp, rfl⟩⟩
  groupCount_eq {text r p} hr hp := by
    obtain ⟨q, hq, rfl⟩ := compile_iff_isPattern.1 hr
    cases hq.writes.symm.trans hp.writes
    rfl

namespace Compiled

section
variable {E : Engine} (hE : E.CompilesPatterns) {written : String}
include hE

theorem read_of_isPattern (text : String) {p : Piece} (hp : IsPattern written p) :
    ∃ r, E.read text written = .ok r ∧ E.groupCount r = p.node.groupCount := by
  obtain ⟨r, hr⟩ := (hE.compile_iff written).2 ⟨p, hp⟩
  exact ⟨r, Engine.read_eq_ok.2 hr, hE.groupCount_eq hr hp⟩

theorem read_of_not_isPattern (text : String) (h : ∀ p, ¬IsPattern written p) :
    E.read text written = .error (.invalidPattern text) := by
  unfold Engine.read
  cases hr : E.compile written with
  | none => rfl
  | some r =>
    obtain ⟨p, hp⟩ := (hE.compile_iff written).1 ⟨r, hr⟩
    exact absurd hp (h p)

/-- **A pattern is compiled if and only if it can stand in a group with an anchor in front**, whatever the
engine, if it compiles what is a pattern. A text that is no pattern is refused as such, and a pattern whose
groups do not include the one that is asked for, as lacking it. Any other pattern is compiled, unless its last
comment takes the parenthesis of the group, so that there is a number sign in its last line, or unless it has
no room for two levels more and the anchor; in these cases it is refused as if it were no pattern. -/
theorem compiled_iff_enclosable (text : String) (group : Nat) :
    ((∀ p, ¬IsPattern text p) → ofText E text group = .error (.invalidPattern text)) ∧
      ∀ p, IsPattern text p →
        (p.node.groupCount ≤ group → ofText E text group = .error (.missingGroup text group)) ∧
        (group < p.node.groupCount →
          ((∃ c, ofText E text group = .ok c) ↔ Enclosable text p) ∧
          (¬Enclosable text p → ofText E text group = .error (.invalidPattern text))) ∧
        ((piece? (text ++ ")")).isSome = true → EndsInComment text.toList) := by
  refine ⟨fun h => ?_, fun p hp => ?_⟩
  · rw [ofText_eq, read_of_not_isPattern hE text h]
    rfl
  obtain ⟨plain, hplain, hcount⟩ := read_of_isPattern hE text hp
  refine ⟨fun hle => ?_, fun hlt => ⟨⟨?_, fun he => ?_⟩, fun hne => ?_⟩,
    endsInComment_of_closed hp.writes⟩
  · rw [ofText_eq, hplain]
    exact if_pos (hcount ▸ hle)
  · rintro ⟨c, hc⟩
    obtain ⟨_, anchored, -, -, hanchored, -⟩ := ofText_eq_ok.1 hc
    obtain ⟨q, hq⟩ := (hE.compile_iff _).1 ⟨anchored, hanchored⟩
    exact ((isPattern_anchored_iff hp.writes).1 hq).1
  · have hq := (isPattern_anchored_iff hp.writes).2 ⟨he, rfl⟩
    obtain ⟨anchored, hanchored⟩ := (hE.compile_iff _).2 ⟨_, hq⟩
    exact ⟨_, ofText_eq_ok.2 ⟨plain, anchored, Engine.read_eq_ok.1 hplain, hcount ▸ hlt, hanchored, rfl⟩⟩
  · have hanchored : E.read text ("^(?:" ++ text ++ ")") = .error (.invalidPattern text) :=
      read_of_not_isPattern hE text fun q hq => hne ((isPattern_anchored_iff hp.writes).1 hq).1
    rw [ofText_eq, hplain, hanchored]
    exact if_neg (Nat.not_le.2 (hcount ▸ hlt))

end

/-- A comment that ends before the parenthesis does no harm. -/
theorem compiled_iff_enclosable_of_comment :
    (∃ p, IsPattern "(?x)a#b\n" p ∧ 0 < p.node.groupCount ∧ Enclosable "(?x)a#b\n" p) ∧
      (∃ c, ofText engine "(?x)a#b\n" 0 = .ok c) ∧ ofText engine "(" 0 = .error (.invalidPattern "(") := by
  have hopen : piece? "(" = none := by decide +kernel
  have hclose : (piece? ("(?x)a#b\n" ++ ")")).isSome = false := by decide +kernel
  have hroom : (piece? "(?x)a#b\n").all (fun p => decide (0 < p.node.groupCount) &&
      decide (p.depth + 2 ≤ maxDepth) && (Node.concat [.look .textStart, p.node]).fits) = true := by
    decide +kernel
  obtain ⟨p, hp⟩ : ∃ p, IsPattern "(?x)a#b\n" p := exists_isPattern (by decide +kernel)
  rw [hp.writes, Option.all_some, Bool.and_eq_true, Bool.and_eq_true, decide_eq_true_eq,
    decide_eq_true_eq] at hroom
  obtain ⟨⟨hgroup, hdepth⟩, hfits⟩ := hroom
  have he : Enclosable "(?x)a#b\n" p := ⟨hclose, hdepth, hfits⟩
  obtain ⟨-, hpattern⟩ := compiled_iff_enclosable Regex.compilesPatterns "(?x)a#b\n" 0
  refine ⟨⟨p, hp, hgroup, he⟩, ((hpattern p hp).2.1 hgroup).1.2 he, ?_⟩
  exact (compiled_iff_enclosable Regex.compilesPatterns "(" 0).1 fun p hp => by
    cases hopen.symm.trans hp.writes

/-- A pattern that ends in a comment is refused, because the comment takes the parenthesis of the group. -/
theorem comment_refused :
    (∃ p, IsPattern "(?x)a#b" p ∧ 0 < p.node.groupCount) ∧ (piece? ("(?x)a#b" ++ ")")).isSome = true ∧
      ofText engine "(?x)a#b" 0 = .error (.invalidPattern "(?x)a#b") := by
  obtain ⟨p, hp⟩ : ∃ p, IsPattern "(?x)a#b" p := exists_isPattern (by decide +kernel)
  have hgroup : (piece? "(?x)a#b").all (fun p => decide (0 < p.node.groupCount)) = true := by
    decide +kernel
  rw [hp.writes, Option.all_some, decide_eq_true_eq] at hgroup
  have hrefused : (match ofText engine "(?x)a#b" 0 with
      | .error e => decide (e = .invalidPattern "(?x)a#b")
      | .ok _ => false) = true := by decide +kernel
  refine ⟨⟨p, hp, hgroup⟩, by decide +kernel, ?_⟩
  split at hrefused
  · rename_i h
    rw [h, of_decide_eq_true hrefused]
  · cases hrefused

end Compiled

end Triparse.Pattern
