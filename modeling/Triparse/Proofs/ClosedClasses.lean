import Triparse.Pattern.Bracketed
import Triparse.Proofs.ClosedReading

/-!
# Reading escapes and classes with a parenthesis behind

The steps that read escapes and bracketed classes read the same with a closing parenthesis behind the
pattern. Two of them go back to where they have begun, if what they have looked at is not what they read:
the kind of a boundary (`run_boundary`) and a named class (`run_namedClass`).
-/

set_option autoImplicit false

namespace Triparse.Pattern

namespace Reader

variable {α : Type}

namespace Extends

variable {P : Reading → Prop}

theorem underCase (s : CharSet) : Extends P (underCase s) (underCase s) :=
  .get (fun _ => rfl) fun _ => .pure _

theorem negatedIf (negated : Bool) (s : CharSet) : Extends P (negatedIf negated s) (negatedIf negated s) :=
  .get (fun _ => rfl) fun _ => .bind (.require _) fun _ => .pure _

theorem classChar (c : Char) : Extends P (classChar c) (classChar c) :=
  .get (fun _ => rfl) fun _ => .bind (.require _) fun _ => .pure _

end Extends

/-- The set of a named property. -/
def propertyNamed (negated : Bool) (name : List Char) : Reader CharSet := do
  require (← get).flags.unicode
  match property? name with
  | some t => negatedIf negated (← underCase (.table t))
  | none => failure

/-- Whether a character may stand in the kind of a boundary. -/
def isKindChar (c : Char) : Bool := Text.isLetter c || c == '-'

/-- The kind of a boundary in braces. -/
def boundaryKind (bound : Nat) (basic : Bool) : Reader Look := do
  let kind ← takeWhile isKindChar bound
  expect '\x7d'
  match String.ofList kind with
  | "start" => pure (.wordStart basic)
  | "end" => pure (.wordEnd basic)
  | "start-half" => pure (.wordStartHalf basic)
  | "end-half" => pure (.wordEndHalf basic)
  | _ => failure

section
variable {bound : Nat} {basic : Bool} {r : Reading}

theorem run_boundary_plain (h : r.rest.head? ≠ some '\x7b') :
    (boundary bound basic).run r = some (.wordBoundary basic, r) := by
  unfold boundary
  rw [StateT.run_bind]
  show (if (r.rest.head? != some '\x7b') = true then _ else _ : Reader Look).run r = _
  rw [if_pos (bne_iff_ne.2 h)]
  rfl

/-- A brace is only read if the kind of a boundary begins behind it. -/
theorem run_boundary_brace (h : r.rest.head? = some '\x7b') :
    (boundary bound basic).run r = (advance.run r).bind fun p => (peekSome.run p.2).bind fun q =>
      if isKindChar q.1 then (boundaryKind bound basic).run q.2 else some (.wordBoundary basic, r) := by
  unfold boundary
  rw [StateT.run_bind]
  show (if (r.rest.head? != some '\x7b') = true then _ else _ : Reader Look).run r = _
  rw [h, if_neg (by decide), StateT.run_bind]
  refine congrArg (Option.bind _) (funext fun p => ?_)
  rw [StateT.run_bind]
  refine congrArg (Option.bind _) (funext fun q => ?_)
  show (if (!isKindChar q.1) = true then _ else _ : Reader Look).run q.2 = _
  cases isKindChar q.1 <;> rfl

theorem run_boundary_next (h : r.rest.head? = some '\x7b') {r₁ : Reading} {c : Char}
    (ha : advance.run r = some ((), r₁)) (hc : r₁.rest.head? = some c) :
    (boundary bound basic).run r =
      if isKindChar c then (boundaryKind bound basic).run r₁ else some (.wordBoundary basic, r) := by
  rw [run_boundary_brace h, ha, Option.bind_some, (keeps_peekSome hc).same]
  rfl

theorem exists_next_of_boundary (h : r.rest.head? = some '\x7b') {l : Look} {r' : Reading}
    (hrun : (boundary bound basic).run r = some (l, r')) :
    ∃ r₁ c, advance.run r = some ((), r₁) ∧ r₁.rest.head? = some c := by
  rw [run_boundary_brace h] at hrun
  obtain ⟨⟨⟨⟩, r₁⟩, ha, hnext⟩ := Option.bind_eq_some_iff.1 hrun
  obtain ⟨⟨c, _⟩, hc, -⟩ := Option.bind_eq_some_iff.1 hnext
  exact ⟨r₁, c, ha, (eq_of_peekSome hc).1⟩

end

namespace Extends

variable {P : Reading → Prop}

theorem propertyNamed (negated : Bool) (name : List Char) :
    Extends P (propertyNamed negated name) (propertyNamed negated name) := by
  unfold Reader.propertyNamed
  refine .get (fun _ => rfl) fun _ => .bind (.require _) fun _ => ?_
  split
  · exact (underCase _).bind fun s => .negatedIf negated s
  · exact .failure

theorem propertySet {bound bound' : Nat} (hb : bound ≤ bound') (negated : Bool) :
    Extends Reading.More (propertySet bound negated) (propertySet bound' negated) := by
  unfold Reader.propertySet
  refine .bind .advance fun _ => .peekSome_bind fun c => ?_
  split
  · exact .bind .advance fun _ => .takeWhile_expect hb fun name =>
      .bind (.pure name) (propertyNamed negated)
  · exact .require_bind fun _ => .bind .bump fun _ => .bind (.pure [c]) (propertyNamed negated)

theorem boundaryKind {bound bound' : Nat} (hb : bound ≤ bound') (basic : Bool) :
    Extends P (boundaryKind bound basic) (boundaryKind bound' basic) := by
  unfold Reader.boundaryKind
  refine .takeWhile_expect hb fun kind => ?_
  split
  case h_5 => exact .failure
  all_goals exact .pure _

theorem boundary {bound bound' : Nat} (hb : bound ≤ bound') (basic : Bool) :
    Extends P (boundary bound basic) (boundary bound' basic) := by
  intro r a r' _ h
  by_cases hbrace : r.rest.head? = some '\x7b'
  · have hbrace' : r.closed.rest.head? = some '\x7b' := by
      rw [Reading.closed, List.head?_append, hbrace]
      rfl
    obtain ⟨r₁, c, hadvance, hc⟩ := exists_next_of_boundary hbrace h
    have hkeep := Extends.advance r () r₁ (more_of_head? hbrace) hadvance
    -- There is a character after the brace, so no comment has taken the parenthesis.
    have hadvance' := hkeep.closed.resolve_right fun h => more_of_head? hc h.1
    have hc' : r₁.closed.rest.head? = some c := by
      rw [Reading.closed, List.head?_append, hc]
      rfl
    rw [run_boundary_next hbrace hadvance hc] at h
    have hsame : (Reader.boundary bound' basic).run r = _ := run_boundary_next hbrace hkeep.same hc
    have hclosed : (Reader.boundary bound' basic).run r.closed = _ :=
      run_boundary_next hbrace' hadvance' hc'
    split at h
    · rename_i hkind
      rw [if_pos hkind] at hsame hclosed
      exact (boundaryKind (P := fun _ => True) hb basic r₁ a r' True.intro h).of_run hsame hclosed hkeep.suffix
    · rename_i hkind
      rw [if_neg hkind] at hsame hclosed
      cases h
      exact .still hsame rfl hclosed
  · have hbrace' : r.closed.rest.head? ≠ some '\x7b' := by
      rw [Reading.closed, List.head?_append]
      cases hc : r.rest.head? with
      | none => decide
      | some c => exact fun h => hbrace (hc.trans h)
    rw [run_boundary_plain hbrace] at h
    cases h
    exact .still (run_boundary_plain hbrace) rfl (run_boundary_plain hbrace')

theorem escape {bound bound' : Nat} (hb : bound ≤ bound') :
    Extends P (escape bound) (escape bound') := by
  unfold Reader.escape
  refine .bind (.expect _) fun _ => .peekSome_bind fun c => .get (fun _ => rfl) fun r => ?_
  dsimp only
  split
  · exact .bind .advance fun _ => .bind (.hex hb 2) fun d => .pure _
  · exact .bind .advance fun _ => .bind (.hex hb 4) fun d => .pure _
  · exact .bind .advance fun _ => .bind (.hex hb 8) fun d => .pure _
  · exact .bind (.propertySet hb false) fun s => .pure _
  · exact .bind (.propertySet hb true) fun s => .pure _
  · refine .bind .bump fun _ => ?_
    split
    · exact .pure _
    · split
      · exact .pure _
      · exact .bind (.negatedIf true _) fun s => .pure _
      · split
        case h_9 => exact .bind (.boundary hb _) fun l => .pure _
        case h_13 => exact .failure
        all_goals exact .pure _

end Extends

/-! ## Classes -/

/-- The set of a named class. -/
def namedSet (negated : Bool) (s : CharSet) : Reader (Option CharSet) := do
  return some (← negatedIf negated (← underCase s))

/-- What follows the sign of a named class; `before` is the state before the sign. -/
def className (before : Reading) (negated : Bool) : Reader (Option CharSet) := do
  let r ← get
  let name := r.rest.takeWhile (· != ':')
  set { r with rest := r.rest.drop name.length }
  if ← takeText ":]" then
    match CharSet.named? (String.ofList name) with
    | some s => namedSet negated s
    | none =>
      set before
      return none
  else
    set before
    return none

theorem run_namedClass (r : Reading) :
    namedClass.run r = ((takeText "[:").run r).bind fun p =>
      if p.1 then (takeText "^" >>= className r).run p.2 else some (none, r) := by
  unfold namedClass
  rw [StateT.run_bind, StateT.run_get, pure_bind, StateT.run_bind]
  refine congrArg (Option.bind _) (funext fun p => ?_)
  cases p.1 <;> rfl

/-- A name, if it is one and the closing sign follows, is read off the rest; otherwise nothing is. -/
theorem run_className (before : Reading) (negated : Bool) (r : Reading) :
    (className before negated).run r =
      let name := r.rest.takeWhile (· != ':')
      let behind := r.rest.drop name.length
      if ":]".toList.isPrefixOf behind then
        match CharSet.named? (String.ofList name) with
        | some s => (namedSet negated s).run { r with rest := behind.drop 2 }
        | none => some (none, before)
      else some (none, before) := by
  unfold className
  rw [StateT.run_bind, StateT.run_get, pure_bind, StateT.run_bind, StateT.run_set, pure_bind,
    StateT.run_bind, run_takeText]
  dsimp only
  split
  · dsimp only [Option.bind_eq_bind, Option.bind_some]
    rw [if_pos rfl]
    split
    · rfl
    · rfl
  · rfl

/-- Whether the closing sign follows a name does not depend on the parenthesis. -/
theorem className_closed (cs : List Char) :
    ":]".toList.isPrefixOf ((cs ++ [')']).drop ((cs ++ [')']).takeWhile (· != ':')).length) =
      ":]".toList.isPrefixOf (cs.drop (cs.takeWhile (· != ':')).length) := by
  by_cases hbehind : cs.drop (cs.takeWhile (· != ':')).length = []
  · have hlen : (cs.takeWhile (· != ':')).length = cs.length :=
      Nat.le_antisymm (List.takeWhile_sublist _).length_le (List.drop_eq_nil_iff.1 hbehind)
    rw [hbehind, List.takeWhile_append, if_pos hlen]
    simp
  · obtain ⟨hname, hdrop⟩ := takeWhile_closed hbehind
    rw [hname, hdrop, isPrefixOf_closed (by decide)]

namespace Extends

variable {P : Reading → Prop}

theorem namedSet (negated : Bool) (s : CharSet) : Extends P (namedSet negated s) (namedSet negated s) :=
  (underCase s).bind fun s => (negatedIf negated s).bind fun s => .pure (some s)

theorem namedClass : Extends P namedClass namedClass := by
  intro r a r' _ h
  rw [run_namedClass] at h
  obtain ⟨⟨sign, r₁⟩, hsign, hafter⟩ := Option.bind_eq_some_iff.1 h
  have hsign' := run_takeText_closed (by decide) hsign
  cases sign with
  | false =>
    cases hafter
    refine .still ?_ rfl ?_
    · rw [run_namedClass, hsign]
      rfl
    · rw [run_namedClass, hsign']
      rfl
  | true =>
    rw [if_pos rfl, StateT.run_bind] at hafter
    obtain ⟨⟨negated, r₂⟩, hcaret, hname⟩ := Option.bind_eq_some_iff.1 hafter
    have hcaret' := run_takeText_closed (by decide) hcaret
    have hstep : Reader.namedClass.run r = (className r negated).run r₂ := by
      rw [run_namedClass, hsign, Option.bind_some, if_pos rfl, StateT.run_bind, hcaret]
      rfl
    have hstep' : Reader.namedClass.run r.closed = (className r.closed negated).run r₂.closed := by
      rw [run_namedClass, hsign', Option.bind_some, if_pos rfl, StateT.run_bind, hcaret']
      rfl
    have hsuffix := (suffix_of_takeText hcaret).trans (suffix_of_takeText hsign)
    have hname' : (className r negated).run r₂ = some (a, r') := hname
    rw [run_className] at hname hstep'
    dsimp only at hname hstep'
    rw [show r₂.closed.rest = r₂.rest ++ [')'] from rfl, className_closed] at hstep'
    split at hname
    · rename_i hclose
      have hbehind : r₂.rest.drop (r₂.rest.takeWhile (· != ':')).length ≠ [] := by
        rintro hend
        rw [hend] at hclose
        cases hclose
      obtain ⟨hsame, hdrop⟩ := takeWhile_closed hbehind
      rw [if_pos hclose, hsame, hdrop] at hstep'
      split at hname
      · rename_i s hs
        have hset := namedSet (P := fun _ => True) negated s _ a r' True.intro hname
        have hbelow (n : Nat) : (r₂.rest.drop n).drop 2 <:+ r.rest :=
          ((List.drop_suffix 2 _).trans (List.drop_suffix n _)).trans hsuffix
        rw [hs, show 2 = ":]".toList.length from rfl, drop_closed hclose] at hstep'
        exact hset.of_run (hstep.trans (hname'.trans hset.same.symm)) hstep' (hbelow _)
      · rename_i hs
        rw [hs] at hstep'
        cases hname
        exact .still (hstep.trans hname') rfl hstep'
    · rename_i hclose
      rw [if_neg hclose] at hstep'
      cases hname
      exact .still (hstep.trans hname') rfl hstep'

theorem classItem {bound bound' : Nat} (hb : bound ≤ bound') :
    Extends P (classItem bound) (classItem bound') := by
  unfold Reader.classItem
  refine .peekSome_bind fun c => ?_
  split
  · exact .escape hb
  · exact .bind .bump fun _ => .pure _

theorem itemSet (e : Escape) : Extends P (itemSet e) (itemSet e) := by
  cases e with
  | literal c => exact (classChar c).bind fun c => .pure _
  | byte c => exact (classChar c).bind fun c => .pure _
  | set s => exact .pure s
  | look l => exact .failure

theorem itemEnd (e : Escape) : Extends P (itemEnd e) (itemEnd e) := by
  cases e with
  | literal c => exact classChar c
  | byte c => exact classChar c
  | set s => exact .failure
  | look l => exact .failure

end Extends

/-- What is in view does not change, unless only the parenthesis is. -/
theorem firstInView_closed (inComment : Bool) (cs : List Char) :
    firstInView inComment (cs ++ [')']) = (firstInView inComment cs).or (some ')') := by
  induction cs generalizing inComment with
  | nil => cases inComment <;> rfl
  | cons c cs ih =>
    rw [List.cons_append, firstInView, firstInView]
    split
    · exact ih _
    · split
      · exact ih _
      · rfl

/-- Where nothing is in view, no sign of a class is next. -/
theorem head?_of_firstInView {cs : List Char} (h : firstInView false cs = none) {c : Char}
    (hc : cs.head? = some c) : c ≠ ']' ∧ c ≠ '-' := by
  obtain ⟨ds, rfl⟩ := List.head?_eq_some_iff.1 hc
  constructor
  · rintro rfl
    cases h
  · rintro rfl
    cases h

/-- Whether a character ends a range or makes it an operation. -/
def endsRange (past : Option Char) : Bool := past == some ']' || past == some '-'

/-- With a parenthesis behind, the character after the next one may be another one, but not a sign of a
class instead of another character, or the other way around. -/
theorem run_peekPast_closed {r : Reading} (hr : r.More) :
    ∃ past past', peekPast.run r = some (past, r) ∧ peekPast.run r.closed = some (past', r.closed) ∧
      endsRange past' = endsRange past := by
  have hdrop : r.closed.rest.drop 1 = r.rest.drop 1 ++ [')'] :=
    List.drop_append_of_le_length (List.length_pos_iff.2 hr)
  refine ⟨_, _, rfl, rfl, ?_⟩
  rw [hdrop, firstInView_closed, List.head?_append, show r.closed.flags = r.flags from rfl]
  generalize r.rest.drop 1 = cs
  cases r.flags.verbose with
  | false => cases cs.head? <;> rfl
  | true =>
    cases hv : firstInView false cs with
    | some c => rfl
    | none =>
      cases hc : cs.head? with
      | none => rfl
      | some c =>
        obtain ⟨hclose, hyphen⟩ := head?_of_firstInView hv hc
        have hends : endsRange (some c) = false := by simp [endsRange, hclose, hyphen]
        exact hends.symm

namespace Extends

variable {P : Reading → Prop}

theorem peekPast_bind {f g : Option Char → Reader α}
    (hg : ∀ past past', endsRange past' = endsRange past → g past' = g past)
    (h : ∀ past, Extends Reading.More (f past) (g past)) :
    Extends Reading.More (peekPast >>= f) (peekPast >>= g) := by
  intro r a r' hr hrun
  obtain ⟨past, past', hpast, hclosed, hends⟩ := run_peekPast_closed hr
  rw [StateT.run_bind, hpast] at hrun
  refine (h past r a r' hr hrun).of_run ?_ ?_ List.suffix_rfl
  · rw [StateT.run_bind, hpast]
    rfl
  · rw [StateT.run_bind, hclosed]
    exact congrArg (fun x => StateT.run x r.closed) (hg past past' hends)

theorem classRange {bound bound' : Nat} (hb : bound ≤ bound') :
    Extends P (classRange bound) (classRange bound') := by
  unfold Reader.classRange
  refine .bind (.classItem hb) fun first => .bind .skipBlank fun _ => .peekSome_bind fun c => ?_
  refine .peekPast_bind (fun past past' h => ?_) fun past => ?_
  · rw [Bool.or_assoc, Bool.or_assoc, ← endsRange, ← endsRange, h]
  · split
    · exact .itemSet first
    · refine .bind .advance fun _ => .bind (.map .peekSome _) fun _ => .bind (.classItem hb) fun last => ?_
      exact .bind (.itemEnd first) fun a => .bind (.itemEnd last) fun b => .bind (.require _) fun _ => .pure _

theorem combine (pending : Option (CharSet × Nat × SetOp)) (items : Items) :
    Extends P (combine pending items) (combine pending items) := by
  unfold Reader.combine
  cases pending with
  | none => exact .pure _
  | some p => exact (underCase _).bind fun lhs => (underCase _).bind fun rhs => .pure _

theorem operand (pending : Option (CharSet × Nat × SetOp)) (items : Items) (op : SetOp) :
    Extends P (operand pending items op) (operand pending items op) :=
  (combine pending items).bind fun _ => .pure _

theorem hyphens {bound bound' : Nat} (hb : bound ≤ bound') (items : Items) :
    Extends P (hyphens bound items) (hyphens bound' items) := by
  induction bound generalizing bound' items P with
  | zero => exact .failure
  | succ bound ih =>
    obtain ⟨bound', rfl, hb'⟩ := exists_bound hb
    rw [Reader.hyphens, Reader.hyphens]
    refine .peekSome_bind fun c => ?_
    split
    · exact .bind .advance fun _ => ih hb' _
    · exact .pure items

/-- A character may be taken before the rest of a step. -/
theorem advance_if {f g : Unit → Reader α} {condition : Bool}
    (h : Extends (fun _ => True) (f ()) (g ())) :
    Extends Reading.More (if condition then Reader.advance >>= f else f ())
      (if condition then Reader.advance >>= g else g ()) := by
  cases condition with
  | true => exact .bind .advance fun _ => h
  | false => exact h.anywhere

end Extends

/-- A class after what it begins with, which has been read. -/
def classFrom (negated : Bool) (bound : Nat) (leading : Items) : Reader (CharSet × Nat) := do
  discard peekSome
  let (set, depth) ← classBody bound none leading
  return (← negatedIf negated (← underCase set), depth + 1)

theorem classFrom_extends {bound bound' : Nat}
    (h : ∀ items, Extends (fun _ => True) (classBody bound none items) (classBody bound' none items))
    (negated : Bool) (leading : Items) :
    Extends (fun _ => True) (classFrom negated bound leading) (classFrom negated bound' leading) :=
  .bind (.map .peekSome _) fun _ => (h leading).bind fun _ =>
    .bind (.underCase _) fun s => .bind (.negatedIf negated s) fun _ => .pure _

mutual

theorem bracketed_extends : ∀ (bound : Nat) {bound' : Nat}, bound ≤ bound' →
    Extends (fun _ => True) (bracketed bound) (bracketed bound')
  | 0, _, _ => .failure
  | bound + 1, _, hb => by
    obtain ⟨bound', rfl, hb'⟩ := exists_bound hb
    rw [bracketed, bracketed]
    refine .bind (.expect _) fun _ => .bind .skipBlank fun _ => .peekSome_bind fun c => ?_
    have body := classFrom_extends (classBody_extends bound hb' none) (c == '^')
    refine .advance_if (.bind (.hyphens hb _) fun leading => .peekSome_bind fun d => ?_)
    dsimp only
    split
    · exact .bind .advance fun _ => .bind (.pure _) body
    · exact .bind (.pure _) body

theorem classBody_extends : ∀ (bound : Nat) {bound' : Nat}, bound ≤ bound' →
    ∀ (pending : Option (CharSet × Nat × SetOp)) (items : Items),
      Extends (fun _ => True) (classBody bound pending items) (classBody bound' pending items)
  | 0, _, _, _, _ => .failure
  | bound + 1, _, hb, pending, items => by
    obtain ⟨bound', rfl, hb'⟩ := exists_bound hb
    rw [classBody, classBody]
    have after (op : SetOp) := (Extends.operand (P := fun _ => True) pending items op).bind fun pending =>
      classBody_extends bound hb' pending {}
    refine .bind .skipBlank fun _ => .peekSome_bind fun c => ?_
    split
    · refine .bind .namedClass fun named => ?_
      split
      · exact classBody_extends bound hb' pending _
      · exact .bind (bracketed_extends bound hb') fun _ => classBody_extends bound hb' pending _
    · split
      · exact .bind .bump fun _ => .combine pending items
      · refine .bind (.takeText (by decide)) fun _ => ?_
        split
        · exact after .intersection
        · refine .bind (.takeText (by decide)) fun _ => ?_
          split
          · exact after .difference
          · refine .bind (.takeText (by decide)) fun _ => ?_
            split
            · exact after .symmetricDifference
            · exact .bind (.classRange hb) fun _ => classBody_extends bound hb' pending _

end

end Reader

end Triparse.Pattern
