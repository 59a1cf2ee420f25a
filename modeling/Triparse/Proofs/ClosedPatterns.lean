import Triparse.Pattern.Reader
import Triparse.Proofs.ClosedClasses

/-!
# Reading patterns with a parenthesis behind

A pattern that is read to its end is read, with a closing parenthesis behind it, up to the parenthesis, or
to the end, if a comment takes the parenthesis (`alternatives_extends`).
-/

set_option autoImplicit false

namespace Triparse.Pattern

namespace Reader

variable {α β : Type}

/-- The number of the next group. -/
def nextGroup : Reader Nat := do
  let r ← get
  set { r with groups := r.groups + 1 }
  pure (r.groups + 1)

/-- The end of a counted repetition, after its range. -/
def countsEnd (min : Nat) (range : Nat × Option Nat) : Reader (Nat × Option Nat) := do
  require ((← peek) == some '\x7d')
  advance
  require (match range.2 with
    | some max => min ≤ max
    | none => true)
  pure range

/-- Whether characters are the name of a group. -/
def isGroupName (name : List Char) : Bool :=
  match name with
  | [] => false
  | c :: cs => isNameChar true c && cs.all (isNameChar false)

theorem run_groupName {r : Reading} {name : List Char} (h : r.rest.takeWhile (· != '>') = name) :
    groupName.run r =
      if isGroupName name && !r.names.contains (String.ofList name) then
        (expect '>').run
          { r with rest := r.rest.drop name.length, names := String.ofList name :: r.names }
      else none := by
  subst h
  have hrun : groupName.run r = (require (isGroupName (r.rest.takeWhile (· != '>'))) >>= fun _ =>
      require (!r.names.contains (String.ofList (r.rest.takeWhile (· != '>')))) >>= fun _ =>
      set { r with
        rest := r.rest.drop (String.ofList (r.rest.takeWhile (· != '>'))).length
        names := String.ofList (r.rest.takeWhile (· != '>')) :: r.names } >>= fun _ =>
      expect '>').run r := rfl
  rw [hrun, String.length_ofList]
  cases isGroupName (r.rest.takeWhile (· != '>')) <;>
    cases !r.names.contains (String.ofList (r.rest.takeWhile (· != '>'))) <;> rfl

namespace Extends

variable {P : Reading → Prop}

/-! ## Nodes -/

theorem literal (c : Char) : Extends P (literal c) (literal c) := .get (fun _ => rfl) fun _ => .pure _

theorem escapeNode (e : Escape) : Extends P (escapeNode e) (escapeNode e) := by
  cases e with
  | literal c => exact literal c
  | byte c => exact (classChar c).bind literal
  | set s => exact .pure _
  | look l => exact .pure _

theorem dot : Extends P dot dot :=
  .get (fun _ => rfl) fun _ => .bind (.require _) fun _ => .pure _

theorem anchor (line : Bool → Look) (text : Look) : Extends P (anchor line text) (anchor line text) :=
  .get (fun _ => rfl) fun _ => .pure _

/-! ## Groups and repetitions -/

theorem forIn {l : List β} {f g : β → PUnit → Reader (ForInStep PUnit)}
    (h : ∀ b ∈ l, ∀ u, Extends (fun _ => True) (f b u) (g b u)) (u : PUnit) :
    Extends (fun _ => True) (ForIn.forIn l u f) (ForIn.forIn l u g) := by
  induction l generalizing u with
  | nil => exact .pure u
  | cons b l ih =>
    obtain ⟨hb, hl⟩ := List.forall_mem_cons.1 h
    rw [List.forIn_cons, List.forIn_cons]
    refine (hb u).bind fun step => ?_
    cases step with
    | done u => exact .pure u
    | yield u => exact ih hl u

theorem flagLetters {bound bound' : Nat} (hb : bound ≤ bound') (flags : Flags) (seen : List Char)
    (negated : Option Bool) :
    Extends P (flagLetters bound flags seen negated) (flagLetters bound' flags seen negated) := by
  induction bound generalizing bound' flags seen negated P with
  | zero => exact .failure
  | succ bound ih =>
    obtain ⟨bound', rfl, hb'⟩ := exists_bound hb
    rw [Reader.flagLetters, Reader.flagLetters]
    refine .peekSome_bind fun c => ?_
    split
    · exact .bind (.require _) fun _ => .pure _
    · split
      · exact .require_bind fun _ => .bind .bump fun _ => ih hb' _ _ _
      · refine .require_bind fun _ => ?_
        split
        · exact .failure
        · exact .bind .bump fun _ => ih hb' _ _ _

theorem groupName : Extends P groupName groupName := by
  intro r a r' _ h
  rw [run_groupName rfl] at h
  split at h
  · rename_i hname
    obtain ⟨hsame, hrest⟩ := takeWhile_closed (more_of_expect h)
    have hkeep := (expect '>' : Extends (fun _ => True) _ _) _ a r' True.intro h
    refine hkeep.of_run ?_ ?_ (List.drop_suffix _ _)
    · rw [run_groupName rfl, if_pos hname]
    · rw [run_groupName (r := r.closed) hsame]
      refine (if_pos hname).trans ?_
      dsimp only [Reading.closed]
      rw [hrest]
  · cases h

theorem nextGroup : Extends P nextGroup nextGroup := by
  rintro r a r' - ⟨⟩
  exact .still rfl rfl rfl

theorem nameSign : Extends P nameSign nameSign := by
  unfold Reader.nameSign
  refine .bind (.takeText (by decide)) fun _ => ?_
  split
  · exact .pure true
  · exact .takeText (by decide)

theorem opening {bound bound' : Nat} (hb : bound ≤ bound') :
    Extends P (opening bound) (opening bound') := by
  unfold Reader.opening
  refine .bind (.expect _) fun _ => .bind .skipBlank fun _ => ?_
  refine .bind (.forIn (fun text ht _ => ?_) _) fun _ => ?_
  · have hfree : ∀ text ∈ ["?=", "?!", "?<=", "?<!"], ')' ∉ text.toList := by decide
    refine .bind (.takeText (hfree text ht)) fun _ => ?_
    split
    · exact .failure
    · exact .pure _
  refine .bind .nameSign fun _ => ?_
  split
  · exact .bind .nextGroup fun index => .bind .groupName fun _ => .pure _
  refine .bind (.takeText (by decide)) fun _ => ?_
  split
  · refine .get (fun _ => rfl) fun r => .bind (.flagLetters hb _ _ _) fun ⟨flags, some?⟩ => ?_
    refine .peek_bind_of_failure (fun c => ?_) fun r hr => ?_
    · split
      · exact .require_bind fun _ => .bind .bump fun _ => .pure _
      · exact .bind (.expect _) fun _ => .pure _
    · rw [if_neg (by decide), StateT.run_bind, run_expect_nil hr]
      rfl
  · exact .bind .nextGroup fun index => .pure _

theorem counts {bound bound' : Nat} (hb : bound ≤ bound') :
    Extends P (counts bound) (counts bound') := by
  have closing (min : Nat) (range : Nat × Option Nat) :
      Extends (fun _ => True) (countsEnd min range) (countsEnd min range) :=
    .peek_bind_of_failure (fun _ => .require_bind fun _ => .bind .advance fun _ =>
      .bind (.require _) fun _ => .pure range) fun _ _ => rfl
  unfold Reader.counts
  refine .bind (.expect _) fun _ => .bind .skipBlank fun _ => .bind (.map .peekSome _) fun _ => ?_
  refine .bind (.decimal hb) fun min => .peekSome_bind fun c => ?_
  dsimp only
  split
  · refine .bind .advance fun _ => .peekSome_bind fun d => ?_
    split
    · exact .bind (.pure _) (closing min)
    · exact .bind (.decimal hb) fun max => .bind (.pure _) (closing min)
  · exact .bind (.pure _) (closing min)

theorem setFlags (flags : Flags) : Extends P (modify fun r => { r with flags := flags })
    (modify fun r => { r with flags := flags }) := by
  rintro r _ _ - ⟨⟩
  exact .still rfl rfl rfl

theorem greed : Extends P greed greed :=
  .bind (.takeText (by decide)) fun _ => .get (fun _ => rfl) fun _ => .pure _

theorem repeatLast (pieces : List Piece) (min : Nat) (max : Option Nat) (greedy : Bool) :
    Extends P (repeatLast pieces min max greedy) (repeatLast pieces min max greedy) := by
  unfold Reader.repeatLast
  split
  · exact .pure _
  · exact .failure

end Extends

theorem again_extends {pieces pieces' : List Piece → Reader α}
    (h : ∀ done, Extends (fun _ => True) (pieces done) (pieces' done)) (done : List Piece) (min : Nat)
    (max : Option Nat) :
    Extends (fun _ => True) (greed >>= fun greedy => repeatLast done min max greedy >>= pieces)
      (greed >>= fun greedy => repeatLast done min max greedy >>= pieces') :=
  .bind .greed fun greedy => .bind (.repeatLast done min max greedy) h

mutual

theorem alternatives_extends : ∀ (bound : Nat) {bound' : Nat}, bound ≤ bound' →
    Extends (fun _ => True) (alternatives bound) (alternatives bound')
  | 0, _, _ => .failure
  | bound + 1, _, hb => by
    obtain ⟨bound', rfl, hb'⟩ := exists_bound hb
    rw [alternatives, alternatives]
    refine (pieces_extends bound hb' []).bind fun first => ?_
    refine .peek_bind_of_end (fun c => ?_) rfl rfl rfl
    split
    · exact .bind .bump fun _ => (alternatives_extends bound hb').bind fun rest => .pure _
    · exact .pure [first]

theorem pieces_extends : ∀ (bound : Nat) {bound' : Nat}, bound ≤ bound' → ∀ done : List Piece,
    Extends (fun _ => True) (pieces bound done) (pieces bound' done)
  | 0, _, _, _ => .failure
  | bound + 1, _, hb, done => by
    obtain ⟨bound', rfl, hb'⟩ := exists_bound hb
    have onward := pieces_extends bound hb'
    have again := again_extends onward done
    rw [pieces, pieces]
    refine .bind .skipBlank fun _ => .peek_bind_of_end (fun c => ?_) rfl rfl rfl
    split
    · exact .pure _
    · exact .pure _
    · exact .pure _
    · refine .bind (.opening hb) fun o => ?_
      cases o with
      | flagsOnly flags => exact .bind (.setFlags flags) fun _ => onward _
      | plain flags => exact (grouped_extends bound hb' flags).bind fun inner => onward _
      | capture index =>
        exact .get (fun _ => rfl) fun r => (grouped_extends bound hb' r.flags).bind fun inner => onward _
    · exact .bind (bracketed_extends _ hb).anywhere fun _ => onward _
    · exact .bind .bump fun _ => again 0 none
    · exact .bind .bump fun _ => again 1 none
    · exact .bind .bump fun _ => again 0 (some 1)
    · exact .bind (.counts hb) fun _ => again _ _
    · exact .bind (.escape hb) fun e => .bind (.escapeNode e) fun n => onward _
    · exact .bind .bump fun _ => .bind .dot fun n => onward _
    · exact .bind .bump fun _ => .bind (.anchor _ _) fun n => onward _
    · exact .bind .bump fun _ => .bind (.anchor _ _) fun n => onward _
    · exact .bind .bump fun _ => .bind (.literal _) fun n => onward _

theorem grouped_extends : ∀ (bound : Nat) {bound' : Nat}, bound ≤ bound' → ∀ flags : Flags,
    Extends (fun _ => True) (grouped bound flags) (grouped bound' flags)
  | 0, _, _, _ => .failure
  | bound + 1, _, hb, flags => by
    obtain ⟨bound', rfl, hb'⟩ := exists_bound hb
    rw [grouped, grouped]
    refine .get (fun _ => rfl) fun r => .bind (.setFlags flags) fun _ => ?_
    refine (alternatives_extends bound hb').bind fun inner => .bind (.expect _) fun _ => ?_
    exact .bind (.setFlags _) fun _ => .pure _

end

end Reader

end Triparse.Pattern
