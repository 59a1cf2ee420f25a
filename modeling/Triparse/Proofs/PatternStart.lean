import Triparse.Proofs.PatternRuns

/-!
# Where a pattern matches

A pattern is matched from the beginning of a text (`slots?_start`). For slot 0 is recorded before anything
else, at position 0, and never again: no group of a pattern that is read has the number of the whole match
(`numbered_of_read?`), so no instruction but the first records slot 0, and none leads back to it
(`anchored_program`). Nor is slot 1 recorded but at the end. What a run keeps is that every thread past the
first instruction has slot 0 at position 0 (`Thread.Marked`).
-/

set_option autoImplicit false

namespace Triparse.Pattern

/-! ## Numbers of groups -/

/-- A pattern in which no group has the number of the whole match. -/
inductive Node.Numbered : Node → Prop
  | empty : Numbered .empty
  | take (set : CharSet) : Numbered (.take set)
  | look (l : Look) : Numbered (.look l)
  | group {i : Nat} {n : Node} (hi : i ≠ 0) (hn : n.Numbered) : Numbered (.group i n)
  | concat {ns : List Node} (h : ∀ n ∈ ns, n.Numbered) : Numbered (.concat ns)
  | alternate {ns : List Node} (h : ∀ n ∈ ns, n.Numbered) : Numbered (.alternate ns)
  | loop {n : Node} (hn : n.Numbered) (min : Nat) (max : Option Nat) (greedy : Bool) :
      Numbered (.loop n min max greedy)

theorem Node.Numbered.repetition {n : Node} (h : n.Numbered) (min : Nat) (max : Option Nat)
    (greedy : Bool) : (n.repetition min max greedy).Numbered := by
  unfold Node.repetition
  dsimp only
  split
  · exact .empty
  · exact h
  · exact .loop h _ _ greedy

namespace Reader

variable {α β : Type}

/-- A reading step whose results are in `P`. -/
def Gives (P : α → Prop) (x : Reader α) : Prop := ∀ r a r', x.run r = some (a, r') → P a

namespace Gives

variable {P : α → Prop} {Q : β → Prop}

theorem trivial (x : Reader α) : Gives (fun _ => True) x := fun _ _ _ _ => True.intro

theorem pure {a : α} (h : P a) : Gives P (Pure.pure a) := by
  intro _ _ _ h
  cases h
  exact h

theorem failure : Gives P (Alternative.failure : Reader α) := by
  intro _ _ _ h
  cases h

theorem bind {x : Reader α} {f : α → Reader β} (hx : Gives P x) (hf : ∀ a, P a → Gives Q (f a)) :
    Gives Q (x >>= f) := by
  intro r b r' h
  rw [StateT.run_bind] at h
  obtain ⟨⟨a, s⟩, ha, hb⟩ := Option.bind_eq_some_iff.1 h
  exact hf a (hx r a s ha) s b r' hb

/-- A step whose result does not matter. -/
theorem after {x : Reader α} {f : α → Reader β} (hf : ∀ a, Gives Q (f a)) : Gives Q (x >>= f) :=
  (trivial x).bind fun a _ => hf a

end Gives

/-- A group that takes part gets a number other than 0. -/
def Opening.Numbered : Opening → Prop
  | .capture index => index ≠ 0
  | _ => True

theorem opening_numbered (bound : Nat) : Gives Opening.Numbered (opening bound) := by
  unfold opening
  refine .after fun _ => .after fun _ => .after fun _ => ?_
  have hnext : Gives (· ≠ 0) (do
      let r ← get
      set { r with groups := r.groups + 1 }
      Pure.pure (r.groups + 1) : Reader Nat) :=
    .after fun r => .after fun _ => .pure (Nat.succ_ne_zero r.groups)
  refine .after fun _ => ?_
  split
  · refine hnext.bind fun index hi => .after fun _ => .pure hi
  refine .after fun _ => ?_
  split
  · refine .after fun _ => .after fun flags => .after fun _ => ?_
    split
    · exact .after fun _ => .after fun _ => .pure True.intro
    · exact .after fun _ => .pure True.intro
  · exact hnext.bind fun index hi => .pure hi

/-- A piece whose pattern, if it has one, is numbered. -/
def Piece.Numbered (p : Piece) : Prop := ∀ n, p.node? = some n → n.Numbered

theorem Piece.Numbered.some {n : Node} (h : n.Numbered) (depth : Nat) :
    Piece.Numbered ⟨Option.some n, depth⟩ := by
  intro _ h
  cases h
  exact h

theorem Piece.Numbered.node {p : Piece} (h : p.Numbered) : p.node.Numbered := by
  unfold Piece.node
  cases hn : p.node? with
  | none => exact .empty
  | some n => exact h n hn

theorem inSequence_numbered {pieces : List Piece} (h : ∀ p ∈ pieces, p.Numbered) :
    (inSequence pieces).Numbered := by
  unfold inSequence
  split
  · exact .some .empty 0
  · exact h _ List.mem_cons_self
  · refine .some (.concat fun n hn => ?_) _
    obtain ⟨p, hp, hpn⟩ := List.mem_filterMap.1 hn
    exact h p (List.mem_reverse.1 hp) n hpn

theorem inChoice_numbered {branches : List Piece} (h : ∀ p ∈ branches, p.Numbered) :
    (inChoice branches).Numbered := by
  unfold inChoice
  split
  · exact h _ List.mem_cons_self
  · refine .some (.alternate fun n hn => ?_) _
    obtain ⟨p, hp, rfl⟩ := List.mem_map.1 hn
    exact (h p hp).node

theorem repeatLast_numbered {pieces : List Piece} (h : ∀ p ∈ pieces, p.Numbered) (min : Nat)
    (max : Option Nat) (greedy : Bool) :
    Gives (fun ps => ∀ p ∈ ps, p.Numbered) (repeatLast pieces min max greedy) := by
  unfold repeatLast
  split
  · rename_i n depth rest
    have hn := h ⟨Option.some n, depth⟩ List.mem_cons_self n rfl
    refine .pure (List.forall_mem_cons.2 ⟨.some (hn.repetition min max greedy) _, ?_⟩)
    exact fun p hp => h p (List.mem_cons_of_mem _ hp)
  · exact .failure

theorem literal_numbered (c : Char) : Gives Node.Numbered (literal c) :=
  .after fun _ => .pure (.take _)

theorem escapeNode_numbered (e : Escape) : Gives Node.Numbered (escapeNode e) := by
  cases e with
  | literal c => exact literal_numbered c
  | byte c => exact .after fun c => literal_numbered c
  | set s => exact .pure (.take s)
  | look l => exact .pure (.look l)

theorem dot_numbered : Gives Node.Numbered dot :=
  .after fun _ => .after fun _ => .pure (.take _)

theorem anchor_numbered (line : Bool → Look) (text : Look) :
    Gives Node.Numbered (anchor line text) :=
  .after fun _ => .pure (.look _)

mutual

theorem alternatives_numbered :
    ∀ bound, Gives (fun ps => ∀ p ∈ ps, p.Numbered) (alternatives bound)
  | 0 => .failure
  | bound + 1 => by
    rw [alternatives]
    refine (pieces_numbered bound [] nofun).bind fun first hf => .after fun _ => ?_
    split
    · refine .after fun _ => (alternatives_numbered bound).bind fun rest hr => .pure ?_
      exact List.forall_mem_cons.2 ⟨hf, hr⟩
    · exact .pure (List.forall_mem_singleton.2 hf)

theorem pieces_numbered :
    ∀ (bound : Nat) (done : List Piece), (∀ p ∈ done, p.Numbered) →
      Gives Piece.Numbered (pieces bound done)
  | 0, _, _ => .failure
  | bound + 1, done, hd => by
    have onward {p : Piece} (hp : p.Numbered) : Gives Piece.Numbered (pieces bound (p :: done)) :=
      pieces_numbered bound (p :: done) (List.forall_mem_cons.2 ⟨hp, hd⟩)
    have again (min : Nat) (max : Option Nat) : Gives Piece.Numbered (do
        let greedy ← greed
        let ps ← repeatLast done min max greedy
        pieces bound ps) :=
      .after fun greedy =>
        (repeatLast_numbered hd min max greedy).bind fun ps hps => pieces_numbered bound ps hps
    rw [pieces]
    refine .after fun _ => .after fun next => ?_
    split
    · exact .pure (inSequence_numbered hd)
    · exact .pure (inSequence_numbered hd)
    · exact .pure (inSequence_numbered hd)
    · refine (opening_numbered _).bind fun o ho => ?_
      cases o with
      | flagsOnly flags => exact .after fun _ => onward nofun
      | plain flags =>
        exact (grouped_numbered bound flags).bind fun inner hi => onward (.some hi.node _)
      | capture index =>
        exact .after fun r => (grouped_numbered bound r.flags).bind fun inner hi =>
          onward (.some (.group ho hi.node) _)
    · exact .after fun _ => onward (.some (.take _) _)
    · exact .after fun _ => again 0 none
    · exact .after fun _ => again 1 none
    · exact .after fun _ => again 0 (some 1)
    · exact .after fun _ => again _ _
    · exact .after fun e => (escapeNode_numbered e).bind fun n hn => onward (.some hn _)
    · exact .after fun _ => dot_numbered.bind fun n hn => onward (.some hn _)
    · exact .after fun _ => (anchor_numbered _ _).bind fun n hn => onward (.some hn _)
    · exact .after fun _ => (anchor_numbered _ _).bind fun n hn => onward (.some hn _)
    · exact .after fun _ => (literal_numbered _).bind fun n hn => onward (.some hn _)

theorem grouped_numbered : ∀ (bound : Nat) (flags : Flags),
    Gives Piece.Numbered (grouped bound flags)
  | 0, _ => .failure
  | bound + 1, flags => by
    rw [grouped]
    refine .after fun _ => .after fun _ => ?_
    refine (alternatives_numbered bound).bind fun inner hi => ?_
    exact .after fun _ => .after fun _ => .pure (inChoice_numbered hi)

end

end Reader

/-- No group of a pattern has the number of the whole match. -/
theorem numbered_of_read? {text : String} {n : Node} (h : Node.read? text = some n) :
    n.Numbered := by
  unfold Node.read? at h
  split at h
  · rename_i branches r hr
    dsimp only at h
    split at h
    · cases h
      exact (Reader.inChoice_numbered (Reader.alternatives_numbered _ _ _ _ hr)).node
    · cases h
  · cases h

/-! ## Programs -/

/-- An instruction that neither records slot 0 nor leads to address 0. -/
def Instr.Onward : Instr → Prop
  | .split a b => a ≠ 0 ∧ b ≠ 0
  | .jump a => a ≠ 0
  | .save slot => slot ≠ 0
  | _ => True

/-- An instruction that records no slot of the whole match and does not lead to address 0. -/
def Instr.Inner (i : Instr) : Prop := i.Onward ∧ i ≠ .save 1

theorem Instr.inner_save {slot : Nat} (h : 2 ≤ slot) : (Instr.save slot).Inner := by
  refine ⟨by show slot ≠ 0; omega, fun h1 => ?_⟩
  cases h1
  omega

theorem Instr.inner_choose {into past : Nat} (hi : into ≠ 0) (hp : past ≠ 0) (greedy : Bool) :
    (Instr.choose greedy into past).Inner := by
  cases greedy with
  | true => exact ⟨⟨hi, hp⟩, nofun⟩
  | false => exact ⟨⟨hp, hi⟩, nofun⟩

namespace Node

/-- Code of inner instructions wherever it is placed, except at address 0. -/
def CodeInner (code : Nat → List Instr) : Prop :=
  ∀ address, address ≠ 0 → ∀ i ∈ code address, i.Inner

theorem copies_inner {code : Nat → List Instr} (h : CodeInner code) (size count : Nat) :
    CodeInner (copies code size count) := by
  intro address ha i hi
  obtain ⟨k, -, hk⟩ := List.mem_flatMap.1 hi
  exact h _ (by omega) i hk

theorem codeOfParts_inner {ns : List Node} (h : ∀ n ∈ ns, CodeInner n.code) :
    CodeInner (codeOfParts ns) := by
  induction ns with
  | nil => exact fun _ _ => nofun
  | cons n ns ih =>
    obtain ⟨hn, hns⟩ := List.forall_mem_cons.1 h
    intro address ha i hi
    rw [codeOfParts, List.mem_append] at hi
    rcases hi with hi | hi
    · exact hn address ha i hi
    · exact ih hns _ (by omega) i hi

theorem codeOfBranches_inner {stop : Nat} (hs : stop ≠ 0) {ns : List Node}
    (h : ∀ n ∈ ns, CodeInner n.code) : CodeInner (codeOfBranches ns stop) := by
  induction ns with
  | nil => exact fun _ _ => nofun
  | cons n ns ih =>
    obtain ⟨hn, hns⟩ := List.forall_mem_cons.1 h
    intro address ha i hi
    cases ns with
    | nil => exact hn address ha i hi
    | cons m ns =>
      simp only [codeOfBranches, List.mem_cons, List.mem_append] at hi
      rcases hi with (rfl | hi) | rfl | hi
      · exact ⟨⟨by omega, by omega⟩, nofun⟩
      · exact hn _ (by omega) i hi
      · exact ⟨hs, nofun⟩
      · exact ih hns _ (by omega) i hi

/-- The code of a numbered pattern records slots of its groups only. -/
theorem Numbered.code_inner {n : Node} (h : n.Numbered) : CodeInner n.code := by
  induction h with
  | empty => exact fun _ _ => nofun
  | take set | look l =>
    intro address _ i hi
    obtain rfl := List.mem_singleton.1 hi
    exact ⟨True.intro, nofun⟩
  | @group index n hi hn ih =>
    intro address ha i hmem
    simp only [code, List.mem_cons, List.mem_append, List.not_mem_nil, or_false] at hmem
    rcases hmem with (rfl | hmem) | rfl
    · exact Instr.inner_save (by omega)
    · exact ih _ (by omega) i hmem
    · exact Instr.inner_save (by omega)
  | concat _ ih => exact codeOfParts_inner ih
  | @alternate ns _ ih =>
    intro address ha
    exact codeOfBranches_inner (by omega) ih address ha
  | @loop n hn min max greedy ih =>
    intro address ha i hi
    match min, max with
    | 0, none =>
      simp only [code, List.mem_cons, List.mem_append, List.not_mem_nil, or_false] at hi
      rcases hi with (rfl | hi) | rfl
      · exact Instr.inner_choose (by omega) (by omega) greedy
      · exact ih _ (by omega) i hi
      · split
        · exact Instr.inner_choose (by omega) (by omega) greedy
        · exact ⟨ha, nofun⟩
    | min + 1, none =>
      simp only [code, List.mem_append, List.mem_singleton] at hi
      rcases hi with hi | rfl
      · exact copies_inner ih _ _ address ha i hi
      · exact Instr.inner_choose (by omega) (by omega) greedy
    | min, some max =>
      simp only [code, List.mem_append] at hi
      rcases hi with hi | hi
      · exact copies_inner ih _ _ address ha i hi
      · refine copies_inner ?_ _ _ _ ?_ i hi
        · intro a ha' j hj
          rcases List.mem_cons.1 hj with rfl | hj
          · exact Instr.inner_choose (by omega) (by omega) greedy
          · exact ih _ (by omega) j hj
        · omega

end Node

/-- A program that records slot 0 first of all and never again, and slot 1 right before it accepts. -/
structure Anchored (program : Array Instr) : Prop where
  first : program[0]? = some (.save 0)
  onward {address : Nat} {i : Instr} (ha : address ≠ 0) (hi : program[address]? = some i) :
    i.Onward
  last {address : Nat} (h : program[address]? = some (.save 1)) :
    program[address + 1]? = some .accept

theorem anchored_program {n : Node} (h : n.Numbered) : Anchored n.program where
  first := by
    unfold Node.program
    simp [Node.code]
  onward {address i} ha hi := by
    unfold Node.program at hi
    rw [List.getElem?_toArray] at hi
    obtain ⟨k, rfl⟩ := Nat.exists_eq_succ_of_ne_zero ha
    simp only [Node.code, List.cons_append, List.getElem?_cons_succ] at hi
    have hmem := List.mem_of_getElem? hi
    simp only [List.mem_append, List.mem_singleton] at hmem
    rcases hmem with (hmem | rfl) | rfl
    · exact (h.code_inner 1 (by omega) i hmem).1
    · exact Nat.succ_ne_zero _
    · exact True.intro
  last {address} hi := by
    have hcode : n.program.toList = (.save 0 :: n.code 1) ++ [.save 1, .accept] := by
      simp [Node.program, Node.code]
    rw [← Array.getElem?_toList, hcode] at hi ⊢
    have hbody : ∀ i ∈ Instr.save 0 :: n.code 1, i ≠ .save 1 :=
      List.forall_mem_cons.2 ⟨nofun, fun i hi => (h.code_inner 1 (by omega) i hi).2⟩
    rcases Nat.lt_or_ge address (Instr.save 0 :: n.code 1).length with hlt | hge
    · rw [List.getElem?_append_left hlt] at hi
      exact absurd rfl (hbody _ (List.mem_of_getElem? hi))
    · rw [List.getElem?_append_right hge] at hi
      rw [List.getElem?_append_right (Nat.le_succ_of_le hge), Nat.succ_sub hge]
      -- Behind the code, the only record is the first of the two instructions.
      generalize address - (Instr.save 0 :: n.code 1).length = k at hi ⊢
      match k, hi with
      | 0, _ => rfl
      | k + 2, hi => cases hi

/-! ## Runs -/

/-- A thread that has recorded slot 0 at position 0 and is past the first instruction. -/
def Thread.Marked (t : Thread) : Prop := t.address ≠ 0 ∧ t.slots.lookup 0 = some 0

/-- A thread at a position: it is marked, or about to be. -/
def Thread.Started (position : Nat) (t : Thread) : Prop :=
  t.Marked ∨ t.address = 0 ∧ position = 0

section
variable {program : Array Instr} (hp : Anchored program)
include hp

/-- A thread at an instruction other than a record is past the first one. -/
theorem Thread.Started.marked {position : Nat} {t : Thread} (h : t.Started position) {i : Instr}
    (hi : t.instr? program = some i) (hs : i ≠ .save 0) : t.Marked := by
  rcases h with h | ⟨h0, -⟩
  · exact h
  · rw [Thread.instr?, h0, hp.first] at hi
    cases hi
    exact absurd rfl hs

theorem Thread.Started.onward {position : Nat} {t : Thread} (h : t.Started position) {i : Instr}
    (hi : t.instr? program = some i) (hs : i ≠ .save 0) : i.Onward :=
  hp.onward (h.marked hp hi hs).1 hi

theorem Thread.Started.save {position slot : Nat} {t : Thread} (h : t.Started position)
    (hi : t.instr? program = some (.save slot)) :
    Thread.Started position ⟨t.address + 1, (slot, position) :: t.slots⟩ := by
  refine .inl ⟨Nat.succ_ne_zero _, ?_⟩
  rcases h with ⟨ha, hl⟩ | ⟨ha, rfl⟩
  · have hslot : slot ≠ 0 := hp.onward ha hi
    rw [List.lookup_cons, beq_false_of_ne hslot.symm]
    exact hl
  · rw [Thread.instr?, ha, hp.first] at hi
    cases hi
    rfl

theorem started_kept : Kept program Thread.Started where
  take h hi := .inl ⟨Nat.succ_ne_zero _, (h.marked hp hi nofun).2⟩
  split h hi :=
    have ⟨ha, hb⟩ := h.onward hp hi nofun
    have hl := (h.marked hp hi nofun).2
    ⟨.inl ⟨ha, hl⟩, .inl ⟨hb, hl⟩⟩
  jump h hi := .inl ⟨h.onward hp hi nofun, (h.marked hp hi nofun).2⟩
  save h hi := h.save hp hi
  look h hi := .inl ⟨Nat.succ_ne_zero _, (h.marked hp hi nofun).2⟩

end

namespace Regex

theorem compile_eq_some {text : String} {r : Regex} :
    compile text = some r ↔
      ∃ n, Node.read? text = some n ∧ n.fits = true ∧ r = ⟨n.groupCount, n.program⟩ := by
  unfold compile
  constructor
  · intro h
    obtain ⟨n, hn, h⟩ := Option.bind_eq_some_iff.1 h
    split at h
    · rename_i hf
      cases h
      exact ⟨n, hn, hf, rfl⟩
    · cases h
  · rintro ⟨n, hn, hf, rfl⟩
    rw [hn]
    exact if_pos hf

/-- What is compiled has a program in which slot 0 marks the beginning of the match. -/
theorem anchored_of_compile {text : String} {r : Regex} (h : compile text = some r) :
    Anchored r.program := by
  obtain ⟨n, hn, -, rfl⟩ := compile_eq_some.1 h
  exact anchored_program (numbered_of_read? hn)

end Regex

/-- A match begins at the beginning of the text. -/
theorem slots?_start {program : Array Instr} (hp : Anchored program) {chars : List Char}
    {slots : List (Nat × Nat)} (hs : slots? program chars = some slots) : slots.lookup 0 = some 0 := by
  refine (started_kept hp).scan (Q := fun slots => slots.lookup 0 = some 0) ?_ chars none 0 [⟨0, []⟩]
    none ?_ nofun slots hs
  · exact fun _ _ h haccept => (h.marked hp haccept nofun).2
  · exact List.forall_mem_singleton.2 (.inr ⟨rfl, rfl⟩)

end Triparse.Pattern
