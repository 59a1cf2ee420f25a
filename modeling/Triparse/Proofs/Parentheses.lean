import Mathlib.Data.List.Infix

/-!
# Groups of parentheses

A *group* is a pair of parentheses around any number of groups (`Groups.enclosed`), with no other characters
in it. Groups are read in one way only (`Groups.eq_of_append`), and every text begins with some of them, maybe
none, after which there is no further one (`Groups.exists_append`).

What is open at a place of a text is counted by `excess`. A group is the text from a parenthesis to the one that
closes it, and the depth to which it nests is the greatest number of parentheses that are open at once
(`Groups.encloses`). Where a text breaks off in a group, that group is none (`Groups.NoneAhead.broken`).
-/

set_option autoImplicit false

namespace Triparse

/-- Groups of parentheses, one after the other. -/
inductive Groups where
  | none
  /-- A group around others, and those that come after it. -/
  | group (inside after : Groups)
deriving DecidableEq, Repr

namespace Groups

/-- Groups in writing. -/
def written : Groups → List Char
  | none => []
  | group inside after => '(' :: (inside.written ++ ')' :: after.written)

/-- How deep groups nest. -/
def depth : Groups → Nat
  | none => 0
  | group inside after => max (inside.depth + 1) after.depth

/-- The group around some groups. -/
def enclosed (inside : Groups) : List Char := '(' :: (inside.written ++ [')'])

variable {gs inside : Groups} {rest : List Char}

theorem written_group (inside after : Groups) :
    (group inside after).written = inside.enclosed ++ after.written := by
  simp [written, enclosed]

theorem enclosed_append (inside : Groups) (rest : List Char) :
    inside.enclosed ++ rest = '(' :: (inside.written ++ ')' :: rest) := by
  simp [enclosed]

theorem length_enclosed (inside : Groups) : inside.enclosed.length = inside.written.length + 2 := by
  simp [enclosed]

/-! ## Reading groups -/

/-- No group stands at the beginning of a text. -/
def NoneAhead (cs : List Char) : Prop := ∀ inside : Groups, ¬ inside.enclosed <+: cs

theorem NoneAhead.nil : NoneAhead [] := fun inside h => by
  have hlength := h.length_le
  rw [length_enclosed, List.length_nil] at hlength
  omega

/-- A group begins with a parenthesis that is opened. -/
theorem NoneAhead.cons {c : Char} (hc : c ≠ '(') (cs : List Char) : NoneAhead (c :: cs) := by
  rintro inside ⟨rest, h⟩
  rw [enclosed_append, List.cons.injEq] at h
  exact hc h.1.symm

theorem NoneAhead.of_unopened {cs : List Char} (h : cs.head? ≠ some '(') : NoneAhead cs := by
  cases cs with
  | nil => exact .nil
  | cons c cs => exact .cons (fun hc => h (congrArg some hc)) cs

/-- Groups that no further one follows are read in one way. -/
theorem eq_of_append {gs gs' : Groups} {rest rest' : List Char}
    (h : gs.written ++ rest = gs'.written ++ rest') (hrest : NoneAhead rest)
    (hrest' : NoneAhead rest') : gs = gs' ∧ rest = rest' := by
  -- A group on one side alone would stand at the beginning of what follows the groups of the other.
  induction gs generalizing gs' rest rest' with
  | none =>
    cases gs' with
    | none => exact ⟨rfl, h⟩
    | group inside after =>
      rw [written_group, List.append_assoc] at h
      exact absurd ⟨_, h.symm⟩ (hrest inside)
  | group inside after ihi iha =>
    cases gs' with
    | none =>
      rw [written_group, List.append_assoc] at h
      exact absurd ⟨_, h⟩ (hrest' inside)
    | group inside' after' =>
      rw [written_group, written_group, List.append_assoc, List.append_assoc, enclosed_append,
        enclosed_append, List.cons.injEq] at h
      have hclose : ')' ≠ '(' := by decide
      obtain ⟨rfl, hafter⟩ := ihi h.2 (.cons hclose _) (.cons hclose _)
      obtain ⟨rfl, hend⟩ := iha (List.cons.inj hafter).2 hrest hrest'
      exact ⟨rfl, hend⟩

theorem eq_of_enclosed_append {inside' : Groups} {rest' : List Char}
    (h : inside.enclosed ++ rest = inside'.enclosed ++ rest') : inside = inside' ∧ rest = rest' := by
  rw [enclosed_append, enclosed_append, List.cons.injEq] at h
  have hclose : ')' ≠ '(' := by decide
  obtain ⟨rfl, hrest⟩ := eq_of_append h.2 (.cons hclose _) (.cons hclose _)
  exact ⟨rfl, (List.cons.inj hrest).2⟩

/-- Every text begins with some groups, and has no further one after them. -/
theorem exists_append (cs : List Char) :
    ∃ gs : Groups, ∃ rest, cs = gs.written ++ rest ∧ NoneAhead rest := by
  induction hn : cs.length using Nat.strong_induction_on generalizing cs with
  | _ n ih =>
    by_cases h : NoneAhead cs
    · exact ⟨none, cs, rfl, h⟩
    · simp only [NoneAhead, not_forall, not_not] at h
      obtain ⟨inside, tail, rfl⟩ := h
      rw [List.length_append, length_enclosed] at hn
      obtain ⟨gs, rest, rfl, hrest⟩ := ih tail.length (by omega) tail rfl
      exact ⟨group inside gs, rest, by rw [written_group, List.append_assoc], hrest⟩

/-- After a parenthesis that is opened come some groups, and something else. -/
theorem exists_of_opened {cs : List Char} (h : cs.head? = some '(') :
    ∃ gs : Groups, ∃ rest, cs = '(' :: (gs.written ++ rest) ∧ NoneAhead rest := by
  obtain ⟨tail, rfl⟩ := List.head?_eq_some_iff.1 h
  obtain ⟨gs, rest, rfl, hrest⟩ := exists_append tail
  exact ⟨gs, rest, rfl, hrest⟩

/-- A parenthesis that is not closed after the groups that follow it is not the beginning of a group. -/
theorem NoneAhead.unclosed (hrest : NoneAhead rest) (h : rest.head? ≠ some ')') :
    NoneAhead ('(' :: (gs.written ++ rest)) := by
  rintro inside ⟨tail, hin⟩
  rw [enclosed_append, List.cons.injEq] at hin
  obtain ⟨-, rfl⟩ := eq_of_append hin.2 (.cons (by decide) _) hrest
  exact h rfl

end Groups

/-! ## Counting parentheses -/

/-- How many more parentheses a text opens than it closes. -/
def excess (cs : List Char) : Int := cs.count '(' - cs.count ')'

@[simp] theorem excess_nil : excess [] = 0 := rfl

@[simp] theorem excess_append (cs ds : List Char) : excess (cs ++ ds) = excess cs + excess ds := by
  simp only [excess, List.count_append]
  omega

@[simp] theorem excess_opened (cs : List Char) : excess ('(' :: cs) = excess cs + 1 := by
  simp [excess]
  omega

@[simp] theorem excess_closed (cs : List Char) : excess (')' :: cs) = excess cs - 1 := by
  simp [excess]
  omega

/-- The first character of a text opens a parenthesis that the last one closes, and at most `depth`
parentheses are open at once. -/
structure Encloses (cs : List Char) (depth : Nat) : Prop where
  closed : excess cs = 0
  opened : ∀ pre, pre <+: cs → pre ≠ [] → pre ≠ cs → 0 < excess pre
  le_depth : ∀ pre, pre <+: cs → excess pre ≤ depth
  deepest : ∃ pre, pre <+: cs ∧ excess pre = depth

namespace Groups

variable {inside after gs : Groups} {pre : List Char}

@[simp] theorem excess_written (gs : Groups) : excess gs.written = 0 := by
  induction gs with
  | none => rfl
  | group inside after ihi iha =>
    rw [written, excess_opened, excess_append, excess_closed, ihi, iha]
    rfl

theorem excess_enclosed (inside : Groups) : excess inside.enclosed = 0 := by
  simp [enclosed]

/-- What is written of a group up to some place. -/
theorem prefix_enclosed (h : pre <+: inside.enclosed) :
    pre = [] ∨ (∃ q, pre = '(' :: q ∧ q <+: inside.written) ∨ pre = inside.enclosed := by
  obtain rfl | ⟨q, rfl, hq⟩ := List.prefix_cons_iff.1 h
  · exact .inl rfl
  · obtain rfl | hq := List.prefix_concat_iff.1 hq
    · exact .inr (.inr rfl)
    · exact .inr (.inl ⟨q, rfl, hq⟩)

/-- What is written of a group and others up to some place. -/
theorem prefix_written_group (h : pre <+: (group inside after).written) :
    pre <+: inside.enclosed ∨ ∃ q, pre = inside.enclosed ++ q ∧ q <+: after.written := by
  obtain ⟨tail, htail⟩ := h
  rw [written_group, List.append_eq_append_iff] at htail
  obtain ⟨q, hq, -⟩ | ⟨q, rfl, hq⟩ := htail
  · exact .inl ⟨q, hq.symm⟩
  · exact .inr ⟨q, rfl, tail, hq.symm⟩

/-- At every place as many parentheses are open as groups stand around it. -/
theorem excess_bounds (h : pre <+: gs.written) : 0 ≤ excess pre ∧ excess pre ≤ gs.depth := by
  induction gs generalizing pre with
  | none =>
    rw [List.prefix_nil.1 h]
    exact ⟨Int.le_refl 0, Int.le_refl 0⟩
  | group inside after ihi iha =>
    rw [depth]
    obtain hin | ⟨q, rfl, hq⟩ := prefix_written_group h
    · obtain rfl | ⟨q, rfl, hq⟩ | rfl := prefix_enclosed hin
      · rw [excess_nil]
        omega
      · obtain ⟨hlow, hhigh⟩ := ihi hq
        rw [excess_opened]
        omega
      · rw [excess_enclosed]
        omega
    · obtain ⟨hlow, hhigh⟩ := iha hq
      rw [excess_append, excess_enclosed]
      omega

/-- There is a place around which as many groups stand as the depth says. -/
theorem exists_deepest (gs : Groups) : ∃ pre, pre <+: gs.written ∧ excess pre = gs.depth := by
  induction gs with
  | none => exact ⟨[], List.nil_prefix, rfl⟩
  | group inside after ihi iha =>
    rw [depth, written_group]
    by_cases hdeep : after.depth ≤ inside.depth + 1
    · obtain ⟨pre, ⟨tail, hpre⟩, hexcess⟩ := ihi
      refine ⟨'(' :: pre, ⟨tail ++ ')' :: after.written, ?_⟩, ?_⟩
      · rw [enclosed_append, ← hpre, List.append_assoc, List.cons_append]
      · rw [excess_opened, hexcess, max_eq_left hdeep]
        rfl
    · obtain ⟨pre, hpre, hexcess⟩ := iha
      refine ⟨inside.enclosed ++ pre, (List.prefix_append_right_inj _).2 hpre, ?_⟩
      rw [excess_append, excess_enclosed, hexcess, max_eq_right (by omega), Int.zero_add]

/-- A group ends with the parenthesis that closes its first one, and is as deep as groups nest in it. -/
theorem encloses (inside : Groups) : Encloses inside.enclosed (inside.depth + 1) where
  closed := excess_enclosed inside
  opened pre h hne hne' := by
    obtain rfl | ⟨q, rfl, hq⟩ | rfl := prefix_enclosed h
    · exact absurd rfl hne
    · obtain ⟨hlow, -⟩ := excess_bounds hq
      rw [excess_opened]
      omega
    · exact absurd rfl hne'
  le_depth pre h := by
    obtain rfl | ⟨q, rfl, hq⟩ | rfl := prefix_enclosed h
    · rw [excess_nil]
      omega
    · obtain ⟨-, hhigh⟩ := excess_bounds hq
      rw [excess_opened]
      omega
    · rw [excess_enclosed]
      omega
  deepest := by
    obtain ⟨pre, ⟨tail, hpre⟩, hexcess⟩ := exists_deepest inside
    refine ⟨'(' :: pre, ⟨tail ++ [')'], ?_⟩, ?_⟩
    · rw [enclosed, ← hpre, List.append_assoc, List.cons_append]
    · rw [excess_opened, hexcess]
      rfl

/-! ## Groups that break off -/

/-- Where groups break off, some of them have been written, and then nothing, or the beginning of another. -/
theorem prefix_written (h : pre <+: gs.written) :
    ∃ before : Groups, pre = before.written ∨
      ∃ inside : Groups, ∃ q, pre = before.written ++ '(' :: q ∧ q <+: inside.written := by
  induction gs generalizing pre with
  | none => exact ⟨none, .inl (List.prefix_nil.1 h)⟩
  | group inside after _ iha =>
    obtain hin | ⟨q, rfl, hq⟩ := prefix_written_group h
    · obtain rfl | ⟨q, rfl, hq⟩ | rfl := prefix_enclosed hin
      · exact ⟨none, .inl rfl⟩
      · exact ⟨none, .inr ⟨inside, q, rfl, hq⟩⟩
      · exact ⟨group inside none, .inl (by rw [written_group, written, List.append_nil])⟩
    · obtain ⟨before, rfl | ⟨inside', r, rfl, hr⟩⟩ := iha hq
      · exact ⟨group inside before, .inl (written_group inside before).symm⟩
      · exact ⟨group inside before, .inr ⟨inside', r, by rw [written_group, List.append_assoc], hr⟩⟩

/-- Where a group breaks off, its first parenthesis is open: after it come groups that are complete, and then
nothing, or the beginning of another, which keeps more parentheses open. -/
theorem prefix_unclosed (h : pre <+: inside.enclosed) (hne : pre ≠ []) (hproper : pre ≠ inside.enclosed) :
    ∃ before : Groups, pre = '(' :: before.written ∧ excess pre = 1 ∨
      ∃ next : Groups, ∃ q, pre = '(' :: (before.written ++ '(' :: q) ∧ q <+: next.written ∧
        1 < excess pre := by
  obtain rfl | ⟨q, rfl, hq⟩ | rfl := prefix_enclosed h
  · exact absurd rfl hne
  · obtain ⟨before, rfl | ⟨next, r, rfl, hr⟩⟩ := prefix_written hq
    · exact ⟨before, .inl ⟨rfl, by rw [excess_opened, excess_written, Int.zero_add]⟩⟩
    · refine ⟨before, .inr ⟨next, r, rfl, hr, ?_⟩⟩
      obtain ⟨hopen, -⟩ := excess_bounds hr
      rw [excess_opened, excess_append, excess_written, excess_opened]
      omega
  · exact absurd rfl hproper

/-- A group that breaks off is no group, as its first parenthesis stays open. -/
theorem NoneAhead.broken {q : List Char} (h : q <+: inside.written) : NoneAhead ('(' :: q) := by
  intro inside' hin
  obtain ⟨r, hr, hrq⟩ : ∃ r, inside'.enclosed = '(' :: r ∧ r <+: q :=
    ⟨_, rfl, (List.cons_prefix_cons.1 hin).2⟩
  have hclosed := excess_enclosed inside'
  obtain ⟨hopen, -⟩ := excess_bounds (hrq.trans h)
  rw [hr, excess_opened] at hclosed
  omega

end Groups

end Triparse
