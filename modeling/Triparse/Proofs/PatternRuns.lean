import Triparse.Pattern.Matching

/-!
# What a run of a pattern keeps

A run changes a thread one instruction at a time. A property of threads that no instruction breaks
(`Kept`) therefore holds of all threads of a run, if it holds of those at its beginning, and of the thread
whose slots are the match (`Kept.scan`): a thread that accepts. The property may speak of the position
that the run has come to.
-/

set_option autoImplicit false

namespace Triparse.Pattern

/-- A property of threads at positions that no instruction of a program breaks. -/
structure Kept (program : Array Instr) (P : Nat → Thread → Prop) : Prop where
  take {position : Nat} {t : Thread} {set : CharSet} :
    P position t → t.instr? program = some (.take set) → P (position + 1) ⟨t.address + 1, t.slots⟩
  split {position : Nat} {t : Thread} {a b : Nat} :
    P position t → t.instr? program = some (.split a b) →
      P position ⟨a, t.slots⟩ ∧ P position ⟨b, t.slots⟩
  jump {position : Nat} {t : Thread} {a : Nat} :
    P position t → t.instr? program = some (.jump a) → P position ⟨a, t.slots⟩
  save {position : Nat} {t : Thread} {slot : Nat} :
    P position t → t.instr? program = some (.save slot) →
      P position ⟨t.address + 1, (slot, position) :: t.slots⟩
  look {position : Nat} {t : Thread} {l : Look} :
    P position t → t.instr? program = some (.look l) → P position ⟨t.address + 1, t.slots⟩

/-- What is left after a thread that accepts is cut off is a part of the threads. -/
theorem cutAtAccept_subset (program : Array Instr) (threads : List Thread) :
    (∀ t ∈ (cutAtAccept program threads).1, t ∈ threads) ∧
      ∀ slots, (cutAtAccept program threads).2 = some slots →
        ∃ t ∈ threads, t.instr? program = some .accept ∧ t.slots = slots := by
  induction threads with
  | nil => exact ⟨nofun, nofun⟩
  | cons t rest ih =>
    obtain ⟨hlive, hfound⟩ := ih
    rw [cutAtAccept]
    split
    · rename_i haccept
      refine ⟨nofun, ?_⟩
      intro _ h
      cases h
      exact ⟨t, List.mem_cons_self, haccept, rfl⟩
    · refine ⟨?_, fun slots hs => ?_⟩
      · exact List.forall_mem_cons.2
          ⟨List.mem_cons_self, fun u hu => List.mem_cons_of_mem t (hlive u hu)⟩
      · obtain ⟨u, hu, hus⟩ := hfound slots hs
        exact ⟨u, List.mem_cons_of_mem t hu, hus⟩

namespace Kept

variable {program : Array Instr} {P : Nat → Thread → Prop} (hk : Kept program P)
include hk

theorem follow (before after : Option Char) (position : Nat) :
    ∀ (bound : Nat) (threads : List Thread) (seen : Array Bool), (∀ t ∈ threads, P position t) →
      ∀ t ∈ Pattern.follow program before after position bound threads seen, P position t
  | 0, _, _, _ => nofun
  | _ + 1, [], _, _ => nofun
  | bound + 1, t :: rest, seen, h => by
    obtain ⟨ht, hrest⟩ := List.forall_mem_cons.1 h
    have go (seen : Array Bool) (more : List Thread) (hm : ∀ u ∈ more, P position u) :
        ∀ u ∈ Pattern.follow program before after position bound (more ++ rest) seen, P position u :=
      follow before after position bound _ seen (List.forall_mem_append.2 ⟨hm, hrest⟩)
    rw [Pattern.follow]
    split
    · exact go seen [] nofun
    dsimp only
    cases hi : t.instr? program with
    | none => exact go _ [] nofun
    | some i =>
      cases i with
      | take set | accept => exact List.forall_mem_cons.2 ⟨ht, go _ [] nofun⟩
      | split a b =>
        obtain ⟨ha, hb⟩ := hk.split ht hi
        exact go _ _ (List.forall_mem_cons.2 ⟨ha, List.forall_mem_singleton.2 hb⟩)
      | jump a => exact go _ _ (List.forall_mem_singleton.2 (hk.jump ht hi))
      | save slot => exact go _ _ (List.forall_mem_singleton.2 (hk.save ht hi))
      | look l =>
        dsimp only
        split
        · exact go _ _ (List.forall_mem_singleton.2 (hk.look ht hi))
        · exact go _ [] nofun

theorem takeChar {position : Nat} {threads : List Thread} (h : ∀ t ∈ threads, P position t) (c : Char) :
    ∀ t ∈ Pattern.takeChar program c threads, P (position + 1) t := by
  intro t ht
  obtain ⟨u, hu, hut⟩ := List.mem_filterMap.1 ht
  split at hut
  · rename_i hi
    split at hut
    · cases hut
      exact hk.take (h u hu) hi
    · cases hut
  · cases hut

omit hk in
/-- The best match after a cut is that of a thread that accepts, or the one before. -/
theorem cut {position : Nat} {threads : List Thread} (h : ∀ t ∈ threads, P position t)
    {Q : List (Nat × Nat) → Prop}
    (hq : ∀ position t, P position t → t.instr? program = some .accept → Q t.slots)
    {found : Option (List (Nat × Nat))} (hf : ∀ slots, found = some slots → Q slots) :
    (∀ t ∈ (cutAtAccept program threads).1, P position t) ∧
      ∀ slots, ((cutAtAccept program threads).2 <|> found) = some slots → Q slots := by
  obtain ⟨hlive, haccepted⟩ := cutAtAccept_subset program threads
  refine ⟨fun t ht => h t (hlive t ht), fun slots hs => ?_⟩
  cases hc : (cutAtAccept program threads).2 with
  | none =>
    rw [hc] at hs
    exact hf slots hs
  | some best =>
    rw [hc] at hs
    cases hs
    obtain ⟨t, ht, haccept, rfl⟩ := haccepted slots hc
    exact hq position t (h t ht) haccept

/-- What the property says about the slots of threads that accept holds of the matches of a run whose
threads have the property at its beginning. -/
theorem scan {Q : List (Nat × Nat) → Prop}
    (hq : ∀ position t, P position t → t.instr? program = some .accept → Q t.slots)
    (rest : List Char) :
    ∀ (before : Option Char) (position : Nat) (threads : List Thread)
      (found : Option (List (Nat × Nat))), (∀ t ∈ threads, P position t) →
        (∀ slots, found = some slots → Q slots) →
          ∀ slots, Pattern.scan program before position rest threads found = some slots → Q slots := by
  induction rest with
  | nil =>
    intro before position threads found ht hf slots hs
    have hall := hk.follow before none position (threads.length + 2 * program.size + 1) threads
      (Array.replicate program.size false) ht
    have hbest := (cut hall hq hf).2
    exact hbest slots hs
  | cons c cs ih =>
    intro before position threads found ht hf slots hs
    have hall := hk.follow before (some c) position (threads.length + 2 * program.size + 1) threads
      (Array.replicate program.size false) ht
    obtain ⟨hlive, hbest⟩ := cut hall hq hf
    have hnext := hk.takeChar hlive c
    rw [Pattern.scan] at hs
    dsimp only [List.head?_cons] at hs
    split at hs
    · exact hbest slots hs
    · exact ih _ _ _ _ hnext hbest slots hs

end Kept

end Triparse.Pattern
