import Triparse.State

/-!
# Elements of a source

What the three types of elements have in common: a source made of elements of the type is as long as
the list of them, and its suffixes are made of what is left of that list.
-/

set_option autoImplicit false

namespace Triparse

variable {α : Type} [Element α]

/-- A type of elements that fits the shape, the length and the suffixes of sources. -/
class LawfulElement (α : Type) [Element α] : Prop where
  of_modality {s : Source} : s.modality = Element.modality α →
    ∃ xs : List α, Element.elements s = some xs
  length_eq {s : Source} {xs : List α} : Element.elements s = some xs → xs.length = s.length
  suffix (s : Source) (n : Nat) :
    Element.elements (α := α) (s.suffix n) = (Element.elements s).map (List.drop n)

instance : LawfulElement Char where
  of_modality {s} h := by cases s <;> cases h; exact ⟨_, rfl⟩
  length_eq {s _} h := by cases s <;> cases h; rfl
  suffix s _ := by cases s <;> rfl

instance : LawfulElement UInt8 where
  of_modality {s} h := by cases s <;> cases h; exact ⟨_, rfl⟩
  length_eq {s _} h := by cases s <;> cases h; rfl
  suffix s _ := by cases s <;> rfl

instance : LawfulElement Token where
  of_modality {s} h := by cases s <;> cases h; exact ⟨_, rfl⟩
  length_eq {s _} h := by cases s <;> cases h; rfl
  suffix s _ := by cases s <;> rfl

namespace Input

variable [LawfulElement α] (i : Input)

theorem length_elements_le : (i.elements α).length ≤ i.source.length := by
  unfold elements
  cases h : Element.elements (α := α) i.source with
  | none => simp
  | some xs => simp [LawfulElement.length_eq h]

theorem length_elements (h : i.modality = Element.modality α) :
    (i.elements α).length = i.source.length := by
  obtain ⟨xs, hs⟩ := LawfulElement.of_modality h
  rw [elements, hs]
  exact LawfulElement.length_eq hs

/-- Elements ahead are elements left. -/
theorem length_drop_elements_le (n : Nat) : ((i.elements α).drop n).length ≤ i.remaining n := by
  rw [List.length_drop, remaining]
  exact Nat.sub_le_sub_right (i.length_elements_le (α := α)) n

theorem one_le_remaining {n : Nat} {x : α} (h : (i.elements α)[n]? = some x) :
    1 ≤ i.remaining n := by
  have hn := (List.getElem?_eq_some_iff.1 h).1
  have hl := i.length_elements_le (α := α)
  rw [remaining]
  omega

end Input

end Triparse
