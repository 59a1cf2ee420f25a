import Mathlib.Data.List.Infix
import Triparse.Grammar.Building
import Triparse.Proofs.Parts

/-!
# Places in grammars

An address says what stands there: from the whole grammar down, an index of a part, or the body of a
definition, or the body of the definition that a reference is to (`Grammar.place?`). So nothing but its
address decides what the producer of an instance makes. References to a definition by `fix` all lead to the
body that stands at the one address of the definition (`Grammar.place?_of_shared`).
-/

set_option autoImplicit false

namespace Triparse

/-- The innermost definition of a name is one of those around, and followed by those around itself. -/
theorem Definitions.suffix_of_find? {name : String} {around outer : Definitions} {d : Definition}
    (h : around.find? name = some (d, outer)) : d :: outer <:+ around := by
  induction around with
  | nil => cases h
  | cons e around ih =>
    rw [find?] at h
    split at h
    · cases h
      exact List.suffix_rfl
    · exact (ih h).trans (List.suffix_cons e around)

/-- What stands one step on from a part among definitions, the part being at the address `a`. -/
def Part.next? (around : Definitions) (a : Address) : Part → Nat → Option (Part × Definitions)
  | .grammar (.fix name body), 0 => some (.grammar body, ⟨name, body, .shared a⟩ :: around)
  | .grammar (.recursive name traced body), 0 =>
    some (.grammar body, ⟨name, body, .fresh traced⟩ :: around)
  | .grammar (.ref name), 0 =>
    (around.find? name).map fun (d, outer) => (.grammar d.body, d :: outer)
  | p, i => p.children[i]?.map (·, around)

/-- What stands at an address in a grammar, and among which definitions. -/
def Grammar.place? (root : Grammar) : Address → Option (Part × Definitions)
  | [] => some (.grammar root, [])
  | i :: a => do
    let (p, around) ← root.place? a
    p.next? around a i

/-- What has been built is what stands at its address. -/
def Built.Placed (root : Grammar) (b : Built) : Prop :=
  root.place? b.address = some (.grammar b.body, b.around)

namespace Grammar

variable {root g : Grammar} {p q : Part} {around outer : Definitions} {a : Address} {i : Nat}
  {d : Definition} {name : String} {traced : Bool}

theorem place?_cons (h : root.place? a = some (p, around)) (i : Nat) :
    root.place? (i :: a) = p.next? around a i := by rw [place?, h, Option.bind_eq_bind, Option.bind_some]

theorem place?_child (hc : p.children[i]? = some q) (h : root.place? a = some (p, around)) :
    root.place? (i :: a) = some (q, around) := by
  rw [place?_cons h]
  unfold Part.next?
  split
  -- A definition and a reference have no parts.
  iterate 3 cases hc
  rw [hc, Option.map_some]

theorem place?_fix (h : root.place? a = some (.grammar (.fix name g), around)) :
    root.place? (0 :: a) = some (.grammar g, ⟨name, g, .shared a⟩ :: around) := place?_cons h 0

theorem place?_recursive (h : root.place? a = some (.grammar (.recursive name traced g), around)) :
    Built.Placed root (Definition.build ⟨name, g, .fresh traced⟩ around a) := place?_cons h 0

theorem place?_ref (h : root.place? a = some (.grammar (.ref name), around))
    (hd : around.find? name = some (d, outer)) : Built.Placed root (d.build outer a) := by
  have hnext := place?_cons h 0
  rw [Part.next?, hd, Option.map_some] at hnext
  exact hnext

/-- References that share an instance all lead to the body of the definition at the one address. -/
theorem place?_of_shared {b : Address} (hd : d.sharing = .shared b) (h : root.place? a = some (p, around))
    (hs : d :: outer <:+ around) : Built.Placed root (d.build outer b) := by
  induction a generalizing p around with
  | nil =>
    cases h
    exact absurd (List.suffix_nil.1 hs) (List.cons_ne_nil _ _)
  | cons i a ih =>
    obtain ⟨⟨q, inner⟩, ha, -⟩ := Option.bind_eq_some_iff.1 h
    have hnext := (place?_cons ha i).symm.trans h
    unfold Part.next? at hnext
    split at hnext
    · -- The definition is this one, or one of those around it.
      cases hnext
      obtain hself | hs := List.suffix_cons_iff.1 hs
      · cases hself
        cases hd
        exact place?_fix ha
      · exact ih ha hs
    · cases hnext
      obtain hself | hs := List.suffix_cons_iff.1 hs
      · cases hself
        cases hd
      · exact ih ha hs
    · obtain ⟨found, hfind, hpart⟩ := Option.map_eq_some_iff.1 hnext
      cases hpart
      exact ih ha (hs.trans (Definitions.suffix_of_find? hfind))
    · obtain ⟨part, -, hpart⟩ := Option.map_eq_some_iff.1 hnext
      cases hpart
      exact ih ha hs

end Grammar

end Triparse
