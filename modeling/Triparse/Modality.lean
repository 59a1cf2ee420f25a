/-!
# Input shapes

A parse reads exactly one of three shapes of input: characters, bytes or tokens (`Modality`). A
parser accepts a set of shapes (`Modalities`). Sets are listed, and described in failures, in the
fixed order of `Modality.all`.
-/

set_option autoImplicit false

namespace Triparse

/-- The shape of the input a parser reads. -/
inductive Modality where
  | characters
  | bytes
  | tokens
deriving DecidableEq, Repr

namespace Modality

/-- All shapes, in the order in which sets list them. -/
def all : List Modality := [.characters, .bytes, .tokens]

/-- The words for a shape in failures and descriptors. -/
def describe : Modality → String
  | .characters => "character input"
  | .bytes => "byte input"
  | .tokens => "token input"

theorem mem_all (m : Modality) : m ∈ all := by cases m <;> simp [all]

end Modality

/-- A set of input shapes. -/
structure Modalities where
  characters : Bool
  bytes : Bool
  tokens : Bool
deriving DecidableEq, Repr

namespace Modalities

/-- Whether the shape is in the set. -/
def contains (s : Modalities) : Modality → Bool
  | .characters => s.characters
  | .bytes => s.bytes
  | .tokens => s.tokens

instance : Membership Modality Modalities := ⟨fun s m => s.contains m = true⟩

instance (m : Modality) (s : Modalities) : Decidable (m ∈ s) :=
  inferInstanceAs (Decidable (s.contains m = true))

/-- No shape at all. -/
def empty : Modalities := ⟨false, false, false⟩

/-- Every shape. -/
def univ : Modalities := ⟨true, true, true⟩

/-- One shape alone. -/
def only (m : Modality) : Modalities :=
  ⟨m = .characters, m = .bytes, m = .tokens⟩

/-- The shapes that are in one of two sets. -/
def union (s t : Modalities) : Modalities :=
  ⟨s.characters || t.characters, s.bytes || t.bytes, s.tokens || t.tokens⟩

instance : Union Modalities := ⟨union⟩

/-- The set of the shapes in a list. -/
def ofList (ms : List Modality) : Modalities :=
  ms.foldl (fun s m => s ∪ only m) empty

/-- The members of a set, in the order of `Modality.all`. -/
def toList (s : Modalities) : List Modality := Modality.all.filter s.contains

/-- The words for a set: those of its members with `or` between them. -/
def describe (s : Modalities) : String :=
  String.intercalate " or " (s.toList.map Modality.describe)

/-! ## Membership -/

theorem mem_iff {m : Modality} {s : Modalities} : m ∈ s ↔ s.contains m = true := Iff.rfl

@[simp] theorem mem_univ (m : Modality) : m ∈ univ := by cases m <;> rfl

@[simp] theorem not_mem_empty (m : Modality) : m ∉ empty := by cases m <;> simp [mem_iff] <;> rfl

@[simp] theorem mem_only {m n : Modality} : m ∈ only n ↔ m = n := by
  cases m <;> cases n <;> simp [mem_iff, only, contains]

@[simp] theorem mem_union {m : Modality} {s t : Modalities} : m ∈ s ∪ t ↔ m ∈ s ∨ m ∈ t := by
  cases m <;> simp [mem_iff, contains, Union.union, union]

@[simp] theorem mem_toList {m : Modality} {s : Modalities} : m ∈ s.toList ↔ m ∈ s := by
  simp [toList, Modality.mem_all, mem_iff]

end Modalities

end Triparse
