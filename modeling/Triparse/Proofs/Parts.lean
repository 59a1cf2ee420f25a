import Triparse.Proofs.Fragment
import Triparse.Proofs.FreeNames

/-!
# Parts of grammars

The parts of a grammar are grammars, the steps of rules and lists of steps (`Part`). The index of a part
among the parts of the same whole (`Part.children`) is the next step of its address. The body of a
definition is not a part of it here, as it stands among other definitions.
-/

set_option autoImplicit false

namespace Triparse

/-- A grammar, or what the rules in it are made of. -/
inductive Part where
  | grammar (g : Grammar)
  | step (s : Stmt)
  | steps (ss : List Stmt)

/-- The parts of a grammar, in the order of their addresses. -/
def Grammar.children : Grammar → List Part
  | .choice gs | .sequence gs => gs.map .grammar
  | .many _ g | .times g _ | .maybe g | .lookAhead g | .anythingExcept _ g | .everythingUntil _ g
  | .stringUntil g | .valueIfAbsent g _ | .ignoreIfAbsent g | .nth g _ | .last g | .join g _
  | .map g _ | .mapReply g _ | .ignore g | .named g _ | .label g _ | .tap _ g => [.grammar g]
  | .separated _ g h | .seq g h | .skip g h | .skipLeft g h => [.grammar g, .grammar h]
  | .rule body => body.map .step
  | .primitive _ | .fix _ _ | .recursive _ _ _ | .ref _ | .orphan => []

/-- The parts of a step of a rule, in the order of their addresses. -/
def Stmt.children : Stmt → List Part
  | .step g | .limited g _ _ | .attempt g | .recover g => [.grammar g]
  | .when g matched failed => [.grammar g, .steps matched, .steps failed]
  | .loop g body => [.grammar g, .steps body]
  | .position | .atEnd | .remaining | .snippet | .reject _ | .raise _ | .finish => []

namespace Part

/-- The parts of a part, in the order of their addresses. -/
def children : Part → List Part
  | grammar g => g.children
  | step s => s.children
  | steps ss => ss.map step

/-- The names that are free in a part. -/
def free : Part → List String
  | grammar g => g.free
  | step s => s.free
  | steps ss => Stmt.freeAll ss

/-- Whether a part is in a fragment. -/
def admitted (F : Fragment) : Part → Bool
  | grammar g => F.admits g
  | step s => F.admitsStep s
  | steps ss => F.admitsSteps ss

end Part

/-! ## What the parts have of the whole -/

section
variable {F : Fragment}

theorem Fragment.admitsAll_iff {gs : List Grammar} :
    F.admitsAll gs = true ↔ ∀ g ∈ gs, F.admits g = true := by
  induction gs with
  | nil => simp [admitsAll]
  | cons g gs ih => simp [admitsAll, ih]

theorem Fragment.admitsSteps_iff {ss : List Stmt} :
    F.admitsSteps ss = true ↔ ∀ s ∈ ss, F.admitsStep s = true := by
  induction ss with
  | nil => simp [admitsSteps]
  | cons s ss ih => simp [admitsSteps, ih]

theorem Fragment.node_of_admits {g : Grammar} (h : F.admits g = true) : F.node g = true := by
  cases g <;> simp_all [admits]

theorem Fragment.step_of_admitsStep {s : Stmt} (h : F.admitsStep s = true) : F.step s = true := by
  cases s <;> simp_all [admitsStep]

theorem Grammar.mem_freeAll {name : String} {gs : List Grammar} :
    name ∈ Grammar.freeAll gs ↔ ∃ g ∈ gs, name ∈ g.free := by
  induction gs with
  | nil => simp [freeAll]
  | cons g gs ih => simp [freeAll, ih]

theorem Stmt.mem_freeAll {name : String} {ss : List Stmt} :
    name ∈ Stmt.freeAll ss ↔ ∃ s ∈ ss, name ∈ s.free := by
  induction ss with
  | nil => simp [freeAll]
  | cons s ss ih => simp [freeAll, ih]

namespace Part

/-- The parts of what is in a fragment are in it. -/
theorem admitted_children {p : Part} (hp : p.admitted F = true) :
    ∀ q ∈ p.children, q.admitted F = true := by
  revert hp
  cases p with
  | grammar g =>
    cases g <;>
      simp +contextual [children, Grammar.children, admitted, Fragment.admits, Fragment.admitsAll_iff,
        Fragment.admitsSteps_iff]
  | step s => cases s <;> simp +contextual [children, Stmt.children, admitted, Fragment.admitsStep]
  | steps ss => simp +contextual [children, admitted, Fragment.admitsSteps_iff]

/-- What is free in a part is free in the whole. -/
theorem free_children (p : Part) : ∀ q ∈ p.children, ∀ name ∈ q.free, name ∈ p.free := by
  cases p with
  | grammar g =>
    cases g <;>
      simp +contextual [children, Grammar.children, free, Grammar.free, Grammar.mem_freeAll,
        Stmt.mem_freeAll] <;>
      exact fun part hpart name hn => ⟨part, hpart, hn⟩
  | step s => cases s <;> simp +contextual [children, Stmt.children, free, Stmt.free]
  | steps ss =>
    simp only [children, free, List.forall_mem_map, Stmt.mem_freeAll]
    exact fun s hs name hn => ⟨s, hs, hn⟩

end Part

end

end Triparse
