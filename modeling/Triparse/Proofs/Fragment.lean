import Triparse.Grammar.Meaning

/-!
# Fragments

A fragment says which nodes a grammar may have and which steps its rules may have; a grammar is in it
if all of its nodes and steps are (`Fragment.admits`).
-/

set_option autoImplicit false

namespace Triparse

/-- The nodes and the steps of rules that a grammar may have. -/
structure Fragment where
  node : Grammar → Bool
  step : Stmt → Bool := fun _ => true

namespace Fragment

mutual

/-- Whether all nodes and steps of a grammar are in the fragment. -/
def admits (F : Fragment) : Grammar → Bool
  | .primitive p => F.node (.primitive p)
  | .choice gs => F.node (.choice gs) && F.admitsAll gs
  | .sequence gs => F.node (.sequence gs) && F.admitsAll gs
  | .many range g => F.node (.many range g) && F.admits g
  | .separated range g h => F.node (.separated range g h) && F.admits g && F.admits h
  | .times g n => F.node (.times g n) && F.admits g
  | .maybe g => F.node (.maybe g) && F.admits g
  | .lookAhead g => F.node (.lookAhead g) && F.admits g
  | .anythingExcept m g => F.node (.anythingExcept m g) && F.admits g
  | .everythingUntil m g => F.node (.everythingUntil m g) && F.admits g
  | .stringUntil g => F.node (.stringUntil g) && F.admits g
  | .valueIfAbsent g v => F.node (.valueIfAbsent g v) && F.admits g
  | .ignoreIfAbsent g => F.node (.ignoreIfAbsent g) && F.admits g
  | .nth g n => F.node (.nth g n) && F.admits g
  | .last g => F.node (.last g) && F.admits g
  | .join g s => F.node (.join g s) && F.admits g
  | .map g f => F.node (.map g f) && F.admits g
  | .mapReply g f => F.node (.mapReply g f) && F.admits g
  | .ignore g => F.node (.ignore g) && F.admits g
  | .named g n => F.node (.named g n) && F.admits g
  | .label g t => F.node (.label g t) && F.admits g
  | .seq g h => F.node (.seq g h) && F.admits g && F.admits h
  | .skip g h => F.node (.skip g h) && F.admits g && F.admits h
  | .skipLeft g h => F.node (.skipLeft g h) && F.admits g && F.admits h
  | .fix n g => F.node (.fix n g) && F.admits g
  | .recursive n t g => F.node (.recursive n t g) && F.admits g
  | .ref n => F.node (.ref n)
  | .orphan => F.node .orphan
  | .tap l g => F.node (.tap l g) && F.admits g
  | .rule body => F.node (.rule body) && F.admitsSteps body

/-- Whether all of the grammars are in the fragment. -/
def admitsAll (F : Fragment) : List Grammar → Bool
  | [] => true
  | g :: gs => F.admits g && F.admitsAll gs

/-- Whether a step of a rule and all in it are in the fragment. -/
def admitsStep (F : Fragment) : Stmt → Bool
  | .step g => F.step (.step g) && F.admits g
  | .limited g n t => F.step (.limited g n t) && F.admits g
  | .attempt g => F.step (.attempt g) && F.admits g
  | .recover g => F.step (.recover g) && F.admits g
  | .position => F.step .position
  | .atEnd => F.step .atEnd
  | .remaining => F.step .remaining
  | .snippet => F.step .snippet
  | .reject t => F.step (.reject t)
  | .raise e => F.step (.raise e)
  | .finish => F.step .finish
  | .when g xs ys => F.step (.when g xs ys) && F.admits g && F.admitsSteps xs && F.admitsSteps ys
  | .loop g xs => F.step (.loop g xs) && F.admits g && F.admitsSteps xs

/-- Whether all of the steps are in the fragment. -/
def admitsSteps (F : Fragment) : List Stmt → Bool
  | [] => true
  | s :: ss => F.admitsStep s && F.admitsSteps ss

end

/-- The fragment of all grammars. -/
def all : Fragment where
  node _ := true

mutual

theorem admits_all : ∀ g : Grammar, all.admits g = true
  | .primitive _ | .ref _ | .orphan => rfl
  | .choice gs | .sequence gs => Bool.and_eq_true_iff.2 ⟨rfl, admitsAll_all gs⟩
  | .many _ g | .times g _ | .maybe g | .lookAhead g | .anythingExcept _ g | .everythingUntil _ g
  | .stringUntil g | .valueIfAbsent g _ | .ignoreIfAbsent g | .nth g _ | .last g | .join g _
  | .map g _ | .mapReply g _ | .ignore g | .named g _ | .label g _ | .fix _ g | .recursive _ _ g
  | .tap _ g => Bool.and_eq_true_iff.2 ⟨rfl, admits_all g⟩
  | .separated _ g h | .seq g h | .skip g h | .skipLeft g h =>
    Bool.and_eq_true_iff.2 ⟨admits_all g, admits_all h⟩
  | .rule body => Bool.and_eq_true_iff.2 ⟨rfl, admitsSteps_all body⟩

theorem admitsAll_all : ∀ gs : List Grammar, all.admitsAll gs = true
  | [] => rfl
  | g :: gs => Bool.and_eq_true_iff.2 ⟨admits_all g, admitsAll_all gs⟩

theorem admitsStep_all : ∀ s : Stmt, all.admitsStep s = true
  | .step g | .limited g _ _ | .attempt g | .recover g =>
    Bool.and_eq_true_iff.2 ⟨rfl, admits_all g⟩
  | .position | .atEnd | .remaining | .snippet | .reject _ | .raise _ | .finish => rfl
  | .when g xs ys => Bool.and_eq_true_iff.2
    ⟨Bool.and_eq_true_iff.2 ⟨admits_all g, admitsSteps_all xs⟩, admitsSteps_all ys⟩
  | .loop g xs => Bool.and_eq_true_iff.2 ⟨admits_all g, admitsSteps_all xs⟩

theorem admitsSteps_all : ∀ ss : List Stmt, all.admitsSteps ss = true
  | [] => rfl
  | s :: ss => Bool.and_eq_true_iff.2 ⟨admitsStep_all s, admitsSteps_all ss⟩

end

end Fragment

/-- The fragment has recursive definitions of one kind or the other. -/
def Fragment.Recursive (F : Fragment) : Prop :=
  ∃ name body, F.node (.fix name body) = true ∨ ∃ traced, F.node (.recursive name traced body) = true

theorem Fragment.Recursive.mono {F G : Fragment} (h : F.Recursive)
    (hn : ∀ g, F.node g = true → G.node g = true) : G.Recursive := by
  obtain ⟨name, body, hf | ⟨traced, hr⟩⟩ := h
  · exact ⟨name, body, .inl (hn _ hf)⟩
  · exact ⟨name, body, .inr ⟨traced, hn _ hr⟩⟩

end Triparse
