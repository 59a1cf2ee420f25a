import Triparse.Pattern.Node

/-!
# Normal forms of patterns

A normal form has no sequence in a sequence and no choice in a choice; characters in a row are one
text, a choice between characters is a set, and what all branches of a choice begin with stands before
it. The form of a pattern takes the same texts as the pattern; it is what the storage of a pattern is
measured on.
-/

set_option autoImplicit false

namespace Triparse.Pattern

/-- A pattern in normal form. Texts hold code points and are not empty; sets of one character are
texts. -/
inductive Form where
  | nothing
  | text (chars : List Nat)
  | set (ranges : Text.RangeTable)
  | look (l : Look)
  | group (index : Nat) (inner : Form)
  | sequence (parts : List Form)
  | choice (branches : List Form)
  | loop (inner : Form) (min : Nat) (max : Option Nat) (greedy : Bool)

namespace Form

mutual

/-- Whether two forms are one. -/
def same : Form → Form → Bool
  | nothing, nothing => true
  | text cs, text ds => cs == ds
  | set s, set t => s == t
  | look k, look l => k == l
  | group i f, group j g => i == j && f.same g
  | sequence fs, sequence gs => sameAll fs gs
  | choice fs, choice gs => sameAll fs gs
  | loop f min max greedy, loop g min' max' greedy' =>
    f.same g && min == min' && max == max' && greedy == greedy'
  | _, _ => false

/-- Whether two lists of forms are one. -/
def sameAll : List Form → List Form → Bool
  | [], [] => true
  | f :: fs, g :: gs => f.same g && sameAll fs gs
  | _, _ => false

end

mutual

/-- The number of forms in a form. -/
def weight : Form → Nat
  | nothing => 1
  | text _ => 1
  | set _ => 1
  | look _ => 1
  | group _ f => f.weight + 1
  | sequence fs => totalWeight fs + 1
  | choice fs => totalWeight fs + 1
  | loop f _ _ _ => f.weight + 1

/-- The number of forms in forms. -/
def totalWeight : List Form → Nat
  | [] => 0
  | f :: fs => f.weight + totalWeight fs

end

mutual

/-- The least number of characters that a form takes; none if it matches nothing at all. -/
def least : Form → Option Nat
  | nothing => some 0
  | text cs => some cs.length
  | set t => if t.isEmpty then none else some 1
  | look _ => some 0
  | group _ f => f.least
  | sequence fs => leastOfAll fs
  | choice fs => leastOfAny fs
  | loop f min _ _ => f.least.map (· * min)

/-- The least number of characters that forms take one after the other. -/
def leastOfAll : List Form → Option Nat
  | [] => some 0
  | f :: fs =>
    match f.least, leastOfAll fs with
    | some m, some n => some (m + n)
    | _, _ => none

/-- The least number of characters that one of the forms takes; none if one matches nothing. -/
def leastOfAny : List Form → Option Nat
  | [] => none
  | [f] => f.least
  | f :: fs =>
    match f.least, leastOfAny fs with
    | some m, some n => some (min m n)
    | _, _ => none

end

/-! ## Building -/

/-- The form of a set: a text if it has one member. -/
def ofRanges (t : Text.RangeTable) : Form :=
  match t with
  | [(lo, hi)] => if lo == hi then text [lo] else set t
  | _ => set t

/-- The forms that a form is a sequence of. -/
def parts : Form → List Form
  | nothing => []
  | sequence fs => fs
  | f => [f]

/-- A form before others; texts that meet become one. -/
def push (f : Form) (fs : List Form) : List Form :=
  match f, fs with
  | text cs, text ds :: rest => text (cs ++ ds) :: rest
  | f, fs => f :: fs

/-- Forms one after the other. -/
def mkSequence (fs : List Form) : Form :=
  match (fs.flatMap parts).foldr push [] with
  | [] => nothing
  | [f] => f
  | fs => sequence fs

/-- The forms that a form is a choice between. -/
def branches : Form → List Form
  | choice fs => fs
  | f => [f]

/-- The members of forms that are all sets or characters. -/
def members? : List Form → Option Text.RangeTable
  | [] => some []
  | text [c] :: fs => (members? fs).map (Text.RangeTable.union [(c, c)])
  | set t :: fs => (members? fs).map t.union
  | _ => none

/-- What two lists of forms both begin with. -/
def commonPart : List Form → List Form → List Form
  | f :: fs, g :: gs => if f.same g then f :: commonPart fs gs else []
  | _, _ => []

/-- What all forms begin with, if they are sequences. -/
def commonStart : List Form → List Form
  | [] => []
  | [sequence fs] => fs
  | sequence fs :: rest => commonPart fs (commonStart rest)
  | _ => []

/-- A choice between forms. `bound` bounds how often a common beginning is taken out. -/
def mkChoice : Nat → List Form → Form
  | bound, fs =>
    let fs := fs.flatMap branches
    match fs with
    | [f] => f
    | _ =>
      match members? fs, bound with
      | some t, _ => ofRanges t
      | none, 0 => choice fs
      | none, bound + 1 =>
        match commonStart fs with
        | [] => choice fs
        | start =>
          let ends := fs.map fun f => mkSequence (f.parts.drop start.length)
          mkSequence (start ++ [mkChoice bound ends])

mutual

/-- The form of a pattern. -/
def ofNode : Node → Form
  | .empty => nothing
  | .take s => ofRanges s.ranges
  | .look l => look l
  | .group i n => group i (ofNode n)
  | .concat ns => mkSequence (ofNodes ns)
  | .alternate ns =>
    let fs := ofNodes ns
    mkChoice (totalWeight fs) fs
  | .loop n min max greedy => loop (ofNode n) min max greedy

/-- The forms of patterns. -/
def ofNodes : List Node → List Form
  | [] => []
  | n :: ns => ofNode n :: ofNodes ns

end

end Form

end Triparse.Pattern
