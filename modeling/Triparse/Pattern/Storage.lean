import Triparse.Pattern.ByteRange
import Triparse.Pattern.Form
import Triparse.Pattern.Memo

/-!
# The storage of patterns

A pattern is refused if an automaton for it takes too much storage. The automaton reads bytes, and
there are two: one reads a text forward, with a state at the beginning and the end of each group; one
reads it backward, without. `Form.storage` is the size of either in bytes, and `Node.fits` the test.

States are counted, not built. A set with characters of more than one byte has many states, and like
ones are shared if a memo still knows them; what it knows depends on the numbers of the states, so the
parts of a pattern are counted in their order.
-/

set_option autoImplicit false

namespace Triparse.Pattern

/-- The size of a state. -/
def stateSize : Nat := 32

/-- The size of an entry for another state that a state can go on at. -/
def linkSize : Nat := 4

/-- The size of an entry for a byte range that a state can take. -/
def rangeSize : Nat := 8

/-- The greatest storage of an automaton. -/
def maxStorage : Nat := 10 * Nat.pow 2 20

/-- How far an automaton has come: the number of its states and the storage of all. -/
structure Extent where
  states : Nat := 0
  storage : Nat := 0
deriving DecidableEq, Repr

namespace Extent

/-- An automaton with more states, which have a size for entries together. -/
def add (e : Extent) (states : Nat) (entries : Nat := 0) : Extent :=
  ⟨e.states + states, e.storage + stateSize * states + entries⟩

/-- An automaton with more links. -/
def link (e : Extent) (links : Nat) : Extent := e.add 0 (linkSize * links)

/-- A part added a number of times, until there is too much. -/
def times (part : Extent → Extent) : Nat → Extent → Extent
  | 0, e => e
  | n + 1, e => if maxStorage < e.storage then e else times part n (part e)

end Extent

/-! ## Sets -/

/-- An automaton in which states of a set are shared. -/
structure Sharing where
  memo : Memo
  extent : Extent

namespace Sharing

/-- The number of a state that the key describes, which is added unless the memo knows it. -/
def state (s : Sharing) (key : List Nat) (entries : Nat) : Nat × Sharing :=
  match s.memo.find? key with
  | some n => (n, s)
  | none =>
    let n := s.extent.states
    (n, ⟨s.memo.keep key n, s.extent.add 1 entries⟩)

/-- The state at which sequences of at most `length` ranges begin that go on at the state `target`.
It has an entry for each range that they begin with, and the states behind it come before it. -/
def beginning (target : Nat) : Nat → List (List ByteRange) → Sharing → Nat × Sharing
  | 0, _, s => (target, s)
  | length + 1, sequences, s =>
    if sequences.all List.isEmpty then (target, s)
    else
      let heads := groupHeads sequences
      let (key, s) := heads.foldl
        (fun (key, s) (r, tails) =>
          let (next, s) := beginning target length tails s
          (next :: r.2 :: r.1 :: key, s))
        ([], s)
      s.state key.reverse (rangeSize * heads.length)

/-- The states of a sequence that goes on at the state `target`, the last range first, and a link to
the last state. -/
def chain (target : Nat) (s : Sharing) (ranges : List ByteRange) : Sharing :=
  let (_, s) := ranges.foldl (fun (next, s) r => s.state [next, r.1, r.2] 0) (target, s)
  { s with extent := s.extent.link 1 }

end Sharing

/-- An automaton with a set added. A set of basic characters takes one state with a range for each of
its own, and one behind it. -/
def Extent.addSet (backward : Bool) (t : Text.RangeTable) (e : Extent) : Extent :=
  if t.all (·.2 < 0x80) then e.add 2 (rangeSize * t.length)
  else if backward then
    ((byteRanges t).foldl (Sharing.chain (e.states + 1)) ⟨⟨1000, ∅⟩, e.add 2⟩).extent
  else (Sharing.beginning e.states 4 (byteRanges t) ⟨⟨10000, ∅⟩, e.add 1⟩).2.extent

/-! ## Texts to choose from -/

/-- Texts in groups by their first bytes, in the order in which these come first. -/
def groupBytes : List (List Nat) → List (Nat × List (List Nat))
  | [] => []
  | [] :: rest => groupBytes rest
  | (b :: bs) :: rest =>
    let groups := groupBytes rest
    let tails := (groups.find? (·.1 == b)).elim [] (·.2)
    (b, bs :: tails) :: groups.filter (·.1 != b)

/-- The parts of a list of texts between its empty ones. -/
def segments : List (List Nat) → List (List (List Nat))
  | [] => [[]]
  | [] :: rest => [] :: segments rest
  | t :: rest =>
    match segments rest with
    | s :: more => (t :: s) :: more
    | [] => [[t]]

/-- Segments without the first ones if these are empty and another empty one follows. -/
def dropRepeated : List (List (List Nat)) → List (List (List Nat))
  | [] :: [] :: more => dropRepeated ([] :: more)
  | segs => segs

/-- An automaton with a tree of texts added, each of at most `length` bytes. The order of the texts is
that in which they are preferred, so a text that ends in the tree divides those before it from those
after. -/
def Extent.addTree : Nat → List (List Nat) → Extent → Extent
  | 0, _, e => e
  | length + 1, texts, e =>
    let segs := dropRepeated (segments texts)
    let parts := (segs.filter (!·.isEmpty)).map groupBytes
    let e := parts.foldl
      (fun e groups =>
        let e := e.add 1 (if groups.length == 1 then 0 else rangeSize * groups.length)
        groups.foldl
          (fun e (_, tails) => if tails.all List.isEmpty then e else addTree length tails e) e)
      e
    (e.add 1).link (parts.length + (segs.length - 1))

/-- An automaton with a choice between texts added. -/
def Extent.addTexts (backward : Bool) (texts : List (List Nat)) (e : Extent) : Extent :=
  let texts := texts.map fun cs =>
    let bytes := cs.flatMap bytesOf
    if backward then bytes.reverse else bytes
  (e.add 1).addTree ((texts.map List.length).foldl max 0 + 1) texts

/-! ## Patterns -/

namespace Form

/-- The texts of forms that are all texts. -/
def texts? : List Form → Option (List (List Nat))
  | [] => some []
  | text cs :: fs => (texts? fs).map (cs :: ·)
  | _ => none

/-- An automaton with a repetition of a part added; `moves` tells whether the part always takes a
character. -/
def addLoop (part : Extent → Extent) (moves : Bool) : Nat → Option Nat → Extent → Extent
  | 0, some 1, e => ((part (e.add 1)).add 1).link 2
  | 0, none, e => if moves then (part (e.add 1)).link 2 else ((part e).add 3).link 4
  | min + 1, none, e => ((e.times part (min + 1)).add 1).link 2
  | min, some max, e =>
    if min == max then e.times part min
    else
      let e := if min == 0 then e.add 1 else e.times part min
      (e.add 1).times (fun e => (part (e.add 1)).link 2) (max - min)

mutual

/-- An automaton with a form added. -/
def addTo (backward : Bool) : Form → Extent → Extent
  | nothing, e => e.add 1
  | text cs, e => e.add ((cs.map fun c => (bytesOf c).length).foldl (· + ·) 0)
  | set t, e => e.addSet backward t
  | look _, e => e.add 1
  | group _ f, e => if backward then f.addTo backward e else (f.addTo backward (e.add 1)).add 1
  | sequence fs, e => addSequence backward fs e
  | choice fs, e =>
    match texts? fs with
    | some texts => e.addTexts backward texts
    | none => addChoice backward 0 fs e
  | loop f min max _, e =>
    addLoop (fun e => f.addTo backward e) ((f.least.getD 0) != 0) min max e

/-- An automaton with forms added, in the order in which they are read. -/
def addSequence (backward : Bool) : List Form → Extent → Extent
  | [], e => e
  | f :: fs, e =>
    if backward then f.addTo backward (addSequence backward fs e)
    else addSequence backward fs (f.addTo backward e)

/-- An automaton with branches added, `done` being there before. Two states for the choice come when
there are two branches. -/
def addChoice (backward : Bool) (done : Nat) : List Form → Extent → Extent
  | [], e => e
  | f :: fs, e =>
    let e := f.addTo backward e
    let e := if done == 1 then e.add 2 else e
    addChoice backward (done + 1) fs (e.link 1)

end

mutual

/-- Whether a form never takes a character. -/
def staysPut : Form → Bool
  | nothing => true
  | text _ => false
  | set _ => false
  | look _ => true
  | group _ f => f.staysPut
  | sequence fs => allStayPut fs
  | choice fs => allStayPut fs
  | loop f _ _ _ => f.staysPut

/-- Whether none of the forms takes a character. -/
def allStayPut : List Form → Bool
  | [] => true
  | f :: fs => f.staysPut && allStayPut fs

end

mutual

/-- Whether all matches of a form begin, or end, at a place where a condition holds. -/
def bordersOn (l : Look) (atEnd : Bool) : Form → Bool
  | nothing => false
  | text _ => false
  | set _ => false
  | look k => k == l
  | group _ f => f.bordersOn l atEnd
  | sequence fs => if atEnd then lastBordersOn l fs else firstBordersOn l fs
  | choice fs => allBorderOn l atEnd fs
  | loop f min _ _ => min != 0 && f.bordersOn l atEnd

/-- Whether one of the forms before the first that takes a character, or that one, borders. -/
def firstBordersOn (l : Look) : List Form → Bool
  | [] => false
  | f :: fs => f.bordersOn l false || (f.staysPut && firstBordersOn l fs)

/-- Whether one of the forms behind the last that takes a character, or that one, borders. -/
def lastBordersOn (l : Look) : List Form → Bool
  | [] => false
  | f :: fs => lastBordersOn l fs || (allStayPut fs && f.bordersOn l true)

/-- Whether all of the forms border. -/
def allBorderOn (l : Look) (atEnd : Bool) : List Form → Bool
  | [] => true
  | f :: fs => f.bordersOn l atEnd && allBorderOn l atEnd fs

end

/-- The storage of the automaton that reads forward or backward. Unless all matches begin, or end,
with the text, it starts with a loop over bytes that come before a match. -/
def storage (backward : Bool) (f : Form) : Nat :=
  let anchored := if backward then f.bordersOn .textEnd true else f.bordersOn .textStart false
  let start : Extent := ⟨0, 0⟩
  let start := if anchored then start.add 1 else (start.add 3 rangeSize).link 2
  (((group 0 f).addTo backward start).add 1).storage

end Form

/-- Whether the automata for a pattern take no more storage than allowed. -/
def Node.fits (n : Node) : Bool :=
  let f := Form.ofNode n
  f.storage false ≤ maxStorage && f.storage true ≤ maxStorage

end Triparse.Pattern
