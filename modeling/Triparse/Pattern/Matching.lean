import Triparse.Pattern.Engine
import Triparse.Pattern.Program
import Triparse.Pattern.Reader
import Triparse.Pattern.Storage
import Triparse.Text.Index

/-!
# Matching patterns

A program is run over a text in lockstep: at each position it has a list of threads, best first,
each at an instruction of its own with the positions that it has recorded. Threads at one
instruction have the same future, so only the best of them is kept; with it a position costs no more
than the length of the program. The match is that of the best thread that accepts.
-/

set_option autoImplicit false

namespace Triparse.Pattern

/-- A thread: the address of its next instruction, and the slots it has recorded, latest first. -/
structure Thread where
  address : Nat
  slots : List (Nat × Nat)

/-- The next instruction of a thread. -/
def Thread.instr? (program : Array Instr) (t : Thread) : Option Instr := program[t.address]?

/-- Follow threads to the instructions where they take a character or accept, best first. `seen`
marks the addresses that have been followed. Each step drops a thread or marks an address, so
`threads.length + 2 * program.size + 1` steps are enough. -/
def follow (program : Array Instr) (before after : Option Char) (position : Nat) :
    Nat → List Thread → Array Bool → List Thread
  | 0, _, _ => []
  | _ + 1, [], _ => []
  | bound + 1, t :: rest, seen =>
    if seen.getD t.address true then follow program before after position bound rest seen
    else
      let seen := seen.setIfInBounds t.address true
      let go := fun more => follow program before after position bound (more ++ rest) seen
      match t.instr? program with
      | none => go []
      | some (.take _) => t :: go []
      | some .accept => t :: go []
      | some (.split a b) => go [⟨a, t.slots⟩, ⟨b, t.slots⟩]
      | some (.jump a) => go [⟨a, t.slots⟩]
      | some (.save slot) => go [⟨t.address + 1, (slot, position) :: t.slots⟩]
      | some (.look l) => if l.holds before after then go [⟨t.address + 1, t.slots⟩] else go []

/-- The threads before the first that accepts, and the slots of that one. -/
def cutAtAccept (program : Array Instr) : List Thread → List Thread × Option (List (Nat × Nat))
  | [] => ([], none)
  | t :: rest =>
    match t.instr? program with
    | some .accept => ([], some t.slots)
    | _ =>
      let (live, found) := cutAtAccept program rest
      (t :: live, found)

/-- The threads after taking a character. -/
def takeChar (program : Array Instr) (c : Char) (threads : List Thread) : List Thread :=
  threads.filterMap fun t =>
    match t.instr? program with
    | some (.take s) => if s.contains c.toNat then some ⟨t.address + 1, t.slots⟩ else none
    | _ => none

/-- Run threads over the rest of a text; `found` is the best match so far. -/
def scan (program : Array Instr) : Option Char → Nat → List Char → List Thread →
    Option (List (Nat × Nat)) → Option (List (Nat × Nat))
  | before, position, rest, threads, found =>
    let seen := Array.replicate program.size false
    let bound := threads.length + 2 * program.size + 1
    let (live, accepted) :=
      cutAtAccept program (follow program before rest.head? position bound threads seen)
    let found := accepted <|> found
    match rest with
    | [] => found
    | c :: cs =>
      match takeChar program c live with
      | [] => found
      | next => scan program (some c) (position + 1) cs next found

/-- The slots of the match at the start of a text. -/
def slots? (program : Array Instr) (chars : List Char) : Option (List (Nat × Nat)) :=
  scan program none 0 chars [⟨0, []⟩] none

/-- The program of a pattern, and the number of its groups. -/
structure Regex where
  groupCount : Nat
  program : Array Instr

namespace Regex

/-- Read a pattern whose storage is within bounds. -/
def compile (text : String) : Option Regex := do
  let n ← Node.read? text
  if n.fits then some ⟨n.groupCount, n.program⟩ else none

/-- What the groups of the match at the start of a text have taken: the bytes between the characters at
the positions that are recorded for them. -/
def captures (r : Regex) (text : String) : Option Captures := do
  let index := Text.Index.ofString text
  let slots ← slots? r.program index.chars
  pure fun group => do
    let start ← slots.lookup (2 * group)
    let stop ← slots.lookup (2 * group + 1)
    pure ⟨← index.offsets[start]?, ← index.offsets[stop]?⟩

end Regex

/-- Patterns as they are read and run here. A match is looked for at the start of a text only, as there is no
other place where an anchor holds. -/
abbrev engine : Engine where
  Regex := Regex
  compile := Regex.compile
  groupCount := Regex.groupCount
  captures := Regex.captures

end Triparse.Pattern
