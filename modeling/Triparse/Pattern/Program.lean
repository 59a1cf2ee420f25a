import Triparse.Pattern.Node

/-!
# Patterns as programs

A pattern is run as a program of instructions at numbered places. The code of a pattern is placed at
an address and goes on, when the pattern has matched, at the first address after it; `Node.size` is
the length of the code, known without writing it.
-/

set_option autoImplicit false

namespace Triparse.Pattern

/-- An instruction; where it does not say otherwise, the program goes on at the next address. -/
inductive Instr where
  /-- Take one character of the set. -/
  | take (set : CharSet)
  /-- Go on at either address; the first is preferred. -/
  | split (first second : Nat)
  /-- Go on at an address. -/
  | jump (address : Nat)
  /-- Record the position. -/
  | save (slot : Nat)
  /-- Go on only if the condition holds. -/
  | look (l : Look)
  /-- The pattern has matched. -/
  | accept

/-- Two ways to go on: into the code or past it, the former preferred by greedy repetitions. -/
def Instr.choose (greedy : Bool) (into past : Nat) : Instr :=
  if greedy then .split into past else .split past into

namespace Node

mutual

/-- The number of instructions of a pattern. -/
def size : Node → Nat
  | empty => 0
  | take _ => 1
  | look _ => 1
  | group _ n => n.size + 2
  | concat ns => sizeOfParts ns
  | alternate ns => sizeOfBranches ns
  | loop n 0 none _ => n.size + 2
  | loop n (min + 1) none _ => (min + 1) * n.size + 1
  | loop n min (some max) _ => min * n.size + (max - min) * (n.size + 1)

/-- The number of instructions of patterns one after the other. -/
def sizeOfParts : List Node → Nat
  | [] => 0
  | n :: ns => n.size + sizeOfParts ns

/-- The number of instructions of alternatives; all but the last take two more. -/
def sizeOfBranches : List Node → Nat
  | [] => 0
  | [n] => n.size
  | n :: ns => n.size + sizeOfBranches ns + 2

end

/-- The code of `count` copies, one after the other; `code` writes a copy at an address. -/
def copies (code : Nat → List Instr) (size count address : Nat) : List Instr :=
  (List.range count).flatMap fun i => code (address + i * size)

mutual

/-- The code of a pattern at an address. A repetition of a part that may match nothing is one or
more rounds, or none; so a round that takes nothing ends it, and is a match of the part. -/
def code : Node → Nat → List Instr
  | empty, _ => []
  | take s, _ => [.take s]
  | look l, _ => [.look l]
  | group i n, address => .save (2 * i) :: n.code (address + 1) ++ [.save (2 * i + 1)]
  | concat ns, address => codeOfParts ns address
  | alternate ns, address => codeOfBranches ns (address + sizeOfBranches ns) address
  | loop n 0 none greedy, address =>
    let stop := address + n.size + 2
    let again : Instr :=
      if n.nullable then .choose greedy (address + 1) stop else .jump address
    .choose greedy (address + 1) stop :: n.code (address + 1) ++ [again]
  | loop n (min + 1) none greedy, address =>
    let last := address + min * n.size
    copies (fun a => n.code a) n.size (min + 1) address ++
      [.choose greedy last (last + n.size + 1)]
  | loop n min (some max) greedy, address =>
    let tail := address + min * n.size
    let stop := tail + (max - min) * (n.size + 1)
    copies (fun a => n.code a) n.size min address ++
      copies (fun a => .choose greedy (a + 1) stop :: n.code (a + 1)) (n.size + 1) (max - min) tail

/-- The code of patterns one after the other. -/
def codeOfParts : List Node → Nat → List Instr
  | [], _ => []
  | n :: ns, address => n.code address ++ codeOfParts ns (address + n.size)

/-- The code of alternatives, all of which go on at `stop`. -/
def codeOfBranches : List Node → Nat → Nat → List Instr
  | [], _, _ => []
  | [n], _, address => n.code address
  | n :: ns, stop, address =>
    let second := address + n.size + 2
    .split (address + 1) second :: n.code (address + 1) ++
      .jump stop :: codeOfBranches ns stop second

end

/-- The program of a pattern: it records the whole match as group 0. -/
def program (n : Node) : Array Instr := ((group 0 n).code 0 ++ [Instr.accept]).toArray

end Node

end Triparse.Pattern
