import Triparse.BuildError

/-!
# Binary numbers

Integers written as bytes: with or without a sign (two's complement), most or least significant byte
first. `decode` reads the bits into a word of 128 bits.
-/

set_option autoImplicit false

namespace Triparse

/-- Whether a binary number has a sign. -/
inductive Sign where
  | signed
  | unsigned
deriving DecidableEq, Repr

/-- Which byte of a binary number comes first: the most significant or the least. -/
inductive Endian where
  | big
  | little
deriving DecidableEq, Repr

namespace Binary

/-- The bits of bytes, most significant first, in a word of 128 bits; higher bits are shifted out. -/
def accumulate (bs : List UInt8) : Nat :=
  bs.foldl (fun word b => (word * 256 + b.toNat) % Nat.pow 2 128) 0

/-- A word of 128 bits as an integer in two's complement. -/
def wordToInt (word : Nat) : Int :=
  if word < Nat.pow 2 127 then word else (word : Int) - Int.pow 2 128

/-- The number that bytes stand for. Numbers with a sign are of at most 15 bytes. -/
def decode (bs : List UInt8) (sign : Sign) (endian : Endian) : Int :=
  let word := wordToInt (accumulate (match endian with
    | .big => bs
    | .little => bs.reverse))
  match sign with
  | .unsigned => word
  | .signed =>
    let modulus := Int.pow 2 (8 * bs.length)
    let half := modulus / 2
    (word + half).tmod modulus - half

/-- The largest number of bytes of a binary number in a grammar. -/
def maxWidth : Nat := 8

/-- The form of a binary number in a grammar. -/
structure Format where
  width : Nat
  sign : Sign
  endian : Endian
  pos_width : 0 < width
  width_le : width ≤ maxWidth
deriving DecidableEq

/-- The form with the given width, if that is supported. -/
def Format.make (width : Nat) (sign : Sign) (endian : Endian) : Except BuildError Format :=
  if h : 0 < width ∧ width ≤ maxWidth then .ok ⟨width, sign, endian, h.1, h.2⟩
  else .error (.unsupportedWidth width)

/-- One byte. -/
def byte (sign : Sign) : Format := ⟨1, sign, .big, by decide, by decide⟩

/-- Two bytes. -/
def half (sign : Sign) (endian : Endian) : Format := ⟨2, sign, endian, by decide, by decide⟩

/-- Four bytes. -/
def word (sign : Sign) (endian : Endian) : Format := ⟨4, sign, endian, by decide, by decide⟩

end Binary

end Triparse
