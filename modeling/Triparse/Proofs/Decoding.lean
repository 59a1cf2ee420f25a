import Mathlib.Data.Int.ModEq
import Mathlib.Data.Nat.Digits.Lemmas
import Mathlib.Tactic.Linarith
import Triparse.Binary

/-!
# The numbers that bytes stand for

Bytes are digits in base 256 (`positional`), and a number in two's complement is written with its lowest
digits (`encode`). Decoding is taken apart into the two steps that it makes: what the bytes come to in a
word of 128 bits (`accumulate_mod`), and what a word means, with a sign or without. Both meanings are the
remainder of the number that lies nearest to zero, `Int.bmod`, for one modulus or the other
(`decode_unsigned`, `decode_signed`), and a number is that remainder if and only if it lies in the range
and is congruent (`eq_bmod_iff`). So decoding is a bijection from the bytes of one length onto the range
of that length, with `encode` as its inverse (`decode_value`).
-/

set_option autoImplicit false

namespace Triparse

/-- Bytes in the order of their weights, the least significant first; and back. -/
def Endian.upward : Endian → List UInt8 → List UInt8
  | .big, bs => bs.reverse
  | .little, bs => bs

namespace Endian

variable (endian : Endian) (bs : List UInt8)

@[simp] theorem length_upward : (endian.upward bs).length = bs.length := by
  cases endian
  · exact List.length_reverse
  · rfl

@[simp] theorem upward_upward : endian.upward (endian.upward bs) = bs := by
  cases endian
  · exact List.reverse_reverse bs
  · rfl

end Endian

/-- The numbers that `width` bytes can stand for. -/
def Sign.range : Sign → Nat → Set Int
  | .unsigned, width => {v | 0 ≤ v ∧ v < 2 ^ (8 * width)}
  | .signed, 0 => {0}
  | .signed, width + 1 => {v | -2 ^ (8 * (width + 1) - 1) ≤ v ∧ v < 2 ^ (8 * (width + 1) - 1)}

namespace Binary

/-! ## Digits in base 256 -/

/-- The number that bytes are in base 256. -/
def positional (endian : Endian) (bs : List UInt8) : Nat :=
  Nat.ofDigits 256 ((endian.upward bs).map UInt8.toNat)

/-- The lowest `width` bytes of a number in two's complement, the least significant first. -/
def lowBytes : Nat → Int → List UInt8
  | 0, _ => []
  | width + 1, v => UInt8.ofNat (v % 256).toNat :: lowBytes width (v / 256)

/-- A number in `width` bytes. -/
def encode (width : Nat) (endian : Endian) (v : Int) : List UInt8 :=
  endian.upward (lowBytes width v)

theorem length_lowBytes (width : Nat) (v : Int) : (lowBytes width v).length = width := by
  induction width generalizing v with
  | zero => rfl
  | succ width ih => rw [lowBytes, List.length_cons, ih]

@[simp] theorem length_encode (width : Nat) (endian : Endian) (v : Int) :
    (encode width endian v).length = width := by
  rw [encode, Endian.length_upward, length_lowBytes]

theorem lt_of_mem_map_toNat {bs : List UInt8} : ∀ d ∈ bs.map UInt8.toNat, d < 256 := by
  intro d hd
  obtain ⟨b, -, rfl⟩ := List.mem_map.1 hd
  exact b.toNat_lt

theorem positional_lt (endian : Endian) (bs : List UInt8) :
    positional endian bs < 2 ^ (8 * bs.length) := by
  have h := Nat.ofDigits_lt_base_pow_length (b := 256) (l := (endian.upward bs).map UInt8.toNat)
    (by decide) lt_of_mem_map_toNat
  rwa [List.length_map, Endian.length_upward, show 256 = 2 ^ 8 from rfl, ← pow_mul] at h

/-- Bytes of one length that are the same number are the same. -/
theorem eq_of_positional_eq (endian : Endian) {bs bs' : List UInt8} (hlen : bs.length = bs'.length)
    (h : positional endian bs = positional endian bs') : bs = bs' := by
  have hlen' : ((endian.upward bs).map UInt8.toNat).length =
      ((endian.upward bs').map UInt8.toNat).length := by simpa using hlen
  have hdigits := Nat.ofDigits_inj_of_len_eq (by decide) hlen' lt_of_mem_map_toNat lt_of_mem_map_toNat h
  have hup := List.map_injective_iff.2 (fun _ _ => UInt8.toNat_inj.1) hdigits
  rw [← endian.upward_upward bs, hup, Endian.upward_upward]

/-- The lowest digit of a number, and the others. -/
theorem emod_add_mul_emod (v m : Int) : v % 256 + 256 * (v / 256 % m) = v % (256 * m) := by
  rw [Int.emod_def v (256 * m), Int.emod_def (v / 256), Int.ediv_ediv_of_nonneg (by decide)]
  have := Int.emod_add_mul_ediv v 256
  linarith

theorem ofDigits_lowBytes (width : Nat) (v : Int) :
    ((Nat.ofDigits 256 ((lowBytes width v).map UInt8.toNat) : Nat) : Int) = v % 2 ^ (8 * width) := by
  induction width generalizing v with
  | zero => simp [lowBytes]
  | succ width ih =>
    have hlow : (UInt8.ofNat (v % 256).toNat).toNat = (v % 256).toNat :=
      UInt8.toNat_ofNat_of_lt (by simp only [UInt8.size]; omega)
    rw [lowBytes, List.map_cons, Nat.ofDigits_cons, hlow, Nat.cast_add, Nat.cast_mul, ih,
      Int.toNat_of_nonneg (by omega), Nat.mul_succ, pow_add, mul_comm (_ ^ _)]
    exact emod_add_mul_emod v _

/-- The bytes of a number are the number, but for a multiple of what the bytes can hold. -/
theorem positional_encode (width : Nat) (endian : Endian) (v : Int) :
    (positional endian (encode width endian v) : Int) = v % 2 ^ (8 * width) := by
  rw [positional, encode, Endian.upward_upward, ofDigits_lowBytes]

/-! ## Remainders nearest to zero -/

/-- The remainder nearest to zero is the only number in its range that is congruent. -/
theorem eq_bmod_iff {v n : Int} {m : Nat} (hm : 0 < m) :
    v = n.bmod m ↔ (-m ≤ v * 2 ∧ v * 2 < m) ∧ v ≡ n [ZMOD m] := by
  constructor
  · rintro rfl
    have hle := Int.le_bmod (x := n) hm
    have hlt := Int.bmod_lt (x := n) hm
    exact ⟨⟨by omega, by omega⟩, Int.bmod_emod⟩
  · rintro ⟨⟨hle, hlt⟩, hmod⟩
    rw [← Int.bmod_eq_of_le_mul_two hle hlt, ← Int.emod_bmod, hmod, Int.emod_bmod]

/-- How decoding comes to that remainder: shifted up by half, reduced, and shifted back. -/
theorem add_half_emod (n : Int) {m : Nat} (hm : 0 < m) : (n + m / 2) % m - m / 2 = n.bmod m := by
  have hnonneg := Int.emod_nonneg n (b := m) (by omega)
  have hlt := Int.emod_lt_of_pos n (b := m) (by omega)
  rw [Int.bmod_def, ← Int.emod_add_emod]
  split
  · rw [Int.emod_eq_of_lt (by omega) (by omega)]
    omega
  · rw [← Int.sub_emod_right, Int.emod_eq_of_lt (by omega) (by omega)]
    omega

theorem mem_range_signed {width : Nat} {v : Int} :
    v ∈ Sign.signed.range width ↔
      -((2 ^ (8 * width) : Nat) : Int) ≤ v * 2 ∧ v * 2 < (2 ^ (8 * width) : Nat) := by
  cases width with
  | zero =>
    simp only [Sign.range, Set.mem_singleton_iff]
    omega
  | succ width =>
    have htwice : (2 : Int) ^ (8 * (width + 1)) = 2 ^ (8 * (width + 1) - 1) * 2 := rfl
    simp only [Sign.range, Set.mem_ofPred_eq]
    push_cast
    rw [htwice]
    omega

/-! ## Words of 128 bits -/

/-- Bytes come to their number in a word, but for the bits that are shifted out. -/
theorem accumulate_eq (bs : List UInt8) :
    accumulate bs = Nat.ofDigits 256 (bs.reverse.map UInt8.toNat) % 2 ^ 128 := by
  induction bs using List.reverseRecOn with
  | nil => rfl
  | append_singleton bs b ih =>
    rw [accumulate] at ih ⊢
    rw [List.foldl_append, List.foldl_cons, List.foldl_nil, ih, List.reverse_append,
      List.reverse_singleton, List.singleton_append, List.map_cons, Nat.ofDigits_cons]
    show (_ % 2 ^ 128 * 256 + _) % 2 ^ 128 = _
    omega

theorem wordToInt_mod (n : Nat) : wordToInt (n % 2 ^ 128) = Int.bmod n (2 ^ 128) := by
  have hhalf : Nat.pow 2 127 = 2 ^ 127 := rfl
  have hall : Int.pow 2 128 = 2 ^ 128 := rfl
  rw [wordToInt, Int.bmod_def, hhalf, hall]
  omega

/-- The word that bytes come to, as a number with a sign. -/
theorem word_eq (bs : List UInt8) (endian : Endian) :
    wordToInt (accumulate (match endian with
      | .big => bs
      | .little => bs.reverse)) = Int.bmod (positional endian bs) (2 ^ 128) := by
  cases endian
  · rw [accumulate_eq, wordToInt_mod]
    rfl
  · rw [accumulate_eq, wordToInt_mod, List.reverse_reverse]
    rfl

/-! ## Decoding -/

/-- A decoded number without a sign is nearest to zero among those congruent modulo `2 ^ 128`. -/
theorem decode_unsigned (bs : List UInt8) (endian : Endian) :
    decode bs .unsigned endian = Int.bmod (positional endian bs) (2 ^ 128) := word_eq bs endian

section
variable {bs : List UInt8} (h : bs.length ≤ 15)
include h

/-- Fifteen bytes leave the highest bits of a word free. -/
theorem positional_lt_of_length_le (endian : Endian) : positional endian bs < 2 ^ 120 :=
  Nat.lt_of_lt_of_le (positional_lt endian bs) (Nat.pow_le_pow_right (by decide) (by omega))

theorem decode_unsigned_eq_positional (endian : Endian) :
    decode bs .unsigned endian = positional endian bs := by
  have hlt := positional_lt_of_length_le h endian
  rw [decode_unsigned, Int.bmod_eq_of_le_mul_two (by omega) (by omega)]

/-- A decoded number with a sign is nearest to zero among those congruent modulo what the bytes can
hold. -/
theorem decode_signed (endian : Endian) :
    decode bs .signed endian = Int.bmod (positional endian bs) (2 ^ (8 * bs.length)) := by
  have hword : wordToInt (accumulate (match endian with
      | .big => bs
      | .little => bs.reverse)) = positional endian bs := decode_unsigned_eq_positional h endian
  have hmodulus : Int.pow 2 (8 * bs.length) = ((2 ^ (8 * bs.length) : Nat) : Int) := by
    push_cast
    rfl
  rw [← add_half_emod _ (by positivity), ← Int.tmod_eq_emod_of_nonneg (by positivity), ← hmodulus, ← hword]
  rfl

end

/-! ## Decoding in words that must not overflow -/

/-- A number, if a word of 128 bits with a sign holds it. -/
def fit? (n : Int) : Option Int := if -2 ^ 127 ≤ n ∧ n < 2 ^ 127 then some n else none

/-- A word shifted by less than its width; the bits shifted out are lost. -/
def shiftLeft? (n : Int) (amount : Nat) : Option Int :=
  if amount < 128 then some (Int.bmod (n * 2 ^ amount) (2 ^ 128)) else none

/-- The quotient of words, rounded toward zero. -/
def quotient? (n d : Int) : Option Int := if d = 0 then none else fit? (n.tdiv d)

/-- The remainder of words, with the sign of the first; the quotient has to be a word. -/
def remainder? (n d : Int) : Option Int := (quotient? n d).map fun _ => n.tmod d

/-- The number with a sign that the word of `width` bytes means, in words: nothing, where a step
overflows. -/
def signed? (word : Int) (width : Nat) : Option Int := do
  let modulus ← shiftLeft? 1 (8 * width)
  let half ← quotient? modulus 2
  let shifted ← fit? (word + half)
  let reduced ← remainder? shifted modulus
  fit? (reduced - half)

/-- Decoding with every step done in words. -/
def decode? (bs : List UInt8) (sign : Sign) (endian : Endian) : Option Int :=
  let word := decode bs .unsigned endian
  match sign with
  | .unsigned => some word
  | .signed => signed? word bs.length

theorem fit?_eq_some {n m : Int} (h : -m ≤ n) (h' : n < 2 * m) (hm : m ≤ 2 ^ 120) :
    fit? n = some n := if_pos (by omega)

/-- Where the number without a sign is below the modulus, and that leaves the highest bits of a word free,
no step overflows. -/
theorem signed?_eq_some {word : Int} {width : Nat} (hwidth : width ≤ 15) (hnonneg : 0 ≤ word)
    (hlt : word < 2 ^ (8 * width)) :
    signed? word width =
      some ((word + 2 ^ (8 * width) / 2).tmod (2 ^ (8 * width)) - 2 ^ (8 * width) / 2) := by
  have hpos : (0 : Int) < 2 ^ (8 * width) := by positivity
  have hle : (2 : Int) ^ (8 * width) ≤ 2 ^ 120 := pow_le_pow_right₀ (by decide) (by omega)
  have hmodulus : shiftLeft? 1 (8 * width) = some (2 ^ (8 * width)) := by
    rw [shiftLeft?, if_pos (by omega), one_mul, Int.bmod_eq_of_le_mul_two (by omega) (by omega)]
  rw [signed?, hmodulus]
  generalize (2 : Int) ^ (8 * width) = m at *
  have hfit {n : Int} (h : -m ≤ n ∧ n < 2 * m) : fit? n = some n := fit?_eq_some h.1 h.2 hle
  have hhalf : quotient? m 2 = some (m / 2) := by
    rw [quotient?, if_neg (by decide), Int.tdiv_eq_ediv_of_nonneg hpos.le, hfit (by omega)]
  have hshifted : fit? (word + m / 2) = some (word + m / 2) := hfit (by omega)
  have hquotient : quotient? (word + m / 2) m = some ((word + m / 2) / m) := by
    have := Int.ediv_le_self m (a := word + m / 2) (by omega)
    have := Int.ediv_nonneg (a := word + m / 2) (b := m) (by omega) (by omega)
    rw [quotient?, if_neg hpos.ne', Int.tdiv_eq_ediv_of_nonneg (by omega), hfit (by omega)]
  have hreduced := Int.emod_lt_of_pos (word + m / 2) hpos
  have hreduced' := Int.emod_nonneg (word + m / 2) hpos.ne'
  rw [← Int.tmod_eq_emod_of_nonneg (by omega)] at hreduced hreduced'
  have hremainder : remainder? (word + m / 2) m = some ((word + m / 2).tmod m) := by
    rw [remainder?, hquotient, Option.map_some]
  rw [Option.bind_eq_bind, Option.bind_some, hhalf, Option.bind_some, hshifted, Option.bind_some,
    hremainder, Option.bind_some]
  exact hfit (by omega)

/-- With a sign, decoding overflows if and only if the bytes are too many for the modulus to be a word. -/
theorem decode?_signed (bs : List UInt8) (endian : Endian) :
    decode? bs .signed endian =
      if bs.length ≤ 15 then some (decode bs .signed endian) else none := by
  split
  case isTrue h =>
    have hword := decode_unsigned_eq_positional h endian
    have hlt : (positional endian bs : Int) < 2 ^ (8 * bs.length) := by
      exact_mod_cast positional_lt endian bs
    show signed? (decode bs .unsigned endian) bs.length = _
    rw [hword, signed?_eq_some h (by positivity) hlt, ← hword]
    rfl
  case isFalse h =>
    have hmodulus : shiftLeft? 1 (8 * bs.length) = none := if_neg (by omega)
    show signed? _ bs.length = none
    rw [signed?, hmodulus]
    rfl

/-! ## There and back -/

section
variable {bs : List UInt8} (h : bs.length ≤ 15)
include h

theorem decode_modEq (sign : Sign) (endian : Endian) :
    decode bs sign endian ≡ positional endian bs [ZMOD 2 ^ (8 * bs.length)] := by
  cases sign with
  | unsigned => rw [decode_unsigned_eq_positional h]
  | signed =>
    rw [decode_signed h]
    exact_mod_cast ((eq_bmod_iff (Nat.two_pow_pos _)).1 rfl).2

theorem decode_mem_range (sign : Sign) (endian : Endian) :
    decode bs sign endian ∈ sign.range bs.length := by
  cases sign with
  | unsigned =>
    rw [decode_unsigned_eq_positional h]
    exact ⟨by positivity, by exact_mod_cast positional_lt endian bs⟩
  | signed =>
    rw [decode_signed h, mem_range_signed]
    exact ((eq_bmod_iff (Nat.two_pow_pos _)).1 rfl).1

/-- What has been decoded is written with the same bytes. -/
theorem encode_decode (sign : Sign) (endian : Endian) :
    encode bs.length endian (decode bs sign endian) = bs := by
  refine eq_of_positional_eq endian (length_encode _ _ _) (Int.natCast_inj.1 ?_)
  rw [positional_encode, decode_modEq h]
  exact Int.emod_eq_of_lt (by positivity) (by exact_mod_cast positional_lt endian bs)

end

/-- A number in the range is what its bytes stand for. -/
theorem decode_encode {width : Nat} (h : width ≤ 15) {sign : Sign} {v : Int}
    (hv : v ∈ sign.range width) (endian : Endian) :
    decode (encode width endian v) sign endian = v := by
  have hlen : (encode width endian v).length ≤ 15 := by rwa [length_encode]
  cases sign with
  | unsigned =>
    rw [decode_unsigned_eq_positional hlen, positional_encode]
    exact Int.emod_eq_of_lt hv.1 hv.2
  | signed =>
    obtain ⟨hle, hlt⟩ := mem_range_signed.1 hv
    have hemod := Int.emod_bmod v (2 ^ (8 * width))
    push_cast at hemod
    rw [decode_signed hlen, positional_encode, length_encode, hemod, Int.bmod_eq_of_le_mul_two hle hlt]

/-- Bytes stand for a number in the range if and only if they are the bytes of that number. -/
theorem decode_eq_iff {bs : List UInt8} (h : bs.length ≤ 15) {sign : Sign} {v : Int}
    (hv : v ∈ sign.range bs.length) (endian : Endian) :
    decode bs sign endian = v ↔ bs = encode bs.length endian v := by
  constructor
  · rintro rfl
    exact (encode_decode h sign endian).symm
  · intro hbs
    rw [hbs]
    exact decode_encode h hv endian

/-- **Decoding computes the mathematical value.** Without a sign, and for any number of bytes, it is the
only number that a word of 128 bits with a sign holds and that is congruent to the number that the bytes
are in base 256; up to fifteen bytes, it is that number. With a sign, and up to fifteen bytes, it is the
only number in the range of so many bytes that is congruent modulo what they can hold, and no step on the
way overflows. Up to fifteen bytes, decoding is a bijection from the bytes of one length onto the range of
that length. -/
theorem decode_value (endian : Endian) :
    (∀ bs v, v = decode bs .unsigned endian ↔
      (-2 ^ 127 ≤ v ∧ v < 2 ^ 127) ∧ v ≡ positional endian bs [ZMOD 2 ^ 128]) ∧
    ∀ n ≤ 15,
      (∀ bs, bs.length = n →
        decode bs .unsigned endian = positional endian bs ∧
        (∀ v, v = decode bs .signed endian ↔
          v ∈ Sign.signed.range n ∧ v ≡ positional endian bs [ZMOD 2 ^ (8 * n)]) ∧
        decode? bs .signed endian = some (decode bs .signed endian)) ∧
      ∀ sign : Sign, Set.BijOn (fun bs => decode bs sign endian) {bs | bs.length = n} (sign.range n) := by
  refine ⟨fun bs v => ?_, fun n hn => ⟨?_, fun sign => ?_⟩⟩
  · rw [decode_unsigned, eq_bmod_iff (by decide)]
    push_cast
    refine and_congr_left fun _ => ?_
    omega
  · rintro bs rfl
    refine ⟨decode_unsigned_eq_positional hn endian, fun v => ?_, ?_⟩
    · rw [decode_signed hn, eq_bmod_iff (Nat.two_pow_pos _), ← mem_range_signed]
      push_cast
      rfl
    · rw [decode?_signed, if_pos hn]
  · have hinverse : Set.InvOn (encode n endian) (fun bs => decode bs sign endian)
        {bs | bs.length = n} (sign.range n) := by
      refine ⟨?_, fun v hv => decode_encode hn hv endian⟩
      rintro bs rfl
      exact encode_decode hn sign endian
    refine hinverse.bijOn ?_ ?_
    · rintro bs rfl
      exact decode_mem_range hn sign endian
    · exact fun v _ => length_encode n endian v

/-- The two bytes at the lower end of their range; no other two stand for the same number. -/
theorem decode_value_of_least :
    decode [0x80, 0x00] .signed .big = -32768 ∧
      decode? [0x80, 0x00] .signed .big = some (decode [0x80, 0x00] .signed .big) ∧
      ∀ bs, bs.length = 2 → decode bs .signed .big = -32768 → bs = [0x80, 0x00] := by
  obtain ⟨hvalue, hbijective⟩ := (decode_value .big).2 2 (by decide)
  obtain ⟨-, hsigned, hwords⟩ := hvalue [0x80, 0x00] rfl
  have hleast : -32768 = decode [0x80, 0x00] .signed .big :=
    (hsigned (-32768)).2 ⟨by norm_num [Sign.range], by decide⟩
  refine ⟨hleast.symm, hwords, fun bs hlen hbs => ?_⟩
  exact (hbijective .signed).injOn hlen rfl (hbs.trans hleast)

end Binary

end Triparse
