import Triparse.Parser.Number
import Triparse.Proofs.Decoding
import Triparse.Proofs.Literals

/-!
# Given numbers and their bytes

The parser of a given binary number decodes the bytes ahead and compares numbers; the parser of the bytes
of that number compares bytes. As decoding is a bijection (`decode_eq_iff`), the two agree on every state
of byte input (`exactBinary_agrees_with_bytes`). A number outside the range of its format has no bytes to be
decoded from.
-/

set_option autoImplicit false

namespace Triparse

variable {β : Type}

namespace Parser

open Binary (Format decode)

variable {input : Input} (hm : input.modality = .bytes) (start : Nat)

/-! ## What the two parsers answer -/

section
variable {wanted : List UInt8}
include hm

theorem execute_bytes_short (h : ((input.elements UInt8).drop start).length < wanted.length) :
    (bytes wanted).execute input start =
      pure (.fail start (input.endOfInput start "bytes" (bytes wanted).expected)) := by
  rw [execute_of_mem (Modalities.mem_only.2 hm)]
  exact congrArg (fun found => pure (literalReply _ _ input start _ wanted found))
    (compareLiteral_eq_tooShort_iff.2 h)

/-- With enough bytes ahead, they decide. -/
theorem execute_bytes_long (h : wanted.length ≤ ((input.elements UInt8).drop start).length) :
    (bytes wanted).execute input start =
      pure (if ((input.elements UInt8).drop start).take wanted.length = wanted
        then .succeed (start + wanted.length) wanted
        else .fail start (input.noMatch start "bytes" (bytes wanted).expected)) := by
  rw [execute_of_mem (Modalities.mem_only.2 hm)]
  refine congrArg pure ?_
  split
  · next heq =>
    have hmatched := compareLiteral_eq_matched_iff.2 (List.prefix_iff_eq_take.2 heq.symm)
    exact congrArg (literalReply _ _ input start _ wanted) hmatched
  · next hne =>
    have hdifferent : compareLiteral (· == ·) ((input.elements UInt8).drop start) wanted = .different := by
      cases hfound : compareLiteral (· == ·) ((input.elements UInt8).drop start) wanted with
      | matched =>
        exact absurd (List.prefix_iff_eq_take.1 (compareLiteral_eq_matched_iff.1 hfound)).symm hne
      | tooShort => exact absurd (compareLiteral_eq_tooShort_iff.1 hfound) (Nat.not_lt_of_le h)
      | different => rfl
    exact congrArg (literalReply _ _ input start _ wanted) hdifferent

end

section
variable {format : Format} (v : Int)
include hm

theorem execute_exactBinary_short (h : ((input.elements UInt8).drop start).length < format.width) :
    (exactBinary format v).execute input start =
      pure (.fail start (input.endOfInput start "exact_binary" (bytesWanted format))) := by
  rw [execute_of_mem (Modalities.mem_only.2 hm)]
  exact if_pos (Nat.lt_of_le_of_lt (List.length_take_le' _ _) h)

/-- With enough bytes ahead, the number that they stand for decides. -/
theorem execute_exactBinary_long (h : format.width ≤ ((input.elements UInt8).drop start).length) :
    let value := decode (((input.elements UInt8).drop start).take format.width) format.sign format.endian
    (exactBinary format v).execute input start =
      pure (if value = v then .succeed (start + format.width) v
        else .fail start (.noMatch "exact_binary" start (numberWords v) (numberWords value))) := by
  intro value
  have hlen : ¬ (((input.elements UInt8).drop start).take format.width).length < format.width := by
    rw [List.length_take_of_le h]
    exact Nat.lt_irrefl _
  rw [execute_of_mem (Modalities.mem_only.2 hm)]
  refine (if_neg hlen).trans ?_
  show (if value = v then pure (Reply.succeed (start + format.width) value) else
    pure (Reply.fail start (.noMatch "exact_binary" start (numberWords v) (numberWords value)))) = _
  split
  · next hv => rw [hv]
  · rfl

end

end Parser

/-! ## Agreement -/

open Triparse.Binary (Format decode encode decode_eq_iff decode_mem_range length_encode)
open Triparse.Parser (exactBinary bytes execute_bytes_short execute_bytes_long execute_exactBinary_short
  execute_exactBinary_long answer?_apply_of_ok)

/-- **To match a given number is to match its bytes.** For a number in the range of its format, the parser
of the number and the parser of its bytes agree on every live state of byte input: both succeed, and end
after as many bytes; or both say how many are left where they were started; or both fail to match there.
A number outside the range is never matched. -/
theorem exactBinary_agrees_with_bytes (format : Format) (v : Int) {s : State β} {b : β}
    (hs : s.outcome = .ok b) (hm : s.input.modality = .bytes) :
    let wanted := encode format.width format.endian v
    let exact := ((exactBinary format v).apply s).answer?
    let literal := ((bytes wanted).apply s).answer?
    (v ∈ format.sign.range format.width →
      (∃ stop, exact = some (s.succeed stop v) ∧ literal = some (s.succeed stop wanted)) ∨
      (∃ expected expected', exact = some (s.endOfInput "exact_binary" expected) ∧
        literal = some (s.endOfInput "bytes" expected')) ∨
      ∃ expected actual expected', exact = some (s.fail (.noMatch "exact_binary" s.cursor expected actual)) ∧
        literal = some (s.noMatch "bytes" expected')) ∧
    (v ∉ format.sign.range format.width → ∃ e, exact = some (s.fail e)) := by
  intro wanted exact literal
  have hexact : exact = _ := answer?_apply_of_ok (exactBinary format v) hs
  have hliteral : literal = _ := answer?_apply_of_ok (bytes wanted) hs
  have hwidth : wanted.length = format.width := length_encode _ _ _
  rcases Nat.lt_or_ge ((s.input.elements UInt8).drop s.cursor).length format.width with hshort | hlong
  · rw [execute_exactBinary_short hm s.cursor v hshort] at hexact
    rw [execute_bytes_short hm s.cursor (hwidth.symm ▸ hshort)] at hliteral
    exact ⟨fun _ => .inr (.inl ⟨_, _, hexact, hliteral⟩), fun _ => ⟨_, hexact⟩⟩
  · rw [execute_exactBinary_long hm s.cursor v hlong] at hexact
    rw [execute_bytes_long hm s.cursor (hwidth.symm ▸ hlong), hwidth] at hliteral
    have hlen := List.length_take_of_le hlong
    have hle : format.width ≤ 15 := Nat.le_trans format.width_le (by decide)
    generalize ((s.input.elements UInt8).drop s.cursor).take format.width = bs at hexact hliteral hlen
    constructor
    · intro hv
      have hiff := decode_eq_iff (hlen.trans_le hle) (hlen ▸ hv) format.endian
      rw [hlen] at hiff
      by_cases hbs : bs = wanted
      · rw [if_pos (hiff.2 hbs)] at hexact
        rw [if_pos hbs] at hliteral
        exact .inl ⟨_, hexact, hliteral⟩
      · rw [if_neg (mt hiff.1 hbs)] at hexact
        rw [if_neg hbs] at hliteral
        exact .inr (.inr ⟨_, _, _, hexact, hliteral⟩)
    · intro hv
      have hne : decode bs format.sign format.endian ≠ v := by
        rintro rfl
        exact hv (hlen ▸ decode_mem_range (hlen.trans_le hle) format.sign format.endian)
      rw [if_neg hne] at hexact
      exact ⟨_, hexact⟩

/-- A number below zero is matched by its two bytes; without a sign, no bytes match it. -/
theorem exactBinary_agrees_with_bytes_of_minus_two :
    let s := State.start ⟨.bytes [0xfe, 0xff, 0x00], {}⟩
    ((exactBinary (Binary.half .signed .little) (-2)).apply s).answer? = some (s.succeed 2 (-2)) ∧
      ((bytes [0xfe, 0xff]).apply s).answer? = some (s.succeed 2 [0xfe, 0xff]) ∧
      ∃ e, ((exactBinary (Binary.half .unsigned .little) (-2)).apply s).answer? = some (s.fail e) := by
  intro s
  have hs : s.outcome = .ok () := rfl
  have hbytes : encode 2 .little (-2) = [0xfe, 0xff] := by decide
  have hliteral : ((bytes (encode 2 .little (-2))).apply s).answer? = some (s.succeed 2 [0xfe, 0xff]) := by
    decide
  have hagree := exactBinary_agrees_with_bytes (Binary.half .signed .little) (-2) hs rfl
  have hnever := exactBinary_agrees_with_bytes (Binary.half .unsigned .little) (-2) hs rfl
  refine ⟨?_, hbytes ▸ hliteral, hnever.2 (by norm_num [Sign.range, Binary.half])⟩
  rcases hagree.1 (by norm_num [Sign.range, Binary.half]) with
    ⟨stop, hexact, hstop⟩ | ⟨_, _, -, hshort⟩ | ⟨_, _, _, -, hdifferent⟩
  · cases hliteral.symm.trans hstop
    exact hexact
  · cases hliteral.symm.trans hshort
  · cases hliteral.symm.trans hdifferent

end Triparse
