import Triparse.Parser.Literal

/-!
# Literals and what they match

A literal matches where the elements ahead begin with it (`compareLiteral_eq_matched_iff`). UTF-8 is a
prefix code (`utf8EncodeChar_append_inj`): the bytes of one text begin with those of another if and only
if the text itself does (`utf8_prefix_iff`). So a text matches in a text where it matches in the bytes of
that text, and ends at the same place, told in characters there and in bytes here (`string_on_bytes`).
-/

set_option autoImplicit false

namespace Triparse

namespace Parser

/-! ## Comparing with a literal -/

section
variable {α : Type} {xs wanted : List α}

theorem compareLiteral_eq_tooShort_iff {eq : α → α → Bool} :
    compareLiteral eq xs wanted = .tooShort ↔ xs.length < wanted.length := by
  unfold compareLiteral
  split
  · simp [*]
  · split <;> simp [*]

variable [BEq α] [LawfulBEq α]

theorem all_zip_iff_prefix (h : wanted.length ≤ xs.length) :
    ((xs.zip wanted).all fun (x, w) => x == w) = true ↔ wanted <+: xs := by
  induction wanted generalizing xs with
  | nil => simp
  | cons w wanted ih =>
    cases xs with
    | nil => cases h
    | cons x xs =>
      rw [List.zip_cons_cons, List.all_cons, Bool.and_eq_true, ih (Nat.le_of_succ_le_succ h),
        List.cons_prefix_cons, beq_iff_eq, eq_comm]

/-- A literal matches where the elements ahead begin with it. -/
theorem compareLiteral_eq_matched_iff :
    compareLiteral (· == ·) xs wanted = .matched ↔ wanted <+: xs := by
  unfold compareLiteral
  split
  case isTrue h => exact ⟨nofun, fun hw => absurd hw.length_le (Nat.not_le_of_lt h)⟩
  case isFalse h =>
    rw [← all_zip_iff_prefix (Nat.le_of_not_lt h)]
    split <;> simp [*]

end

/-- A literal that does not match fails where it was started. -/
theorem literalReply_of_ne_matched {α : Type} {found : LiteralMatch} (h : found ≠ .matched)
    (name expected : String) (input : Input) (cursor width : Nat) (value : α) :
    ∃ e, literalReply name expected input cursor width value found = .fail cursor e := by
  cases found with
  | matched => exact absurd rfl h
  | tooShort | different => exact ⟨_, rfl⟩

end Parser

/-! ## UTF-8 -/

namespace Text

/-- Characters in UTF-8. -/
def utf8 (cs : List Char) : List UInt8 := cs.flatMap String.utf8EncodeChar

/-- The byte offset of a character of a text: how many bytes those before it take up. -/
def byteOffset (t : String) (index : Nat) : Nat := (String.ofList (t.toList.take index)).toUTF8.size

theorem utf8_append (cs ds : List Char) : utf8 (cs ++ ds) = utf8 cs ++ utf8 ds := List.flatMap_append

theorem toList_loop (bytes : ByteArray) (i : Nat) (read : List UInt8) :
    ByteArray.toList.loop bytes i read = read.reverse ++ bytes.data.toList.drop i := by
  fun_induction ByteArray.toList.loop bytes i read with
  | case1 i read h ih =>
    have hi : i < bytes.data.toList.length := h
    have hget : bytes.get! i = bytes.data.toList[i] := getElem!_pos bytes.data i h
    rw [ih, List.drop_eq_getElem_cons hi, hget, List.reverse_cons, List.append_assoc]
    rfl
  | case2 i read h =>
    have hi : bytes.data.toList.length ≤ i := Nat.le_of_not_lt h
    rw [List.drop_eq_nil_of_le hi, List.append_nil]

theorem toList_toUTF8 (t : String) : t.toUTF8.toList = utf8 t.toList := by
  rw [ByteArray.toList, toList_loop, List.reverse_nil, List.nil_append, List.drop_zero,
    String.toUTF8_eq_toByteArray, ← String.utf8Encode_toList]
  exact List.toList_data_toByteArray

theorem byteOffset_eq (t : String) (index : Nat) :
    byteOffset t index = (utf8 (t.toList.take index)).length := by
  rw [byteOffset, String.toUTF8_eq_toByteArray, String.toByteArray_ofList]
  exact congrArg List.length List.toList_data_toByteArray

/-- Bytes that begin with the encoding of a character begin with that of no other. -/
theorem utf8EncodeChar_append_inj {c d : Char} {xs ys : List UInt8}
    (h : String.utf8EncodeChar c ++ xs = String.utf8EncodeChar d ++ ys) : c = d ∧ xs = ys := by
  have hc := ByteArray.utf8DecodeChar?_utf8EncodeChar_append (b := xs.toByteArray) (c := c)
  rw [← List.toByteArray_append, h, List.toByteArray_append,
    ByteArray.utf8DecodeChar?_utf8EncodeChar_append] at hc
  cases hc
  exact ⟨rfl, List.append_cancel_left h⟩

/-- The bytes of a text begin with those of another if and only if the text begins with it. -/
theorem utf8_prefix_iff {ws cs : List Char} : utf8 ws <+: utf8 cs ↔ ws <+: cs := by
  constructor
  · intro h
    induction ws generalizing cs with
    | nil => exact List.nil_prefix
    | cons w ws ih =>
      obtain ⟨rest, hrest⟩ := h
      rw [utf8, List.flatMap_cons, List.append_assoc] at hrest
      cases cs with
      | nil =>
        have hlen := w.utf8Size_pos
        rw [← String.length_utf8EncodeChar, (List.append_eq_nil_iff.1 hrest).1] at hlen
        cases hlen
      | cons c cs =>
        obtain ⟨rfl, htail⟩ := utf8EncodeChar_append_inj (hrest.trans (List.flatMap_cons ..))
        exact List.cons_prefix_cons.2 ⟨rfl, ih ⟨rest, htail⟩⟩
  · rintro ⟨rest, rfl⟩
    exact ⟨utf8 rest, (utf8_append ws rest).symm⟩

/-- From the byte offset of a character on stand the bytes of that character and those after it. -/
theorem drop_byteOffset (t : String) (index : Nat) :
    t.toUTF8.toList.drop (byteOffset t index) = utf8 (t.toList.drop index) := by
  have hsplit := utf8_append (t.toList.take index) (t.toList.drop index)
  rw [List.take_append_drop] at hsplit
  rw [toList_toUTF8, byteOffset_eq, hsplit]
  exact List.drop_left

/-- After characters that stand in a text, the byte offset has grown by the length of their encoding. -/
theorem byteOffset_add {t : String} {index : Nat} {ws : List Char} (h : ws <+: t.toList.drop index) :
    byteOffset t (index + ws.length) = byteOffset t index + (utf8 ws).length := by
  rw [byteOffset_eq, byteOffset_eq, List.take_add, ← List.prefix_iff_eq_take.1 h, utf8_append,
    List.length_append]

end Text

/-! ## Texts in texts and in bytes -/

open Triparse.Text (byteOffset utf8_prefix_iff drop_byteOffset byteOffset_add toList_toUTF8)
open Triparse.Parser (literalReply compareLiteral compareLiteral_eq_matched_iff literalReply_of_ne_matched)

/-- **A literal text means the same on text and on its bytes.** Started at a character of a text, and at
the byte offset of that character in its encoding, the parser of a text succeeds both times or fails both
times. A success has the text for its value, and ends at a character there and at its byte offset here. -/
theorem string_on_bytes (wanted text : String) {index : Nat} (h : index ≤ text.length)
    (settings settings' : Settings) :
    let onText := ((Parser.string wanted).execute ⟨.characters text.toList, settings⟩ index).answer?
    let onBytes := ((Parser.string wanted).execute ⟨.bytes text.toUTF8.toList, settings'⟩
      (byteOffset text index)).answer?
    (∃ stop ≤ text.length, onText = some (.succeed stop wanted) ∧
        onBytes = some (.succeed (byteOffset text stop) wanted)) ∨
      ∃ e e', onText = some (.fail index e) ∧ onBytes = some (.fail (byteOffset text index) e') := by
  intro onText onBytes
  have htext : onText = some (literalReply "string" _ _ index wanted.length wanted
    (compareLiteral (· == ·) (text.toList.drop index) wanted.toList)) := rfl
  have hbytes : onBytes = some (literalReply "string" _ _ (byteOffset text index)
    wanted.toUTF8.toList.length wanted (compareLiteral (· == ·)
      (text.toUTF8.toList.drop (byteOffset text index)) wanted.toUTF8.toList)) := rfl
  -- What stands at the byte offset is the encoding of what stands at the character.
  rw [drop_byteOffset, toList_toUTF8 wanted] at hbytes
  by_cases hw : wanted.toList <+: text.toList.drop index
  · have hstop : index + wanted.length ≤ text.length := by
      have hlen := hw.length_le
      rw [List.length_drop, String.length_toList, String.length_toList] at hlen
      omega
    rw [compareLiteral_eq_matched_iff.2 hw] at htext
    rw [compareLiteral_eq_matched_iff.2 (utf8_prefix_iff.2 hw), literalReply, ← byteOffset_add hw,
      String.length_toList] at hbytes
    exact .inl ⟨index + wanted.length, hstop, htext, hbytes⟩
  · have hw' := mt utf8_prefix_iff.1 hw
    obtain ⟨e, he⟩ := literalReply_of_ne_matched (mt compareLiteral_eq_matched_iff.1 hw) _ _ _ _ _ _
    obtain ⟨e', he'⟩ := literalReply_of_ne_matched (mt compareLiteral_eq_matched_iff.1 hw') _ _ _ _ _ _
    exact .inr ⟨e, e', htext.trans (congrArg some he), hbytes.trans (congrArg some he')⟩

/-- A letter of two bytes and a mark, found after the first letter: three characters, but four bytes. -/
theorem string_on_bytes_of_accent :
    ((Parser.string "é!").execute ⟨.characters "né!".toList, {}⟩ 1).answer? = some (.succeed 3 "é!") ∧
      ((Parser.string "é!").execute ⟨.bytes "né!".toUTF8.toList, {}⟩ 1).answer? =
        some (.succeed 4 "é!") := by
  have htext : ((Parser.string "é!").execute ⟨.characters "né!".toList, {}⟩ 1).answer? =
      some (.succeed 3 "é!") := by decide
  have hoffset : byteOffset "né!" 1 = 1 ∧ byteOffset "né!" 3 = 4 := by decide
  rcases string_on_bytes "é!" "né!" (show 1 ≤ "né!".length by decide) {} {} with
    ⟨stop, -, hstop, hbytes⟩ | ⟨e, -, hfail, -⟩
  · rw [htext] at hstop
    cases hstop
    rw [hoffset.1, hoffset.2] at hbytes
    exact ⟨htext, hbytes⟩
  · rw [htext] at hfail
    cases hfail

end Triparse
