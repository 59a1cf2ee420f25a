import Mathlib.Data.String.Basic
import Triparse.Proofs.Literals
import Triparse.Source
import Triparse.Text.Index

/-!
# The index of a text

The characters of a text and their byte offsets are counted alike (`index_aligned`): the offset at a place is
the length of the encoding of the characters before it (`offsetsFrom_getElem?`), so the text cut out from
that offset on is the characters from that place on (`Index.textFrom_eq`). The offset after the last
character is the length of the whole, and behind that there is none.
-/

set_option autoImplicit false

namespace Triparse

namespace Text

open String (utf8Len)

/-! ## Offsets -/

/-- The offset at a place lies behind the encoding of the characters before it. -/
theorem offsetsFrom_getElem? (cs : List Char) (start i : Nat) :
    (offsetsFrom start cs)[i]? =
      if i ≤ cs.length then some (start + utf8Len (cs.take i)) else none := by
  induction cs generalizing start i with
  | nil => cases i <;> rfl
  | cons c cs ih =>
    cases i with
    | zero => rfl
    | succ i =>
      rw [offsetsFrom, List.getElem?_cons_succ, ih]
      simp only [List.length_cons, Nat.add_le_add_iff_right, List.take_succ_cons, String.utf8Len_cons,
        Nat.add_assoc, Nat.add_comm c.utf8Size]

theorem le_of_mem_offsetsFrom {cs : List Char} {start offset : Nat}
    (h : offset ∈ offsetsFrom start cs) : start ≤ offset := by
  obtain ⟨i, hi⟩ := List.mem_iff_getElem?.1 h
  rw [offsetsFrom_getElem?] at hi
  split at hi
  · cases hi
    exact Nat.le_add_right _ _
  · cases hi

theorem offsetsFrom_increasing (cs : List Char) (start : Nat) :
    (offsetsFrom start cs).Pairwise (· < ·) := by
  induction cs generalizing start with
  | nil => exact List.pairwise_singleton _ _
  | cons c cs ih =>
    refine List.pairwise_cons.2 ⟨fun offset h => ?_, ih _⟩
    have hle := le_of_mem_offsetsFrom h
    have hpos := c.utf8Size_pos
    omega

theorem byteOffset_eq_utf8Len (text : String) (i : Nat) :
    byteOffset text i = utf8Len (text.toList.take i) := by
  rw [byteOffset, String.toUTF8_eq_toByteArray, String.size_toByteArray, String.utf8ByteSize_ofList]

namespace Index

variable (text : String)

theorem offsets_getElem? (i : Nat) :
    (ofString text).offsets[i]? = if i ≤ text.toList.length then some (byteOffset text i) else none := by
  rw [byteOffset_eq_utf8Len, ← Nat.zero_add (utf8Len _)]
  exact offsetsFrom_getElem? text.toList 0 i

/-- The text falls in two at a place, and the first part ends at the offset there. -/
theorem isValid_byteOffset (i : Nat) : String.Pos.Raw.IsValid text ⟨byteOffset text i⟩ := by
  refine String.Pos.Raw.isValid_iff_exists_append.2
    ⟨String.ofList (text.toList.take i), String.ofList (text.toList.drop i), ?_, ?_⟩
  · rw [← String.ofList_append, List.take_append_drop, String.ofList_toList]
  · rw [byteOffset_eq_utf8Len, String.rawEndPos_ofList]

/-- The text from a place on is the characters from there on. -/
theorem textFrom_eq (i : Nat) : (ofString text).textFrom i = String.ofList (text.toList.drop i) := by
  rw [textFrom, offsets_getElem?]
  by_cases h : i ≤ text.toList.length
  · have hend : text.rawEndPos =
        ⟨utf8Len (text.toList.take i) + utf8Len (text.toList.drop i)⟩ := by
      rw [← String.utf8Len_append, List.take_append_drop, ← String.rawEndPos_ofList,
        String.ofList_toList]
    have hcut := String.extract_of_valid (text.toList.take i) (text.toList.drop i) []
    rw [List.append_nil, List.take_append_drop, String.ofList_toList, ← hend] at hcut
    rw [if_pos h, byteOffset_eq_utf8Len]
    exact hcut
  · rw [if_neg h, List.drop_eq_nil_of_le (Nat.le_of_not_le h)]

theorem offsets_getLast? : (ofString text).offsets.getLast? = some text.toUTF8.size := by
  have hlength : (ofString text).offsets.length - 1 = text.toList.length :=
    congrArg (· - 1) (length_offsetsFrom 0 text.toList)
  rw [List.getLast?_eq_getElem?, hlength, offsets_getElem?, if_pos (Nat.le_refl _), byteOffset,
    List.take_length, String.ofList_toList]

/-- The bytes of the text from a place on are those from the offset there on. -/
theorem toUTF8_textFrom (i : Nat) :
    ((ofString text).textFrom i).toUTF8.toList = text.toUTF8.toList.drop (byteOffset text i) := by
  rw [textFrom_eq, toList_toUTF8, String.toList_ofList, drop_byteOffset]

end Index

open String.Pos.Raw (IsValid)

/-- **Characters and bytes of a text are counted alike.** For every text, its index has one offset more than
characters. The offset at each place is the length of the UTF-8 encoding of the characters before it; so
offsets increase, none is inside of a character, and the last is the length of the encoding of all. At every
place, also past the end, the text from there on is the characters from there on; where there is an offset,
its bytes are those of the text from the offset on. -/
theorem index_aligned (text : String) :
    let t := Index.ofString text
    (t.text = text ∧ t.chars = text.toList ∧ t.offsets.length = t.chars.length + 1) ∧
    (∀ i ≤ t.chars.length, t.offsets[i]? = some (String.ofList (t.chars.take i)).toUTF8.size) ∧
    t.offsets.Pairwise (· < ·) ∧
    (∀ offset ∈ t.offsets, IsValid text ⟨offset⟩) ∧
    t.offsets.getLast? = some text.toUTF8.size ∧
    ∀ i, .characters (t.textFrom i).toList = (Source.characters t.chars).suffix i ∧
      ∀ offset, t.offsets[i]? = some offset →
        (t.textFrom i).toUTF8.toList = text.toUTF8.toList.drop offset := by
  intro t
  refine ⟨⟨rfl, rfl, length_offsetsFrom 0 text.toList⟩, fun i hi => ?_,
    offsetsFrom_increasing text.toList 0, fun offset h => ?_, Index.offsets_getLast? text,
    fun i => ⟨?_, fun offset h => ?_⟩⟩
  · have hle : i ≤ text.toList.length := hi
    rw [Index.offsets_getElem?, if_pos hle]
    rfl
  · obtain ⟨i, hi⟩ := List.mem_iff_getElem?.1 h
    rw [Index.offsets_getElem?] at hi
    split at hi <;> cases hi
    exact Index.isValid_byteOffset text i
  · rw [Index.textFrom_eq, String.toList_ofList]
    rfl
  · rw [Index.offsets_getElem?] at h
    split at h <;> cases h
    exact Index.toUTF8_textFrom text i

theorem index_aligned_of_accents :
    let t := Index.ofString "aé€𝄞"
    t.offsets[3]? = some 6 ∧ IsValid "aé€𝄞" ⟨6⟩ ∧ (t.textFrom 3).toList = ['𝄞'] ∧
      (t.textFrom 3).toUTF8.toList = "aé€𝄞".toUTF8.toList.drop 6 ∧ (t.textFrom 9).toList = [] := by
  obtain ⟨_, hoffset, _, hvalid, _, hfrom⟩ := index_aligned "aé€𝄞"
  have hsix := (hoffset 3 (by decide)).trans (by decide : _ = some 6)
  exact ⟨hsix, hvalid 6 (List.mem_of_getElem? hsix), Source.characters.inj (hfrom 3).1,
    (hfrom 3).2 6 hsix, Source.characters.inj (hfrom 9).1⟩

end Text

end Triparse
