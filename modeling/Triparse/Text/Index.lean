/-!
# Characters and bytes of a text

A position in a text is counted in characters, a place in its UTF-8 encoding in bytes. The index of
a text keeps both: its characters, and the byte offset of each with the length of the encoding at
the end (`Index.ofString`).
-/

set_option autoImplicit false

namespace Triparse.Text

/-- The byte offset of each character from `start` on, and of the end. -/
def offsetsFrom (start : Nat) : List Char → List Nat
  | [] => [start]
  | c :: cs => start :: offsetsFrom (start + c.utf8Size) cs

/-- A text, its characters and their byte offsets. -/
structure Index where
  text : String
  chars : List Char
  offsets : List Nat
deriving Repr

namespace Index

/-- The index of a text. -/
def ofString (s : String) : Index :=
  ⟨s, s.toList, offsetsFrom 0 s.toList⟩

/-- The text from a character position on, cut out by byte offset; empty past the end. -/
def textFrom (t : Index) (index : Nat) : String :=
  match t.offsets[index]? with
  | some offset => String.Pos.Raw.extract t.text ⟨offset⟩ t.text.rawEndPos
  | none => ""

end Index

@[simp] theorem length_offsetsFrom (start : Nat) (cs : List Char) :
    (offsetsFrom start cs).length = cs.length + 1 := by
  induction cs generalizing start with
  | nil => rfl
  | cons c cs ih => simp [offsetsFrom, ih]

end Triparse.Text
