import Triparse.Source

/-!
# What snippets show

A snippet shows the elements from an index on, up to a width or the end of the source, and a mark tells
whether there are more (`snippet_exact`). Where the end of the elements shown is, is a matter of a sum
(bytes and tokens) or of a difference (characters); in words of a machine these are the sum up to the
greatest word and a difference that must not be below zero. A source is no longer than the greatest word, so
that both tell the same as the sum of numbers, for every index and width.
-/

set_option autoImplicit false

namespace Triparse

variable {α : Type}

/-! ## Words -/

namespace Word

/-- The sum of two words, of which `top` is the greatest: `top` itself if the sum is no word. -/
def addUpTo (top a b : Nat) : Nat := min (a + b) top

/-- The difference of two words, if that is a word. -/
def sub? (a b : Nat) : Option Nat := if b ≤ a then some (a - b) else none

/-- A word is compared with a sum as it is with the sum that stops at the greatest word. -/
theorem le_addUpTo_iff {top n : Nat} (h : n ≤ top) (a b : Nat) : n ≤ addUpTo top a b ↔ n ≤ a + b := by
  rw [addUpTo]
  omega

end Word

namespace Snippet

/-- At most `width` characters from `index` on, in quotes, in words. -/
def quotedInWords? (chars : List Char) (index width : Nat) : Option String :=
  if chars.length ≤ index then some "end of input"
  else do
    let left ← Word.sub? chars.length index
    let shown := Text.quote ((chars.drop index).take width)
    return if width < left then shown ++ "..." else shown

/-- At most `width` elements from `index` on, listed after `word`, in words up to `top`. -/
def listedInWords (top : Nat) (word : String) (render : α → String) (elements : List α)
    (index width : Nat) : String :=
  let shown := ((elements.drop index).take width).map render
  let mark := if elements.length ≤ Word.addUpTo top index width then "*END*" else "..."
  word ++ " " ++ String.intercalate ", " (shown ++ [mark])

theorem quotedInWords?_eq (chars : List Char) (index width : Nat) :
    quotedInWords? chars index width = some (quoted chars index width) := by
  unfold quotedInWords? quoted
  split
  case isTrue => rfl
  case isFalse h => rw [Word.sub?, if_pos (Nat.le_of_not_le h)]; rfl

theorem listedInWords_eq {top : Nat} {elements : List α} (h : elements.length ≤ top) (word : String)
    (render : α → String) (index width : Nat) :
    listedInWords top word render elements index width = listed word render elements index width := by
  unfold listedInWords listed
  simp only [Word.le_addUpTo_iff h]

/-! ## Elements at places -/

/-- The elements at the places from `first` up to, but not at, `last`, in order. -/
def window (elements : List α) (first last : Nat) : List α :=
  (List.range' first (last - first)).filterMap (elements[·]?)

theorem filterMap_range' (elements : List α) (n first : Nat) (h : first + n ≤ elements.length) :
    (List.range' first n).filterMap (elements[·]?) = (elements.drop first).take n := by
  induction n generalizing first with
  | zero => rfl
  | succ n ih =>
    have hfirst : first < elements.length := by omega
    rw [List.range'_succ, List.filterMap_cons_some (List.getElem?_eq_getElem hfirst),
      List.drop_eq_getElem_cons hfirst, List.take_succ_cons, ih (first + 1) (by omega)]

/-- The elements that a snippet takes are those up to the width or the end. -/
theorem take_drop_eq_window (elements : List α) (index width : Nat) :
    (elements.drop index).take width = window elements index (min elements.length (index + width)) := by
  by_cases h : elements.length ≤ index
  · rw [window, List.drop_eq_nil_of_le h, List.take_nil, Nat.min_eq_left (by omega),
      Nat.sub_eq_zero_of_le h]
    rfl
  · rw [window, filterMap_range' _ _ _ (by omega), List.take_eq_take_min, List.length_drop]
    congr 1
    omega

/-! ## Marks -/

/-- The text ends in another. -/
def EndsIn (text ending : String) : Prop := ∃ front, text = front ++ ending

theorem EndsIn.append {text ending : String} (h : EndsIn text ending) (front : String) :
    EndsIn (front ++ text) ending := by
  obtain ⟨middle, rfl⟩ := h
  exact ⟨front ++ middle, String.append_assoc.symm⟩

/-- Two endings of a text end in the same character. -/
theorem EndsIn.last_eq {text ending ending' : String} (h : EndsIn text ending)
    (h' : EndsIn text ending') (hne : ending.toList ≠ []) (hne' : ending'.toList ≠ []) :
    ending.toList.getLast? = ending'.toList.getLast? := by
  obtain ⟨front, rfl⟩ := h
  obtain ⟨front', h'⟩ := h'
  have hlast := congrArg (fun t => t.toList.getLast?) h'
  simp only [String.toList_append, List.getLast?_append, List.getLast?_eq_some_getLast hne,
    List.getLast?_eq_some_getLast hne', Option.some_or] at hlast ⊢
  exact hlast

theorem endsIn_quote (cs : List Char) : EndsIn (Text.quote cs) "\"" :=
  ⟨String.ofList ('"' :: cs.flatMap (Text.escape '"')), String.ofList_append⟩

/-- A list of texts ends in the last of them. -/
theorem endsIn_intercalate (separator : String) (texts : List String) (last : String) :
    EndsIn (String.intercalate separator (texts ++ [last])) last := by
  induction texts with
  | nil => exact ⟨"", by simp⟩
  | cons text texts ih =>
    obtain ⟨next, rest, hrest⟩ := List.exists_cons_of_ne_nil (List.append_ne_nil_of_right_ne_nil texts
      (List.cons_ne_nil last []))
    rw [hrest] at ih
    rw [List.cons_append, hrest, String.intercalate_cons_cons]
    exact ih.append _

/-! ## Snippets of each kind -/

theorem quoted_eq {chars : List Char} {index : Nat} (h : index < chars.length) (width : Nat) :
    quoted chars index width =
      Text.quote (window chars index (min chars.length (index + width))) ++
        if index + width < chars.length then "..." else "" := by
  have hmark : width < chars.length - index ↔ index + width < chars.length := by omega
  rw [quoted, if_neg (Nat.not_le_of_lt h), take_drop_eq_window]
  simp only [hmark]
  split
  · rfl
  · exact String.append_empty.symm

theorem endsIn_quoted_iff (chars : List Char) (index width : Nat) :
    EndsIn (quoted chars index width) "..." ↔ index + width < chars.length := by
  by_cases h : chars.length ≤ index
  · rw [quoted, if_pos h]
    have hend : EndsIn "end of input" "t" := ⟨"end of inpu", rfl⟩
    refine ⟨fun hdots => ?_, fun hlt => absurd hlt (by omega)⟩
    exact absurd (hdots.last_eq hend (by decide) (by decide)) (by decide)
  · rw [quoted_eq (Nat.lt_of_not_le h)]
    split
    case isTrue hmore => exact ⟨fun _ => hmore, fun _ => ⟨_, rfl⟩⟩
    case isFalse hmore =>
      rw [String.append_empty]
      refine ⟨fun hdots => ?_, fun hlt => absurd hlt hmore⟩
      exact absurd (hdots.last_eq (endsIn_quote _) (by decide) (by decide)) (by decide)

section
variable (word : String) (render : α → String) (elements : List α) (index width : Nat)

theorem listed_eq :
    listed word render elements index width =
      word ++ " " ++ String.intercalate ", "
        ((window elements index (min elements.length (index + width))).map render ++
          [if index + width < elements.length then "..." else "*END*"]) := by
  rw [listed, take_drop_eq_window]
  by_cases h : index + width < elements.length
  · rw [if_pos h, if_neg (Nat.not_le_of_lt h)]
  · rw [if_neg h, if_pos (Nat.le_of_not_lt h)]

theorem endsIn_listed : EndsIn (listed word render elements index width)
    (if index + width < elements.length then "..." else "*END*") := by
  rw [listed_eq]
  exact (endsIn_intercalate _ _ _).append _

theorem endsIn_listed_iff :
    EndsIn (listed word render elements index width) "..." ↔ index + width < elements.length := by
  have hend := endsIn_listed word render elements index width
  split at hend
  case isTrue h => exact ⟨fun _ => h, fun _ => hend⟩
  case isFalse h =>
    refine ⟨fun hdots => ?_, fun hlt => absurd hlt h⟩
    exact absurd (hdots.last_eq hend (by decide) (by decide)) (by decide)

end

end Snippet

/-! ## Snippets of a source -/

open Triparse.Snippet (EndsIn window quotedInWords? listedInWords)

/-- The width of the snippets of a source, by its shape. -/
def Settings.width (settings : Settings) : Modality → Nat
  | .characters => settings.charWidth
  | .bytes | .tokens => settings.elementWidth

/-- A snippet of a source, in words up to `top`. -/
def Source.snippetInWords? (top : Nat) : Source → Settings → Nat → Option String
  | .characters cs, settings, i => quotedInWords? cs i settings.charWidth
  | .bytes bs, settings, i =>
    some (listedInWords top "bytes" Text.hexByte bs i settings.elementWidth)
  | .tokens ts, settings, i =>
    some (listedInWords top "tokens" Token.render ts i settings.elementWidth)

theorem Source.snippetInWords?_eq {source : Source} {top : Nat} (h : source.length ≤ top)
    (settings : Settings) (index : Nat) :
    source.snippetInWords? top settings index = some (source.snippet settings index) := by
  cases source with
  | characters cs => exact Snippet.quotedInWords?_eq cs index settings.charWidth
  | bytes bs => exact congrArg some (Snippet.listedInWords_eq h _ _ index settings.elementWidth)
  | tokens ts => exact congrArg some (Snippet.listedInWords_eq h _ _ index settings.elementWidth)

/-- **Snippets are exact at every index and width.** Computed in words, no word of a snippet is too small
or too large, if the length of the source is a word. The elements shown are those at the places from the
index up to the width or the end of the source, in order. The snippet ends in dots if and only if there are
more; otherwise one of bytes or tokens ends in the mark for the end, and one of characters is no more than
the quotation, or tells that there are none left. -/
theorem snippet_exact (source : Source) (settings : Settings) (index : Nat) :
    let width := settings.width source.modality
    let text := source.snippet settings index
    (∀ top, source.length ≤ top → source.snippetInWords? top settings index = some text) ∧
    (EndsIn text "..." ↔ index + width < source.length) ∧
    match source with
    | .characters chars =>
      let shown := window chars index (min chars.length (index + width))
      (chars.length ≤ index → text = "end of input") ∧
        (index < chars.length →
          text = Text.quote shown ++ if index + width < chars.length then "..." else "")
    | .bytes bytes =>
      let shown := window bytes index (min bytes.length (index + width))
      let mark := if index + width < bytes.length then "..." else "*END*"
      text = "bytes " ++ String.intercalate ", " (shown.map Text.hexByte ++ [mark])
    | .tokens tokens =>
      let shown := window tokens index (min tokens.length (index + width))
      let mark := if index + width < tokens.length then "..." else "*END*"
      text = "tokens " ++ String.intercalate ", " (shown.map Token.render ++ [mark]) := by
  intro width text
  refine ⟨fun top htop => Source.snippetInWords?_eq htop settings index, ?_, ?_⟩
  · cases source with
    | characters chars => exact Snippet.endsIn_quoted_iff chars index width
    | bytes bytes => exact Snippet.endsIn_listed_iff _ _ bytes index width
    | tokens tokens => exact Snippet.endsIn_listed_iff _ _ tokens index width
  · cases source with
    | characters chars => exact ⟨fun h => if_pos h, fun h => Snippet.quoted_eq h width⟩
    | bytes bytes => exact Snippet.listed_eq "bytes" Text.hexByte bytes index width
    | tokens tokens => exact Snippet.listed_eq "tokens" Token.render tokens index width

/-- With the greatest width, characters are shown to the end; at the greatest index no byte is left. -/
theorem snippet_exact_of_greatest :
    let top := UInt64.size - 1
    let settings : Settings := ⟨top, top⟩
    let text := Source.characters ['a', 'b', 'c']
    let data := Source.bytes [1, 2]
    text.snippetInWords? top settings 1 = some "\"bc\"" ∧ text.length ≤ top ∧
      data.snippetInWords? top settings top = some "bytes *END*" ∧ data.length ≤ top := by
  intro top settings text data
  have htext : text.length ≤ top := by decide
  have hdata : data.length ≤ top := by decide
  exact ⟨(snippet_exact text settings 1).1 top htext, htext,
    (snippet_exact data settings top).1 top hdata, hdata⟩

end Triparse
