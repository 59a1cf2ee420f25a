import Triparse.State

/-!
# Views of failures

Two runs often answer alike but for some parts of their failures. A view says which parts are looked
at, and by how much positions are off: `Failure.seen` counts positions from further back and blanks the
texts that are not looked at, in the failure itself, in what it is about and in its causes. The updates
that combinators make on failures can be made before or after (`seen_moveTo`, `seen_relabel`,
`seen_rename`).
-/

set_option autoImplicit false

namespace Triparse

/-- What of failures and replies is looked at. -/
structure View where
  /-- How many elements stand before the first one that positions count. -/
  offset : Nat := 0
  /-- Whether the names of parsers and the texts of what they expect are looked at. -/
  wording : Bool := true
  /-- Whether what was found in place of it is looked at. -/
  quotes : Bool := true

namespace View

variable (v : View)

/-- The view without its offset. -/
def still : View := { v with offset := 0 }

/-- A name or a text of what is expected, as far as it is looked at. -/
def word (s : String) : String := if v.wording then s else ""

/-- A text of what was found, as far as it is looked at. -/
def quote (s : String) : String := if v.quotes then s else ""

@[simp] theorem still_offset : v.still.offset = 0 := rfl

@[simp] theorem still_word (s : String) : v.still.word s = v.word s := rfl

@[simp] theorem still_quote (s : String) : v.still.quote s = v.quote s := rfl

/-- Texts put together alike from texts that look alike look alike. -/
theorem word_congr {v : View} {s t : String} (f : String → String) (h : v.word s = v.word t) :
    v.word (f s) = v.word (f t) := by
  unfold word at *
  split
  · rename_i hw
    simp only [hw, if_true] at h
    rw [h]
  · rfl

theorem word_congr_list {v : View} {xs ys : List String} (f : List String → String)
    (h : xs.map v.word = ys.map v.word) : v.word (f xs) = v.word (f ys) := by
  cases hw : v.wording with
  | true =>
    have hid : v.word = id := by
      funext s
      simp [word, hw]
    rw [hid, List.map_id, List.map_id] at h
    rw [h]
  | false => simp [word, hw]

end View

namespace Failure

/-- A failure in a view. -/
def seen (v : View) : Failure → Failure
  | noMatch n p x found => noMatch (v.word n) (v.offset + p) (v.word x) (v.quote found)
  | endOfInput n p x left => endOfInput (v.word n) (v.offset + p) (v.word x) left
  | badInput n p accepts m => badInput (v.word n) (v.offset + p) accepts m
  | countOutOfRange n p range count none => countOutOfRange (v.word n) (v.offset + p) range count none
  | countOutOfRange n p range count (some cause) =>
    countOutOfRange (v.word n) (v.offset + p) range count (some (cause.seen v))
  | rejected n p text => rejected (v.word n) (v.offset + p) text
  | within n element inner => within (v.word n) element (inner.seen v)

variable {v : View}

@[simp] theorem position_seen : ∀ e : Failure, (e.seen v).position = v.offset + e.position
  | noMatch .. | endOfInput .. | badInput .. | rejected .. => rfl
  | countOutOfRange _ _ _ _ none | countOutOfRange _ _ _ _ (some _) => rfl
  | within _ _ inner => position_seen inner

@[simp] theorem parser_seen (e : Failure) : (e.seen v).parser = v.word e.parser := by
  rcases e with _ | _ | _ | ⟨_, _, _, _, _ | _⟩ | _ | _ <;> rfl

theorem seen_moveTo (p : Nat) :
    ∀ e : Failure, (e.moveTo p).seen v = (e.seen v).moveTo (v.offset + p)
  | noMatch .. | endOfInput .. | badInput .. | rejected .. => rfl
  | countOutOfRange _ _ _ _ none | countOutOfRange _ _ _ _ (some _) => rfl
  | within n element inner => congrArg (within (v.word n) element) (seen_moveTo p inner)

theorem seen_relabel (text : String) :
    ∀ e : Failure, (e.relabel text).seen v = (e.seen v).relabel (v.word text)
  | noMatch .. | endOfInput .. | badInput .. | rejected .. => rfl
  | countOutOfRange _ _ _ _ none | countOutOfRange _ _ _ _ (some _) => rfl
  | within n element inner => congrArg (within (v.word n) element) (seen_relabel text inner)

theorem seen_rename (name : String) (e : Failure) :
    (e.rename name).seen v = (e.seen v).rename (v.word name) := by
  rcases e with _ | _ | _ | ⟨_, _, _, _, _ | _⟩ | _ | _ <;> rfl

/-- Another name is not noticed where names are not looked at. -/
theorem seen_rename_of_not_wording (hw : v.wording = false) (name : String) (e : Failure) :
    (e.rename name).seen v = e.seen v := by
  rcases e with _ | _ | _ | ⟨_, _, _, _, _ | _⟩ | _ | _ <;>
    simp only [rename, seen, View.word, hw, Bool.false_eq_true, if_false]

theorem seen_renameIf_of_not_wording (hw : v.wording = false) (inner name : String) (e : Failure) :
    (if e.parser = inner then e.rename name else e).seen v = e.seen v := by
  split
  · exact seen_rename_of_not_wording hw name e
  · rfl

theorem seen_relabel_of_not_wording (hw : v.wording = false) (text : String) :
    ∀ e : Failure, (e.relabel text).seen v = e.seen v
  | noMatch .. | endOfInput .. => by
    simp only [relabel, seen, View.word, hw, Bool.false_eq_true, if_false]
  | badInput .. | rejected .. => rfl
  | countOutOfRange _ _ _ _ none | countOutOfRange _ _ _ _ (some _) => rfl
  | within n element inner =>
    congrArg (within (v.word n) element) (seen_relabel_of_not_wording hw text inner)

/-- With all of it looked at from the beginning, a failure is seen as it is. -/
@[simp] theorem seen_default : ∀ e : Failure, e.seen {} = e
  | noMatch .. | endOfInput .. | badInput .. | rejected .. => by simp [seen, View.word, View.quote]
  | countOutOfRange _ _ _ _ none => by simp [seen, View.word]
  | countOutOfRange _ _ _ _ (some cause) => by simp [seen, View.word, seen_default cause]
  | within _ _ inner => by simp [seen, View.word, seen_default inner]

end Failure

/-- A reply in a view. -/
def Reply.seen {α : Type} (v : View) (r : Reply α) : Reply α where
  cursor := v.offset + r.cursor
  outcome := r.outcome.mapError (Failure.seen v)
  suppressed := r.suppressed

@[simp] theorem Reply.seen_default {α : Type} (r : Reply α) : r.seen {} = r := by
  obtain ⟨cursor, e | a, flag⟩ := r
  · show Reply.mk (0 + cursor) (.error (e.seen {})) flag = _
    rw [Nat.zero_add, Failure.seen_default]
  · show Reply.mk (0 + cursor) (.ok a) flag = _
    rw [Nat.zero_add]

end Triparse
