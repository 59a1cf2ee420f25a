import Triparse.Parser.Element
import Triparse.Parser.Sequence
import Triparse.Text.CharClass
import Triparse.Proofs.Matches

/-!
# Lists with separators

A list with separators is its first value, and then as many matches as there are of a separator and a
value together (`separatedBy_value_then_many`). The loop of the list does not run the two as one parser:
it tells the first value from the others by the count, and gives up a separator that no value follows.
So its loop, after the first value, is compared with that of the repetition try by try
(`Parser.answer?_repeatFrom_shift`).
-/

set_option autoImplicit false

namespace Triparse

variable {α β : Type}

/-- No match of a parser on the input is left out of collections. -/
def Parser.Unsuppressed (input : Input) (p : Parser α) : Prop :=
  ∀ cursor m, (p.execute input cursor).found = some (some m) → m.suppressed = false

namespace Match

/-- A match that is not suppressed is kept. -/
theorem kept_of_unsuppressed {m : Match α} (h : m.suppressed = false) : m.kept = [m.value] := by
  rw [kept, h]
  rfl

theorem values_concat (ms : List (Match α)) (m : Match α) :
    values (ms ++ [m]) = values ms ++ m.kept := by
  rw [values, List.flatMap_append, List.flatMap_singleton]
  rfl

end Match

namespace Parser

variable {separator : Parser β} {value : Parser α} {input : Input}

theorem Unsuppressed.elementWhere [Element α] (name expected : String) (test : α → Bool) :
    (elementWhere name expected test).Unsuppressed input := by
  intro cursor m h
  by_cases hm : input.modality ∈ (Parser.elementWhere name expected test).accepts
  · rw [execute_of_mem hm] at h
    dsimp only [Parser.elementWhere] at h
    split at h
    · split at h <;> cases h
      rfl
    · cases h
  · rw [execute_of_not_mem hm] at h
    cases h

/-- If no value is suppressed, what a list tries after a value is a separator and a value. -/
theorem found_nextValue_eq_skipLeft (hv : value.Unsuppressed input) (count cursor : Nat) :
    (nextValue separator value input (count + 1) cursor).found =
      ((separator.skipLeft value).execute input cursor).found := by
  rw [found_nextValue, found_skipLeft]
  congr 1
  funext found
  cases found with
  | none => rfl
  | some gap =>
    dsimp only
    cases hf : (value.execute input gap.cursor).found with
    | none => rfl
    | some found =>
      cases found with
      | none => rfl
      | some m => rw [← hv _ _ hf]; rfl

/-- Two loops without an upper end whose tries come to the same, one of them a match ahead, come to the
same but for the count. -/
theorem answer?_repeatFrom_shift {attempt attempt' : Nat → Nat → Run (Reply α)}
    (h : ∀ count cursor, (attempt (count + 1) cursor).found = (attempt' count cursor).found)
    (stopped stopped' : Nat → Failure → Event) (bound : Nat) :
    ∀ count cursor, (repeatFrom attempt stopped .any bound (count + 1) cursor).answer? =
      (repeatFrom attempt' stopped' .any bound count cursor).answer?.map
        fun t => { t with count := t.count + 1 } := by
  induction bound with
  | zero => exact fun _ _ => rfl
  | succ bound ih =>
    intro count cursor
    rw [answer?_repeatFrom, answer?_repeatFrom, h, Option.map_bind]
    congr 1
    funext found
    cases found with
    | none => rfl
    | some m =>
      -- Both loops go on or both end: neither range has an upper end, and the cursors are the same.
      rw [Function.comp_apply]
      dsimp only
      rw [Repetition.exceededBy_any, Repetition.exceededBy_any, ih]
      split
      · rfl
      · rw [Option.map_map, Option.map_map]
        rfl

end Parser

open Triparse.Parser (many separatedBy nextValue repeatFrom answer?_many answer?_separatedBy
  answer?_repeatFrom_failed answer?_repeatFrom_last answer?_repeatFrom_next
  answer?_repeatFrom_shift found_nextValue found_nextValue_zero found_nextValue_eq_skipLeft)

section
variable {separator : Parser β} {value : Parser α} {input : Input}

/-- The value that a list has tried is a match of its parser. -/
theorem exists_found_of_nextValue {count cursor : Nat} {m : Match α}
    (h : (nextValue separator value input count cursor).found = some (some m)) :
    ∃ start, (value.execute input start).found = some (some m) := by
  cases count with
  | zero => exact ⟨cursor, h⟩
  | succ count =>
    rw [found_nextValue, Option.bind_eq_some_iff] at h
    obtain ⟨_ | gap, -, h⟩ := h
    · cases h
    · exact ⟨gap.cursor, h⟩

/-- A list is empty and ends at its start, or it ends where its last value does. -/
theorem separatedBy_ends (hm : input.modality ∈ value.accepts) (hv : value.Unsuppressed input)
    {bound start : Nat} {r : Reply (List α)}
    (hr : ((separatedBy bound .any separator value).execute input start).answer? = some r) :
    r = .succeed start [] ∨
      ∃ cursor m values, (value.execute input cursor).found = some (some m) ∧
        r = .succeed m.cursor (values ++ [m.value]) := by
  rw [answer?_separatedBy hm] at hr
  obtain ⟨t, ht, rfl⟩ := Option.map_eq_some_iff.1 hr
  obtain ⟨ms, hc, rfl⟩ := Course.of_answer ht (Repetition.exceededBy_any _)
  rcases List.eq_nil_or_concat ms with rfl | ⟨front, m, rfl⟩
  · exact .inl rfl
  · rw [List.concat_eq_append] at hc ⊢
    obtain ⟨cursor, hf⟩ := exists_found_of_nextValue hc.found
    refine .inr ⟨cursor, m, Match.values front, hf, ?_⟩
    rw [Parser.Tally.reply, Match.stop_concat, Match.values_concat,
      Match.kept_of_unsuppressed (hv _ _ hf)]
    rfl

end

/-- **A list with separators is a value and then a repetition of a separator and a value.** Without a
first value, it is empty; a first value that does not move is the only one; otherwise the others are those
of the repetition from there on, which answers whenever the list does and ends where the list does. A list
that is not empty ends where its last value does: a separator without a value is not read. -/
theorem separatedBy_value_then_many {value : Parser α} {input : Input}
    (hm : input.modality ∈ value.accepts) (hv : value.Unsuppressed input) (separator : Parser β)
    (start : Nat) :
    let list := fun bound => ((separatedBy bound .any separator value).execute input start).answer?
    ((value.execute input start).found = some none →
      ∀ bound, list (bound + 1) = some (.succeed start [])) ∧
    (∀ m, (value.execute input start).found = some (some m) → m.cursor = start →
      ∀ bound, list (bound + 1) = some (.succeed start [m.value])) ∧
    (∀ m, (value.execute input start).found = some (some m) → m.cursor ≠ start →
      ∀ bound, list (bound + 1) =
        ((many bound .any (separator.skipLeft value)).execute input m.cursor).answer?.map
          (Reply.map (m.value :: ·))) ∧
    ∀ bound r, list bound = some r → r = .succeed start [] ∨
      ∃ cursor m values, (value.execute input cursor).found = some (some m) ∧
        r = .succeed m.cursor (values ++ [m.value]) := by
  intro list
  refine ⟨fun hf bound => ?_, fun m hf hmove bound => ?_, fun m hf hmove bound => ?_,
    fun bound r hr => separatedBy_ends hm hv hr⟩ <;> dsimp only [list]
  · rw [answer?_separatedBy hm,
      answer?_repeatFrom_failed ((found_nextValue_zero separator start).trans hf)]
    rfl
  · rw [answer?_separatedBy hm,
      answer?_repeatFrom_last ((found_nextValue_zero separator start).trans hf) (.inl hmove),
      Match.kept_of_unsuppressed (hv _ _ hf), hmove]
    rfl
  · rw [answer?_separatedBy hm,
      answer?_repeatFrom_next ((found_nextValue_zero separator start).trans hf) hmove
        (Repetition.exceededBy_any _),
      answer?_repeatFrom_shift (found_nextValue_eq_skipLeft hv) _ .repetitionStopped,
      answer?_many (Modalities.mem_univ _), Option.map_map, Option.map_map, Option.map_map]
    congr 1
    funext t
    simp only [Function.comp_apply, Parser.Tally.after, Parser.Tally.reply,
      Match.kept_of_unsuppressed (hv _ _ hf)]
    rfl

/-- A list of two letters leaves the separator that ends it; where no letter stands, the list is empty. -/
theorem separatedBy_value_then_many_of_letters :
    let comma := Parser.character ','
    let letter := Parser.charWhere "a letter" Text.isLetter
    let text : Input := ⟨.characters ['a', ',', 'b', ','], {}⟩
    (((separatedBy 4 .any comma letter).execute text 0).answer? =
        ((many 3 .any (comma.skipLeft letter)).execute text 1).answer?.map (Reply.map ('a' :: ·)) ∧
      ((many 3 .any (comma.skipLeft letter)).execute text 1).answer? = some (.succeed 3 ['b'])) ∧
    ((separatedBy 4 .any comma letter).execute text 1).answer? = some (.succeed 1 []) := by
  intro comma letter text
  have hm : text.modality ∈ letter.accepts := by decide
  have h := separatedBy_value_then_many hm (.elementWhere _ _ _) comma
  exact ⟨⟨(h 0).2.2.1 ⟨1, 'a', false⟩ rfl (by decide) 3, rfl⟩, (h 1).1 rfl 3⟩

end Triparse
