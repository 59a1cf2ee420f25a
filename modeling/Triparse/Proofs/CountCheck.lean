import Triparse.Parser.Element
import Triparse.Proofs.Matches

/-!
# Counted repetition

A repetition with a range is the repetition without one, followed by a check of the count
(`range_checks_count`). That is not how it is done: the loop breaks off at the first match too many, so
what it would have read after that plays no part, and the count that its failure tells is cut off there.
-/

set_option autoImplicit false

namespace Triparse

variable {α β : Type}

/-! ## The check -/

namespace Repetition

/-- The lesser end comes first, whichever way round the ends are given. -/
theorem between_eq (a b : Nat) : between a (some b) = ⟨Min.min a b, some (Max.max a b)⟩ := by
  rw [between_some]
  split
  · rw [Nat.min_eq_right (by omega), Nat.max_eq_left (by omega)]
  · rw [Nat.min_eq_left (by omega), Nat.max_eq_right (by omega)]

theorem contains_iff (lower upper n : Nat) :
    contains ⟨lower, some upper⟩ n = true ↔ lower ≤ n ∧ n ≤ upper := by
  simp [contains, exceededBy]

theorem contains_unbounded_iff (lower n : Nat) : contains ⟨lower, none⟩ n = true ↔ lower ≤ n := by
  simp [contains, exceededBy]

/-- A count that is cut off was not in the range, and is not brought into it. -/
theorem contains_cutOff (r : Repetition) (n : Nat) : r.contains (r.cutOff n) = r.contains n := by
  cases hm : r.max with
  | none => rw [show r.cutOff n = n by simp only [cutOff, hm]]
  | some m =>
    have hcut : r.cutOff n = Min.min n (m + 1) := by simp only [cutOff, hm]
    rw [Bool.eq_iff_iff, hcut, show r = ⟨r.min, some m⟩ by rw [← hm], contains_iff, contains_iff]
    omega

/-- The reply `r` of a repetition that has made `count` matches, if the count is in the range, and
otherwise a failure at the start. -/
def check (range : Repetition) (name : String) (start count : Nat) (r : Reply (List α)) :
    Reply (List α) :=
  if range.contains count then r
  else .fail start (.countOutOfRange name start range (range.cutOff count) none)

end Repetition

/-- The answers of a repetition under the ranges that can be asked for, where it has answered `r` under
none and has made `count` matches: `r` again if the count is in the range, and otherwise a failure at the
start with the range and with the count up to one more than the range allows. -/
structure CountChecked (name : String) (start count : Nat) (r : Reply (List α))
    (answer : Repetition → Option (Reply (List α))) : Prop where
  any : answer .any = some r
  between (a b : Nat) : answer (.between a (some b)) =
    some (if min a b ≤ count ∧ count ≤ max a b then r
      else .fail start (.countOutOfRange name start ⟨min a b, some (max a b)⟩
        (min count (max a b + 1)) none))
  atLeast (n : Nat) : answer (.atLeast n) =
    some (if n ≤ count then r
      else .fail start (.countOutOfRange name start ⟨n, none⟩ count none))
  atMost (n : Nat) : answer (.atMost n) =
    some (if count ≤ n then r
      else .fail start (.countOutOfRange name start ⟨0, some n⟩ (min count (n + 1)) none))
  exactly (n : Nat) : answer (.exactly n) =
    some (if count = n then r
      else .fail start (.countOutOfRange name start ⟨n, some n⟩ (min count (n + 1)) none))

theorem CountChecked.of_check {name : String} {start count : Nat} {r : Reply (List α)}
    {answer : Repetition → Option (Reply (List α))}
    (h : ∀ range, answer range = some (range.check name start count r)) :
    CountChecked name start count r answer where
  any := by rw [h]; rfl
  between a b := by
    rw [h, Repetition.check, Repetition.between_eq]
    simp only [Repetition.contains_iff]
    rfl
  atLeast n := by
    rw [h, Repetition.check, Repetition.atLeast_eq]
    simp only [Repetition.contains_unbounded_iff]
    rfl
  atMost n := by
    rw [h, Repetition.check, Repetition.atMost_eq]
    simp only [Repetition.contains_iff, Nat.zero_le, true_and]
    rfl
  exactly n := by
    rw [h, Repetition.check, Repetition.exactly_eq]
    simp only [Repetition.contains_iff, Nat.le_antisymm_iff, and_comm]
    rfl

/-! ## Loops -/

namespace Course

variable {attempt : Nat → Nat → Run (Reply α)} {start : Nat} {ms : List (Match α)}

/-- A loop that has a course comes, under a range, to the check of the count. -/
theorem checked (h : Course attempt 0 start ms) (name : String) (stopped : Nat → Failure → Event)
    (range : Repetition) {bound : Nat} (hb : ms.length < bound) :
    (Parser.repeatFrom attempt stopped range bound 0 start).answer?.map
        (Parser.Tally.reply name range start) =
      some (range.check name start ms.length
        (.succeed (Match.stop start ms) (Match.values ms))) := by
  obtain ⟨t, ht, hcount, hall⟩ := h.answer stopped range.exceededBy_zero hb
  rw [Nat.zero_add] at hcount hall
  rw [ht, Option.map_some, Parser.Tally.reply, hcount, Repetition.contains_cutOff, Repetition.check]
  split
  · rename_i hc
    have hin : range.exceededBy ms.length = false := by
      simp only [Repetition.contains, Bool.and_eq_true, Bool.not_eq_true'] at hc
      exact hc.2
    rw [hall hin]
  · rfl

/-- A loop without an upper end that has answered has a course, and it is checked under all ranges. -/
theorem checked_of_answer {name : String} {stopped : Nat → Failure → Event} {bound : Nat}
    {r : Reply (List α)}
    (h : (Parser.repeatFrom attempt stopped .any bound 0 start).answer?.map
      (Parser.Tally.reply name .any start) = some r) :
    ∃ ms, Course attempt 0 start ms ∧ ∀ bound' > ms.length,
      CountChecked name start ms.length r fun range =>
        (Parser.repeatFrom attempt stopped range bound' 0 start).answer?.map
          (Parser.Tally.reply name range start) := by
  obtain ⟨t, ht, rfl⟩ := Option.map_eq_some_iff.1 h
  obtain ⟨ms, hc, rfl⟩ := of_answer ht (Repetition.exceededBy_any _)
  exact ⟨ms, hc, fun bound' hb => .of_check fun range => hc.checked name stopped range hb⟩

end Course

/-! ## Repetitions -/

open Triparse.Parser (many separatedBy nextValue answer?_many answer?_separatedBy)

/-- **A repetition with a range is the repetition without one and a check of the count.** If the
repetition without a range answers, it has made some number of matches, suppressed ones included, and
under a range it answers the same if that number is in the range; otherwise it fails at its start. The
same holds for lists with separators. -/
theorem range_checks_count {p : Parser α} {input : Input} (hm : input.modality ∈ p.accepts)
    (separator : Parser β) (start : Nat) :
    (∀ bound r, ((many bound .any p).execute input start).answer? = some r →
      ∃ ms, Course (fun _ => p.execute input) 0 start ms ∧ ∀ bound' > ms.length,
        CountChecked "many" start ms.length r fun range =>
          ((many bound' range p).execute input start).answer?) ∧
    ∀ bound r, ((separatedBy bound .any separator p).execute input start).answer? = some r →
      ∃ ms, Course (nextValue separator p input) 0 start ms ∧ ∀ bound' > ms.length,
        CountChecked "separated_by" start ms.length r fun range =>
          ((separatedBy bound' range separator p).execute input start).answer? := by
  simp only [answer?_many hm, answer?_separatedBy hm]
  exact ⟨fun _ _ h => Course.checked_of_answer h, fun _ _ h => Course.checked_of_answer h⟩

/-- Three letters that are left out of the result are one too many for a range that ends at two; a list
of two letters is one too few for a range that begins at three, and just right for one of two. -/
theorem range_checks_count_of_letters :
    let letter := (Parser.charWhere "a letter" fun c => c != ',').ignore
    let text : Input := ⟨.characters ['a', 'b', 'c', ',', 'd'], {}⟩
    let list := fun range => (separatedBy 9 range (Parser.character ',') letter).execute text 2
    ((many 9 (.between 2 (some 1)) letter).execute text 0).answer? =
        some (.fail 0 (.countOutOfRange "many" 0 ⟨1, some 2⟩ 3 none)) ∧
      (list (.atLeast 3)).answer? =
        some (.fail 2 (.countOutOfRange "separated_by" 2 ⟨3, none⟩ 2 none)) ∧
      (list (.exactly 2)).answer? = some (.succeed 5 []) := by
  intro letter text list
  have hm : text.modality ∈ letter.accepts := by decide
  have h := range_checks_count hm (Parser.character ',')
  obtain ⟨ms, hc, hcount⟩ := (h 0).1 9 (.succeed 3 []) rfl
  have hms : ms = [⟨1, 'a', true⟩, ⟨2, 'b', true⟩, ⟨3, 'c', true⟩] :=
    hc.unique (.moved rfl (by decide) (.moved rfl (by decide) (.moved rfl (by decide) (.failed rfl))))
  obtain ⟨ms', hc', hcount'⟩ := (h 2).2 9 (.succeed 5 []) rfl
  have hms' : ms' = [⟨3, 'c', true⟩, ⟨5, 'd', true⟩] :=
    hc'.unique (.moved rfl (by decide) (.moved rfl (by decide) (.failed rfl)))
  subst hms hms'
  have hlist := hcount' 9 (by decide)
  exact ⟨(hcount 9 (by decide)).between 2 1, hlist.atLeast 3, hlist.exactly 2⟩

end Triparse
