import Triparse.Failure

/-!
# Updates of failures

Combinators move failures and say anew what was expected. Both updates go through the `within` records to
the root of a failure and no further: the causes that a root carries stay as they are. Each update writes
one field of the root (`Failure.Field`): the place, which every failure has (`Field.place`), or the
expectation in words, which only two kinds have (`Field.expectation`). What is written last stays, and
writing changes nothing if and only if the field is missing or holds that value (`Field.write_eq_self_iff`).
These laws, with what the updates keep, are put together in `updates_lawful`.
-/

set_option autoImplicit false

namespace Triparse.Failure

/-! ## Parts -/

/-- The `within` records around the root, the outermost first: the name and the element of each. -/
def layers : Failure → List (String × Nat)
  | within n element inner => (n, element) :: inner.layers
  | _ => []

/-- The causes of a failure: the one that its root carries, and the causes of that one. -/
def causes : Failure → List Failure
  | within _ _ inner => inner.causes
  | countOutOfRange _ _ _ _ (some cause) => cause :: cause.causes
  | _ => []

/-- What was expected, of a failure that says so in words. -/
def expectation? : Failure → Option String
  | noMatch _ _ expected _ => some expected
  | endOfInput _ _ expected _ => some expected
  | within _ _ inner => inner.expectation?
  | _ => none

@[simp] theorem kind_root : ∀ e : Failure, e.root.kind = e.kind
  | noMatch .. | endOfInput .. | badInput .. | countOutOfRange .. | rejected .. => rfl
  | within _ _ inner => kind_root inner

@[simp] theorem expectation?_root : ∀ e : Failure, e.root.expectation? = e.expectation?
  | noMatch .. | endOfInput .. | badInput .. | countOutOfRange .. | rejected .. => rfl
  | within _ _ inner => expectation?_root inner

/-- An expectation in words is what the failures of two kinds have. -/
theorem expectation?_eq_none_iff :
    ∀ e : Failure, e.expectation? = none ↔ e.kind ≠ .noMatch ∧ e.kind ≠ .endOfInput
  | noMatch .. | endOfInput .. | badInput .. | countOutOfRange .. | rejected .. => by
    simp [expectation?, kind]
  | within _ _ inner => expectation?_eq_none_iff inner

/-! ## Moving -/

@[simp] theorem position_moveTo (n : Nat) : ∀ e : Failure, (e.moveTo n).position = n
  | noMatch .. | endOfInput .. | badInput .. | countOutOfRange .. | rejected .. => rfl
  | within _ _ inner => position_moveTo n inner

@[simp] theorem kind_moveTo (n : Nat) : ∀ e : Failure, (e.moveTo n).kind = e.kind
  | noMatch .. | endOfInput .. | badInput .. | countOutOfRange .. | rejected .. => rfl
  | within _ _ inner => kind_moveTo n inner

/-- The name is that of the outermost record, the place that of the root. -/
@[simp] theorem parser_moveTo (n : Nat) (e : Failure) : (e.moveTo n).parser = e.parser := by
  cases e <;> rfl

@[simp] theorem layers_moveTo (n : Nat) : ∀ e : Failure, (e.moveTo n).layers = e.layers
  | noMatch .. | endOfInput .. | badInput .. | countOutOfRange .. | rejected .. => rfl
  | within name element inner => congrArg ((name, element) :: ·) (layers_moveTo n inner)

@[simp] theorem causes_moveTo (n : Nat) : ∀ e : Failure, (e.moveTo n).causes = e.causes
  | noMatch .. | endOfInput .. | badInput .. | rejected .. => rfl
  | countOutOfRange _ _ _ _ none | countOutOfRange _ _ _ _ (some _) => rfl
  | within _ _ inner => causes_moveTo n inner

theorem root_moveTo (n : Nat) : ∀ e : Failure, (e.moveTo n).root = e.root.moveTo n
  | noMatch .. | endOfInput .. | badInput .. | countOutOfRange .. | rejected .. => rfl
  | within _ _ inner => root_moveTo n inner

@[simp] theorem moveTo_moveTo (m n : Nat) : ∀ e : Failure, (e.moveTo m).moveTo n = e.moveTo n
  | noMatch .. | endOfInput .. | badInput .. | countOutOfRange .. | rejected .. => rfl
  | within name element inner => congrArg (within name element) (moveTo_moveTo m n inner)

@[simp] theorem moveTo_position : ∀ e : Failure, e.moveTo e.position = e
  | noMatch .. | endOfInput .. | badInput .. | countOutOfRange .. | rejected .. => rfl
  | within name element inner => congrArg (within name element) (moveTo_position inner)

/-! ## Relabelling and renaming -/

@[simp] theorem expectation?_relabel (text : String) :
    ∀ e : Failure, (e.relabel text).expectation? = e.expectation?.map fun _ => text
  | noMatch .. | endOfInput .. | badInput .. | countOutOfRange .. | rejected .. => rfl
  | within _ _ inner => expectation?_relabel text inner

@[simp] theorem kind_relabel (text : String) : ∀ e : Failure, (e.relabel text).kind = e.kind
  | noMatch .. | endOfInput .. | badInput .. | countOutOfRange .. | rejected .. => rfl
  | within _ _ inner => kind_relabel text inner

@[simp] theorem position_relabel (text : String) :
    ∀ e : Failure, (e.relabel text).position = e.position
  | noMatch .. | endOfInput .. | badInput .. | countOutOfRange .. | rejected .. => rfl
  | within _ _ inner => position_relabel text inner

@[simp] theorem parser_relabel (text : String) (e : Failure) : (e.relabel text).parser = e.parser := by
  cases e <;> rfl

@[simp] theorem relabel_relabel (a b : String) :
    ∀ e : Failure, (e.relabel a).relabel b = e.relabel b
  | noMatch .. | endOfInput .. | badInput .. | countOutOfRange .. | rejected .. => rfl
  | within name element inner => congrArg (within name element) (relabel_relabel a b inner)

/-- Where there is no other expectation in words, there is nothing to relabel. -/
theorem relabel_of_expectation? {text : String} :
    ∀ {e : Failure}, (∀ x ∈ e.expectation?, x = text) → e.relabel text = e
  | noMatch _ _ expected _, h | endOfInput _ _ expected _, h => by
    have hx : expected = text := h expected rfl
    rw [relabel, hx]
  | badInput .., _ | countOutOfRange .., _ | rejected .., _ => rfl
  | within name element _, h => congrArg (within name element) (relabel_of_expectation? h)

/-- The place and the expectation are fields of their own: either can be written first. -/
theorem moveTo_relabel (n : Nat) (text : String) :
    ∀ e : Failure, (e.relabel text).moveTo n = (e.moveTo n).relabel text
  | noMatch .. | endOfInput .. | badInput .. | countOutOfRange .. | rejected .. => rfl
  | within name element inner => congrArg (within name element) (moveTo_relabel n text inner)

@[simp] theorem kind_rename (name : String) (e : Failure) : (e.rename name).kind = e.kind := by
  cases e <;> rfl

/-! ## Fields -/

/-- A field of failures, which some of them may lack, with what reading and writing it have to do with
each other. -/
structure Field (α : Type) where
  read? : Failure → Option α
  write : α → Failure → Failure
  /-- What was written is read, where there is anything to read. -/
  read?_write (a : α) (e : Failure) : read? (write a e) = (read? e).map fun _ => a
  /-- What was written before is gone. -/
  write_write (a b : α) (e : Failure) : write b (write a e) = write b e
  /-- To write what can be read already changes nothing. -/
  write_of_read? {a : α} {e : Failure} (h : ∀ x ∈ read? e, x = a) : write a e = e

namespace Field

/-- Writing shows in those failures that have the field with another value, and in no others. -/
theorem write_eq_self_iff {α : Type} (field : Field α) (a : α) (e : Failure) :
    field.write a e = e ↔ field.read? e = none ∨ field.read? e = some a := by
  have hr := field.read?_write a e
  constructor
  · intro h
    rw [h] at hr
    cases hx : field.read? e with
    | none => exact .inl rfl
    | some x =>
      rw [hx, Option.map_some] at hr
      exact .inr hr
  · rintro (h | h) <;> refine field.write_of_read? fun x hx => ?_
    · rw [h] at hx
      cases hx
    · rw [h] at hx
      exact (Option.mem_some.1 hx).symm

/-- The position that a failure refers to. -/
def place : Field Nat where
  read? e := some e.position
  write := moveTo
  read?_write n e := congrArg some (position_moveTo n e)
  write_write := moveTo_moveTo
  write_of_read? {n e} h := by
    have hn : e.position = n := h _ rfl
    rw [← hn, moveTo_position]

/-- What a failure says was expected, in words. -/
def expectation : Field String where
  read? := expectation?
  write := relabel
  read?_write := expectation?_relabel
  write_write := relabel_relabel
  write_of_read? := relabel_of_expectation?

end Field

theorem moveTo_eq_self_iff (n : Nat) (e : Failure) : e.moveTo n = e ↔ e.position = n := by
  have h : e.moveTo n = e ↔ some e.position = none ∨ some e.position = some n :=
    Field.place.write_eq_self_iff n e
  simpa using h

theorem relabel_eq_self_iff (text : String) (e : Failure) :
    e.relabel text = e ↔
      (e.kind ≠ .noMatch ∧ e.kind ≠ .endOfInput) ∨ e.expectation? = some text := by
  rw [← expectation?_eq_none_iff]
  exact Field.expectation.write_eq_self_iff text e

/-! ## Laws -/

/-- **Moving and relabelling are lawful updates.** A failure that is moved refers to its new position and
is otherwise what it was: its kind, its name, the records around its root and all causes are kept, and
its root is the root that it had, moved. A failure that is relabelled keeps its kind, position and name.
The last of two moves, and the last of two labels, is the one that counts; a move and a label do not get
in each other's way. A move changes nothing if and only if it is to where the failure is; a label, if and
only if the root either says nothing in words of what was expected, or says what the label says. -/
theorem updates_lawful (e : Failure) (m n : Nat) (a b : String) :
    ((e.moveTo n).position = n ∧ (e.moveTo n).kind = e.kind ∧ (e.moveTo n).parser = e.parser ∧
        (e.moveTo n).layers = e.layers ∧ (e.moveTo n).causes = e.causes) ∧
      (e.moveTo m).moveTo n = e.moveTo n ∧
      (e.moveTo n = e ↔ n = e.position) ∧
      (e.moveTo n).root = e.root.moveTo n ∧
      (e.relabel a).relabel b = e.relabel b ∧
      ((e.relabel a).kind = e.kind ∧ (e.relabel a).position = e.position ∧
        (e.relabel a).parser = e.parser) ∧
      (e.relabel a).moveTo n = (e.moveTo n).relabel a ∧
      (e.relabel a = e ↔
        (e.root.kind ≠ .noMatch ∧ e.root.kind ≠ .endOfInput) ∨ e.root.expectation? = some a) := by
  rw [kind_root, expectation?_root]
  have moved : (e.moveTo n).position = n ∧ (e.moveTo n).kind = e.kind ∧
      (e.moveTo n).parser = e.parser ∧ (e.moveTo n).layers = e.layers ∧
      (e.moveTo n).causes = e.causes :=
    ⟨position_moveTo n e, kind_moveTo n e, parser_moveTo n e, layers_moveTo n e, causes_moveTo n e⟩
  have relabelled : (e.relabel a).kind = e.kind ∧ (e.relabel a).position = e.position ∧
      (e.relabel a).parser = e.parser :=
    ⟨kind_relabel a e, position_relabel a e, parser_relabel a e⟩
  exact ⟨moved, Field.place.write_write m n e, (moveTo_eq_self_iff n e).trans eq_comm,
    root_moveTo n e, Field.expectation.write_write a b e, relabelled, moveTo_relabel n a e,
    relabel_eq_self_iff a e⟩

/-- A repetition in a sequence that came too short is moved; the digit that it missed stays at 3. It says
what was expected by its range, so that a label does not change it. -/
example :
    let missed := noMatch "digit" 3 "a digit" "\"x\""
    let tooFew := fun n => within "sequence" 1 (countOutOfRange "many" n (.atLeast 2) 1 (some missed))
    (tooFew 2).moveTo 0 = tooFew 0 ∧ (tooFew 2).relabel "a number" = tooFew 2 := by
  decide

end Triparse.Failure
