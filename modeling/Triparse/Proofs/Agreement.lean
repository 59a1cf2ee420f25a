import Mathlib.Data.List.Forall2
import Triparse.Grammar.Meaning
import Triparse.Proofs.Elements
import Triparse.Proofs.RunRules
import Triparse.Proofs.View

/-!
# Two runs side by side

A `Comparison` is a pair of inputs that look alike from two places on: the left one from the view's
offset, the right one from its beginning. Two parsers *agree* on it (`Parser.Agree`) if, started at
corresponding cursors, both or neither answer, and then at corresponding cursors, with related values
or with failures that look alike. Each combinator keeps agreement whatever the values are related by
(the sections below have one rule a combinator); so a property of two runs is proved for a whole grammar
by proving it for the primitives.
-/

set_option autoImplicit false

namespace Triparse

variable {α β γ δ : Type}

/-! ## What is compared -/

/-- Two inputs that look alike, the left one from the offset of the view on. -/
structure Comparison extends View where
  left : Input
  right : Input
  modality_eq : left.modality = right.modality
  remaining_eq (n : Nat) : left.remaining (offset + n) = right.remaining n
  snippet_eq (n : Nat) :
    toView.quote (left.snippet (offset + n)) = toView.quote (right.snippet n)

/-- Failures that look alike. -/
def Failure.Agree (v : View) (e d : Failure) : Prop := e.seen v.still = d.seen v

/-- Outcomes that are both failures that look alike, or both values in `R`. -/
inductive Outcome.Agree (v : View) (R : α → β → Prop) :
    Except Failure α → Except Failure β → Prop
  | error {e d : Failure} : e.Agree v d → Outcome.Agree v R (.error e) (.error d)
  | ok {a : α} {b : β} : R a b → Outcome.Agree v R (.ok a) (.ok b)

/-- Replies at corresponding cursors, with the same flag and with outcomes that agree. -/
inductive Reply.Agree (v : View) (R : α → β → Prop) : Reply α → Reply β → Prop
  | mk (cursor : Nat) (flag : Bool) {a : Except Failure α} {b : Except Failure β} :
      Outcome.Agree v R a b → Reply.Agree v R ⟨v.offset + cursor, a, flag⟩ ⟨cursor, b, flag⟩

/-- Parsers that accept the same inputs, look alike, and agree on the inputs compared. -/
structure Parser.Agree (c : Comparison) (R : α → β → Prop) (p : Parser α) (q : Parser β) :
    Prop where
  accepts : p.accepts = q.accepts
  name : c.word p.name = c.word q.name
  expected : c.word p.expected = c.word q.expected
  execute (n : Nat) :
    Run.Agree (Reply.Agree c.toView R) (p.execute c.left (c.offset + n)) (q.execute c.right n)

/-! ## Failures -/

namespace Failure.Agree

variable {v : View} {e d : Failure}

theorem position (h : e.Agree v d) : e.position = v.offset + d.position := by
  have hp := congrArg Failure.position h
  simpa using hp

theorem parser (h : e.Agree v d) : v.word e.parser = v.word d.parser := by
  have hp := congrArg Failure.parser h
  simpa using hp

theorem moveTo (h : e.Agree v d) (n : Nat) : (e.moveTo (v.offset + n)).Agree v (d.moveTo n) := by
  unfold Failure.Agree at *
  rw [seen_moveTo, seen_moveTo, h, View.still_offset, Nat.zero_add]

theorem relabel (h : e.Agree v d) (text : String) : (e.relabel text).Agree v (d.relabel text) := by
  unfold Failure.Agree at *
  rw [seen_relabel, seen_relabel, h, View.still_word]

theorem rename (h : e.Agree v d) {name name' : String} (hn : v.word name = v.word name') :
    (e.rename name).Agree v (d.rename name') := by
  unfold Failure.Agree at *
  rw [seen_rename, seen_rename, h, View.still_word, hn]

/-- A name is compared with another only where names are looked at, and there they are the same. -/
theorem renameIf (h : e.Agree v d) {m n name name' : String} (hn : v.word m = v.word n)
    (hr : v.word name = v.word name') :
    (if e.parser = m then e.rename name else e).Agree v
      (if d.parser = n then d.rename name' else d) := by
  cases hw : v.wording with
  | true =>
    have hp := h.parser
    simp only [View.word, hw, if_true] at hp hn
    rw [hp, hn]
    split
    · exact h.rename hr
    · exact h
  | false =>
    have hw' : v.still.wording = false := hw
    unfold Failure.Agree at *
    rw [seen_renameIf_of_not_wording hw', seen_renameIf_of_not_wording hw, h]

theorem restate (h : e.Agree v d) {m n name name' : String} (hn : v.word m = v.word n)
    (hr : v.word name = v.word name') (label : Option String) :
    (Parser.restate m name label e).Agree v (Parser.restate n name' label d) := by
  cases label with
  | none => exact h.renameIf hn hr
  | some text => exact (h.relabel text).renameIf hn hr

theorem within (h : e.Agree v d) (name : String) (element : Nat) :
    (Failure.within name element e).Agree v (.within name element d) := by
  unfold Failure.Agree at *
  rw [seen, seen, h, View.still_word]

theorem rejected (v : View) (name : String) (n : Nat) (text : String) :
    (Failure.rejected name (v.offset + n) text).Agree v (.rejected name n text) := by
  simp [Failure.Agree, seen]

theorem countOutOfRange (v : View) (name : String) (n : Nat) (range : Repetition) (count : Nat) :
    (Failure.countOutOfRange name (v.offset + n) range count none).Agree v
      (.countOutOfRange name n range count none) := by
  simp [Failure.Agree, seen]

theorem caused (h : e.Agree v d) (name : String) (range : Repetition) (count : Nat) :
    (Failure.countOutOfRange name e.position range count (some e)).Agree v
      (.countOutOfRange name d.position range count (some d)) := by
  rw [h.position]
  unfold Failure.Agree at *
  simp [seen, h]

end Failure.Agree

/-! ## Inputs -/

namespace Comparison

variable (c : Comparison)

theorem isEnd_eq (n : Nat) : c.left.isEnd (c.offset + n) = c.right.isEnd n := by
  have h := c.remaining_eq n
  unfold Input.remaining at h
  unfold Input.isEnd Source.isEnd
  by_cases hn : c.right.source.length ≤ n
  · simp only [hn, decide_true, decide_eq_true_eq]
    omega
  · simp only [hn, decide_false, decide_eq_false_iff_not]
    omega

variable {m n : String} {x y : String}

theorem noMatch (hn : c.word m = c.word n) (hx : c.word x = c.word y) (k : Nat) :
    (c.left.noMatch (c.offset + k) m x).Agree c.toView (c.right.noMatch k n y) := by
  simp [Failure.Agree, Input.noMatch, Failure.seen, hn, hx, c.snippet_eq]

theorem endOfInput (hn : c.word m = c.word n) (hx : c.word x = c.word y) (k : Nat) :
    (c.left.endOfInput (c.offset + k) m x).Agree c.toView (c.right.endOfInput k n y) := by
  simp [Failure.Agree, Input.endOfInput, Failure.seen, hn, hx, c.remaining_eq]

theorem badInput (hn : c.word m = c.word n) (accepts : Modalities) (k : Nat) :
    (c.left.badInput (c.offset + k) m accepts).Agree c.toView (c.right.badInput k n accepts) := by
  simp [Failure.Agree, Input.badInput, Input.modality, Failure.seen, hn]
  exact c.modality_eq

/-- The elements ahead are in `R`, place by place. -/
def Elements [Element α] (R : α → α → Prop) : Prop :=
  ∀ n, List.Forall₂ R ((c.left.elements α).drop (c.offset + n)) ((c.right.elements α).drop n)

namespace Elements

variable {c : Comparison} [Element α] {R : α → α → Prop}

theorem getElem? (h : c.Elements R) (n : Nat) :
    Option.Rel R (c.left.elements α)[c.offset + n]? (c.right.elements α)[n]? := by
  have hn := h n
  rw [← List.head?_drop, ← List.head?_drop]
  generalize List.drop _ (c.left.elements α) = xs, List.drop n _ = ys at hn
  cases hn with
  | nil => exact .none
  | cons hab _ => exact .some hab

theorem length_sub (h : c.Elements R) (n : Nat) :
    (c.left.elements α).length - (c.offset + n) = (c.right.elements α).length - n := by
  simpa only [List.length_drop] using (h n).length_eq

end Elements

end Comparison

/-! ## Replies -/

namespace Reply.Agree

variable {c : Comparison} {R : α → β → Prop}

theorem succeed (n : Nat) {a : α} {b : β} (h : R a b) :
    Reply.Agree c.toView R (.succeed (c.offset + n) a) (.succeed n b) := .mk n false (.ok h)

theorem fail (n : Nat) {e d : Failure} (h : e.Agree c.toView d) :
    Reply.Agree c.toView R (.fail (c.offset + n) e) (.fail n d) := .mk n false (.error h)

/-- What a collection takes from replies that agree. -/
theorem kept {n n' : Nat} {flag : Bool} {o : Except Failure α} {o' : Except Failure β} {a : α}
    {b : β} (h : R a b) :
    List.Forall₂ R (Reply.kept ⟨n, o, flag⟩ a) (Reply.kept ⟨n', o', flag⟩ b) := by
  cases flag with
  | true => exact .nil
  | false => exact .cons h .nil

theorem map {v : View} {R : α → β → Prop} {S : γ → δ → Prop} {r : Reply α} {s : Reply β}
    (h : Reply.Agree v R r s) (f : α → γ) (g : β → δ) (hfg : ∀ a b, R a b → S (f a) (g b)) :
    Reply.Agree v S (r.map f) (s.map g) := by
  obtain ⟨cursor, flag, he | hab⟩ := h
  · exact .mk cursor flag (.error he)
  · exact .mk cursor flag (.ok (hfg _ _ hab))

/-- Replies that agree on equal values are seen alike. -/
theorem seen_eq {v : View} {r s : Reply α} (h : Reply.Agree v Eq r s) : r.seen v.still = s.seen v := by
  obtain ⟨cursor, flag, he | rfl⟩ := h
  · rename_i e d
    show Reply.mk (0 + (v.offset + cursor)) (.error (e.seen v.still)) flag =
      Reply.mk (v.offset + cursor) (.error (d.seen v)) flag
    rw [Nat.zero_add, show e.seen v.still = d.seen v from he]
  · rename_i a
    show Reply.mk (0 + (v.offset + cursor)) (.ok a) flag = Reply.mk (v.offset + cursor) (.ok a) flag
    rw [Nat.zero_add]

end Reply.Agree

namespace Parser.Agree

variable {c : Comparison} {R : α → β → Prop} {S : γ → δ → Prop}
  {p : Parser α} {q : Parser β}

/-! ## Combinators -/

theorem of_parse (ha : p.accepts = q.accepts) (hn : c.word p.name = c.word q.name)
    (hx : c.word p.expected = c.word q.expected)
    (h : ∀ n, c.right.modality ∈ q.accepts →
      Run.Agree (Reply.Agree c.toView R) (p.parse c.left (c.offset + n)) (q.parse c.right n)) :
    Parser.Agree c R p q where
  accepts := ha
  name := hn
  expected := hx
  execute n := by
    have hm := c.modality_eq
    by_cases hq : c.right.modality ∈ q.accepts
    · rw [execute_of_mem hq, execute_of_mem (by rwa [ha, hm])]
      exact h n hq
    · rw [execute_of_not_mem hq, execute_of_not_mem (by rwa [ha, hm]), ha]
      exact .finished (.fail n (c.badInput hn _ n)) _ _

theorem mono {R' : α → β → Prop} (h : Parser.Agree c R p q) (hR : ∀ a b, R a b → R' a b) :
    Parser.Agree c R' p q where
  accepts := h.accepts
  name := h.name
  expected := h.expected
  execute n := by
    refine (h.execute n).mono ?_
    intro _ _ hreply
    obtain ⟨cursor, flag, he | hab⟩ := hreply
    · exact .mk cursor flag (.error he)
    · exact .mk cursor flag (.ok (hR _ _ hab))

theorem mapReply {f : Input → Reply α → Reply γ} {g : Input → Reply β → Reply δ}
    (h : Parser.Agree c R p q)
    (hfg : ∀ n flag a b, R a b → Reply.Agree c.toView S (f c.left ⟨c.offset + n, .ok a, flag⟩)
      (g c.right ⟨n, .ok b, flag⟩)) : Parser.Agree c S (p.mapReply f) (q.mapReply g) := by
  refine of_parse h.accepts h.name h.expected fun n _ => (h.execute n).bind ?_
  intro _ _ hreply
  obtain ⟨cursor, flag, he | hab⟩ := hreply
  · exact .pure (.fail cursor he)
  · exact .pure (hfg cursor flag _ _ hab)

theorem map {f : α → γ} {g : β → δ} (h : Parser.Agree c R p q) (hfg : ∀ a b, R a b → S (f a) (g b)) :
    Parser.Agree c S (p.map f) (q.map g) :=
  h.mapReply fun n flag a b hab => .mk n flag (.ok (hfg a b hab))

theorem ignore (h : Parser.Agree c R p q) : Parser.Agree c R p.ignore q.ignore :=
  h.mapReply fun n _ _ _ hab => .mk n true (.ok hab)

theorem ignoreIfAbsent {p : Parser (Option α)} {q : Parser (Option β)}
    (h : Parser.Agree c (Option.Rel R) p q) :
    Parser.Agree c (Option.Rel R) p.ignoreIfAbsent q.ignoreIfAbsent := by
  refine h.mapReply ?_
  rintro n flag _ _ (hab | _)
  · exact .mk n flag (.ok (Option.Rel.some hab))
  · exact .mk n true (.ok Option.Rel.none)

theorem described (h : Parser.Agree c R p q) (name : String) (label : Option String) :
    Parser.Agree c R (p.described name label) (q.described name label) := by
  have hx : c.word (label.getD p.expected) = c.word (label.getD q.expected) := by
    cases label with
    | none => exact h.expected
    | some _ => rfl
  refine of_parse h.accepts rfl hx fun n _ => (h.execute n).bind ?_
  intro _ _ hreply
  obtain ⟨cursor, flag, he | hab⟩ := hreply
  · exact .pure (.fail n (he.restate h.name rfl label))
  · exact .pure (.mk cursor flag (.ok hab))

/-- A label leaves each of the parsers its name. -/
theorem label (h : Parser.Agree c R p q) (text : String) :
    Parser.Agree c R (p.label text) (q.label text) := by
  refine of_parse h.accepts h.name rfl fun n _ => (h.execute n).bind ?_
  intro _ _ hreply
  obtain ⟨cursor, flag, he | hab⟩ := hreply
  · exact .pure (.fail n (he.restate h.name h.name (some text)))
  · exact .pure (.mk cursor flag (.ok hab))

theorem pick {L : List α → List β → Prop} {p : Parser (List α)} {q : Parser (List β)}
    (h : Parser.Agree c L p q) (name expected : String) {select : List α → Option α}
    {select' : List β → Option β} (hs : ∀ xs ys, L xs ys → Option.Rel R (select xs) (select' ys)) :
    Parser.Agree c R (p.pick name expected select) (q.pick name expected select') := by
  refine of_parse h.accepts rfl rfl fun n _ => (h.execute n).bind ?_
  intro _ _ hreply
  obtain ⟨cursor, flag, he | hab⟩ := hreply
  · exact .pure (.fail cursor he)
  · dsimp only
    generalize select _ = o, select' _ = o', hs _ _ hab = ho
    cases ho with
    | some hab => exact .pure (.succeed cursor hab)
    | none => exact .pure (.fail n (c.noMatch rfl rfl n))

theorem firstMatch {ps : List (Parser α)} {qs : List (Parser β)}
    (h : List.Forall₂ (Parser.Agree c R) ps qs) (n : Nat) :
    ∀ index, Run.Agree (Option.Rel (Reply.Agree c.toView R))
      (firstMatch c.left (c.offset + n) ps index) (firstMatch c.right n qs index) := by
  induction h with
  | nil => exact fun _ => .pure .none
  | cons hpq _ ih =>
    intro index
    refine (hpq.execute n).bind ?_
    intro _ _ hreply
    obtain ⟨cursor, flag, he | hab⟩ := hreply
    · exact (Run.Agree.emit _ _).bind fun _ _ _ => ih (index + 1)
    · exact .pure (.some (.mk cursor flag (.ok hab)))

theorem acceptsAny_eq {ps : List (Parser α)} {qs : List (Parser β)}
    (h : List.Forall₂ (Parser.Agree c R) ps qs) : acceptsAny ps = acceptsAny qs := by
  refine acceptsAny_congr ?_
  rw [← List.forall₂_eq_eq_eq, List.forall₂_map_left_iff, List.forall₂_map_right_iff]
  exact h.imp fun _ _ hpq => hpq.accepts

theorem choice {ps : List (Parser α)} {qs : List (Parser β)}
    (h : List.Forall₂ (Parser.Agree c R) ps qs) :
    Parser.Agree c R (Parser.choice ps) (Parser.choice qs) := by
  have hw : (ps.map Parser.expected).map c.word = (qs.map Parser.expected).map c.word := by
    induction h with
    | nil => rfl
    | cons hpq _ ih => simp only [List.map_cons, hpq.expected, ih]
  have hx := View.word_congr_list (fun xs => "one of " ++ String.intercalate ", " xs) hw
  refine of_parse (acceptsAny_eq h) rfl hx fun n _ => (firstMatch h n 0).bind ?_
  intro _ _ hfound
  rcases hfound with hr | _
  · exact .pure hr
  · exact .pure (.fail n (c.noMatch rfl hx n))

theorem seq {p' : Parser γ} {q' : Parser δ} (h : Parser.Agree c R p q)
    (h' : Parser.Agree c S p' q') :
    Parser.Agree c (fun x y => R x.1 y.1 ∧ S x.2 y.2) (p.seq p') (q.seq q') := by
  refine of_parse rfl rfl rfl fun n _ => (h.execute n).bind ?_
  intro _ _ hreply
  obtain ⟨middle, _, he | hab⟩ := hreply
  · exact .pure (.fail n he)
  · refine (h'.execute middle).bind ?_
    intro _ _ hreply
    obtain ⟨stop, _, he | hcd⟩ := hreply
    · exact .pure (.fail n he)
    · exact .pure (.succeed stop ⟨hab, hcd⟩)

/-- Chains that stopped at the same part, or have come to corresponding ends. -/
inductive Chain (c : Comparison) (R : α → β → Prop) : Parser.Chain α → Parser.Chain β → Prop
  | stopped (element : Nat) {e d : Failure} (h : e.Agree c.toView d) :
      Chain c R (.error (element, e)) (.error (element, d))
  | done (stop : Nat) {xs : List α} {ys : List β} (h : List.Forall₂ R xs ys) :
      Chain c R (.ok (c.offset + stop, xs)) (.ok (stop, ys))

theorem runEach {ps : List (Parser α)} {qs : List (Parser β)}
    (h : List.Forall₂ (Parser.Agree c R) ps qs) :
    ∀ element n, Run.Agree (Chain c R) (runEach c.left ps element (c.offset + n))
      (runEach c.right qs element n) := by
  induction h with
  | nil => exact fun _ n => .pure (.done n .nil)
  | cons hpq _ ih =>
    intro element n
    refine (hpq.execute n).bind ?_
    intro _ _ hreply
    obtain ⟨cursor, flag, he | hab⟩ := hreply
    · exact .pure (.stopped element he)
    · refine (ih (element + 1) cursor).bind ?_
      intro _ _ hfound
      rcases hfound with ⟨k, he⟩ | ⟨stop, hl⟩
      · exact .pure (.stopped k he)
      · exact .pure (.done stop (List.rel_append (Reply.Agree.kept hab) hl))

theorem sequence {ps : List (Parser α)} {qs : List (Parser β)}
    (h : List.Forall₂ (Parser.Agree c R) ps qs) :
    Parser.Agree c (List.Forall₂ R) (Parser.sequence ps) (Parser.sequence qs) := by
  have hx : c.word (Parser.sequence ps).expected = c.word (Parser.sequence qs).expected := by
    cases h with
    | nil => rfl
    | cons hpq _ => exact hpq.expected
  refine of_parse rfl rfl hx fun n _ => (runEach h 0 n).bind ?_
  intro _ _ hfound
  rcases hfound with ⟨k, he⟩ | ⟨stop, hl⟩
  · exact .pure (.fail n (he.within "sequence" k))
  · exact .pure (.succeed stop hl)

theorem times (h : Parser.Agree c R p q) (count : Nat) :
    Parser.Agree c (List.Forall₂ R) (Parser.times p count) (Parser.times q count) := by
  have hps : List.Forall₂ (Parser.Agree c R) (List.replicate count p) (List.replicate count q) :=
    List.forall₂_iff_get.2 ⟨by simp, fun _ _ _ => by simpa using h⟩
  have hx := View.word_congr (fun x => "exactly " ++ count.repr ++ " " ++ x) h.expected
  refine of_parse h.accepts rfl hx fun n _ => ?_
  simp only [Parser.times, runTimes_eq_runEach]
  refine (runEach hps 0 n).bind ?_
  intro _ _ hfound
  rcases hfound with ⟨k, he⟩ | ⟨stop, hl⟩
  · exact .pure (.fail n (he.caused "repeat" (.exactly count) k))
  · exact .pure (.succeed stop hl)

theorem maybe (h : Parser.Agree c R p q) :
    Parser.Agree c (Option.Rel R) (Parser.maybe p) (Parser.maybe q) := by
  have hx := View.word_congr (fun x => "optionally " ++ x) h.expected
  refine of_parse h.accepts rfl hx fun n _ => (h.execute n).bind ?_
  intro _ _ hreply
  obtain ⟨cursor, flag, _ | hab⟩ := hreply
  · exact .pure (.succeed n .none)
  · exact .pure (.mk cursor flag (.ok (Option.Rel.some hab)))

theorem lookAhead (h : Parser.Agree c R p q) :
    Parser.Agree c R (Parser.lookAhead p) (Parser.lookAhead q) := by
  refine of_parse h.accepts rfl h.expected fun n _ => (h.execute n).bind ?_
  intro _ _ hreply
  obtain ⟨cursor, flag, he | hab⟩ := hreply
  · exact .pure (.fail n (he.moveTo n))
  · exact .pure (.mk n flag (.ok hab))

/-! ## Repetition -/

/-- Loops that have come to the same count and to corresponding places. -/
structure Tally (c : Comparison) (R : α → β → Prop) (s : Parser.Tally α) (t : Parser.Tally β) :
    Prop where
  count : s.count = t.count
  cursor : s.cursor = c.offset + t.cursor
  values : List.Forall₂ R s.values t.values

theorem repeatFrom {attempt : Nat → Nat → Run (Reply α)} {attempt' : Nat → Nat → Run (Reply β)}
    (h : ∀ count n, Run.Agree (Reply.Agree c.toView R) (attempt count (c.offset + n))
      (attempt' count n)) (stopped stopped' : Nat → Failure → Event) (range : Repetition) :
    ∀ bound count n, Run.Agree (Tally c R)
      (repeatFrom attempt stopped range bound count (c.offset + n))
      (repeatFrom attempt' stopped' range bound count n)
  | 0, _, _ => .unfinished
  | bound + 1, count, n => by
    refine (h count n).bind ?_
    intro _ _ hreply
    obtain ⟨cursor, flag, he | @⟨a, b, hab⟩⟩ := hreply
    · exact (Run.Agree.emit _ _).bind fun _ _ _ => .pure ⟨rfl, rfl, .nil⟩
    · have hk : List.Forall₂ R (Reply.kept ⟨c.offset + cursor, .ok a, flag⟩ a)
          (Reply.kept ⟨cursor, .ok b, flag⟩ b) := Reply.Agree.kept hab
      -- A match has moved on one side if it has on the other.
      simp only [Nat.add_left_cancel_iff]
      split
      · exact .pure ⟨rfl, rfl, hk⟩
      · refine (repeatFrom h stopped stopped' range bound (count + 1) cursor).bind fun s t hst => ?_
        exact .pure ⟨hst.count, hst.cursor, List.rel_append hk hst.values⟩

theorem tally {s : Parser.Tally α} {t : Parser.Tally β} (h : Tally c R s t) (name : String)
    (range : Repetition) (n : Nat) :
    Reply.Agree c.toView (List.Forall₂ R) (s.reply name range (c.offset + n))
      (t.reply name range n) := by
  unfold Parser.Tally.reply
  rw [h.count, h.cursor]
  split
  · exact .succeed _ h.values
  · exact .fail n (.countOutOfRange c.toView name n range t.count)

theorem many (h : Parser.Agree c R p q) (bound : Nat) (range : Repetition) :
    Parser.Agree c (List.Forall₂ R) (Parser.many bound range p) (Parser.many bound range q) := by
  have hx := View.word_congr (fun x => range.describe ++ " " ++ x) h.expected
  exact of_parse h.accepts rfl hx fun n _ =>
    (repeatFrom (fun _ => h.execute) _ _ range bound 0 n).bind fun _ _ ht => .pure (tally ht _ _ n)

theorem nextValue {p' : Parser γ} {q' : Parser δ} (h' : Parser.Agree c S p' q')
    (h : Parser.Agree c R p q) (count n : Nat) :
    Run.Agree (Reply.Agree c.toView R) (nextValue p' p c.left count (c.offset + n))
      (nextValue q' q c.right count n) := by
  unfold Parser.nextValue
  split
  · exact h.execute n
  · refine (h'.execute n).bind ?_
    intro _ _ hreply
    obtain ⟨gap, _, he | _⟩ := hreply
    · exact .pure (.fail gap he)
    · exact h.execute gap

theorem separatedBy {p' : Parser γ} {q' : Parser δ} (h' : Parser.Agree c S p' q')
    (h : Parser.Agree c R p q) (bound : Nat) (range : Repetition) :
    Parser.Agree c (List.Forall₂ R) (Parser.separatedBy bound range p' p)
      (Parser.separatedBy bound range q' q) := by
  have hx : c.word (Parser.separatedBy bound range p' p).expected =
      c.word (Parser.separatedBy bound range q' q).expected :=
    (View.word_congr (fun x => range.describe ++ " " ++ x ++ " separated by " ++ p'.expected)
      h.expected).trans
      (View.word_congr (fun x => range.describe ++ " " ++ q.expected ++ " separated by " ++ x)
        h'.expected)
  exact of_parse h.accepts rfl hx fun n _ =>
    (repeatFrom (nextValue h' h) _ _ range bound 0 n).bind fun _ _ ht => .pure (tally ht _ _ n)

/-! ## Scans -/

theorem anythingExcept [Element α] {R : α → α → Prop} {p : Parser γ} {q : Parser δ}
    (hc : c.Elements R) (h : Parser.Agree c S p q) :
    Parser.Agree c R (Parser.anythingExcept α p) (Parser.anythingExcept α q) := by
  have hx := View.word_congr (fun x => "anything except " ++ x) h.expected
  refine of_parse rfl rfl hx fun n _ => (h.execute n).bind ?_
  intro _ _ hreply
  obtain ⟨cursor, flag, he | hab⟩ := hreply
  · dsimp only
    generalize (c.left.elements α)[c.offset + n]? = u, (c.right.elements α)[n]? = w,
      hc.getElem? n = huw
    cases huw with
    | some hab => exact .pure (.succeed (n + 1) hab)
    | none => exact .pure (.fail n (c.endOfInput rfl hx n))
  · exact .pure (.fail n (c.noMatch rfl hx n))

/-- Searches that stopped at corresponding places, both found or both not. -/
inductive Search (c : Comparison) : Except Nat Nat → Except Nat Nat → Prop
  | lost (n : Nat) : Search c (.error (c.offset + n)) (.error n)
  | found (n : Nat) : Search c (.ok (c.offset + n)) (.ok n)

theorem search (h : Parser.Agree c R p q) :
    ∀ left n, Run.Agree (Search c) (search p c.left left (c.offset + n)) (search q c.right left n)
  | left, n => by
    unfold Parser.search
    refine (h.execute n).bind ?_
    intro _ _ hreply
    obtain ⟨cursor, flag, _ | _⟩ := hreply
    · cases left with
      | zero => exact .pure (.lost n)
      | succ left => exact search h left (n + 1)
    · exact .pure (.found n)

theorem everythingUntil [Element α] {R : α → α → Prop} {p : Parser γ} {q : Parser δ}
    (hc : c.Elements R) (h : Parser.Agree c S p q) :
    Parser.Agree c (List.Forall₂ R) (Parser.everythingUntil α p) (Parser.everythingUntil α q) := by
  have hx := View.word_congr (fun x => "anything followed by " ++ x) h.expected
  refine of_parse rfl rfl hx fun n _ => ?_
  dsimp only [Parser.everythingUntil]
  rw [hc.length_sub]
  refine (search h _ n).bind ?_
  intro _ _ hfound
  rcases hfound with last | stop
  · refine .pure (.fail n ?_)
    simp [Failure.Agree, Failure.seen, show c.word _ = c.word _ from hx]
  · refine .pure (.succeed stop ?_)
    rw [Nat.add_sub_add_left]
    exact List.forall₂_take (stop - n) (hc n)

/-! ## Elements and literals -/

/-- A test that does not tell related elements apart. -/
theorem elementWhere [Element α] {R : α → α → Prop} (hc : c.Elements R) (name expected : String)
    {test : α → Bool} (ht : ∀ a b, R a b → test a = test b) :
    Parser.Agree c R (Parser.elementWhere name expected test)
      (Parser.elementWhere name expected test) := by
  refine of_parse rfl rfl rfl fun n _ => ?_
  dsimp only [Parser.elementWhere]
  generalize (c.left.elements α)[c.offset + n]? = u, (c.right.elements α)[n]? = w,
    hc.getElem? n = huw
  cases huw with
  | none => exact .pure (.fail n (c.endOfInput rfl rfl n))
  | some hab =>
    dsimp only
    rw [ht _ _ hab]
    split
    · exact .pure (.succeed (n + 1) hab)
    · exact .pure (.fail n (c.noMatch rfl rfl n))

theorem peek [Element α] {R : α → α → Prop} (hc : c.Elements R) (count : Nat) :
    Parser.Agree c (List.Forall₂ R) (Parser.peek α count) (Parser.peek α count) :=
  of_parse rfl rfl rfl fun n _ => .pure (.succeed n (List.forall₂_take count (hc n)))

theorem peekOne [Element α] {R : α → α → Prop} (hc : c.Elements R) :
    Parser.Agree c (Option.Rel R) (Parser.peekOne α) (Parser.peekOne α) := by
  refine (peek hc 1).map ?_
  intro _ _ hl
  cases hl with
  | nil => exact .none
  | cons hab _ => exact .some hab

theorem literalReply (name expected : String) (n width : Nat) {a : α} {b : β} (hab : R a b)
    (found : LiteralMatch) :
    Reply.Agree c.toView R (literalReply name expected c.left (c.offset + n) width a found)
      (literalReply name expected c.right n width b found) := by
  cases found with
  | matched =>
    rw [Parser.literalReply, Parser.literalReply, Nat.add_assoc]
    exact .succeed (n + width) hab
  | tooShort => exact .fail n (c.endOfInput rfl rfl n)
  | different => exact .fail n (c.noMatch rfl rfl n)

/-- A parser agrees with itself on input of a shape that it turns away. -/
theorem of_not_mem {p : Parser α} (h : c.right.modality ∉ p.accepts) {R : α → α → Prop} :
    Parser.Agree c R p p := of_parse rfl rfl rfl fun _ hm => absurd hm h

/-! ## Recursion and taps -/

theorem defined (h : Parser.Agree c R p q) :
    Parser.Agree c R (Parser.defined p) (Parser.defined q) :=
  of_parse rfl h.name h.expected fun n _ => h.execute n

theorem unfinished : Parser.Agree c R (Parser.handle fun _ _ => .unfinished)
    (Parser.handle fun _ _ => .unfinished) :=
  of_parse rfl rfl rfl fun _ _ => .unfinished

theorem handle (h : Parser.Agree c R p q) {enter enter' : Run Unit}
    (he : Run.Agree (fun _ _ => True) enter enter') :
    Parser.Agree c R
      (Parser.handle fun input cursor => do
        enter
        p.execute input cursor)
      (Parser.handle fun input cursor => do
        enter'
        q.execute input cursor) :=
  of_parse rfl rfl rfl fun n _ => he.bind fun _ _ _ => h.execute n

/-- Instances of definitions that pass agreement on. -/
theorem unfold {enter enter' : Address → Run Unit}
    (he : ∀ a a', Run.Agree (fun _ _ => True) (enter a) (enter' a'))
    {define : (Address → Parser α) → Address → Parser α}
    {define' : (Address → Parser β) → Address → Parser β}
    (hd : ∀ handles handles', (∀ a a', Parser.Agree c R (handles a) (handles' a')) →
      ∀ a a', Parser.Agree c R (define handles a) (define' handles' a')) (depth : Nat) :
    ∀ a a', Parser.Agree c R (Parser.unfold enter define depth a)
      (Parser.unfold enter' define' depth a') := by
  induction depth with
  | zero => exact fun _ _ => unfinished
  | succ depth ih => exact fun a a' => (hd _ _ ih a a').handle (he a a')

theorem orphan : Parser.Agree c R Parser.orphan Parser.orphan :=
  of_parse rfl rfl rfl fun n _ => .pure (.fail n (.rejected c.toView _ n _))

theorem tap (h : Parser.Agree c R p q) (label : String) :
    Parser.Agree c R
      (Parser.ofFunction fun input cursor => do
        Run.emit (.tapped label cursor)
        p.execute input cursor)
      (Parser.ofFunction fun input cursor => do
        Run.emit (.tapped label cursor)
        q.execute input cursor) :=
  of_parse rfl rfl rfl fun n _ => (Run.Agree.emit _ _).bind fun _ _ _ => h.execute n

end Parser.Agree

/-! ## Rules -/

namespace Rule

/-- Rules that have come to corresponding positions, with outcomes that agree. -/
inductive Ending (v : View) (R : α → β → Prop) :
    Nat × Except Failure α → Nat × Except Failure β → Prop
  | mk (n : Nat) {a : Except Failure α} {b : Except Failure β} :
      Outcome.Agree v R a b → Ending v R (v.offset + n, a) (n, b)

/-- Rules that agree on the inputs compared. -/
def Agree (c : Comparison) (R : α → β → Prop) (x : Rule α) (y : Rule β) : Prop :=
  ∀ n, Run.Agree (Ending c.toView R) (x c.left (c.offset + n)) (y c.right n)

namespace Agree

variable {c : Comparison} {R : α → β → Prop} {S : γ → δ → Prop}

theorem pure {a : α} {b : β} (h : R a b) : Agree c R (pure a) (pure b) :=
  fun n => .pure (.mk n (.ok h))

theorem bind {x : Rule α} {y : Rule β} {f : α → Rule γ} {g : β → Rule δ} (h : Agree c R x y)
    (hfg : ∀ a b, R a b → Agree c S (f a) (g b)) : Agree c S (x >>= f) (y >>= g) := by
  intro n
  refine (h n).bind ?_
  intro _ _ hreply
  obtain ⟨m, he | hab⟩ := hreply
  · exact .pure (.mk m (.error he))
  · exact hfg _ _ hab m

theorem mono {R' : α → β → Prop} {x : Rule α} {y : Rule β} (h : Agree c R x y)
    (hR : ∀ a b, R a b → R' a b) : Agree c R' x y := by
  refine fun n => (h n).mono ?_
  intro _ _ hreply
  obtain ⟨m, he | hab⟩ := hreply
  · exact .mk m (.error he)
  · exact .mk m (.ok (hR _ _ hab))

theorem abort {e d : Failure} (h : e.Agree c.toView d) : Agree c R (abort e) (abort d) :=
  fun n => .pure (.mk n (.error h))

theorem reject (message : String) : Agree c R (reject message) (reject message) :=
  fun n => .pure (.mk n (.error (.rejected c.toView "coroutine" n message)))

theorem position : Agree c (fun m n => m = c.offset + n) position position :=
  fun n => .pure (.mk n (.ok rfl))

theorem inspect {f : Input → Nat → α} {g : Input → Nat → β}
    (h : ∀ n, R (f c.left (c.offset + n)) (g c.right n)) : Agree c R (inspect f) (inspect g) :=
  fun n => .pure (.mk n (.ok (h n)))

variable {p : Parser α} {q : Parser β}

theorem trial (h : Parser.Agree c R p q) :
    Agree c (Outcome.Agree c.toView R) (trial p) (trial q) := by
  intro n
  refine (h.execute n).bind ?_
  intro _ _ hreply
  obtain ⟨cursor, flag, he | hab⟩ := hreply
  · exact .pure (.mk n (.ok (.error he)))
  · exact .pure (.mk cursor (.ok (.ok hab)))

theorem step (h : Parser.Agree c R p q) : Agree c R (step p) (step q) := by
  refine (trial h).bind ?_
  intro _ _ hfound
  rcases hfound with he | hab
  · exact abort he
  · exact pure hab

theorem attempt (h : Parser.Agree c R p q) : Agree c (Option.Rel R) (attempt p) (attempt q) := by
  refine (trial h).bind ?_
  intro _ _ hfound
  rcases hfound with _ | hab
  · exact pure .none
  · exact pure (.some hab)

theorem andThen {x x' y y' : Rule Progress} (h : Agree c Eq x x') (h' : Agree c Eq y y') :
    Agree c Eq (andThen x y) (andThen x' y') := by
  refine h.bind ?_
  rintro before _ rfl
  split
  · exact pure rfl
  · refine h'.bind ?_
    rintro after _ rfl
    exact pure rfl

theorem loop {p q : Parser Value} {x y : Rule Progress} (h : Parser.Agree c Eq p q)
    (hxy : Agree c Eq x y) (bound : Nat) : Agree c Eq (loop p x bound) (loop q y bound) := by
  induction bound with
  | zero => exact fun _ => .unfinished
  | succ bound ih =>
    refine position.bind ?_
    rintro _ start rfl
    refine (attempt h).bind ?_
    intro _ _ hfound
    rcases hfound with hv | _
    · subst hv
      refine (andThen (pure rfl) hxy).bind ?_
      rintro round _ rfl
      split
      · exact pure rfl
      · refine position.bind ?_
        rintro _ here rfl
        -- A round has moved on one side if it has on the other.
        simp only [Nat.add_left_cancel_iff]
        split
        · exact pure rfl
        · exact andThen (pure rfl) ih
    · exact pure rfl

theorem ofRule {x : Rule α} {y : Rule β} (h : Agree c R x y) :
    Parser.Agree c R (Parser.ofRule x) (Parser.ofRule y) := by
  refine .of_parse rfl rfl rfl fun n _ => (h n).bind ?_
  intro _ _ hreply
  obtain ⟨stop, he | hab⟩ := hreply
  · refine (Run.Agree.emit _ _).bind fun _ _ _ => ?_
    -- A rule has moved on one side if it has on the other.
    simp only [Nat.add_left_cancel_iff]
    split
    · exact .pure (.fail n (he.moveTo n))
    · exact .pure (.fail n he)
  · exact .pure (.succeed stop hab)

end Agree

end Rule

end Triparse
