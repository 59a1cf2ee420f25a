import Triparse.Pattern.Reading

/-!
# Reading with a parenthesis behind

What a reading step takes off a pattern it also takes off the pattern with a closing parenthesis behind it,
and then leaves the parenthesis; unless it has read to the end and a comment there has taken the
parenthesis as well (`Reader.Keeps`). A comment reaches up to the end if there is a number sign in the last
line. A larger bound on the number of steps changes nothing about a reading.

That a step `y` so extends a step `x` (`Reader.Extends`) is proved along the steps that it consists of.
Single characters are only taken where there is one, so some steps are considered only where the rest is
not empty (`Reading.More`).
-/

set_option autoImplicit false

namespace Triparse.Pattern

/-- The reading of the pattern with a closing parenthesis behind it. -/
def Reading.closed (r : Reading) : Reading := { r with rest := r.rest ++ [')'] }

/-- There is something left to read. -/
def Reading.More (r : Reading) : Prop := r.rest ≠ []

/-- A number sign stands in the last line. -/
def EndsInComment (cs : List Char) : Prop :=
  ∃ before comment, cs = before ++ '#' :: comment ∧ '\n' ∉ comment

theorem EndsInComment.of_suffix {cs ds : List Char} (h : EndsInComment cs) (hs : cs <:+ ds) :
    EndsInComment ds := by
  obtain ⟨front, rfl⟩ := hs
  obtain ⟨before, comment, rfl, hc⟩ := h
  exact ⟨front ++ before, comment, (List.append_assoc _ _ _).symm, hc⟩

theorem EndsInComment.cons {cs : List Char} (h : EndsInComment cs) (c : Char) :
    EndsInComment (c :: cs) := h.of_suffix (List.suffix_cons c cs)

/-- A bound that is no smaller than a positive one is positive itself. -/
theorem exists_bound {bound bound' : Nat} (hb : bound + 1 ≤ bound') :
    ∃ k, bound' = k + 1 ∧ bound ≤ k :=
  ⟨bound' - 1, by omega, by omega⟩

namespace Reader

variable {α β : Type}

/-- A step reads from `r` to `r'`, and does so with a parenthesis behind. Only a comment at the end takes
the parenthesis as well. -/
structure Keeps (y : Reader α) (r : Reading) (a : α) (r' : Reading) : Prop where
  same : y.run r = some (a, r')
  suffix : r'.rest <:+ r.rest
  closed : y.run r.closed = some (a, r'.closed) ∨
    r'.rest = [] ∧ EndsInComment r.rest ∧ y.run r.closed = some (a, r')

/-- What a step `x` reads, a step `y` reads too, also with a parenthesis behind. -/
def Extends (P : Reading → Prop) (x y : Reader α) : Prop :=
  ∀ r a r', P r → x.run r = some (a, r') → Keeps y r a r'

/-- A step that leaves the rest as it is. -/
theorem Keeps.still {y : Reader α} {r r' : Reading} {a : α} (h : y.run r = some (a, r'))
    (hrest : r'.rest = r.rest) (hc : y.run r.closed = some (a, r'.closed)) : Keeps y r a r' :=
  ⟨h, hrest ▸ List.suffix_rfl, .inl hc⟩

/-- A step that changes the state and gives no result. -/
theorem Keeps.modify {h : Reading → Reading} {r : Reading} (hs : (h r).rest <:+ r.rest)
    (hc : h r.closed = (h r).closed ∨
      (h r).rest = [] ∧ EndsInComment r.rest ∧ h r.closed = h r) : Keeps (modify h) r () (h r) :=
  ⟨rfl, hs, hc.imp (congrArg fun r' => some ((), r')) fun ⟨hend, hcomment, hlost⟩ =>
    ⟨hend, hcomment, congrArg (fun r' => some ((), r')) hlost⟩⟩

/-- A step that first goes from `r` to `q`, and with a parenthesis behind too. -/
theorem Keeps.of_run {y z : Reader α} {r q r' : Reading} {a : α} (h : Keeps z q a r')
    (hrun : y.run r = z.run q) (hclosed : y.run r.closed = z.run q.closed) (hs : q.rest <:+ r.rest) :
    Keeps y r a r' where
  same := hrun.trans h.same
  suffix := h.suffix.trans hs
  closed := by
    rw [hclosed]
    exact h.closed.imp_right fun ⟨hend, hcomment, hlost⟩ => ⟨hend, hcomment.of_suffix hs, hlost⟩

theorem Keeps.bind {y : Reader α} {g : α → Reader β} {r r' r'' : Reading} {a : α} {b : β}
    (hy : Keeps y r a r') (hg : Keeps (g a) r' b r'') : Keeps (y >>= g) r b r'' where
  same := by
    rw [StateT.run_bind, hy.same]
    exact hg.same
  suffix := hg.suffix.trans hy.suffix
  closed := by
    rw [StateT.run_bind]
    rcases hy.closed with hc | ⟨hend, hcomment, hc⟩
    · rw [hc]
      rcases hg.closed with hc' | ⟨hend', hcomment', hc'⟩
      · exact .inl hc'
      · exact .inr ⟨hend', hcomment'.of_suffix hy.suffix, hc'⟩
    · -- The parenthesis is gone, and nothing is left for what follows.
      have hend' : r''.rest = [] := List.suffix_nil.1 (hend ▸ hg.suffix)
      rw [hc]
      exact .inr ⟨hend', hcomment, hg.same⟩

namespace Extends

variable {P : Reading → Prop} {x y : Reader α} {f g : α → Reader β}

theorem mono {Q : Reading → Prop} (h : Extends P x y) (hq : ∀ r, Q r → P r) : Extends Q x y :=
  fun r a r' hr => h r a r' (hq r hr)

theorem anywhere (h : Extends (fun _ => True) x y) : Extends P x y := h.mono fun _ _ => True.intro

theorem pure (a : α) : Extends P (Pure.pure a : Reader α) (Pure.pure a) := by
  rintro r a r' - ⟨⟩
  exact .still rfl rfl rfl

theorem failure : Extends P (Alternative.failure : Reader α) y := by
  rintro r a r' - ⟨⟩

theorem bind (hx : Extends P x y) (hf : ∀ a, Extends (fun _ => True) (f a) (g a)) :
    Extends P (x >>= f) (y >>= g) := by
  intro r b r'' hr h
  rw [StateT.run_bind] at h
  obtain ⟨⟨a, r'⟩, ha, hb⟩ := Option.bind_eq_some_iff.1 h
  exact (hx r a r' hr ha).bind (hf a r' b r'' True.intro hb)

theorem map (hx : Extends P x y) (f : α → β) : Extends P (f <$> x) (f <$> y) := by
  rw [map_eq_pure_bind, map_eq_pure_bind]
  exact hx.bind fun _ => .pure _

/-- The state is looked at, but not its rest. -/
theorem get {f g : Reading → Reader β} (hg : ∀ r : Reading, g r.closed = g r)
    (h : ∀ r, Extends P (f r) (g r)) : Extends P (MonadState.get >>= f) (MonadState.get >>= g) := by
  intro r b r' hr hb
  obtain ⟨hsame, hsuffix, hclosed⟩ := h r r b r' hr hb
  refine ⟨hsame, hsuffix, ?_⟩
  rw [← hg] at hclosed
  exact hclosed

theorem require (condition : Bool) : Extends P (require condition) (require condition) := by
  unfold Reader.require
  split
  · exact .pure ()
  · exact .failure

theorem require_bind {f g : Reader α} {condition : Bool} (h : condition = true → Extends P f g) :
    Extends P (Reader.require condition >>= fun _ => f) (Reader.require condition >>= fun _ => g) := by
  cases condition with
  | true => exact h rfl
  | false => exact .failure

end Extends

/-! ## Characters -/

theorem keeps_peek {r : Reading} {c : Char} (h : r.rest.head? = some c) : Keeps peek r (some c) r := by
  refine .still (congrArg (fun o => some (o, r)) h) rfl (congrArg (fun o => some (o, r.closed)) ?_)
  rw [Reading.closed, List.head?_append, h]
  rfl

theorem keeps_peekSome {r : Reading} {c : Char} (h : r.rest.head? = some c) : Keeps peekSome r c r :=
  (keeps_peek h).bind (.still rfl rfl rfl)

theorem eq_of_peekSome {r r' : Reading} {c : Char} (h : peekSome.run r = some (c, r')) :
    r.rest.head? = some c ∧ r' = r := by
  cases hc : r.rest.head? with
  | none =>
    unfold peekSome at h
    rw [StateT.run_bind] at h
    have hpeek : peek.run r = some (none, r) := congrArg (fun o => some (o, r)) hc
    rw [hpeek] at h
    cases h
  | some d =>
    rw [(keeps_peekSome hc).same] at h
    cases h
    exact ⟨rfl, rfl⟩

theorem more_of_head? {r : Reading} {c : Char} (h : r.rest.head? = some c) : r.More := by
  rintro hr
  rw [hr] at h
  cases h

namespace Extends

variable {P : Reading → Prop} {f g : Option Char → Reader α}

/-- What is looked at is there, or the step fails. -/
theorem peek_bind_of_failure (hsome : ∀ c, Extends Reading.More (f (some c)) (g (some c)))
    (hnone : ∀ r : Reading, r.rest = [] → (f none).run r = none) :
    Extends P (peek >>= f) (peek >>= g) := by
  intro r a r' _ h
  cases hc : r.rest.head? with
  | none =>
    have hf : (f none).run r = some (a, r') := hc ▸ h
    rw [hnone r (List.head?_eq_none_iff.1 hc)] at hf
    cases hf
  | some c =>
    have hf : (f (some c)).run r = some (a, r') := hc ▸ h
    exact (keeps_peek hc).bind (hsome c r a r' (more_of_head? hc) hf)

/-- At the end of the pattern and at a parenthesis the same is done. -/
theorem peek_bind_of_end {b : α} (hsome : ∀ c, Extends Reading.More (f (some c)) (g (some c)))
    (hf : f none = Pure.pure b) (hg : g none = Pure.pure b) (hclose : g (some ')') = Pure.pure b) :
    Extends P (peek >>= f) (peek >>= g) := by
  intro r a r' _ h
  cases hc : r.rest.head? with
  | none =>
    have hend : r.rest = [] := List.head?_eq_none_iff.1 hc
    have hrun : (f none).run r = some (a, r') := hc ▸ h
    rw [hf] at hrun
    cases hrun
    refine .still ?_ rfl ?_
    · show (g r.rest.head?).run r = _
      rw [hc, hg]
      rfl
    · show (g (r.rest ++ [')']).head?).run r.closed = _
      rw [hend, List.nil_append, List.head?_cons, hclose]
      rfl
  | some c =>
    have hrun : (f (some c)).run r = some (a, r') := hc ▸ h
    exact (keeps_peek hc).bind (hsome c r a r' (more_of_head? hc) hrun)

theorem peekSome_bind {f g : Char → Reader α} (h : ∀ c, Extends Reading.More (f c) (g c)) :
    Extends P (peekSome >>= f) (peekSome >>= g) := by
  unfold peekSome
  rw [bind_assoc, bind_assoc]
  exact peek_bind_of_failure h fun _ _ => rfl

theorem peekSome : Extends P peekSome peekSome := peek_bind_of_failure (fun c => .pure c) fun _ _ => rfl

theorem bump : Extends Reading.More bump bump := by
  rintro r a r' hr ⟨⟩
  refine .modify (List.drop_suffix 1 _) (.inl ?_)
  exact congrArg (fun rest => { r with rest := rest })
    (List.drop_append_of_le_length (List.length_pos_iff.2 hr))

theorem expect (c : Char) : Extends P (expect c) (expect c) :=
  peek_bind_of_failure (fun _ => .require_bind fun _ => .bump) fun _ _ => rfl

end Extends

theorem run_expect_nil {r : Reading} (hr : r.rest = []) (c : Char) : (expect c).run r = none := by
  have hpeek : peek.run r = some (none, r) := congrArg (fun cs => some (List.head? cs, r)) hr
  unfold expect
  rw [StateT.run_bind, hpeek]
  rfl

theorem more_of_expect {c : Char} {r r' : Reading} {a : Unit} (h : (expect c).run r = some (a, r')) :
    r.More := by
  rintro hr
  rw [run_expect_nil hr] at h
  cases h

/-! ### Comments -/

theorem skipVerbose_suffix (inComment : Bool) (cs : List Char) : skipVerbose inComment cs <:+ cs := by
  induction cs generalizing inComment with
  | nil => exact List.suffix_rfl
  | cons c cs ih =>
    have hcs := List.suffix_cons c cs
    rw [skipVerbose]
    split
    · exact (ih _).trans hcs
    · split
      · exact (ih _).trans hcs
      · split
        · exact (ih _).trans hcs
        · exact List.suffix_rfl

/-- A parenthesis behind what does not count stays, unless a comment takes it. -/
theorem skipVerbose_closed (inComment : Bool) (cs : List Char) :
    skipVerbose inComment (cs ++ [')']) = skipVerbose inComment cs ++ [')'] ∨
      skipVerbose inComment cs = [] ∧ skipVerbose inComment (cs ++ [')']) = [] ∧
        (EndsInComment cs ∨ inComment = true ∧ '\n' ∉ cs) := by
  induction cs generalizing inComment with
  | nil =>
    cases inComment with
    | true => exact .inr ⟨rfl, rfl, .inr ⟨rfl, nofun⟩⟩
    | false => exact .inl rfl
  | cons c cs ih =>
    rw [List.cons_append, skipVerbose, skipVerbose]
    cases inComment with
    | true =>
      rw [if_pos rfl, if_pos rfl]
      refine (ih (c != '\n')).imp_right fun ⟨hend, hclosed, hc⟩ => ⟨hend, hclosed, ?_⟩
      rcases hc with hc | ⟨hne, hc⟩
      · exact .inl (hc.cons c)
      · exact .inr ⟨rfl, List.not_mem_cons_of_ne_of_not_mem (fun h => by simp [← h] at hne) hc⟩
    | false =>
      rw [if_neg Bool.false_ne_true, if_neg Bool.false_ne_true]
      by_cases hsign : c == '#'
      · rw [if_pos hsign, if_pos hsign]
        refine (ih true).imp_right fun ⟨hend, hclosed, hc⟩ => ⟨hend, hclosed, .inl ?_⟩
        rcases hc with hc | ⟨-, hc⟩
        · exact hc.cons c
        · exact ⟨[], cs, by rw [eq_of_beq hsign]; rfl, hc⟩
      · rw [if_neg hsign, if_neg hsign]
        split
        · refine (ih false).imp_right fun ⟨hend, hclosed, hc⟩ => ⟨hend, hclosed, .inl ?_⟩
          rcases hc with hc | ⟨hf, -⟩
          · exact hc.cons c
          · cases hf
        · exact .inl rfl

namespace Extends

variable {P : Reading → Prop}

theorem skipBlank : Extends P skipBlank skipBlank := by
  intro r a r' _ h
  have hrun (q : Reading) : Reader.skipBlank.run q =
      some ((), if q.flags.verbose then { q with rest := skipVerbose false q.rest } else q) := rfl
  have hclosed := hrun r.closed
  rw [show r.closed.flags = r.flags from rfl] at hclosed
  rw [hrun] at h
  cases hv : r.flags.verbose with
  | false =>
    rw [hv, if_neg Bool.false_ne_true] at h hclosed
    cases h
    refine .still ?_ rfl hclosed
    rw [hrun, hv, if_neg Bool.false_ne_true]
  | true =>
    rw [hv, if_pos rfl] at h hclosed
    cases h
    refine ⟨by rw [hrun, hv, if_pos rfl], skipVerbose_suffix false r.rest, ?_⟩
    rw [hclosed]
    rcases skipVerbose_closed false r.rest with hs | ⟨hend, hs, hc | ⟨hf, -⟩⟩
    · exact .inl (congrArg (fun rest => some ((), { r with rest := rest })) hs)
    · refine .inr ⟨hend, hc, ?_⟩
      rw [hend]
      exact congrArg (fun rest => some ((), { r with rest := rest })) hs
    · cases hf

theorem advance : Extends Reading.More advance advance := bump.bind fun _ => skipBlank

end Extends

/-! ### Texts -/

theorem run_takeText (text : String) (r : Reading) :
    (takeText text).run r =
      if text.toList.isPrefixOf r.rest then some (true, { r with rest := r.rest.drop text.length })
      else some (false, r) := by
  unfold takeText
  rw [StateT.run_bind, StateT.run_get, pure_bind]
  split <;> rfl

/-- A text without the parenthesis is at the beginning with the parenthesis behind or not at all. -/
theorem isPrefixOf_closed {text : List Char} (ht : ')' ∉ text) (cs : List Char) :
    text.isPrefixOf (cs ++ [')']) = text.isPrefixOf cs := by
  rw [Bool.eq_iff_iff, List.isPrefixOf_iff_prefix, List.isPrefixOf_iff_prefix, List.prefix_concat_iff]
  refine ⟨fun h => h.resolve_left fun heq => ht ?_, .inr⟩
  rw [heq]
  exact List.mem_append_right _ List.mem_cons_self

theorem drop_closed {text cs : List Char} (h : text.isPrefixOf cs = true) :
    (cs ++ [')']).drop text.length = cs.drop text.length ++ [')'] :=
  List.drop_append_of_le_length (List.isPrefixOf_iff_prefix.1 h).length_le

/-- What passes a test is the same, if something is behind it that does not. -/
theorem takeWhile_closed {test : Char → Bool} {cs : List Char}
    (h : cs.drop (cs.takeWhile test).length ≠ []) :
    (cs ++ [')']).takeWhile test = cs.takeWhile test ∧
      (cs ++ [')']).drop (cs.takeWhile test).length = cs.drop (cs.takeWhile test).length ++ [')'] := by
  have hlt : (cs.takeWhile test).length < cs.length :=
    Nat.lt_of_not_le fun hle => h (List.drop_eq_nil_of_le hle)
  refine ⟨?_, List.drop_append_of_le_length (Nat.le_of_lt hlt)⟩
  rw [List.takeWhile_append, if_neg (Nat.ne_of_lt hlt)]

theorem run_takeText_closed {text : String} (ht : ')' ∉ text.toList) {r r' : Reading} {b : Bool}
    (h : (takeText text).run r = some (b, r')) :
    (takeText text).run r.closed = some (b, r'.closed) := by
  have hclosed : text.toList.isPrefixOf r.closed.rest = text.toList.isPrefixOf r.rest :=
    isPrefixOf_closed ht r.rest
  rw [run_takeText] at h
  rw [run_takeText, hclosed]
  split at h
  · rename_i hp
    cases h
    rw [if_pos hp]
    exact congrArg (fun rest => some (true, { r with rest := rest }))
      (String.length_toList ▸ drop_closed hp)
  · rename_i hp
    cases h
    rw [if_neg hp]

theorem suffix_of_takeText {text : String} {r r' : Reading} {b : Bool}
    (h : (takeText text).run r = some (b, r')) : r'.rest <:+ r.rest := by
  rw [run_takeText] at h
  split at h
  · cases h
    exact List.drop_suffix _ _
  · cases h
    exact List.suffix_rfl

namespace Extends

variable {P : Reading → Prop}

theorem takeText {text : String} (ht : ')' ∉ text.toList) :
    Extends P (takeText text) (takeText text) :=
  fun _ _ _ _ h => ⟨h, suffix_of_takeText h, .inl (run_takeText_closed ht h)⟩

end Extends

/-- Characters that pass a test, if the parenthesis does not, or if they are not the last ones. -/
theorem keeps_takeWhile {test : Char → Bool} {bound bound' : Nat} (hb : bound ≤ bound') {r : Reading}
    {cs : List Char} {r' : Reading} (h : (takeWhile test bound).run r = some (cs, r'))
    (ht : test ')' = false ∨ r'.More) : Keeps (takeWhile test bound') r cs r' := by
  induction bound generalizing bound' r cs r' with
  | zero => cases h
  | succ bound ih =>
    obtain ⟨bound', rfl, hb'⟩ := exists_bound hb
    rw [takeWhile, StateT.run_bind] at h
    rw [takeWhile]
    cases hc : r.rest.head? with
    | none =>
      have hend : r.rest = [] := List.head?_eq_none_iff.1 hc
      have hpeek : peek.run r = some (none, r) := congrArg (fun o => some (o, r)) hc
      rw [hpeek] at h
      cases h
      have htest : test ')' = false := ht.resolve_right fun hmore => hmore hend
      refine .still ?_ rfl ?_
      · rw [StateT.run_bind, hpeek]
        rfl
      · have hpeek' : peek.run r.closed = some (some ')', r.closed) := by
          show some ((r.rest ++ [')']).head?, r.closed) = _
          rw [hend]
          rfl
        rw [StateT.run_bind, hpeek']
        show (if test ')' = true then _ else _ : Reader (List Char)).run r.closed = _
        rw [htest, if_neg Bool.false_ne_true]
        rfl
    | some c =>
      have hpeek : peek.run r = some (some c, r) := congrArg (fun o => some (o, r)) hc
      rw [hpeek] at h
      refine (keeps_peek hc).bind ?_
      dsimp only [Option.bind_eq_bind, Option.bind_some] at h ⊢
      cases hp : test c with
      | false =>
        rw [hp, if_neg Bool.false_ne_true] at h
        rw [if_neg Bool.false_ne_true]
        cases h
        exact .still rfl rfl rfl
      | true =>
        rw [hp, if_pos rfl, StateT.run_bind] at h
        rw [if_pos rfl]
        obtain ⟨⟨⟨⟩, r₁⟩, hadv, h⟩ := Option.bind_eq_some_iff.1 h
        rw [StateT.run_bind] at h
        obtain ⟨⟨ds, r₂⟩, hrest, h⟩ := Option.bind_eq_some_iff.1 h
        cases h
        exact (Extends.advance r () r₁ (more_of_head? hc) hadv).bind
          ((ih hb' hrest ht).bind (.still rfl rfl rfl))

namespace Extends

variable {P : Reading → Prop}

theorem takeWhile {test : Char → Bool} (ht : test ')' = false) {bound bound' : Nat}
    (hb : bound ≤ bound') : Extends P (takeWhile test bound) (takeWhile test bound') :=
  fun _ _ _ _ h => keeps_takeWhile hb h (.inl ht)

/-- Characters up to a sign that must follow. -/
theorem takeWhile_expect {f g : List Char → Reader α} {test : Char → Bool} {c : Char}
    {bound bound' : Nat} (hb : bound ≤ bound')
    (hf : ∀ cs, Extends (fun _ => True) (f cs) (g cs)) :
    Extends P (Reader.takeWhile test bound >>= fun cs => Reader.expect c >>= fun _ => f cs)
      (Reader.takeWhile test bound' >>= fun cs => Reader.expect c >>= fun _ => g cs) := by
  intro r a r' _ h
  rw [StateT.run_bind] at h
  obtain ⟨⟨cs, r₁⟩, hcs, h⟩ := Option.bind_eq_some_iff.1 h
  have hafter := (((expect c).bind fun _ => hf cs) : Extends (fun _ => True) _ _) r₁ a r' True.intro h
  rw [StateT.run_bind] at h
  obtain ⟨⟨⟨⟩, r₂⟩, hsign, -⟩ := Option.bind_eq_some_iff.1 h
  exact (keeps_takeWhile hb hcs (.inr (more_of_expect hsign))).bind hafter

/-! ### Numbers -/

theorem decimal {bound bound' : Nat} (hb : bound ≤ bound') :
    Extends P (decimal bound) (decimal bound') := by
  unfold Reader.decimal
  refine .bind ?_ fun _ => ?_
  · rintro r _ _ - ⟨⟩
    refine .modify (List.dropWhile_suffix _) (.inl ?_)
    refine congrArg (fun rest => { r with rest := rest }) ?_
    rw [Reading.closed, List.dropWhile_append]
    split
    · rename_i hempty
      rw [List.isEmpty_iff.1 hempty]
      rfl
    · rfl
  refine .bind (.takeWhile (by decide) hb) fun digits => ?_
  refine .bind ((takeWhile (by decide) hb).map _) fun _ => ?_
  refine .bind (.require _) fun _ => .bind (.require _) fun _ => .pure _

theorem hexChar (digits : List Char) : Extends P (hexChar digits) (hexChar digits) := by
  unfold Reader.hexChar
  refine .bind (.require _) fun _ => ?_
  dsimp only
  split
  · exact .pure _
  · exact .failure

theorem hexDigits (count : Nat) : Extends P (hexDigits count) (hexDigits count) := by
  induction count generalizing P with
  | zero => exact .pure []
  | succ count ih =>
    rw [Reader.hexDigits]
    exact .peekSome_bind fun c => .require_bind fun _ => .bind .advance fun _ =>
      .bind ih fun cs => .pure (c :: cs)

theorem hex {bound bound' : Nat} (hb : bound ≤ bound') (width : Nat) :
    Extends P (hex bound width) (hex bound' width) := by
  unfold Reader.hex
  refine .peekSome_bind fun c => ?_
  split
  · refine .bind .advance fun _ => .bind (.takeWhile (by decide) hb) fun digits => ?_
    refine .peek_bind_of_failure (fun _ => ?_) fun _ _ => rfl
    exact .require_bind fun _ => .bind .advance fun _ => .bind (.hexChar digits) fun c => .pure _
  · exact (hexDigits width).bind fun digits => (hexChar digits).bind fun c => .pure _

end Extends

end Reader

end Triparse.Pattern
