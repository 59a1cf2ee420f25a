import Triparse.Grammar.Meaning

/-!
# Free names

A name is free in a grammar if a reference to it stands outside of all definitions of it in the grammar
(`Grammar.free`). What a grammar means depends on what the scope says of its free names and of no other
(`Grammar.parser_congr`); so a closed grammar means the same in every scope, and it can be put in place of
a name without any regard to what is defined around the references (`Grammar.parser_replace`).
-/

set_option autoImplicit false

namespace Triparse

/-! ## Looking names up -/

/-- The parser that a reference to a name is in a scope. -/
def Scope.find (scope : Scope) (name : String) (a : Address) : Parser Value :=
  match scope.lookup name with
  | some handles => handles a
  | none => Parser.orphan

namespace Scope

variable (scope : Scope) (name : String) (handles : Address → Parser Value)

@[simp] theorem find_cons_self : Scope.find ((name, handles) :: scope) name = handles := by
  funext a
  rw [find, List.lookup_cons_self]

theorem find_cons_of_ne {other : String} (h : other ≠ name) :
    Scope.find ((name, handles) :: scope) other = scope.find other := by
  funext a
  rw [find, List.lookup_cons, beq_eq_false_iff_ne.2 h]
  rfl

end Scope

theorem Grammar.parser_ref (bound : Nat) (name : String) (scope : Scope) (a : Address) :
    (Grammar.ref name).parser bound scope a = scope.find name a := rfl

/-! ## Free names -/

mutual

/-- The names that are free in a grammar. -/
def Grammar.free : Grammar → List String
  | .primitive _ => []
  | .choice gs => Grammar.freeAll gs
  | .sequence gs => Grammar.freeAll gs
  | .many _ g => g.free
  | .separated _ separator value => separator.free ++ value.free
  | .times g _ => g.free
  | .maybe g => g.free
  | .lookAhead g => g.free
  | .anythingExcept _ g => g.free
  | .everythingUntil _ g => g.free
  | .stringUntil g => g.free
  | .valueIfAbsent g _ => g.free
  | .ignoreIfAbsent g => g.free
  | .nth g _ => g.free
  | .last g => g.free
  | .join g _ => g.free
  | .map g _ => g.free
  | .mapReply g _ => g.free
  | .ignore g => g.free
  | .named g _ => g.free
  | .label g _ => g.free
  | .seq g h => g.free ++ h.free
  | .skip g h => g.free ++ h.free
  | .skipLeft g h => g.free ++ h.free
  | .fix name g => g.free.filter (· != name)
  | .recursive name _ g => g.free.filter (· != name)
  | .ref name => [name]
  | .orphan => []
  | .tap _ g => g.free
  | .rule body => Stmt.freeAll body

/-- The names that are free in one of the grammars. -/
def Grammar.freeAll : List Grammar → List String
  | [] => []
  | g :: gs => g.free ++ Grammar.freeAll gs

/-- The names that are free in a step of a rule. -/
def Stmt.free : Stmt → List String
  | .step g => g.free
  | .limited g _ _ => g.free
  | .attempt g => g.free
  | .recover g => g.free
  | .position => []
  | .atEnd => []
  | .remaining => []
  | .snippet => []
  | .reject _ => []
  | .raise _ => []
  | .finish => []
  | .when g matched failed => g.free ++ (Stmt.freeAll matched ++ Stmt.freeAll failed)
  | .loop g body => g.free ++ Stmt.freeAll body

/-- The names that are free in one of the steps. -/
def Stmt.freeAll : List Stmt → List String
  | [] => []
  | s :: ss => s.free ++ Stmt.freeAll ss

end

/-- Two scopes in which the names mean the same. -/
def Scope.AgreeOn (names : List String) (scope scope' : Scope) : Prop :=
  ∀ name ∈ names, scope.find name = scope'.find name

namespace Scope.AgreeOn

variable {names names' : List String} {scope scope' : Scope}

theorem left (h : AgreeOn (names ++ names') scope scope') : AgreeOn names scope scope' :=
  fun name hn => h name (List.mem_append_left _ hn)

theorem right (h : AgreeOn (names ++ names') scope scope') : AgreeOn names' scope scope' :=
  fun name hn => h name (List.mem_append_right _ hn)

/-- A definition around both says what its name means in both. -/
theorem under {name : String} (h : AgreeOn (names.filter (· != name)) scope scope')
    (handles : Address → Parser Value) :
    AgreeOn names ((name, handles) :: scope) ((name, handles) :: scope') := by
  intro other ho
  by_cases hne : other = name
  · rw [hne, find_cons_self, find_cons_self]
  · rw [find_cons_of_ne _ _ _ hne, find_cons_of_ne _ _ _ hne]
    exact h other (List.mem_filter.2 ⟨ho, bne_iff_ne.2 hne⟩)

end Scope.AgreeOn

section
variable {bound : Nat}

mutual

/-- **What a grammar means depends on its free names alone.** -/
theorem Grammar.parser_congr : ∀ (g : Grammar) {scope scope' : Scope},
    Scope.AgreeOn g.free scope scope' → ∀ a, g.parser bound scope a = g.parser bound scope' a
  | .primitive _, _, _, _, _ => by simp only [Grammar.interpret]
  | .choice gs, _, _, h, a | .sequence gs, _, _, h, a => by
    simp only [Grammar.interpret, Grammar.parsers_congr gs h]
  | .many _ g, _, _, h, a | .times g _, _, _, h, a | .maybe g, _, _, h, a | .lookAhead g, _, _, h, a
  | .stringUntil g, _, _, h, a | .valueIfAbsent g _, _, _, h, a | .ignoreIfAbsent g, _, _, h, a
  | .nth g _, _, _, h, a | .last g, _, _, h, a | .join g _, _, _, h, a | .map g _, _, _, h, a
  | .mapReply g _, _, _, h, a | .ignore g, _, _, h, a | .named g _, _, _, h, a
  | .label g _, _, _, h, a | .tap _ g, _, _, h, a => by
    simp only [Grammar.interpret, g.parser_congr h]
  | .anythingExcept shape g, _, _, h, a | .everythingUntil shape g, _, _, h, a => by
    cases shape <;> simp only [Grammar.interpret, g.parser_congr h]
  | .separated _ g g', _, _, h, a | .seq g g', _, _, h, a | .skip g g', _, _, h, a
  | .skipLeft g g', _, _, h, a => by
    simp only [Grammar.interpret, g.parser_congr h.left, g'.parser_congr h.right]
  | .fix _ g, _, _, h, a | .recursive _ _ g, _, _, h, a => by
    simp only [Grammar.parser_fix, Grammar.parser_recursive,
      fun handles => g.parser_congr (h.under handles)]
  | .ref name, _, _, h, a => by
    rw [Grammar.parser_ref, Grammar.parser_ref, h name (List.mem_singleton_self name)]
  | .orphan, _, _, _, _ => by simp only [Grammar.interpret]
  | .rule body, _, _, h, a => by simp only [Grammar.interpret, Stmt.runAll_congr body h]

theorem Grammar.parsers_congr : ∀ (gs : List Grammar) {scope scope' : Scope},
    Scope.AgreeOn (Grammar.freeAll gs) scope scope' → ∀ a index,
      Grammar.parsers bound gs scope a index = Grammar.parsers bound gs scope' a index
  | [], _, _, _, _, _ => by simp only [Grammar.interpretAll]
  | g :: gs, _, _, h, a, index => by
    simp only [Grammar.interpretAll, g.parser_congr h.left, Grammar.parsers_congr gs h.right]

theorem Stmt.run_congr : ∀ (s : Stmt) {scope scope' : Scope},
    Scope.AgreeOn s.free scope scope' → ∀ a, s.run bound scope a = s.run bound scope' a
  | .step g, _, _, h, a | .limited g _ _, _, _, h, a | .attempt g, _, _, h, a
  | .recover g, _, _, h, a => by simp only [Stmt.interpret, g.parser_congr h]
  | .position, _, _, _, _ | .atEnd, _, _, _, _ | .remaining, _, _, _, _ | .snippet, _, _, _, _
  | .reject _, _, _, _, _ | .raise _, _, _, _, _ | .finish, _, _, _, _ => by simp only [Stmt.interpret]
  | .when g matched failed, _, _, h, a => by
    simp only [Stmt.interpret, g.parser_congr h.left, Stmt.runAll_congr matched h.right.left,
      Stmt.runAll_congr failed h.right.right]
  | .loop g body, _, _, h, a => by
    simp only [Stmt.interpret, g.parser_congr h.left, Stmt.runAll_congr body h.right]

theorem Stmt.runAll_congr : ∀ (ss : List Stmt) {scope scope' : Scope},
    Scope.AgreeOn (Stmt.freeAll ss) scope scope' → ∀ a index,
      Stmt.runAll bound ss scope a index = Stmt.runAll bound ss scope' a index
  | [], _, _, _, _, _ => by simp only [Stmt.interpretAll]
  | s :: ss, _, _, h, a, index => by
    simp only [Stmt.interpretAll, s.run_congr h.left, Stmt.runAll_congr ss h.right]

end

/-- A closed grammar means the same in every scope. -/
theorem Grammar.parser_of_closed {g : Grammar} (hg : g.free = []) (scope scope' : Scope) (a : Address) :
    g.parser bound scope a = g.parser bound scope' a := by
  refine g.parser_congr ?_ a
  intro name hn
  rw [hg] at hn
  cases hn

end

/-! ## Replacing a name -/

mutual

/-- A grammar with another one, `h`, in place of the free references to a name. -/
def Grammar.replace (g : Grammar) (name : String) (h : Grammar) : Grammar :=
  match g with
  | .primitive p => .primitive p
  | .choice gs => .choice (Grammar.replaceAll gs name h)
  | .sequence gs => .sequence (Grammar.replaceAll gs name h)
  | .many range g => .many range (g.replace name h)
  | .separated range separator value =>
    .separated range (separator.replace name h) (value.replace name h)
  | .times g count => .times (g.replace name h) count
  | .maybe g => .maybe (g.replace name h)
  | .lookAhead g => .lookAhead (g.replace name h)
  | .anythingExcept shape g => .anythingExcept shape (g.replace name h)
  | .everythingUntil shape g => .everythingUntil shape (g.replace name h)
  | .stringUntil g => .stringUntil (g.replace name h)
  | .valueIfAbsent g default => .valueIfAbsent (g.replace name h) default
  | .ignoreIfAbsent g => .ignoreIfAbsent (g.replace name h)
  | .nth g index => .nth (g.replace name h) index
  | .last g => .last (g.replace name h)
  | .join g separator => .join (g.replace name h) separator
  | .map g f => .map (g.replace name h) f
  | .mapReply g f => .mapReply (g.replace name h) f
  | .ignore g => .ignore (g.replace name h)
  | .named g text => .named (g.replace name h) text
  | .label g text => .label (g.replace name h) text
  | .seq g g' => .seq (g.replace name h) (g'.replace name h)
  | .skip g g' => .skip (g.replace name h) (g'.replace name h)
  | .skipLeft g g' => .skipLeft (g.replace name h) (g'.replace name h)
  | .fix other g => if other = name then .fix other g else .fix other (g.replace name h)
  | .recursive other traced g =>
    if other = name then .recursive other traced g else .recursive other traced (g.replace name h)
  | .ref other => if other = name then h else .ref other
  | .orphan => .orphan
  | .tap label g => .tap label (g.replace name h)
  | .rule body => .rule (Stmt.replaceAll body name h)
termination_by structural g

/-- Grammars with another one in place of the free references to a name. -/
def Grammar.replaceAll (gs : List Grammar) (name : String) (h : Grammar) : List Grammar :=
  match gs with
  | [] => []
  | g :: gs => g.replace name h :: Grammar.replaceAll gs name h
termination_by structural gs

/-- A step of a rule with a grammar in place of the free references to a name. -/
def Stmt.replace (s : Stmt) (name : String) (h : Grammar) : Stmt :=
  match s with
  | .step g => .step (g.replace name h)
  | .limited g limit message => .limited (g.replace name h) limit message
  | .attempt g => .attempt (g.replace name h)
  | .recover g => .recover (g.replace name h)
  | .position => .position
  | .atEnd => .atEnd
  | .remaining => .remaining
  | .snippet => .snippet
  | .reject message => .reject message
  | .raise failure => .raise failure
  | .finish => .finish
  | .when g matched failed =>
    .when (g.replace name h) (Stmt.replaceAll matched name h) (Stmt.replaceAll failed name h)
  | .loop g body => .loop (g.replace name h) (Stmt.replaceAll body name h)
termination_by structural s

/-- Steps of a rule with a grammar in place of the free references to a name. -/
def Stmt.replaceAll (ss : List Stmt) (name : String) (h : Grammar) : List Stmt :=
  match ss with
  | [] => []
  | s :: ss => s.replace name h :: Stmt.replaceAll ss name h
termination_by structural ss

end

/-- The second scope says the same as the first, but that the name stands for the closed grammar `h`. -/
structure Scope.Defines (bound : Nat) (name : String) (h : Grammar) (scope scope' : Scope) : Prop where
  closed : h.free = []
  here : scope'.find name = fun a => h.parser bound [] a
  others : ∀ other, other ≠ name → scope.find other = scope'.find other

namespace Scope.Defines

variable {bound : Nat} {name : String} {h : Grammar} {scope scope' : Scope}

/-- The name is defined in front of a scope. -/
theorem front (closed : h.free = []) (scope : Scope) :
    Defines bound name h scope ((name, fun a => h.parser bound [] a) :: scope) where
  closed := closed
  here := find_cons_self _ _ _
  others _ ho := (find_cons_of_ne _ _ _ ho).symm

/-- Another name is defined around both. -/
theorem under (hs : Defines bound name h scope scope') {other : String} (ho : other ≠ name)
    (handles : Address → Parser Value) :
    Defines bound name h ((other, handles) :: scope) ((other, handles) :: scope') where
  closed := hs.closed
  here := by rw [find_cons_of_ne _ _ _ ho.symm, hs.here]
  others third ht := by
    by_cases hne : third = other
    · rw [hne, find_cons_self, find_cons_self]
    · rw [find_cons_of_ne _ _ _ hne, find_cons_of_ne _ _ _ hne, hs.others third ht]

/-- The name itself is defined around both, and what it stood for is hidden. -/
theorem hidden (hs : Defines bound name h scope scope') (handles : Address → Parser Value)
    (names : List String) :
    AgreeOn names ((name, handles) :: scope) ((name, handles) :: scope') := by
  intro other _
  by_cases hne : other = name
  · rw [hne, find_cons_self, find_cons_self]
  · rw [find_cons_of_ne _ _ _ hne, find_cons_of_ne _ _ _ hne, hs.others other hne]

end Scope.Defines

section
variable {bound : Nat} {name : String} {h : Grammar}

mutual

/-- **Putting a closed grammar in place of a name is letting the name stand for it.** -/
theorem Grammar.parser_replace : ∀ (g : Grammar) {scope scope' : Scope},
    Scope.Defines bound name h scope scope' → ∀ a,
      (g.replace name h).parser bound scope a = g.parser bound scope' a
  | .primitive _, _, _, _, _ => by simp only [Grammar.replace, Grammar.interpret]
  | .choice gs, _, _, hs, a | .sequence gs, _, _, hs, a => by
    simp only [Grammar.replace, Grammar.interpret, Grammar.parsers_replace gs hs]
  | .many _ g, _, _, hs, a | .times g _, _, _, hs, a | .maybe g, _, _, hs, a
  | .lookAhead g, _, _, hs, a | .stringUntil g, _, _, hs, a | .valueIfAbsent g _, _, _, hs, a
  | .ignoreIfAbsent g, _, _, hs, a | .nth g _, _, _, hs, a | .last g, _, _, hs, a
  | .join g _, _, _, hs, a | .map g _, _, _, hs, a | .mapReply g _, _, _, hs, a
  | .ignore g, _, _, hs, a | .named g _, _, _, hs, a | .label g _, _, _, hs, a
  | .tap _ g, _, _, hs, a => by
    simp only [Grammar.replace, Grammar.interpret, g.parser_replace hs]
  | .anythingExcept shape g, _, _, hs, a | .everythingUntil shape g, _, _, hs, a => by
    cases shape <;> simp only [Grammar.replace, Grammar.interpret, g.parser_replace hs]
  | .separated _ g g', _, _, hs, a | .seq g g', _, _, hs, a | .skip g g', _, _, hs, a
  | .skipLeft g g', _, _, hs, a => by
    simp only [Grammar.replace, Grammar.interpret, g.parser_replace hs, g'.parser_replace hs]
  | .fix other g, scope, scope', hs, a | .recursive other _ g, scope, scope', hs, a => by
    rw [Grammar.replace]
    split
    · rename_i ho
      -- The name is defined anew: in the body it means the same on both sides, whatever it meant.
      have hg (handles : Address → Parser Value) (b : Address) :
          g.parser bound ((other, handles) :: scope) b =
            g.parser bound ((other, handles) :: scope') b :=
        g.parser_congr (ho ▸ hs.hidden handles g.free) b
      simp only [Grammar.parser_fix, Grammar.parser_recursive, hg]
    · rename_i ho
      simp only [Grammar.parser_fix, Grammar.parser_recursive,
        fun handles => g.parser_replace (hs.under ho handles)]
  | .ref other, scope, scope', hs, a => by
    rw [Grammar.replace, Grammar.parser_ref]
    split
    · rename_i ho
      -- On the left the closed grammar stands in the scope of the reference, which it does not look at.
      rw [ho, hs.here]
      exact Grammar.parser_of_closed hs.closed scope [] a
    · rename_i ho
      rw [Grammar.parser_ref, hs.others other ho]
  | .orphan, _, _, _, _ => by simp only [Grammar.replace, Grammar.interpret]
  | .rule body, _, _, hs, a => by
    simp only [Grammar.replace, Grammar.interpret, Stmt.runAll_replace body hs]

theorem Grammar.parsers_replace : ∀ (gs : List Grammar) {scope scope' : Scope},
    Scope.Defines bound name h scope scope' → ∀ a index,
      Grammar.parsers bound (Grammar.replaceAll gs name h) scope a index =
        Grammar.parsers bound gs scope' a index
  | [], _, _, _, _, _ => by simp only [Grammar.replaceAll, Grammar.interpretAll]
  | g :: gs, _, _, hs, a, index => by
    simp only [Grammar.replaceAll, Grammar.interpretAll, g.parser_replace hs, Grammar.parsers_replace gs hs]

theorem Stmt.run_replace : ∀ (s : Stmt) {scope scope' : Scope},
    Scope.Defines bound name h scope scope' → ∀ a,
      (s.replace name h).run bound scope a = s.run bound scope' a
  | .step g, _, _, hs, a | .limited g _ _, _, _, hs, a | .attempt g, _, _, hs, a
  | .recover g, _, _, hs, a => by simp only [Stmt.replace, Stmt.interpret, g.parser_replace hs]
  | .position, _, _, _, _ | .atEnd, _, _, _, _ | .remaining, _, _, _, _ | .snippet, _, _, _, _
  | .reject _, _, _, _, _ | .raise _, _, _, _, _ | .finish, _, _, _, _ => by
    simp only [Stmt.replace, Stmt.interpret]
  | .when g matched failed, _, _, hs, a => by
    simp only [Stmt.replace, Stmt.interpret, g.parser_replace hs, Stmt.runAll_replace matched hs,
      Stmt.runAll_replace failed hs]
  | .loop g body, _, _, hs, a => by
    simp only [Stmt.replace, Stmt.interpret, g.parser_replace hs, Stmt.runAll_replace body hs]

theorem Stmt.runAll_replace : ∀ (ss : List Stmt) {scope scope' : Scope},
    Scope.Defines bound name h scope scope' → ∀ a index,
      Stmt.runAll bound (Stmt.replaceAll ss name h) scope a index =
        Stmt.runAll bound ss scope' a index
  | [], _, _, _, _, _ => by simp only [Stmt.replaceAll, Stmt.interpretAll]
  | s :: ss, _, _, hs, a, index => by
    simp only [Stmt.replaceAll, Stmt.interpretAll, s.run_replace hs, Stmt.runAll_replace ss hs]

end

end

end Triparse
