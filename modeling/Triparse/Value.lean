import Triparse.Token

/-!
# Values

What grammars produce: a closed universe of data, so that grammars themselves are data. Every value
has a text (`Value.text`), in which structure does not show, and a number (`Value.number`). A value
that is no list counts as a list of itself where a list is asked for, and a value that is no option
as a present one.
-/

set_option autoImplicit false

namespace Triparse

/-- A result of a grammar. -/
inductive Value where
  | unit
  | absent
  | present (value : Value)
  | bool (value : Bool)
  | str (value : String)
  | char (value : Char)
  | byte (value : UInt8)
  | int (value : Int)
  | token (value : Token)
  | list (values : List Value)
  | pair (first second : Value)
deriving Repr, Inhabited

namespace Value

/-! ## Views -/

/-- A list of values: the elements of a list, or the value itself. -/
def asList : Value → List Value
  | list vs => vs
  | v => [v]

/-- An optional value: an option, or the value itself as a present one. -/
def asOption : Value → Option Value
  | absent => none
  | present v => some v
  | v => some v

/-- An optional value as a value. -/
def ofOption : Option Value → Value
  | none => absent
  | some v => present v

/-- A list of typed results as a value. -/
def ofList {α : Type} (f : α → Value) (xs : List α) : Value := list (xs.map f)

/-- A pair of values as a value. -/
def ofPair : Value × Value → Value
  | (a, b) => pair a b

/-! ## Text -/

mutual

/-- The text of a value: its leaves in writing, one after the other. -/
def text : Value → String
  | unit => "()"
  | absent => ""
  | present v => v.text
  | bool b => if b then "true" else "false"
  | str s => s
  | char c => String.singleton c
  | byte b => b.toNat.repr
  | int n => n.repr
  | token t => t.render
  | list vs => texts vs
  | pair a b => a.text ++ b.text

/-- The texts of values one after the other. -/
def texts : List Value → String
  | [] => ""
  | v :: vs => v.text ++ texts vs

end

/-! ## Numbers -/

/-- Whether an integer fits into 128 bits with a sign. -/
def fitsWord (n : Int) : Bool := -Int.pow 2 127 ≤ n && n < Int.pow 2 127

/-- The number that one or more digits write. -/
def readDigits? (cs : List Char) : Option Nat :=
  if cs.isEmpty then none
  else if cs.all fun c => '0' ≤ c && c ≤ '9' then
    some (cs.foldl (fun n c => n * 10 + (c.toNat - 48)) 0)
  else none

/-- The number that digits after at most one sign write, if it fits into a word; 0 for any other
text. -/
def readNumber (s : String) : Int :=
  let n : Option Int := match s.toList with
    | '+' :: cs => (readDigits? cs).map Int.ofNat
    | '-' :: cs => (readDigits? cs).map fun n => -Int.ofNat n
    | cs => (readDigits? cs).map Int.ofNat
  match n with
  | some n => if fitsWord n then n else 0
  | none => 0

/-- The number of a value: that of its text, except that a token stands for its payload. -/
def number : Value → Int
  | int n => n
  | byte b => b.toNat
  | token t => match t.data with
    | some data => readNumber data
    | none => 0
  | v => readNumber v.text

/-! ## Equality -/

mutual

/-- Whether two values are the same. -/
def same : Value → Value → Bool
  | unit, unit => true
  | absent, absent => true
  | present v, present w => same v w
  | bool a, bool b => a == b
  | str a, str b => a == b
  | char a, char b => a == b
  | byte a, byte b => a == b
  | int a, int b => a == b
  | token a, token b => a == b
  | list vs, list ws => sameAll vs ws
  | pair a b, pair c d => same a c && same b d
  | _, _ => false

/-- Whether two lists of values are the same. -/
def sameAll : List Value → List Value → Bool
  | [], [] => true
  | v :: vs, w :: ws => same v w && sameAll vs ws
  | _, _ => false

end

mutual

theorem same_refl : ∀ v : Value, same v v = true
  | unit | absent | bool _ | str _ | char _ | byte _ | int _ | token _ => by simp [same]
  | present v => by simp [same, same_refl v]
  | list vs => by simp [same, sameAll_refl vs]
  | pair a b => by simp [same, same_refl a, same_refl b]

theorem sameAll_refl : ∀ vs : List Value, sameAll vs vs = true
  | [] => by simp [sameAll]
  | v :: vs => by simp [sameAll, same_refl v, sameAll_refl vs]

end

mutual

theorem eq_of_same : ∀ {v w : Value}, same v w = true → v = w
  | unit, w, h => by cases w <;> simp_all [same]
  | absent, w, h => by cases w <;> simp_all [same]
  | present v, w, h => by
    cases w <;> simp_all [same]
    exact eq_of_same h
  | bool _, w, h => by cases w <;> simp_all [same]
  | str _, w, h => by cases w <;> simp_all [same]
  | char _, w, h => by cases w <;> simp_all [same]
  | byte _, w, h => by cases w <;> simp_all [same]
  | int _, w, h => by cases w <;> simp_all [same]
  | token _, w, h => by cases w <;> simp_all [same]
  | list vs, w, h => by
    cases w <;> simp_all [same]
    exact eq_of_sameAll h
  | pair a b, w, h => by
    cases w <;> simp_all [same]
    exact ⟨eq_of_same h.1, eq_of_same h.2⟩

theorem eq_of_sameAll : ∀ {vs ws : List Value}, sameAll vs ws = true → vs = ws
  | [], ws, h => by cases ws <;> simp_all [sameAll]
  | v :: vs, ws, h => by
    cases ws <;> simp_all [sameAll]
    exact ⟨eq_of_same h.1, eq_of_sameAll h.2⟩

end

theorem same_iff {v w : Value} : same v w = true ↔ v = w :=
  ⟨eq_of_same, fun h => h ▸ same_refl v⟩

instance : DecidableEq Value := fun _ _ => decidable_of_iff _ same_iff

end Value

end Triparse
