import Triparse.Property.Age
import Triparse.Property.Break
import Triparse.Property.Category
import Triparse.Property.Script
import Triparse.Property.Trait

/-!
# Properties by name

Names of properties and of their values are matched loosely: case, blanks, hyphens, underscores and
characters beyond the basic ones do not count, nor does an `is` in front.
-/

set_option autoImplicit false

namespace Triparse.Property

/-- The characters of a name that count, in lower case. -/
def significant (cs : List Char) : List Char :=
  (cs.filter fun c => c.toNat < 0x80 && c != ' ' && c != '_' && c != '-').map Char.toLower

/-- A name in the form in which names are compared. A sole `c` after an `is` is no name. -/
def normalize (name : List Char) : String :=
  match name with
  | i :: s :: rest =>
    if i.toLower == 'i' && s.toLower == 's' then
      let key := significant rest
      if key == ['c'] then "isc" else String.ofList key
    else String.ofList (significant name)
  | _ => String.ofList (significant name)

/-- The characters that a sole name stands for: those with a trait, of a category or of a script. -/
def find? (name : List Char) : Option Text.RangeTable :=
  let key := normalize name
  trait? key <|> category? key <|> script? key

/-- The characters with a value of a property. -/
def findValue? (property value : List Char) : Option Text.RangeTable :=
  let key := normalize value
  match normalize property with
  | "gc" | "generalcategory" => category? key
  | "sc" | "script" => script? key
  | "scx" | "scriptextensions" => scriptExtension? key
  | "age" => age? key
  | "gcb" | "graphemeclusterbreak" => graphemeBreak? key
  | "wb" | "wordbreak" => wordBreak? key
  | "sb" | "sentencebreak" => sentenceBreak? key
  | _ => none

end Triparse.Property
