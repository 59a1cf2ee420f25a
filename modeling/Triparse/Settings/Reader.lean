import Triparse.Settings

/-!
# Reading settings

Settings are written as JSON: an object with the fields `char-snippet-width` and
`element-snippet-width`, or an array of the two in this order. A missing field has its default.
Fields of other names are not looked at, except that they have to be JSON; a field of the settings
may stand only once, and is an integer that fits into 64 bits. `Settings.read?` reads a text.

A reader takes what it reads off the characters and returns the rest.
-/

set_option autoImplicit false

namespace Triparse.Settings

namespace Reader

/-! ## Characters -/

/-- The characters after blank ones. -/
def skipSpace (cs : List Char) : List Char :=
  cs.dropWhile fun c => c == ' ' || c == '\t' || c == '\n' || c == '\r'

/-- The characters after the given one. -/
def expect (wanted : Char) : List Char → Option (List Char)
  | c :: cs => if c == wanted then some cs else none
  | [] => none

/-- The characters after the given word. -/
def expectWord (word : String) (cs : List Char) : Option (List Char) :=
  if word.toList.isPrefixOf cs then some (cs.drop word.length) else none

/-- Whether a character is a decimal digit. -/
def isDigit (c : Char) : Bool := '0' ≤ c && c ≤ '9'

/-- The value of a hexadecimal digit. -/
def hexDigit? (c : Char) : Option Nat :=
  if isDigit c then some (c.toNat - 48)
  else if 'a' ≤ c && c ≤ 'f' then some (c.toNat - 87)
  else if 'A' ≤ c && c ≤ 'F' then some (c.toNat - 55)
  else none

/-! ## Numbers -/

/-- The digits that an integer starts with; only zero itself starts with zero. -/
def digits? (cs : List Char) : Option (List Char × List Char) :=
  let ds := cs.takeWhile isDigit
  let rest := cs.dropWhile isDigit
  match ds with
  | [] => none
  | '0' :: _ :: _ => none
  | _ => some (ds, rest)

/-- An integer without a sign that fits into 64 bits. -/
def size? (cs : List Char) : Option (Nat × List Char) := do
  let (ds, rest) ← digits? (skipSpace cs)
  let n := ds.foldl (fun n c => n * 10 + (c.toNat - 48)) 0
  if n < Nat.pow 2 64 then some (n, rest) else none

/-- The characters after one or more digits. -/
def skipDigits (cs : List Char) : Option (List Char) :=
  match cs with
  | c :: cs => if isDigit c then some (cs.dropWhile isDigit) else none
  | [] => none

/-- The characters after a number. -/
def skipNumber (cs : List Char) : Option (List Char) := do
  let cs := match cs with
    | '-' :: cs => cs
    | cs => cs
  let (_, cs) ← digits? cs
  let cs ← match cs with
    | '.' :: cs => skipDigits cs
    | cs => some cs
  match cs with
  | c :: cs =>
    if c == 'e' || c == 'E' then
      match cs with
      | '+' :: cs => skipDigits cs
      | '-' :: cs => skipDigits cs
      | cs => skipDigits cs
    else some (c :: cs)
  | [] => some []

/-! ## Strings -/

/-- Four hexadecimal digits. -/
def hexUnit? : List Char → Option (Nat × List Char)
  | a :: b :: c :: d :: cs => do
    let n := (((← hexDigit? a) * 16 + (← hexDigit? b)) * 16 + (← hexDigit? c)) * 16 +
      (← hexDigit? d)
    some (n, cs)
  | _ => none

/-- The character that a short escape stands for. -/
def shortEscape? : Char → Option Char
  | '"' => some '"'
  | '\\' => some '\\'
  | '/' => some '/'
  | 'b' => some '\x08'
  | 'f' => some '\x0c'
  | 'n' => some '\n'
  | 'r' => some '\r'
  | 't' => some '\t'
  | _ => none

/-- The character of an escape by number, after `\u`: one unit, or two that are halves of one. -/
def unitEscape? (cs : List Char) : Option (Char × List Char) := do
  let (n, cs) ← hexUnit? cs
  if n < 0xD800 || 0xDFFF < n then some (Char.ofNat n, cs)
  else if 0xDBFF < n then none
  else
    let cs ← expectWord "\\u" cs
    let (m, cs) ← hexUnit? cs
    if 0xDC00 ≤ m && m ≤ 0xDFFF then
      some (Char.ofNat (0x10000 + (n - 0xD800) * 0x400 + (m - 0xDC00)), cs)
    else none

/-- A string after its opening quote. -/
def string? : Nat → List Char → Option (List Char × List Char)
  | 0, _ => none
  | _ + 1, [] => none
  | bound + 1, c :: cs =>
    if c == '"' then some ([], cs)
    else if c == '\\' then
      match cs with
      | 'u' :: cs => do
        let (d, cs) ← unitEscape? cs
        let (ds, rest) ← string? bound cs
        some (d :: ds, rest)
      | e :: cs => do
        let d ← shortEscape? e
        let (ds, rest) ← string? bound cs
        some (d :: ds, rest)
      | [] => none
    else if c.toNat < 0x20 then none
    else do
      let (ds, rest) ← string? bound cs
      some (c :: ds, rest)

/-- The characters after a string whose opening quote is behind; halves of characters may stand
alone in it. -/
def skipString : Nat → List Char → Option (List Char)
  | 0, _ => none
  | _ + 1, [] => none
  | bound + 1, c :: cs =>
    if c == '"' then some cs
    else if c == '\\' then
      match cs with
      | 'u' :: cs => do
        let (_, cs) ← hexUnit? cs
        skipString bound cs
      | e :: cs => do
        discard (shortEscape? e)
        skipString bound cs
      | [] => none
    else if c.toNat < 0x20 then none
    else skipString bound cs

/-! ## Values that are not looked at -/

mutual

/-- The characters after a value. -/
def skipValue : Nat → List Char → Option (List Char)
  | 0, _ => none
  | bound + 1, cs =>
    match skipSpace cs with
    | 'n' :: cs => expectWord "ull" cs
    | 't' :: cs => expectWord "rue" cs
    | 'f' :: cs => expectWord "alse" cs
    | '"' :: cs => skipString (cs.length + 1) cs
    | '[' :: cs =>
      match skipSpace cs with
      | ']' :: cs => some cs
      | cs => skipElements bound cs
    | '\x7b' :: cs =>
      match skipSpace cs with
      | '\x7d' :: cs => some cs
      | cs => skipMembers bound cs
    | cs => skipNumber cs

/-- The characters after the elements of an array and its closing bracket. -/
def skipElements : Nat → List Char → Option (List Char)
  | 0, _ => none
  | bound + 1, cs => do
    let cs ← skipValue bound cs
    match skipSpace cs with
    | ',' :: cs => skipElements bound cs
    | cs => expect ']' cs

/-- The characters after the members of an object and its closing brace. -/
def skipMembers : Nat → List Char → Option (List Char)
  | 0, _ => none
  | bound + 1, cs => do
    let cs ← expect '"' (skipSpace cs)
    let cs ← skipString (cs.length + 1) cs
    let cs ← expect ':' (skipSpace cs)
    let cs ← skipValue bound cs
    match skipSpace cs with
    | ',' :: cs => skipMembers bound cs
    | cs => expect '\x7d' cs

end

/-! ## Settings -/

/-- The fields that have been read. -/
structure Fields where
  charWidth : Option Nat := none
  elementWidth : Option Nat := none

/-- The settings with defaults for the fields that are missing. -/
def Fields.settings (f : Fields) : Settings :=
  ⟨f.charWidth.getD ({} : Settings).charWidth, f.elementWidth.getD ({} : Settings).elementWidth⟩

/-- The value of the field with the given name, added to the fields. -/
def field? (f : Fields) (name : String) (cs : List Char) : Option (Fields × List Char) :=
  if name = "char-snippet-width" then
    match f.charWidth with
    | some _ => none
    | none => do
      let (n, cs) ← size? cs
      some ({ f with charWidth := some n }, cs)
  else if name = "element-snippet-width" then
    match f.elementWidth with
    | some _ => none
    | none => do
      let (n, cs) ← size? cs
      some ({ f with elementWidth := some n }, cs)
  else do
    let cs ← skipValue (2 * cs.length + 2) cs
    some (f, cs)

/-- The fields of an object up to its closing brace. -/
def fields? : Nat → Fields → List Char → Option (Fields × List Char)
  | 0, _, _ => none
  | bound + 1, f, cs => do
    let cs ← expect '"' (skipSpace cs)
    let (name, cs) ← string? (cs.length + 1) cs
    let cs ← expect ':' (skipSpace cs)
    let (f, cs) ← field? f (String.ofList name) cs
    match skipSpace cs with
    | ',' :: cs => fields? bound f cs
    | cs => do
      let cs ← expect '\x7d' cs
      some (f, cs)

/-- The widths of an array after its opening bracket, two at most. -/
def widths? (cs : List Char) : Option (Fields × List Char) := do
  match skipSpace cs with
  | ']' :: cs => some ({}, cs)
  | cs =>
    let (n, cs) ← size? cs
    match skipSpace cs with
    | ',' :: cs =>
      let (m, cs) ← size? cs
      let cs ← expect ']' (skipSpace cs)
      some (⟨some n, some m⟩, cs)
    | cs =>
      let cs ← expect ']' cs
      some (⟨some n, none⟩, cs)

end Reader

open Reader in
/-- The settings that a text writes. -/
def read? (text : String) : Option Settings := do
  let (fields, rest) ← match skipSpace text.toList with
    | '[' :: cs => widths? cs
    | '\x7b' :: cs =>
      match skipSpace cs with
      | '\x7d' :: cs => some ({}, cs)
      | cs => fields? (cs.length + 1) {} cs
    | _ => none
  if (skipSpace rest).isEmpty then some fields.settings else none

end Triparse.Settings
