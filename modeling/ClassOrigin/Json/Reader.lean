/-
Reading JSON texts.

A text is read from its front as far as it follows the format. What comes behind the first
departure is not looked at; the value there is `unreadable` and everything around it incomplete.

* **`Json.read`** reads a text.
-/
import ClassOrigin.Json.Number

namespace ClassOrigin.Json

/-! ### Texts -/

/-- Whether a character may stand between the parts of a value. -/
def isBlank (c : Char) : Bool :=
  c == ' ' || c == '\n' || c == '\t' || c == '\r'

/-- The value of a hexadecimal digit. -/
def hexValue? (c : Char) : Option Nat :=
  if c.isDigit then some (c.toNat - '0'.toNat)
  else if 'a' ≤ c ∧ c ≤ 'f' then some (c.toNat - 'a'.toNat + 10)
  else if 'A' ≤ c ∧ c ≤ 'F' then some (c.toNat - 'A'.toNat + 10)
  else none

/-- The 16-bit unit written with four hexadecimal digits. -/
def unit? (a b c d : Char) : Option Nat := do
  some (((← hexValue? a) * 16 + (← hexValue? b)) * 256 + (← hexValue? c) * 16 + (← hexValue? d))

/-- The character for which a letter or sign stands behind a backslash. -/
def letterEscape? (c : Char) : Option Char :=
  match c with
  | '"' => some '"'
  | '\\' => some '\\'
  | '/' => some '/'
  | 'b' => some '\x08'
  | 'f' => some '\x0c'
  | 'n' => some '\n'
  | 'r' => some '\r'
  | 't' => some '\t'
  | _ => none

/-- The character of a high surrogate unit and the escaped low one that has to follow. -/
def lowSurrogate? (high : Nat) : List Char → Option (Char × List Char)
  | '\\' :: 'u' :: a :: b :: c :: d :: rest =>
    match unit? a b c d with
    | some low =>
      if 0xDC00 ≤ low ∧ low ≤ 0xDFFF then
        some (Char.ofNat (0x10000 + (high - 0xD800) * 0x400 + (low - 0xDC00)), rest)
      else none
    | none => none
  | _ => none

/-- The character behind a backslash and `u`. Surrogate units have to come in pairs. -/
def unicode? : List Char → Option (Char × List Char)
  | a :: b :: c :: d :: rest =>
    match unit? a b c d with
    | some unit =>
      if 0xDC00 ≤ unit ∧ unit ≤ 0xDFFF then none
      else if 0xD800 ≤ unit ∧ unit ≤ 0xDBFF then lowSurrogate? unit rest
      else some (Char.ofNat unit, rest)
    | none => none
  | _ => none

/-- The character that stands behind a backslash, with the text behind it. -/
def escaped? : List Char → Option (Char × List Char)
  | 'u' :: rest => unicode? rest
  | c :: rest => (letterEscape? c).map fun c => (c, rest)
  | [] => none

theorem length_lt_of_lowSurrogate? {high : Nat} {text rest : List Char} {c : Char}
    (h : lowSurrogate? high text = some (c, rest)) : rest.length < text.length := by
  unfold lowSurrogate? at h
  split at h
  · grind
  · cases h

theorem length_lt_of_unicode? {text rest : List Char} {c : Char}
    (h : unicode? text = some (c, rest)) : rest.length < text.length := by
  unfold unicode? at h
  split at h
  · have := @length_lt_of_lowSurrogate?
    grind
  · cases h

theorem length_lt_of_escaped? {text rest : List Char} {c : Char}
    (h : escaped? text = some (c, rest)) : rest.length < text.length := by
  unfold escaped? at h
  split at h
  · have := length_lt_of_unicode? h
    simp only [List.length_cons]
    omega
  · simp only [Option.map_eq_some_iff, Prod.mk.injEq] at h
    obtain ⟨-, -, -, rfl⟩ := h
    exact Nat.lt_succ_self _
  · cases h

/-- A text up to its closing quote; `acc` holds the characters before in reverse. -/
def body? (acc : List Char) (text : List Char) : Option (String × List Char) :=
  match text with
  | [] => none
  | c :: rest =>
    if c = '"' then some (String.ofList acc.reverse, rest)
    else if c = '\\' then
      match h : escaped? rest with
      | some (c, behind) =>
        have := length_lt_of_escaped? h
        body? (c :: acc) behind
      | none => none
    else if c < ' ' then none
    else body? (c :: acc) rest
termination_by text.length

/-! ### Values -/

/-- A word at the front of a text. -/
def afterWord? (word : String) (text : List Char) : Option (List Char) :=
  if word.toList.isPrefixOf text then some (text.drop word.length) else none

/-- A value with the text behind it, or with nothing where the text could not be followed. -/
abbrev Progress := Document × Option (List Char)

/-- A value in place of one that cannot be read. -/
def stuck : Progress :=
  (.unreadable, none)

/-- A value that is a single word. -/
def word (name : String) (value : Document) (text : List Char) : Progress :=
  match afterWord? name text with
  | some rest => (value, some rest)
  | none => stuck

/-- How deep lists and tables may lie in each other. -/
def deepest : Nat := 128

mutual

/-- Reads a value that lies in `depth` lists and tables. -/
def value (depth : Nat) : Nat → List Char → Progress
  | 0, _ => stuck
  | fuel + 1, text =>
    match text.dropWhile isBlank with
    | '"' :: rest =>
      match body? [] rest with
      | some (content, rest) => (.text content, some rest)
      | none => stuck
    | '[' :: rest =>
      if deepest ≤ depth then stuck
      else
        match rest.dropWhile isBlank with
        | ']' :: rest => (.list [] true, some rest)
        | rest => items (depth + 1) fuel [] rest
    | '{' :: rest =>
      if deepest ≤ depth then stuck
      else
        match rest.dropWhile isBlank with
        | '}' :: rest => (.table [] true, some rest)
        | rest => entries (depth + 1) fuel [] rest
    | 'n' :: rest => word "ull" .null rest
    | 't' :: rest => word "rue" (.boolean true) rest
    | 'f' :: rest => word "alse" (.boolean false) rest
    | text =>
      match number? text with
      | some (number, rest) => (number, some rest)
      | none => stuck

/-- Reads the items of a list onto `acc`, which holds the earlier ones in reverse. -/
def items (depth : Nat) : Nat → List Document → List Char → Progress
  | 0, acc, _ => (.list acc.reverse false, none)
  | fuel + 1, acc, text =>
    match value depth fuel text with
    | (item, none) => (.list (item :: acc).reverse false, none)
    | (item, some rest) =>
      match rest.dropWhile isBlank with
      | ',' :: rest => items depth fuel (item :: acc) rest
      | ']' :: rest => (.list (item :: acc).reverse true, some rest)
      | _ => (.list (item :: acc).reverse false, none)

/-- Reads the entries of a table onto `acc`, which holds the earlier ones in reverse. -/
def entries (depth : Nat) : Nat → List (String × Document) → List Char → Progress
  | 0, acc, _ => (.table acc.reverse false, none)
  | fuel + 1, acc, text =>
    match text.dropWhile isBlank with
    | '"' :: rest =>
      match body? [] rest with
      | none => (.table acc.reverse false, none)
      | some (key, rest) =>
        match rest.dropWhile isBlank with
        | ':' :: rest =>
          match value depth fuel rest with
          | (entry, none) => (.table ((key, entry) :: acc).reverse false, none)
          | (entry, some rest) =>
            match rest.dropWhile isBlank with
            | ',' :: rest => entries depth fuel ((key, entry) :: acc) rest
            | '}' :: rest => (.table ((key, entry) :: acc).reverse true, some rest)
            | _ => (.table ((key, entry) :: acc).reverse false, none)
        | _ => (.table ((key, .unreadable) :: acc).reverse false, none)
    | text =>
      match acc with
      | [] => (.misnamed (value depth fuel text).1, none)
      | acc => (.table acc.reverse false, none)

end

/-- A text as a document. -/
structure Reading where
  root : Document
  /-- Nothing but blanks stands behind the document. -/
  finished : Bool

/-- Reads a text. -/
def read (text : String) : Reading :=
  let chars := text.toList
  match value 0 (2 * chars.length + 2) chars with
  | (root, some rest) => ⟨root, rest.all isBlank⟩
  | (root, none) => ⟨root, false⟩

end ClassOrigin.Json
