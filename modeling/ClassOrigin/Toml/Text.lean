/-
Texts of TOML.

A text stands between double quotes, with escapes, or between single quotes, without. Three quotes
open and close a text over several lines; a line break right behind the opening ones does not
count, and up to two more quotes may stand before the closing ones. Between three double quotes a
backslash at the end of a line takes away all blanks and line breaks that follow.

Line breaks are single line feeds here.

* **`Toml.text?`** reads a text from the front, **`Toml.lineText?`** only one on a single line.
-/
import ClassOrigin.Toml.Scalar

namespace ClassOrigin.Toml

/-- A blank on a line. -/
def isBlank (c : Char) : Bool :=
  c == ' ' || c == '\t'

/-- A character that stands for itself in comments and texts. -/
def isPlain (c : Char) : Bool :=
  c == '\t' || (' ' ≤ c && c != '\x7f')

/-- The character with a given code point. -/
def scalarValue? (n : Nat) : Option Char :=
  if n.isValidChar then some (Char.ofNat n) else none

/-- The character whose code point is written in hexadecimal digits. -/
def codePoint? (digits : List Char) : Option Char :=
  if digits.all (isDigitIn 16) then scalarValue? (natural 16 digits) else none

/-- The character for which a letter or sign stands behind a backslash. -/
def letterEscape? (c : Char) : Option Char :=
  match c with
  | '"' => some '"'
  | '\\' => some '\\'
  | 'b' => some '\x08'
  | 'f' => some '\x0c'
  | 'n' => some '\n'
  | 'r' => some '\r'
  | 't' => some '\t'
  | _ => none

/-- The character that stands behind a backslash, with the text behind it. -/
def escaped? : List Char → Option (Char × List Char)
  | 'u' :: a :: b :: c :: d :: rest => (codePoint? [a, b, c, d]).map fun c => (c, rest)
  | 'U' :: a :: b :: c :: d :: e :: f :: g :: h :: rest =>
    (codePoint? [a, b, c, d, e, f, g, h]).map fun c => (c, rest)
  | c :: rest => (letterEscape? c).map fun c => (c, rest)
  | [] => none

theorem length_lt_of_escaped? {text rest : List Char} {c : Char}
    (h : escaped? text = some (c, rest)) : rest.length < text.length := by
  unfold escaped? at h
  split at h
  · simp only [Option.map_eq_some_iff, Prod.mk.injEq] at h
    obtain ⟨-, -, -, rfl⟩ := h
    simp only [List.length_cons]
    omega
  · simp only [Option.map_eq_some_iff, Prod.mk.injEq] at h
    obtain ⟨-, -, -, rfl⟩ := h
    simp only [List.length_cons]
    omega
  · simp only [Option.map_eq_some_iff, Prod.mk.injEq] at h
    obtain ⟨-, -, -, rfl⟩ := h
    exact Nat.lt_succ_self _
  · cases h

/-- A text with escapes up to its closing quote; `acc` holds the characters before in reverse. -/
def basic? (acc : List Char) (text : List Char) : Option (String × List Char) :=
  match text with
  | [] => none
  | c :: rest =>
    if c = '"' then some (String.ofList acc.reverse, rest)
    else if c = '\\' then
      match h : escaped? rest with
      | some (c, behind) =>
        have := length_lt_of_escaped? h
        basic? (c :: acc) behind
      | none => none
    else if isPlain c then basic? (c :: acc) rest
    else none
termination_by text.length

/-- A text without escapes up to its closing quote. -/
def literal? (text : List Char) : Option (String × List Char) :=
  match text.span fun c => c != '\'' with
  | (content, _ :: rest) =>
    if content.all isPlain then some (String.ofList content, rest) else none
  | (_, []) => none

/-- Whether nothing but blanks stands on the rest of a line. -/
def endsLine (text : List Char) : Bool :=
  (text.dropWhile isBlank).head? == some '\n'

/-- A text over several lines with the quotes that belong to it behind it; `acc` holds the
characters before in reverse. -/
def closed (quote : Char) (acc : List Char) (quotes : Nat) : String :=
  String.ofList (List.replicate quotes quote ++ acc).reverse

/-- A text over several lines up to its closing quotes; `acc` holds the characters before in
reverse, `quotes` counts the quotes right before, and `skipping` tells that blanks and line breaks
are taken away. -/
def lines? (quote : Char) (acc : List Char) (quotes : Nat) (skipping : Bool)
    (text : List Char) : Option (String × List Char) :=
  match text with
  | [] => if 3 ≤ quotes then some (closed quote acc (quotes - 3), []) else none
  | c :: rest =>
    if c = quote then
      if quotes = 4 then some (closed quote acc 2, rest)
      else lines? quote acc (quotes + 1) false rest
    else if 3 ≤ quotes then some (closed quote acc (quotes - 3), c :: rest)
    else
      let acc := List.replicate quotes quote ++ acc
      if skipping ∧ (isBlank c ∨ c = '\n') then lines? quote acc 0 true rest
      else if c = '\\' ∧ quote = '"' then
        if endsLine rest then lines? quote acc 0 true rest
        else
          match h : escaped? rest with
          | some (c, behind) =>
            have := length_lt_of_escaped? h
            lines? quote (c :: acc) 0 false behind
          | none => none
      else if isPlain c ∨ c = '\n' then lines? quote (c :: acc) 0 false rest
      else none
termination_by text.length

/-- Drops a line break at the front. -/
def dropBreak : List Char → List Char
  | '\n' :: rest => rest
  | text => text

/-- A text on one line. -/
def lineText? : List Char → Option (String × List Char)
  | '"' :: rest => basic? [] rest
  | '\'' :: rest => literal? rest
  | _ => none

/-- A text. -/
def text? : List Char → Option (String × List Char)
  | '"' :: '"' :: '"' :: rest => lines? '"' [] 0 false (dropBreak rest)
  | '\'' :: '\'' :: '\'' :: rest => lines? '\'' [] 0 false (dropBreak rest)
  | text => lineText? text

end ClassOrigin.Toml
