/-
Reading TOML texts.

A text is read as a whole: either every line follows the format, or there is no document.

* **`Toml.read?`** reads a text.
-/
import ClassOrigin.Toml.Text
import ClassOrigin.Toml.Tree

namespace ClassOrigin.Toml

/-- How deep values may lie in each other, and how many parts a key may have; one less than this
is allowed. -/
def deepest : Nat := 80

/-! ### Keys -/

/-- A character of a key without quotes. -/
def isBareKeyCharacter (c : Char) : Bool :=
  c.isAlphanum || c == '-' || c == '_'

/-- One part of a key. -/
def keyPart? (text : List Char) : Option (String × List Char) :=
  match text with
  | '"' :: _ | '\'' :: _ => lineText? text
  | _ =>
    match text.span isBareKeyCharacter with
    | ([], _) => none
    | (name, rest) => some (String.ofList name, rest)

/-- A key of at most `most` more parts up to the character behind it; `acc` holds the earlier
parts in reverse. -/
def keyParts? : Nat → List String → List Char → Option (List String × List Char)
  | 0, _, _ => none
  | most + 1, acc, text =>
    match keyPart? (text.dropWhile isBlank) with
    | none => none
    | some (part, rest) =>
      match rest.dropWhile isBlank with
      | '.' :: rest => keyParts? most (part :: acc) rest
      | rest => some (part :: acc, rest)

/-- A key as its last part, the parts before, and the text behind it. -/
def key? (text : List Char) : Option (String × List String × List Char) :=
  match keyParts? (deepest - 1) [] text with
  | some (last :: before, rest) => some (last, before.reverse, rest)
  | _ => none

/-! ### Values -/

/-- Drops a comment at the front. -/
def dropComment : List Char → List Char
  | '#' :: rest => rest.dropWhile isPlain
  | text => text

/-- Drops blanks, line breaks, and comments up to the ends of their lines; `inComment` tells that
the text starts within a comment. -/
def dropSpaceFrom (inComment : Bool) : List Char → List Char
  | [] => []
  | c :: rest =>
    if inComment then
      if isPlain c then dropSpaceFrom true rest
      else if c = '\n' then dropSpaceFrom false rest
      else c :: rest
    else if isBlank c ∨ c = '\n' then dropSpaceFrom false rest
    else if c = '#' then dropSpaceFrom true rest
    else c :: rest

/-- Drops blanks, line breaks and comments. -/
def dropSpace (text : List Char) : List Char :=
  dropSpaceFrom false text

mutual

/-- Reads a value that lies in `depth` others. -/
def value? (depth : Nat) : Nat → List Char → Option (Document × List Char)
  | 0, _ => none
  | fuel + 1, text =>
    match text with
    | '"' :: _ | '\'' :: _ => (text? text).map fun (content, rest) => (.text content, rest)
    | '[' :: rest =>
      if deepest ≤ depth + 1 then none
      else
        match dropSpace rest with
        | ']' :: rest => some (.list [] true, rest)
        | rest => items? (depth + 1) fuel [] rest
    | '{' :: rest =>
      if deepest ≤ depth + 1 then none
      else
        match rest.dropWhile isBlank with
        | '}' :: rest => some (.table [] true, rest)
        | rest => entries? (depth + 1) fuel [] rest
    | text =>
      let (word, rest) := spanWord text
      (scalar? word).map fun value => (value, rest)

/-- Reads the items of a list onto `acc`, which holds the earlier ones in reverse. -/
def items? (depth : Nat) : Nat → List Document → List Char → Option (Document × List Char)
  | 0, _, _ => none
  | fuel + 1, acc, text =>
    match value? depth fuel text with
    | none => none
    | some (item, rest) =>
      match dropSpace rest with
      | ']' :: rest => some (.list (item :: acc).reverse true, rest)
      | ',' :: rest =>
        match dropSpace rest with
        | ']' :: rest => some (.list (item :: acc).reverse true, rest)
        | rest => items? depth fuel (item :: acc) rest
      | _ => none

/-- Reads the entries of a table on one line into `acc`. -/
def entries? (depth : Nat) : Nat → Entries → List Char → Option (Document × List Char)
  | 0, _, _ => none
  | fuel + 1, acc, text =>
    match key? text with
    | some (key, path, '=' :: rest) =>
      match value? depth fuel (rest.dropWhile isBlank) with
      | none => none
      | some (value, rest) =>
        match acc.insert? path key value with
        | none => none
        | some acc =>
          match rest.dropWhile isBlank with
          | '}' :: rest => some (.table (documents acc) true, rest)
          | ',' :: rest => entries? depth fuel acc rest
          | _ => none
    | _ => none

end

/-! ### Lines -/

/-- What follows a line that has nothing more but a comment on it. -/
def afterLine? (text : List Char) : Option (List Char) :=
  match dropComment (text.dropWhile isBlank) with
  | [] => some []
  | '\n' :: rest => some rest
  | _ => none

/-- Reads one line that is not blank, in a document read so far. The text has at most `size`
characters. -/
def line? (size : Nat) (outline : Outline) (text : List Char) : Option (Outline × List Char) :=
  match text with
  | '[' :: '[' :: rest => do
    let (key, path, rest) ← key? rest
    match rest with
    | ']' :: ']' :: rest => some (← outline.openElement? path key, ← afterLine? rest)
    | _ => none
  | '[' :: rest => do
    let (key, path, rest) ← key? rest
    match rest with
    | ']' :: rest => some (← outline.openTable? path key, ← afterLine? rest)
    | _ => none
  | text => do
    let (key, path, rest) ← key? text
    match rest with
    | '=' :: rest =>
      let (value, rest) ← value? 0 (2 * size + 2) (rest.dropWhile isBlank)
      some (← outline.add? path key value, ← afterLine? rest)
    | _ => none

/-- Reads the lines of a text of at most `size` characters. -/
def outline? : Nat → Outline → List Char → Option Outline
  | size, outline, text =>
    match dropSpace text, size with
    | [], _ => some outline
    | _, 0 => none
    | text, size + 1 =>
      match line? (size + 1) outline text with
      | some (outline, rest) => outline? size outline rest
      | none => none

/-- Makes every line break a single line feed; `acc` holds the characters before in reverse. -/
def unifyBreaks (acc : List Char) : List Char → List Char
  | [] => acc.reverse
  | '\r' :: '\n' :: rest => unifyBreaks ('\n' :: acc) rest
  | c :: rest => unifyBreaks (c :: acc) rest

/-- Drops a mark of the byte order. -/
def dropMark : List Char → List Char
  | '\ufeff' :: rest => rest
  | text => text

/-- Reads a text. -/
def read? (text : String) : Option Document :=
  let chars := unifyBreaks [] (dropMark text.toList)
  (outline? chars.length Outline.empty chars).bind Outline.close?

end ClassOrigin.Toml
