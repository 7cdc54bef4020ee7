/-
Quoted texts, as messages and logs show them.

A quoted text stands between double quotes. A quote, a backslash, a tab, a line break, a carriage
return and NUL are written with a backslash and one character; any other character that leaves no
mark of its own is written as its code point, `\u` and small hexadecimal digits in braces.

* **`Quoted.quote`** writes a text in this form.
-/
import ClassOrigin.Text.Unseen

namespace ClassOrigin.Quoted

/-- The small hexadecimal digits of a number, without leading zeros. -/
def hexDigits (n : Nat) : String :=
  String.ofList (Nat.toDigits 16 n)

/-- How one character is written between quotes. -/
def escape (c : Char) : String :=
  if c = '"' then "\\\""
  else if c = '\\' then "\\\\"
  else if c = '\t' then "\\t"
  else if c = '\n' then "\\n"
  else if c = '\r' then "\\r"
  else if c = '\x00' then "\\0"
  else if Unseen.isUnseen c then "\\u\x7b" ++ hexDigits c.toNat ++ "\x7d"
  else c.toString

/-- A text between quotes. -/
def quote (text : String) : String :=
  "\"" ++ text.foldl (fun written c => written ++ escape c) "" ++ "\""

end ClassOrigin.Quoted
