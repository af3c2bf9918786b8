/-
  VxlanMesh.Text.Escaped
  ────────────────────────────────
  **TEXTS SHOWN IN QUOTES.**

  A text is shown between double quotes; a quote, a backslash and the
  usual controls get a backslash, and any other hidden character is
  written as its code point.  A list of texts is shown in brackets.
-/
import VxlanMesh.Text.Printable

namespace VxlanMesh.Text

/-- How one character is shown between quotes. -/
def showChar (c : Char) : String :=
  if c = '"' then "\\\""
  else if c = '\\' then "\\\\"
  else if c = '\n' then "\\n"
  else if c = '\r' then "\\r"
  else if c = '\t' then "\\t"
  else if c.toNat = 0 then "\\0"
  else if isPrintable c then c.toString
  else "\\u\x7b" ++ String.ofList (Nat.toDigits 16 c.toNat) ++ "\x7d"

/-- A text between quotes. -/
def showText (s : String) : String :=
  "\"" ++ String.join (s.toList.map showChar) ++ "\""

/-- A list of texts in brackets. -/
def showTexts (texts : List String) : String :=
  "[" ++ ", ".intercalate (texts.map showText) ++ "]"

end VxlanMesh.Text
