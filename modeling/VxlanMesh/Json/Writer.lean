/-
  VxlanMesh.Json.Writer
  ────────────────────────────────
  **WRITING JSON TEXT.**

      compact   everything on one line, without blanks
      pretty    an item a line, two spaces for each level

  A text escapes the quote, the backslash and the controls below the
  space, and nothing else.  A double is written with the fewest digits
  that read back: positionally from `1e-5` up to below `1e16`, otherwise
  with an exponent and its sign.
-/
import VxlanMesh.Json.Value
import VxlanMesh.Numeral.Decimal
import VxlanMesh.Numeral.Shortest

namespace VxlanMesh.Json

open VxlanMesh.Numeral (Binary64)

/-! ## §1. Texts. -/

/-- A character inside a text. -/
def escapeChar (c : Char) : List Char :=
  if c = '"' then ['\\', '"']
  else if c = '\\' then ['\\', '\\']
  else if c = '\x08' then ['\\', 'b']
  else if c = '\x0c' then ['\\', 'f']
  else if c = '\n' then ['\\', 'n']
  else if c = '\r' then ['\\', 'r']
  else if c = '\t' then ['\\', 't']
  else if c.toNat < 0x10 then ['\\', 'u', '0', '0', '0'] ++ Nat.toDigits 16 c.toNat
  else if c.toNat < 0x20 then ['\\', 'u', '0', '0'] ++ Nat.toDigits 16 c.toNat
  else [c]

/-- A text in quotes. -/
def textChars (s : String) : List Char :=
  '"' :: (s.toList.flatMap escapeChar ++ ['"'])

/-! ## §2. Numbers. -/

/-- A positive double from its shortest digits and their exponent. -/
def doubleChars (digits : List Char) (k : Int) : List Char :=
  let count := digits.length
  let point : Int := count + k
  if 0 ≤ k ∧ point ≤ 16 then digits ++ List.replicate k.toNat '0' ++ ['.', '0']
  else if 0 < point ∧ point ≤ 16 then
    digits.take point.toNat ++ '.' :: digits.drop point.toNat
  else if -5 < point ∧ point ≤ 0 then
    '0' :: '.' :: (List.replicate (-point).toNat '0' ++ digits)
  else
    let exponent := point - 1
    let sign := if exponent < 0 then '-' else '+'
    let mantissa := match digits with
      | [d] => [d]
      | d :: more => d :: '.' :: more
      | [] => []
    mantissa ++ 'e' :: sign :: Nat.toDigits 10 exponent.natAbs

/-- A number. -/
def numberChars : Number → List Char
  | .integer n => (toString n).toList
  | .double x =>
      let magnitude :=
        if x.isZero then ['0', '.', '0']
        else let (n, k) := x.shortest; doubleChars (Nat.toDigits 10 n) k
      if x.negative then '-' :: magnitude else magnitude

/-! ## §3. On one line. -/

mutual

/-- A value on one line. -/
def compactChars : Json → List Char
  | .null => ['n', 'u', 'l', 'l']
  | .bool true => ['t', 'r', 'u', 'e']
  | .bool false => ['f', 'a', 'l', 's', 'e']
  | .number n => numberChars n
  | .string s => textChars s
  | .array items => '[' :: compactItems items
  | .object members => '\x7b' :: compactMembers members

/-- The items of an array and the closing bracket. -/
def compactItems : List Json → List Char
  | [] => [']']
  | item :: rest =>
      compactChars item ++ (match rest with
        | [] => [']']
        | _ :: _ => ',' :: compactItems rest)

/-- The members of an object and the closing brace. -/
def compactMembers : List (String × Json) → List Char
  | [] => ['\x7d']
  | (key, item) :: rest =>
      textChars key ++ ':' :: (compactChars item ++ (match rest with
        | [] => ['\x7d']
        | _ :: _ => ',' :: compactMembers rest))

end

/-- A value on one line. -/
def compact (v : Json) : String := String.ofList v.compactChars

/-! ## §4. An item a line. -/

/-- The start of a line at some level. -/
def newLine (level : Nat) : List Char := '\n' :: List.replicate (2 * level) ' '

mutual

/-- A value at some level. -/
def prettyChars (level : Nat) : Json → List Char
  | .array [] => ['[', ']']
  | .array items => '[' :: prettyItems (level + 1) items
  | .object [] => ['\x7b', '\x7d']
  | .object members => '\x7b' :: prettyMembers (level + 1) members
  | .null => ['n', 'u', 'l', 'l']
  | .bool true => ['t', 'r', 'u', 'e']
  | .bool false => ['f', 'a', 'l', 's', 'e']
  | .number n => numberChars n
  | .string s => textChars s

/-- The items of an array, each on its line, and the closing bracket. -/
def prettyItems (level : Nat) : List Json → List Char
  | [] => newLine (level - 1) ++ [']']
  | item :: rest =>
      newLine level ++ prettyChars level item ++ (match rest with
        | [] => newLine (level - 1) ++ [']']
        | _ :: _ => ',' :: prettyItems level rest)

/-- The members of an object, each on its line, and the closing brace. -/
def prettyMembers (level : Nat) : List (String × Json) → List Char
  | [] => newLine (level - 1) ++ ['\x7d']
  | (key, item) :: rest =>
      newLine level ++ textChars key ++ ':' :: ' ' :: (prettyChars level item ++ (match rest with
        | [] => newLine (level - 1) ++ ['\x7d']
        | _ :: _ => ',' :: prettyMembers level rest))

end

/-- A value with an item a line. -/
def pretty (v : Json) : String := String.ofList (v.prettyChars 0)

end VxlanMesh.Json
