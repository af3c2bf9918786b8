/-
  VxlanMesh.Toml.Text
  ────────────────────────────────
  **CHARACTERS, TEXTS AND KEYS OF A CONFIGURATION FILE.**

  A text stands in double quotes with escapes or in single quotes without,
  on one line or, between tripled quotes, on several.  Controls other than
  the tab may not stand anywhere; a line ends with a line feed, possibly
  after a carriage return.  A key is a bare word or a one-line text, and
  keys joined by dots make a path.
-/
import VxlanMesh.Numeral.Decimal

namespace VxlanMesh.Toml

open VxlanMesh.Numeral (readBase? isDigit)

/-! ## §1. Blanks, line ends and comments. -/

/-- A character that may stand between tokens of one line. -/
def isBlank (c : Char) : Bool := c = ' ' || c = '\t'

/-- Skip blanks. -/
def skipBlanks (cs : List Char) : List Char := cs.dropWhile isBlank

/-- A character that may stand in a comment or in a text. -/
def isPlain (c : Char) : Bool := c = '\t' || (c.toNat ≥ 0x20 && c.toNat ≠ 0x7F)

/-- Skip a line end. -/
def lineEnd? : List Char → Option (List Char)
  | '\n' :: rest => some rest
  | '\r' :: '\n' :: rest => some rest
  | _ => none

/-- Skip a comment, if there is one. -/
def skipComment : List Char → List Char
  | '#' :: rest => rest.dropWhile isPlain
  | cs => cs

/-- Skip blanks, a comment and the end of the line, or of the file. -/
def endOfLine? (cs : List Char) : Option (List Char) :=
  match skipComment (skipBlanks cs) with
  | [] => some []
  | rest => lineEnd? rest

/-- Skip blanks, comments and line ends, as they may stand between the items of an array;
at most so many lines. -/
def skipLines : Nat → List Char → List Char
  | 0, cs => cs
  | more + 1, cs =>
      match lineEnd? (skipComment (skipBlanks cs)) with
      | some rest => skipLines more rest
      | none => skipComment (skipBlanks cs)

/-! ## §2. Escapes. -/

/-- The character with a code, none for half of a surrogate pair or beyond the last. -/
def charOfCode? (code : Nat) : Option Char :=
  if code < 0xD800 || (0xE000 ≤ code && code ≤ 0x10FFFF) then some (Char.ofNat code) else none

/-- A code of so many hexadecimal digits. -/
def code? (digits : Nat) (cs : List Char) : Option (Char × List Char) :=
  if cs.length < digits then none
  else do
    let code ← readBase? 16 (cs.take digits)
    let c ← charOfCode? code
    pure (c, cs.drop digits)

/-- What follows a backslash. -/
def escape? : List Char → Option (Char × List Char)
  | 'b' :: rest => some ('\x08', rest)
  | 't' :: rest => some ('\t', rest)
  | 'n' :: rest => some ('\n', rest)
  | 'f' :: rest => some ('\x0c', rest)
  | 'r' :: rest => some ('\r', rest)
  | 'e' :: rest => some ('\x1b', rest)
  | '"' :: rest => some ('"', rest)
  | '\\' :: rest => some ('\\', rest)
  | 'x' :: rest => code? 2 rest
  | 'u' :: rest => code? 4 rest
  | 'U' :: rest => code? 8 rest
  | _ => none

/-! ## §3. Texts on one line. -/

/-- A text after its opening double quote. -/
def basic? : Nat → List Char → Option (List Char × List Char)
  | 0, _ => none
  | fuel + 1, cs =>
      match cs with
      | '"' :: rest => some ([], rest)
      | '\\' :: rest => do
          let (c, rest) ← escape? rest
          let (more, rest) ← basic? fuel rest
          pure (c :: more, rest)
      | c :: rest =>
          if isPlain c then (basic? fuel rest).map fun (more, rest) => (c :: more, rest)
          else none
      | [] => none

/-- A text after its opening single quote. -/
def literal? : List Char → Option (List Char × List Char)
  | [] => none
  | '\'' :: rest => some ([], rest)
  | c :: rest =>
      if isPlain c then (literal? rest).map fun (more, rest) => (c :: more, rest) else none

/-! ## §4. Texts on several lines. -/

/-- Quotes at the front: how many, and what follows them. -/
def spanQuotes (quote : Char) (cs : List Char) : Nat × List Char :=
  ((cs.takeWhile (· = quote)).length, cs.dropWhile (· = quote))

/-- Quotes inside a text on several lines: three to five of them end it, the first ones
belonging to the text.  The answer is the quotes of the text, whether it ends here, and
what follows. -/
def closing (quote : Char) (cs : List Char) : List Char × Bool × List Char :=
  let (count, rest) := spanQuotes quote cs
  if count < 3 then (List.replicate count quote, false, rest)
  else
    let used := min count 5
    (List.replicate (used - 3) quote, true, List.replicate (count - used) quote ++ rest)

/-- A backslash at the end of a line: it goes with all blanks and line ends after it. -/
def continuation? (cs : List Char) : Option (List Char) :=
  match lineEnd? (skipBlanks cs) with
  | none => none
  | some rest => some (skipAll rest.length rest)
where
  /-- Skip blanks and line ends. -/
  skipAll : Nat → List Char → List Char
    | 0, cs => cs
    | more + 1, cs =>
        match lineEnd? (skipBlanks cs) with
        | some rest => skipAll more rest
        | none => skipBlanks cs

/-- A text in tripled double quotes, after the opening ones. -/
def basicLines? : Nat → List Char → Option (List Char × List Char)
  | 0, _ => none
  | fuel + 1, cs =>
      match cs with
      | '"' :: _ =>
          match closing '"' cs with
          | (quotes, true, rest) => some (quotes, rest)
          | (quotes, false, rest) =>
              (basicLines? fuel rest).map fun (more, rest) => (quotes ++ more, rest)
      | '\\' :: rest =>
          match continuation? rest with
          | some rest => basicLines? fuel rest
          | none => do
              let (c, rest) ← escape? rest
              let (more, rest) ← basicLines? fuel rest
              pure (c :: more, rest)
      | '\n' :: rest => (basicLines? fuel rest).map fun (more, rest) => ('\n' :: more, rest)
      | '\r' :: '\n' :: rest =>
          (basicLines? fuel rest).map fun (more, rest) => ('\r' :: '\n' :: more, rest)
      | c :: rest =>
          if isPlain c then (basicLines? fuel rest).map fun (more, rest) => (c :: more, rest)
          else none
      | [] => none

/-- A text in tripled single quotes, after the opening ones. -/
def literalLines? : Nat → List Char → Option (List Char × List Char)
  | 0, _ => none
  | fuel + 1, cs =>
      match cs with
      | '\'' :: _ =>
          match closing '\'' cs with
          | (quotes, true, rest) => some (quotes, rest)
          | (quotes, false, rest) =>
              (literalLines? fuel rest).map fun (more, rest) => (quotes ++ more, rest)
      | '\n' :: rest => (literalLines? fuel rest).map fun (more, rest) => ('\n' :: more, rest)
      | '\r' :: '\n' :: rest =>
          (literalLines? fuel rest).map fun (more, rest) => ('\r' :: '\n' :: more, rest)
      | c :: rest =>
          if isPlain c then (literalLines? fuel rest).map fun (more, rest) => (c :: more, rest)
          else none
      | [] => none

/-- A line end right after the opening quotes does not belong to the text. -/
def dropFirstLineEnd (cs : List Char) : List Char := (lineEnd? cs).getD cs

/-! ## §5. Texts and keys. -/

/-- A text on one line. -/
def shortText? : List Char → Option (String × List Char)
  | '"' :: rest => (basic? (rest.length + 1) rest).map fun (s, rest) => (String.ofList s, rest)
  | '\'' :: rest => (literal? rest).map fun (s, rest) => (String.ofList s, rest)
  | _ => none

/-- A text on one line or on several. -/
def text? : List Char → Option (String × List Char)
  | '"' :: '"' :: '"' :: rest =>
      let rest := dropFirstLineEnd rest
      (basicLines? (rest.length + 1) rest).map fun (s, rest) => (String.ofList s, rest)
  | '\'' :: '\'' :: '\'' :: rest =>
      let rest := dropFirstLineEnd rest
      (literalLines? (rest.length + 1) rest).map fun (s, rest) => (String.ofList s, rest)
  | cs => shortText? cs

/-- A character of a bare key. -/
def isBare (c : Char) : Bool :=
  isDigit c || ('a' ≤ c && c ≤ 'z') || ('A' ≤ c && c ≤ 'Z') || c = '_' || c = '-'

/-- A key. -/
def key? (cs : List Char) : Option (String × List Char) :=
  match cs with
  | '"' :: _ | '\'' :: _ => shortText? cs
  | _ =>
      let word := cs.takeWhile isBare
      if word.isEmpty then none else some (String.ofList word, cs.dropWhile isBare)

/-- Keys joined by dots; blanks may stand around the dots. -/
def path? : Nat → List Char → Option (List String × List Char)
  | 0, _ => none
  | fuel + 1, cs => do
      let (key, rest) ← key? (skipBlanks cs)
      match skipBlanks rest with
      | '.' :: rest => do
          let (more, rest) ← path? fuel rest
          pure (key :: more, rest)
      | rest => pure ([key], rest)

end VxlanMesh.Toml
