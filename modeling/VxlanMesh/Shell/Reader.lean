/-
  VxlanMesh.Shell.Reader
  ────────────────────────────────
  **READING SCRIPTS.**

  The reader follows the grammar of the shell from the top:

      list       pipelines joined by `;`, `&`, line ends, `&&` and `||`
      command    a compound command, or a simple one
      word       pieces up to a character that ends words

  A script is read and run one line at a time, so a fault further down
  does not keep the lines before it from being run.  Every reader takes
  fuel; `fuelFor` is enough for a text, since between two characters only
  a few readers can begin.
-/
import VxlanMesh.Shell.Lexical
import VxlanMesh.Shell.Script

namespace VxlanMesh.Shell

/-! ## §1. Tokens. -/

/-- The words with a meaning of their own where a command begins. -/
def reservedWords : List String :=
  ["!", "\x7b", "\x7d", "case", "do", "done", "elif", "else", "esac", "fi", "for", "if", "in",
    "then", "until", "while"]

/-- The reserved words that end a list. -/
def listEnds : List String := ["\x7d", "do", "done", "elif", "else", "esac", "fi", "then"]

/-- The characters up to the end of a word without quotes. -/
def bareWord (cs : List Char) : String := String.ofList (cs.takeWhile (!endsWord ·))

/-- The characters without a word of that length. -/
def dropWord (word : String) (cs : List Char) : List Char := cs.drop word.length

/-- A text as faults show it. -/
def shown (s : String) : String := "\"" ++ s ++ "\""

/-- How faults call what comes next. -/
def tokenName (cs : List Char) : String :=
  match skipBlanks cs with
  | [] => "end of file"
  | '\n' :: _ => "newline"
  | ';' :: ';' :: _ => shown ";;"
  | '&' :: '&' :: _ => shown "&&"
  | '|' :: '|' :: _ => shown "||"
  | c :: rest =>
      if c = '<' || c = '>' then "redirection"
      else if endsWord c then shown (String.singleton c)
      else if reservedWords.contains (bareWord (c :: rest)) then shown (bareWord (c :: rest))
      else "word"

/-- Something else should come next. -/
def unexpected {α : Type} (cs : List Char) (expecting : Option String := none) :
    Except SyntaxFault α :=
  .error (.unexpected (tokenName cs) (expecting.map shown))

/-- A reserved word has to come next; the rest after it. -/
def expectWord (word : String) (cs : List Char) : Except SyntaxFault (List Char) :=
  let cs := skipLines cs
  if bareWord cs = word then .ok (dropWord word cs) else unexpected cs (some word)

/-- A closing parenthesis has to come next; the rest after it. -/
def expectClosing (cs : List Char) : Except SyntaxFault (List Char) :=
  match skipLines cs with
  | ')' :: rest => .ok rest
  | cs => unexpected cs (some ")")

/-- A list ends before these characters. -/
def atListEnd (cs : List Char) : Bool :=
  match cs with
  | [] | ')' :: _ | ';' :: ';' :: _ => true
  | _ => listEnds.contains (bareWord cs)

/-! ## §2. Words. -/

/-- Where a word stands: by itself, or as the alternative of a parameter, which may stand
between double quotes. -/
inductive Place where
  | free
  | braces (quoted : Bool)
  deriving Repr, DecidableEq

/-- Words end before the character at that place. -/
def Place.ends : Place → Char → Bool
  | free, c => endsWord c
  | braces _, c => c = '\x7d'

/-- What stands at that place is not split. -/
def Place.isQuoted : Place → Bool
  | free => false
  | braces quoted => quoted

/-- The characters that stand for themselves at that place. -/
def Place.isPlain (place : Place) (c : Char) : Bool :=
  !place.ends c && !(c = '"' || c = '\\' || c = '$' || c = backquote)
    && (place.isQuoted || c != '\'')

/-- A name, a digit or a special character that names a parameter, and the rest. -/
def parameterName? (braced : Bool) : List Char → Option (String × List Char)
  | [] => none
  | c :: cs =>
      if startsName c then
        some (String.ofList ((c :: cs).takeWhile continuesName), cs.dropWhile continuesName)
      else if Numeral.isDigit c && braced then
        some (String.ofList ((c :: cs).takeWhile Numeral.isDigit), cs.dropWhile Numeral.isDigit)
      else if Numeral.isDigit c || "?$#!@*-".toList.contains c then
        some (String.singleton c, cs)
      else none

/-- The character that asks for an alternative. -/
def alternativeOf? : Char → Option Alternative
  | '-' => some .default
  | '=' => some .assign
  | '+' => some .replace
  | '?' => some .complain
  | _ => none

/-- A redirection begins here: its descriptor and the characters from its sign on. -/
def redirectionAt? (cs : List Char) : Option (Nat × List Char) :=
  let (digits, rest) := cs.span Numeral.isDigit
  match rest with
  | '<' :: _ => some (if digits.isEmpty then 0 else Numeral.ofDigits digits, rest)
  | '>' :: _ => some (if digits.isEmpty then 1 else Numeral.ofDigits digits, rest)
  | _ => none

/-- An assignment begins here: its name and the characters of its value. -/
def assignmentAt? (cs : List Char) : Option (String × List Char) :=
  let (name, rest) := cs.span continuesName
  match rest with
  | '=' :: value => if isName name then some (String.ofList name, value) else none
  | _ => none

/-- The assignments, words and redirections of a simple command. -/
abbrev SimpleParts : Type :=
  List (String × List Piece) × List (List Piece) × List Redirection

/-! ## §3. The grammar. -/

mutual

/-- The pieces of a word. -/
def readWord : Nat → Place → List Char → Except SyntaxFault (List Piece × List Char)
  | 0, _, cs => unexpected cs
  | _, _, [] => .ok ([], [])
  | n + 1, place, c :: cs => do
      if place.ends c then return ([], c :: cs)
      let (first, rest) : List Piece × List Char ←
        if c = '\'' && !place.isQuoted then
          match singleQuoted cs with
          | none => .error .unterminatedQuote
          | some (run, rest) => .ok ([.literal run true], rest)
        else if c = '"' then readQuoted n cs
        else if c = '\\' then
          match cs with
          | [] => .ok ([.literal [c] false], [])
          -- A backslash at the end of a line joins it to the next one.
          | '\n' :: rest => .ok ([], rest)
          | d :: rest => .ok ([.literal [d] true], rest)
        else if c = '$' || c = backquote then do
          let (piece, rest) ← readExpansion n place.isQuoted (c :: cs)
          pure ([piece], rest)
        else
          let (run, rest) := (c :: cs).span place.isPlain
          .ok ([.literal run place.isQuoted], rest)
      let (more, rest) ← readWord n place rest
      return (first ++ more, rest)

/-- The pieces up to the closing double quote. -/
def readQuoted : Nat → List Char → Except SyntaxFault (List Piece × List Char)
  | 0, cs => unexpected cs
  | n + 1, cs => do
      let (run, rest) := quotedRun cs
      match rest with
      | [] => .error .unterminatedQuote
      | '"' :: rest => return ([.literal run true], rest)
      | rest => do
          let (piece, rest) ← readExpansion n true rest
          let (more, rest) ← readQuoted n rest
          return (.literal run true :: piece :: more, rest)

/-- The pieces of an arithmetic expression. -/
def readExpression : Nat → List Char → Except SyntaxFault (List Piece)
  | 0, cs => unexpected cs
  | n + 1, cs => do
      let (run, rest) := quotedRun cs
      match rest with
      | [] => return [.literal run true]
      | '"' :: rest => return .literal run true :: (← readExpression n rest)
      | rest => do
          let (piece, rest) ← readExpansion n true rest
          return .literal run true :: piece :: (← readExpression n rest)

/-- An expansion, which begins with a dollar or a backquote. -/
def readExpansion : Nat → Bool → List Char → Except SyntaxFault (Piece × List Char)
  | n + 1, quoted, '$' :: '(' :: '(' :: cs =>
      match arithmeticRun 0 cs with
      | none => .error .missingParentheses
      | some (run, rest) => do return (.arithmetic (← readExpression n run) quoted, rest)
  | n + 1, quoted, '$' :: '(' :: cs => do
      let (script, rest) ← readList n cs
      return (.output script quoted, ← expectClosing rest)
  | n + 1, quoted, '$' :: '\x7b' :: cs => readBraces n quoted cs
  | _ + 1, quoted, '$' :: cs =>
      match parameterName? false cs with
      | some (name, rest) => .ok (.parameter name quoted, rest)
      | none => .ok (.literal ['$'] quoted, cs)
  | n + 1, quoted, _ :: cs =>
      match backquoted quoted cs with
      | none => .error .unterminatedBackquote
      | some (run, rest) => do
          let (script, _) ← readList n run
          return (.output script quoted, rest)
  | _, _, cs => unexpected cs

/-- A parameter in braces. -/
def readBraces : Nat → Bool → List Char → Except SyntaxFault (Piece × List Char)
  | 0, _, cs => unexpected cs
  | n + 1, quoted, cs =>
      match cs, parameterName? true cs with
      | _, some (name, '\x7d' :: rest) => .ok (.parameter name quoted, rest)
      | '#' :: cs, _ =>
          match parameterName? true cs with
          | some (name, '\x7d' :: rest) => .ok (.size name quoted, rest)
          | _ => .error .badSubstitution
      | _, some (name, ':' :: c :: rest) => readAlternative n name c true quoted rest
      | _, some (name, c :: rest) => readAlternative n name c false quoted rest
      | _, some (_, []) => .error .missingBrace
      | _, _ => .error .badSubstitution

/-- The alternative of a parameter, after the character that asks for it. -/
def readAlternative : Nat → String → Char → Bool → Bool → List Char →
    Except SyntaxFault (Piece × List Char)
  | 0, _, _, _, _, cs => unexpected cs
  | n + 1, name, sign, orEmpty, quoted, cs =>
      match alternativeOf? sign with
      | none => .error .badSubstitution
      | some kind => do
          match ← readWord n (.braces quoted) cs with
          | (word, _ :: rest) => return (.alternative name kind orEmpty word quoted, rest)
          | (_, []) => .error .missingBrace

/-- A redirection, from its sign on. -/
def readRedirection : Nat → Nat → List Char → Except SyntaxFault (Redirection × List Char)
  | 0, _, cs => unexpected cs
  | n + 1, descriptor, cs => do
      let (build, rest) : (List Piece → Redirection) × List Char := match cs with
        | '>' :: '&' :: rest | '<' :: '&' :: rest => (.duplicate descriptor, rest)
        | '>' :: '>' :: rest | '>' :: '|' :: rest | '>' :: rest => (.toFile descriptor, rest)
        | _ => (.fromFile descriptor, cs.drop 1)
      match skipBlanks rest with
      | [] => unexpected []
      | c :: rest => do
          if endsWord c then unexpected (c :: rest)
          let (word, rest) ← readWord n .free (c :: rest)
          return (build word, rest)

/-- Redirections after a compound command. -/
def readRedirections : Nat → List Char → Except SyntaxFault (List Redirection × List Char)
  | 0, cs => unexpected cs
  | n + 1, cs =>
      match redirectionAt? (skipBlanks cs) with
      | none => .ok ([], cs)
      | some (descriptor, rest) => do
          let (first, rest) ← readRedirection n descriptor rest
          let (more, rest) ← readRedirections n rest
          return (first :: more, rest)

/-- Words up to the end of a command. -/
def readWords : Nat → List Char → Except SyntaxFault (List (List Piece) × List Char)
  | 0, cs => unexpected cs
  | n + 1, cs =>
      match skipBlanks cs with
      | [] => .ok ([], [])
      | c :: cs =>
          if endsWord c then .ok ([], c :: cs)
          else do
            let (word, rest) ← readWord n .free (c :: cs)
            let (more, rest) ← readWords n rest
            return (word :: more, rest)

/-- A simple command; `started` says that a word has been read. -/
def readSimple : Nat → Bool → List Char → Except SyntaxFault (SimpleParts × List Char)
  | 0, _, cs => unexpected cs
  | n + 1, started, cs =>
      let cs := skipBlanks cs
      match redirectionAt? cs, cs with
      | some (descriptor, rest), _ => do
          let (redirection, rest) ← readRedirection n descriptor rest
          let ((assignments, words, redirections), rest) ← readSimple n started rest
          return ((assignments, words, redirection :: redirections), rest)
      | none, [] => .ok (([], [], []), [])
      | none, '(' :: rest => unexpected ('(' :: rest)
      | none, c :: rest =>
          if endsWord c then .ok (([], [], []), c :: rest)
          else match (if started then none else assignmentAt? cs) with
            | some (name, value) => do
                let (word, rest) ← readWord n .free value
                let ((assignments, words, redirections), rest) ← readSimple n false rest
                return (((name, word) :: assignments, words, redirections), rest)
            | none => do
                let (word, rest) ← readWord n .free cs
                let ((assignments, words, redirections), rest) ← readSimple n true rest
                return ((assignments, word :: words, redirections), rest)

/-- A command. -/
def readCommand : Nat → List Char → Except SyntaxFault (Script × List Char)
  | 0, cs => unexpected cs
  | n + 1, cs => do
      let cs := skipBlanks cs
      match cs with
      | '(' :: rest =>
          let (body, rest) ← readList n rest
          let (redirections, rest) ← readRedirections n (← expectClosing rest)
          return (.redirected (.subshell body) redirections, rest)
      | _ =>
        let word := bareWord cs
        let rest := dropWord word cs
        if word = "\x7b" then
          let (body, rest) ← readList n rest
          let (redirections, rest) ← readRedirections n (← expectWord "\x7d" rest)
          return (.redirected body redirections, rest)
        else if word = "if" then
          let (body, rest) ← readConditional n rest
          let (redirections, rest) ← readRedirections n rest
          return (.redirected body redirections, rest)
        else if word = "while" || word = "until" then
          let (condition, rest) ← readList n rest
          let (body, rest) ← readBody n rest
          let (redirections, rest) ← readRedirections n rest
          return (.redirected (.loop (word = "while") condition body) redirections, rest)
        else if word = "for" then
          let (body, rest) ← readEach n rest
          let (redirections, rest) ← readRedirections n rest
          return (.redirected body redirections, rest)
        -- The other reserved words begin nothing.
        else if reservedWords.contains word then unexpected cs
        else if cs.isEmpty || (endsWord (cs.headD ' ') && (redirectionAt? cs).isNone) then
          unexpected cs
        else
          let ((assignments, words, redirections), rest) ← readSimple n false cs
          return (.simple assignments words redirections, rest)

/-- The parts of a conditional, after its first word. -/
def readConditional : Nat → List Char → Except SyntaxFault (Script × List Char)
  | 0, cs => unexpected cs
  | n + 1, cs => do
      let (condition, rest) ← readList n cs
      let (yes, rest) ← readList n (← expectWord "then" rest)
      let rest := skipLines rest
      if bareWord rest = "elif" then
        let (no, rest) ← readConditional n (dropWord "elif" rest)
        return (.conditional condition yes no, rest)
      else if bareWord rest = "else" then
        let (no, rest) ← readList n (dropWord "else" rest)
        return (.conditional condition yes no, ← expectWord "fi" rest)
      else return (.conditional condition yes .nothing, ← expectWord "fi" rest)

/-- The body of a loop. -/
def readBody : Nat → List Char → Except SyntaxFault (Script × List Char)
  | 0, cs => unexpected cs
  | n + 1, cs => do
      let (body, rest) ← readList n (← expectWord "do" cs)
      return (body, ← expectWord "done" rest)

/-- A loop over words, after its first word. -/
def readEach : Nat → List Char → Except SyntaxFault (Script × List Char)
  | 0, cs => unexpected cs
  | n + 1, cs => do
      let cs := skipBlanks cs
      let name := bareWord cs
      if !isName name.toList then .error .badLoopVariable
      let rest := skipBlanks (dropWord name cs)
      if bareWord rest = "in" then
        let (words, rest) ← readWords n (dropWord "in" rest)
        match rest with
        | ';' :: rest | '\n' :: rest =>
            let (body, rest) ← readBody n rest
            return (.each name words body, rest)
        | rest => unexpected rest
      else
        let rest := match rest with
          | ';' :: rest => rest
          | rest => rest
        let (body, rest) ← readBody n rest
        return (.each name [] body, rest)

/-- Commands joined by pipes, possibly negated. -/
def readPipeline : Nat → List Char → Except SyntaxFault (Script × List Char)
  | 0, cs => unexpected cs
  | n + 1, cs => do
      let cs := skipBlanks cs
      if bareWord cs = "!" then
        let (first, rest) ← readCommand n (dropWord "!" cs)
        let (body, rest) ← readPipes n first rest
        return (.negated body, rest)
      else
        let (first, rest) ← readCommand n cs
        readPipes n first rest

/-- The commands that read what a command prints. -/
def readPipes : Nat → Script → List Char → Except SyntaxFault (Script × List Char)
  | 0, _, cs => unexpected cs
  | n + 1, first, cs =>
      match skipBlanks cs with
      | '|' :: '|' :: rest => .ok (first, '|' :: '|' :: rest)
      | '|' :: rest => do
          let (second, rest) ← readCommand n (skipLines rest)
          readPipes n (.pipe first second) rest
      | rest => .ok (first, rest)

/-- Pipelines joined by `&&` and `||`. -/
def readChain : Nat → List Char → Except SyntaxFault (Script × List Char)
  | 0, cs => unexpected cs
  | n + 1, cs => do
      let (first, rest) ← readPipeline n cs
      readChainMore n first rest

/-- What follows the first pipelines of a chain. -/
def readChainMore : Nat → Script → List Char → Except SyntaxFault (Script × List Char)
  | 0, _, cs => unexpected cs
  | n + 1, first, cs =>
      match skipBlanks cs with
      | '&' :: '&' :: rest => do
          let (second, rest) ← readPipeline n (skipLines rest)
          readChainMore n (.both first second) rest
      | '|' :: '|' :: rest => do
          let (second, rest) ← readPipeline n (skipLines rest)
          readChainMore n (.either first second) rest
      | rest => .ok (first, rest)

/-- Chains joined by `;`, `&` and line ends. -/
def readList : Nat → List Char → Except SyntaxFault (Script × List Char)
  | 0, cs => unexpected cs
  | n + 1, cs => do
      let (first, rest) ← readChain n (skipLines cs)
      let (first, rest, more) : Script × List Char × Bool := match skipBlanks rest with
        | ';' :: ';' :: rest => (first, ';' :: ';' :: rest, false)
        | '&' :: rest => (.background first, rest, true)
        | ';' :: rest | '\n' :: rest => (first, rest, true)
        | rest => (first, rest, false)
      let rest := skipLines rest
      -- A separator may stand before the word that ends the list.
      if !more || atListEnd rest then return (first, rest)
      let (second, rest) ← readList n rest
      return (.sequence first second, rest)

end

/-- The chains of one line, and the lines after it. -/
def readLineChains : Nat → List Char → Except SyntaxFault (Script × List Char)
  | 0, cs => unexpected cs
  | n + 1, cs => do
      let (first, rest) ← readChain n cs
      let (first, rest) : Script × List Char ← match skipBlanks rest with
        | [] => return (first, [])
        | '\n' :: rest => return (first, '\n' :: rest)
        | ';' :: ';' :: rest => unexpected (';' :: ';' :: rest)
        | '&' :: rest => pure (.background first, rest)
        | ';' :: rest => pure (first, rest)
        | rest => unexpected rest
      match skipBlanks rest with
      | [] => return (first, [])
      | '\n' :: rest => return (first, '\n' :: rest)
      | rest =>
          let (second, rest) ← readLineChains n rest
          return (.sequence first second, rest)

/-- Fuel that is enough to read some characters. -/
def fuelFor (cs : List Char) : Nat := 16 * (cs.length + 1)

/-- The script on the first line that holds one, with what follows it; nothing at the end. -/
def readLine? (cs : List Char) : Option (Except SyntaxFault (Script × List Char)) :=
  match skipLines cs with
  | [] => none
  | cs => some (readLineChains (fuelFor cs) cs)

end VxlanMesh.Shell
