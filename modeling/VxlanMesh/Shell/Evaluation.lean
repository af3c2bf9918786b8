/-
  VxlanMesh.Shell.Evaluation
  ────────────────────────────────
  **RUNNING SCRIPTS.**

  Words are expanded to fields first: values and outputs that stand
  outside double quotes are split at blanks.  Then redirections are made
  and the command named by the first field runs.

  The evaluator takes fuel, since a script need not end; a script that
  uses up its fuel is killed.
-/
import VxlanMesh.Shell.Builtin
import VxlanMesh.Shell.Reader

namespace VxlanMesh.Shell

/-! ## §1. Fields. -/

/-- A character of an expanded word, or a trace of quotes. -/
inductive Glyph where
  | char (c : Char)
  /-- A blank at which the word is split. -/
  | gap (c : Char)
  /-- Quotes stood here, so there is a field even if it is empty. -/
  | mark
  deriving Repr, DecidableEq

/-- The glyphs of a value. -/
def glyphs (quoted : Bool) (value : List Char) : List Glyph :=
  if quoted then .mark :: value.map .char
  else value.map fun c => if c = ' ' || c = '\t' || c = '\n' then .gap c else .char c

/-- The characters of glyphs that are not split. -/
def unsplit (gs : List Glyph) : List Char :=
  gs.filterMap fun
    | .char c | .gap c => some c
    | .mark => none

/-- The fields of glyphs, with the field that has been begun, if one has, the last character
first. -/
def splitFields : Option (List Char) → List Glyph → List (List Char)
  | none, [] => []
  | some begun, [] => [begun.reverse]
  | begun, .char c :: gs => splitFields (some (c :: begun.getD [])) gs
  | begun, .mark :: gs => splitFields (some (begun.getD [])) gs
  | none, .gap _ :: gs => splitFields none gs
  | some begun, .gap _ :: gs => begun.reverse :: splitFields none gs

/-- The value of a parameter. -/
def ShellState.parameter? (name : String) (s : ShellState) : Option (List Char) :=
  match name with
  | "?" => some (toString s.status).toList
  | "$" => some shellProcess
  | "#" => some ['0']
  | "0" => some shellName.toList
  | "-" => some []
  | _ => Entries.get? name s.bindings

/-- Text without the line feeds at its end. -/
def withoutFinalLines (cs : List Char) : List Char :=
  (cs.reverse.dropWhile (· = '\n')).reverse

/-! ## §2. Evaluation. -/

mutual

/-- The glyphs that a word expands to. -/
def expandWord : Nat → List Piece → Action (List Glyph)
  | 0, _ => throw (.killed 9)
  | _, [] => pure []
  | n + 1, piece :: pieces => do
      let first ← expandPiece n piece
      return first ++ (← expandWord n pieces)

/-- The glyphs that a piece expands to. -/
def expandPiece : Nat → Piece → Action (List Glyph)
  | 0, _ => throw (.killed 9)
  | _, .literal chars quoted =>
      pure (if quoted then glyphs true chars else chars.map .char)
  | _, .parameter name quoted => do
      let value := (← get).parameter? name
      return if name = "@" then [] else glyphs quoted (value.getD [])
  | _, .size name quoted => do
      return glyphs quoted (toString ((← get).parameter? name |>.getD []).length).toList
  | n + 1, .alternative name kind orEmpty word quoted => do
      let value := ((← get).parameter? name).filter fun value => !(orEmpty && value.isEmpty)
      match kind, value with
      | .replace, some _ => expandWord n word
      | .replace, none => return glyphs quoted []
      | _, some value => return glyphs quoted value
      | .default, none => expandWord n word
      | .assign, none => do
          let value := unsplit (← expandWord n word)
          modify fun s => { s with bindings := Entries.insert name value s.bindings }
          return glyphs quoted value
      | .complain, none => do
          let text := unsplit (← expandWord n word)
          giveUp (name ++ ": " ++
            if !text.isEmpty then String.ofList text
            else if orEmpty then "parameter not set or null" else "parameter not set")
  | n + 1, .arithmetic expression quoted => do
      let text := unsplit (← expandWord n expression)
      let bindings := (← get).bindings
      match Arithmetic.read text >>= Arithmetic.eval bindings with
      | .ok (value, bindings) => do
          modify ({ · with bindings })
          return glyphs quoted (integerText value)
      | .error fault => giveUp (fault.message (String.ofList text))
  | n + 1, .output script quoted => do
      let before := (← get).status
      let text ← captured (inCopy (run n script))
      -- A script in a word does not change the status that later words see.
      modify fun s => { s with status := before, outputStatus := s.status }
      return glyphs quoted (withoutFinalLines text)

/-- The fields that words expand to. -/
def expandWords : Nat → List (List Piece) → Action (List (List Char))
  | 0, _ => throw (.killed 9)
  | _, [] => pure []
  | n + 1, word :: words => do
      let fields := splitFields none (← expandWord n word)
      return fields ++ (← expandWords n words)

/-- Make the assignments of a command. -/
def assign : Nat → List (String × List Piece) → Action Unit
  | 0, _ => throw (.killed 9)
  | _, [] => pure ()
  | n + 1, (name, word) :: more => do
      let value := unsplit (← expandWord n word)
      modify fun s => { s with bindings := Entries.insert name value s.bindings }
      assign n more

/-- Make a redirection; the answer says whether that could be done. -/
def redirect : Nat → Redirection → Action Bool
  | 0, _ => throw (.killed 9)
  | n + 1, .toFile descriptor target => do
      let name := String.ofList (unsplit (← expandWord n target))
      let descriptors := (← get).descriptors
      let place? : Option (Option Nat) := match name with
        | "/dev/null" => some none
        | "/dev/stdout" => descriptors.lookup 1
        | "/dev/stderr" => descriptors.lookup 2
        | _ => none
      match place? with
      | some place => do
          modify (·.redirect descriptor place)
          return true
      | none => do
          complain ("cannot create " ++ name ++ ": Directory nonexistent")
          return false
  | n + 1, .fromFile _ source => do
      let name := String.ofList (unsplit (← expandWord n source))
      if name = "/dev/null" then
        modify ({ · with input := [] })
        return true
      else
        complain ("cannot open " ++ name ++ ": No such file")
        return false
  | n + 1, .duplicate descriptor other => do
      let name := unsplit (← expandWord n other)
      if name = ['-'] then
        modify (·.redirect descriptor none)
        return true
      else match Numeral.readBase? 10 name with
        | none => giveUp "Syntax error: Bad fd number"
        | some 0 => return true
        | some number =>
            match (← get).descriptors.lookup number with
            | some place => do
                modify (·.redirect descriptor place)
                return true
            | none => do
                complain (String.ofList name ++ ": Bad file descriptor")
                return false

/-- Make redirections as long as that can be done. -/
def redirectAll : Nat → List Redirection → Action Bool
  | 0, _ => throw (.killed 9)
  | _, [] => pure true
  | n + 1, redirection :: more => do
      if ← redirect n redirection then redirectAll n more else return false

/-- Run an action with redirections; afterwards they are undone. -/
def withRedirections : Nat → List Redirection → Action Unit → Action Unit
  | 0, _, _ => throw (.killed 9)
  | n + 1, redirections, action => do
      let before := (← get).descriptors
      -- Redirections are undone also when the shell departs.
      let departure ← departureOf do
        if ← redirectAll n redirections then action else setStatus 2
      modify ({ · with descriptors := before })
      match departure with
      | some departure => throw departure
      | none => pure ()

/-- Run a simple command. -/
def runSimple : Nat → List (String × List Piece) → List (List Piece) → List Redirection →
    Action Unit
  | 0, _, _, _ => throw (.killed 9)
  | n + 1, assignments, words, redirections => do
      modify ({ · with outputStatus := 0 })
      match ← expandWords n words with
      -- Without a command the assignments stay, and the status is that of the last script
      -- in a word.
      | [] => withRedirections n redirections do
          assign n assignments
          modify fun s => { s with status := s.outputStatus }
      | name :: arguments => withRedirections n redirections do
          -- Assignments before a command last as long as it runs.
          let before := (← get).bindings
          assign n assignments
          if name = "eval".toList then
            setStatus 0
            runText n ([' '].intercalate arguments)
          else
            setStatus (← runNamed (String.ofList name) arguments)
          if !assignments.isEmpty then modify ({ · with bindings := before })

/-- Run a loop; `status` is that of its last round. -/
def runLoop : Nat → Bool → Script → Script → Nat → Action Unit
  | 0, _, _, _, _ => throw (.killed 9)
  | n + 1, goal, condition, body, status => do
      let departure ← departureOf (run n condition)
      match departure with
      | some (.leaveLoop 1) => setStatus 0
      | some (.leaveLoop levels) => throw (.leaveLoop (levels - 1))
      | some departure => throw departure
      | none =>
          -- The status of the condition is not that of the loop.
          if ((← get).status == 0) != goal then setStatus status
          else
            match ← departureOf (run n body) with
            | some (.leaveLoop 1) => setStatus 0
            | some (.leaveLoop levels) => throw (.leaveLoop (levels - 1))
            | some (.nextRound 1) => runLoop n goal condition body 0
            | some (.nextRound levels) => throw (.nextRound (levels - 1))
            | some departure => throw departure
            | none => runLoop n goal condition body (← get).status

/-- Run a script for each field. -/
def runEach : Nat → String → List (List Char) → Script → Action Unit
  | 0, _, _, _ => throw (.killed 9)
  | _, _, [], _ => pure ()
  | n + 1, name, value :: values, body => do
      modify fun s => { s with bindings := Entries.insert name value s.bindings }
      match ← departureOf (run n body) with
      | some (.leaveLoop 1) => setStatus 0
      | some (.leaveLoop levels) => throw (.leaveLoop (levels - 1))
      | some (.nextRound 1) => do
          setStatus 0
          runEach n name values body
      | some (.nextRound levels) => throw (.nextRound (levels - 1))
      | some departure => throw departure
      | none => runEach n name values body

/-- Run a script. -/
def run : Nat → Script → Action Unit
  | 0, _ => throw (.killed 9)
  | _, .nothing => setStatus 0
  | n + 1, .simple assignments words redirections => runSimple n assignments words redirections
  | n + 1, .sequence first second => do
      run n first
      run n second
  | n + 1, .both first second => do
      run n first
      if (← get).status == 0 then run n second
  | n + 1, .either first second => do
      run n first
      if (← get).status != 0 then run n second
  | n + 1, .negated body => do
      run n body
      setStatus (if (← get).status == 0 then 1 else 0)
  | n + 1, .pipe first second => do
      -- Both sides run in copies, so nothing that they assign is seen afterwards.
      let text ← captured (inCopy (run n first))
      let before := (← get).input
      modify ({ · with input := text })
      inCopy (run n second)
      modify ({ · with input := before })
  | n + 1, .conditional condition yes no => do
      run n condition
      if (← get).status == 0 then run n yes else run n no
  | n + 1, .loop goal condition body =>
      withinLoop (runLoop n goal condition body 0)
  | n + 1, .each name words body => do
      let values ← expandWords n words
      setStatus 0
      withinLoop (runEach n name values body)
  | n + 1, .subshell body => inCopy (run n body)
  | n + 1, .background body => do
      inCopy (run n body)
      setStatus 0
  | n + 1, .redirected body redirections => withRedirections n redirections (run n body)

/-- Run a text line by line. -/
def runText : Nat → List Char → Action Unit
  | 0, _ => throw (.killed 9)
  | n + 1, cs => do
      match readLine? cs with
      | none => pure ()
      | some (.error fault) => giveUp fault.message
      | some (.ok (script, rest)) => do
          let begun := skipLines cs
          modify fun s => { s with line := s.line + (cs.count '\n' - begun.count '\n') }
          run n script
          modify fun s => { s with line := s.line + (begun.count '\n' - rest.count '\n') }
          runText n rest

end

end VxlanMesh.Shell
