/-
  VxlanMesh.Shell.Builtin
  ────────────────────────────────
  **COMMANDS THAT THE SHELL KNOWS.**

  A command takes its arguments and gives its status, after it has printed
  and perhaps departed.  A command that is not known is not found, and the
  status says so.
-/
import VxlanMesh.Shell.Condition
import VxlanMesh.Shell.Format
import VxlanMesh.Shell.State

namespace VxlanMesh.Shell

/-! ## §1. Printing and asking. -/

/-- Print by a format. -/
def runFormat : List (List Char) → Action Nat
  | [] => do
      complain "printf: usage: printf format [arg ...]"
      return 2
  | ['-', '-'] :: format :: arguments | format :: arguments => do
      let (text, complaints, status) := formatted format arguments
      write 1 text
      complaints.forM fun text => complain ("printf: " ++ text)
      return status

/-- Decide a condition. -/
def runCondition (name : String) (arguments : List (List Char)) : Action Nat := do
  match condition arguments with
  | .ok holds => return if holds then 0 else 1
  | .error fault => do
      complain (name ++ ": " ++ fault.message)
      return 2

/-- Decide a condition in brackets. -/
def runBrackets (arguments : List (List Char)) : Action Nat :=
  if arguments.getLast? = some [']'] then runCondition "[" arguments.dropLast
  else do
    complain "[: missing ]"
    return 2

/-! ## §2. Leaving. -/

/-- The largest number that a status or a count of loops may be given as. -/
def largestArgument : Nat := Numeral.largestOfBits 31

/-- A decimal number as an argument. -/
def naturalArgument? (argument : List Char) : Option Nat :=
  (Numeral.readBase? 10 argument).filter (· ≤ largestArgument)

/-- Exit with a status, or with that of the last command. -/
def runExit (arguments : List (List Char)) : Action Nat := do
  match arguments with
  | [] => throw (.exit (← get).status)
  | argument :: _ =>
      match naturalArgument? argument with
      | some status => throw (.exit (status % 256))
      | none => giveUp ("exit: Illegal number: " ++ String.ofList argument)

/-- Leave loops, as far as there are loops. -/
def runLeave (name : String) (departure : Nat → Departure) (arguments : List (List Char)) :
    Action Nat := do
  let loops := (← get).loops
  match ((arguments.head?.map naturalArgument?).getD (some 1)).filter (· ≠ 0) with
  | some levels => if loops = 0 then return 0 else throw (departure (min levels loops))
  | none =>
      giveUp (name ++ ": Illegal number: " ++ String.ofList (arguments.headD []))

/-! ## §3. Signals. -/

/-- The signals by name, the first of which is number one. -/
def signalNames : List String :=
  ["HUP", "INT", "QUIT", "ILL", "TRAP", "ABRT", "BUS", "FPE", "KILL", "USR1", "SEGV", "USR2",
    "PIPE", "ALRM", "TERM", "STKFLT", "CHLD", "CONT", "STOP", "TSTP", "TTIN", "TTOU", "URG",
    "XCPU", "XFSZ", "VTALRM", "PROF", "WINCH", "POLL", "PWR", "SYS"]

/-- The number of a signal given by name or number. -/
def signal? (text : List Char) : Option Nat :=
  match (Numeral.readBase? 10 text).filter (· ≤ 64) with
  | some n => some n
  | none =>
      (signalNames.findIdx? (· = String.ofList (text.map Char.toUpper))).map (· + 1)

/-- The signals that a process ignores if it does not say otherwise. -/
def ignoredSignals : List Nat := [0, 17, 18, 23, 28]

/-- The process number of the shell. -/
def shellProcess : List Char := "1000".toList

/-- Send a signal to the shell. -/
def sendSignal (signal : Nat) (targets : List (List Char)) : Action Nat := do
  match targets with
  | [] => do
      complain ("kill: Usage: kill [-s sigspec | -signum | -sigspec] [pid | job]... or\n"
        ++ "kill -l [exitstatus]")
      return 2
  | target :: _ =>
      if target = shellProcess then
        -- The shell has no handlers, so a signal is ignored or ends it.
        if ignoredSignals.contains signal then return 0 else throw (.killed signal)
      else if (naturalArgument? target).isSome then do
        complain "kill: No such process\n"
        return 1
      else do
        complain ("kill: Illegal number: " ++ String.ofList target)
        return 2

/-- Send a signal, by default the one that asks to terminate. -/
def runKill : List (List Char) → Action Nat
  | ['-', 's'] :: name :: targets =>
      match signal? name with
      | some signal => sendSignal signal targets
      | none => do
          complain ("kill: invalid signal number or name: " ++ String.ofList name)
          return 2
  | ('-' :: c :: name) :: targets =>
      match signal? (c :: name) with
      | some signal => sendSignal signal targets
      | none => do
          complain ("kill: Illegal option -" ++ String.singleton c)
          return 2
  | targets => sendSignal 15 targets

/-! ## §4. Variables and input. -/

/-- Forget variables. -/
def runUnset (arguments : List (List Char)) : Action Nat := do
  modify fun s =>
    { s with bindings :=
        arguments.foldl (fun vs name => Entries.erase (String.ofList name) vs) s.bindings }
  return 0

/-- Set the variables among the arguments that have a value. -/
def runExport (arguments : List (List Char)) : Action Nat := do
  let assign (bindings : List (String × List Char)) (argument : List Char) :=
    match argument.span (· ≠ '=') with
    | (name, _ :: value) => Entries.insert (String.ofList name) value bindings
    | _ => bindings
  modify fun s => { s with bindings := arguments.foldl assign s.bindings }
  return 0

/-- Print a file, or what is left to read. -/
def printFile (name : List Char) : Action Nat := do
  if name = ['-'] then
    let s ← get
    set { s with input := [] }
    write 1 s.input
    return 0
  else if name = "/dev/null".toList then return 0
  else
    write 2 ("cat: " ++ String.ofList name ++ ": No such file or directory\n").toList
    return 1

/-- Print files, or what is left to read. -/
def runPrintFiles (arguments : List (List Char)) : Action Nat := do
  let names := if arguments.isEmpty then [['-']] else arguments
  names.foldlM (fun status name => do return max status (← printFile name)) 0

/-- The integers from one to another by steps; `n` bounds how many. -/
def integersBy (step last : Int) : Nat → Int → List Int
  | 0, _ => []
  | n + 1, first =>
      if (0 < step && first ≤ last) || (step < 0 && last ≤ first)
      then first :: integersBy step last n (first + step) else []

/-- Print integers on lines of their own. -/
def runIntegers (arguments : List (List Char)) : Action Nat := do
  let print (first step last : Int) : Action Nat := do
    let all := integersBy step last ((last - first).natAbs + 1) first
    write 1 (all.flatMap fun n => integerText n ++ ['\n'])
    return 0
  match arguments.map fun argument => (integer? argument).map (·.1) with
  | [some last] => print 1 1 last
  | [some first, some last] => print first 1 last
  | [some first, some step, some last] => print first step last
  | _ => return 1

/-! ## §5. All commands. -/

/-- The command of a name. -/
def builtin? (name : String) (arguments : List (List Char)) : Option (Action Nat) :=
  match name with
  | ":" | "true" | "sleep" | "wait" => some (pure 0)
  | "false" => some (pure 1)
  | "echo" => some do
      write 1 (echoed arguments)
      return 0
  | "printf" => some (runFormat arguments)
  | "test" => some (runCondition "test" arguments)
  | "[" => some (runBrackets arguments)
  | "exit" => some (runExit arguments)
  | "break" => some (runLeave "break" .leaveLoop arguments)
  | "continue" => some (runLeave "continue" .nextRound arguments)
  | "kill" => some (runKill arguments)
  | "unset" => some (runUnset arguments)
  | "export" => some (runExport arguments)
  | "cat" => some (runPrintFiles arguments)
  | "seq" => some (runIntegers arguments)
  | _ => none

/-- Run a command by its name. -/
def runNamed (name : String) (arguments : List (List Char)) : Action Nat :=
  match builtin? name arguments with
  | some action => action
  | none => do
      complain (name ++ if name.isEmpty then ": Permission denied" else ": not found")
      return 127

end VxlanMesh.Shell
