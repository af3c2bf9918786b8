/-
  VxlanMesh.Daemon.Run
  ────────────────────────────────
  **A RUN OF THE DAEMON.**

  A run begins with the command line and the log filter; either can end
  it.  Then the configuration is read and the station is started.  The
  start does not end as long as the switch cannot be reached, and a signal
  ends it: one that asks to terminate or interrupts is answered in the
  log, and one that kills is not.
-/
import VxlanMesh.Daemon.Arguments
import VxlanMesh.Daemon.LogFilter
import VxlanMesh.Station
import VxlanMesh.Switch.SystemShell

namespace VxlanMesh.Daemon

/-! ## §1. Surroundings and report. -/

/-- What ends a run from outside. -/
inductive Signal where
  | terminate
  | interrupt
  | kill
  deriving Repr, DecidableEq

/-- How the log calls a signal. -/
def Signal.name : Signal → String
  | terminate => "SIGTERM"
  | interrupt => "SIGINT"
  | kill => "SIGKILL"

/-- What a run depends on. -/
structure Surroundings where
  arguments : List String
  /-- The filter that goes before the one of the command line. -/
  logVariable : Option String := none
  files : FileTree := {}
  signal : Signal := .terminate

/-- What can be seen of a run. -/
structure Report where
  /-- The exit code, or none if the daemon was killed. -/
  exit : Option Nat
  log : List String := []
  output : List String := []
  /-- Something was written to the standard error output. -/
  complained : Bool := false
  deriving Repr, DecidableEq

/-! ## §2. Events. -/

/-- An event of the daemon. -/
def event (level : LogLevel) (message : String) (fields : List (String × String) := []) :
    LogEvent :=
  { target := name, level, message, fields }

/-- The daemon begins. -/
def starting : LogEvent := event .info ("--- Starting " ++ name ++ " ---")

/-- A signal arrived. -/
def signalled (signal : Signal) : LogEvent :=
  event .info "Received shutdown signal" [("signal", "\"" ++ signal.name ++ "\"")]

/-- The daemon ends as it was asked to. -/
def exiting : LogEvent := event .info (name ++ " exiting")

/-- The daemon ends for a cause. -/
def failed (context : String) (e : OverlayError) : LogEvent :=
  event .error (name ++ " failed: " ++ context ++ ": " ++ e.message)

/-! ## §3. Running. -/

/-- How many attempts are made to reach the switch before the signal arrives. -/
def attemptsBeforeSignal : Nat := 3

/-- The events of a run with its arguments, and the exit code. -/
def serve (s : Surroundings) (arguments : Arguments) : List LogEvent × Option Nat :=
  match Config.ofFile s.files arguments.configPath with
  | .error e => ([starting, failed ("loading " ++ arguments.configPath) e], some 1)
  | .ok config =>
      -- The manager is asked only once the switch is reached, so no line to it is needed.
      let station := Station.fresh config ({ switch := {} } : Host SystemShell)
        { tree := s.files } { addressOf? := fun _ => none, isUp := false }
      match (Station.start config attemptsBeforeSignal station).1 with
      | .failed e => ([starting, failed "agent startup failed" e], some 1)
      -- The start is still waiting for the switch when the signal arrives.
      | _ => match s.signal with
        | .kill => ([starting], none)
        | signal => ([starting, signalled signal, exiting], some 0)

/-- The filter of a run: that of the variable, or else that of the command line. -/
def filter? (s : Surroundings) (arguments : Arguments) : Option LogFilter :=
  match s.logVariable.bind LogFilter.ofText? with
  | some filter => some filter
  | none => LogFilter.ofText? arguments.logLevel

/-- A run of the daemon. -/
def run (s : Surroundings) : Report :=
  match Request.ofArguments s.arguments with
  | .help => { exit := some 0, output := helpLines }
  | .version => { exit := some 0, output := [versionText] }
  | .misuse => { exit := some 2, complained := true }
  | .serve arguments =>
      match filter? s arguments with
      | none => { exit := some 1, complained := true }
      | some filter =>
          let (events, exit) := serve s arguments
          { exit, log := (events.filter filter.lets).map LogEvent.line }

end VxlanMesh.Daemon
