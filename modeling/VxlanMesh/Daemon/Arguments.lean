/-
  VxlanMesh.Daemon.Arguments
  ────────────────────────────────
  **THE COMMAND LINE OF THE DAEMON.**

  There are two options with a value, `--config` (`-c`) and `--log-level`,
  and two that ask a question, `--help` (`-h`) and `--version` (`-V`).
  Arguments are read from left to right, and the first question or the
  first mistake decides.  A value follows its option, after `=` or as the
  next argument, which then may not look like an option; a short option
  may have its value directly behind it.
-/
import VxlanMesh.Config.Basic

namespace VxlanMesh.Daemon

/-! ## §1. What a command line asks for. -/

/-- How the daemon is to run. -/
structure Arguments where
  configPath : String := Config.defaultPath
  logLevel : String := "info"
  deriving Repr, DecidableEq

/-- What a command line asks for. -/
inductive Request where
  | serve (arguments : Arguments)
  | help
  | version
  | misuse
  deriving Repr, DecidableEq

/-- The name of the daemon. -/
def name : String := "overlaymgrd"

/-- The answer to the question for the version. -/
def versionText : String := name ++ " 0.1.0"

/-- The answer to the question for help, line by line. -/
def helpLines : List String :=
  [ "VXLAN overlay agent",
    "",
    "Usage: " ++ name ++ " [OPTIONS]",
    "",
    "Options:",
    "  -c, --config <CONFIG>        Configuration file [default: " ++ Config.defaultPath ++ "]",
    "      --log-level <LOG_LEVEL>  Log filter, overridden by RUST_LOG [default: info]",
    "  -h, --help                   Print help",
    "  -V, --version                Print version" ]

/-! ## §2. Reading. -/

/-- An option with a value. -/
inductive ValueOption where
  | config
  | logLevel
  deriving Repr, DecidableEq

/-- The values given so far. -/
structure Given where
  config : Option String := none
  logLevel : Option String := none
  deriving Repr, DecidableEq

namespace Given

/-- Take a value for an option, which may have only one; a path may not be empty. -/
def take (option : ValueOption) (value : List Char) (given : Given) : Option Given :=
  match option, given.config, given.logLevel with
  | .config, none, _ =>
      if value.isEmpty then none else some { given with config := some (String.ofList value) }
  | .logLevel, _, none => some { given with logLevel := some (String.ofList value) }
  | _, _, _ => none

/-- The arguments, with defaults for what was not given. -/
def arguments (given : Given) : Arguments where
  configPath := given.config.getD Config.defaultPath
  logLevel := given.logLevel.getD "info"

end Given

/-- What one argument means. -/
inductive Meaning where
  | answer (request : Request)
  | value (option : ValueOption) (value : List Char)
  /-- The value is the next argument. -/
  | needsValue (option : ValueOption)
  /-- Nothing but options may come before this, and nothing at all after it. -/
  | endOfOptions
  deriving Repr, DecidableEq

/-- The meaning of a long option by its name and the value behind `=`, if there is one. -/
def longOption (option : String) (value : Option (List Char)) : Meaning :=
  let ask (request : Request) : Meaning :=
    if value.isNone then .answer request else .answer .misuse
  let wants (option : ValueOption) : Meaning :=
    match value with
    | some value => .value option value
    | none => .needsValue option
  match option with
  | "help" => ask .help
  | "version" => ask .version
  | "config" => wants .config
  | "log-level" => wants .logLevel
  | _ => .answer .misuse

/-- The meaning of short options that share one dash; the first of them decides. -/
def shortOptions : List Char → Meaning
  | ['c'] => .needsValue .config
  | 'c' :: '=' :: value => .value .config value
  | 'c' :: value => .value .config value
  | 'h' :: _ => .answer .help
  | 'V' :: _ => .answer .version
  | _ => .answer .misuse

/-- What an argument means. -/
def meaning (argument : List Char) : Meaning :=
  match argument with
  | ['-', '-'] => .endOfOptions
  | '-' :: '-' :: rest =>
      match rest.span (· ≠ '=') with
      | (option, _ :: value) => longOption (String.ofList option) (some value)
      | (option, []) => longOption (String.ofList option) none
  | '-' :: c :: rest => shortOptions (c :: rest)
  | _ => .answer .misuse

/-- The argument looks like an option, so it is not the value of the option before it. -/
def looksLikeOption : List Char → Bool
  | '-' :: _ :: _ => true
  | _ => false

/-- Read arguments; `pending` is an option that waits for its value. -/
def readArguments (given : Given) : Option ValueOption → List (List Char) → Request
  | none, [] => .serve given.arguments
  | some _, [] => .misuse
  | some option, argument :: rest =>
      -- An option is no value, not even the last one on the line.
      if looksLikeOption argument then .misuse
      else match given.take option argument with
        | some given => readArguments given none rest
        | none => .misuse
  | none, argument :: rest =>
      match meaning argument with
      | .answer request => request
      | .needsValue option => readArguments given (some option) rest
      | .endOfOptions => if rest.isEmpty then .serve given.arguments else .misuse
      | .value option value =>
          match given.take option value with
          | some given => readArguments given none rest
          | none => .misuse

/-- What a command line asks for. -/
def Request.ofArguments (arguments : List String) : Request :=
  readArguments {} none (arguments.map String.toList)

end VxlanMesh.Daemon
