/-
  VxlanMesh.Error
  ────────────────────────────────
  **WHY AN OPERATION OF THE AGENT CAN FAIL.**

  Each constructor of `OverlayError` is one cause, with the data a caller
  needs to act on it; the wording stands in one place, `message`.  Two
  classes of causes matter to callers:

      isRetryable   the switch or the manager may answer next time
      isMissing     what was asked for is already gone
-/

namespace VxlanMesh

/-! ## §1. The causes. -/

/-- A cause of failure of an agent operation. -/
inductive OverlayError where
  /-- The shell could not be started at all. -/
  | shellUnavailable (command reason : String)
  /-- A command ran and ended with a nonzero exit code. -/
  | commandFailed (command : String) (exitCode : Int) (output : String)
  /-- A keyed table has no such entry. -/
  | entryNotFound (table key : String)
  /-- A live network already holds one of the identifiers. -/
  | networkExists (networkId : String) (vni : UInt32) (vlan : UInt16)
  /-- The overlay holds no such network. -/
  | networkNotFound (networkId : String)
  /-- Every id of a space below its limit is taken. -/
  | idExhausted (space : String) (limit : Nat)
  /-- A table file could not be read or written. -/
  | persistence (path reason : String)
  /-- The manager could not be asked, or answered nothing usable. -/
  | transport (url reason : String)
  /-- A configuration field holds a value that cannot be used. -/
  | invalidConfig (field reason : String)
  /-- The configuration file is not a configuration. -/
  | undecodableConfig
  /-- A state that the agent itself rules out. -/
  | internal (reason : String)
  deriving Repr, DecidableEq

namespace OverlayError

/-! ## §2. Wording. -/

/-- What is reported of a cause. -/
def message : OverlayError → String
  | shellUnavailable command reason =>
      "Failed to execute shell command '" ++ command ++ "': " ++ reason
  | commandFailed command exitCode output =>
      "Shell command failed: '" ++ command ++ "' (exit code " ++ toString exitCode
        ++ "): " ++ output
  | entryNotFound table key => "Table entry not found: " ++ table ++ ":" ++ key
  | networkExists networkId vni vlan =>
      "Network exists: " ++ networkId ++ " (vni " ++ toString vni.toNat ++ ", vlan "
        ++ toString vlan.toNat ++ ")"
  | networkNotFound networkId => "Network not found: " ++ networkId
  | idExhausted space limit =>
      "No free id left in " ++ space ++ " (limit " ++ toString limit ++ ")"
  | persistence path reason => "Persistence failed for " ++ path ++ ": " ++ reason
  | transport url reason => "Topology sync failed: " ++ url ++ ": " ++ reason
  | invalidConfig field reason => "Invalid configuration for " ++ field ++ ": " ++ reason
  | undecodableConfig => "Invalid configuration for config_file:"
  | internal reason => "Internal error: " ++ reason

/-! ## §3. Classes of causes. -/

/-- The same operation may succeed when it is tried again. -/
def isRetryable : OverlayError → Bool
  | commandFailed .. | shellUnavailable .. | transport .. => true
  | _ => false

/-- What was asked for does not exist. -/
def isMissing : OverlayError → Bool
  | entryNotFound .. | networkNotFound .. => true
  | _ => false

end OverlayError

end VxlanMesh
