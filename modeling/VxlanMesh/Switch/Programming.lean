/-
  VxlanMesh.Switch.Programming
  ────────────────────────────────
  **PROGRAMMING THE TUNNEL BRIDGE.**

      init     create both bridges (however long it takes), the patch
               pair between them and the fixed rules
      rebuild  empty the two tables that depend on networks and peers and
               install every rule again

  A rule that cannot be installed is counted and the others are still
  tried; the next rebuild tries all of them again.
-/
import VxlanMesh.Overlay.Pipeline
import VxlanMesh.Switch.Runner

namespace VxlanMesh

/-- The bridges and how often their creation is tried again. -/
structure SwitchSettings where
  tunnelBridge : String := "br-tun"
  integrationBridge : String := "br-int"
  dstPort : UInt16 := 6789
  bridgeRetryMs : Nat := 3000
  commandAttempts : Nat := 3
  commandRetryMs : Nat := 500
  deriving Repr, DecidableEq

/-- How many rules were installed and how many were not. -/
structure RebuildSummary where
  installed : Nat := 0
  failed : Nat := 0
  deriving Repr, DecidableEq

/-- Count one more rule. -/
def RebuildSummary.count (summary : RebuildSummary) (installed : Bool) : RebuildSummary :=
  if installed then { summary with installed := summary.installed + 1 }
  else { summary with failed := summary.failed + 1 }

namespace SwitchSettings

variable {σ : Type} [CommandRunner σ]

/-! ## §1. Rules. -/

/-- The end of the patch pair on the tunnel bridge. -/
def patchToIntegration : String := "patch-int"

/-- The end of the patch pair on the integration bridge. -/
def patchToTunnel : String := "patch-tun"

/-- Install rules one after the other, counting on. -/
def installAll (settings : SwitchSettings) :
    List PipelineRule → RebuildSummary → Operation (Host σ) RebuildSummary
  | [], summary => pure summary
  | rule :: rest, summary => do
      let installed ← Host.succeeds (.addFlow settings.tunnelBridge rule.toFlow)
      installAll settings rest (summary.count installed)

/-- Empty the tables that depend on networks and peers; a failure is not fatal. -/
def clearVariable (settings : SwitchSettings) : Operation (Host σ) Unit := do
  let _ ← Host.succeeds (.deleteFlows settings.tunnelBridge (some PipelineTable.decap.number))
  let _ ← Host.succeeds (.deleteFlows settings.tunnelBridge (some PipelineTable.flood.number))

/-- Install all rules for some networks and tunnel ports. -/
def rebuild (settings : SwitchSettings) (networks : List Network) (ports : List TunnelPort) :
    Operation (Host σ) RebuildSummary := do
  clearVariable settings
  installAll settings (desiredRules networks ports) {}

/-! ## §2. Bridges. -/

/-- Create a bridge, trying again until the switch answers; `patience` bounds the
attempts. -/
def ensureBridge (settings : SwitchSettings) (patience : Nat) (bridge : String) :
    Operation (Host σ) Unit := do
  let _ ← Operation.persist settings.bridgeRetryMs (Host.issue (.addBridge bridge)) patience

/-- Create both bridges, the patch pair and the fixed rules. -/
def init (settings : SwitchSettings) (patience : Nat) : Operation (Host σ) RebuildSummary := do
  ensureBridge settings patience settings.tunnelBridge
  ensureBridge settings patience settings.integrationBridge
  let _ ← Host.issue (.addPatchPort settings.tunnelBridge patchToIntegration patchToTunnel
    (some patchOfport))
  let _ ← Host.issue (.addPatchPort settings.integrationBridge patchToTunnel
    patchToIntegration none)
  let _ ← Host.issue (.deleteFlows settings.tunnelBridge none)
  installAll settings baseRules {}

end SwitchSettings

end VxlanMesh
