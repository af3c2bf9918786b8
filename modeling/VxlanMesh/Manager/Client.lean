/-
  VxlanMesh.Manager.Client
  ────────────────────────────────
  **ASKING THE MANAGER AGAIN AND AGAIN.**

      sync        ask until a snapshot arrives, with a pause after each
                  failure
      init        the first snapshot; answers the interval to go on with
      heartbeat   a snapshot at each tick, until the manager suggests
                  another interval
      run         one heartbeat after the other

  These are tasks over the steps of `Client.Step`; a `Link` carries them
  out.  A tick that is late, because the pass before it took longer than
  the period, comes at once, and the next one a whole period after it.
  All loops are bounded by a `patience`; with a deadline on the clock
  every patience that is large enough gives the same run.
-/
import VxlanMesh.Manager.Endpoint
import VxlanMesh.Overlay.Mesh
import VxlanMesh.Procedure

namespace VxlanMesh.Manager

/-! ## §1. Settings and state. -/

/-- How the manager is asked. -/
structure ClientSettings where
  url : String
  retrySeconds : Nat
  defaultSeconds : Nat
  mesh : MeshSettings
  deriving Repr, DecidableEq

/-- The overlay and the line to the manager. -/
structure Link (σ : Type) where
  mesh : Mesh σ
  endpoint : Endpoint

instance (σ : Type) : Timed (Link σ) where
  clock link := link.mesh.host.clock
  setClock clock link := { link with mesh := Timed.setClock clock link.mesh }

namespace Client

/-! ## §2. Steps and snapshots. -/

/-- A step of the client. -/
inductive Step : Type → Type where
  /-- Ask for a snapshot once. -/
  | ask : Step (Except OverlayError Topology)
  | pause (ms : Nat) : Step Unit
  /-- Hand a snapshot to the overlay. -/
  | feed (topology : Topology) : Step SyncSummary
  /-- Start to tick; answers when the first tick is due. -/
  | startTicker (period : Nat) : Step Nat
  /-- Wait for the tick that is due; answers when it came. -/
  | awaitTick (due : Nat) : Step Nat

/-- A task of the client; it has no answer when it runs out of patience. -/
abbrev Task (α : Type) : Type 1 := OptionT (Procedure Step) α

/-- A single step. -/
def take {α : Type} (s : Step α) : Task α := OptionT.lift (Procedure.ask s)

/-- Ask for a snapshot until one arrives. -/
def sync (settings : ClientSettings) : Nat → Task Topology
  | 0 => failure
  | patience + 1 => do
      match ← take .ask with
      | .ok topology => pure topology
      | .error _ => do
          take (.pause (settings.retrySeconds * 1000))
          sync settings patience

/-- The first snapshot; answers the seconds to the next. -/
def init (settings : ClientSettings) (patience : Nat) : Task Nat := do
  let topology ← sync settings patience
  let _ ← take (.feed topology)
  pure (topology.syncSeconds settings.defaultSeconds)

/-! ## §3. Heartbeats. -/

/-- A period as a ticker takes it: from a second to a day, in milliseconds. -/
def clampPeriod (ms : Nat) : Nat := max 1000 (min ms (longestInterval * 1000))

/-- How many milliseconds a tick may be late without moving the ticks after it. -/
def lateness : Nat := 5

/-- When the tick after one is due. -/
def nextDue (due now period : Nat) : Nat :=
  if now > due + lateness then now + period else due + period

/-- Wait for a tick and take a snapshot: when the next tick is due, and the milliseconds
that the manager suggests. -/
def tick (settings : ClientSettings) (patience period due : Nat) : Task (Nat × Nat) := do
  let now ← take (.awaitTick due)
  let topology ← sync settings patience
  let _ ← take (.feed topology)
  pure (nextDue due now period, topology.syncSeconds settings.defaultSeconds * 1000)

/-- Ticks from the one that is due, until the suggested interval differs from the period;
at most so many. -/
def ticks (settings : ClientSettings) (patience period : Nat) : Nat → Nat → Task Nat
  | 0, _ => failure
  | more + 1, due => do
      let (due, suggested) ← tick settings patience period due
      -- The same interval again: the ticks go on as planned.
      if suggested = period then ticks settings patience period more due
      else pure suggested

/-- Snapshots at a period (in milliseconds), until the manager suggests another one, which
is the answer. -/
def heartbeat (settings : ClientSettings) (patience ms : Nat) : Task Nat := do
  let period := clampPeriod ms
  let due ← take (.startTicker period)
  ticks settings patience period patience due

/-- One heartbeat after the other, at most so many. -/
def heartbeats (settings : ClientSettings) (patience : Nat) : Nat → Nat → Task Unit
  | 0, _ => failure
  | more + 1, ms => do
      let ms ← heartbeat settings patience ms
      heartbeats settings patience more ms

/-- Heartbeats without end, beginning with a period in milliseconds. -/
def run (settings : ClientSettings) (patience ms : Nat) : Task Unit :=
  heartbeats settings patience patience ms

end Client

/-! ## §4. Carrying out. -/

namespace Link

variable {σ : Type} [CommandRunner σ]

/-- What a step does. -/
def perform (settings : ClientSettings) : {α : Type} → Client.Step α → Operation (Link σ) α
  | _, .ask => Operation.step fun link =>
      let (answer, endpoint) := request settings.url link.endpoint
      (answer, { link with endpoint })
  | _, .pause ms => Operation.sleep ms
  | _, .feed topology =>
      Operation.within Link.mesh (fun mesh link => { link with mesh })
        (Mesh.sync settings.mesh topology)
  | _, .startTicker period => fun link => (.done ((Timed.clock link).now + period), link)
  | _, .awaitTick due => do
      Operation.sleepUntil due
      Operation.now

/-- Carry out a task; out of patience, the caller would still be waiting. -/
def runTask {α : Type} (settings : ClientSettings) (task : Client.Task α) :
    Operation (Link σ) α := do
  match ← Procedure.run (perform settings) task.run with
  | some a => pure a
  | none => Operation.abandon

/-- Ask for a snapshot once. -/
def fetch (settings : ClientSettings) : Operation (Link σ) Topology :=
  perform settings .ask >>= Operation.ofExcept

/-- Ask for a snapshot until one arrives. -/
def sync (settings : ClientSettings) (patience : Nat) : Operation (Link σ) Topology :=
  runTask settings (Client.sync settings patience)

/-- Hand a snapshot to the overlay. -/
def feed (settings : ClientSettings) (topology : Topology) : Operation (Link σ) SyncSummary :=
  perform settings (.feed topology)

/-- The first snapshot; answers the seconds to the next. -/
def init (settings : ClientSettings) (patience : Nat) : Operation (Link σ) Nat :=
  runTask settings (Client.init settings patience)

/-- Snapshots at a period (in milliseconds), until the manager suggests another one, which
is the answer. -/
def heartbeat (settings : ClientSettings) (patience ms : Nat) : Operation (Link σ) Nat :=
  runTask settings (Client.heartbeat settings patience ms)

/-- Heartbeats without end, beginning with a period in milliseconds. -/
def run (settings : ClientSettings) (patience ms : Nat) : Operation (Link σ) Unit :=
  runTask settings (Client.run settings patience ms)

end Link

end VxlanMesh.Manager
