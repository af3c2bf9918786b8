/-
  VxlanMesh.Config.Basic
  ────────────────────────────────
  **THE CONFIGURATION OF THE AGENT.**

  Four sections: the manager to ask, the addresses of this host, the
  switch to program and the directory of the state.  Every section and
  every field may be left out.  A configuration is valid when `fault?`
  finds nothing; of several faults the first in its order is reported.

      ofToml     read and check the text of a configuration file
      ofFile     the same for a file
-/
import VxlanMesh.Config.IpAddress
import VxlanMesh.Error
import VxlanMesh.Overlay.Mesh
import VxlanMesh.Storage.FileTree
import VxlanMesh.Text.Utf8
import VxlanMesh.Toml.Reader

namespace VxlanMesh

/-! ## §1. Sections. -/

/-- The manager to ask. -/
structure ManagerSection where
  url : String := "http://127.0.0.1:9696"
  /-- The pause after a failed question. -/
  syncRetrySecs : Nat := 10
  /-- The interval where the manager suggests none. -/
  defaultIntervalSecs : Nat := 30
  /-- How long an answer may take. -/
  requestTimeoutSecs : Nat := 10
  deriving Repr, DecidableEq

/-- The addresses of this host. -/
structure HostSection where
  /-- The address by which the manager knows this host. -/
  internalIp : String := ""
  /-- The local end of tunnels, if it is another one. -/
  tunnelIp : Option String := none
  deriving Repr, DecidableEq

/-- Where the state is kept. -/
structure StoreSection where
  dir : String := "/dev/shm/cni-overlay"
  deriving Repr, DecidableEq

/-- A configuration. -/
structure Config where
  manager : ManagerSection := {}
  host : HostSection := {}
  switch : SwitchSettings := {}
  store : StoreSection := {}
  deriving Repr, DecidableEq

namespace Config

/-- Where the configuration is looked for. -/
def defaultPath : String := "/etc/cni-overlay/overlaymgrd.toml"

/-! ## §2. From documents. -/

/-- A number of seconds or milliseconds. -/
def duration? : Document.Decoder Nat := Document.natural? (Numeral.largestOfBits 64)

/-- The section about the manager; `surplus` says that items beyond the fields are ignored
where a sequence stands for a record. -/
def manager? (surplus : Bool) : Document.Decoder ManagerSection :=
  Document.record? ["url", "sync_retry_secs", "default_interval_secs", "request_timeout_secs"]
    (fun depth fields =>
      let d : ManagerSection := {}
      match fields with
      | [url, retry, interval, timeout] => do
          let url ← Document.defaulted d.url Document.string? depth url
          let retry ← Document.defaulted d.syncRetrySecs duration? depth retry
          let interval ← Document.defaulted d.defaultIntervalSecs duration? depth interval
          let timeout ← Document.defaulted d.requestTimeoutSecs duration? depth timeout
          pure ⟨url, retry, interval, timeout⟩
      | _ => none) surplus

/-- The section about this host. -/
def host? (surplus : Bool) : Document.Decoder HostSection :=
  Document.record? ["internal_ip", "tunnel_ip"]
    (fun depth fields =>
      match fields with
      | [internal, tunnel] => do
          let internal ← Document.defaulted "" Document.string? depth internal
          let tunnel ←
            Document.defaulted none (Document.optional? Document.string?) depth tunnel
          pure ⟨internal, tunnel⟩
      | _ => none) surplus

/-- The section about the switch. -/
def switch? (surplus : Bool) : Document.Decoder SwitchSettings :=
  Document.record? ["tunnel_bridge", "integration_bridge", "vxlan_dst_port",
      "bridge_retry_ms", "command_attempts", "command_retry_delay_ms"]
    (fun depth fields =>
      let d : SwitchSettings := {}
      match fields with
      | [tunnel, integration, port, retry, attempts, delay] => do
          let tunnel ← Document.defaulted d.tunnelBridge Document.string? depth tunnel
          let integration ←
            Document.defaulted d.integrationBridge Document.string? depth integration
          let port ←
            Document.defaulted d.dstPort.toNat (Document.natural? 65535) depth port
          let retry ← Document.defaulted d.bridgeRetryMs duration? depth retry
          let attempts ←
            Document.defaulted d.commandAttempts (Document.natural? (Numeral.largestOfBits 32))
              depth attempts
          let delay ← Document.defaulted d.commandRetryMs duration? depth delay
          pure ⟨tunnel, integration, port.toUInt16, retry, attempts, delay⟩
      | _ => none) surplus

/-- The section about the state. -/
def store? (surplus : Bool) : Document.Decoder StoreSection :=
  Document.record? ["dir"]
    (fun depth fields =>
      match fields with
      | [dir] => do
          let dir ← Document.defaulted ({} : StoreSection).dir Document.string? depth dir
          pure ⟨dir⟩
      | _ => none) surplus

/-- A configuration from a document. -/
def decode? (surplus : Bool) : Document.Decoder Config :=
  Document.record? ["manager", "agent", "switch", "store"]
    (fun depth fields =>
      match fields with
      | [manager, host, switch, store] => do
          let manager ← Document.defaulted {} (manager? surplus) depth manager
          let host ← Document.defaulted {} (host? surplus) depth host
          let switch ← Document.defaulted {} (switch? surplus) depth switch
          let store ← Document.defaulted {} (store? surplus) depth store
          pure ⟨manager, host, switch, store⟩
      | _ => none) surplus

/-! ## §3. As JSON. -/

/-- The whole configuration as JSON. -/
def toJson (config : Config) : Json :=
  .object [
    ("manager", .object [
      ("url", .string config.manager.url),
      ("sync_retry_secs", .ofNat config.manager.syncRetrySecs),
      ("default_interval_secs", .ofNat config.manager.defaultIntervalSecs),
      ("request_timeout_secs", .ofNat config.manager.requestTimeoutSecs)]),
    ("agent", .object [
      ("internal_ip", .string config.host.internalIp),
      ("tunnel_ip", (config.host.tunnelIp.map Json.string).getD .null)]),
    ("switch", .object [
      ("tunnel_bridge", .string config.switch.tunnelBridge),
      ("integration_bridge", .string config.switch.integrationBridge),
      ("vxlan_dst_port", .ofNat config.switch.dstPort.toNat),
      ("bridge_retry_ms", .ofNat config.switch.bridgeRetryMs),
      ("command_attempts", .ofNat config.switch.commandAttempts),
      ("command_retry_delay_ms", .ofNat config.switch.commandRetryMs)]),
    ("store", .object [("dir", .string config.store.dir)])]

/-! ## §4. Validity. -/

/-- The local end of tunnels. -/
def localTunnelIp (config : Config) : String :=
  config.host.tunnelIp.getD config.host.internalIp

/-- The address stands for no host. -/
def badAddress (field address : String) : OverlayError :=
  .invalidConfig field ("Invalid IP address '" ++ address ++ "'")

/-- The first fault of a configuration. -/
def fault? (config : Config) : Option OverlayError :=
  let manager := config.manager
  let switch := config.switch
  if !(Text.startsWith manager.url "http://" || Text.startsWith manager.url "https://") then
    some (.invalidConfig "manager.url" ("Expected an http(s) URL, got '" ++ manager.url ++ "'"))
  else if manager.defaultIntervalSecs < 1 || manager.defaultIntervalSecs > longestInterval then
    some (.invalidConfig "manager.default_interval_secs"
      ("Must be between 1 and " ++ toString longestInterval))
  else if manager.syncRetrySecs = 0 then
    some (.invalidConfig "manager.sync_retry_secs" "Must be greater than 0")
  else if manager.requestTimeoutSecs = 0 then
    some (.invalidConfig "manager.request_timeout_secs" "Must be greater than 0")
  else if !IpAddress.isValid config.host.internalIp then
    some (badAddress "agent.internal_ip" config.host.internalIp)
  else match config.host.tunnelIp.filter (!IpAddress.isValid ·) with
    | some address => some (badAddress "agent.tunnel_ip" address)
    | none =>
        if switch.tunnelBridge.isEmpty || switch.integrationBridge.isEmpty then
          some (.invalidConfig "switch" "Bridge names must not be empty")
        else if switch.tunnelBridge = switch.integrationBridge then
          some (.invalidConfig "switch" "Tunnel and integration bridges must differ")
        else if switch.commandAttempts = 0 then
          some (.invalidConfig "switch.command_attempts" "Must be at least 1")
        else if config.store.dir.isEmpty then
          some (.invalidConfig "store.dir" "Must not be empty")
        else none

/-- The configuration, if it is valid. -/
def checked (config : Config) : Except OverlayError Config :=
  match config.fault? with
  | some e => .error e
  | none => .ok config

/-! ## §5. From files. -/

/-- Read and check the text of a configuration file. -/
def ofToml (text : String) : Except OverlayError Config :=
  match (Document.ofToml? text).bind (decode? true (text.length + 2)) with
  | none => .error .undecodableConfig
  | some config => config.checked

/-- Read and check a configuration file. -/
def ofFile (tree : FileTree) (path : String) : Except OverlayError Config :=
  let failed (e : OsError) : Except OverlayError Config :=
    .error (.invalidConfig "config_file" ("Failed to read " ++ path ++ ": " ++ e.message))
  match tree.read path with
  | .error e => failed e
  | .ok content =>
      match Text.Utf8.decode? content with
      | none => failed .invalidText
      | some text => ofToml text

/-! ## §6. What the parts of the agent need. -/

/-- The settings of the overlay. -/
def meshSettings (config : Config) : MeshSettings where
  selfIp := config.host.internalIp
  localIp := config.localTunnelIp
  switch := config.switch

end Config

end VxlanMesh
