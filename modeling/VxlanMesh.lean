import VxlanMesh.Check.CommandLog
import VxlanMesh.Check.Fixture
import VxlanMesh.Config.Basic
import VxlanMesh.Config.IpAddress
import VxlanMesh.Daemon.Arguments
import VxlanMesh.Daemon.LogFilter
import VxlanMesh.Daemon.Run
import VxlanMesh.Error
import VxlanMesh.IdSpace
import VxlanMesh.Json.Document
import VxlanMesh.Json.Reader
import VxlanMesh.Json.Value
import VxlanMesh.Json.Writer
import VxlanMesh.KeyedTable
import VxlanMesh.Main
import VxlanMesh.Manager.Client
import VxlanMesh.Manager.Endpoint
import VxlanMesh.Numeral.Binary64
import VxlanMesh.Numeral.Decimal
import VxlanMesh.Numeral.Power
import VxlanMesh.Numeral.Shortest
import VxlanMesh.Operation
import VxlanMesh.Overlay.Mesh
import VxlanMesh.Overlay.Network
import VxlanMesh.Overlay.Peer
import VxlanMesh.Overlay.Pipeline
import VxlanMesh.Overlay.Topology
import VxlanMesh.Procedure
import VxlanMesh.Proofs.Check.Fixtures
import VxlanMesh.Proofs.Check.FlowLog
import VxlanMesh.Proofs.IdSpace
import VxlanMesh.Proofs.Json.Canonical
import VxlanMesh.Proofs.Json.ReadBack
import VxlanMesh.Proofs.Json.Token
import VxlanMesh.Proofs.KeyedTable
import VxlanMesh.Proofs.Manager.Heartbeats
import VxlanMesh.Proofs.Manager.Polling
import VxlanMesh.Proofs.Manager.Sequence
import VxlanMesh.Proofs.NumberSet
import VxlanMesh.Proofs.Numeral.Accepted
import VxlanMesh.Proofs.Numeral.ReadBack
import VxlanMesh.Proofs.Operation
import VxlanMesh.Proofs.Overlay.Converging
import VxlanMesh.Proofs.Overlay.Intervals
import VxlanMesh.Proofs.Overlay.Isolation
import VxlanMesh.Proofs.Overlay.Linking
import VxlanMesh.Proofs.Overlay.Mirroring
import VxlanMesh.Proofs.Overlay.Networks
import VxlanMesh.Proofs.Overlay.Rebuilding
import VxlanMesh.Proofs.Overlay.Retiming
import VxlanMesh.Proofs.Overlay.Snapshots
import VxlanMesh.Proofs.Overlay.Tunnels
import VxlanMesh.Proofs.Overlay.Turns
import VxlanMesh.Proofs.Overlay.Unhindered
import VxlanMesh.Proofs.Procedure
import VxlanMesh.Proofs.Shell.Arguments
import VxlanMesh.Proofs.Shell.Quoting
import VxlanMesh.Proofs.Storage.Neighbours
import VxlanMesh.Proofs.Storage.Snapshot
import VxlanMesh.Proofs.Storage.Tree
import VxlanMesh.Proofs.Switch.ArgumentVectors
import VxlanMesh.Proofs.Switch.CommandLines
import VxlanMesh.Proofs.Switch.FlowTables
import VxlanMesh.Proofs.Switch.FlowTexts
import VxlanMesh.Proofs.Switch.Forwarding
import VxlanMesh.Proofs.Switch.PortTables
import VxlanMesh.Proofs.Switch.Programming
import VxlanMesh.Proofs.Switch.Retrying
import VxlanMesh.Proofs.Switch.Scripts
import VxlanMesh.Proofs.Switch.Spellings
import VxlanMesh.Proofs.Tenant.Consistency
import VxlanMesh.Proofs.Tenant.Core
import VxlanMesh.Proofs.Tenant.Durability
import VxlanMesh.Proofs.Tenant.Encoding
import VxlanMesh.Proofs.Tenant.Endings
import VxlanMesh.Proofs.Tenant.Interleaving
import VxlanMesh.Proofs.Tenant.Lifetime
import VxlanMesh.Proofs.Tenant.Outcomes
import VxlanMesh.Proofs.Tenant.References
import VxlanMesh.Proofs.Tenant.Registry
import VxlanMesh.Proofs.Tenant.Reservations
import VxlanMesh.Proofs.Tenant.Restarting
import VxlanMesh.Proofs.Tenant.Restoring
import VxlanMesh.Proofs.Tenant.Selection
import VxlanMesh.Proofs.Tenant.Serving
import VxlanMesh.Proofs.Tenant.Stranding
import VxlanMesh.Proofs.Tenant.Undoing
import VxlanMesh.Proofs.Tenant.View
import VxlanMesh.Proofs.Tenant.VlanRange
import VxlanMesh.Proofs.Text.Lines
import VxlanMesh.Shell.Arithmetic
import VxlanMesh.Shell.Builtin
import VxlanMesh.Shell.Condition
import VxlanMesh.Shell.Escape
import VxlanMesh.Shell.Evaluation
import VxlanMesh.Shell.Execution
import VxlanMesh.Shell.Format
import VxlanMesh.Shell.Lexical
import VxlanMesh.Shell.Quote
import VxlanMesh.Shell.Reader
import VxlanMesh.Shell.Script
import VxlanMesh.Shell.State
import VxlanMesh.Station
import VxlanMesh.Storage.FileTree
import VxlanMesh.Storage.TableStore
import VxlanMesh.Switch.Command
import VxlanMesh.Switch.Flow
import VxlanMesh.Switch.Programming
import VxlanMesh.Switch.Recorder
import VxlanMesh.Switch.Runner
import VxlanMesh.Switch.SystemShell
import VxlanMesh.Tenant.Binder
import VxlanMesh.Tenant.Record
import VxlanMesh.Tenant.Registry
import VxlanMesh.Text.Blank
import VxlanMesh.Text.Escaped
import VxlanMesh.Text.Pattern
import VxlanMesh.Text.Printable
import VxlanMesh.Text.Utf8
import VxlanMesh.Toml.Reader
import VxlanMesh.Toml.Scalar
import VxlanMesh.Toml.Table
import VxlanMesh.Toml.Text
