/-
  VxlanMesh.Tenant.Record
  ────────────────────────────────
  **WHAT IS KEPT OF A TENANT NETWORK.**

  A record holds the tunnel key of a network, its VLAN on this host (as
  the text of a number) and the pods here that use the network.  A pod is
  known by its key, `namespace:name`.
-/
import VxlanMesh.Json.Document
import VxlanMesh.Numeral.Decimal
import VxlanMesh.Numeral.Power

namespace VxlanMesh

/-! ## §1. Pods. -/

/-- The key of a pod. -/
def podKey (ns name : String) : String := ns ++ ":" ++ name

/-! ## §2. Records. -/

/-- What is kept of a tenant network. -/
structure TenantRecord where
  vni : UInt32
  vlanText : String
  pods : KeySet := KeyedTable.empty
  deriving DecidableEq

namespace TenantRecord

/-- The record of a network that no pod uses yet. -/
def new (vni : UInt32) (vlan : UInt16) : TenantRecord where
  vni := vni
  vlanText := Numeral.decimal vlan.toNat

/-- The VLAN, if the text is that of a VLAN number. -/
def vlan (record : TenantRecord) : Option UInt16 :=
  (Numeral.readBounded? 65535 record.vlanText.toList).map (·.toUInt16)

/-- No pod uses the network. -/
def isUnused (record : TenantRecord) : Bool := record.pods.entries.isEmpty

/-- The record with one more pod. -/
def addPod (record : TenantRecord) (pod : String) : TenantRecord :=
  { record with pods := record.pods.insert pod () }

/-- The record without a pod. -/
def removePod (record : TenantRecord) (pod : String) : TenantRecord :=
  { record with pods := record.pods.erase pod }

/-! ## §3. As JSON. -/

/-- A record from a document. -/
def decode? : Document.Decoder TenantRecord :=
  Document.record? ["VNI", "VlanID", "PodIDs"] fun depth fields =>
    match fields with
    | [vni, vlan, pods] => do
        let vni ← Document.required (Document.natural? (Numeral.largestOfBits 32)) depth vni
        let vlan ← Document.required Document.string? depth vlan
        let pods ← Document.defaulted [] (Document.sequence? Document.string?) depth pods
        pure ⟨vni.toUInt32, vlan, KeySet.ofList pods⟩
    | _ => none

/-- A record as JSON. -/
def toJson (record : TenantRecord) : Json :=
  .object [("VNI", .ofNat record.vni.toNat), ("VlanID", .string record.vlanText),
    ("PodIDs", .ofTexts (KeySet.toList record.pods))]

end TenantRecord

/-- Records of networks, in ascending order of the network ids. -/
abbrev TenantRecords : Type := KeyedTable TenantRecord

namespace TenantRecords

/-- Records from a document. -/
def decode? : Document.Decoder TenantRecords := Document.table? TenantRecord.decode?

/-- Records as JSON. -/
def toJson (records : TenantRecords) : Json :=
  .object (records.entries.map fun (id, record) => (id, record.toJson))

end TenantRecords

end VxlanMesh
