/-
  VxlanMesh.Overlay.Network
  ────────────────────────────────
  **TENANT NETWORKS ACTIVE ON THIS HOST.**

  A network has three identifiers: its name, the tunnel key (VNI) that it
  has everywhere, and the VLAN that it has on this host.  Two networks
  collide when they share one of the three.
-/

namespace VxlanMesh

/-- A tenant network active on this host. -/
structure Network where
  id : String
  vni : UInt32
  vlan : UInt16
  deriving Repr, DecidableEq

namespace Network

/-- The networks share an identifier. -/
def collidesWith (a b : Network) : Bool := a.id == b.id || a.vni == b.vni || a.vlan == b.vlan

/-- Collisions are mutual. -/
theorem collidesWith_comm (a b : Network) : a.collidesWith b = b.collidesWith a := by
  simp only [collidesWith, Bool.beq_comm]

end Network

end VxlanMesh
