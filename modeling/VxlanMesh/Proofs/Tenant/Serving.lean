/-
  VxlanMesh.Proofs.Tenant.Serving
  ────────────────────────────────
  **REQUESTS TO A NODE, ONE AFTER THE OTHER.**

  A node that is up attaches and detaches pods and goes through snapshots
  of the manager.  Each request keeps a consistent node consistent, and
  the disk as it is said to be, whether the request is carried out to its
  end or cut off between two steps.
-/
import VxlanMesh.Proofs.Overlay.Linking
import VxlanMesh.Proofs.Tenant.Consistency

namespace VxlanMesh.Node

variable {σ : Type} [CommandRunner σ]

/-- What a node can be asked. -/
inductive Request where
  | attach (id : String) (vni : UInt32) (ns name : String)
  | detach (id ns name : String)
  | sync (topology : Topology)

/-- The node after a request, however it ends. -/
def serve (settings : MeshSettings) (node : Node σ) : Request → Node σ
  | .attach id vni ns name => (runTask settings (attach id vni (podKey ns name)) node).2
  | .detach id ns name => (runTask settings (detach id (podKey ns name)) node).2
  | .sync topology => (onMesh (Mesh.sync settings topology) node).2

/-- The node when a request is cut off before its step number `n`; passes over a snapshot
have no step that records or disk could see. -/
def serveCut (settings : MeshSettings) (n : Nat) (node : Node σ) : Request → Node σ
  | .attach id vni ns name =>
      Procedure.cut (perform settings) n (attach id vni (podKey ns name)).run node
  | .detach id ns name =>
      Procedure.cut (perform settings) n (detach id (podKey ns name)).run node
  | .sync _ => node

variable {fits : UInt16 → Prop} {safe : TableStore → Disk → Prop}

theorem view_sync (settings : MeshSettings) (topology : Topology) (node : Node σ) :
    (onMesh (Mesh.sync settings topology) node).2.view = node.view := by
  show (⟨node.registry.records, (Mesh.sync settings topology node.mesh).2.networks, node.vlans⟩
    : View) = node.view
  rw [Mesh.networks_sync settings topology node.mesh]
  rfl

/-- **One request.** -/
theorem serve_consistent (settings : MeshSettings)
    (hsafe : KeptBySnapshots (fun v => Tidy fits v.records) safe) {node : Node σ}
    (h : Consistent fits node.view) (hdisk : safe node.registry.store node.registry.disk)
    (request : Request) :
    Consistent fits (serve settings node request).view ∧
      safe (serve settings node request).registry.store
        (serve settings node request).registry.disk := by
  cases request with
  | attach id vni ns name =>
      obtain ⟨result, node', hrun, hends, hdisk'⟩ := runTask_of_upholds settings hsafe
        (attach_upholds id (podKey ns name) vni h) hdisk
      rw [serve, hrun]
      exact ⟨hends.1, hdisk'⟩
  | detach id ns name =>
      obtain ⟨result, node', hrun, hends, hdisk'⟩ := runTask_of_upholds settings hsafe
        (detach_upholds id (podKey ns name) h) hdisk
      rw [serve, hrun]
      exact ⟨hends, hdisk'⟩
  | sync topology =>
      refine ⟨?_, hdisk⟩
      rw [serve, view_sync]
      exact h

/-- **Any number of requests.** -/
theorem serve_all_consistent (settings : MeshSettings)
    (hsafe : KeptBySnapshots (fun v => Tidy fits v.records) safe) (requests : List Request) :
    ∀ {node : Node σ}, Consistent fits node.view →
      safe node.registry.store node.registry.disk →
      Consistent fits (requests.foldl (serve settings) node).view := by
  induction requests with
  | nil => intro node h _; exact h
  | cons request rest ih =>
      intro node h hdisk
      obtain ⟨h', hdisk'⟩ := serve_consistent settings hsafe h hdisk request
      exact ih h' hdisk'

/-- **One request that is cut off** leaves the disk as it is said to be. -/
theorem serveCut_safe (settings : MeshSettings)
    (hsafe : KeptBySnapshots (fun v => Tidy fits v.records) safe) {node : Node σ}
    (h : Consistent fits node.view) (hdisk : safe node.registry.store node.registry.disk)
    (n : Nat) (request : Request) :
    safe (serveCut settings n node request).registry.store
      (serveCut settings n node request).registry.disk := by
  cases request with
  | attach id vni ns name =>
      exact Procedure.cut_of_upholds (carries_perform settings hsafe) n
        (attach_upholds id (podKey ns name) vni h) hdisk
  | detach id ns name =>
      exact Procedure.cut_of_upholds (carries_perform settings hsafe) n
        (detach_upholds id (podKey ns name) h) hdisk
  | sync topology => exact hdisk

end VxlanMesh.Node
