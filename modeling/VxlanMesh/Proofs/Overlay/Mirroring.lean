/-
  VxlanMesh.Proofs.Overlay.Mirroring
  ────────────────────────────────
  **THE TUNNEL PORTS OF THE SWITCH MIRROR THE RECORDS.**

  Ports that an earlier run left behind are recognized by their names and
  purged before the first pass.  From then on the switch has exactly the
  ports of the linked records: a port is put when a record becomes linked
  and dropped when it ceases to be, and a command that fails changes
  neither.  That a number can come back at once, when a peer is linked
  anew, does no harm, since its port is gone by then.

      purgeStalePorts_succeeds    what purging does
      Mirrored                    the invariant
      mirrored_after              the main result
-/
import VxlanMesh.Proofs.KeyedTable
import VxlanMesh.Proofs.Numeral.ReadBack
import VxlanMesh.Proofs.Overlay.Rebuilding
import VxlanMesh.Proofs.Overlay.Tunnels
import VxlanMesh.Proofs.Switch.PortTables
import VxlanMesh.Proofs.Text.Lines

namespace VxlanMesh

open VxlanMesh.Shell (joined)

/-! ## §1. Names of tunnel ports. -/

/-- The port is a tunnel port, by the name that it has and the bridge that it is on. -/
def SwitchSettings.IsTunnel (settings : SwitchSettings) (bridge name : String) : Prop :=
  bridge = joined settings.tunnelBridge ∧ Text.startsWith name tunnelPortStem = true

theorem startsWith_tunnelPortName (ofport : Nat) :
    Text.startsWith (tunnelPortName ofport) tunnelPortStem = true := by
  rw [Text.startsWith, tunnelPortName, String.toList_append]
  exact List.isPrefixOf_iff_prefix.2 (List.prefix_append _ _)

theorem tunnelPortName_injective {m n : Nat} (h : tunnelPortName m = tunnelPortName n) : m = n :=
  Numeral.decimal_injective (String.append_right_inj _ |>.1 h)

theorem lineFeed_not_mem_tunnelPortName (ofport : Nat) : '\n' ∉ (tunnelPortName ofport).toList := by
  intro hfeed
  rw [tunnelPortName, String.toList_append, List.mem_append] at hfeed
  rcases hfeed with hstem | hdigits
  · exact absurd hstem (by decide)
  · have hdigit : Numeral.isDigit '\n' = true :=
      Numeral.isDigit_of_mem_toDigits (n := ofport) (Numeral.toList_decimal ofport ▸ hdigits)
    exact absurd hdigit (by decide)

namespace PortTables

/-- The ports without some of one bridge. -/
def without (tables : PortTables) (bridge : String) (names : List String) : PortTables := fun b =>
  if b = bridge then names.foldl KeyedTable.erase (tables b) else tables b

theorem get?_without (tables : PortTables) (bridge : String) (names : List String)
    (b name : String) : (tables.without bridge names b).get? name
      = if b = bridge ∧ name ∈ names then none else (tables b).get? name := by
  rw [without]
  by_cases hb : b = bridge
  · rw [if_pos hb, KeyedTable.get?_foldl_erase]
    simp only [hb, true_and]
  · rw [if_neg hb, if_neg fun h => hb h.1]

theorem without_cons (tables : PortTables) (bridge name : String) (names : List String) :
    (tables.without bridge [name]).without bridge names
      = tables.without bridge (name :: names) := by
  funext b
  by_cases hb : b = bridge
  · simp only [without, if_pos hb]
    rfl
  · simp only [without, if_neg hb]

end PortTables

namespace Mesh

variable {σ : Type} [CommandRunner σ]

/-! ## §2. Purging. -/

/-- **Deleting ports always ends**; if no command failed, all of them are gone and counted. -/
theorem deletePorts_succeeds (bridge : String) {names : List String}
    (hnames : ∀ name ∈ names, '\n' ∉ name.toList) : ∀ (count : Nat) (host : Host (PortSwitch σ)),
    ∃ gone switch, deletePorts bridge names count host = (.done gone, { host with switch }) ∧
      host.switch.refused ≤ switch.refused ∧
      (switch.refused = host.switch.refused → gone = count + names.length ∧
        switch.tables = host.switch.tables.without (joined bridge) names) := by
  induction names with
  | nil =>
      intro count host
      refine ⟨count, host.switch, rfl, Nat.le_refl _, fun _ => ⟨rfl, ?_⟩⟩
      funext b
      rw [PortTables.without]
      exact (ite_self _).symm
  | cons name rest ih =>
      intro count host
      have hrest := ih fun other hother => hnames other (List.mem_cons_of_mem name hother)
      rw [deletePorts, Operation.bind_done (Host.succeeds_eq _ host)]
      rcases PortSwitch.run_cases (.deletePort bridge name) host.switch with
        ⟨e, control, hrun⟩ | ⟨control, hrun⟩
      -- Refusals only add up, so after one the numbers cannot agree at the end.
      · obtain ⟨gone, switch, hdelete, hless, -⟩ := hrest count { host with
          switch := { host.switch with control, refused := host.switch.refused + 1 } }
        rw [hrun]
        exact ⟨gone, switch, hdelete, Nat.le_of_succ_le hless,
          fun hsame => absurd (hsame ▸ hless) (Nat.not_succ_le_self _)⟩
      · have hafter : host.switch.tables.after (.deletePort bridge name)
            = host.switch.tables.without (joined bridge) [name] :=
          PortTables.after_deletePort _ _ (hnames name List.mem_cons_self)
        obtain ⟨gone, switch, hdelete, hless, hall⟩ := hrest (count + 1) { host with
          switch := { host.switch with
            control, tables := host.switch.tables.after (.deletePort bridge name) } }
        rw [hrun]
        refine ⟨gone, switch, hdelete, hless, fun hsame => ?_⟩
        obtain ⟨hgone, htables⟩ := hall hsame
        refine ⟨by rw [hgone, List.length_cons]; omega, ?_⟩
        rw [htables, hafter, PortTables.without_cons]

/-- The names of the ports of a bridge that begin as those of tunnel ports do. -/
def staleNames (table : KeyedTable String) : List String :=
  (table.entries.map Prod.fst).filter fun name => Text.startsWith name tunnelPortStem

/-- A listing shows each name as a line that reads as the name: no name has a line feed or
blanks around it. -/
def Listable (table : KeyedTable String) : Prop :=
  ∀ entry ∈ table.entries, '\n' ∉ entry.1.toList ∧ Text.trim entry.1 = entry.1

instance (table : KeyedTable String) : Decidable (Listable table) :=
  inferInstanceAs (Decidable (∀ entry ∈ table.entries, _ ∧ _))

/-- The names in a listing that begin so are those on the bridge. -/
theorem listedTunnelPorts_printed {tables : PortTables} {bridge : String}
    (hnames : Listable (tables bridge)) :
    listedTunnelPorts ((PortCommand.list bridge).printed tables) = staleNames (tables bridge) := by
  have hlines : Text.lines (String.join (((tables bridge).entries.map Prod.fst).map (· ++ "\n")))
      = (tables bridge).entries.map Prod.fst := Text.lines_join (List.forall_mem_map.2 hnames)
  rw [List.map_map] at hlines
  rw [listedTunnelPorts, PortCommand.printed, staleNames]
  refine congrArg (List.filter _) ?_
  calc (Text.lines (String.join ((tables bridge).entries.map fun entry => entry.1 ++ "\n"))).map
          Text.trim
      = ((tables bridge).entries.map Prod.fst).map Text.trim := congrArg (List.map _) hlines
    _ = ((tables bridge).entries.map Prod.fst).map id := List.map_congr_left
          (List.forall_mem_map.2 fun entry hentry => (hnames entry hentry).2)
    _ = (tables bridge).entries.map Prod.fst := List.map_id _

/-- What purging does to the ports: tunnel ports go, and they are counted. -/
structure Purged (settings : SwitchSettings) (before after : PortTables) (count : Nat) : Prop where
  /-- No tunnel port is left, -/
  gone : ∀ bridge name, settings.IsTunnel bridge name → (after bridge).get? name = none
  /-- any other port is what it was, -/
  others : ∀ bridge name, ¬ settings.IsTunnel bridge name →
    (after bridge).get? name = (before bridge).get? name
  /-- and the count says how many went. -/
  count : (before (joined settings.tunnelBridge)).size
    = (after (joined settings.tunnelBridge)).size + count

theorem purged_without (settings : SwitchSettings) (tables : PortTables) :
    let bridge := joined settings.tunnelBridge
    Purged settings tables (tables.without bridge (staleNames (tables bridge)))
      (staleNames (tables bridge)).length := by
  intro bridge
  have hstale : ∀ {name}, name ∈ staleNames (tables bridge) ↔
      (∃ remote, (tables bridge).get? name = some remote) ∧
        Text.startsWith name tunnelPortStem = true := by
    intro name
    simp only [staleNames, List.mem_filter, List.mem_map, Prod.exists, exists_and_right,
      exists_eq_right, KeyedTable.mem_entries_iff]
  refine ⟨fun b name htunnel => ?_, fun b name hother => ?_, ?_⟩
  · rw [PortTables.get?_without]
    split
    · rfl
    · rename_i hkept
      refine Option.eq_none_iff_forall_ne_some.2 fun remote hget => hkept ⟨htunnel.1, ?_⟩
      rw [htunnel.1] at hget
      exact hstale.2 ⟨⟨remote, hget⟩, htunnel.2⟩
  · rw [PortTables.get?_without, if_neg fun h => hother ⟨h.1, (hstale.1 h.2).2⟩]
  · rw [PortTables.without, if_pos rfl]
    exact KeyedTable.size_foldl_erase _ _

/-- **Purging**: if no command failed, the tunnel ports are gone and counted, and nothing else
has changed. -/
theorem purgeStalePorts_succeeds (settings : MeshSettings) (mesh : Mesh (PortSwitch σ))
    (hnames : Listable (mesh.host.switch.tables (joined settings.switch.tunnelBridge)))
    (hall : (purgeStalePorts settings mesh).2.host.switch.refused = mesh.host.switch.refused) :
    ∃ count switch, purgeStalePorts settings mesh
        = (.done count, { mesh with host := { mesh.host with switch } }) ∧
      Purged settings.switch mesh.host.switch.tables switch.tables count := by
  have hissue := Host.issue_eq (.listPorts settings.switch.tunnelBridge) mesh.host
  rcases PortSwitch.run_cases (.listPorts settings.switch.tunnelBridge) mesh.host.switch with
    ⟨e, control, hrun⟩ | ⟨control, hrun⟩
  · rw [hrun] at hissue
    rw [purgeStalePorts, onHost, Operation.within, Operation.bind_failed hissue] at hall
    exact absurd hall (Nat.succ_ne_self _)
  · have hlisting : listedTunnelPorts
        (mesh.host.switch.tables.output (.listPorts settings.switch.tunnelBridge))
        = staleNames (mesh.host.switch.tables (joined settings.switch.tunnelBridge)) := by
      rw [PortTables.output, PortCommand.ofLine?_listPorts]
      exact listedTunnelPorts_printed hnames
    have htables : mesh.host.switch.tables.after (.listPorts settings.switch.tunnelBridge)
        = mesh.host.switch.tables := by
      rw [PortTables.after, PortCommand.ofLine?_listPorts]
      rfl
    have hstale : ∀ name ∈ staleNames
        (mesh.host.switch.tables (joined settings.switch.tunnelBridge)), '\n' ∉ name.toList := by
      intro name hname
      obtain ⟨entry, hentry, rfl⟩ := List.mem_map.1 (List.mem_filter.1 hname).1
      exact (hnames entry hentry).1
    obtain ⟨gone, switch, hdelete, -, hgone⟩ := deletePorts_succeeds settings.switch.tunnelBridge
      hstale 0 { mesh.host with switch := { mesh.host.switch with control } }
    have hpurge : purgeStalePorts settings mesh
        = (.done gone, { mesh with host := { mesh.host with switch } }) := by
      refine onHost_done ?_
      rw [hrun, htables] at hissue
      rw [Operation.bind_done hissue, hlisting]
      exact hdelete
    rw [hpurge] at hall
    obtain ⟨hcount, hafter⟩ := hgone hall
    refine ⟨gone, switch, hpurge, ?_⟩
    rw [hcount, hafter, Nat.zero_add]
    exact purged_without _ _

/-! ## §3. The invariant. -/

/-- The name and the remote end of the port of a linked record. -/
def tunnelEnd : TunnelPort → Option (String × String)
  | .linked ofport agent => some (tunnelPortName ofport, agent.ip)
  | .unlinked _ => none

omit [CommandRunner σ] in
/-- A port that a record speaks of has a number that is in use. -/
theorem ofport_of_tunnelEnd {ports : List TunnelPort} {ofport : Nat} {remote : String}
    (h : (tunnelPortName ofport, remote) ∈ ports.filterMap tunnelEnd) :
    ofport ∈ linkedOfports ports := by
  obtain ⟨port, hport, hend⟩ := List.mem_filterMap.1 h
  cases port with
  | unlinked known => exact nomatch hend
  | linked n agent =>
      have hname : tunnelPortName n = tunnelPortName ofport :=
        congrArg Prod.fst (Option.some.inj hend)
      cases tunnelPortName_injective hname
      exact List.mem_filterMap.2 ⟨_, hport, rfl⟩

/-- The tunnel ports of the switch are those of the linked records, each with the address
recorded there; any other port is what it was before. -/
structure Mirrored (settings : SwitchSettings) (before tables : PortTables)
    (ports : List TunnelPort) : Prop where
  tunnels : ∀ bridge name remote, settings.IsTunnel bridge name →
    ((tables bridge).get? name = some remote ↔ (name, remote) ∈ ports.filterMap tunnelEnd)
  others : ∀ bridge name, ¬ settings.IsTunnel bridge name →
    (tables bridge).get? name = (before bridge).get? name

namespace Mirrored

variable {settings : MeshSettings} {before tables : PortTables} {ports : List TunnelPort}
  {ofports : IdSpace}

/-- **The port of a new tunnel** is put under a name that no record has. -/
theorem link (h : Mirrored settings.switch before tables ports)
    (htallied : Tallied settings.selfIp ports ofports) {later : IdSpace} {n : Nat} {agent : Agent}
    (htake : ofports.allocate = (.ok n, later)) (hunlinked : Unlinked ports agent.id)
    (hip : '\n' ∉ agent.ip.toList) :
    Mirrored settings.switch before (tables.after (.addVxlanPort settings.switch.tunnelBridge
      (vxlanPort settings n agent))) (putPort (.linked n agent) ports) := by
  have hafter : tables.after (.addVxlanPort settings.switch.tunnelBridge
      (vxlanPort settings n agent)) = (PortCommand.put (joined settings.switch.tunnelBridge)
        (tunnelPortName n) agent.ip).carryOut tables :=
    PortTables.after_addVxlanPort _ _ (lineFeed_not_mem_tunnelPortName n) hip
  have hperm : ((putPort (.linked n agent) ports).filterMap tunnelEnd).Perm
      ((tunnelPortName n, agent.ip) :: ports.filterMap tunnelEnd) :=
    filterMap_link (fun _ => rfl) hunlinked
  rw [hafter]
  refine ⟨fun bridge name remote htunnel => ?_, fun bridge name hother => ?_⟩
  · rw [PortCommand.get?_carryOut_put, hperm.mem_iff, List.mem_cons, Prod.mk.injEq]
    by_cases hname : name = tunnelPortName n
    -- The number was free, so no record speaks of a port with this name.
    · have hnew : (name, remote) ∉ ports.filterMap tunnelEnd := fun hold =>
        htallied.untaken htake (.inr (.inr (ofport_of_tunnelEnd (hname ▸ hold))))
      rw [if_pos ⟨htunnel.1, hname⟩, Option.some.injEq]
      simp only [hname, true_and, eq_comm (a := remote)]
      exact ⟨.inl, fun hmem => hmem.resolve_right (hname ▸ hnew)⟩
    · rw [if_neg fun hsame => hname hsame.2, h.tunnels bridge name remote htunnel]
      simp only [hname, false_and, false_or]
  · rw [PortCommand.get?_carryOut_put, if_neg, h.others bridge name hother]
    rintro ⟨hbridge, rfl⟩
    exact hother ⟨hbridge, startsWith_tunnelPortName n⟩

/-- **The port of a tunnel that is gone** was that of no other record. -/
theorem unlink (h : Mirrored settings.switch before tables ports)
    (htallied : Tallied settings.selfIp ports ofports) {n : Nat} {gone known : Agent}
    (hport : portOf ports gone.id = some (.linked n known)) :
    Mirrored settings.switch before (tables.after (.deletePort settings.switch.tunnelBridge
      (tunnelPortName n))) (putPort (.unlinked gone) ports) := by
  have hperm : ((putPort (.unlinked gone) ports).filterMap tunnelEnd
      ++ [(tunnelPortName n, known.ip)]).Perm (ports.filterMap tunnelEnd) :=
    filterMap_unlink rfl hport
  rw [PortTables.after_deletePort _ _ (lineFeed_not_mem_tunnelPortName n)]
  refine ⟨fun bridge name remote htunnel => ?_, fun bridge name hother => ?_⟩
  · rw [PortCommand.get?_carryOut_drop]
    by_cases hname : name = tunnelPortName n
    -- No other record has the number, so none still speaks of the port.
    · rw [if_pos ⟨htunnel.1, hname⟩]
      exact ⟨nofun, fun hmem => absurd (ofport_of_tunnelEnd (hname ▸ hmem))
        (htallied.freed hport)⟩
    · rw [if_neg fun hsame => hname hsame.2, h.tunnels bridge name remote htunnel,
        ← hperm.mem_iff, List.mem_append, List.mem_singleton, Prod.mk.injEq]
      simp only [hname, false_and, or_false]
  · rw [PortCommand.get?_carryOut_drop, if_neg, h.others bridge name hother]
    rintro ⟨hbridge, rfl⟩
    exact hother ⟨hbridge, startsWith_tunnelPortName n⟩

end Mirrored

/-- After purging there are no tunnel ports, as there are no records. -/
theorem Purged.mirrored {settings : SwitchSettings} {before tables : PortTables} {count : Nat}
    (h : Purged settings before tables count) : Mirrored settings before tables [] where
  tunnels bridge name remote htunnel := by
    rw [h.gone bridge name htunnel]
    exact ⟨nofun, nofun⟩
  others := h.others

/-! ## §4. Operations. -/

theorem issueWithRetry_allOrNothing (settings : MeshSettings) (command : SwitchCommand) :
    Operation.AllOrNothing (fun mesh : Mesh (PortSwitch σ) => mesh.host.switch.tables)
      (PortTables.after command) (issueWithRetry settings command) := fun mesh =>
  Operation.allOrNothing_retryMore (fun _ _ => rfl) settings.switch.commandRetryMs
    (Host.issue_allOrNothing command) (settings.switch.commandAttempts - 1) mesh.host

/-- Rebuilding the rules touches no port. -/
theorem rebuild_tables {settings : MeshSettings} {mesh mesh' : Mesh (PortSwitch σ)}
    {outcome : Outcome RebuildSummary} (h : rebuild settings mesh = (outcome, mesh')) :
    mesh'.host.switch.tables = mesh.host.switch.tables ∧ mesh'.ports = mesh.ports := by
  have hrebuild := rebuild_eq settings mesh
  rw [h] at hrebuild
  cases hrebuild
  exact ⟨PortSwitch.tables_runAll (settings.switch.rebuildCommands_ports _ _) _, rfl⟩

/-- Records, numbers and the ports of the switch belong together. -/
structure InAccord (settings : MeshSettings) (before : PortTables)
    (earlier mesh : Mesh (PortSwitch σ)) : Prop where
  inStep : InStep settings earlier mesh
  mirrored : Mirrored settings.switch before mesh.host.switch.tables mesh.ports

namespace InAccord

variable {settings : MeshSettings} {before : PortTables} {earlier mesh : Mesh (PortSwitch σ)}

/-- **Creating a tunnel keeps the mirror**, however it ends. -/
theorem created (h : InAccord settings before earlier mesh) {agent : Agent}
    (hip : agent.ip ≠ settings.selfIp) (hready : agent.status = .ready)
    (hunlinked : Unlinked mesh.ports agent.id) (hfeed : '\n' ∉ agent.ip.toList) :
    InAccord settings before earlier (createLink settings agent mesh).2 := by
  refine ⟨h.inStep.created hip hready hunlinked, ?_⟩
  generalize hmade : createLink settings agent mesh = made
  have hends := createLink_ends settings agent mesh
  rw [hmade] at hends
  cases hends with
  | exhausted => exact h.mirrored
  | @refused ofport ofports e host htake hissue =>
      have htables := (issueWithRetry_allOrNothing _ _).failed hissue
      exact htables ▸ h.mirrored
  | @abandoned ofport ofports host htake hissue =>
      have htables := (issueWithRetry_allOrNothing _ _).abandoned hissue
      exact htables ▸ h.mirrored
  | @linked ofport ofports text host summary mesh' htake hissue hrebuild =>
      have htables := (issueWithRetry_allOrNothing _ _).done hissue
      obtain ⟨hkept, hports⟩ := rebuild_tables hrebuild
      rw [hkept, hports]
      exact htables ▸ h.mirrored.link h.inStep.tallied htake hunlinked hfeed

/-- **Deleting a tunnel keeps the mirror**, however it ends. -/
theorem deleted (h : InAccord settings before earlier mesh) (agent : Agent) :
    InAccord settings before earlier (deleteLink settings agent mesh).2 := by
  refine ⟨h.inStep.deleted agent, ?_⟩
  generalize hunmade : deleteLink settings agent mesh = unmade
  have hends := deleteLink_ends settings agent mesh
  rw [hunmade] at hends
  cases hends with
  | idle => exact h.mirrored
  | @refused ofport known e host hport hissue =>
      have htables := (issueWithRetry_allOrNothing _ _).failed hissue
      exact htables ▸ h.mirrored
  | @abandoned ofport known host hport hissue =>
      have htables := (issueWithRetry_allOrNothing _ _).abandoned hissue
      exact htables ▸ h.mirrored
  | @unlinked ofport known text host summary mesh' hport hissue hrebuild =>
      have htables := (issueWithRetry_allOrNothing _ _).done hissue
      have hgone : portOf mesh.ports { known with status := agent.status }.id
          = some (.linked ofport known) := by
        rw [show known.id = agent.id from peerId_of_portOf hport, hport]
      obtain ⟨hkept, hports⟩ := rebuild_tables hrebuild
      rw [hkept, hports]
      exact htables ▸ h.mirrored.unlink h.inStep.tallied hgone

end InAccord

/-- There is no line feed in the addresses that a request speaks of. -/
def Request.Plain (request : Request) : Prop :=
  ∀ agent ∈ request.agents, '\n' ∉ agent.ip.toList

/-- **A request keeps the mirror**, however it ends. -/
theorem InAccord.served {settings : MeshSettings} {before : PortTables}
    {earlier mesh : Mesh (PortSwitch σ)} (h : InAccord settings before earlier mesh)
    {request : Request} (hplain : request.Plain) :
    InAccord settings before earlier (serve settings mesh request) := by
  refine serve_keeps (P := InAccord settings before earlier) (fun mesh networks hmesh => ?_)
    (fun agent hmem hip hready mesh hmesh hunlinked =>
      hmesh.created hip hready hunlinked (hplain agent hmem))
    (fun agent _ _ mesh hmesh => hmesh.deleted agent) mesh h
  have hnetworks : InStep settings earlier { mesh with networks } :=
    ⟨hmesh.inStep.tallied, hmesh.inStep.unhurried, hmesh.inStep.peers⟩
  refine ⟨hnetworks.rebuilt, ?_⟩
  cases hrebuild : rebuild settings { mesh with networks } with
  | mk outcome mesh' =>
      obtain ⟨hkept, hports⟩ := rebuild_tables hrebuild
      rw [hkept, hports]
      exact hmesh.mirrored

theorem InAccord.serves {settings : MeshSettings} {before : PortTables}
    {earlier : Mesh (PortSwitch σ)} {requests : List Request}
    (hplain : ∀ request ∈ requests, request.Plain) : ∀ mesh : Mesh (PortSwitch σ),
    InAccord settings before earlier mesh →
      InAccord settings before earlier (requests.foldl (serve settings) mesh) := by
  induction requests with
  | nil => exact fun mesh h => h
  | cons request rest ih =>
      intro mesh h
      exact ih (fun other hother => hplain other (List.mem_cons_of_mem request hother)) _
        (h.served (hplain request List.mem_cons_self))

/-- **The ports of the switch after any requests.**  An overlay without records purges the
ports of an earlier run, on a switch with any ports that it can list, and no command of that
fails.  Then no tunnel port is left, the other ports are what they were, and those that went
are counted.  After any requests from there on, whatever commands fail, the tunnel ports are
those of the linked records, each with the address recorded there, and the other ports are
still what they were. -/
theorem mirrored_after {settings : MeshSettings} {switch : PortSwitch σ} {requests : List Request}
    (networks : List Network) (now : Nat)
    (hnames : Listable (switch.tables (joined settings.switch.tunnelBridge)))
    (hpurge : (purgeStalePorts settings (untunneled networks switch now)).2.host.switch.refused
      = switch.refused)
    (hplain : ∀ request ∈ requests, request.Plain) :
    ∃ count mesh, purgeStalePorts settings (untunneled networks switch now) = (.done count, mesh) ∧
      Purged settings.switch switch.tables mesh.host.switch.tables count ∧
      let mesh' := requests.foldl (serve settings) mesh
      Mirrored settings.switch switch.tables mesh'.host.switch.tables mesh'.ports := by
  obtain ⟨count, after, hdone, hpurged⟩ :=
    purgeStalePorts_succeeds settings (untunneled networks switch now) hnames hpurge
  refine ⟨count, _, hdone, hpurged, ?_⟩
  have hstart : InAccord settings switch.tables (untunneled networks after now)
      (untunneled networks after now) :=
    ⟨⟨Tallied.fresh, rfl, List.prefix_rfl⟩, hpurged.mirrored⟩
  exact (InAccord.serves hplain _ hstart).mirrored

/-- A switch with a port of an earlier run.  It lists and deletes ports, and of the commands
after these it refuses the first. -/
def leftover : PortSwitch Faltering where
  control := { answers := [true, true, false] }
  tables bridge := if bridge = "br-tun"
    then .ofList [("patch-int", ""), ("vxlan-9", "10.0.0.9")] else .empty

/-- The first tunnel takes its place. -/
theorem mirrored_after_leftover : ∃ mesh,
    purgeStalePorts nearHost (untunneled [] leftover 0) = (.done 1, mesh) ∧
      Purged nearHost.switch leftover.tables mesh.host.switch.tables 1 ∧
      let mesh' := [Request.sync { agents := [farAgent] }].foldl (serve nearHost) mesh
      mesh'.ports = [.linked 2 farAgent] ∧
        Mirrored nearHost.switch leftover.tables mesh'.host.switch.tables mesh'.ports := by
  have hnames : Listable (leftover.tables (joined nearHost.switch.tunnelBridge)) := by
    decide +kernel
  have hpurge : (purgeStalePorts nearHost (untunneled [] leftover 0)).2.host.switch.refused
      = leftover.refused := by decide +kernel
  have hplain : ∀ request ∈ [Request.sync { agents := [farAgent] }], request.Plain :=
    List.forall_mem_singleton.2 fun agent hagent => by
      rw [List.mem_singleton.1 hagent]
      decide
  obtain ⟨count, mesh, hdone, hpurged, hmirrored⟩ := mirrored_after [] 0 hnames hpurge hplain
  have hone : (purgeStalePorts nearHost (untunneled [] leftover 0)).1 = .done 1 := by
    decide +kernel
  have hports : (serve nearHost (purgeStalePorts nearHost (untunneled [] leftover 0)).2
      (.sync { agents := [farAgent] })).ports = [.linked 2 farAgent] := by decide +kernel
  rw [hdone] at hone hports
  cases hone
  exact ⟨mesh, hdone, hpurged, hports, hmirrored⟩

end Mesh

end VxlanMesh
