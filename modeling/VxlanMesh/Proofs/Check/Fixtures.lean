/-
  VxlanMesh.Proofs.Check.Fixtures
  ────────────────────────────────
  **WHAT A FIXTURE SERVES, THE AGENT UNDERSTANDS.**

  Fixtures write their snapshots themselves.  They write what the agent
  would write of the same snapshot (`toJson_eq`), so the agent reads it
  back; and the interval that the agent finds in it is what the number or
  the text of the fixture means:

      saysSeconds_iff      what an interval means
      body_is_understood   the main result
-/
import VxlanMesh.Check.Fixture
import VxlanMesh.Proofs.Overlay.Intervals
import VxlanMesh.Proofs.Overlay.Snapshots

namespace VxlanMesh.Check

/-! ## §1. The snapshot of a fixture. -/

/-- The status that an agent of the fixture has. -/
def PeerStatus.reported : PeerStatus → AgentStatus
  | ready => .ready
  | down => .down

/-- The agent that the fixture means. -/
def AgentFixture.reported (agent : AgentFixture) : Agent where
  id := agent.id
  ip := agent.ip
  status := agent.status.reported

/-- The snapshot that the fixture means. -/
def TopologyFixture.snapshot (fixture : TopologyFixture) : Topology where
  agents := fixture.agents.map AgentFixture.reported
  interval := fixture.interval.map TopologyFixture.intervalJson

namespace TopologyFixture

/-- **A fixture is written as its snapshot is.** -/
theorem toJson_eq (fixture : TopologyFixture) : fixture.toJson = fixture.snapshot.toJson := by
  have hagent : agentJson = Agent.toJson ∘ AgentFixture.reported := by
    funext ⟨id, ip, status⟩
    cases status <;> rfl
  rw [toJson, Topology.toJson, snapshot, List.map_map, hagent, Option.map_map]
  rfl

end TopologyFixture

/-! ## §2. What an interval means. -/

/-- The number that an interval means: a number means itself, a text means the number that it
denotes between blanks. -/
def IntervalFixture.Means : IntervalFixture → Nat → Prop
  | .seconds n, v => v = n
  | .text s, v => ∃ before number after, s.toList = before ++ number ++ after ∧
      (∀ c ∈ before, Text.isBlank c = true) ∧ (∀ c ∈ after, Text.isBlank c = true) ∧
        Numeral.Denotes number v

/-- **The snapshot of a fixture says the number that the fixture means.** -/
theorem saysSeconds_iff {interval : IntervalFixture} {v : Nat} :
    (TopologyFixture.intervalJson interval).SaysSeconds v ↔ interval.Means v := by
  cases interval with
  | seconds n =>
      constructor
      · intro hsays
        cases hsays
        rfl
      · rintro rfl
        exact .number v
  | text s =>
      constructor
      · intro hsays
        cases hsays with
        | text hdenotes => exact hdenotes
      · exact .text

namespace TopologyFixture

/-- A number of 64 bits and any text are intervals that are read back. -/
theorem ofText?_body {fixture : TopologyFixture}
    (h : ∀ n, fixture.interval = some (.seconds n) → n < 2 ^ 64) :
    Topology.ofText? fixture.body = some fixture.snapshot := by
  rw [body, toJson_eq]
  refine Topology.ofText?_compact fun v hv => ?_
  obtain ⟨interval, hinterval, rfl⟩ := Option.map_eq_some_iff.1 hv
  cases interval with
  | text s => exact ⟨rfl, rfl, nofun⟩
  | seconds n =>
      have hmax : Json.Reader.largestWord = 18446744073709551615 := by decide
      have hsmall := h n hinterval
      refine ⟨decide_eq_true ?_, rfl, nofun⟩
      rw [hmax]
      omega

/-- **The agent understands what a fixture serves.**  The text is read as a snapshot, with the
agents of the fixture in their order; and the interval that it suggests is the number that
the fixture means by its number or its text, if that is between a second and a day, and none
otherwise. -/
theorem body_is_understood (fixture : TopologyFixture)
    (hbits : ∀ n, fixture.interval = some (.seconds n) → n < 2 ^ 64) :
    ∃ t, Topology.ofText? fixture.body = some t ∧
      t.agents = fixture.agents.map AgentFixture.reported ∧
      ∀ v, t.suggestedSeconds = some v ↔
        ∃ interval ∈ fixture.interval, interval.Means v ∧ 1 ≤ v ∧ v ≤ 86400 := by
  refine ⟨fixture.snapshot, ofText?_body hbits, rfl, fun v => ?_⟩
  rw [Topology.suggestedSeconds_eq_some_iff, Topology.Suggests]
  constructor
  · rintro ⟨⟨json, hjson, hsays⟩, hbounds⟩
    obtain ⟨interval, hinterval, rfl⟩ := Option.map_eq_some_iff.1 hjson
    exact ⟨interval, hinterval, saysSeconds_iff.1 hsays, hbounds⟩
  · rintro ⟨interval, hinterval, hmeans, hbounds⟩
    have hjson : TopologyFixture.intervalJson interval ∈ fixture.snapshot.interval :=
      Option.mem_map_of_mem _ hinterval
    exact ⟨⟨_, hjson, saysSeconds_iff.2 hmeans⟩, hbounds⟩

/-- A day as a number, leading zeros between blanks beyond ASCII, and a number of more than 64
bits, with ids and addresses that have to be escaped. -/
theorem body_is_understood_escaped :
    let agents : List AgentFixture := [⟨"n\"1\n", "", .ready⟩, ⟨"n\u00e9", "\\\x00", .down⟩]
    let read := fun interval => Topology.ofText? (body ⟨agents, some interval⟩)
    (∃ t, read (.seconds 86400) = some t ∧ t.suggestedSeconds = some 86400 ∧
      t.agents = [⟨"n\"1\n", "", .ready⟩, ⟨"n\u00e9", "\\\x00", .down⟩]) ∧
    (∃ t, read (.text "\u00a0+0042\u2003") = some t ∧ t.suggestedSeconds = some 42) ∧
    ∃ t, read (.text "18446744073709551658") = some t ∧ t.suggestedSeconds = none := by
  intro agents read
  obtain ⟨t, ht, hagents, hseconds⟩ := body_is_understood ⟨agents, some (.seconds 86400)⟩
    (by rintro _ ⟨⟩; decide)
  obtain ⟨t', ht', -, hseconds'⟩ := body_is_understood
    ⟨agents, some (.text "\u00a0+0042\u2003")⟩ nofun
  refine ⟨⟨t, ht, ?_, hagents⟩, ⟨t', ht', ?_⟩, _, ofText?_body nofun, by decide⟩
  · exact (hseconds 86400).2 ⟨_, rfl, rfl, by decide⟩
  · have hdenotes : Numeral.Denotes "+0042".toList 42 :=
      ⟨['+'], "0042".toList, by decide, .inr rfl, by decide, List.all_eq_true.1 (by decide),
        by decide⟩
    exact (hseconds' 42).2 ⟨_, rfl, ⟨['\u00a0'], "+0042".toList, ['\u2003'], by decide,
      List.all_eq_true.1 (by decide), List.all_eq_true.1 (by decide), hdenotes⟩, by decide⟩

end TopologyFixture

end VxlanMesh.Check
