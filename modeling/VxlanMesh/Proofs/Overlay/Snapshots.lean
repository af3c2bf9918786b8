/-
  VxlanMesh.Proofs.Overlay.Snapshots
  ────────────────────────────────
  **A SNAPSHOT THAT WAS READ IS WRITTEN AND READ AGAIN.**

  A snapshot can be written in many ways: as a mapping or as a sequence of
  its fields, with members that nobody knows, without an interval or with
  null for one, with any word for a status.  What it says is `Says`, and
  there is one form in which it is written:

      says_of_decode?     what is read is what the document says
      decode?_toJson      the form that is written is read as the snapshot
      ofText?_rewritten   the main result, for all texts that are read
-/
import VxlanMesh.Overlay.Topology
import VxlanMesh.Proofs.Json.Canonical

namespace VxlanMesh

/-! ## §1. What documents say. -/

/-- A status is said by a word, or by a mapping from the word to null. -/
inductive AgentStatus.Word : Document → String → Prop
  | text (word : String) : Word (.text (some word)) word
  | key (word : String) : Word (.mapping [(some word, .null)]) word

/-- The document says the agent; a status is told by its word, and all words but two say that
the status is not known. -/
def Agent.Says (doc : Document) (agent : Agent) : Prop :=
  ∃ status word, Document.fields? ["id", "ip", "status"] false doc
      = some [some (.text (some agent.id)), some (.text (some agent.ip)), some status] ∧
    AgentStatus.Word status word ∧ agent.status = .ofName word

/-- The document says the snapshot: agents in their order if there are any, and an interval
unless it is absent or null. -/
def Topology.Says (doc : Document) (t : Topology) : Prop :=
  ∃ agents interval, Document.fields? ["agents", "interval"] false doc = some [agents, interval] ∧
    (agents = none ∧ t.agents = [] ∨
      ∃ items, agents = some (.sequence items) ∧ List.Forall₂ Agent.Says items t.agents) ∧
    (t.interval = none ↔ ∀ part ∈ interval, part = .null) ∧
    ∀ v ∈ t.interval, ∃ part ∈ interval, part.value? (nestingLimit - 1) = some v

namespace AgentStatus

theorem word_of_decode? {depth : Nat} {doc : Document} {status : AgentStatus}
    (h : decode? depth doc = some status) : ∃ word, Word doc word ∧ status = ofName word := by
  unfold decode? at h
  split at h
  · rename_i word
    exact ⟨word, .text word, (Option.some.inj h).symm⟩
  · rename_i word
    exact ⟨word, .key word, (Option.some.inj h).symm⟩
  · exact nomatch h

theorem ofName_name (status : AgentStatus) : ofName status.name = status := by
  cases status <;> decide

end AgentStatus

theorem Document.text_of_required {depth : Nat} {field : Option Document} {s : String}
    (h : required string? depth field = some s) : field = some (.text (some s)) := by
  cases field with
  | none => exact nomatch h
  | some doc =>
      cases doc with
      | text value => exact congrArg (fun value => some (Document.text value)) h
      | null | bool _ | number _ | sequence _ | mapping _ => exact nomatch h

/-- Null is said by null only. -/
theorem Document.null_of_value? {depth : Nat} : ∀ doc : Document,
    value? depth doc = some .null → doc = .null
  | .null, _ => rfl
  | .bool _, h => nomatch h
  | .number n, h => by
      obtain ⟨_, -, heq⟩ := Option.map_eq_some_iff.1 h
      exact nomatch heq
  | .text s, h => by
      obtain ⟨_, -, heq⟩ := Option.map_eq_some_iff.1 h
      exact nomatch heq
  | .sequence items, h => by
      cases depth with
      | zero => exact nomatch h
      | succ depth =>
          obtain ⟨_, -, heq⟩ := Option.map_eq_some_iff.1 h
          exact nomatch heq
  | .mapping members, h => by
      cases depth with
      | zero => exact nomatch h
      | succ depth =>
          obtain ⟨_, -, heq⟩ := Option.map_eq_some_iff.1 h
          exact nomatch heq

theorem Agent.says_of_decode? {depth : Nat} {doc : Document} {agent : Agent}
    (h : decode? depth doc = some agent) : agent.Says doc := by
  cases depth with
  | zero => exact nomatch h
  | succ depth =>
      obtain ⟨fields, hfields, hbuild⟩ := Option.bind_eq_some_iff.1 h
      dsimp only at hbuild
      split at hbuild
      · rename_i id ip status
        obtain ⟨idText, hid, hbuild⟩ := Option.bind_eq_some_iff.1 hbuild
        obtain ⟨ipText, hip, hbuild⟩ := Option.bind_eq_some_iff.1 hbuild
        obtain ⟨said, hstatus, hbuild⟩ := Option.bind_eq_some_iff.1 hbuild
        obtain rfl := Option.some.inj hbuild
        cases status with
        | none => exact nomatch hstatus
        | some status =>
            obtain ⟨word, hword, hsaid⟩ := AgentStatus.word_of_decode? hstatus
            rw [Document.text_of_required hid, Document.text_of_required hip] at hfields
            exact ⟨status, word, hfields, hword, hsaid⟩
      · exact nomatch hbuild

/-- The agents of a snapshot are those of its field, none if there is none. -/
theorem Agent.says_of_decodeAll? {depth : Nat} {field : Option Document} {agents : List Agent}
    (h : Document.defaulted [] (Document.sequence? decode?) depth field = some agents) :
    field = none ∧ agents = [] ∨
      ∃ items, field = some (.sequence items) ∧ List.Forall₂ Says items agents := by
  cases field with
  | none => exact .inl ⟨rfl, (Option.some.inj h).symm⟩
  | some doc =>
      rw [Document.defaulted, Document.sequence?.eq_def] at h
      split at h
      · rename_i inner items
        exact .inr ⟨items, rfl, (forall₂_of_mapM h).imp fun _ _ => says_of_decode?⟩
      · exact nomatch h

/-- An interval is absent or null, or any value. -/
theorem Topology.interval_of_decode? {depth : Nat} {field : Option Document}
    {interval : Option Json}
    (h : Document.defaulted none (Document.optional? Document.any?) depth field = some interval) :
    (interval = none ↔ ∀ part ∈ field, part = .null) ∧
      ∀ v ∈ interval, ∃ part ∈ field, part ≠ .null ∧ part.value? depth = some v := by
  cases field with
  | none =>
      obtain rfl := Option.some.inj h
      exact ⟨iff_of_true rfl nofun, nofun⟩
  | some doc =>
      rw [Document.defaulted, Document.optional?.eq_def] at h
      split at h
      · obtain rfl := Option.some.inj h
        exact ⟨iff_of_true rfl fun part hpart => (Option.some.inj hpart).symm, nofun⟩
      · rename_i hother
        obtain ⟨v, hv, rfl⟩ := Option.map_eq_some_iff.1 h
        refine ⟨iff_of_false nofun fun hnull => hother (hnull doc rfl), ?_⟩
        rintro _ ⟨⟩
        exact ⟨doc, rfl, hother, hv⟩

/-- A snapshot is read from its two fields. -/
theorem Topology.fields_of_decode? {depth : Nat} {doc : Document} {t : Topology}
    (h : decode? (depth + 1) doc = some t) :
    ∃ agents interval, Document.fields? ["agents", "interval"] false doc = some [agents, interval] ∧
      Document.defaulted [] (Document.sequence? Agent.decode?) depth agents = some t.agents ∧
      Document.defaulted none (Document.optional? Document.any?) depth interval
        = some t.interval := by
  obtain ⟨fields, hfields, hbuild⟩ := Option.bind_eq_some_iff.1 h
  dsimp only at hbuild
  split at hbuild
  · rename_i agents interval
    obtain ⟨list, hagents, hbuild⟩ := Option.bind_eq_some_iff.1 hbuild
    obtain ⟨value, hinterval, hbuild⟩ := Option.bind_eq_some_iff.1 hbuild
    obtain rfl := Option.some.inj hbuild
    exact ⟨agents, interval, hfields, hagents, hinterval⟩
  · exact nomatch hbuild

/-- **What is read from a document is what it says.** -/
theorem Topology.says_of_decode? {doc : Document} {t : Topology}
    (h : decode? nestingLimit doc = some t) : t.Says doc := by
  obtain ⟨agents, interval, hfields, hagents, hinterval⟩ := fields_of_decode? h
  obtain ⟨habsent, hvalue⟩ := interval_of_decode? hinterval
  refine ⟨agents, interval, hfields, Agent.says_of_decodeAll? hagents, habsent, fun v hv => ?_⟩
  obtain ⟨part, hpart, -, hread⟩ := hvalue v hv
  exact ⟨part, hpart, hread⟩

/-! ## §2. The form that is written. -/

theorem AgentStatus.decode?_name (status : AgentStatus) (depth : Nat) :
    decode? depth (.text (some status.name)) = some status := by
  have hword : decode? depth (.text (some status.name)) = some (ofName status.name) := by
    cases depth <;> rfl
  rw [hword, ofName_name]

/-- **An agent is read back from its document.** -/
theorem Agent.decode?_toJson (agent : Agent) (depth : Nat) :
    decode? (depth + 1) (.ofValue agent.toJson) = some agent := by
  show (do
    let status ← AgentStatus.decode? depth (.text (some agent.status.name))
    pure (⟨agent.id, agent.ip, status⟩ : Agent)) = some agent
  rw [AgentStatus.decode?_name]
  rfl

/-- **A snapshot is read back from its document**, with any interval that is read back. -/
theorem Topology.decode?_toJson {t : Topology} (depth : Nat)
    (hinterval : ∀ v ∈ t.interval, Document.ReadAgain (depth + 2) v ∧ v ≠ .null) :
    decode? (depth + 3) (.ofValue t.toJson) = some t := by
  have hagents : Document.sequence? Agent.decode? (depth + 2)
      (.sequence (Document.ofValues (t.agents.map Agent.toJson))) = some t.agents := by
    rw [Document.ofValues_map, Document.sequence?, List.mapM_map]
    exact mapM_eq_self fun agent _ => agent.decode?_toJson depth
  obtain ⟨agents, interval⟩ := t
  cases interval with
  | none =>
      show (do
        let agents ← Document.sequence? Agent.decode? (depth + 2)
          (.sequence (Document.ofValues (agents.map Agent.toJson)))
        pure (⟨agents, none⟩ : Topology)) = some ⟨agents, none⟩
      rw [hagents]
      rfl
  | some v =>
      obtain ⟨hagain, hnull⟩ := hinterval v rfl
      have hvalue : Document.optional? Document.any? (depth + 2) (.ofValue v) = some (some v) := by
        have hread : Document.any? (depth + 2) (.ofValue v) = some v := hagain
        rw [Document.optional?.eq_def]
        split
        · rename_i hdoc
          cases v <;> first | exact absurd rfl hnull | exact nomatch hdoc
        · rw [hread]
          rfl
      show (do
        let agents ← Document.sequence? Agent.decode? (depth + 2)
          (.sequence (Document.ofValues (agents.map Agent.toJson)))
        let interval ← Document.optional? Document.any? (depth + 2) (.ofValue v)
        pure (⟨agents, interval⟩ : Topology)) = some ⟨agents, some v⟩
      rw [hagents, hvalue]
      rfl

theorem Topology.isExact_toJson {t : Topology} (h : ∀ v ∈ t.interval, v.isExact = true) :
    t.toJson.isExact = true := by
  have hagents : ∀ agents : List Agent,
      Json.allNumbersOf Json.Number.isExact (agents.map Agent.toJson) = true :=
    fun agents => Json.allNumbersOf_iff.2 (List.forall_mem_map.2 fun _ _ => rfl)
  obtain ⟨agents, interval⟩ := t
  cases interval with
  | none => simp [toJson, Json.isExact, Json.allNumbers, Json.allNumbersIn, hagents]
  | some v =>
      have hv : v.allNumbers Json.Number.isExact = true := h v rfl
      simp [toJson, Json.isExact, Json.allNumbers, Json.allNumbersIn, hagents, hv]

/-! ## §3. Texts. -/

namespace Topology

/-- **A snapshot that is written is read back**, if its interval was read. -/
theorem ofText?_compact {t : Topology}
    (h : ∀ v ∈ t.interval, v.isExact = true ∧ Document.ReadAgain (nestingLimit - 1) v ∧ v ≠ .null) :
    ofText? t.toJson.compact = some t := by
  rw [ofText?, Document.decodeText?, Document.ofJsonText?_compact
    (isExact_toJson fun v hv => (h v hv).1)]
  exact decode?_toJson 124 fun v hv => (h v hv).2

/-- **A snapshot that was read from any text is read again from the text that is written of
it**, unless there is a double in its interval.  It is what the first text said: the agents in
their order, each with its id, its address and the status of its word, and the interval, which
is absent if it was absent or null and only then. -/
theorem ofText?_rewritten {text : String} {t : Topology} (h : ofText? text = some t)
    (hwhole : ∀ v ∈ t.interval, v.isWhole = true) :
    (∃ doc, Document.ofJsonText? text = some doc ∧ t.Says doc) ∧
      ofText? t.toJson.compact = some t := by
  obtain ⟨doc, hdoc, hdecode⟩ := Option.bind_eq_some_iff.1 h
  refine ⟨⟨doc, hdoc, says_of_decode? hdecode⟩, ofText?_compact fun v hv => ?_⟩
  obtain ⟨agents, interval, hfields, -, hinterval⟩ := fields_of_decode? hdecode
  obtain ⟨part, hpart, hother, hvalue⟩ := (interval_of_decode? hinterval).2 v hv
  have hfound : part.allNumbers Json.Number.isFound = true :=
    Document.allNumbers_fields? (Document.allNumbers_ofJsonText? hdoc) hfields interval
      (by simp) part hpart
  refine ⟨Json.isExact_of_isWhole (Document.allNumbers_value? part hvalue hfound) (hwhole v hv),
    Document.value?_ofValue part hvalue, ?_⟩
  rintro rfl
  exact hother (Document.null_of_value? part hvalue)

/-- Fields in their order, an agent with a status of its own kind and an interval with a member
that stands twice, the first time with a double: nothing of this is in the text that is
written. -/
theorem ofText?_rewritten_sequence :
    let text := "[[[\"n1\",\"\",\"ready\"],\x7b\"status\":\x7b\"draining\":null\x7d,"
      ++ "\"ip\":\"\\u00e9\",\"id\":\"n2\"\x7d],\x7b\"b\":1.5,\"a\":[-5],\"b\":7\x7d]"
    let written := "\x7b\"agents\":[\x7b\"id\":\"n1\",\"ip\":\"\",\"status\":\"ready\"\x7d,"
      ++ "\x7b\"id\":\"n2\",\"ip\":\"\u00e9\",\"status\":\"unknown\"\x7d],"
      ++ "\"interval\":\x7b\"a\":[-5],\"b\":7\x7d\x7d"
    ∃ t, ofText? text = some t ∧ t.agents = [⟨"n1", "", .ready⟩, ⟨"n2", "\u00e9", .unknown⟩] ∧
      t.toJson.compact = written ∧ ofText? written = some t := by
  intro text written
  have hread : (ofText? text).any (fun t => t.agents = [⟨"n1", "", .ready⟩,
      ⟨"n2", "\u00e9", .unknown⟩] ∧ t.toJson.compact = written ∧
        t.interval.all Json.isWhole = true) = true := by
    decide +kernel
  obtain ⟨t, ht, hfacts⟩ := (Option.any_eq_true _ _).1 hread
  obtain ⟨hagents, hwritten, hwhole⟩ := of_decide_eq_true hfacts
  refine ⟨t, ht, hagents, hwritten, ?_⟩
  rw [← hwritten]
  exact (ofText?_rewritten ht fun v hv => by rw [hv] at hwhole; exact hwhole).2

end Topology

end VxlanMesh
