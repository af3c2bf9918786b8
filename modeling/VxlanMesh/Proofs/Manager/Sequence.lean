/-
  VxlanMesh.Proofs.Manager.Sequence
  ────────────────────────────────
  **IN WHICH ORDER A CLIENT ACTS.**

  The history of a client lists what it has done: requests with their
  answers, pauses, snapshots handed over, tickers started, ticks.  Where
  the client stands after a history is a `Phase`:

      asking ── refusal ──▶ refused ── pause ──▶ asking
      asking ── snapshot ─▶ holding ── feed ───▶ waiting   (same interval)
                                    ── feed ───▶ between   (another one)
      between ── ticker ──▶ waiting ── tick ───▶ asking

  Every task of the client keeps to this order, whatever is answered; the
  laws of a history follow from it.
-/
import VxlanMesh.Manager.Client
import VxlanMesh.Proofs.Overlay.Intervals
import VxlanMesh.Proofs.Procedure

namespace VxlanMesh

/-! ## §1. Intervals. -/

namespace Manager

/-- The milliseconds from a snapshot to the next. -/
def ClientSettings.periodAfter (settings : ClientSettings) (topology : Topology) : Nat :=
  topology.syncSeconds settings.defaultSeconds * 1000

namespace Client

/-- **The clamp alters no interval** from a second to a day. -/
theorem clampPeriod_seconds {seconds : Nat} (h : 1 ≤ seconds ∧ seconds ≤ longestInterval) :
    clampPeriod (seconds * 1000) = seconds * 1000 := by
  unfold clampPeriod
  omega

open Procedure (Upholds Noted upholds_bindOption)

/-! ## §2. Histories. -/

/-- What a client has done. -/
inductive Event where
  | asked (answer : Except OverlayError Topology)
  | paused (ms : Nat)
  | fed (topology : Topology)
  | tickerStarted (period : Nat)
  | ticked

/-- A step that has ended, with its answer. -/
def note : {β : Type} → Step β → β → Event
  | _, .ask, answer => .asked answer
  | _, .pause ms, _ => .paused ms
  | _, .feed topology, _ => .fed topology
  | _, .startTicker period, _ => .tickerStarted period
  | _, .awaitTick _, _ => .ticked

/-- The answers to the requests. -/
def answers (past : List Event) : List (Except OverlayError Topology) :=
  past.filterMap fun | .asked answer => some answer | _ => none

/-- The snapshots that arrived. -/
def received (past : List Event) : List Topology := (answers past).filterMap Except.toOption

/-- The snapshots that were handed to the overlay. -/
def fed (past : List Event) : List Topology :=
  past.filterMap fun | .fed topology => some topology | _ => none

/-- The periods of the tickers that were started. -/
def periods (past : List Event) : List Nat :=
  past.filterMap fun | .tickerStarted period => some period | _ => none

@[simp] theorem answers_concat (past : List Event) (e : Event) : answers (past ++ [e])
    = answers past ++ match e with | .asked answer => [answer] | _ => [] := by
  cases e <;> simp [answers]

@[simp] theorem received_concat (past : List Event) (e : Event) : received (past ++ [e])
    = received past ++ match e with | .asked (.ok topology) => [topology] | _ => [] := by
  rcases e with (cause | topology) | _ | _ | _ | _ <;> simp [received, Except.toOption]

@[simp] theorem fed_concat (past : List Event) (e : Event) : fed (past ++ [e])
    = fed past ++ match e with | .fed topology => [topology] | _ => [] := by
  cases e <;> simp [fed]

@[simp] theorem periods_concat (past : List Event) (e : Event) : periods (past ++ [e])
    = periods past ++ match e with | .tickerStarted period => [period] | _ => [] := by
  cases e <;> simp [periods]

/-! ## §3. Phases. -/

/-- Where a client stands; before the first heartbeat there is no period. -/
inductive Phase where
  /-- A request is next. -/
  | asking (period : Option Nat)
  /-- A request was refused, and a pause is next. -/
  | refused (period : Option Nat)
  /-- A snapshot arrived and is to be handed to the overlay. -/
  | holding (period : Option Nat) (topology : Topology)
  /-- The next tick is awaited. -/
  | waiting (period : Nat)
  /-- The next heartbeat is to be started, at the interval of a snapshot. -/
  | between (topology : Topology)

/-- The snapshots that have arrived and are not yet handed to the overlay. -/
def Phase.pending : Phase → List Topology
  | holding _ topology => [topology]
  | _ => []

/-- The last ticker has the period of the heartbeat under way, if there is one. -/
def Phase.Beats : Phase → Option Nat → Prop
  | asking period, last | refused period, last | holding period _, last => period = last
  | waiting period, last => some period = last
  | between _, _ => True

/-- What the history ends with, as far as the phase tells. -/
def Phase.Ends : Phase → List Event → Prop
  | refused _, past => ∃ cause, past.getLast? = some (.asked (.error cause))
  | holding _ topology, past => past.getLast? = some (.asked (.ok topology))
  | between topology, past => (fed past).getLast? = some topology
  | _, _ => True

/-- From one phase to the next. -/
inductive Next (settings : ClientSettings) : Phase → Event → Phase → Prop
  | refusal {period : Option Nat} (cause : OverlayError) :
      Next settings (.asking period) (.asked (.error cause)) (.refused period)
  | pause {period : Option Nat} : Next settings (.refused period)
      (.paused (settings.retrySeconds * 1000)) (.asking period)
  | snapshot {period : Option Nat} (topology : Topology) :
      Next settings (.asking period) (.asked (.ok topology)) (.holding period topology)
  | same {topology : Topology} :
      Next settings (.holding (some (settings.periodAfter topology)) topology) (.fed topology)
        (.waiting (settings.periodAfter topology))
  | another {period : Option Nat} {topology : Topology}
      (h : period ≠ some (settings.periodAfter topology)) :
      Next settings (.holding period topology) (.fed topology) (.between topology)
  | ticker {topology : Topology} : Next settings (.between topology)
      (.tickerStarted (clampPeriod (settings.periodAfter topology)))
      (.waiting (clampPeriod (settings.periodAfter topology)))
  | tick {period : Nat} : Next settings (.waiting period) .ticked (.asking (some period))

/-- Where a client stands after a history. -/
inductive Reached (settings : ClientSettings) : List Event → Phase → Prop
  | start : Reached settings [] (.asking none)
  | next {past : List Event} {phase phase' : Phase} {e : Event} (h : Reached settings past phase)
      (hnext : Next settings phase e phase') : Reached settings (past ++ [e]) phase'

variable {settings : ClientSettings} {past : List Event} {phase : Phase}

/-- **Every event of a history** leads from the phase before it to one from which the event
after it leads on. -/
theorem Reached.at (h : Reached settings past phase) {i : Nat} {e : Event}
    (he : past[i]? = some e) : ∃ before after, Reached settings (past.take i) before ∧
      Next settings before e after ∧ (past[i + 1]? = none → phase = after) ∧
      ∀ e', past[i + 1]? = some e' → ∃ later, Next settings after e' later := by
  induction h with
  | start => cases he
  | @next past phase phase' last h hnext ih =>
      have hlength : (past ++ [last]).length = past.length + 1 := by simp
      have hbound : i < past.length + 1 := hlength ▸ (List.getElem?_eq_some_iff.1 he).1
      by_cases hi : i < past.length
      · rw [List.getElem?_append_left hi] at he
        obtain ⟨before, after, hbefore, hstep, hlast, hnexts⟩ := ih he
        refine ⟨before, after, ?_, hstep, ?_, ?_⟩
        · rw [List.take_append_of_le_length (Nat.le_of_lt hi)]
          exact hbefore
        · intro hnone
          rw [List.getElem?_eq_none_iff] at hnone
          omega
        · intro e' he'
          by_cases hnext' : i + 1 < past.length
          · rw [List.getElem?_append_left hnext'] at he'
            exact hnexts e' he'
          · -- The event after it is the last one.
            have hend : i + 1 = past.length := by omega
            rw [hend, List.getElem?_concat_length] at he'
            cases he'
            have hafter := hlast (List.getElem?_eq_none_iff.2 (by omega))
            exact ⟨phase', hafter ▸ hnext⟩
      · obtain rfl : i = past.length := by omega
        rw [List.getElem?_concat_length] at he
        cases he
        refine ⟨phase, phase', ?_, hnext, fun _ => rfl, ?_⟩
        · rw [List.take_left]
          exact h
        · intro e' he'
          rw [List.getElem?_eq_none_iff.2 (by omega)] at he'
          cases he'

/-- **What has arrived was handed over in order**, up to the snapshot in hand. -/
theorem Reached.pending (h : Reached settings past phase) :
    received past = fed past ++ phase.pending := by
  induction h with
  | start => rfl
  | next h hnext ih => cases hnext <;> simp_all [Phase.pending]

/-- **The last ticker is the one of the heartbeat under way.** -/
theorem Reached.beats (h : Reached settings past phase) :
    phase.Beats (periods past).getLast? := by
  induction h with
  | start => rfl
  | next h hnext ih => cases hnext <;> simp_all [Phase.Beats]

/-- The history ends as its phase tells. -/
theorem Reached.last (h : Reached settings past phase) : phase.Ends past := by
  cases h with
  | start => trivial
  | next h hnext => cases hnext <;> simp [Phase.Ends]

/-! ## §4. Tasks keep to the order. -/

/-- The history is one that leads to a phase. -/
def InOrder (settings : ClientSettings) (past : List Event) : Prop :=
  ∃ phase, Reached settings past phase

/-- A single step keeps to what holds before it and after each of its answers. -/
theorem upholds_take {keep : List Event → Prop} {α : Type} {s : Step α}
    {ends : Option α → List Event → Prop} (hkeep : keep past)
    (hends : ∀ a, keep (past ++ [note s a]) ∧ ends (some a) (past ++ [note s a])) :
    Upholds (Noted note) keep (take s).run ends past :=
  ⟨hkeep, fun a past' h => by subst h; exact hends a⟩

/-- A single step, which leads to the next phase. -/
theorem upholds_next {α : Type} {s : Step α} {ends : Option α → List Event → Prop}
    (h : Reached settings past phase)
    (hnext : ∀ a, ∃ phase', Next settings phase (note s a) phase' ∧
      (Reached settings (past ++ [note s a]) phase' → ends (some a) (past ++ [note s a]))) :
    Upholds (Noted note) (InOrder settings) (take s).run ends past := by
  refine upholds_take ⟨phase, h⟩ fun a => ?_
  obtain ⟨phase', hstep, hends⟩ := hnext a
  exact ⟨⟨phase', h.next hstep⟩, hends (h.next hstep)⟩

/-- **Asking until a snapshot arrives** ends with the snapshot in hand; out of patience, with
a request as the next event. -/
theorem upholds_sync {period : Option Nat} : ∀ (patience : Nat) {past : List Event},
    Reached settings past (.asking period) →
    Upholds (Noted note) (InOrder settings) (sync settings patience).run (fun answer past' =>
      match answer with
      | some topology => Reached settings past' (.holding period topology)
      | none => Reached settings past' (.asking period)) past := by
  intro patience
  induction patience with
  | zero => intro past h; exact ⟨⟨_, h⟩, h⟩
  | succ patience ih =>
      intro past h
      refine upholds_bindOption (upholds_next h fun answer => ?_)
      cases answer with
      | ok topology => exact ⟨_, .snapshot topology, fun h => ⟨⟨_, h⟩, h⟩⟩
      | error cause =>
          refine ⟨_, .refusal cause, fun h => ?_⟩
          exact upholds_bindOption (upholds_next h fun _ => ⟨_, .pause, fun h => ih h⟩)

/-- Nothing that arrived is left to be handed over. -/
def Settled (settings : ClientSettings) (past : List Event) : Prop :=
  ∃ phase, Reached settings past phase ∧ phase.pending = []

/-- The next heartbeat is to be started with this period. -/
def Turned (settings : ClientSettings) (ms : Nat) (past : List Event) : Prop :=
  ∃ topology, ms = settings.periodAfter topology ∧ Reached settings past (.between topology)

/-- Ends with the period for the next heartbeat, or out of patience. -/
def EndsTurned (settings : ClientSettings) : Option Nat → List Event → Prop
  | some ms, past => Turned settings ms past
  | none, past => Settled settings past

/-- **The first snapshot** is handed over, and the next heartbeat has its interval. -/
theorem upholds_init (patience : Nat) :
    Upholds (Noted note) (InOrder settings) (init settings patience).run (fun answer past' =>
      EndsTurned settings (answer.map (· * 1000)) past') [] := by
  refine upholds_bindOption ((upholds_sync patience .start).mono fun answer past' _ h => ?_)
  cases answer with
  | none => exact ⟨_, h, rfl⟩
  | some topology =>
      refine upholds_bindOption (upholds_next h fun summary => ?_)
      exact ⟨_, .another nofun, fun h => ⟨⟨_, h⟩, topology, rfl, h⟩⟩

/-- Ends with the same interval, and the next tick is awaited, or with another, or out of
patience. -/
def EndsTicked (settings : ClientSettings) (period : Nat) :
    Option (Nat × Nat) → List Event → Prop
  | some (_, suggested), past =>
      suggested = period ∧ Reached settings past (.waiting period) ∨
        suggested ≠ period ∧ Turned settings suggested past
  | none, past => Settled settings past

/-- **A tick** hands over one snapshot, which has the same interval or another. -/
theorem upholds_tick {patience period due : Nat} (h : Reached settings past (.waiting period)) :
    Upholds (Noted note) (InOrder settings) (tick settings patience period due).run
      (EndsTicked settings period) past := by
  refine upholds_bindOption (upholds_next h fun now => ⟨_, .tick, fun h => ?_⟩)
  refine upholds_bindOption ((upholds_sync patience h).mono fun answer past' _ h => ?_)
  cases answer with
  | none => exact ⟨_, h, rfl⟩
  | some topology =>
      refine upholds_bindOption (upholds_next h fun summary => ?_)
      by_cases hsame : settings.periodAfter topology = period
      · subst hsame
        exact ⟨_, .same, fun h => ⟨⟨_, h⟩, .inl ⟨rfl, h⟩⟩⟩
      · have hother : some period ≠ some (settings.periodAfter topology) :=
          fun hperiod => hsame (Option.some.inj hperiod).symm
        exact ⟨_, .another hother, fun h => ⟨⟨_, h⟩, .inr ⟨hsame, topology, rfl, h⟩⟩⟩

/-- **Ticks** go on until the interval of a snapshot is another one. -/
theorem upholds_ticks {patience period : Nat} : ∀ (more due : Nat) {past : List Event},
    Reached settings past (.waiting period) →
    Upholds (Noted note) (InOrder settings) (ticks settings patience period more due).run
      (EndsTurned settings) past := by
  intro more
  induction more with
  | zero => intro due past h; exact ⟨⟨_, h⟩, _, h, rfl⟩
  | succ more ih =>
      intro due past h
      refine upholds_bindOption ((upholds_tick h).mono fun answer past' hkeep h => ?_)
      cases answer with
      | none => exact h
      | some answer =>
          obtain ⟨due', suggested⟩ := answer
          show Upholds _ _ (if suggested = period then
            ticks settings patience period more due' else pure suggested).run _ past'
          rcases h with ⟨hsame, h⟩ | ⟨hother, h⟩
          · rw [if_pos hsame]
            exact ih due' h
          · rw [if_neg hother]
            exact ⟨hkeep, h⟩

/-- **A heartbeat** starts a ticker of its own and ends with another interval. -/
theorem upholds_heartbeat {patience ms : Nat} (h : Turned settings ms past) :
    Upholds (Noted note) (InOrder settings) (heartbeat settings patience ms).run
      (EndsTurned settings) past := by
  obtain ⟨topology, rfl, h⟩ := h
  exact upholds_bindOption (upholds_next h fun due => ⟨_, .ticker, fun h => upholds_ticks _ due h⟩)

/-- **Heartbeats** follow one another until patience runs out. -/
theorem upholds_heartbeats {patience : Nat} : ∀ (more : Nat) {ms : Nat} {past : List Event},
    Turned settings ms past →
    Upholds (Noted note) (InOrder settings) (heartbeats settings patience more ms).run
      (fun answer past' => answer = none ∧ Settled settings past') past := by
  intro more
  induction more with
  | zero =>
      intro ms past h
      obtain ⟨topology, -, h⟩ := h
      exact ⟨⟨_, h⟩, rfl, _, h, rfl⟩
  | succ more ih =>
      intro ms past h
      refine upholds_bindOption ((upholds_heartbeat h).mono fun answer past' _ h => ?_)
      cases answer with
      | none => exact ⟨rfl, h⟩
      | some ms => exact ih h

/-- The first snapshot, then heartbeats at the interval it suggests. -/
def initAndRun (settings : ClientSettings) (patience : Nat) : Task Unit := do
  let seconds ← init settings patience
  run settings patience (seconds * 1000)

/-- **A client** keeps to the order, and when it runs out of patience it has handed over
whatever arrived. -/
theorem upholds_initAndRun (settings : ClientSettings) (patience : Nat) :
    Upholds (Noted note) (InOrder settings) (initAndRun settings patience).run
      (fun answer past => answer = none ∧ Settled settings past) [] := by
  refine upholds_bindOption ((upholds_init patience).mono fun answer past _ h => ?_)
  cases answer with
  | none => exact ⟨rfl, h⟩
  | some seconds => exact upholds_heartbeats patience h

/-! ## §5. The laws of a history. -/

/-- What holds of a history from the first snapshot on, with the seconds of a pause and those
of the interval where a snapshot suggests none. -/
structure Orderly (retry default : Nat) (past : List Event) : Prop where
  /-- The interval after a snapshot that was handed over is the usable number that it suggests,
  or the default. -/
  interval : ∀ topology ∈ Client.fed past, ∀ seconds,
    topology.syncSeconds default = seconds ↔ topology.IsFollowedBy default seconds
  /-- A ticker is started at the interval of the snapshot handed over last, which is one from a
  second to a day and which the clamp does not alter. -/
  ticker : ∀ i period, past[i]? = some (.tickerStarted period) →
    ∃ topology, (fed (past.take i)).getLast? = some topology ∧
      period = topology.syncSeconds default * 1000 ∧
      clampPeriod period = period ∧ 1000 ≤ period ∧ period ≤ 86400 * 1000
  /-- A snapshot that arrives is handed over next. -/
  feed : ∀ i topology e, past[i]? = some (.asked (.ok topology)) → past[i + 1]? = some e →
    e = .fed topology
  /-- What is handed over has just arrived. -/
  fed : ∀ i topology, past[i]? = some (.fed topology) →
    (past.take i).getLast? = some (.asked (.ok topology))
  /-- What was handed over is what arrived, in this order; the last one may be still to come. -/
  once : received past = Client.fed past ∨ ∃ topology,
    past.getLast? = some (.asked (.ok topology)) ∧ received past = Client.fed past ++ [topology]
  /-- A refusal is followed by a pause. -/
  pause : ∀ i cause e, past[i]? = some (.asked (.error cause)) → past[i + 1]? = some e →
    e = .paused (retry * 1000)
  /-- A pause follows a refusal. -/
  paused : ∀ i ms, past[i]? = some (.paused ms) →
    ∃ cause, (past.take i).getLast? = some (.asked (.error cause))
  /-- After a single pause comes the next request. -/
  again : ∀ i ms e, past[i]? = some (.paused ms) → past[i + 1]? = some e →
    ∃ answer, e = .asked answer
  /-- When a snapshot was handed over, the next tick is awaited if its interval is the period
  of the ticker; otherwise the next heartbeat is started, at this interval. -/
  beat : ∀ i topology e, past[i]? = some (.fed topology) → past[i + 1]? = some e →
    e = if (periods (past.take i)).getLast? = some (topology.syncSeconds default * 1000)
      then .ticked else .tickerStarted (topology.syncSeconds default * 1000)

/-- **Every history in the order is lawful.** -/
theorem Reached.orderly (h : Reached settings past phase)
    (hdefault : 1 ≤ settings.defaultSeconds ∧ settings.defaultSeconds ≤ longestInterval) :
    Orderly settings.retrySeconds settings.defaultSeconds past := by
  have hrange := fun topology : Topology => topology.syncSeconds_range hdefault
  have hclamp : ∀ topology, clampPeriod (settings.periodAfter topology)
      = settings.periodAfter topology := fun topology => clampPeriod_seconds (hrange topology)
  refine ⟨fun topology _ seconds => Topology.syncSeconds_eq_iff, ?ticker, ?feed, ?fed, ?once,
    ?pause, ?paused, ?again, ?beat⟩
  case ticker =>
    intro i period he
    obtain ⟨before, after, hbefore, hstep, -, -⟩ := h.at he
    cases hstep with
    | @ticker topology =>
        rw [hclamp]
        obtain ⟨hshort, hlong⟩ := hrange topology
        refine ⟨topology, hbefore.last, rfl, hclamp topology, ?_, Nat.mul_le_mul_right _ hlong⟩
        show 1000 ≤ topology.syncSeconds settings.defaultSeconds * 1000
        omega
  case feed =>
    intro i topology e he he'
    obtain ⟨before, after, -, hstep, -, hnext⟩ := h.at he
    obtain ⟨later, hlater⟩ := hnext e he'
    cases hstep
    cases hlater <;> rfl
  case fed =>
    intro i topology he
    obtain ⟨before, after, hbefore, hstep, -, -⟩ := h.at he
    have hlast := hbefore.last
    cases hstep <;> exact hlast
  case once =>
    have hpending := h.pending
    have hlast := h.last
    cases phase with
    | holding period topology => exact .inr ⟨topology, hlast, hpending⟩
    | asking _ | refused _ | waiting _ | between _ =>
        exact .inl (hpending.trans (List.append_nil _))
  case pause =>
    intro i cause e he he'
    obtain ⟨before, after, -, hstep, -, hnext⟩ := h.at he
    obtain ⟨later, hlater⟩ := hnext e he'
    cases hstep
    cases hlater
    rfl
  case paused =>
    intro i ms he
    obtain ⟨before, after, hbefore, hstep, -, -⟩ := h.at he
    have hlast := hbefore.last
    cases hstep
    exact hlast
  case again =>
    intro i ms e he he'
    obtain ⟨before, after, -, hstep, -, hnext⟩ := h.at he
    obtain ⟨later, hlater⟩ := hnext e he'
    cases hstep
    cases hlater <;> exact ⟨_, rfl⟩
  case beat =>
    intro i topology e he he'
    obtain ⟨before, after, hbefore, hstep, -, hnext⟩ := h.at he
    obtain ⟨later, hlater⟩ := hnext e he'
    have hbeats := hbefore.beats
    show e = if (periods (past.take i)).getLast? = some (settings.periodAfter topology)
      then .ticked else .tickerStarted (settings.periodAfter topology)
    cases hstep with
    | same =>
        rw [if_pos (Eq.symm hbeats)]
        cases hlater
        rfl
    | another hother =>
        rw [if_neg fun hsame => hother (hbeats.trans hsame)]
        cases hlater
        rw [hclamp]

end Client

end Manager

end VxlanMesh
