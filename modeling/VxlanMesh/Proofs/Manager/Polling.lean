/-
  VxlanMesh.Proofs.Manager.Polling
  ────────────────────────────────
  **WHAT BECOMES OF THE OVERLAY WHILE THE MANAGER IS ASKED.**

  A client that runs on a link has a history, and the link follows it:
  each answer is the one that the manager has for the request of that
  number, and the overlay is, but for the time, what passes over the
  snapshots handed over so far make of the one at the start.

      answer_eq_ok_iff    which requests are answered by a snapshot
      Tracks              a link and a history
      client_account      a client from its first snapshot on

  What is said of a client is said in terms of its configuration: at which
  address it asks, how long it pauses, which interval it falls back to and
  which overlay it hands the snapshots to.
-/
import VxlanMesh.Proofs.Manager.Heartbeats
import VxlanMesh.Proofs.Overlay.Retiming
import VxlanMesh.Station
import VxlanMesh.Switch.Recorder

namespace VxlanMesh

/-- A valid configuration has a usable interval. -/
theorem Config.defaultInterval_range {config : Config} (h : config.fault? = none) :
    1 ≤ config.manager.defaultIntervalSecs ∧
      config.manager.defaultIntervalSecs ≤ longestInterval := by
  unfold Config.fault? at h
  dsimp only at h
  split at h
  · cases h
  · split at h
    · cases h
    · rename_i hrange
      simp at hrange
      omega

namespace Manager

open Client (Event note answers fed received periods)
open Procedure (Upholds Noted noting)

/-! ## §1. What the manager answers. -/

/-- The reply holds a snapshot: it is complete, its status is 200 and its body says the
snapshot. -/
def Reply.Holds (reply : Reply) (topology : Topology) : Prop :=
  ∃ body text, reply = .answer 200 body true ∧ Text.Utf8.decode? body = some text ∧
    Topology.ofText? text = some topology

/-- A snapshot is answered exactly where the reply holds it. -/
theorem snapshotOf_eq_ok_iff {url : String} {address : Address} {reply : Reply}
    {topology : Topology} : snapshotOf url address reply = .ok topology ↔ reply.Holds topology := by
  constructor
  · intro h
    cases reply with
    | dropped => exact nomatch h
    | answer status body complete =>
        rw [snapshotOf] at h
        split at h
        · exact nomatch h
        · rename_i hstatus
          cases complete with
          | false => exact nomatch h
          | true =>
              dsimp only at h
              split at h
              · rename_i found hfound
                obtain ⟨text, htext, hread⟩ := Option.bind_eq_some_iff.1 hfound
                cases h
                exact ⟨body, text, by rw [Decidable.not_not.1 hstatus], htext, hread⟩
              · exact nomatch h
  · rintro ⟨body, text, rfl, htext, hread⟩
    simp only [snapshotOf, ne_eq, not_true_eq_false, if_false, if_true, htext, Option.bind_some,
      hread]

namespace Endpoint

/-- The reply to the request of this number, counting from zero. -/
def reply (endpoint : Endpoint) (i : Nat) : Reply :=
  endpoint.replies[i]?.getD (endpoint.fallback.getD unavailable)

/-- The answer to the request of this number. -/
def answer (url : String) (endpoint : Endpoint) (i : Nat) : Except OverlayError Topology :=
  match endpoint.addressOf? url with
  | none => .error (.transport url "builder error")
  | some address =>
      if endpoint.isUp then snapshotOf url address (endpoint.reply i)
      else .error (unsent url address)

/-- Requests arrive: the text is an address and the line is up. -/
def Reaches (endpoint : Endpoint) (url : String) : Prop :=
  (endpoint.addressOf? url).isSome = true ∧ endpoint.isUp = true

/-- **A request is answered by a snapshot** exactly if it arrives and its reply holds the
snapshot. -/
theorem answer_eq_ok_iff {url : String} {endpoint : Endpoint} {i : Nat} {topology : Topology} :
    endpoint.answer url i = .ok topology ↔
      endpoint.Reaches url ∧ (endpoint.reply i).Holds topology := by
  unfold answer Reaches
  cases endpoint.addressOf? url with
  | none => simp
  | some address =>
      by_cases hup : endpoint.isUp = true
      · simp [hup, snapshotOf_eq_ok_iff]
      · simp [hup]

/-- The first reply is the one to the request that is made now. -/
theorem serve_fst (endpoint : Endpoint) (target : String) :
    (endpoint.serve target).1 = endpoint.reply 0 := by
  unfold serve reply
  cases endpoint.replies <;> rfl

/-- A request that is served uses up one reply. -/
theorem reply_serve (endpoint : Endpoint) (target : String) (i : Nat) :
    (endpoint.serve target).2.reply i = endpoint.reply (i + 1) := by
  unfold serve reply
  cases endpoint.replies <;> rfl

/-- Neither the line nor the library changes with a request. -/
theorem serve_keeps (endpoint : Endpoint) (target : String) :
    (endpoint.serve target).2.addressOf? = endpoint.addressOf? ∧
      (endpoint.serve target).2.isUp = endpoint.isUp := by
  unfold serve
  cases endpoint.replies <;> exact ⟨rfl, rfl⟩

end Endpoint

/-- A request gets the answer of the first number. -/
theorem request_fst (url : String) (endpoint : Endpoint) :
    (request url endpoint).1 = endpoint.answer url 0 := by
  unfold request Endpoint.answer
  cases endpoint.addressOf? url with
  | none => rfl
  | some address =>
      by_cases hup : endpoint.isUp = true
      · simp [hup, endpoint.serve_fst]
      · simp [hup]

/-- **A request leaves the later answers to the later requests.** -/
theorem answer_request (url : String) (endpoint : Endpoint) (i : Nat) :
    (request url endpoint).2.answer url i = endpoint.answer url (i + 1) := by
  unfold request Endpoint.answer
  cases haddress : endpoint.addressOf? url with
  | none => simp [haddress]
  | some address =>
      by_cases hup : endpoint.isUp = true
      · obtain ⟨hlibrary, hline⟩ := endpoint.serve_keeps address.target
        simp [hup, hlibrary, hline, haddress, endpoint.reply_serve]
      · simp [hup, haddress]

/-! ## §2. A link and a history. -/

variable {σ : Type}

theorem retimed_setClock {mesh later : Mesh σ} (h : Retimed mesh later) {clock : Clock}
    (hclock : clock.deadline = none) : Retimed mesh (Timed.setClock clock later) := by
  obtain ⟨hmesh, -, -, rfl⟩ := h
  exact ⟨hmesh, clock, hclock, rfl⟩

/-- At another time there is still no deadline. -/
theorem unhurried_of_retimed {mesh later : Mesh σ} (h : Retimed mesh later) :
    later.host.clock.deadline = none := by
  obtain ⟨-, clock, hclock, rfl⟩ := h
  exact hclock

namespace Link

variable [CommandRunner σ]

/-- A link after a history that began on another, where requests are made at an address and
snapshots are handed to an overlay with these settings. -/
structure Tracks (url : String) (settings : MeshSettings) (start : Link σ) (past : List Event)
    (link : Link σ) : Prop where
  /-- Each answer was the one of the manager to the request of this number. -/
  answered : ∀ i answer, (answers past)[i]? = some answer → answer = start.endpoint.answer url i
  /-- The next requests get the answers after these. -/
  ahead : ∀ i, link.endpoint.answer url i
    = start.endpoint.answer url ((answers past).length + i)
  /-- But for the time, the overlay is what passes over the snapshots that were handed over make
  of the one at the start. -/
  overlay : Retimed (Mesh.syncAll settings (fed past) start.mesh) link.mesh

variable {settings : ClientSettings} {start link : Link σ} {past : List Event}

/-- Before anything is done, a link without a deadline is where it began. -/
theorem Tracks.refl (h : link.mesh.host.clock.deadline = none) :
    Tracks settings.url settings.mesh link [] link where
  answered := nofun
  ahead i := by simp [answers]
  overlay := ⟨h, link.mesh.host.clock, h, rfl⟩

/-- Nothing is asked and nothing handed over: only the time may change. -/
theorem Tracks.idle (h : Tracks settings.url settings.mesh start past link) {e : Event}
    {clock : Clock} (hclock : clock.deadline = none)
    (hanswers : answers (past ++ [e]) = answers past)
    (hfed : fed (past ++ [e]) = fed past) :
    Tracks settings.url settings.mesh start (past ++ [e]) (Timed.setClock clock link) where
  answered := by rw [hanswers]; exact h.answered
  ahead := by rw [hanswers]; exact h.ahead
  overlay := by rw [hfed]; exact retimed_setClock h.overlay hclock

/-- A request takes the next answer of the manager. -/
theorem Tracks.asked (h : Tracks settings.url settings.mesh start past link)
    {answer : Except OverlayError Topology} {endpoint : Endpoint}
    (hrequest : request settings.url link.endpoint = (answer, endpoint)) :
    Tracks settings.url settings.mesh start (past ++ [.asked answer]) { link with endpoint } := by
  have hanswer := request_fst settings.url link.endpoint
  have hnext := answer_request settings.url link.endpoint
  rw [hrequest] at hanswer hnext
  have hanswers : answers (past ++ [.asked answer]) = answers past ++ [answer] :=
    Client.answers_concat past _
  refine ⟨?answered, ?ahead, ?overlay⟩
  case answered =>
    intro i found hfound
    rw [hanswers] at hfound
    by_cases hi : i < (answers past).length
    · rw [List.getElem?_append_left hi] at hfound
      exact h.answered i found hfound
    · -- The request just made.
      have hbound := (List.getElem?_eq_some_iff.1 hfound).1
      simp only [List.length_append, List.length_singleton] at hbound
      obtain rfl : i = (answers past).length := by omega
      rw [List.getElem?_concat_length] at hfound
      cases hfound
      rw [show answer = _ from hanswer, h.ahead]
      rfl
  case ahead =>
    intro i
    rw [hanswers, List.length_append, List.length_singleton, Nat.add_assoc, Nat.add_comm 1 i]
    exact (hnext i).trans (h.ahead (i + 1))
  case overlay =>
    rw [Client.fed_concat, List.append_nil]
    exact h.overlay

/-- **What a step does** follows the history with it. -/
theorem Tracks.step (h : Tracks settings.url settings.mesh start past link) {β : Type}
    (s : Client.Step β) :
    ∃ b link', perform settings s link = (.done b, link') ∧
      Tracks settings.url settings.mesh start (past ++ [note s b]) link' := by
  have hclock : (Timed.clock link).deadline = none := unhurried_of_retimed h.overlay
  have hidle : ∀ (e : Event) (clock : Clock), clock.deadline = none →
      answers (past ++ [e]) = answers past → fed (past ++ [e]) = fed past →
      Tracks settings.url settings.mesh start (past ++ [e]) (Timed.setClock clock link) :=
    fun e clock => h.idle
  cases s with
  | ask =>
      cases hrequest : request settings.url link.endpoint with
      | mk answer endpoint =>
          refine ⟨answer, _, ?_, h.asked hrequest⟩
          simp only [perform, Operation.step, hrequest]
  | pause ms =>
      exact ⟨(), _, Operation.sleep_unhurried hclock ms, hidle _ _ rfl (by simp [note])
        (by simp [note])⟩
  | startTicker period =>
      exact ⟨_, _, rfl, hidle _ _ hclock (by simp [note]) (by simp [note])⟩
  | awaitTick due =>
      let later : Clock := { now := link.mesh.host.clock.now + (due - link.mesh.host.clock.now) }
      have hsleep : Operation.sleepUntil due link = (.done (), Timed.setClock later link) :=
        Operation.sleep_unhurried hclock _
      have hperform : perform settings (.awaitTick due) link
          = (.done later.now, Timed.setClock later link) := by
        rw [perform, Operation.bind_done hsleep]
        rfl
      exact ⟨_, _, hperform, hidle _ _ rfl (by simp [note]) (by simp [note])⟩
  | feed topology =>
      obtain ⟨summary, hsync⟩ := Mesh.sync_done settings.mesh topology hclock
      obtain ⟨-, -, hafter⟩ :=
        Mesh.endAlike_sync settings.mesh topology _ _ h.overlay
      refine ⟨summary, { link with mesh := (Mesh.sync settings.mesh topology link.mesh).2 }, ?_, ?_⟩
      · show ((Mesh.sync settings.mesh topology link.mesh).1, _) = _
        rw [hsync]
        rfl
      · exact {
          answered := by simpa [note] using h.answered
          ahead := by simpa [note] using h.ahead
          overlay := by simpa [note] using hafter }

/-! ## §3. Tasks on a link. -/

/-- What a task has done on a link: its steps, with their answers. -/
def history {α : Type} (settings : ClientSettings) (task : Client.Task α) (link : Link σ) :
    List Event :=
  Procedure.history note (perform settings) task.run link

/-- The link after the first steps of a task, at most so many. -/
def after {α : Type} (settings : ClientSettings) (task : Client.Task α) (steps : Nat)
    (link : Link σ) : Link σ :=
  Procedure.cut (perform settings) steps task.run link

/-- **Every step of a client is followed** by its link. -/
theorem carries_noting (settings : ClientSettings) (start : Link σ) (keep : List Event → Prop) :
    Procedure.Carries (Noted note) (noting note (perform settings)) Prod.fst keep
      fun state => Tracks settings.url settings.mesh start state.1 state.2 := by
  intro β s state h
  obtain ⟨past, link⟩ := state
  obtain ⟨b, link', hperform, h'⟩ := h.step s
  exact ⟨b, _, Procedure.noting_done hperform past, rfl, fun _ => h'⟩

/-- **A task on a link without a deadline** ends, with an answer and a history that the link has
followed. -/
theorem runTask_tracks {α : Type} (settings : ClientSettings) {task : Client.Task α}
    {keep : List Event → Prop} {ends : Option α → List Event → Prop}
    (h : Upholds (Noted note) keep task.run ends [])
    (hclock : link.mesh.host.clock.deadline = none) : ∃ answer last,
      runTask settings task link = (answer.elim .abandoned .done, last) ∧
        ends answer (history settings task link) ∧
        Tracks settings.url settings.mesh link (history settings task link) last := by
  have hstart : Tracks settings.url settings.mesh link (([], link) : List Event × Link σ).1 link :=
    .refl hclock
  obtain ⟨answer, ⟨past, last⟩, hrun, hends, htracks⟩ :=
    Procedure.run_of_upholds (carries_noting settings link keep) h hstart
  have hhistory : history settings task link = past := by
    rw [history, Procedure.history, hrun]
  have hplain := Procedure.run_noting note (perform settings) task.run [] link
  rw [hrun] at hplain
  rw [hhistory]
  refine ⟨answer, last, ?_, hends, htracks⟩
  rw [runTask, Operation.bind_done hplain]
  cases answer <;> rfl

/-- **At any moment** the link has followed the history so far. -/
theorem after_tracks {α : Type} (settings : ClientSettings) {task : Client.Task α}
    {keep : List Event → Prop} {ends : Option α → List Event → Prop}
    (h : Upholds (Noted note) keep task.run ends [])
    (hclock : link.mesh.host.clock.deadline = none) (steps : Nat) :
    Tracks settings.url settings.mesh link ((history settings task link).take steps)
      (after settings task steps link) := by
  have hstart : Tracks settings.url settings.mesh link (([], link) : List Event × Link σ).1 link :=
    .refl hclock
  have hcut := Procedure.cut_of_upholds (carries_noting settings link keep) steps h hstart
  rw [Procedure.cut_noting, List.nil_append] at hcut
  exact hcut

/-- **A pause takes its time**, and nothing else changes. -/
theorem after_pause {α : Type} (settings : ClientSettings) {task : Client.Task α}
    {keep : List Event → Prop} {ends : Option α → List Event → Prop}
    (h : Upholds (Noted note) keep task.run ends [])
    (hclock : link.mesh.host.clock.deadline = none) {steps ms : Nat}
    (hpause : (history settings task link)[steps]? = some (.paused ms)) :
    after settings task (steps + 1) link = Timed.setClock
      { now := (Timed.clock (after settings task steps link)).now + ms }
      (after settings task steps link) := by
  have htracks := after_tracks settings h hclock steps
  obtain ⟨β, s, b, hperform, hnote⟩ := Procedure.step_of_history note (perform settings)
    task.run steps link hpause
  cases s with
  | pause ms' =>
      cases hnote
      have hsleep := Operation.sleep_unhurried (s := after settings task steps link)
        (unhurried_of_retimed htracks.overlay) ms
      exact congrArg Prod.snd (hperform.symm.trans hsleep)
  | ask | feed _ | startTicker _ | awaitTick _ => cases hnote

/-- A task that follows another starts on the link that this one leaves. -/
theorem runTask_bind {α β : Type} (settings : ClientSettings) (task : Client.Task α)
    (next : α → Client.Task β) : (runTask settings (task >>= next) : Operation (Link σ) β)
      = runTask settings task >>= fun a => runTask settings (next a) := by
  have hsplit : Procedure.run (m := Operation (Link σ)) (perform settings) (task >>= next).run
      = Procedure.run (perform (σ := σ) settings) task.run >>= fun answer =>
        answer.elim (pure none) fun a => Procedure.run (perform settings) (next a).run := by
    refine (Procedure.run_andThen (perform (σ := σ) settings) _ task.run).trans ?_
    congr 1
    funext answer
    cases answer <;> rfl
  unfold runTask
  rw [hsplit, Operation.bind_assoc, Operation.bind_assoc]
  congr 1
  funext answer
  cases answer <;> rfl

/-! ## §4. A client from its first snapshot on. -/

/-- What a heartbeat of the client of a configuration has done on a link. -/
def beating (config : Config) (patience ms : Nat) (link : Link σ) : List Event :=
  history (Station.clientSettings config)
    (Client.heartbeat (Station.clientSettings config) patience ms) link

/-- When a heartbeat returns, and with what. -/
structure Returns (config : Config) (patience ms : Nat) (link : Link σ) : Prop where
  /-- It starts one ticker, at its period. -/
  ticker : periods (beating config patience ms link) = [Client.clampPeriod ms]
  /-- It returns with the interval of the first snapshot that has another one. -/
  answer : (heartbeat (Station.clientSettings config) patience ms link).1
    = match Client.departure config.manager.defaultIntervalSecs (Client.clampPeriod ms)
        (beating config patience ms link) with
      | some topology => .done (topology.syncSeconds config.manager.defaultIntervalSecs * 1000)
      | none => .abandoned
  /-- It returns when this snapshot was handed over. -/
  last : ∀ topology, Client.departure config.manager.defaultIntervalSecs (Client.clampPeriod ms)
      (beating config patience ms link) = some topology →
    (beating config patience ms link).getLast? = some (.fed topology)

/-- **A heartbeat returns** when the first snapshot with another interval was handed over, and
with this interval. -/
theorem heartbeat_returns (config : Config) (patience ms : Nat)
    (hclock : link.mesh.host.clock.deadline = none) : Returns config patience ms link := by
  obtain ⟨answer, last, hrun, hends, -⟩ := runTask_tracks (Station.clientSettings config)
    (Client.upholds_heartbeat_departed patience ms) hclock
  obtain ⟨⟨hanswer, hlast⟩, hticker⟩ := hends
  refine ⟨hticker, ?_, hlast⟩
  have hdeparted : answer = (Client.departure config.manager.defaultIntervalSecs
      (Client.clampPeriod ms) (beating config patience ms link)).map
        (·.syncSeconds config.manager.defaultIntervalSecs * 1000) := hanswer
  rw [heartbeat, hrun, hdeparted]
  cases Client.departure config.manager.defaultIntervalSecs (Client.clampPeriod ms)
    (beating config patience ms link) <;> rfl

/-- What the client of a configuration has done on a link, from its first snapshot on. -/
def polling (config : Config) (patience : Nat) (link : Link σ) : List Event :=
  history (Station.clientSettings config)
    (Client.initAndRun (Station.clientSettings config) patience) link

/-- The link after the first steps of the client of a configuration, at most so many. -/
def polled (config : Config) (patience steps : Nat) (link : Link σ) : Link σ :=
  after (Station.clientSettings config)
    (Client.initAndRun (Station.clientSettings config) patience) steps link

/-- A link has followed a history that is one of a configuration: the address of the requests is
made of the manager's and the own one, and the overlay has the own address, the local end of
tunnels (by default the own address) and the switch of the configuration. -/
def Follows (config : Config) : Link σ → List Event → Link σ → Prop :=
  Tracks (syncUrl config.manager.url config.host.internalIp) {
    selfIp := config.host.internalIp
    localIp := config.host.tunnelIp.getD config.host.internalIp
    switch := config.switch }

/-- What the client of a configuration does on a link from its first snapshot on, as long as its
patience lasts. -/
structure Account (config : Config) (patience : Nat) (link : Link σ) : Prop where
  /-- It does not return, and the link has followed its history. -/
  whole : ∃ last, (init (Station.clientSettings config) patience >>= fun seconds =>
      run (Station.clientSettings config) patience (seconds * 1000)) link = (.abandoned, last) ∧
    Follows config link (polling config patience link) last
  /-- At any moment the link has followed the history so far. -/
  moments : ∀ steps, Follows config link ((polling config patience link).take steps)
    (polled config patience steps link)
  /-- A request is answered by a snapshot exactly if it arrives and its reply holds the
  snapshot. -/
  snapshots : ∀ i answer topology, (answers (polling config patience link))[i]? = some answer →
    (answer = .ok topology ↔
      link.endpoint.Reaches (syncUrl config.manager.url config.host.internalIp) ∧
        (link.endpoint.reply i).Holds topology)
  /-- A pause takes its time, and nothing else changes. -/
  pauses : ∀ steps ms, (polling config patience link)[steps]? = some (.paused ms) →
    polled config patience (steps + 1) link = Timed.setClock
      { now := (Timed.clock (polled config patience steps link)).now + ms }
      (polled config patience steps link)
  /-- The history is lawful, with the pause and the interval of the configuration. -/
  orderly : Client.Orderly config.manager.syncRetrySecs config.manager.defaultIntervalSecs
    (polling config patience link)
  /-- Whatever arrived was handed over. -/
  settled : received (polling config patience link) = fed (polling config patience link)
  /-- The more patience the longer the history, -/
  long : patience ≤ (polling config patience link).length
  /-- which only grows. -/
  endless : ∀ more, polling config patience link <+: polling config (patience + more) link
  /-- Every heartbeat returns as it should. -/
  returns : ∀ (ms : Nat) (now : Link σ), now.mesh.host.clock.deadline = none →
    Returns config patience ms now

/-- What a client is set up with is taken from its configuration. -/
theorem follows_of_tracks {config : Config} {start link : Link σ} {past : List Event}
    (h : Tracks (Station.clientSettings config).url (Station.clientSettings config).mesh start past
      link) : Follows config start past link := by
  rw [Station.clientSettings_eq] at h
  exact h

/-- The manager has an address of version 6, and the intervals are the usual ones. -/
def usual : Config where
  manager := { url := "http://[fd00::10]:9696/" }
  host := { internalIp := "10.0.0.1" }

/-- A manager that is cut off at first, then suggests two seconds, then nothing any more, and at
last answers no longer. -/
def fading : Link Recorder where
  mesh := { host := { switch := {} }, ofports := Station.freshOfports }
  endpoint := {
    addressOf? := fun url =>
      if url = "http://[fd00::10]:9696/tenants/admin/sync/10.0.0.1" then
        some { text := url, target := "/tenants/admin/sync/10.0.0.1" }
      else none
    replies := [.dropped, .answer 200 "\x7b\"interval\": 2\x7d".toUTF8 true,
      .answer 200 "\x7b\x7d".toUTF8 true] }

end Link

end Manager

end VxlanMesh
