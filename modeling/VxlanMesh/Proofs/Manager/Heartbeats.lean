/-
  VxlanMesh.Proofs.Manager.Heartbeats
  ────────────────────────────────
  **WHEN A HEARTBEAT IS OVER, AND HOW LONG A CLIENT LASTS.**

  A heartbeat is over with the first snapshot whose interval differs from
  the period of its ticker, and answers that interval.  A client itself is
  over only when its patience is; with more of it the client does the same
  and goes on, so that its histories are the beginnings of one that does
  not end.

      upholds_heartbeat_departed    the end of a heartbeat
      continues_initAndRun          more patience
      upholds_initAndRun_long       as many events as patience
-/
import VxlanMesh.Proofs.Manager.Sequence

namespace VxlanMesh.Manager.Client

open Procedure (Upholds Noted Continues upholds_bindOption continues_bind)

variable {settings : ClientSettings} {past : List Event}

/-! ## §1. Heartbeats. -/

/-- The first snapshot handed over whose interval, by default so many seconds, differs from the
period. -/
def departure (default period : Nat) (past : List Event) : Option Topology :=
  (fed past).find? fun topology => topology.syncSeconds default * 1000 ≠ period

/-- While it asks, a client hands nothing over and starts no ticker. -/
theorem upholds_sync_quiet : ∀ (patience : Nat) {past : List Event},
    Upholds (Noted note) (fun _ => True) (sync settings patience).run (fun _ past' =>
      fed past' = fed past ∧ periods past' = periods past) past := by
  intro patience
  induction patience with
  | zero => intro past; exact ⟨trivial, rfl, rfl⟩
  | succ patience ih =>
      intro past
      refine upholds_bindOption (upholds_take trivial fun answer => ⟨trivial, ?_⟩)
      cases answer with
      | ok topology => exact ⟨trivial, by simp [note], by simp [note]⟩
      | error cause =>
          refine upholds_bindOption (upholds_take trivial fun _ => ⟨trivial, ?_⟩)
          refine ih.mono fun answer past' _ h => ?_
          simp only [note, fed_concat, periods_concat, List.append_nil] at h
          exact h

/-- When a heartbeat is over, and with what answer: the first snapshot with another interval
is the last one handed over, and its interval is the answer. -/
def EndsDeparted (default period : Nat) (answer : Option Nat) (past : List Event) : Prop :=
  answer = (departure default period past).map (·.syncSeconds default * 1000) ∧
    ∀ topology, departure default period past = some topology →
      past.getLast? = some (.fed topology)

/-- One more snapshot, after some at the period. -/
theorem departure_fed {default period : Nat} (topology : Topology)
    (h : departure default period past = none) : departure default period (past ++ [.fed topology])
      = if topology.syncSeconds default * 1000 = period then none else some topology := by
  unfold departure at h ⊢
  rw [fed_concat, List.find?_append, h]
  by_cases hsame : topology.syncSeconds default * 1000 = period
  · simp [hsame]
  · simp [hsame]

/-- Only what was handed over decides whether a heartbeat is over. -/
theorem departure_congr {default period : Nat} {past' : List Event} (h : fed past' = fed past) :
    departure default period past' = departure default period past := by
  unfold departure
  rw [h]

/-- A tick ends with the interval of the snapshot that was handed over last. -/
theorem upholds_tick_fed {patience period due : Nat} :
    Upholds (Noted note) (fun _ => True) (tick settings patience period due).run
      (fun answer past' => periods past' = periods past ∧ match answer with
        | some (_, suggested) => ∃ topology earlier, suggested = settings.periodAfter topology ∧
            past' = earlier ++ [.fed topology] ∧ fed earlier = fed past
        | none => fed past' = fed past) past := by
  refine upholds_bindOption (upholds_take trivial fun now => ⟨trivial, ?_⟩)
  refine upholds_bindOption ((upholds_sync_quiet patience).mono fun answer past' _ h => ?_)
  simp only [note, fed_concat, periods_concat, List.append_nil] at h
  cases answer with
  | none => exact ⟨h.2, h.1⟩
  | some topology =>
      refine upholds_bindOption (upholds_take trivial fun summary => ⟨trivial, trivial, ?_⟩)
      refine ⟨?_, topology, past', rfl, rfl, h.1⟩
      show periods (past' ++ [.fed topology]) = periods past
      simpa using h.2

/-- **Ticks** end with the first snapshot that has another interval. -/
theorem upholds_ticks_departed {patience period : Nat} : ∀ (more due : Nat) {past : List Event},
    departure settings.defaultSeconds period past = none →
    Upholds (Noted note) (fun _ => True) (ticks settings patience period more due).run
      (fun answer past' => EndsDeparted settings.defaultSeconds period answer past' ∧
        periods past' = periods past) past := by
  -- Without such a snapshot the ticks have no answer.
  have hnone : ∀ {past : List Event}, departure settings.defaultSeconds period past = none →
      EndsDeparted settings.defaultSeconds period none past := by
    intro past h
    unfold EndsDeparted
    rw [h]
    exact ⟨rfl, nofun⟩
  intro more
  induction more with
  | zero => intro due past h; exact ⟨trivial, hnone h, rfl⟩
  | succ more ih =>
      intro due past h
      refine upholds_bindOption (upholds_tick_fed.mono fun answer past' _ hend => ?_)
      obtain ⟨hperiods, hend⟩ := hend
      cases answer with
      | none => exact ⟨hnone ((departure_congr hend).trans h), hperiods⟩
      | some answer =>
          obtain ⟨due', suggested⟩ := answer
          obtain ⟨topology, earlier, rfl, rfl, hfed⟩ := hend
          have hdeparture : departure settings.defaultSeconds period (earlier ++ [.fed topology])
              = if settings.periodAfter topology = period then none else some topology :=
            departure_fed topology ((departure_congr hfed).trans h)
          show Upholds _ _ (if settings.periodAfter topology = period then
            ticks settings patience period more due' else pure _).run _ _
          by_cases hsame : settings.periodAfter topology = period
          · rw [if_pos hsame] at hdeparture ⊢
            refine (ih due' hdeparture).mono fun answer past' _ hend => ?_
            exact ⟨hend.1, hend.2.trans hperiods⟩
          · rw [if_neg hsame] at hdeparture ⊢
            refine ⟨trivial, ⟨?_, fun found hfound => ?_⟩, hperiods⟩
            · rw [hdeparture]
              rfl
            · rw [hdeparture] at hfound
              cases hfound
              exact List.getLast?_concat

/-- **A heartbeat** starts one ticker and ends with the first snapshot that has another
interval. -/
theorem upholds_heartbeat_departed (patience ms : Nat) :
    Upholds (Noted note) (fun _ => True) (heartbeat settings patience ms).run
      (fun answer past' => EndsDeparted settings.defaultSeconds (clampPeriod ms) answer past' ∧
        periods past' = [clampPeriod ms]) [] := by
  refine upholds_bindOption (upholds_take trivial fun due => ⟨trivial, ?_⟩)
  have hstarted : departure settings.defaultSeconds (clampPeriod ms)
      [.tickerStarted (clampPeriod ms)] = none := rfl
  exact upholds_ticks_departed patience due hstarted

/-! ## §2. Patience. -/

/-- With more patience the requests go on. -/
theorem continues_sync : ∀ {patience patience' : Nat}, patience ≤ patience' →
    Continues (sync settings patience).run (sync settings patience').run := by
  intro patience
  induction patience with
  | zero => intro patience' _; exact .exhausted _
  | succ patience ih =>
      intro patience' h
      obtain ⟨more, rfl⟩ : ∃ more, patience' = more + 1 := ⟨patience' - 1, by omega⟩
      refine continues_bind (Procedure.continues_refl _) fun answer => ?_
      cases answer with
      | ok topology => exact Procedure.continues_refl _
      | error cause =>
          exact continues_bind (Procedure.continues_refl _) fun _ => ih (Nat.le_of_succ_le_succ h)

/-- With more patience, also for the number of ticks, the ticks go on. -/
theorem continues_ticks {patience patience' period : Nat} (hpatience : patience ≤ patience') :
    ∀ {more more' due : Nat}, more ≤ more' →
    Continues (ticks settings patience period more due).run
      (ticks settings patience' period more' due).run := by
  intro more
  induction more with
  | zero => intro more' due _; exact .exhausted _
  | succ more ih =>
      intro more' due h
      obtain ⟨rest, rfl⟩ : ∃ rest, more' = rest + 1 := ⟨more' - 1, by omega⟩
      have htick : Continues (tick settings patience period due).run
          (tick settings patience' period due).run :=
        continues_bind (Procedure.continues_refl _) fun _ =>
          continues_bind (continues_sync hpatience) fun _ => Procedure.continues_refl _
      refine continues_bind htick fun answer => ?_
      obtain ⟨due', suggested⟩ := answer
      show Continues (if suggested = period then _ else _ : Task Nat).run
        (if suggested = period then _ else _ : Task Nat).run
      by_cases hsame : suggested = period
      · rw [if_pos hsame, if_pos hsame]
        exact ih (Nat.le_of_succ_le_succ h)
      · rw [if_neg hsame, if_neg hsame]
        exact Procedure.continues_refl _

/-- With more patience the heartbeats go on. -/
theorem continues_heartbeats {patience patience' : Nat} (hpatience : patience ≤ patience') :
    ∀ {more more' ms : Nat}, more ≤ more' →
    Continues (heartbeats settings patience more ms).run
      (heartbeats settings patience' more' ms).run := by
  intro more
  induction more with
  | zero => intro more' ms _; exact .exhausted _
  | succ more ih =>
      intro more' ms h
      obtain ⟨rest, rfl⟩ : ∃ rest, more' = rest + 1 := ⟨more' - 1, by omega⟩
      have hbeat : Continues (heartbeat settings patience ms).run
          (heartbeat settings patience' ms).run :=
        continues_bind (Procedure.continues_refl _) fun _ => continues_ticks hpatience hpatience
      exact continues_bind hbeat fun _ => ih (Nat.le_of_succ_le_succ h)

/-- **With more patience a client goes on** where it would have ended. -/
theorem continues_initAndRun {patience patience' : Nat} (h : patience ≤ patience') :
    Continues (initAndRun settings patience).run (initAndRun settings patience').run := by
  have hinit : Continues (init settings patience).run (init settings patience').run :=
    continues_bind (continues_sync h) fun _ => Procedure.continues_refl _
  exact continues_bind hinit fun _ => continues_heartbeats h h

/-- A task with an answer adds to the history; without one, it adds at least so many events. -/
def Lengthens {α : Type} (past : List Event) (n : Nat) : Option α → List Event → Prop
  | some _, past' => past.length < past'.length
  | none, past' => past.length + n ≤ past'.length

/-- Each refusal that patience allows is an event, so out of patience there are as many. -/
theorem upholds_sync_long : ∀ (patience : Nat) {past : List Event},
    Upholds (Noted note) (fun _ => True) (sync settings patience).run
      (Lengthens past patience) past := by
  intro patience
  induction patience with
  | zero => intro past; exact ⟨trivial, Nat.le_refl _⟩
  | succ patience ih =>
      intro past
      refine upholds_bindOption (upholds_take trivial fun answer => ⟨trivial, ?_⟩)
      cases answer with
      | ok topology => exact ⟨trivial, by simp [Lengthens]⟩
      | error cause =>
          refine upholds_bindOption (upholds_take trivial fun _ => ⟨trivial, ?_⟩)
          refine ih.mono fun answer past' _ h => ?_
          cases answer <;> simp [Lengthens] at h ⊢ <;> omega

/-- A tick that runs out of patience is as long as the requests in it. -/
theorem upholds_tick_long {patience period due : Nat} :
    Upholds (Noted note) (fun _ => True) (tick settings patience period due).run
      (Lengthens past patience) past := by
  refine upholds_bindOption (upholds_take trivial fun now => ⟨trivial, ?_⟩)
  refine upholds_bindOption ((upholds_sync_long patience).mono fun answer past' _ h => ?_)
  cases answer with
  | none => simp [Lengthens] at h ⊢; omega
  | some topology =>
      refine upholds_bindOption (upholds_take trivial fun summary => ⟨trivial, trivial, ?_⟩)
      simp [Lengthens] at h ⊢
      omega

/-- Ticks run out of patience only after so many events. Induction on the ticks. -/
theorem upholds_ticks_long {patience period : Nat} : ∀ (more due : Nat) {past : List Event},
    Upholds (Noted note) (fun _ => True) (ticks settings patience period more due).run
      (Lengthens past (min more patience)) past := by
  intro more
  induction more with
  | zero => intro due past; exact ⟨trivial, by simp [Lengthens]⟩
  | succ more ih =>
      intro due past
      refine upholds_bindOption (upholds_tick_long.mono fun answer past' _ h => ?_)
      cases answer with
      | none => simp [Lengthens] at h ⊢; omega
      | some answer =>
          obtain ⟨due', suggested⟩ := answer
          show Upholds _ _ (if suggested = period then
            ticks settings patience period more due' else pure suggested).run _ past'
          by_cases hsame : suggested = period
          · rw [if_pos hsame]
            refine (ih due').mono fun answer past'' _ h' => ?_
            cases answer <;> simp [Lengthens] at h h' ⊢ <;> omega
          · rw [if_neg hsame]
            exact ⟨trivial, h⟩

/-- So do heartbeats. -/
theorem upholds_heartbeats_long {patience : Nat} : ∀ (more ms : Nat) {past : List Event},
    Upholds (Noted note) (fun _ => True) (heartbeats settings patience more ms).run
      (Lengthens past (min more patience)) past := by
  intro more
  induction more with
  | zero => intro ms past; exact ⟨trivial, by simp [Lengthens]⟩
  | succ more ih =>
      intro ms past
      refine upholds_bindOption (upholds_bindOption (upholds_take trivial fun due => ⟨trivial, ?_⟩))
      refine (upholds_ticks_long patience due).mono fun answer past' _ h => ?_
      cases answer with
      | none => simp [Lengthens] at h ⊢; omega
      | some ms' =>
          refine (ih ms').mono fun answer past'' _ h' => ?_
          cases answer <;> simp [Lengthens] at h h' ⊢ <;> omega

/-- **A client that runs out of patience has done much**, as much as it had patience. -/
theorem upholds_initAndRun_long (patience : Nat) :
    Upholds (Noted note) (fun _ => True) (initAndRun settings patience).run
      (Lengthens [] patience) [] := by
  refine upholds_bindOption (upholds_bindOption
    ((upholds_sync_long patience).mono fun answer past _ h => ?_))
  cases answer with
  | none => exact h
  | some topology =>
      refine upholds_bindOption (upholds_take trivial fun summary => ⟨trivial, trivial, ?_⟩)
      refine (upholds_heartbeats_long patience _).mono fun answer past' _ h' => ?_
      cases answer <;> simp [Lengthens] at h' ⊢ <;> omega

end VxlanMesh.Manager.Client
