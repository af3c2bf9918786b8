/-
  VxlanMesh.Proofs.Operation
  ────────────────────────────────
  **WHAT OPERATIONS PRESERVE, HOWEVER THEY END.**

  The state that an operation leaves behind is kept when it fails and when
  it is abandoned, so an invariant has to survive all three ends.
-/
import VxlanMesh.Operation

namespace VxlanMesh

/-- What an operation ends with whose result is known. -/
def Outcome.ofExcept {α : Type} : Except OverlayError α → Outcome α
  | .ok a => .done a
  | .error e => .failed e

/-- Change the value of an operation that is done. -/
def Outcome.map {α β : Type} (f : α → β) : Outcome α → Outcome β
  | .done a => .done (f a)
  | .failed e => .failed e
  | .abandoned => .abandoned

namespace Operation

variable {S α β : Type}

theorem bind_abandoned {op : Operation S α} {next : α → Operation S β} {s s' : S}
    (h : op s = (.abandoned, s')) : (op >>= next) s = (.abandoned, s') := by
  simp [bind_apply, andThen, h]

/-- Mapping changes the value alone: the operation ends as before, in the same state. -/
theorem map_apply (f : α → β) (op : Operation S α) (s : S) :
    (f <$> op) s = ((op s).1.map f, (op s).2) := by
  show (op >>= fun a => pure (f a)) s = _
  cases h : op s with
  | mk outcome s' =>
      cases outcome with
      | done a => rw [bind_done h]; rfl
      | failed e => rw [bind_failed h]; rfl
      | abandoned => rw [bind_abandoned h]; rfl

/-- Operations in sequence may be grouped either way, also where one of them fails. -/
theorem bind_assoc {γ : Type} (op : Operation S α) (f : α → Operation S β)
    (g : β → Operation S γ) : op >>= f >>= g = op >>= fun a => f a >>= g := by
  funext s
  cases h : op s with
  | mk outcome s' =>
      cases outcome with
      | done a =>
          rw [bind_done h]
          show ((op >>= f) >>= g) s = (f a >>= g) s'
          rw [bind_apply, bind_apply, andThen, andThen, bind_done h]
      | failed e => rw [bind_failed h, bind_failed (bind_failed h)]
      | abandoned => rw [bind_abandoned h, bind_abandoned (bind_abandoned h)]

/-- A step that may fail is never abandoned: it ends as its answer says. -/
theorem tryStep_eq (f : S → Except OverlayError α × S) (s : S) :
    tryStep f s = (.ofExcept (f s).1, (f s).2) := by
  rw [tryStep]
  cases h : f s with
  | mk answer s' => cases answer <;> rfl

/-- An attempt at what is done gives its value. -/
theorem attempt_done {op : Operation S α} {a : α} {s s' : S} (h : op s = (.done a, s')) :
    attempt op s = (.done (.ok a), s') := by
  simp only [attempt, h]

/-- An attempt at what fails is done, and has the cause as its value. -/
theorem attempt_failed {op : Operation S α} {e : OverlayError} {s s' : S}
    (h : op s = (.failed e, s')) : attempt op s = (.done (.error e), s') := by
  simp only [attempt, h]

theorem attempt_ofExcept {op : Operation S α} {answer : Except OverlayError α} {s s' : S}
    (h : op s = (.ofExcept answer, s')) : attempt op s = (.done answer, s') := by
  cases answer with
  | ok a => exact attempt_done h
  | error e => exact attempt_failed h

/-- An attempt does not save what is abandoned. -/
theorem attempt_abandoned {op : Operation S α} {s s' : S} (h : op s = (.abandoned, s')) :
    attempt op s = (.abandoned, s') := by
  simp only [attempt, h]

/-- What holds before the operation holds after it, however it ends. -/
def Preserves (P : S → Prop) (op : Operation S α) : Prop := ∀ s, P s → P (op s).2

variable {P : S → Prop}

theorem preserves_pure (a : α) : Preserves P (pure a : Operation S α) := fun _ h => h

/-- What follows an operation starts in the state that it leaves behind. -/
theorem snd_bind {op : Operation S α} {next : α → Operation S β} {s : S} (hop : P (op s).2)
    (hnext : ∀ a s', op s = (.done a, s') → P s' → P (next a s').2) :
    P ((op >>= next) s).2 := by
  cases h : op s with
  | mk outcome s' =>
      rw [h] at hop
      cases outcome with
      | done a => rw [bind_done h]; exact hnext a s' h hop
      | failed e => rw [bind_failed h]; exact hop
      | abandoned => rw [bind_abandoned h]; exact hop

/-- An attempt leaves the state that the operation leaves. -/
theorem snd_attempt (op : Operation S α) (s : S) : (attempt op s).2 = (op s).2 := by
  cases h : op s with
  | mk outcome s' =>
      cases outcome with
      | done a => rw [attempt_done h]
      | failed e => rw [attempt_failed h]
      | abandoned => rw [attempt_abandoned h]

/-- A property that each of two operations preserves is preserved by both in sequence. -/
theorem preserves_bind {op : Operation S α} {next : α → Operation S β} (hop : Preserves P op)
    (hnext : ∀ a, Preserves P (next a)) : Preserves P (op >>= next) := fun s hs =>
  snd_bind (hop s hs) fun a s' _ hs' => hnext a s' hs'

theorem preserves_attempt {op : Operation S α} (hop : Preserves P op) :
    Preserves P (attempt op) := by
  intro s hs
  rw [snd_attempt]
  exact hop s hs

/-- From a state with the property the operation is not abandoned, and the property stays. -/
def Completes (P : S → Prop) (op : Operation S α) : Prop :=
  ∀ s, P s → (op s).1 ≠ .abandoned ∧ P (op s).2

theorem completes_pure (a : α) : Completes P (pure a : Operation S α) := fun _ h => ⟨nofun, h⟩

/-- Two operations that are not abandoned are not abandoned in sequence. -/
theorem completes_bind {op : Operation S α} {next : α → Operation S β} (hop : Completes P op)
    (hnext : ∀ a, Completes P (next a)) : Completes P (op >>= next) := by
  intro s hs
  obtain ⟨hends, hafter⟩ := hop s hs
  cases h : op s with
  | mk outcome s' =>
      rw [h] at hends hafter
      cases outcome with
      | done a => rw [bind_done h]; exact hnext a s' hafter
      | failed e => rw [bind_failed h]; exact ⟨nofun, hafter⟩
      | abandoned => exact absurd rfl hends

theorem completes_attempt {op : Operation S α} (hop : Completes P op) :
    Completes P (attempt op) := by
  intro s hs
  obtain ⟨hends, hafter⟩ := hop s hs
  cases h : op s with
  | mk outcome s' =>
      rw [h] at hends hafter
      cases outcome with
      | done a => rw [attempt_done h]; exact ⟨nofun, hafter⟩
      | failed e => rw [attempt_failed h]; exact ⟨nofun, hafter⟩
      | abandoned => exact absurd rfl hends

/-- An attempt at what is not abandoned is done. -/
theorem attempt_ends {op : Operation S α} {s : S} (h : (op s).1 ≠ .abandoned) :
    ∃ answer, attempt op s = (.done answer, (op s).2) := by
  cases hrun : op s with
  | mk outcome s' =>
      cases outcome with
      | done a => exact ⟨.ok a, attempt_done hrun⟩
      | failed e => exact ⟨.error e, attempt_failed hrun⟩
      | abandoned => rw [hrun] at h; exact absurd rfl h

/-! Waiting and trying again. -/

section
variable [Timed S]

/-- **Without a deadline a wait ends**, and moves the clock alone. -/
theorem sleep_unhurried {s : S} (h : (Timed.clock s).deadline = none) (ms : Nat) :
    sleep ms s = (.done (), Timed.setClock { now := (Timed.clock s).now + ms } s) := by
  have hadvance : (Timed.clock s).advance ms = (true, { now := (Timed.clock s).now + ms }) := by
    rw [Clock.advance, h]
  rw [sleep, hadvance]

/-- Waiting preserves what does not depend on the clock. -/
theorem preserves_sleep (hclock : ∀ clock s, P s → P (Timed.setClock clock s)) (ms : Nat) :
    Preserves P (sleep ms : Operation S Unit) := by
  intro s hs
  rw [sleep]
  split <;> exact hclock _ s hs

/-- What is done at once is not tried again. -/
theorem retryMore_done {action : Operation S α} {s s' : S} {a : α} (h : action s = (.done a, s'))
    (delay more : Nat) : retryMore delay action more s = (.done a, s') := by
  cases more with
  | zero => exact h
  | succ more =>
      rw [retryMore, bind_done (attempt_done h)]
      rfl

/-- What is abandoned is not tried again. -/
theorem retryMore_abandoned {action : Operation S α} {s s' : S} (h : action s = (.abandoned, s'))
    (delay more : Nat) : retryMore delay action more s = (.abandoned, s') := by
  cases more with
  | zero => exact h
  | succ more => rw [retryMore, bind_abandoned (attempt_abandoned h)]

/-- What failed is tried again after a while. -/
theorem retryMore_failed {action : Operation S α} {s s' : S} {e : OverlayError}
    (h : action s = (.failed e, s')) (delay more : Nat) :
    retryMore delay action (more + 1) s
      = (sleep delay >>= fun _ => retryMore delay action more) s' := by
  rw [retryMore, bind_done (attempt_failed h)]

/-- Any number of attempts preserves what one attempt and the clock preserve. -/
theorem preserves_retryMore (hclock : ∀ clock s, P s → P (Timed.setClock clock s)) (delay : Nat)
    {action : Operation S α} (haction : Preserves P action) (more : Nat) :
    Preserves P (retryMore delay action more) := by
  induction more with
  | zero => exact haction
  | succ more ih =>
      refine preserves_bind (preserves_attempt haction) fun answer => ?_
      cases answer with
      | ok a => exact preserves_pure a
      | error e => exact preserves_bind (preserves_sleep hclock delay) fun _ => ih

/-- Done, the operation changes what is seen of the state by `f`; ended otherwise, it changes
nothing of it. -/
def AllOrNothing {V : Type} (view : S → V) (f : V → V) (op : Operation S α) : Prop :=
  ∀ s, view (op s).2 = match (op s).1 with
    | .done _ => f (view s)
    | .failed _ | .abandoned => view s

omit [Timed S] in
theorem AllOrNothing.done {V : Type} {view : S → V} {f : V → V} {op : Operation S α}
    (h : AllOrNothing view f op) {s s' : S} {a : α} (hop : op s = (.done a, s')) :
    view s' = f (view s) := by
  have hs := h s
  rw [hop] at hs
  exact hs

omit [Timed S] in
/-- What fails changes nothing of what is seen. -/
theorem AllOrNothing.failed {V : Type} {view : S → V} {f : V → V} {op : Operation S α}
    (h : AllOrNothing view f op) {s s' : S} {e : OverlayError} (hop : op s = (.failed e, s')) :
    view s' = view s := by
  have hs := h s
  rw [hop] at hs
  exact hs

omit [Timed S] in
theorem AllOrNothing.abandoned {V : Type} {view : S → V} {f : V → V} {op : Operation S α}
    (h : AllOrNothing view f op) {s s' : S} (hop : op s = (.abandoned, s')) :
    view s' = view s := by
  have hs := h s
  rw [hop] at hs
  exact hs

/-- Of several attempts only the last can be done, and waiting changes nothing. -/
theorem allOrNothing_retryMore {V : Type} {view : S → V} {f : V → V}
    (hclock : ∀ clock s, view (Timed.setClock clock s) = view s) (delay : Nat)
    {action : Operation S α} (haction : AllOrNothing view f action) (more : Nat) :
    AllOrNothing view f (retryMore delay action more) := by
  induction more with
  | zero => exact haction
  | succ more ih =>
      intro s
      cases h : action s with
      | mk outcome s' =>
          cases outcome with
          | done a =>
              rw [retryMore_done h]
              exact haction.done h
          | abandoned =>
              rw [retryMore_abandoned h]
              exact haction.abandoned h
          | failed e =>
              rw [retryMore_failed h, ← haction.failed h]
              cases hadvance : (Timed.clock s').advance delay with
              | mk kept clock =>
                  rw [← hclock clock s']
                  cases kept with
                  | true =>
                      have hsleep : sleep delay s' = (.done (), Timed.setClock clock s') := by
                        rw [sleep, hadvance]
                      rw [bind_done hsleep]
                      exact ih _
                  | false =>
                      have hsleep : sleep delay s' = (.abandoned, Timed.setClock clock s') := by
                        rw [sleep, hadvance]
                      rw [bind_abandoned hsleep]

/-- Where neither the attempts nor the pauses are abandoned, the retrying is not. -/
theorem completes_retryMore {delay : Nat} (hsleep : Completes P (sleep delay : Operation S Unit))
    {action : Operation S α} (haction : Completes P action) (more : Nat) :
    Completes P (retryMore delay action more) := by
  induction more with
  | zero => exact haction
  | succ more ih =>
      refine completes_bind (completes_attempt haction) fun answer => ?_
      cases answer with
      | ok a => exact completes_pure a
      | error e => exact completes_bind hsleep fun _ => ih

end

end Operation

end VxlanMesh
