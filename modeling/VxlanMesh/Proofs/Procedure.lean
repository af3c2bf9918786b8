/-
  VxlanMesh.Proofs.Procedure
  ────────────────────────────────
  **WHAT HOLDS ALL ALONG A PROCEDURE, AND AT ITS END.**

  `Upholds answers keep p ends s` says: whatever the steps of `p` are
  answered, as far as `answers` allows, `keep` holds before and after each
  of them, and `ends` holds of the answer and the state at the end.  It is
  proved on states that say only what matters; a meaning of the steps on
  larger states inherits it through a `view` (`Carries`), for whole runs
  and for runs that are cut off between two steps.

      upholds_andThen      procedures one after the other
      run_of_upholds       a whole run
      cut_of_upholds       a run that is cut off
      run_noting           a run with its history is the run
-/
import VxlanMesh.Procedure
import VxlanMesh.Proofs.Operation

namespace VxlanMesh.Procedure

variable {Step : Type → Type} {S T α β : Type}

/-! ## §1. All runs at once. -/

/-- How steps may be answered: the step, the state before it, its answer, the state after. -/
abbrev Answering (Step : Type → Type) (S : Type) : Type 1 :=
  (β : Type) → Step β → S → β → S → Prop

/-- Along every run `keep` holds, and at its end `ends` does. -/
def Upholds (answers : Answering Step S) (keep : S → Prop) :
    Procedure Step α → (α → S → Prop) → S → Prop
  | done a, ends, s => keep s ∧ ends a s
  | step first next, ends, s =>
      keep s ∧ ∀ b s', answers _ first s b s' → Upholds answers keep (next b) ends s'

variable {answers : Answering Step S} {keep : S → Prop}

theorem Upholds.keep_start {p : Procedure Step α} {ends : α → S → Prop} {s : S}
    (h : Upholds answers keep p ends s) : keep s := by
  cases p with
  | done a => exact h.1
  | step first next => exact h.1

/-- A weaker end; `keep` may be used to show it. -/
theorem Upholds.mono {ends ends' : α → S → Prop} (himp : ∀ a s, keep s → ends a s → ends' a s) :
    ∀ {p : Procedure Step α} {s : S}, Upholds answers keep p ends s →
      Upholds answers keep p ends' s := by
  intro p
  induction p with
  | done a => intro s h; exact ⟨h.1, himp a s h.1 h.2⟩
  | step first next ih => intro s h; exact ⟨h.1, fun b s' hb => ih b (h.2 b s' hb)⟩

/-- **Procedures one after the other.** -/
theorem upholds_andThen {f : α → Procedure Step β} {ends : β → S → Prop} :
    ∀ {p : Procedure Step α} {s : S},
      Upholds answers keep p (fun a s' => Upholds answers keep (f a) ends s') s →
      Upholds answers keep (p.andThen f) ends s := by
  intro p
  induction p with
  | done a => intro s h; exact h.2
  | step first next ih => intro s h; exact ⟨h.1, fun b s' hb => ih b (h.2 b s' hb)⟩

/-- Procedures one after the other, where a failure of the first skips the second. -/
theorem upholds_bind {ε : Type} {task : ExceptT ε (Procedure Step) α}
    {next : α → ExceptT ε (Procedure Step) β} {ends : Except ε β → S → Prop} {s : S}
    (h : Upholds answers keep task.run (fun result s' => match result with
      | .ok a => Upholds answers keep (next a).run ends s'
      | .error e => ends (.error e) s') s) :
    Upholds answers keep (task >>= next).run ends s := by
  refine upholds_andThen (Upholds.mono (fun result s' hkeep hends => ?_) h)
  cases result with
  | ok a => exact hends
  -- Nothing of `next` is run, so the end is reached here.
  | error e => exact ⟨hkeep, hends⟩

/-- Procedures one after the other, where the second is skipped if the first has no answer. -/
theorem upholds_bindOption {task : OptionT (Procedure Step) α}
    {next : α → OptionT (Procedure Step) β} {ends : Option β → S → Prop} {s : S}
    (h : Upholds answers keep task.run (fun result s' => match result with
      | some a => Upholds answers keep (next a).run ends s'
      | none => ends none s') s) :
    Upholds answers keep (task >>= next).run ends s := by
  refine upholds_andThen (Upholds.mono (fun result s' hkeep hends => ?_) h)
  cases result with
  | some a => exact hends
  | none => exact ⟨hkeep, hends⟩

/-! ## §2. Runs on larger states. -/

/-- The state in which a run is cut off before its step number `n`, counting from zero; the
last state if the run is not that long. -/
def cut (perform : {β : Type} → Step β → Operation T β) : Nat → Procedure Step α → T → T
  | 0, _, t => t
  | _ + 1, done _, t => t
  | n + 1, step first next, t => match perform first t with
    | (.done b, t') => cut perform n (next b) t'
    | (_, t') => t'

/-- From a state that is safe every step ends with an answer that is allowed, as seen through
`view`; and the next state is safe as long as `keep` holds of it. -/
def Carries (answers : Answering Step S) (perform : {β : Type} → Step β → Operation T β)
    (view : T → S) (keep : S → Prop) (safe : T → Prop) : Prop :=
  ∀ {β : Type} (s : Step β) (t : T), safe t → ∃ b t', perform s t = (.done b, t') ∧
    answers β s (view t) b (view t') ∧ (keep (view t') → safe t')

/-- Procedures one after the other, run. -/
theorem run_andThen (perform : {β : Type} → Step β → Operation T β) (f : α → Procedure Step β) :
    ∀ p : Procedure Step α, run perform (p.andThen f) = run perform p >>= fun a => run perform (f a)
  | done a => rfl
  | step first next => by
      show perform first >>= (fun b => run perform ((next b).andThen f)) = _
      rw [run, Operation.bind_assoc]
      congr 1
      funext b
      exact run_andThen perform f (next b)

section
variable {perform : {β : Type} → Step β → Operation T β} {view : T → S} {safe : T → Prop}

/-- **A whole run** ends, as it should, in a state that is safe. -/
theorem run_of_upholds (hcarries : Carries answers perform view keep safe)
    {ends : α → S → Prop} : ∀ {p : Procedure Step α} {t : T},
      Upholds answers keep p ends (view t) → safe t →
      ∃ a t', run perform p t = (.done a, t') ∧ ends a (view t') ∧ safe t' := by
  intro p
  induction p with
  | done a => intro t h hsafe; exact ⟨a, t, rfl, h.2, hsafe⟩
  | step first next ih =>
      intro t h hsafe
      obtain ⟨b, t₁, hperform, hanswer, hstep⟩ := hcarries first t hsafe
      -- The step is allowed as seen through the view, so what upholds goes on from there.
      have hnext := h.2 b (view t₁) hanswer
      obtain ⟨a, t', hrun, hends⟩ := ih b hnext (hstep hnext.keep_start)
      refine ⟨a, t', ?_, hends⟩
      rw [run, Operation.bind_done hperform, hrun]

/-- **A run that is cut off** leaves a state that is safe. -/
theorem cut_of_upholds (hcarries : Carries answers perform view keep safe)
    {ends : α → S → Prop} : ∀ {p : Procedure Step α} {t : T} (n : Nat),
      Upholds answers keep p ends (view t) → safe t → safe (cut perform n p t) := by
  intro p
  induction p with
  | done a => intro t n h hsafe; cases n <;> exact hsafe
  | step first next ih =>
      intro t n h hsafe
      cases n with
      | zero => exact hsafe
      | succ n =>
          obtain ⟨b, t₁, hperform, hanswer, hstep⟩ := hcarries first t hsafe
          have hnext := h.2 b (view t₁) hanswer
          have hcut : cut perform (n + 1) (step first next) t = cut perform n (next b) t₁ := by
            rw [cut, show perform first t = (.done b, t₁) from hperform]
          rw [hcut]
          exact ih b n hnext (hstep hnext.keep_start)

end

/-! ## §3. Runs with their history. -/

section
variable {Event : Type} (note : {β : Type} → Step β → β → Event)
  (perform : {β : Type} → Step β → Operation T β)

/-- Perform a step on a state that is kept together with its history; a step that ends with an
answer is noted. -/
def noting {β : Type} (s : Step β) : Operation (List Event × T) β := fun (past, t) =>
  match perform s t with
  | (.done b, t') => (.done b, past ++ [note s b], t')
  | (.failed e, t') => (.failed e, past, t')
  | (.abandoned, t') => (.abandoned, past, t')

variable {note perform} in
theorem noting_done {s : Step β} {t t' : T} {b : β} (h : perform s t = (.done b, t'))
    (past : List Event) : noting note perform s (past, t) = (.done b, past ++ [note s b], t') := by
  rw [noting, h]

variable {note perform} in
theorem noting_failed {s : Step β} {t t' : T} {e : OverlayError}
    (h : perform s t = (.failed e, t')) (past : List Event) :
    noting note perform s (past, t) = (.failed e, past, t') := by
  rw [noting, h]

variable {note perform} in
theorem noting_abandoned {s : Step β} {t t' : T} (h : perform s t = (.abandoned, t'))
    (past : List Event) : noting note perform s (past, t) = (.abandoned, past, t') := by
  rw [noting, h]

/-- **The history changes nothing**: it can be left out of a run. -/
theorem run_noting : ∀ (p : Procedure Step α) (past : List Event) (t : T),
    run perform p t = ((run (noting note perform) p (past, t)).1,
      (run (noting note perform) p (past, t)).2.2)
  | done a, past, t => rfl
  | step first next, past, t => by
      rw [run, run]
      cases h : perform first t with
      | mk outcome t' =>
          cases outcome with
          | done b =>
              rw [Operation.bind_done h, Operation.bind_done (noting_done h past)]
              exact run_noting (next b) _ t'
          | failed e =>
              rw [Operation.bind_failed h, Operation.bind_failed (noting_failed h past)]
          | abandoned =>
              rw [Operation.bind_abandoned h, Operation.bind_abandoned (noting_abandoned h past)]

/-- The steps of a procedure that end with an answer, in a run of it. -/
def history (p : Procedure Step α) (t : T) : List Event :=
  (run (noting note perform) p ([], t)).2.1

/-- What is noted does not depend on what was noted before. -/
theorem run_noting_append : ∀ (p : Procedure Step α) (past : List Event) (t : T),
    (run (noting note perform) p (past, t)).2.1 = past ++ history note perform p t
  | done a, past, t => (List.append_nil past).symm
  | step first next, past, t => by
      rw [history, run]
      cases h : perform first t with
      | mk outcome t' =>
          cases outcome with
          | done b =>
              rw [Operation.bind_done (noting_done h past), Operation.bind_done (noting_done h []),
                run_noting_append (next b), run_noting_append (next b), List.append_assoc]
              rfl
          | failed e =>
              rw [Operation.bind_failed (noting_failed h past),
                Operation.bind_failed (noting_failed h [])]
              exact (List.append_nil past).symm
          | abandoned =>
              rw [Operation.bind_abandoned (noting_abandoned h past),
                Operation.bind_abandoned (noting_abandoned h [])]
              exact (List.append_nil past).symm

/-- **A run that is cut off** has the beginning of the history behind it. -/
theorem cut_noting : ∀ (p : Procedure Step α) (n : Nat) (past : List Event) (t : T),
    cut (noting note perform) n p (past, t)
      = (past ++ (history note perform p t).take n, cut perform n p t)
  | p, 0, past, t => by
      simp [cut]
  | done a, n + 1, past, t => by
      simp [cut, history, run]
  | step first next, n + 1, past, t => by
      rw [cut, cut, history, run]
      cases h : perform first t with
      | mk outcome t' =>
          cases outcome with
          | done b =>
              rw [noting_done h past, Operation.bind_done (noting_done h []),
                run_noting_append note perform (next b)]
              simp [cut_noting (next b) n]
          | failed e =>
              rw [noting_failed h past, Operation.bind_failed (noting_failed h [])]
              simp
          | abandoned =>
              rw [noting_abandoned h past, Operation.bind_abandoned (noting_abandoned h [])]
              simp

/-- **Every entry of the history** is a step between two moments of the run. -/
theorem step_of_history : ∀ (p : Procedure Step α) (n : Nat) (t : T) {e : Event},
    (history note perform p t)[n]? = some e → ∃ (β : Type) (s : Step β) (b : β),
      perform s (cut perform n p t) = (.done b, cut perform (n + 1) p t) ∧ note s b = e
  | done a, n, t, e, he => by cases he
  | step first next, n, t, e, he => by
      rw [history, run] at he
      cases h : perform first t with
      | mk outcome t' =>
          cases outcome with
          | done b =>
              rw [Operation.bind_done (noting_done h []), run_noting_append note perform,
                List.nil_append] at he
              have hcut : ∀ n, cut perform (n + 1) (step first next) t
                  = cut perform n (next b) t' := by
                intro n
                rw [cut, show perform first t = (.done b, t') from h]
              cases n with
              | zero =>
                  cases he
                  exact ⟨_, first, b, by rw [hcut]; exact h, rfl⟩
              | succ n =>
                  rw [hcut, hcut]
                  exact step_of_history (next b) n t' he
          | failed e =>
              rw [Operation.bind_failed (noting_failed h [])] at he
              cases he
          | abandoned =>
              rw [Operation.bind_abandoned (noting_abandoned h [])] at he
              cases he

/-- A step adds itself and its answer, whatever that is, to the history. -/
def Noted : Answering Step (List Event) := fun _ s past b past' => past' = past ++ [note s b]

end

/-! ## §4. Going on where another procedure ends. -/

/-- The second procedure takes the steps of the first, and may go on where the first ends
without an answer. -/
inductive Continues : Procedure Step (Option α) → Procedure Step (Option α) → Prop
  | done (a : Option α) : Continues (.done a) (.done a)
  | exhausted (p : Procedure Step (Option α)) : Continues (.done none) p
  | step {β : Type} (first : Step β) {next next' : β → Procedure Step (Option α)}
      (h : ∀ b, Continues (next b) (next' b)) : Continues (.step first next) (.step first next')

theorem continues_refl : ∀ p : Procedure Step (Option α), Continues p p
  | .done a => .done a
  | .step first next => .step first fun b => continues_refl (next b)

/-- Procedures one after the other: each may go on longer. -/
theorem continues_bind {task task' : OptionT (Procedure Step) α}
    {next next' : α → OptionT (Procedure Step) β} (h : Continues task.run task'.run)
    (hnext : ∀ a, Continues (next a).run (next' a).run) :
    Continues (task >>= next).run (task' >>= next').run := by
  have hbind : ∀ {p p' : Procedure Step (Option α)}, Continues p p' →
      Continues (OptionT.mk p >>= next).run (OptionT.mk p' >>= next').run := by
    intro p p' h
    induction h with
    | done a =>
        cases a with
        | some a => exact hnext a
        | none => exact .done none
    | exhausted p => exact .exhausted _
    | step first h ih => exact .step first ih
  exact hbind h

section
variable {Event : Type} {note : {β : Type} → Step β → β → Event}
  {perform : {β : Type} → Step β → Operation T β}

/-- **Going on adds to the history.** -/
theorem history_of_continues {p p' : Procedure Step (Option α)} (h : Continues p p') (t : T) :
    history note perform p t <+: history note perform p' t := by
  have hrun : ∀ (past : List Event) (t : T), (run (noting note perform) p (past, t)).2.1
      <+: (run (noting note perform) p' (past, t)).2.1 := by
    induction h with
    | done a => intro past t; exact List.prefix_refl _
    | exhausted p =>
        intro past t
        rw [run_noting_append note perform p]
        exact List.prefix_append past _
    | step first _ ih =>
        intro past t
        rw [run, run]
        cases hstep : perform first t with
        | mk outcome t' =>
            cases outcome with
            | done b =>
                rw [Operation.bind_done (noting_done hstep past),
                  Operation.bind_done (noting_done hstep past)]
                exact ih b _ t'
            | failed e =>
                simp only [Operation.bind_failed (noting_failed hstep past), List.prefix_rfl]
            | abandoned =>
                simp only [Operation.bind_abandoned (noting_abandoned hstep past),
                  List.prefix_rfl]
  exact hrun [] t

end

end VxlanMesh.Procedure
