/-
  VxlanMesh.Operation
  ────────────────────────────────
  **OPERATIONS ON A STATE, WITH FAILURE AND VIRTUAL TIME.**

  An `Operation S α` runs on a state of type `S` and ends in one of three
  ways: it is `done`, it `failed` with a cause, or it was `abandoned`
  because a deadline passed while it waited.  In all three the state it
  leaves behind is kept: an operation that fails half-way is not undone.

  Time is a `Clock` in the state that only `sleep` moves.  A wait that
  would end after the deadline leaves the clock at the deadline and
  abandons the operation.

      retry      a bounded number of attempts with a pause in between
      persist    attempts until one succeeds
-/
import VxlanMesh.Error

namespace VxlanMesh

/-! ## §1. Outcomes and operations. -/

/-- How an operation ended. -/
inductive Outcome (α : Type) where
  | done (value : α)
  | failed (cause : OverlayError)
  | abandoned
  deriving Repr, DecidableEq

/-- A step on a state of type `S`; the state is kept however it ends. -/
def Operation (S α : Type) : Type := S → Outcome α × S

namespace Operation

variable {S T α β : Type}

/-- Carry on with the value of an operation that is done. -/
def andThen (op : Operation S α) (next : α → Operation S β) : Operation S β := fun s =>
  match op s with
  | (.done a, s') => next a s'
  | (.failed e, s') => (.failed e, s')
  | (.abandoned, s') => (.abandoned, s')

instance : Monad (Operation S) where
  pure a := fun s => (.done a, s)
  bind := andThen

/-- End with a cause, leaving the state alone. -/
def fail (e : OverlayError) : Operation S α := fun s => (.failed e, s)

/-- End without an answer, leaving the state alone. -/
def abandon : Operation S α := fun s => (.abandoned, s)

/-- The current state. -/
def get : Operation S S := fun s => (.done s, s)

/-- Change the state. -/
def modify (f : S → S) : Operation S Unit := fun s => (.done (), f s)

/-- A step that always answers. -/
def step (f : S → α × S) : Operation S α := fun s => let (a, s') := f s; (.done a, s')

/-- A step that answers or fails. -/
def tryStep (f : S → Except OverlayError α × S) : Operation S α := fun s =>
  match f s with
  | (.ok a, s') => (.done a, s')
  | (.error e, s') => (.failed e, s')

/-- Turn a failure into a value. -/
def attempt (op : Operation S α) : Operation S (Except OverlayError α) := fun s =>
  match op s with
  | (.done a, s') => (.done (.ok a), s')
  | (.failed e, s') => (.done (.error e), s')
  | (.abandoned, s') => (.abandoned, s')

/-- End as a result says. -/
def ofExcept : Except OverlayError α → Operation S α
  | .ok a => pure a
  | .error e => fail e

/-- Run an operation of a part on the whole. -/
def within (part : S → T) (replace : T → S → S) (op : Operation T α) : Operation S α :=
  fun s => let (outcome, t) := op (part s); (outcome, replace t s)

/-! ## §2. Laws of sequencing. -/

@[simp] theorem pure_apply (a : α) (s : S) : (pure a : Operation S α) s = (.done a, s) := rfl

@[simp] theorem fail_apply (e : OverlayError) (s : S) :
    (fail e : Operation S α) s = (.failed e, s) := rfl

theorem bind_apply (op : Operation S α) (next : α → Operation S β) (s : S) :
    (op >>= next) s = andThen op next s := rfl

/-- What is done hands its value on. -/
@[simp] theorem bind_done {op : Operation S α} {next : α → Operation S β} {s s' : S} {a : α}
    (h : op s = (.done a, s')) : (op >>= next) s = next a s' := by
  simp [bind_apply, andThen, h]

/-- What fails ends what follows it as well. -/
@[simp] theorem bind_failed {op : Operation S α} {next : α → Operation S β} {s s' : S}
    {e : OverlayError} (h : op s = (.failed e, s')) : (op >>= next) s = (.failed e, s') := by
  simp [bind_apply, andThen, h]

end Operation

/-! ## §3. Virtual time. -/

/-- Virtual milliseconds since the start, and when waiting ends at the latest. -/
structure Clock where
  now : Nat := 0
  deadline : Option Nat := none
  deriving Repr, DecidableEq

namespace Clock

/-- Let `ms` pass; the answer says whether the deadline was kept. -/
def advance (ms : Nat) (clock : Clock) : Bool × Clock :=
  match clock.deadline with
  | none => (true, { clock with now := clock.now + ms })
  | some limit =>
      if clock.now + ms ≤ limit then (true, { clock with now := clock.now + ms })
      else (false, { clock with now := limit })

end Clock

/-- States that hold a clock. -/
class Timed (S : Type) where
  clock : S → Clock
  setClock : Clock → S → S

namespace Operation

variable {S α : Type} [Timed S]

/-- The current virtual time. -/
def now : Operation S Nat := fun s => (.done (Timed.clock s).now, s)

/-- Wait for `ms`, or be abandoned at the deadline. -/
def sleep (ms : Nat) : Operation S Unit := fun s =>
  match (Timed.clock s).advance ms with
  | (true, clock) => (.done (), Timed.setClock clock s)
  | (false, clock) => (.abandoned, Timed.setClock clock s)

/-- Wait until the time `due`, which may have passed. -/
def sleepUntil (due : Nat) : Operation S Unit := fun s =>
  sleep (due - (Timed.clock s).now) s

/-- Run an operation that has to end within `limit` milliseconds from now. -/
def withDeadline (limit : Nat) (op : Operation S α) : Operation S α := fun s =>
  let before := (Timed.clock s).deadline
  let start := (Timed.clock s).now
  let (outcome, s') :=
    op (Timed.setClock { Timed.clock s with deadline := some (start + limit) } s)
  (outcome, Timed.setClock { Timed.clock s' with deadline := before } s')

/-! ## §4. Repeated attempts. -/

/-- At most `more + 1` attempts, with a pause of `delay` before each after the first;
the last failure is the one that is reported. -/
def retryMore (delay : Nat) (action : Operation S α) : Nat → Operation S α
  | 0 => action
  | more + 1 => do
      match ← attempt action with
      | .ok a => pure a
      | .error _ => do
          sleep delay
          retryMore delay action more

/-- Up to `attempts` attempts, at least one. -/
def retry (attempts delay : Nat) (action : Operation S α) : Operation S α :=
  retryMore delay action (attempts - 1)

/-- Attempts until one succeeds, with a pause of `delay` after each failure; after
`patience` failures the wait is abandoned. -/
def persist (delay : Nat) (action : Operation S α) : Nat → Operation S α
  | 0, s => (.abandoned, s)
  | patience + 1, s =>
      match action s with
      | (.done a, s') => (.done a, s')
      | (.abandoned, s') => (.abandoned, s')
      | (.failed _, s') =>
          match sleep delay s' with
          | (.done (), s') => persist delay action patience s'
          | (_, s') => (.abandoned, s')

end Operation

end VxlanMesh
