/-
  VxlanMesh.Procedure
  ────────────────────────────────
  **PROCEDURES AS SEQUENCES OF NAMED STEPS.**

  A `Procedure Step α` says which steps to take, each depending on the
  answers to those before it, and leaves open what a step does.  Running
  it needs a meaning for the steps.  Since the steps are explicit, a run
  can be cut between any two of them, and the steps of several procedures
  can be interleaved.
-/

namespace VxlanMesh

/-- A sequence of steps that ends in an answer. -/
inductive Procedure (Step : Type → Type) (α : Type) : Type 1 where
  | done (answer : α)
  | step {β : Type} (first : Step β) (next : β → Procedure Step α)

namespace Procedure

variable {Step : Type → Type} {α β : Type}

/-- Take the steps of a procedure, then those of what follows its answer. -/
def andThen : Procedure Step α → (α → Procedure Step β) → Procedure Step β
  | done a, f => f a
  | step first next, f => step first fun b => andThen (next b) f

instance : Monad (Procedure Step) where
  pure := done
  bind := andThen

/-- A single step. -/
def ask (s : Step α) : Procedure Step α := step s done

/-- Run a procedure, given what each step does. -/
def run {m : Type → Type} [Monad m] (perform : {β : Type} → Step β → m β) :
    Procedure Step α → m α
  | done a => pure a
  | step first next => perform first >>= fun b => run perform (next b)

end Procedure

end VxlanMesh
