import PluginHost.Pool.Basic

/-!
Handles: whoever forces a task onto a worker of its own can wait for its
outcome. The outcome is told once; asking again finds that it is lost.
-/
namespace PluginHost

/-- A forced task one can wait for. -/
structure TaskHandle where
  task : String
  sequence : Nat
  /-- Whether the outcome was told already. -/
  told : Bool
  deriving DecidableEq, Repr

namespace TaskHandle

variable {α : Type}

/-- The handle of the task that was submitted last. -/
def ofLast (pool : Pool α) (task : String) : TaskHandle := ⟨task, pool.nextSequence - 1, false⟩

/-- The outcome of a task that has run. -/
def outcomeOf? (pool : Pool α) (sequence : Nat) : Option Outcome :=
  pool.journal.findSome? fun
    | .ended _ task outcome => if task.sequence = sequence then some outcome else none
    | _ => none

/-- What waiting for a task shows: its outcome, nothing while it still runs, or an error if the
outcome was told already; and the handle after that. -/
def wait (h : TaskHandle) (pool : Pool α) : TaskHandle × Except PoolError (Option Outcome) :=
  if h.told then (h, .error (.outcomeLost h.task))
  else
    match outcomeOf? pool h.sequence with
    | none => (h, .ok none)
    | some outcome => ({ h with told := true }, .ok (some outcome))

end TaskHandle

end PluginHost
