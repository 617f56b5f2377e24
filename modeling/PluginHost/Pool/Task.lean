import PluginHost.Event

/-!
Tasks: pieces of work with a class, and a sequence number that tells which
of two was submitted first.
-/
namespace PluginHost

/-- A piece of work. The pool gives it its sequence number. -/
structure PoolTask (α : Type) where
  sequence : Nat
  priority : Priority
  /-- The plugin it is done for. -/
  owner : Option String
  name : String
  work : α
  deriving DecidableEq, Repr

namespace PoolTask

variable {α : Type}

/-- Whether a task runs before another one: it has an earlier class, or the same class and an
earlier number. -/
def before (a b : PoolTask α) : Bool :=
  a.priority.rank < b.priority.rank || (a.priority.rank == b.priority.rank && a.sequence < b.sequence)

/-- The more urgent of two tasks is the greater one. -/
def compareUrgency (a b : PoolTask α) : Ordering :=
  (compare b.priority.rank a.priority.rank).then (compare b.sequence a.sequence)

/-- Put a task among waiting ones, behind all that are not to run after it. -/
def enqueue (task : PoolTask α) : List (PoolTask α) → List (PoolTask α)
  | [] => [task]
  | other :: rest =>
    if task.before other then task :: other :: rest else other :: enqueue task rest

theorem mem_enqueue {task t : PoolTask α} {queue : List (PoolTask α)} :
    t ∈ enqueue task queue ↔ t = task ∨ t ∈ queue := by
  induction queue with
  | nil => simp [enqueue]
  | cons other rest ih =>
    unfold enqueue
    split
    · simp
    · simp only [List.mem_cons, ih]
      grind

theorem length_enqueue (task : PoolTask α) (queue : List (PoolTask α)) :
    (enqueue task queue).length = queue.length + 1 := by
  induction queue with
  | nil => rfl
  | cons other rest ih => unfold enqueue; split <;> simp [ih]

end PoolTask

end PluginHost
