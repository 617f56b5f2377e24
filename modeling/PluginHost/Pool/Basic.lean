import PluginHost.Callback
import PluginHost.Log.Category
import PluginHost.Pool.Error
import PluginHost.Pool.Task

/-!
A pool of workers that run tasks. Persistent workers take waiting tasks, the
most urgent first; a temporary worker is made for one task and gone after
it. The pool changes by atomic steps: a task is submitted, a worker takes one,
is counted as busy, finishes the task or is no longer counted, a stopped worker
exits, the number of persistent workers is set, the pool is closed. Everything
that happened to a task is kept in the pool's journal.
-/
namespace PluginHost

/-- What becomes of a task when every persistent worker is busy. -/
inductive Overflow where
  /-- A temporary worker is made for it. -/
  | spawn
  /-- It waits. -/
  | queue
  deriving DecidableEq, Repr

structure Worker (α : Type) where
  number : Nat
  temporary : Bool
  /-- It is to exit once it is idle. -/
  stopping : Bool
  running : Option (PoolTask α)
  /-- Whether it is counted as busy. A persistent worker is so once it has taken a task, until it is
  through with it. -/
  counted : Bool
  deriving DecidableEq, Repr

/-- The name of a worker tells its kind and its number. -/
def Worker.name {α : Type} (w : Worker α) : String :=
  (if w.temporary then "PT" else "PW") ++ Text.ofNat w.number

/-- The plugin a worker is busy for. -/
def Worker.owner? {α : Type} (w : Worker α) : Option String :=
  w.running.bind PoolTask.owner

/-- What happens in a pool. -/
inductive Activity (α : Type) where
  | started (worker : Worker α) (task : PoolTask α)
  | ended (worker : Worker α) (task : PoolTask α) (outcome : Outcome)
  | dropped (task : PoolTask α)
  | exited (worker : Worker α)

structure Pool (α : Type) where
  /-- Waiting tasks, the most urgent first. -/
  queue : List (PoolTask α)
  /-- Live workers, the longest-living first. -/
  workers : List (Worker α)
  /-- Workers a closed pool no longer knows but which are still there. -/
  leaving : List (Worker α)
  /-- How many persistent workers are counted as busy. -/
  busy : Nat
  /-- How many persistent workers there should be. -/
  size : Nat
  overflow : Overflow
  debug : DebugOptions
  shutDown : Bool
  nextWorker : Nat
  nextSequence : Nat
  /-- What happened so far. -/
  journal : List (Activity α)

namespace Pool

variable {α : Type}

/-! ### Workers -/

/-- A new worker. -/
def spawn (p : Pool α) (temporary : Bool) (running : Option (PoolTask α)) : Pool α :=
  { p with
    workers := p.workers ++ [⟨p.nextWorker, temporary, false, running, false⟩]
    nextWorker := p.nextWorker + 1 }

/-- Some new persistent workers. -/
def spawnPersistent (p : Pool α) (count : Nat) : Pool α :=
  Nat.repeat (·.spawn false none) count p

/-- A pool with idle persistent workers. -/
def create (size : Nat) (overflow : Overflow) (debug : DebugOptions) : Pool α :=
  spawnPersistent
    { queue := [], workers := [], leaving := [], busy := 0, size, overflow, debug, shutDown := false,
      nextWorker := 0, nextSequence := 0, journal := [] } size

/-- All workers that are still there. -/
def present (p : Pool α) : List (Worker α) :=
  p.workers ++ p.leaving

/-- Let a worker be another one of the same number, wherever it is listed. -/
def replace (p : Pool α) (w : Worker α) : Pool α :=
  let swap (v : Worker α) : Worker α := if v.number = w.number then w else v
  { p with workers := p.workers.map swap, leaving := p.leaving.map swap }

def forget (p : Pool α) (w : Worker α) : Pool α :=
  { p with
    workers := p.workers.filter (·.number != w.number)
    leaving := p.leaving.filter (·.number != w.number) }

/-- Note what happened. -/
def note (p : Pool α) (activity : Activity α) : Pool α :=
  { p with journal := p.journal ++ [activity] }

/-! ### Steps -/

/-- Whether a new task gets a temporary worker because all others are busy, by the number of busy
workers that was read. -/
def overflows (p : Pool α) (seen : Nat) : Bool :=
  decide (p.size ≤ seen) && p.overflow == .spawn

/-- Submit a task by a number of busy workers that was read before. A temporary worker runs it at
once if that is forced, or if the persistent workers are all busy and the pool makes temporary ones
then; otherwise the task waits. The answer names the temporary worker. A closed pool takes no
task. -/
def submitSeeing (p : Pool α) (seen : Nat) (task : PoolTask α) (force : Bool) :
    Except PoolError (Pool α × Option (Worker α)) :=
  if p.shutDown then .error (.shutDown task.name)
  else
    let task := { task with sequence := p.nextSequence }
    let p := { p with nextSequence := p.nextSequence + 1 }
    if force || p.overflows seen then
      let worker : Worker α := ⟨p.nextWorker, true, false, some task, false⟩
      .ok ((p.spawn true (some task)).note (.started worker task), some worker)
    else .ok ({ p with queue := task.enqueue p.queue }, none)

/-- Submit a task while nothing else happens. -/
def submit (p : Pool α) (task : PoolTask α) (force : Bool) :
    Except PoolError (Pool α × Option (Worker α)) :=
  p.submitSeeing p.busy task force

/-- Whether a worker can take a waiting task. One that was told to stop while it waited for a task
may still take one. -/
def canTake (p : Pool α) (w : Worker α) : Bool :=
  !w.temporary && !p.shutDown && w.running.isNone && !w.counted

/-- A worker takes the most urgent task. -/
def take? (p : Pool α) (w : Worker α) : Option (Pool α) :=
  match p.queue with
  | task :: queue =>
    if p.canTake w then
      let busyWorker := { w with running := some task }
      some (({ p with queue }.replace busyWorker).note (.started busyWorker task))
    else none
  | [] => none

/-- A persistent worker that took a task is counted as busy. -/
def countIn? (p : Pool α) (w : Worker α) : Option (Pool α) :=
  if !w.temporary && w.running.isSome && !w.counted then
    some ({ p with busy := p.busy + 1 }.replace { w with counted := true })
  else none

/-- A worker comes to the end of its task, however that ends. A persistent worker was counted
before. -/
def finish? (p : Pool α) (w : Worker α) (outcome : Outcome) : Option (Pool α) :=
  match w.running with
  | none => none
  | some task =>
    let p := p.note (.ended w task outcome)
    if w.temporary then some (p.forget w)
    else if w.counted then some (p.replace { w with running := none })
    else none

/-- A persistent worker that is through with its task is not counted any more. -/
def countOut? (p : Pool α) (w : Worker α) : Option (Pool α) :=
  if !w.temporary && w.running.isNone && w.counted then
    some ({ p with busy := p.busy - 1 }.replace { w with counted := false })
  else none

/-- An idle persistent worker that is to stop exits. One that is made after the pool was closed has
nothing to do and was not told to stop. -/
def exit? (p : Pool α) (w : Worker α) : Option (Pool α) :=
  if !w.temporary && w.running.isNone && !w.counted && w.stopping then
    some ((p.forget w).note (.exited w))
  else none

/-- Tell all but the first `keep` persistent workers that are not stopping yet to stop. -/
def stopSurplus (keep : Nat) : List (Worker α) → List (Worker α)
  | [] => []
  | w :: rest =>
    if w.temporary || w.stopping then w :: stopSurplus keep rest
    else
      match keep with
      | 0 => { w with stopping := true } :: stopSurplus 0 rest
      | keep + 1 => w :: stopSurplus keep rest

/-- Set how many persistent workers there should be: new ones are made, or the youngest stop after
their current task. -/
def resize (p : Pool α) (size : Nat) : Pool α :=
  if p.size < size then spawnPersistent { p with size } (size - p.size)
  else { p with size, workers := stopSurplus size p.workers }

/-- Close the pool: waiting tasks are dropped, no task is taken any more, and all workers are to
go. -/
def close (p : Pool α) : Pool α :=
  { p with
    shutDown := true
    queue := []
    workers := []
    leaving := p.leaving ++ p.workers.map fun w => { w with stopping := true }
    journal := p.journal ++ p.queue.map .dropped }

/-! ### Diagnostics -/

/-- How many tasks wait. -/
def queued (p : Pool α) : Nat := p.queue.length

/-- The live workers with the plugins they are busy for. -/
def runningUnits (p : Pool α) : List (String × Option String) :=
  p.workers.map fun w => (w.name, w.owner?)

end Pool

end PluginHost
