import PluginHost.Pool.Basic

/-!
What a pool does when it is left alone, and what it reports about it. Left
alone, workers go on until every task that can run has run: only tasks that
are held back are not finished.
-/
namespace PluginHost.Pool

variable {α : Type}

/-- The next thing that happens, if anything can: a worker is counted or no longer counted, a task
that is not held back ends, a worker that was not told to stop takes a task, or a stopped worker
exits. -/
def advance? (held : PoolTask α → Bool) (outcome : α → Outcome) (p : Pool α) : Option (Pool α) :=
  let counts := p.present.findSome? fun w => (p.countIn? w).orElse fun _ => p.countOut? w
  let ends := p.present.findSome? fun w =>
    w.running.bind fun task => if held task then none else p.finish? w (outcome task.work)
  let takes := p.workers.findSome? fun w => if w.stopping then none else p.take? w
  ((counts.orElse fun _ => ends).orElse fun _ => takes).orElse fun _ => p.present.findSome? p.exit?

/-- More steps than a pool can take when it is left alone: each waiting task is taken and ends once
and its worker is counted meanwhile, and each worker does as much with its task and exits. -/
def stepBound (p : Pool α) : Nat :=
  4 * p.queue.length + 4 * p.present.length

/-- A number of steps, or fewer if nothing is left to do. -/
def advance (held : PoolTask α → Bool) (outcome : α → Outcome) : Nat → Pool α → Pool α
  | 0, p => p
  | n + 1, p =>
    match advance? held outcome p with
    | none => p
    | some q => advance held outcome n q

/-- The pool once nothing more can happen. -/
def settle (held : PoolTask α → Bool) (outcome : α → Outcome) (p : Pool α) : Pool α :=
  advance held outcome p.stepBound p

/-- The workers of a pool that could not go when it was closed. -/
def stuck (before after : Pool α) : List (Worker α) :=
  before.workers.filter fun w => after.leaving.any (·.number = w.number)

/-- Close the pool and wait for its workers. Those that are held back are given up and reported. -/
def shutdown (held : PoolTask α → Bool) (outcome : α → Outcome) (p : Pool α) :
    Pool α × Except PoolError Unit :=
  let after := settle held outcome p.close
  match stuck p after with
  | [] => (after, .ok ())
  | remaining => (after, .error (.shutdownTimeout (remaining.map Worker.name)))

/-! ### Records -/

/-- What is reported when a pool is closed. -/
def closeLog (p : Pool α) : List LogRecord :=
  if p.queue.isEmpty then []
  else [executorLog .warn ("Dropped " ++ Text.ofNat p.queued ++ " queued task(s) on shutdown")]

/-- What is reported when a task is submitted: the temporary worker it got, if it got one. -/
def dispatchLog (p : Pool α) (task : PoolTask α) (worker : Option (Worker α)) : List LogRecord :=
  match worker with
  | some w =>
    if p.debug.shouldLog .executor then
      [executorLog .debug ("Task " ++ task.name ++ " dispatched to temporary worker " ++ w.name)]
    else []
  | none => []

/-- What workers report about an activity; `written` is what the work itself writes. -/
def activityLog (p : Pool α) (written : α → List LogRecord) : Activity α → List LogRecord
  | .started worker task =>
    if p.debug.shouldLog .executor then
      [executorLog .debug
        (worker.name ++ " running task #" ++ Text.ofNat task.sequence ++ " " ++ task.name)]
    else []
  | .ended _ task outcome =>
    written task.work ++
      match outcome with
      | .ok () => []
      | .error e => [executorLog .error ("Error invoking " ++ task.name ++ " in plugin " ++
          task.owner.getD "<none>" ++ ": " ++ e.message)]
  | .dropped _ => []
  | .exited worker =>
    if p.debug.shouldLog .executor then
      [executorLog .debug ("Worker " ++ worker.name ++ " exited")]
    else []

end PluginHost.Pool
