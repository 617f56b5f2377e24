import PluginHost.Proofs.Pool.Sound

/-!
Runs of a pool: tasks are submitted, workers take and end them, the number of
workers is set and the pool is closed, in any order. Tasks are numbered in the
order they are submitted in, and nothing but what was submitted is ever in a
pool.
-/
namespace PluginHost

namespace Pool

variable {α : Type} {p q : Pool α} {tasks rest : List (PoolTask α)}

/-! ### Numbers -/

/-- Some tasks with the numbers they get one after the other. -/
def numbered (n : Nat) : List (PoolTask α) → List (PoolTask α)
  | [] => []
  | task :: rest => { task with sequence := n } :: numbered (n + 1) rest

theorem numbered_append (n : Nat) (tasks rest : List (PoolTask α)) :
    numbered n (tasks ++ rest) = numbered n tasks ++ numbered (n + tasks.length) rest := by
  induction tasks generalizing n with
  | nil => rfl
  | cons task tasks ih =>
      have hcount : n + 1 + tasks.length = n + (task :: tasks).length := by
        rw [List.length_cons]
        omega
      rw [List.cons_append, numbered, ih, hcount]
      rfl

theorem sequence_of_numbered {n : Nat} {task : PoolTask α} (h : task ∈ numbered n tasks) :
    n ≤ task.sequence ∧ task.sequence < n + tasks.length := by
  induction tasks generalizing n with
  | nil => cases h
  | cons first rest ih =>
      rw [List.length_cons]
      rcases List.mem_cons.mp h with rfl | hrest
      · dsimp only
        omega
      · have hbounds := ih hrest
        omega

theorem mem_numbered_concat {n : Nat} {last task : PoolTask α}
    (h : task ∈ numbered n (tasks ++ [last])) :
    task ∈ numbered n tasks ∨ task.sequence = n + tasks.length := by
  rw [numbered_append] at h
  rcases List.mem_append.mp h with hold | hnew
  · exact .inl hold
  · exact .inr (congrArg PoolTask.sequence (List.mem_singleton.mp hnew))

/-- A task with its number is one that was submitted. -/
theorem exists_of_numbered {n : Nat} {task : PoolTask α} (h : task ∈ numbered n tasks) :
    ∃ t ∈ tasks, task = { t with sequence := task.sequence } := by
  induction tasks generalizing n with
  | nil => cases h
  | cons first rest ih =>
      rcases List.mem_cons.mp h with rfl | hrest
      · exact ⟨first, List.mem_cons_self, rfl⟩
      · obtain ⟨t, ht, heq⟩ := ih hrest
        exact ⟨t, List.mem_cons_of_mem first ht, heq⟩

/-- Every task that is submitted gets a number. -/
theorem exists_numbered (n : Nat) {task : PoolTask α} (h : task ∈ tasks) :
    ∃ t ∈ numbered n tasks, t = { task with sequence := t.sequence } := by
  induction tasks generalizing n with
  | nil => cases h
  | cons first rest ih =>
      rcases List.mem_cons.mp h with rfl | hrest
      · exact ⟨{ task with sequence := n }, List.mem_cons_self, rfl⟩
      · obtain ⟨t, ht, heq⟩ := ih (n + 1) hrest
        exact ⟨t, List.mem_cons_of_mem _ ht, heq⟩

/-- Numbers grow, and what was true of all pairs of tasks is true of them with their numbers. -/
theorem pairwise_numbered {R : PoolTask α → PoolTask α → Prop} (n : Nat)
    (blind : ∀ a b i j, R a b → R { a with sequence := i } { b with sequence := j })
    (h : tasks.Pairwise R) :
    (numbered n tasks).Pairwise fun a b => a.sequence < b.sequence ∧ R a b := by
  induction tasks generalizing n with
  | nil => exact .nil
  | cons first rest ih =>
      obtain ⟨hfirst, hrest⟩ := List.pairwise_cons.mp h
      refine List.pairwise_cons.mpr ⟨?_, ih (n + 1) hrest⟩
      intro t ht
      obtain ⟨s, hs, heq⟩ := exists_of_numbered ht
      refine ⟨(sequence_of_numbered ht).1, ?_⟩
      rw [heq]
      exact blind first s n t.sequence (hfirst s hs)

/-- Of a list of tasks those have their numbers that were submitted so far. -/
theorem mem_numbered_of_prefix {n : Nat} {all : List (PoolTask α)} {task : PoolTask α}
    (h : tasks <+: all) (hmem : task ∈ numbered n all) (early : task.sequence < n + tasks.length) :
    task ∈ numbered n tasks := by
  obtain ⟨rest, rfl⟩ := h
  rw [numbered_append] at hmem
  rcases List.mem_append.mp hmem with hfirst | hlater
  · exact hfirst
  · have hlate := (sequence_of_numbered hlater).1
    omega

theorem map_sequence_numbered (n : Nat) (tasks : List (PoolTask α)) :
    (numbered n tasks).map PoolTask.sequence = List.range' n tasks.length := by
  induction tasks generalizing n with
  | nil => rfl
  | cons task rest ih =>
      rw [numbered, List.map_cons, ih]
      rfl

/-! ### Setting the number of workers -/

/-- The next persistent workers to be made. -/
def recruits (p : Pool α) (count : Nat) : List (Worker α) :=
  (List.range' p.nextWorker count).map fun number => ⟨number, false, false, none, false⟩

theorem spawnPersistent_eq (p : Pool α) (count : Nat) : p.spawnPersistent count =
    { p with workers := p.workers ++ p.recruits count, nextWorker := p.nextWorker + count } := by
  induction count with
  | zero => simp [spawnPersistent, Nat.repeat, recruits]
  | succ count ih =>
      have hlast : p.spawnPersistent (count + 1) = (p.spawnPersistent count).spawn false none := rfl
      rw [hlast, ih]
      simp [spawn, recruits, List.range'_concat, Nat.add_assoc]

/-- What a change of the staff leaves alone. -/
structure Restaffed (p q : Pool α) : Prop where
  queue : q.queue = p.queue
  journal : q.journal = p.journal
  shutDown : q.shutDown = p.shutDown
  nextSequence : q.nextSequence = p.nextSequence

namespace Restaffed

theorem spawnPersistent (p : Pool α) (count : Nat) : p.Restaffed (p.spawnPersistent count) := by
  rw [spawnPersistent_eq]
  exact ⟨rfl, rfl, rfl, rfl⟩

theorem resize (p : Pool α) (size : Nat) : p.Restaffed (p.resize size) := by
  unfold Pool.resize
  split
  · have hnew := spawnPersistent { p with size } (size - p.size)
    exact ⟨hnew.queue, hnew.journal, hnew.shutDown, hnew.nextSequence⟩
  · exact ⟨rfl, rfl, rfl, rfl⟩

theorem tasks_eq (h : p.Restaffed q) : q.tasks = p.tasks := by
  rw [Pool.tasks, Pool.tasks, starts, starts, drops, drops, h.queue, h.journal]

theorem starts_eq (h : p.Restaffed q) : q.starts = p.starts := by rw [starts, starts, h.journal]

theorem drops_eq (h : p.Restaffed q) : q.drops = p.drops := by rw [drops, drops, h.journal]

end Restaffed

/-- A new pool before its workers are made. -/
def unstaffed (size : Nat) (overflow : Overflow) (debug : DebugOptions) : Pool α :=
  ⟨[], [], [], 0, size, overflow, debug, false, 0, 0, []⟩

theorem create_eq (size : Nat) (overflow : Overflow) (debug : DebugOptions) :
    (create size overflow debug : Pool α) = { unstaffed size overflow debug with
      workers := (unstaffed size overflow debug).recruits size, nextWorker := size } := by
  have hstart : (create size overflow debug : Pool α) =
      (unstaffed size overflow debug).spawnPersistent size := rfl
  rw [hstart, spawnPersistent_eq]
  simp [unstaffed]

theorem restaffed_create (size : Nat) (overflow : Overflow) (debug : DebugOptions) :
    (unstaffed size overflow debug : Pool α).Restaffed (create size overflow debug) :=
  .spawnPersistent _ size

/-- A new pool has taken nothing yet. -/
theorem create_fresh (size : Nat) (overflow : Overflow) (debug : DebugOptions) :
    (create size overflow debug : Pool α).nextSequence = 0 ∧
      (create size overflow debug : Pool α).tasks = [] :=
  ⟨(restaffed_create size overflow debug).nextSequence,
    (restaffed_create size overflow debug).tasks_eq⟩

/-! ### Runs -/

/-- A run of a pool, with the tasks it took on the way. A submission goes by a number of busy
workers that it read before, so that it may have seen any. -/
inductive Runs (p : Pool α) : List (PoolTask α) → Pool α → Prop
  | start : Runs p [] p
  | submit {tasks : List (PoolTask α)} {q r : Pool α} (seen : Nat) {task : PoolTask α}
      {force : Bool} {worker : Option (Worker α)} (before : Runs p tasks q)
      (step : q.submitSeeing seen task force = .ok (r, worker)) : Runs p (tasks ++ [task]) r
  | work {tasks : List (PoolTask α)} {q r : Pool α} (before : Runs p tasks q) (step : q.Works r) :
      Runs p tasks r
  | resize {tasks : List (PoolTask α)} {q : Pool α} (before : Runs p tasks q) (size : Nat) :
      Runs p tasks (q.resize size)
  | close {tasks : List (PoolTask α)} {q : Pool α} (before : Runs p tasks q) : Runs p tasks q.close

namespace Runs

theorem sound (hp : p.Sound) (h : p.Runs tasks q) : q.Sound := by
  induction h with
  | start => exact hp
  | submit _ _ step ih => exact ih.submit step
  | work _ step ih => exact ih.works step
  | resize _ size ih => exact ih.resize size
  | close _ ih => exact ih.close

theorem nextSequence (hp : p.Sound) (h : p.Runs tasks q) :
    q.nextSequence = p.nextSequence + tasks.length := by
  induction h with
  | start => rfl
  | submit _ _ step ih =>
      obtain ⟨htakes, _⟩ := submit_accepted step
      rw [htakes.nextSequence, ih, List.length_append, List.length_singleton]
      omega
  | work before step ih =>
      obtain ⟨hsteady, _⟩ := step.worked (before.sound hp).distinct
      exact hsteady.nextSequence.trans ih
  | @resize _ q _ size ih => exact (Restaffed.resize q size).nextSequence.trans ih
  | close _ ih => exact ih

/-- Every task that was submitted is taken, and no other one. -/
theorem tasks_perm (hp : p.Sound) (h : p.Runs tasks q) :
    q.tasks.Perm (p.tasks ++ numbered p.nextSequence tasks) := by
  induction h with
  | start => rw [numbered, List.append_nil]
  | submit _ before step ih =>
      obtain ⟨_, haccepted⟩ := submit_accepted step
      have hperm := haccepted.tasks_perm.trans (ih.cons _)
      rw [before.nextSequence hp] at hperm
      rw [numbered_append, ← List.append_assoc]
      exact hperm.trans (List.perm_append_singleton _ _).symm
  | work before step ih =>
      obtain ⟨_, hworked⟩ := step.worked (before.sound hp).distinct
      exact hworked.tasks_perm.trans ih
  | @resize _ q _ size ih =>
      rw [(Restaffed.resize q size).tasks_eq]
      exact ih
  | close _ ih => exact (tasks_close_perm _).trans ih

end Runs

/-- A task that was taken since some moment waits or was started, as long as none was dropped. -/
theorem Sound.waiting_or_started (hp : p.Sound)
    (taken : q.tasks.Perm (p.tasks ++ Pool.numbered p.nextSequence tasks)) (drops : q.drops = p.drops)
    {task : PoolTask α} (hmem : task ∈ Pool.numbered p.nextSequence tasks) :
    task ∈ q.queue ∨ task ∈ q.starts := by
  have htaken : task ∈ q.tasks := taken.mem_iff.mpr (List.mem_append_right _ hmem)
  rcases List.mem_append.mp htaken with hfound | hdropped
  · exact List.mem_append.mp hfound
  · rw [drops] at hdropped
    have hold := hp.sequence_lt (List.mem_append_right _ hdropped)
    have hnew := (sequence_of_numbered hmem).1
    omega

/-- The pools of all runs. -/
def Reachable (p : Pool α) : Prop :=
  ∃ size overflow debug tasks, (Pool.create size overflow debug).Runs tasks p

theorem Reachable.create (size : Nat) (overflow : Overflow) (debug : DebugOptions) :
    (Pool.create size overflow debug : Pool α).Reachable :=
  ⟨size, overflow, debug, [], .start⟩

/-- In every run everything in a pool is in its place at every moment. -/
theorem Reachable.sound (h : p.Reachable) : p.Sound := by
  obtain ⟨size, overflow, debug, tasks, hruns⟩ := h
  exact hruns.sound (.create size overflow debug)

end Pool

end PluginHost
