import PluginHost.Proofs.Pool.Closing

/-!
What is true all along a run of a pool. At every moment each task that was
taken is in one place; workers take waiting tasks in the order they were
submitted in, class by class, and outlast them all; and closing a pool is the
end of all starts.
-/
namespace PluginHost

namespace Pool

variable {α : Type} {p q : Pool α} {tasks : List (PoolTask α)}

namespace Runs

/-! ### Closed pools -/

/-- Nothing is dropped while a pool is open. -/
theorem drops_of_open (hp : p.Sound) (h : p.Runs tasks q) (opened : q.shutDown = false) :
    q.drops = p.drops := by
  induction h with
  | start => rfl
  | submit _ _ step ih =>
      obtain ⟨htakes, haccepted⟩ := submit_accepted step
      exact haccepted.drops_eq.trans (ih htakes.accepting)
  | work before step ih =>
      obtain ⟨hsteady, hworked⟩ := step.worked (before.sound hp).distinct
      exact hworked.drops_eq.trans (ih (hsteady.shutDown ▸ opened))
  | @resize _ q _ size ih =>
      have hsame := Restaffed.resize q size
      exact hsame.drops_eq.trans (ih (hsame.shutDown ▸ opened))
  | close _ _ => cases opened

/-- A closed pool takes nothing and starts nothing, whatever else happens to it. -/
theorem closed (hp : p.Sound) (shut : p.shutDown = true) (h : p.Runs tasks q) :
    q.shutDown = true ∧ tasks = [] ∧ q.starts = p.starts := by
  induction h with
  | start => exact ⟨shut, rfl, rfl⟩
  | submit _ _ step ih =>
      obtain ⟨htakes, _⟩ := submit_accepted step
      have haccepting := htakes.accepting
      rw [ih.1] at haccepting
      cases haccepting
  | @work tasks q r before step ih =>
      obtain ⟨hclosed, hnone, hstarts⟩ := ih
      have hquiet : q.StartsNothing q := ⟨before.sound hp, hclosed, rfl, rfl⟩
      have hafter := hquiet.step step
      exact ⟨hafter.shutDown, hnone, hafter.starts.trans hstarts⟩
  | @resize _ q _ size ih =>
      have hsame := Restaffed.resize q size
      exact ⟨hsame.shutDown.trans ih.1, ih.2.1, hsame.starts_eq.trans ih.2.2⟩
  | close _ ih => exact ⟨rfl, ih.2.1, (starts_close _).trans ih.2.2⟩

/-! ### Order -/

/-- A task that was taken by an open pool waits or was started. -/
theorem waiting_or_started (hp : p.Sound) (h : p.Runs tasks q) (opened : q.shutDown = false)
    {task : PoolTask α} (hmem : task ∈ numbered p.nextSequence tasks) :
    task ∈ q.queue ∨ task ∈ q.starts :=
  hp.waiting_or_started (h.tasks_perm hp) (h.drops_of_open hp opened) hmem

/-- Wherever a persistent worker started one of two tasks of a class, or of an earlier and a later
class, the one that was submitted first had been started. -/
theorem started_before (hp : p.Sound) (h : p.Runs tasks q) {a c : PoolTask α}
    (ha : a ∈ numbered p.nextSequence tasks) (hc : c ∈ numbered p.nextSequence tasks)
    (urgent : a.priority.rank ≤ c.priority.rank) (earlier : a.sequence < c.sequence) :
    Serves.Precedes q .spawn a c := by
  induction h with
  | start => cases ha
  | submit _ before step ih =>
      exact .submit (before.sound hp) ih (before.nextSequence hp) step (fun _ => rfl) ha hc earlier
  | work before step ih =>
      exact (ih ha hc).works (before.sound hp) step urgent earlier fun opened =>
        before.waiting_or_started hp opened ha
  | @resize _ q _ size ih =>
      intro front back w started
      exact ih ha hc front back w ((Restaffed.resize q size).journal ▸ started)
  | close _ ih => exact (ih ha hc).silent rfl fun w hstarted => by simp at hstarted

end Runs

/-! ### At every moment -/

/-- Where the tasks of a pool are. -/
structure Placed (p : Pool α) (tasks : List (PoolTask α)) : Prop where
  /-- They wait, run, have ended or were dropped, and there is no task besides. -/
  places : (p.queue ++ p.running ++ p.ends ++ p.drops).Perm tasks
  /-- None is in two of these places, or twice in one. -/
  apart : ((p.queue ++ p.running ++ p.ends ++ p.drops).map PoolTask.sequence).Nodup
  /-- What runs is run by one worker. -/
  single : ∀ task ∈ p.running, ∃! w, w ∈ p.present ∧ w.running = some task
  /-- None is started twice. -/
  once : (p.starts.map PoolTask.sequence).Nodup

/-- The order in which workers take tasks. -/
structure InTurn (p : Pool α) (tasks : List (PoolTask α)) : Prop where
  /-- A worker takes the first task of all that wait. -/
  first : ∀ w ∈ p.workers, ∀ q, p.take? w = some q → ∃ task, p.queue = task :: q.queue ∧
    (∀ other ∈ q.queue, task.before other = true) ∧ q.starts = p.starts ++ [task]
  /-- Before a persistent worker starts a task, those of the same or an earlier class that were
  submitted before it are started. -/
  turn : ∀ a ∈ tasks, ∀ c ∈ tasks, a.priority.rank ≤ c.priority.rank → a.sequence < c.sequence →
    ∀ front back w, p.journal = front ++ .started w c :: back → w.temporary = false →
      ∃ v, .started v a ∈ front

/-- However a task ends, its worker stays where it was, unless it was made for that task. A
persistent worker is counted as busy before. -/
def WorkersStay (p : Pool α) : Prop :=
  ∀ w ∈ p.present, ∀ task, w.running = some task → ∃ front back, p.present = front ++ w :: back ∧
    (w.temporary = false → w.counted = false → ∃ q, p.countIn? w = some q ∧
      q.present = front ++ { w with counted := true } :: back ∧ q.queue = p.queue) ∧
    (w.temporary = true ∨ w.counted = true → ∀ outcome, ∃ q, p.finish? w outcome = some q ∧
      q.present = front ++ (if w.temporary then [] else [{ w with running := none }]) ++ back ∧
      q.queue = p.queue ∧ q.ends = p.ends ++ [task])

/-- A pool that starts nothing any more: nothing waits, whatever is submitted is refused, and so it
stays. -/
structure StaysClosed (p : Pool α) : Prop where
  emptied : p.queue = []
  refuses : ∀ task force, p.submit task force = .error (.shutDown task.name)
  stays : ∀ more q, p.Runs more q → q.shutDown = true ∧ more = [] ∧ q.starts = p.starts

theorem Sound.placed_of_perm (hp : p.Sound) (hperm : p.tasks.Perm tasks) : p.Placed tasks := by
  have hplaces : (p.queue ++ p.running ++ p.ends ++ p.drops).Perm p.tasks := by
    rw [Pool.tasks, List.append_assoc p.queue]
    exact (hp.underway.symm.append_left _).append_right _
  have hdistinct : ((p.queue ++ p.running ++ p.ends ++ p.drops).map PoolTask.sequence).Nodup :=
    (hplaces.map _).nodup_iff.mpr hp.distinct_tasks
  have hstarts : (p.starts.map PoolTask.sequence).Nodup := by
    have hall := hp.distinct_tasks
    rw [Pool.tasks, List.map_append, List.map_append] at hall
    exact (List.nodup_append.mp (List.nodup_append.mp hall).1).2.1
  refine ⟨hplaces.trans hperm, hdistinct, ?_, hstarts⟩
  have hrunning : p.running.Nodup :=
    (List.nodup_append.mp (hp.underway.nodup_iff.mp hstarts.of_map)).1
  intro task hmem
  obtain ⟨w, hw, hbusy⟩ := List.mem_filterMap.mp hmem
  refine ⟨w, ⟨hw, hbusy⟩, ?_⟩
  rintro v ⟨hv, hsame⟩
  obtain ⟨front, back, hthere⟩ := List.append_of_mem hw
  rw [running_of_present hthere, hbusy, Option.toList_some, List.append_assoc, List.singleton_append,
    List.nodup_middle, ← List.filterMap_append] at hrunning
  rw [hthere, List.perm_middle.mem_iff] at hv
  rcases List.mem_cons.mp hv with rfl | hother
  · rfl
  · exact absurd (List.mem_filterMap.mpr ⟨v, hother, hsame⟩) (List.nodup_cons.mp hrunning).1

theorem Sound.take?_first (hp : p.Sound) {w : Worker α} (step : p.take? w = some q) :
    ∃ task, p.queue = task :: q.queue ∧ (∀ other ∈ q.queue, task.before other = true) ∧
      q.starts = p.starts ++ [task] := by
  obtain ⟨task, queue, hqueue, _, rfl⟩ := take?_eq step
  have hsorted := hp.sorted
  rw [hqueue] at hsorted
  exact ⟨task, hqueue, (List.pairwise_cons.mp hsorted).1, List.filterMap_append⟩

theorem Sound.workersStay (hp : p.Sound) : p.WorkersStay := by
  intro w hw task hbusy
  obtain ⟨front, back, hthere, hreplace, hforget⟩ := exists_place hp.distinct hw
  refine ⟨front, back, hthere, fun hpersistent huncounted =>
    ⟨_, if_pos (by simp [hpersistent, hbusy, huncounted]), hreplace _ rfl, rfl⟩, ?_⟩
  intro hdue outcome
  refine ⟨_, finish?_eq hbusy hdue outcome, ?_⟩
  split
  · refine ⟨?_, rfl, List.filterMap_append⟩
    rw [List.append_nil]
    exact hforget
  · refine ⟨?_, rfl, List.filterMap_append⟩
    rw [List.append_assoc]
    exact hreplace { w with running := none } rfl

theorem staysClosed (hp : p.Sound) (closed : p.shutDown = true) : p.StaysClosed where
  emptied := hp.emptied closed
  refuses := fun task force => by rw [submit, submitSeeing, if_pos closed]
  stays := fun _ _ hruns => hruns.closed hp closed

/-- All along every run every task that was taken is in one place, workers take the tasks in their
order and outlast them, and a closed pool starts nothing any more. -/
theorem Runs.lawful {size : Nat} {overflow : Overflow} {debug : DebugOptions}
    (h : (create size overflow debug).Runs tasks p) :
    (numbered 0 tasks).map PoolTask.sequence = List.range tasks.length ∧
      p.Placed (numbered 0 tasks) ∧ p.InTurn (numbered 0 tasks) ∧ p.WorkersStay ∧
      (p.shutDown = true → p.StaysClosed) := by
  have hnew : (create size overflow debug : Pool α).Sound := .create size overflow debug
  obtain ⟨hnumber, htasks⟩ := create_fresh size overflow debug
  have hp := h.sound hnew
  have hperm := h.tasks_perm hnew
  rw [htasks, List.nil_append, hnumber] at hperm
  refine ⟨?_, hp.placed_of_perm hperm, ⟨?_, ?_⟩, hp.workersStay, staysClosed hp⟩
  · rw [map_sequence_numbered, List.range_eq_range']
  · exact fun w _ q step => hp.take?_first step
  · intro a ha c hc urgent earlier front back w started persistent
    have hprecedes := h.started_before hnew (hnumber ▸ ha) (hnumber ▸ hc) urgent earlier
    exact (hprecedes front back w started).resolve_right (by simp [persistent])

namespace RunWitness

/-- Some work. -/
def errand (priority : Priority) (name : String) : PoolTask Unit := ⟨0, priority, none, name, ()⟩

/-- The day of a pool: someone sweeps, there is an alarm, and a visit. -/
def errands : List (PoolTask Unit) :=
  [errand .regular "sweep", errand .high "alarm", errand .regular "visit"]

theorem day_lawful : ∃ p : Pool Unit, (create 1 .spawn .none).Runs errands p ∧
    p.drops.map PoolTask.name = ["sweep"] ∧ p.ends.map PoolTask.name = ["alarm"] ∧
    p.running.map PoolTask.name = ["visit"] ∧ p.Placed (numbered 0 errands) ∧
    p.InTurn (numbered 0 errands) ∧ p.WorkersStay ∧ p.StaysClosed := by
  -- The worker takes the alarm first, so the visit, which comes meanwhile, gets a temporary one.
  have hnoon : (create 1 .spawn .none).Serves errands _ :=
    .submit 1 (.work (.work (.submit 0 (.submit 0 .start rfl) rfl)
      (.takes (w := ⟨0, false, false, none, false⟩) List.mem_cons_self rfl))
      (.countsIn (w := ⟨0, false, false, some { errand .high "alarm" with sequence := 1 }, false⟩)
        List.mem_cons_self rfl)) rfl
  -- The alarm goes wrong, and the pool is closed before anybody sweeps.
  have hnight := (hnoon.runs.work (.ends
    (w := ⟨0, false, false, some { errand .high "alarm" with sequence := 1 }, true⟩)
    List.mem_cons_self (finish?_eq rfl (.inr rfl) (.error (.panicked "bell"))))).close
  obtain ⟨_, hplaced, hturn, hworkers, hstays⟩ := hnight.lawful
  exact ⟨_, hnight, rfl, rfl, rfl, hplaced, hturn, hworkers, hstays rfl⟩

end RunWitness

end Pool

end PluginHost
