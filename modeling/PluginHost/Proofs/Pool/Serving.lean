import PluginHost.Proofs.Pool.Runs

/-!
Tasks that are submitted one after the other, while the workers of the pool go
on with what they do. However both interleave, no task is lost, and of two
tasks of one class the one that was submitted first is started first, unless
the other one got a temporary worker. Where there is one worker and no other
is made, the tasks run one by one in the order they were submitted in.
-/
namespace PluginHost

namespace Pool

variable {α : Type} {p q r : Pool α} {tasks rest : List (PoolTask α)}

/-- Tasks that a pool took, one after the other. -/
inductive Took : Pool α → List (PoolTask α) → Pool α → Prop
  | nil (p : Pool α) : Took p [] p
  | cons {p q r : Pool α} {task : PoolTask α} {rest : List (PoolTask α)}
      {worker : Option (Worker α)} (submit : p.submit task false = .ok (q, worker))
      (took : Took q rest r) : Took p (task :: rest) r

/-- Tasks that were submitted to a pool, one after the other: a closed pool took none. -/
def Offered (p : Pool α) (tasks : List (PoolTask α)) (q : Pool α) : Prop :=
  Took p (if p.shutDown then [] else tasks) q

theorem shutDown_submit {task : PoolTask α} {worker : Option (Worker α)}
    (h : p.submit task false = .ok (q, worker)) : p.shutDown = false ∧ q.shutDown = false := by
  obtain ⟨htakes, _⟩ := submit_accepted h
  exact ⟨htakes.accepting, htakes.shutDown.trans htakes.accepting⟩

theorem submit_of_open (h : p.shutDown = false) (task : PoolTask α) :
    ∃ q worker, p.submit task false = .ok (q, worker) :=
  submit_of_accepting h task false

theorem submit_of_closed (h : p.shutDown = true) (task : PoolTask α) :
    p.submit task false = .error (.shutDown task.name) := by
  rw [submit, submitSeeing, if_pos h]

theorem Took.shutDown (h : Took p tasks q) : q.shutDown = p.shutDown := by
  induction h with
  | nil p => rfl
  | cons submit _ ih =>
      obtain ⟨hp, hq⟩ := shutDown_submit submit
      rw [ih, hq, hp]

theorem Took.append (h : Took p tasks q) (hrest : Took q rest r) : Took p (tasks ++ rest) r := by
  induction h with
  | nil p => exact hrest
  | cons submit _ ih => exact .cons submit (ih hrest)

theorem Offered.nil (p : Pool α) : Offered p [] p := by
  rw [Offered, ite_self]
  exact .nil p

theorem Offered.append (h : Offered p tasks q) (hrest : Offered q rest r) :
    Offered p (tasks ++ rest) r := by
  unfold Offered at *
  rw [Took.shutDown h] at hrest
  cases hp : p.shutDown with
  | false =>
      rw [hp] at h hrest
      exact Took.append h hrest
  | true =>
      rw [hp] at h hrest
      exact Took.append h hrest

/-! ### Interleavings -/

/-- Tasks that were submitted to a pool one after the other, while its workers went on. A submission
goes by a number of busy workers that it read before, so that it may have seen any. -/
inductive Serves (p : Pool α) : List (PoolTask α) → Pool α → Prop
  | start : Serves p [] p
  | submit {tasks : List (PoolTask α)} {q r : Pool α} (seen : Nat) {task : PoolTask α}
      {worker : Option (Worker α)} (before : Serves p tasks q)
      (step : q.submitSeeing seen task false = .ok (r, worker)) : Serves p (tasks ++ [task]) r
  | work {tasks : List (PoolTask α)} {q r : Pool α} (before : Serves p tasks q)
      (step : q.Works r) : Serves p tasks r

theorem Serves.append (h : p.Serves tasks q) (hrest : q.Serves rest r) :
    p.Serves (tasks ++ rest) r := by
  induction hrest with
  | start =>
      rw [List.append_nil]
      exact h
  | submit seen _ step ih =>
      rw [← List.append_assoc]
      exact .submit seen ih step
  | work _ step ih => exact .work ih step

/-- Workers may as well do nothing meanwhile. -/
theorem Took.serves (h : p.Took tasks q) : p.Serves tasks q := by
  induction h with
  | nil p => exact .start
  | @cons p _ _ _ _ _ submit _ ih => exact Serves.append (.submit p.busy .start submit) ih

namespace Serves

/-- It is a run of its own kind. -/
theorem runs (h : p.Serves tasks q) : p.Runs tasks q := by
  induction h with
  | start => exact .start
  | submit seen _ step ih => exact .submit seen ih step
  | work _ step ih => exact .work ih step

theorem sound (hp : p.Sound) (h : p.Serves tasks q) : q.Sound := h.runs.sound hp

/-- What is the same of a pool whatever it served. -/
structure Same (p : Pool α) (tasks : List (PoolTask α)) (q : Pool α) : Prop where
  overflow : q.overflow = p.overflow
  shutDown : q.shutDown = p.shutDown
  nextSequence : q.nextSequence = p.nextSequence + tasks.length

theorem same (hp : p.Sound) (h : p.Serves tasks q) : Same p tasks q := by
  induction h with
  | start => exact ⟨rfl, rfl, rfl⟩
  | submit _ _ step ih =>
      obtain ⟨htakes, _⟩ := submit_accepted step
      refine ⟨htakes.overflow.trans ih.overflow, htakes.shutDown.trans ih.shutDown, ?_⟩
      rw [htakes.nextSequence, ih.nextSequence, List.length_append, List.length_singleton]
      omega
  | work before step ih =>
      obtain ⟨hsteady, _⟩ := step.worked (sound hp before).distinct
      exact ⟨hsteady.overflow.trans ih.overflow, hsteady.shutDown.trans ih.shutDown,
        hsteady.nextSequence.trans ih.nextSequence⟩

/-- Every task that was submitted is taken, and no other one. -/
theorem tasks_perm (hp : p.Sound) (h : p.Serves tasks q) :
    q.tasks.Perm (p.tasks ++ numbered p.nextSequence tasks) :=
  h.runs.tasks_perm hp

theorem drops_eq (hp : p.Sound) (h : p.Serves tasks q) : q.drops = p.drops := by
  induction h with
  | start => rfl
  | submit _ _ step ih =>
      obtain ⟨_, haccepted⟩ := submit_accepted step
      exact haccepted.drops_eq.trans ih
  | work before step ih =>
      obtain ⟨_, hworked⟩ := step.worked (sound hp before).distinct
      exact hworked.drops_eq.trans ih

/-! ### Order -/

/-- A task that was submitted waits or was started. -/
theorem waiting_or_started (hp : p.Sound) (h : p.Serves tasks q) {task : PoolTask α}
    (hmem : task ∈ numbered p.nextSequence tasks) : task ∈ q.queue ∨ task ∈ q.starts :=
  hp.waiting_or_started (tasks_perm hp h) (drops_eq hp h) hmem

theorem exists_started_of_starts {task : PoolTask α} (h : task ∈ p.starts) :
    ∃ w, .started w task ∈ p.journal := by
  obtain ⟨activity, hmem, hstarted⟩ := List.mem_filterMap.mp h
  cases activity with
  | started w t =>
      rw [Activity.started?, Option.some.injEq] at hstarted
      exact ⟨w, hstarted ▸ hmem⟩
  | ended w t outcome => cases hstarted
  | dropped t => cases hstarted
  | exited w => cases hstarted

/-- What stands in a list to which one thing was added stands at its end, or stood there before. -/
theorem eq_or_exists_of_concat {β : Type} {l front back : List β} {x y : β}
    (h : l ++ [x] = front ++ y :: back) :
    (l = front ∧ x = y ∧ back = []) ∨ ∃ rest, back = rest ++ [x] ∧ l = front ++ y :: rest := by
  rcases List.eq_nil_or_concat back with rfl | ⟨rest, last, rfl⟩
  · obtain ⟨hfront, hlast⟩ := List.append_inj' h rfl
    exact .inl ⟨hfront, List.singleton_inj.mp hlast, rfl⟩
  · rw [List.concat_eq_append, ← List.cons_append, ← List.append_assoc] at h
    obtain ⟨hfront, hlast⟩ := List.append_inj' h rfl
    rw [List.concat_eq_append, List.singleton_inj.mp hlast]
    exact .inr ⟨rest, rfl, hfront⟩

/-- Nothing more urgent waits than the task that is taken next. -/
theorem not_waiting {queue : List (PoolTask α)} {a c : PoolTask α} (sorted : PoolTask.Sorted p.queue)
    (waiting : p.queue = c :: queue) (urgent : a.priority.rank ≤ c.priority.rank)
    (earlier : a.sequence < c.sequence) : a ∉ p.queue := by
  rw [waiting] at sorted ⊢
  intro hwaits
  rcases List.mem_cons.mp hwaits with rfl | hbehind
  · exact Nat.lt_irrefl _ earlier
  · have hafter := (List.pairwise_cons.mp sorted).1 a hbehind
    rw [PoolTask.before_iff] at hafter
    omega

/-- Wherever a task was started, another one was started before, unless the task got a temporary
worker. -/
def Precedes (q : Pool α) (overflow : Overflow) (a c : PoolTask α) : Prop :=
  ∀ front back w, q.journal = front ++ .started w c :: back →
    (∃ v, .started v a ∈ front) ∨ w.temporary = true ∧ overflow = .spawn

theorem Precedes.grow {overflow : Overflow} {a c : PoolTask α} {activity : Activity α}
    (h : Precedes p overflow a c) (journal : q.journal = p.journal ++ [activity])
    (last : ∀ w, activity = .started w c →
      (∃ v, .started v a ∈ p.journal) ∨ w.temporary = true ∧ overflow = .spawn) :
    Precedes q overflow a c := by
  intro front back w started
  rw [journal] at started
  rcases eq_or_exists_of_concat started with ⟨hfront, hlast, _⟩ | ⟨rest, _, hbefore⟩
  · exact hfront ▸ last w hlast
  · exact h front rest w hbefore

/-- What starts nothing changes no order. -/
theorem Precedes.silent {overflow : Overflow} {a c : PoolTask α} {activities : List (Activity α)}
    (h : Precedes p overflow a c) (journal : q.journal = p.journal ++ activities)
    (silent : ∀ w, .started w c ∉ activities) : Precedes q overflow a c := by
  intro front back w started
  rw [journal] at started
  rcases List.append_eq_append_iff.mp started with ⟨between, _, hlater⟩ | ⟨between, hbefore, hlater⟩
  · exact absurd (hlater ▸ List.mem_append_right _ List.mem_cons_self) (silent w)
  · cases between with
    | nil =>
        rw [List.nil_append] at hlater
        exact absurd (hlater ▸ List.mem_cons_self) (silent w)
    | cons first rest =>
        obtain ⟨rfl, _⟩ := List.cons.inj hlater
        exact h front rest w hbefore

/-- What was not submitted yet was not started. -/
theorem Precedes.of_new (hp : p.Sound) (overflow : Overflow) (a : PoolTask α) {c : PoolTask α}
    (new : p.nextSequence ≤ c.sequence) : Precedes p overflow a c := by
  intro front back w started
  have hmem : .started w c ∈ p.journal := started ▸ List.mem_append_right _ List.mem_cons_self
  have hold := hp.sequence_lt_of_starts (mem_starts_of_started hmem)
  omega

/-- One more task is submitted: only a temporary worker can start it at once. -/
theorem Precedes.submit {overflow : Overflow} {a c last : PoolTask α} {n seen : Nat}
    {force : Bool} {worker : Option (Worker α)} (hp : p.Sound)
    (before : a ∈ numbered n tasks → c ∈ numbered n tasks → Precedes p overflow a c)
    (next : p.nextSequence = n + tasks.length)
    (step : p.submitSeeing seen last force = .ok (q, worker))
    (spawns : force = true ∨ p.overflow = .spawn → overflow = .spawn)
    (ha : a ∈ numbered n (tasks ++ [last])) (hc : c ∈ numbered n (tasks ++ [last]))
    (earlier : a.sequence < c.sequence) : Precedes q overflow a c := by
  have hlast := (sequence_of_numbered hc).2
  rw [List.length_append, List.length_singleton] at hlast
  have ha' := (mem_numbered_concat ha).resolve_right (by omega)
  have hprecedes : Precedes p overflow a c := by
    rcases mem_numbered_concat hc with hold | hnew
    · exact before ha' hold
    · exact .of_new hp overflow a (by omega)
  obtain ⟨_, haccepted⟩ := submit_accepted step
  cases haccepted with
  | queued _ _ _ journal _ =>
      exact fun front back w started => hprecedes front back w (journal ▸ started)
  | spawned why _ _ journal _ =>
      refine hprecedes.grow journal fun w hstarted => ?_
      cases hstarted
      exact .inr ⟨rfl, spawns why⟩

/-- A worker that takes a task takes the most urgent one, so that an earlier one does not wait. -/
theorem Precedes.works {overflow : Overflow} {a c : PoolTask α} (hp : p.Sound)
    (h : Precedes p overflow a c) (step : p.Works q) (urgent : a.priority.rank ≤ c.priority.rank)
    (earlier : a.sequence < c.sequence)
    (taken : p.shutDown = false → a ∈ p.queue ∨ a ∈ p.starts) : Precedes q overflow a c := by
  obtain ⟨_, hworked⟩ := step.worked hp.distinct
  cases hworked with
  | began _ _ _ accepting _ waiting journal _ =>
      refine h.grow journal fun w hstarted => ?_
      cases hstarted
      have hnot : a ∉ p.queue := not_waiting hp.sorted waiting urgent earlier
      exact .inl (exists_started_of_starts ((taken accepting).resolve_left hnot))
  | recounted _ _ _ _ _ _ journal _ =>
      exact fun front back w started => h front back w (journal ▸ started)
  | ended _ _ _ _ journal _ => exact h.grow journal fun _ hstarted => by cases hstarted
  | exited _ _ _ _ _ _ journal _ => exact h.grow journal fun _ hstarted => by cases hstarted

/-- Of two tasks of one class, or with the earlier one in an earlier class, the one that was
submitted first is started first, unless the later one got a temporary worker because all others
were busy. -/
theorem started_before (hp : p.Sound) (h : p.Serves tasks q) {a c : PoolTask α}
    (ha : a ∈ numbered p.nextSequence tasks) (hc : c ∈ numbered p.nextSequence tasks)
    (urgent : a.priority.rank ≤ c.priority.rank) (earlier : a.sequence < c.sequence) :
    Precedes q p.overflow a c := by
  induction h with
  | start => cases ha
  | submit _ before step ih =>
      have hsame := same hp before
      refine .submit (sound hp before) ih hsame.nextSequence step ?_ ha hc earlier
      intro hwhy
      exact hsame.overflow.symm.trans (hwhy.resolve_left nofun)
  | work before step ih =>
      exact (ih ha hc).works (sound hp before) step urgent earlier
        fun _ => waiting_or_started hp before ha

/-- A task that is submitted when the only worker is busy with another one gets a temporary worker
at once, while one that was submitted before it waits. -/
theorem exists_overtaken (debug : DebugOptions) (a b c : PoolTask α)
    (classes : a.priority = b.priority) : ∃ q v w,
      (create 1 .spawn debug).Serves [a, b, c] q ∧ q.queue = [{ b with sequence := 1 }] ∧
        q.journal = [.started v { a with sequence := 0 }, .started w { c with sequence := 2 }] := by
  obtain ⟨_, rank, _, _, _⟩ := a
  obtain ⟨_, _, _, _, _⟩ := b
  cases classes
  cases rank <;>
    exact ⟨_, _, _, .submit 1 (.work (.work (.submit 0 (.submit 0 .start rfl) rfl)
      (.takes (w := ⟨0, false, false, none, false⟩) List.mem_cons_self rfl))
      (.countsIn (w := ⟨0, false, false, some _, false⟩) List.mem_cons_self rfl)) rfl, rfl, rfl⟩

end Serves

/-! ### One worker -/

/-- A task begins, or it is over. -/
inductive Moment (α : Type) where
  | begun (task : PoolTask α)
  | over (task : PoolTask α)

namespace Moment

def task : Moment α → PoolTask α
  | .begun task => task
  | .over task => task

/-- A task that runs without any other one meanwhile. -/
def both (task : PoolTask α) : List (Moment α) := [.begun task, .over task]

/-- The moment an activity is, if it begins or ends a task. -/
def ofActivity? : Activity α → Option (Moment α)
  | .started _ task => some (.begun task)
  | .ended _ task _ => some (.over task)
  | _ => none

end Moment

/-- The moments of all tasks from a number on, in order. -/
def momentsFrom (p : Pool α) (n : Nat) : List (Moment α) :=
  (p.journal.filterMap Moment.ofActivity?).filter fun m => n ≤ m.task.sequence

/-- A pool whose only worker is on the way through some tasks: it is done with the first ones, at
most one is under way, and all others wait. -/
structure Serial (n : Nat) (tasks done : List (PoolTask α)) (current : Option (PoolTask α))
    (q : Pool α) : Prop where
  tasks : numbered n tasks = done ++ current.toList ++ q.queue.filter fun t => n ≤ t.sequence
  moments : q.momentsFrom n = done.flatMap Moment.both ++ current.toList.map .begun
  current : (q.running.filter fun t => n ≤ t.sequence) = current.toList
  single : q.present.length ≤ 1

/-- No task from a number on was given to a temporary worker. -/
def NoTemporary (n : Nat) (q : Pool α) : Prop :=
  ∀ w t, .started w t ∈ q.journal → n ≤ t.sequence → w.temporary = false

namespace Serial

variable {n : Nat} {done : List (PoolTask α)} {current : Option (PoolTask α)}

theorem momentsFrom_of_journal {activity : Activity α} (h : q.journal = p.journal ++ [activity]) :
    q.momentsFrom n = p.momentsFrom n ++
      (Moment.ofActivity? activity).toList.filter fun m => n ≤ m.task.sequence := by
  rw [momentsFrom, momentsFrom, h, List.filterMap_append, List.filter_append]
  cases hmoment : Moment.ofActivity? activity <;> simp [hmoment]

/-- Nothing was begun or ended that was not submitted. -/
theorem momentsFrom_nextSequence (hp : p.Sound) : p.momentsFrom p.nextSequence = [] := by
  have hold : ∀ t ∈ p.starts, ¬ p.nextSequence ≤ t.sequence := fun t ht =>
    Nat.not_le.mpr (hp.sequence_lt_of_starts ht)
  apply List.filter_eq_nil_iff.mpr
  intro m hm
  obtain ⟨activity, hactivity, hmoment⟩ := List.mem_filterMap.mp hm
  cases activity with
  | started w task =>
      cases hmoment
      exact mt of_decide_eq_true (hold task (mem_starts_of_started hactivity))
  | ended w task outcome =>
      cases hmoment
      have hended : task ∈ p.ends := List.mem_filterMap.mpr ⟨_, hactivity, rfl⟩
      have hstarted := hp.underway.mem_iff.mpr (List.mem_append_right _ hended)
      exact mt of_decide_eq_true (hold task hstarted)
  | dropped task => cases hmoment
  | exited w => cases hmoment

theorem start (hp : p.Sound) (single : p.present.length ≤ 1) :
    Serial p.nextSequence [] [] none p where
  tasks := by
    symm
    apply List.filter_eq_nil_iff.mpr
    intro t ht
    have hlt := hp.sequence_lt (List.mem_append_left _ (List.mem_append_left _ ht))
    simpa using hlt
  moments := momentsFrom_nextSequence hp
  current := by
    apply List.filter_eq_nil_iff.mpr
    intro t ht
    have hstarted := hp.underway.mem_iff.mpr (List.mem_append_left _ ht)
    have hlt := hp.sequence_lt_of_starts hstarted
    simpa using hlt
  single := single

theorem submit (h : Serial n tasks done current q) (hq : q.Sound)
    (next : q.nextSequence = n + tasks.length) {seen : Nat} {task : PoolTask α}
    {worker : Option (Worker α)} (ordered : ∀ t ∈ tasks, t.priority.rank ≤ task.priority.rank)
    (step : q.submitSeeing seen task false = .ok (r, worker)) (noTemporary : r.NoTemporary n) :
    Serial n (tasks ++ [task]) done current r := by
  obtain ⟨htakes, haccepted⟩ := submit_accepted step
  cases haccepted with
  | spawned _ _ _ journal _ =>
      have hpersistent := noTemporary _ _ (journal ▸ List.mem_append_right _ List.mem_cons_self)
        (next ▸ Nat.le_add_right n tasks.length)
      cases hpersistent
  | queued _ waiting workers journal _ =>
      have hpresent := htakes.present_eq workers
      refine ⟨?_, ?_, ?_, hpresent ▸ h.single⟩
      · have hlast : (r.queue.filter fun t => n ≤ t.sequence) =
            (q.queue.filter fun t => n ≤ t.sequence) ++ [{ task with sequence := q.nextSequence }] := by
          rw [waiting]
          apply hq.sorted.filter_enqueue (by simp [next])
          intro t ht hin
          have hours : t ∈ numbered n tasks := by
            rw [h.tasks]
            exact List.mem_append_right _ (List.mem_filter.mpr ⟨ht, hin⟩)
          obtain ⟨s, hs, heq⟩ := exists_of_numbered hours
          have hclass := ordered s hs
          have hbounds := sequence_of_numbered hours
          rw [← Bool.not_eq_true, PoolTask.before_iff, next]
          have hsame : t.priority = s.priority := by rw [heq]
          dsimp only
          rw [hsame]
          omega
        rw [numbered_append, h.tasks, hlast, next, List.append_assoc]
        rfl
      · rw [momentsFrom, journal]
        exact h.moments
      · rw [running, hpresent]
        exact h.current

/-- There is no other worker beside the one that does something. -/
theorem alone (h : Serial n tasks done current q) {front back : List (Worker α)} {w : Worker α}
    (there : q.present = front ++ w :: back) : front = [] ∧ back = [] := by
  have hlength := h.single
  rw [there, List.length_append, List.length_cons] at hlength
  exact ⟨List.length_eq_zero_iff.mp (by omega), List.length_eq_zero_iff.mp (by omega)⟩

theorem begin (h : Serial n tasks done current q) {w : Worker α} {task : PoolTask α}
    (there : q.present = [w]) (idle : w.running = none) (waiting : q.queue = task :: r.queue)
    (present : r.present = [{ w with running := some task }])
    (journal : r.journal = q.journal ++ [.started { w with running := some task } task]) :
    ∃ current, Serial n tasks done current r := by
  have htasks := h.tasks
  have hmoments := h.moments
  have hbefore : q.running = [] := by simp [running, there, idle]
  have hafter : r.running = [task] := by simp [running, present]
  have hnone : current.toList = [] := by rw [← h.current, hbefore, List.filter_nil]
  have hsingle : r.present.length ≤ 1 := by simp [present]
  rw [hnone, List.append_nil, waiting] at htasks
  rw [hnone, List.map_nil, List.append_nil] at hmoments
  by_cases hours : n ≤ task.sequence
  · refine ⟨some task, ?_, ?_, ?_, hsingle⟩
    · rw [htasks, List.filter_cons_of_pos (by simpa using hours)]
      simp
    · rw [momentsFrom_of_journal journal, hmoments]
      simp [Moment.ofActivity?, Moment.task, hours]
    · rw [hafter]
      simp [hours]
  · refine ⟨none, ?_, ?_, ?_, hsingle⟩
    · rw [htasks, List.filter_cons_of_neg (by simpa using hours)]
      simp
    · rw [momentsFrom_of_journal journal, hmoments]
      simp [Moment.ofActivity?, Moment.task, hours]
    · rw [hafter]
      simp [hours]

theorem finish (h : Serial n tasks done current q) {w : Worker α} {task : PoolTask α}
    {outcome : Outcome} (there : q.present = [w]) (busy : w.running = some task)
    (present : r.present = if w.temporary then [] else [{ w with running := none }])
    (waiting : r.queue = q.queue) (journal : r.journal = q.journal ++ [.ended w task outcome]) :
    ∃ done current, Serial n tasks done current r := by
  have htasks := h.tasks
  have hcurrent := h.current
  have hbefore : q.running = [task] := by simp [running, there, busy]
  have hafter : r.running = [] := by
    rw [running, present]
    split <;> simp
  have hsingle : r.present.length ≤ 1 := by
    rw [present]
    split <;> simp
  rw [hbefore] at hcurrent
  by_cases hours : n ≤ task.sequence
  · have hsome : current.toList = [task] := by simpa [hours] using hcurrent.symm
    refine ⟨done ++ [task], none, ?_, ?_, ?_, hsingle⟩
    · rw [htasks, hsome, waiting]
      simp
    · rw [momentsFrom_of_journal journal, h.moments, hsome]
      simp [Moment.ofActivity?, Moment.task, Moment.both, hours]
    · rw [hafter]
      rfl
  · have hnone : current.toList = [] := by simpa [hours] using hcurrent.symm
    refine ⟨done, current, ?_, ?_, ?_, hsingle⟩
    · rw [htasks, waiting]
    · rw [momentsFrom_of_journal journal, h.moments]
      simp [Moment.ofActivity?, Moment.task, hours]
    · rw [hafter, hnone, List.filter_nil]

theorem exit (h : Serial n tasks done current q) {w : Worker α} (there : q.present = [w])
    (idle : w.running = none) (present : r.present = []) (waiting : r.queue = q.queue)
    (journal : r.journal = q.journal ++ [.exited w]) : Serial n tasks done current r where
  tasks := by rw [h.tasks, waiting]
  moments := by
    rw [momentsFrom_of_journal journal, h.moments]
    simp [Moment.ofActivity?]
  current := by
    have hbefore : q.running = [] := by simp [running, there, idle]
    have hafter : r.running = [] := by simp [running, present]
    rw [hafter, ← hbefore]
    exact h.current
  single := by simp [present]

theorem recount (h : Serial n tasks done current q) {w : Worker α} {counted : Bool}
    (there : q.present = [w]) (present : r.present = [{ w with counted }])
    (waiting : r.queue = q.queue) (journal : r.journal = q.journal) :
    Serial n tasks done current r where
  tasks := by rw [h.tasks, waiting]
  moments := by
    rw [momentsFrom, journal]
    exact h.moments
  current := by
    have hsame : r.running = q.running := by
      rw [running, running, there, present]
      rfl
    rw [hsame]
    exact h.current
  single := by simp [present]

theorem work (h : Serial n tasks done current q) (hq : q.Sound) (step : q.Works r) :
    ∃ done current, Serial n tasks done current r := by
  obtain ⟨_, hworked⟩ := step.worked hq.distinct
  cases hworked with
  | began there idle _ _ present waiting journal _ =>
      obtain ⟨rfl, rfl⟩ := h.alone there
      exact ⟨done, h.begin there idle waiting present journal⟩
  | recounted _ there _ _ present waiting journal _ =>
      obtain ⟨rfl, rfl⟩ := h.alone there
      exact ⟨done, current, h.recount there present waiting journal⟩
  | ended there busy present waiting journal _ =>
      obtain ⟨rfl, rfl⟩ := h.alone there
      rw [List.nil_append, List.append_nil] at present
      exact h.finish there busy present waiting journal
  | exited there idle _ _ present waiting journal _ =>
      obtain ⟨rfl, rfl⟩ := h.alone there
      exact ⟨done, current, h.exit there idle present waiting journal⟩

/-- At every moment the tasks ran one by one so far, from the first one on. -/
theorem moments_prefix (h : Serial n tasks done current q) :
    q.momentsFrom n <+: (numbered n tasks).flatMap Moment.both := by
  rw [h.moments, h.tasks, List.flatMap_append, List.flatMap_append, List.append_assoc]
  refine (List.prefix_append_right_inj _).mpr ?_
  cases current with
  | none => exact List.nil_prefix
  | some task => exact ⟨_, rfl⟩

/-- Once nothing waits and nothing runs, all tasks ran one by one. -/
theorem moments_eq (h : Serial n tasks done current q) (waiting : q.queue = [])
    (running : q.running = []) : q.momentsFrom n = (numbered n tasks).flatMap Moment.both := by
  have hnone : current.toList = [] := by rw [← h.current, running, List.filter_nil]
  rw [h.moments, h.tasks, hnone, waiting]
  simp

end Serial

/-- What a worker starts when it takes a task is started by a persistent worker. -/
theorem Worked.started_or_persistent {w : Worker α} {task : PoolTask α} (h : q.Worked r)
    (started : .started w task ∈ r.journal) :
    .started w task ∈ q.journal ∨ w.temporary = false := by
  cases h with
  | began _ _ persistent _ _ _ journal _ =>
      rw [journal] at started
      rcases List.mem_append.mp started with hold | hlast
      · exact .inl hold
      · cases List.mem_singleton.mp hlast
        exact .inr persistent
  | recounted _ _ _ _ _ _ journal _ => exact .inl (journal ▸ started)
  | ended _ _ _ _ journal _ =>
      rw [journal] at started
      exact .inl ((List.mem_append.mp started).resolve_right (by simp))
  | exited _ _ _ _ _ _ journal _ =>
      rw [journal] at started
      exact .inl ((List.mem_append.mp started).resolve_right (by simp))

/-- Where a task that finds all workers busy waits, no task is given to a temporary worker. -/
theorem Serves.noTemporary (hp : p.Sound) (queues : p.overflow = .queue) (h : p.Serves tasks q) :
    q.NoTemporary p.nextSequence := by
  induction h with
  | start =>
      intro w t hstarted hnew
      have hold := hp.sequence_lt_of_starts (mem_starts_of_started hstarted)
      omega
  | submit _ before step ih =>
      obtain ⟨_, haccepted⟩ := submit_accepted step
      cases haccepted with
      | spawned why _ _ _ _ => simp [(same hp before).overflow, queues] at why
      | queued _ _ _ journal _ =>
          intro w t hstarted hnew
          exact ih w t (journal ▸ hstarted) hnew
  | work before step ih =>
      obtain ⟨_, hworked⟩ := step.worked (sound hp before).distinct
      intro w t hstarted hnew
      exact (hworked.started_or_persistent hstarted).elim (fun hold => ih w t hold hnew) id

/-- Where there is one worker, and no temporary one is made, tasks run one by one in the order they
were submitted in, unless they are of an earlier class than tasks before them. -/
theorem Serves.serial (hp : p.Sound) (single : p.present.length ≤ 1)
    (ordered : tasks.Pairwise fun a b => a.priority.rank ≤ b.priority.rank)
    (h : p.Serves tasks q) (noTemporary : q.NoTemporary p.nextSequence) :
    ∃ done current, Serial p.nextSequence tasks done current q := by
  induction h with
  | start => exact ⟨[], none, .start hp single⟩
  | @submit tasks q r seen task worker before step ih =>
      obtain ⟨hbefore, _, hlast⟩ := List.pairwise_append.mp ordered
      obtain ⟨_, haccepted⟩ := submit_accepted step
      have hfewer : q.NoTemporary p.nextSequence :=
        fun w t hstarted => noTemporary w t (haccepted.journal_prefix.subset hstarted)
      obtain ⟨done, current, hserial⟩ := ih hbefore hfewer
      exact ⟨done, current, hserial.submit (sound hp before) (same hp before).nextSequence
        (fun t ht => hlast t ht _ List.mem_cons_self) step noTemporary⟩
  | @work tasks q r before step ih =>
      obtain ⟨_, hworked⟩ := step.worked (sound hp before).distinct
      have hfewer : q.NoTemporary p.nextSequence :=
        fun w t hstarted => noTemporary w t (hworked.journal_prefix.subset hstarted)
      obtain ⟨done, current, hserial⟩ := ih ordered hfewer
      exact hserial.work (sound hp before) step

/-- What begins and ends of some tasks is, at every moment, the first part of them one by one, and
all of them as soon as nothing waits or runs. -/
def OneByOne (p : Pool α) (tasks : List (PoolTask α)) (q : Pool α) : Prop :=
  q.momentsFrom p.nextSequence <+: (numbered p.nextSequence tasks).flatMap Moment.both ∧
    (q.queue = [] → q.running = [] →
      q.momentsFrom p.nextSequence = (numbered p.nextSequence tasks).flatMap Moment.both)

theorem Serves.oneByOne (hp : p.Sound) (single : p.present.length ≤ 1)
    (ordered : tasks.Pairwise fun a b => a.priority.rank ≤ b.priority.rank)
    (h : p.Serves tasks q) (alone : p.overflow = .queue ∨ q.NoTemporary p.nextSequence) :
    p.OneByOne tasks q := by
  have hnoTemporary : q.NoTemporary p.nextSequence :=
    alone.elim (fun queues => noTemporary hp queues h) id
  obtain ⟨done, current, hserial⟩ := serial hp single ordered h hnoTemporary
  exact ⟨hserial.moments_prefix, hserial.moments_eq⟩

/-- Where temporary workers are made, three tasks for one worker need not run one by one: the last
one may start while the first one runs and the second one waits. -/
theorem Serves.exists_not_oneByOne (debug : DebugOptions) (a b c : PoolTask α)
    (classes : a.priority = b.priority) : ∃ q, (create 1 .spawn debug).Serves [a, b, c] q ∧
      q.queue = [{ b with sequence := 1 }] ∧
      q.starts = [{ a with sequence := 0 }, { c with sequence := 2 }] ∧
      ¬ (create 1 .spawn debug).OneByOne [a, b, c] q := by
  obtain ⟨q, v, w, hserves, hqueue, hjournal⟩ := exists_overtaken debug a b c classes
  have hstarts : q.starts = [{ a with sequence := 0 }, { c with sequence := 2 }] := by
    rw [starts, hjournal]
    rfl
  refine ⟨q, hserves, hqueue, hstarts, fun honeByOne => ?_⟩
  have hmoments : q.momentsFrom (create 1 .spawn debug : Pool α).nextSequence =
      [.begun { a with sequence := 0 }, .begun { c with sequence := 2 }] := by
    rw [momentsFrom, hjournal]
    rfl
  have hprefix := honeByOne.1
  rw [hmoments] at hprefix
  -- The first task would have to be over before any other one begins.
  cases (List.cons_prefix_cons.mp (List.cons_prefix_cons.mp hprefix).2).1

end Pool

end PluginHost
