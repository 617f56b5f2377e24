import Mathlib.Data.List.Nodup
import Mathlib.Data.List.Perm.Basic
import PluginHost.Pool.Basic

/-!
What is true of a pool at every moment. Waiting tasks stand in the order they
are to run in; every task that was ever taken waits, was started or was
dropped, and only one of these; those that were started and have not ended are
the ones the workers run. The module says once what each step does, and reads
everything off from that.
-/
namespace PluginHost

/-! ### Waiting tasks -/

namespace PoolTask

variable {α : Type} {a b c task : PoolTask α} {queue : List (PoolTask α)}

theorem before_iff : a.before b = true ↔ a.priority.rank < b.priority.rank ∨
    a.priority.rank = b.priority.rank ∧ a.sequence < b.sequence := by
  simp [before]

theorem before_trans (hab : a.before b = true) (hbc : b.before c = true) : a.before c = true := by
  rw [before_iff] at *
  omega

theorem before_of_not_before (hne : a.sequence ≠ b.sequence) (h : ¬ a.before b = true) :
    b.before a = true := by
  rw [before_iff] at *
  omega

/-- Tasks in the order they are to run in. -/
def Sorted (queue : List (PoolTask α)) : Prop :=
  queue.Pairwise fun a b => a.before b = true

theorem enqueue_perm (task : PoolTask α) (queue : List (PoolTask α)) :
    (task.enqueue queue).Perm (task :: queue) := by
  induction queue with
  | nil => exact .refl _
  | cons other rest ih =>
      unfold enqueue
      split
      · exact .refl _
      · exact (ih.cons other).trans (.swap task other rest)

theorem Sorted.enqueue (h : Sorted queue) (new : ∀ t ∈ queue, t.sequence ≠ task.sequence) :
    Sorted (task.enqueue queue) := by
  induction queue with
  | nil => exact List.pairwise_singleton _ _
  | cons other rest ih =>
      obtain ⟨hother, hrest⟩ := List.pairwise_cons.mp h
      unfold PoolTask.enqueue
      split
      · next hbefore =>
          refine List.pairwise_cons.mpr ⟨?_, h⟩
          intro t ht
          rcases List.mem_cons.mp ht with rfl | hlater
          · exact hbefore
          · exact before_trans hbefore (hother t hlater)
      · next hbehind =>
          have hfirst : other.before task = true :=
            before_of_not_before (new other List.mem_cons_self).symm hbehind
          refine List.pairwise_cons.mpr ⟨?_, ih hrest fun t ht => new t (List.mem_cons_of_mem _ ht)⟩
          intro t ht
          rcases mem_enqueue.mp ht with rfl | hlater
          · exact hfirst
          · exact hother t hlater

/-- A task that runs before none of some tasks goes behind them, wherever else it goes. -/
theorem Sorted.filter_enqueue (h : Sorted queue) {kept : PoolTask α → Bool} (hkept : kept task = true)
    (last : ∀ t ∈ queue, kept t = true → task.before t = false) :
    (task.enqueue queue).filter kept = queue.filter kept ++ [task] := by
  induction queue with
  | nil => simp [PoolTask.enqueue, hkept]
  | cons other rest ih =>
      obtain ⟨hother, hrest⟩ := List.pairwise_cons.mp h
      unfold PoolTask.enqueue
      split
      · next hbefore =>
          have hnone : (other :: rest).filter kept = [] := by
            apply List.filter_eq_nil_iff.mpr
            intro t ht hin
            have hbehind : task.before t = true := by
              rcases List.mem_cons.mp ht with rfl | hlater
              · exact hbefore
              · exact before_trans hbefore (hother t hlater)
            simp [last t ht hin] at hbehind
          rw [List.filter_cons_of_pos hkept, hnone, List.nil_append]
      · rw [List.filter_cons, List.filter_cons,
          ih hrest fun t ht => last t (List.mem_cons_of_mem _ ht)]
        split <;> rfl

end PoolTask

/-! ### What a journal tells -/

namespace Activity

variable {α : Type}

/-- The task an activity starts. -/
def started? : Activity α → Option (PoolTask α)
  | .started _ task => some task
  | _ => none

/-- The task an activity ends. -/
def ended? : Activity α → Option (PoolTask α)
  | .ended _ task _ => some task
  | _ => none

/-- The task an activity drops. -/
def dropped? : Activity α → Option (PoolTask α)
  | .dropped task => some task
  | _ => none

end Activity

namespace Pool

variable {α : Type} {p q : Pool α} {w : Worker α} {task : PoolTask α} {outcome : Outcome}

/-- The tasks that were started so far, in order. -/
def starts (p : Pool α) : List (PoolTask α) := p.journal.filterMap Activity.started?

/-- The tasks that ended so far, in order. -/
def ends (p : Pool α) : List (PoolTask α) := p.journal.filterMap Activity.ended?

/-- The tasks that were dropped. -/
def drops (p : Pool α) : List (PoolTask α) := p.journal.filterMap Activity.dropped?

/-- Every task that was ever taken: it waits, was started or was dropped. -/
def tasks (p : Pool α) : List (PoolTask α) := p.queue ++ p.starts ++ p.drops

/-- The tasks workers are at. -/
def running (p : Pool α) : List (PoolTask α) := p.present.filterMap Worker.running

/-! ### What a worker does -/

/-- One step of a worker. -/
inductive Works : Pool α → Pool α → Prop
  | takes {p q : Pool α} {w : Worker α} (mem : w ∈ p.workers) (step : p.take? w = some q) :
      Works p q
  | countsIn {p q : Pool α} {w : Worker α} (mem : w ∈ p.present) (step : p.countIn? w = some q) :
      Works p q
  | ends {p q : Pool α} {w : Worker α} {outcome : Outcome} (mem : w ∈ p.present)
      (step : p.finish? w outcome = some q) : Works p q
  | countsOut {p q : Pool α} {w : Worker α} (mem : w ∈ p.present)
      (step : p.countOut? w = some q) : Works p q
  | exits {p q : Pool α} {w : Worker α} (mem : w ∈ p.present) (step : p.exit? w = some q) :
      Works p q

/-- What the work of workers leaves alone. -/
structure Steady (p q : Pool α) : Prop where
  size : q.size = p.size
  overflow : q.overflow = p.overflow
  shutDown : q.shutDown = p.shutDown
  nextWorker : q.nextWorker = p.nextWorker
  nextSequence : q.nextSequence = p.nextSequence
  home : p.leaving = [] → q.leaving = []

/-- What one step of a worker comes to: it takes the most urgent task, is counted as busy or is not
any more, ends the task it is at, or leaves because it was told to. -/
inductive Worked (p q : Pool α) : Prop
  | began {front back : List (Worker α)} {w : Worker α} {task : PoolTask α}
      (there : p.present = front ++ w :: back) (idle : w.running = none)
      (persistent : w.temporary = false) (accepting : p.shutDown = false)
      (present : q.present = front ++ { w with running := some task } :: back)
      (waiting : p.queue = task :: q.queue)
      (journal : q.journal = p.journal ++ [.started { w with running := some task } task])
      (counter : q.busy = p.busy)
  | recounted {front back : List (Worker α)} {w : Worker α} (counted : Bool)
      (there : p.present = front ++ w :: back) (persistent : w.temporary = false)
      (due : w.counted = !counted)
      (present : q.present = front ++ { w with counted } :: back) (waiting : q.queue = p.queue)
      (journal : q.journal = p.journal)
      (counter : q.busy = if counted then p.busy + 1 else p.busy - 1)
  | ended {front back : List (Worker α)} {w : Worker α} {task : PoolTask α} {outcome : Outcome}
      (there : p.present = front ++ w :: back) (busy : w.running = some task)
      (present : q.present =
        front ++ (if w.temporary then [] else [{ w with running := none }]) ++ back)
      (waiting : q.queue = p.queue) (journal : q.journal = p.journal ++ [.ended w task outcome])
      (counter : q.busy = p.busy)
  | exited {front back : List (Worker α)} {w : Worker α} (there : p.present = front ++ w :: back)
      (idle : w.running = none) (uncounted : w.counted = false) (stopping : w.stopping = true)
      (present : q.present = front ++ back) (waiting : q.queue = p.queue)
      (journal : q.journal = p.journal ++ [.exited w]) (counter : q.busy = p.busy)

/-- Numbers tell workers apart, so a worker that changes or goes does so in its place. -/
theorem exists_place (distinct : (p.present.map Worker.number).Nodup) (mem : w ∈ p.present) :
    ∃ front back, p.present = front ++ w :: back ∧
      (∀ v : Worker α, v.number = w.number → (p.replace v).present = front ++ v :: back) ∧
      (p.forget w).present = front ++ back := by
  obtain ⟨front, back, hsplit⟩ := List.append_of_mem mem
  rw [hsplit, List.map_append, List.map_cons] at distinct
  have hmiddle := List.nodup_middle.mp distinct
  have hothers : ∀ v ∈ front ++ back, v.number ≠ w.number := by
    intro v hv heq
    rw [← List.map_append] at hmiddle
    exact (List.nodup_cons.mp hmiddle).1 (heq ▸ List.mem_map_of_mem hv)
  refine ⟨front, back, hsplit, ?_, ?_⟩
  · intro v hnumber
    have hkept : ∀ ws : List (Worker α), (∀ x ∈ ws, x ∈ front ++ back) →
        ws.map (fun x => if x.number = v.number then v else x) = ws := by
      intro ws hws
      refine (List.map_congr_left ?_).trans (List.map_id ws)
      intro x hx
      exact if_neg (hnumber ▸ hothers x (hws x hx))
    have hpresent : (p.replace v).present =
        p.present.map fun x => if x.number = v.number then v else x := by
      simp [present, replace]
    rw [hpresent, hsplit, List.map_append, List.map_cons, if_pos hnumber.symm,
      hkept front fun _ => List.mem_append_left _, hkept back fun _ => List.mem_append_right _]
  · have hpresent : (p.forget w).present = p.present.filter (·.number != w.number) := by
      simp [present, forget]
    have hkept : (front ++ back).filter (·.number != w.number) = front ++ back :=
      List.filter_eq_self.mpr fun v hv => bne_iff_ne.mpr (hothers v hv)
    rw [hpresent, hsplit, List.filter_append, List.filter_cons, if_neg (by simp),
      ← List.filter_append, hkept]

theorem canTake_iff : p.canTake w = true ↔
    w.temporary = false ∧ p.shutDown = false ∧ w.running = none ∧ w.counted = false := by
  simp [canTake, and_assoc]

theorem take?_eq (h : p.take? w = some q) : ∃ task queue, p.queue = task :: queue ∧
    p.canTake w = true ∧ q = (({ p with queue }.replace
      { w with running := some task }).note (.started { w with running := some task } task)) := by
  unfold take? at h
  split at h
  · next task queue hqueue =>
      split at h
      · next hable =>
          cases h
          exact ⟨task, queue, hqueue, hable, rfl⟩
      · cases h
  · cases h

theorem countIn?_eq (h : p.countIn? w = some q) :
    w.temporary = false ∧ w.running.isSome = true ∧ w.counted = false ∧
      q = { p with busy := p.busy + 1 }.replace { w with counted := true } := by
  unfold countIn? at h
  split at h
  · next hdue =>
      cases h
      simp only [Bool.and_eq_true, Bool.not_eq_true'] at hdue
      exact ⟨hdue.1.1, hdue.1.2, hdue.2, rfl⟩
  · cases h

theorem countOut?_eq (h : p.countOut? w = some q) :
    w.temporary = false ∧ w.running = none ∧ w.counted = true ∧
      q = { p with busy := p.busy - 1 }.replace { w with counted := false } := by
  unfold countOut? at h
  split at h
  · next hdue =>
      cases h
      simp only [Bool.and_eq_true, Bool.not_eq_true', Option.isNone_iff_eq_none] at hdue
      exact ⟨hdue.1.1, hdue.1.2, hdue.2, rfl⟩
  · cases h

/-- What is left when a worker ends its task. -/
theorem finish?_eq (busy : w.running = some task) (due : w.temporary = true ∨ w.counted = true)
    (outcome : Outcome) : p.finish? w outcome = some (
      if w.temporary then (p.note (.ended w task outcome)).forget w
      else (p.note (.ended w task outcome)).replace { w with running := none }) := by
  unfold finish?
  rw [busy]
  dsimp only
  cases htemporary : w.temporary with
  | true => rfl
  | false =>
      have hcounted : w.counted = true := due.resolve_left (by simp [htemporary])
      simp [hcounted]

theorem of_finish?_eq (h : p.finish? w outcome = some q) :
    (w.temporary = true ∨ w.counted = true) ∧ ∃ task, w.running = some task := by
  unfold finish? at h
  split at h
  · cases h
  · next task hbusy =>
      refine ⟨?_, task, hbusy⟩
      dsimp only at h
      split at h
      · next htemporary => exact .inl htemporary
      · split at h
        · next hcounted => exact .inr hcounted
        · cases h

theorem exit?_eq (h : p.exit? w = some q) :
    w.running = none ∧ w.counted = false ∧ w.stopping = true ∧
      q = (p.forget w).note (.exited w) := by
  unfold exit? at h
  split at h
  · next hable =>
      cases h
      simp only [Bool.and_eq_true, Bool.not_eq_true', Option.isNone_iff_eq_none] at hable
      exact ⟨hable.1.1.2, hable.1.2, hable.2, rfl⟩
  · cases h

theorem leaving_replace (home : p.leaving = []) (v : Worker α) : (p.replace v).leaving = [] := by
  simp [replace, home]

theorem leaving_forget (home : p.leaving = []) (v : Worker α) : (p.forget v).leaving = [] := by
  simp [forget, home]

theorem Works.worked (distinct : (p.present.map Worker.number).Nodup) (h : p.Works q) :
    p.Steady q ∧ p.Worked q := by
  cases h with
  | @takes w mem step =>
      obtain ⟨task, queue, hqueue, hable, rfl⟩ := take?_eq step
      obtain ⟨htemporary, hopen, hidle, _⟩ := canTake_iff.mp hable
      obtain ⟨front, back, hthere, hreplace, _⟩ :=
        exists_place (p := { p with queue }) distinct (List.mem_append_left _ mem)
      exact ⟨⟨rfl, rfl, rfl, rfl, rfl, fun home => leaving_replace (p := { p with queue }) home _⟩,
        .began hthere hidle htemporary hopen (hreplace _ rfl) hqueue rfl rfl⟩
  | @countsIn w mem step =>
      obtain ⟨hpersistent, _, huncounted, rfl⟩ := countIn?_eq step
      obtain ⟨front, back, hthere, hreplace, _⟩ :=
        exists_place (p := { p with busy := p.busy + 1 }) distinct mem
      exact ⟨⟨rfl, rfl, rfl, rfl, rfl,
          fun home => leaving_replace (p := { p with busy := p.busy + 1 }) home _⟩,
        .recounted true hthere hpersistent huncounted (hreplace _ rfl) rfl rfl rfl⟩
  | @ends w outcome mem step =>
      obtain ⟨hdue, task, hbusy⟩ := of_finish?_eq step
      rw [finish?_eq hbusy hdue outcome, Option.some.injEq] at step
      subst step
      obtain ⟨front, back, hthere, hreplace, hforget⟩ :=
        exists_place (p := p.note (.ended w task outcome)) distinct mem
      split
      · next htemporary =>
          refine ⟨⟨rfl, rfl, rfl, rfl, rfl, fun home => leaving_forget home _⟩,
            .ended hthere hbusy ?_ rfl rfl rfl⟩
          rw [htemporary, if_pos rfl, List.append_nil]
          exact hforget
      · next hpersistent =>
          refine ⟨⟨rfl, rfl, rfl, rfl, rfl, fun home => leaving_replace home _⟩,
            .ended hthere hbusy ?_ rfl rfl rfl⟩
          rw [if_neg hpersistent, List.append_assoc]
          exact hreplace _ rfl
  | @countsOut w mem step =>
      obtain ⟨hpersistent, _, hcounted, rfl⟩ := countOut?_eq step
      obtain ⟨front, back, hthere, hreplace, _⟩ :=
        exists_place (p := { p with busy := p.busy - 1 }) distinct mem
      exact ⟨⟨rfl, rfl, rfl, rfl, rfl,
          fun home => leaving_replace (p := { p with busy := p.busy - 1 }) home _⟩,
        .recounted false hthere hpersistent hcounted (hreplace _ rfl) rfl rfl rfl⟩
  | @exits w mem step =>
      obtain ⟨hidle, huncounted, hstopping, rfl⟩ := exit?_eq step
      obtain ⟨front, back, hthere, _, hforget⟩ := exists_place distinct mem
      exact ⟨⟨rfl, rfl, rfl, rfl, rfl, fun home => leaving_forget home _⟩,
        .exited hthere hidle huncounted hstopping hforget rfl rfl rfl⟩

/-! ### What a submission does -/

/-- The temporary worker that is made for a task. -/
def temporaryFor (p : Pool α) (task : PoolTask α) : Worker α :=
  ⟨p.nextWorker, true, false, some task, false⟩

/-- What comes of a task that is taken, with the worker that is made for it: it waits, or a
temporary worker starts it at once. -/
inductive Accepted (p : Pool α) (task : PoolTask α) (force : Bool) (q : Pool α) :
    Option (Worker α) → Prop
  | queued (unforced : force = false) (waiting : q.queue = task.enqueue p.queue)
      (workers : q.workers = p.workers) (journal : q.journal = p.journal)
      (nextWorker : q.nextWorker = p.nextWorker) : Accepted p task force q none
  | spawned (why : force = true ∨ p.overflow = .spawn) (waiting : q.queue = p.queue)
      (workers : q.workers = p.workers ++ [p.temporaryFor task])
      (journal : q.journal = p.journal ++ [.started (p.temporaryFor task) task])
      (nextWorker : q.nextWorker = p.nextWorker + 1) :
      Accepted p task force q (some (p.temporaryFor task))

/-- What taking a task leaves alone, but for the numbers it takes. -/
structure Takes (p q : Pool α) : Prop where
  overflow : q.overflow = p.overflow
  size : q.size = p.size
  busy : q.busy = p.busy
  leaving : q.leaving = p.leaving
  accepting : p.shutDown = false
  shutDown : q.shutDown = p.shutDown
  nextSequence : q.nextSequence = p.nextSequence + 1

theorem submit_accepted {seen : Nat} {force : Bool} {worker : Option (Worker α)}
    (h : p.submitSeeing seen task force = .ok (q, worker)) :
    p.Takes q ∧ p.Accepted { task with sequence := p.nextSequence } force q worker := by
  unfold submitSeeing at h
  split at h
  · cases h
  · next hopen =>
      have haccepting : p.shutDown = false := by simpa using hopen
      dsimp only at h
      split at h
      · next hspawn =>
          cases h
          have hwhy : force = true ∨ p.overflow = .spawn := by
            rcases Bool.or_eq_true_iff.mp hspawn with hforce | hbusy
            · exact .inl hforce
            · simp only [overflows, Bool.and_eq_true, beq_iff_eq] at hbusy
              exact .inr hbusy.2
          exact ⟨⟨rfl, rfl, rfl, rfl, haccepting, rfl, rfl⟩, .spawned hwhy rfl rfl rfl rfl⟩
      · next hwaits =>
          cases h
          have hunforced : force = false := by
            cases force with
            | false => rfl
            | true => exact absurd rfl hwaits
          exact ⟨⟨rfl, rfl, rfl, rfl, haccepting, rfl, rfl⟩, .queued hunforced rfl rfl rfl rfl⟩

/-- An open pool takes every task. -/
theorem submit_of_accepting (h : p.shutDown = false) (task : PoolTask α) (force : Bool) :
    ∃ q worker, p.submit task force = .ok (q, worker) := by
  unfold submit submitSeeing
  rw [if_neg (by simp [h])]
  dsimp only
  split <;> exact ⟨_, _, rfl⟩

/-! ### What holds at every moment -/

/-- A pool in which everything is in its place. -/
structure Sound (p : Pool α) : Prop where
  sorted : PoolTask.Sorted p.queue
  placed : (p.tasks.map PoolTask.sequence).Perm (List.range p.nextSequence)
  underway : p.starts.Perm (p.running ++ p.ends)
  distinct : (p.present.map Worker.number).Nodup
  numbered : ∀ w ∈ p.present, w.number < p.nextWorker
  emptied : p.shutDown = true → p.queue = []

theorem starts_of_journal {activities : List (Activity α)}
    (h : q.journal = p.journal ++ activities) :
    q.starts = p.starts ++ activities.filterMap Activity.started? := by
  rw [starts, h, List.filterMap_append]
  rfl

theorem ends_of_journal {activities : List (Activity α)}
    (h : q.journal = p.journal ++ activities) :
    q.ends = p.ends ++ activities.filterMap Activity.ended? := by
  rw [ends, h, List.filterMap_append]
  rfl

theorem drops_of_journal {activities : List (Activity α)}
    (h : q.journal = p.journal ++ activities) :
    q.drops = p.drops ++ activities.filterMap Activity.dropped? := by
  rw [drops, h, List.filterMap_append]
  rfl

theorem running_of_present {front back : List (Worker α)} (h : p.present = front ++ w :: back) :
    p.running = front.filterMap Worker.running ++ w.running.toList ++
      back.filterMap Worker.running := by
  rw [running, h, List.filterMap_append, List.append_assoc]
  cases hw : w.running with
  | none => rw [List.filterMap_cons_none hw, Option.toList_none, List.nil_append]
  | some task => rw [List.filterMap_cons_some hw, Option.toList_some, List.singleton_append]

/-- A step of a worker is told of once at most, and drops nothing. -/
theorem Worked.exists_journal (h : p.Worked q) : ∃ activities, q.journal = p.journal ++ activities ∧
    activities.filterMap Activity.dropped? = [] := by
  cases h with
  | began _ _ _ _ _ _ journal _ => exact ⟨_, journal, rfl⟩
  | recounted _ _ _ _ _ _ journal _ => exact ⟨[], journal.trans (List.append_nil _).symm, rfl⟩
  | ended _ _ _ _ journal _ => exact ⟨_, journal, rfl⟩
  | exited _ _ _ _ _ _ journal _ => exact ⟨_, journal, rfl⟩

/-- Nothing that happened is forgotten. -/
theorem Worked.journal_prefix (h : p.Worked q) : p.journal <+: q.journal := by
  obtain ⟨activities, hjournal, _⟩ := h.exists_journal
  exact ⟨activities, hjournal.symm⟩

/-- Workers drop nothing. -/
theorem Worked.drops_eq (h : p.Worked q) : q.drops = p.drops := by
  obtain ⟨activities, hjournal, hnone⟩ := h.exists_journal
  rw [drops_of_journal hjournal, hnone, List.append_nil]

/-- Work moves tasks on and loses none. -/
theorem Worked.tasks_perm (h : p.Worked q) : q.tasks.Perm p.tasks := by
  rw [tasks, tasks, h.drops_eq]
  cases h with
  | @began front back w task _ _ _ _ _ waiting journal _ =>
      have hstarts : q.starts = p.starts ++ [task] := starts_of_journal journal
      rw [hstarts, waiting]
      simp only [List.append_assoc, List.cons_append, List.nil_append]
      rw [← List.append_assoc, ← List.append_assoc]
      exact List.perm_middle
  | recounted _ _ _ _ _ waiting journal _ => rw [starts, starts, journal, waiting]
  | ended _ _ _ waiting journal _ =>
      have hstarts : q.starts = p.starts := (starts_of_journal journal).trans (List.append_nil _)
      rw [hstarts, waiting]
  | exited _ _ _ _ _ waiting journal _ =>
      have hstarts : q.starts = p.starts := (starts_of_journal journal).trans (List.append_nil _)
      rw [hstarts, waiting]

/-- No worker comes, and those that stay change nothing but what they are at. -/
theorem Worked.map_sublist {β : Type} {f : Worker α → β}
    (blind : ∀ (w : Worker α) running counted, f { w with running, counted } = f w)
    (h : p.Worked q) : (q.present.map f).Sublist (p.present.map f) := by
  cases h with
  | @began front back w task there _ _ _ present _ _ _ =>
      have hsame : f { w with running := some task } = f w := blind w (some task) w.counted
      rw [present, there]
      simp [hsame]
  | @recounted front back w counted there _ _ present _ _ _ =>
      have hsame : f { w with counted } = f w := blind w w.running counted
      rw [present, there]
      simp [hsame]
  | @ended front back w task outcome there _ present _ _ _ =>
      have hsame : f { w with running := none } = f w := blind w none w.counted
      rw [present, there]
      split
      · rw [List.append_nil]
        exact (List.Sublist.append_left (List.sublist_cons_self w back) front).map _
      · simp [hsame]
  | @exited front back w there _ _ _ present _ _ _ =>
      rw [present, there]
      exact (List.Sublist.append_left (List.sublist_cons_self w back) front).map _

/-- Workers keep their numbers. -/
theorem Worked.numbers_sublist (h : p.Worked q) :
    (q.present.map Worker.number).Sublist (p.present.map Worker.number) :=
  h.map_sublist fun _ _ _ => rfl

theorem Worked.underway (h : p.Worked q) (hp : p.starts.Perm (p.running ++ p.ends)) :
    q.starts.Perm (q.running ++ q.ends) := by
  cases h with
  | @began front back w task there idle _ _ present _ journal _ =>
      have hstarts : q.starts = p.starts ++ [task] := starts_of_journal journal
      have hends : q.ends = p.ends := (ends_of_journal journal).trans (List.append_nil _)
      have hafter := running_of_present present
      rw [running_of_present there, idle, Option.toList_none, List.append_nil] at hp
      rw [hstarts, hends, hafter, Option.toList_some]
      refine (List.perm_append_singleton task p.starts).trans ((hp.cons task).trans ?_)
      simp only [List.append_assoc, List.singleton_append]
      exact List.perm_middle.symm
  | recounted _ there _ _ present _ journal _ =>
      have hrunning : q.running = p.running :=
        (running_of_present present).trans (running_of_present there).symm
      rw [starts, ends, journal, hrunning]
      exact hp
  | @ended front back w task outcome there busy present _ journal _ =>
      have hstarts : q.starts = p.starts := (starts_of_journal journal).trans (List.append_nil _)
      have hends : q.ends = p.ends ++ [task] := ends_of_journal journal
      have hafter : q.running = front.filterMap Worker.running ++ back.filterMap Worker.running := by
        rw [running, present]
        split <;> simp
      rw [running_of_present there, busy, Option.toList_some] at hp
      rw [hstarts, hends, hafter]
      have hlast := (List.perm_append_singleton task (back.filterMap Worker.running ++ p.ends)).symm
      simp only [List.append_assoc, List.singleton_append] at hp hlast ⊢
      exact hp.trans (hlast.append_left _)
  | @exited front back w there idle _ _ present _ journal _ =>
      have hstarts : q.starts = p.starts := (starts_of_journal journal).trans (List.append_nil _)
      have hends : q.ends = p.ends := (ends_of_journal journal).trans (List.append_nil _)
      rw [running_of_present there, idle, Option.toList_none, List.append_nil] at hp
      rw [hstarts, hends, running, present, List.filterMap_append]
      exact hp

/-- What waits after a step of a worker waited before. -/
theorem Worked.queue_suffix (h : p.Worked q) : q.queue <:+ p.queue := by
  cases h with
  | @began _ _ _ task _ _ _ _ _ waiting _ _ => exact ⟨[task], waiting.symm⟩
  | recounted _ _ _ _ _ waiting _ _ => exact waiting ▸ List.suffix_rfl
  | ended _ _ _ waiting _ _ => exact waiting ▸ List.suffix_rfl
  | exited _ _ _ _ _ waiting _ _ => exact waiting ▸ List.suffix_rfl

theorem number_lt_of_subset {bound : Nat} {ws vs : List (Worker α)}
    (given : ∀ v ∈ vs, v.number < bound)
    (numbers : ws.map Worker.number ⊆ vs.map Worker.number) : ∀ w ∈ ws, w.number < bound := by
  intro w hw
  obtain ⟨v, hv, heq⟩ := List.mem_map.mp (numbers (List.mem_map_of_mem hw))
  exact heq ▸ given v hv

theorem Sound.worked (hp : p.Sound) (steady : p.Steady q) (h : p.Worked q) : q.Sound where
  sorted := hp.sorted.sublist h.queue_suffix.sublist
  placed := by
    rw [steady.nextSequence]
    exact (h.tasks_perm.map _).trans hp.placed
  underway := h.underway hp.underway
  distinct := hp.distinct.sublist h.numbers_sublist
  numbered := by
    rw [steady.nextWorker]
    exact number_lt_of_subset hp.numbered h.numbers_sublist.subset
  emptied := by
    intro hclosed
    rw [steady.shutDown] at hclosed
    have hsuffix := h.queue_suffix
    rw [hp.emptied hclosed] at hsuffix
    exact List.suffix_nil.mp hsuffix

theorem Sound.works (hp : p.Sound) (h : p.Works q) : q.Sound := by
  obtain ⟨hsteady, hworked⟩ := h.worked hp.distinct
  exact hp.worked hsteady hworked

theorem Sound.sequence_lt (hp : p.Sound) (h : task ∈ p.tasks) : task.sequence < p.nextSequence :=
  List.mem_range.mp (hp.placed.mem_iff.mp (List.mem_map_of_mem h))

theorem Sound.sequence_lt_of_starts (hp : p.Sound) (h : task ∈ p.starts) :
    task.sequence < p.nextSequence :=
  hp.sequence_lt (List.mem_append_left _ (List.mem_append_right _ h))

theorem mem_starts_of_started (h : .started w task ∈ p.journal) : task ∈ p.starts :=
  List.mem_filterMap.mpr ⟨_, h, rfl⟩

section

variable {force : Bool} {worker : Option (Worker α)}

theorem Accepted.journal_prefix (h : p.Accepted task force q worker) : p.journal <+: q.journal := by
  cases h with
  | queued _ _ _ journal _ => exact journal ▸ List.prefix_rfl
  | spawned _ _ _ journal _ => exact ⟨_, journal.symm⟩

theorem Accepted.drops_eq (h : p.Accepted task force q worker) : q.drops = p.drops := by
  cases h with
  | queued _ _ _ journal _ => rw [drops, drops, journal]
  | spawned _ _ _ journal _ => exact (drops_of_journal journal).trans (List.append_nil _)

theorem Takes.present_eq (h : p.Takes q) (workers : q.workers = p.workers) :
    q.present = p.present := by
  rw [present, present, workers, h.leaving]

theorem Takes.present_concat (h : p.Takes q) {w : Worker α}
    (workers : q.workers = p.workers ++ [w]) :
    q.present = p.workers ++ w :: p.leaving := by
  rw [present, workers, h.leaving, List.append_assoc, List.singleton_append]

/-- A task that is taken is one more. -/
theorem Accepted.tasks_perm (h : p.Accepted task force q worker) :
    q.tasks.Perm (task :: p.tasks) := by
  rw [tasks, tasks, h.drops_eq]
  cases h with
  | queued _ waiting _ journal _ =>
      rw [starts, starts, journal, waiting]
      exact ((task.enqueue_perm p.queue).append_right _).append_right _
  | spawned _ waiting _ journal _ =>
      have hstarts : q.starts = p.starts ++ [task] := starts_of_journal journal
      rw [hstarts, waiting]
      simp only [List.append_assoc, List.cons_append, List.nil_append]
      rw [← List.append_assoc, ← List.append_assoc]
      exact List.perm_middle

theorem Accepted.underway (h : p.Accepted task force q worker) (takes : p.Takes q)
    (hp : p.starts.Perm (p.running ++ p.ends)) : q.starts.Perm (q.running ++ q.ends) := by
  cases h with
  | queued _ _ workers journal _ =>
      rw [starts, ends, running, journal, takes.present_eq workers]
      exact hp
  | spawned _ _ workers journal _ =>
      have hends : q.ends = p.ends := (ends_of_journal journal).trans (List.append_nil _)
      have hbefore : p.running = p.workers.filterMap Worker.running ++
          p.leaving.filterMap Worker.running := List.filterMap_append
      have hunderway := hp.cons task
      rw [hbefore] at hunderway
      have hrunning := running_of_present (takes.present_concat workers)
      rw [temporaryFor, Option.toList_some] at hrunning
      rw [starts_of_journal journal, hends, hrunning]
      refine (List.perm_append_singleton task p.starts).trans (hunderway.trans ?_)
      simp only [List.append_assoc, List.singleton_append]
      exact List.perm_middle.symm

/-- A new worker takes the next number, which no other one has. -/
theorem Sound.hired (hp : p.Sound) (new : w.number = p.nextWorker)
    (present : q.present = p.workers ++ w :: p.leaving) (next : q.nextWorker = p.nextWorker + 1) :
    (q.present.map Worker.number).Nodup ∧ ∀ v ∈ q.present, v.number < q.nextWorker := by
  have hold : ∀ v ∈ p.workers ++ p.leaving, v.number < p.nextWorker := hp.numbered
  rw [present, next]
  constructor
  · rw [List.map_append, List.map_cons, List.nodup_middle, ← List.map_append]
    refine List.nodup_cons.mpr ⟨?_, hp.distinct⟩
    intro hmem
    obtain ⟨v, hv, heq⟩ := List.mem_map.mp hmem
    exact Nat.ne_of_lt (hold v hv) (heq.trans new)
  · intro v hv
    rcases List.mem_cons.mp (List.perm_middle.mem_iff.mp hv) with rfl | hv
    · exact new ▸ Nat.lt_succ_self _
    · exact Nat.lt_succ_of_lt (hold v hv)

theorem Sound.accepted (hp : p.Sound) (takes : p.Takes q) (new : task.sequence = p.nextSequence)
    (h : p.Accepted task force q worker) : q.Sound where
  sorted := by
    cases h with
    | queued _ waiting _ _ _ =>
        rw [waiting]
        apply hp.sorted.enqueue
        intro t ht heq
        have htaken : t ∈ p.tasks := List.mem_append_left _ (List.mem_append_left _ ht)
        have hlt := hp.sequence_lt htaken
        omega
    | spawned _ waiting _ _ _ => exact waiting ▸ hp.sorted
  placed := by
    rw [takes.nextSequence, List.range_succ, ← new]
    have hperm := h.tasks_perm.map PoolTask.sequence
    exact hperm.trans ((hp.placed.cons _).trans (new ▸ (List.perm_append_singleton _ _).symm))
  underway := h.underway takes hp.underway
  distinct := by
    cases h with
    | queued _ _ workers _ _ => exact takes.present_eq workers ▸ hp.distinct
    | spawned _ _ workers _ nextWorker =>
        exact (hp.hired rfl (takes.present_concat workers) nextWorker).1
  numbered := by
    cases h with
    | queued _ _ workers _ nextWorker =>
        rw [takes.present_eq workers, nextWorker]
        exact hp.numbered
    | spawned _ _ workers _ nextWorker =>
        exact (hp.hired rfl (takes.present_concat workers) nextWorker).2
  emptied := by
    intro hclosed
    rw [takes.shutDown, takes.accepting] at hclosed
    cases hclosed

theorem Sound.submit {seen : Nat} (hp : p.Sound)
    (h : p.submitSeeing seen task force = .ok (q, worker)) : q.Sound := by
  obtain ⟨htakes, haccepted⟩ := submit_accepted h
  exact hp.accepted htakes rfl haccepted

end

/-! ### What an operator does -/

theorem running_close (p : Pool α) : p.close.running.Perm p.running := by
  have hsame : (p.workers.map fun w => { w with stopping := true }).filterMap Worker.running =
      p.workers.filterMap Worker.running := by
    rw [List.filterMap_map]
    rfl
  rw [running, running, present, present, close]
  simp only [List.nil_append, List.filterMap_append, hsame]
  exact List.perm_append_comm

theorem starts_close (p : Pool α) : p.close.starts = p.starts := by
  rw [starts_of_journal (q := p.close) rfl, List.filterMap_map]
  simp [Function.comp_def, Activity.started?]

theorem ends_close (p : Pool α) : p.close.ends = p.ends := by
  rw [ends_of_journal (q := p.close) rfl, List.filterMap_map]
  simp [Function.comp_def, Activity.ended?]

/-- What waits when a pool is closed is dropped. -/
theorem drops_close (p : Pool α) : p.close.drops = p.drops ++ p.queue := by
  rw [drops_of_journal (q := p.close) rfl, List.filterMap_map]
  simp [Function.comp_def, Activity.dropped?]

theorem numbers_close (p : Pool α) :
    (p.close.present.map Worker.number).Perm (p.present.map Worker.number) := by
  have hsame : (p.workers.map fun w => { w with stopping := true }).map Worker.number =
      p.workers.map Worker.number := by
    rw [List.map_map]
    rfl
  rw [present, present, close]
  simp only [List.nil_append, List.map_append, hsame]
  exact List.perm_append_comm

theorem tasks_close_perm (p : Pool α) : p.close.tasks.Perm p.tasks := by
  have hnone : p.close.queue = [] := rfl
  rw [tasks, tasks, starts_close, drops_close, hnone, List.nil_append, ← List.append_assoc,
    List.append_assoc p.queue]
  exact List.perm_append_comm

theorem Sound.close (hp : p.Sound) : p.close.Sound where
  sorted := List.Pairwise.nil
  placed := ((tasks_close_perm p).map _).trans hp.placed
  underway := by
    rw [starts_close, ends_close]
    exact hp.underway.trans ((running_close p).symm.append_right _)
  distinct := (numbers_close p).nodup_iff.mpr hp.distinct
  numbered := number_lt_of_subset hp.numbered (numbers_close p).subset
  emptied := fun _ => rfl

/-- A change of idle workers, and of which of them are to go, moves no task. -/
theorem Sound.staffed (hp : p.Sound) (queue : q.queue = p.queue) (journal : q.journal = p.journal)
    (shutDown : q.shutDown = p.shutDown) (nextSequence : q.nextSequence = p.nextSequence)
    (running : q.running = p.running) (distinct : (q.present.map Worker.number).Nodup)
    (numbered : ∀ w ∈ q.present, w.number < q.nextWorker) : q.Sound where
  sorted := queue ▸ hp.sorted
  placed := by
    rw [tasks, starts, drops, queue, journal, nextSequence]
    exact hp.placed
  underway := by
    rw [starts, ends, journal, running]
    exact hp.underway
  distinct := distinct
  numbered := numbered
  emptied := by
    rw [shutDown, queue]
    exact hp.emptied

theorem Sound.spawn (hp : p.Sound) : (p.spawn false none).Sound := by
  have hpresent : (p.spawn false none).present =
      p.workers ++ (⟨p.nextWorker, false, false, none, false⟩ : Worker α) :: p.leaving := by
    simp [present, Pool.spawn]
  obtain ⟨hdistinct, hnumbered⟩ := hp.hired rfl hpresent rfl
  refine hp.staffed rfl rfl rfl rfl ?_ hdistinct hnumbered
  rw [running_of_present hpresent, running, present]
  simp

theorem Sound.spawnPersistent (hp : p.Sound) (count : Nat) : (p.spawnPersistent count).Sound := by
  induction count with
  | zero => exact hp
  | succ count ih => exact ih.spawn

theorem Sound.create (size : Nat) (overflow : Overflow) (debug : DebugOptions) :
    (create size overflow debug : Pool α).Sound := by
  apply Sound.spawnPersistent
  exact ⟨List.Pairwise.nil, .refl _, .refl _, List.nodup_nil, by simp [present], fun _ => rfl⟩

/-- Telling workers to stop changes nothing else of them. -/
theorem map_stopSurplus {β : Type} {f : Worker α → β}
    (blind : ∀ (w : Worker α) stopping, f { w with stopping } = f w) (keep : Nat)
    (ws : List (Worker α)) : (stopSurplus keep ws).map f = ws.map f := by
  induction ws generalizing keep with
  | nil => rfl
  | cons w rest ih =>
      unfold stopSurplus
      split
      · rw [List.map_cons, List.map_cons, ih]
      · cases keep with
        | zero => rw [List.map_cons, List.map_cons, ih, blind]
        | succ keep => rw [List.map_cons, List.map_cons, ih]

theorem Sound.resize (hp : p.Sound) (size : Nat) : (p.resize size).Sound := by
  unfold Pool.resize
  split
  · have hsized : ({ p with size } : Pool α).Sound :=
      hp.staffed rfl rfl rfl rfl rfl hp.distinct hp.numbered
    exact hsized.spawnPersistent _
  · have hnumbers : (stopSurplus size p.workers).map Worker.number =
        p.workers.map Worker.number := map_stopSurplus (fun _ _ => rfl) size p.workers
    have hrunning : (stopSurplus size p.workers).map Worker.running =
        p.workers.map Worker.running := map_stopSurplus (fun _ _ => rfl) size p.workers
    have hpresent : ({ p with size, workers := stopSurplus size p.workers } : Pool α).present.map
        Worker.number = p.present.map Worker.number := by
      rw [present, present, List.map_append, List.map_append, hnumbers]
    refine hp.staffed rfl rfl rfl rfl ?_ (hpresent ▸ hp.distinct)
      (number_lt_of_subset hp.numbered fun _ hnumber => hpresent ▸ hnumber)
    have hbusy := congrArg (List.filterMap id) hrunning
    rw [List.filterMap_map, List.filterMap_map] at hbusy
    rw [running, running, present, present, List.filterMap_append, List.filterMap_append]
    exact congrArg (· ++ p.leaving.filterMap Worker.running) hbusy

end Pool

end PluginHost
