import PluginHost.Proofs.Pool.Runs

/-!
What it takes for tasks to wait behind busy workers in a pool that makes
temporary ones. A task that is submitted when all persistent workers are counted
as busy never waits. One that finds a worker that is not counted does, be it idle
or about to be counted for a task that it took, even if as many tasks wait already
as workers have none; then some of them may still wait once all workers are at work.
-/
namespace PluginHost

namespace Worker

variable {α : Type}

def persistent (w : Worker α) : Bool := !w.temporary

/-- A persistent worker that is executing a task: it is counted as busy from when it begins with it
until it is through. -/
def executing (w : Worker α) : Bool := !w.temporary && w.counted

/-- A persistent worker without a task. -/
def vacant (w : Worker α) : Bool := !w.temporary && w.running.isNone

end Worker

namespace Pool

variable {α : Type} {start p q : Pool α} {past : List (Pool α)} {task : PoolTask α}
variable {seen size : Nat} {force : Bool} {worker : Option (Worker α)}

/-- How many persistent workers are executing a task. -/
def executing (p : Pool α) : Nat := p.present.countP Worker.executing

/-- How many persistent workers have no task. -/
def vacant (p : Pool α) : Nat := p.present.countP Worker.vacant

/-! ### The counter -/

theorem countP_exchange {front back middle : List (Worker α)} {w : Worker α}
    (there : p.present = front ++ w :: back) (after : q.present = front ++ middle ++ back)
    (pick : Worker α → Bool) :
    q.present.countP pick + [w].countP pick = p.present.countP pick + middle.countP pick := by
  have hsplit : front ++ w :: back = front ++ ([w] ++ back) := rfl
  rw [there, after, hsplit]
  simp only [List.countP_append]
  omega

/-- A persistent worker that turns into another one changes a count by what it makes of itself. -/
theorem countP_replaced {front back : List (Worker α)} {v w : Worker α}
    (there : p.present = front ++ w :: back) (after : q.present = front ++ v :: back)
    (pick : Worker α → Bool) :
    q.present.countP pick + [w].countP pick = p.present.countP pick + [v].countP pick :=
  countP_exchange there (after.trans (List.append_cons front v back)) pick

/-- Workers keep the counter: it tells how many of them are counted. -/
theorem Worked.counted (h : p.Worked q) (counted : p.busy = p.executing) :
    q.busy = q.executing := by
  rw [executing] at *
  cases h with
  | @began front back w task there _ _ _ present _ _ counter =>
      have hcount := countP_replaced there present Worker.executing
      have hsame : [{ w with running := some task }].countP Worker.executing =
          [w].countP Worker.executing := rfl
      omega
  | @recounted front back w counts there persistent due present _ _ counter =>
      have hcount := countP_replaced there present Worker.executing
      cases counts with
      | true =>
          have hbefore : [w].countP Worker.executing = 0 := by simp [Worker.executing, due]
          have hafter : [{ w with counted := true }].countP Worker.executing = 1 := by
            simp [Worker.executing, persistent]
          rw [if_pos rfl] at counter
          omega
      | false =>
          have hbefore : [w].countP Worker.executing = 1 := by
            simp [Worker.executing, persistent, due]
          have hafter : [{ w with counted := false }].countP Worker.executing = 0 := by
            simp [Worker.executing]
          rw [if_neg (by simp)] at counter
          omega
  | @ended front back w task outcome there _ present _ _ counter =>
      have hcount := countP_exchange there present Worker.executing
      split at hcount
      · next htemporary =>
          have hbefore : [w].countP Worker.executing = 0 := by simp [Worker.executing, htemporary]
          rw [List.countP_nil] at hcount
          omega
      · have hsame : [{ w with running := none }].countP Worker.executing =
            [w].countP Worker.executing := rfl
        omega
  | @exited front back w there _ uncounted _ present _ _ counter =>
      have hafter : q.present = front ++ [] ++ back := by rw [List.append_nil, present]
      have hcount := countP_exchange there hafter Worker.executing
      have hbefore : [w].countP Worker.executing = 0 := by simp [Worker.executing, uncounted]
      rw [List.countP_nil] at hcount
      omega

/-- Workers do not change how many there are of a kind of persistent workers, as long as none of
that kind was told to stop. -/
theorem Worked.countP_eq {pick : Worker α → Bool} (h : p.Worked q)
    (blind : ∀ (w : Worker α) running counted, pick { w with running, counted } = pick w)
    (persistent : ∀ w : Worker α, w.temporary = true → pick w = false)
    (staying : ∀ w ∈ p.present, w.stopping = true → pick w = false) :
    q.present.countP pick = p.present.countP pick := by
  cases h with
  | @began front back w task there _ _ _ present _ _ _ =>
      have hsame : pick { w with running := some task } = pick w := blind w (some task) w.counted
      simp [there, present, List.countP_cons, hsame]
  | @recounted front back w counts there _ _ present _ _ _ =>
      have hsame : pick { w with counted := counts } = pick w := blind w w.running counts
      simp [there, present, List.countP_cons, hsame]
  | @ended front back w task outcome there _ present _ _ _ =>
      have hsame : pick { w with running := none } = pick w := blind w none w.counted
      rw [there, present]
      split
      · next htemporary => simp [persistent w htemporary]
      · simp [List.countP_cons, hsame]
  | @exited front back w there _ _ stopping present _ _ _ =>
      have hmem : w ∈ p.present := there ▸ List.mem_append_right _ List.mem_cons_self
      have hnot := staying w hmem stopping
      simp [there, present, hnot]

/-- Submissions do not change how many there are of a kind of persistent workers. -/
theorem Accepted.countP_eq {pick : Worker α → Bool} (h : p.Accepted task force q worker)
    (takes : p.Takes q) (persistent : ∀ w : Worker α, w.temporary = true → pick w = false) :
    q.present.countP pick = p.present.countP pick := by
  cases h with
  | queued _ _ workers _ _ => rw [takes.present_eq workers]
  | spawned _ _ workers _ _ =>
      have hnot := persistent (p.temporaryFor task) rfl
      rw [takes.present_concat workers, present, List.countP_append, List.countP_append,
        List.countP_cons_of_neg (by simp [hnot])]

/-! ### Submissions to busy workers -/

theorem submitSeeing_of_overflows (opened : p.shutDown = false) (full : p.overflows seen = true)
    (task : PoolTask α) (force : Bool) : ∃ q w, p.submitSeeing seen task force = .ok (q, some w) ∧
      w ∈ q.workers ∧ w.temporary = true ∧
      w.running = some { task with sequence := p.nextSequence } ∧ q.queue = p.queue := by
  unfold submitSeeing
  rw [if_neg (by simp [opened])]
  dsimp only
  have hfull : (force || overflows { p with nextSequence := p.nextSequence + 1 } seen) = true :=
    Bool.or_eq_true_iff.mpr (.inr full)
  rw [if_pos hfull]
  exact ⟨_, _, rfl, List.mem_append_right _ List.mem_cons_self, rfl, rfl, rfl⟩

/-- A task waits only if fewer workers were seen busy than there should be. -/
theorem seen_lt_of_waits (opened : p.shutDown = false) (spawns : p.overflow = .spawn)
    (h : p.submitSeeing seen task force = .ok (q, none)) : seen < p.size := by
  by_contra hfull
  have hoverflows : p.overflows seen = true := by
    simp [overflows, spawns, Nat.le_of_not_lt hfull]
  obtain ⟨_, _, hspawned, _⟩ := submitSeeing_of_overflows opened hoverflows task force
  rw [h] at hspawned
  cases hspawned

/-! ### Staffed pools -/

/-- An open pool that makes temporary workers and has as many persistent ones as it should have. Its
counter tells how many of them are counted as busy. -/
structure FullyStaffed (size : Nat) (p : Pool α) : Prop where
  accepting : p.shutDown = false
  overflow : p.overflow = .spawn
  sized : p.size = size
  staying : ∀ w ∈ p.present, w.stopping = false
  counted : p.busy = p.executing
  complete : p.present.countP Worker.persistent = size

namespace FullyStaffed

theorem create (size : Nat) (debug : DebugOptions) :
    FullyStaffed size (create size .spawn debug : Pool α) := by
  have hpresent : (Pool.create size .spawn debug : Pool α).present =
      (unstaffed size .spawn debug).recruits size := by
    rw [create_eq]
    exact List.append_nil _
  rw [create_eq] at hpresent ⊢
  refine ⟨rfl, rfl, rfl, ?_, ?_, ?_⟩
  · intro w hw
    rw [hpresent] at hw
    obtain ⟨number, _, rfl⟩ := List.mem_map.mp hw
    rfl
  · rw [executing, hpresent]
    simp [unstaffed, recruits, List.countP_map, Function.comp_def, Worker.executing]
  · rw [hpresent]
    simp [recruits, List.countP_map, Function.comp_def, Worker.persistent]

theorem submit (h : p.FullyStaffed size) (step : p.submitSeeing seen task force = .ok (q, worker)) :
    q.FullyStaffed size := by
  obtain ⟨htakes, haccepted⟩ := submit_accepted step
  refine ⟨htakes.shutDown.trans h.accepting, htakes.overflow.trans h.overflow,
    htakes.size.trans h.sized, ?_, ?_, ?_⟩
  · intro w hw
    cases haccepted with
    | queued _ _ workers _ _ => exact h.staying w (htakes.present_eq workers ▸ hw)
    | spawned _ _ workers _ _ =>
        rw [htakes.present_concat workers, List.perm_middle.mem_iff] at hw
        rcases List.mem_cons.mp hw with rfl | hold
        · rfl
        · exact h.staying w hold
  · rw [htakes.busy, h.counted]
    exact (haccepted.countP_eq htakes fun w htemporary => by
      simp [Worker.executing, htemporary]).symm
  · exact (haccepted.countP_eq htakes fun w htemporary => by
      simp [Worker.persistent, htemporary]).trans h.complete

theorem works (hp : p.Sound) (h : p.FullyStaffed size) (step : p.Works q) :
    q.FullyStaffed size := by
  obtain ⟨hsteady, hworked⟩ := step.worked hp.distinct
  refine ⟨hsteady.shutDown.trans h.accepting, hsteady.overflow.trans h.overflow,
    hsteady.size.trans h.sized, ?_, hworked.counted h.counted, ?_⟩
  · intro w hw
    have hstays := hworked.map_sublist (f := Worker.stopping) fun _ _ _ => rfl
    obtain ⟨v, hv, hsame⟩ := List.mem_map.mp (hstays.mem (List.mem_map_of_mem hw))
    exact hsame ▸ h.staying v hv
  · refine (hworked.countP_eq (fun _ _ _ => rfl) (fun w htemporary => ?_) ?_).trans h.complete
    · simp [Worker.persistent, htemporary]
    · intro w hw hstopping
      rw [h.staying w hw] at hstopping
      cases hstopping

/-- When workers go on, tasks that wait do not become more than the workers without one. -/
theorem balance (hp : p.Sound) (h : p.FullyStaffed size) (step : p.Works q) :
    q.queue.length + p.vacant ≤ p.queue.length + q.vacant := by
  obtain ⟨_, hworked⟩ := step.worked hp.distinct
  rw [vacant, vacant]
  cases hworked with
  | @began front back w task there idle persistent _ present waiting _ _ =>
      have hcount := countP_replaced there present Worker.vacant
      have hbefore : [w].countP Worker.vacant = 1 := by simp [Worker.vacant, persistent, idle]
      have hafter : [{ w with running := some task }].countP Worker.vacant = 0 := by
        simp [Worker.vacant]
      rw [waiting, List.length_cons]
      omega
  | @recounted front back w counts there _ _ present waiting _ _ =>
      have hcount := countP_replaced there present Worker.vacant
      have hsame : [{ w with counted := counts }].countP Worker.vacant =
          [w].countP Worker.vacant := rfl
      rw [waiting]
      omega
  | @ended front back w task outcome there busy present waiting _ _ =>
      have hcount := countP_exchange there present Worker.vacant
      have hbefore : [w].countP Worker.vacant = 0 := by simp [Worker.vacant, busy]
      rw [waiting]
      omega
  | @exited front back w there _ _ stopping _ _ _ _ =>
      have hstays := h.staying w (there ▸ List.mem_append_right _ List.mem_cons_self)
      rw [stopping] at hstays
      cases hstays

theorem busy_of_counted (h : p.FullyStaffed size)
    (busy : ∀ w ∈ p.present, w.temporary = false → w.counted = true) : p.busy = size := by
  rw [h.counted, ← h.complete, executing]
  refine List.countP_congr fun w hw => ?_
  simp only [Worker.executing, Worker.persistent, Bool.and_eq_true, Bool.not_eq_true',
    and_iff_left_iff_imp]
  exact busy w hw

theorem exists_uncounted (h : p.FullyStaffed size) (free : p.busy < size) :
    ∃ w ∈ p.present, w.temporary = false ∧ w.counted = false := by
  by_contra hnone
  push Not at hnone
  have hbusy := h.busy_of_counted fun w hw hpersistent => by
    simpa using hnone w hw hpersistent
  omega

end FullyStaffed

/-! ### Runs -/

/-- A run of an open pool, with the pools there were before. A submission goes by the counter as it
was at some moment of the run. -/
inductive Trace (start : Pool α) : List (Pool α) → Pool α → Prop
  | start : Trace start [] start
  | submit {past : List (Pool α)} {p q read : Pool α} {task : PoolTask α} {force : Bool}
      {worker : Option (Worker α)} (before : Trace start past p) (mem : read ∈ past ++ [p])
      (step : p.submitSeeing read.busy task force = .ok (q, worker)) : Trace start (past ++ [p]) q
  | work {past : List (Pool α)} {p q : Pool α} (before : Trace start past p) (step : p.Works q) :
      Trace start (past ++ [p]) q

/-- On the way some task was left to wait because a persistent worker was not counted as busy when
the counter was read, though no more workers were without a task than tasks waited already. -/
def CrowdedSubmission (past : List (Pool α)) : Prop :=
  ∃ front before after back read task, past = front ++ before :: after :: back ∧
    read ∈ front ++ [before] ∧ (∃ w ∈ read.present, w.temporary = false ∧ w.counted = false) ∧
    before.vacant ≤ before.queue.length ∧
    before.submitSeeing read.busy task false = .ok (after, none)

theorem CrowdedSubmission.concat (h : CrowdedSubmission past) (p : Pool α) :
    CrowdedSubmission (past ++ [p]) := by
  obtain ⟨front, before, after, back, read, task, rfl, hread⟩ := h
  exact ⟨front, before, after, back ++ [p], read, task, by simp, hread⟩

namespace Trace

variable {debug : DebugOptions}

theorem staffed (h : (create size .spawn debug).Trace past p) :
    ∀ q ∈ past ++ [p], q.Sound ∧ q.FullyStaffed size := by
  induction h with
  | start =>
      intro q hq
      cases List.mem_singleton.mp hq
      exact ⟨.create size .spawn debug, .create size debug⟩
  | submit _ _ step ih =>
      intro r hr
      rcases List.mem_append.mp hr with hpast | hlast
      · exact ih r hpast
      · cases List.mem_singleton.mp hlast
        obtain ⟨hsound, hstaffed⟩ := ih _ (List.mem_append_right _ List.mem_cons_self)
        exact ⟨hsound.submit step, hstaffed.submit step⟩
  | work _ step ih =>
      intro r hr
      rcases List.mem_append.mp hr with hpast | hlast
      · exact ih r hpast
      · cases List.mem_singleton.mp hlast
        obtain ⟨hsound, hstaffed⟩ := ih _ (List.mem_append_right _ List.mem_cons_self)
        exact ⟨hsound.works step, hstaffed.works hsound step⟩

theorem staffed_last (h : (create size .spawn debug).Trace past p) :
    p.Sound ∧ p.FullyStaffed size :=
  h.staffed p (List.mem_append_right _ List.mem_cons_self)

/-- As long as nothing was submitted to a crowded pool there is a worker without a task for each
task that waits. -/
theorem room (h : (create size .spawn debug).Trace past p) :
    p.queue.length ≤ p.vacant ∨ CrowdedSubmission (past ++ [p]) := by
  induction h with
  | start =>
      rw [create_eq]
      exact .inl (Nat.zero_le _)
  | @submit past p q read task force worker before mem step ih =>
      refine ih.elim (fun hroom => ?_) fun hcrowded => .inr (hcrowded.concat q)
      obtain ⟨htakes, haccepted⟩ := submit_accepted step
      have hvacant : q.vacant = p.vacant := haccepted.countP_eq htakes fun w htemporary => by
        simp [Worker.vacant, htemporary]
      cases haccepted with
      | spawned _ waiting _ _ _ =>
          rw [waiting, hvacant]
          exact .inl hroom
      | queued unforced waiting _ _ _ =>
          have hlonger : q.queue.length = p.queue.length + 1 := by
            rw [waiting]
            exact PoolTask.length_enqueue _ _
          by_cases hcrowded : p.vacant ≤ p.queue.length
          · subst unforced
            obtain ⟨_, hstaffed⟩ := before.staffed_last
            obtain ⟨_, hread⟩ := before.staffed read mem
            have hfree := seen_lt_of_waits hstaffed.accepting hstaffed.overflow step
            rw [hstaffed.sized] at hfree
            exact .inr ⟨past, p, q, [], read, task, by simp, mem, hread.exists_uncounted hfree,
              hcrowded, step⟩
          · exact .inl (by omega)
  | @work past p q before step ih =>
      refine ih.elim (fun hroom => .inl ?_) fun hcrowded => .inr (hcrowded.concat q)
      obtain ⟨hsound, hstaffed⟩ := before.staffed_last
      have hbalance := hstaffed.balance hsound step
      omega

end Trace

/-- A pool that makes temporary workers lets no task wait that finds all persistent workers counted
as busy. Where tasks wait behind workers that are all at work, some task was submitted before when
no more workers were without a task than tasks waited already, by a counter that left some worker
out. -/
theorem overflow_waits_only_if_crowded {debug : DebugOptions}
    (h : (create size .spawn debug).Trace past p) :
    ((∀ w ∈ p.present, w.temporary = false → w.counted = true) → ∀ task force, ∃ q w,
      p.submit task force = .ok (q, some w) ∧ w ∈ q.workers ∧ w.temporary = true ∧
        w.running = some { task with sequence := p.nextSequence } ∧ q.queue = p.queue) ∧
    ((∀ w ∈ p.present, w.temporary = false → w.running ≠ none) → p.queue ≠ [] →
      CrowdedSubmission (past ++ [p])) := by
  obtain ⟨_, hstaffed⟩ := h.staffed_last
  constructor
  · intro hbusy
    have hfull : p.overflows p.busy = true := by
      simp [overflows, hstaffed.overflow, hstaffed.sized, hstaffed.busy_of_counted hbusy]
    exact submitSeeing_of_overflows hstaffed.accepting hfull
  · intro hbusy hqueue
    have hnone : p.vacant = 0 := by
      rw [vacant, List.countP_eq_zero]
      intro w hw hvacant
      simp only [Worker.vacant, Bool.and_eq_true, Bool.not_eq_true', Option.isNone_iff_eq_none]
        at hvacant
      exact hbusy w hw hvacant.1 hvacant.2
    refine h.room.resolve_left ?_
    have hpositive := List.length_pos_iff.mpr hqueue
    omega

namespace OverflowWitness

/-- Some work. -/
def chore (name : String) : PoolTask Unit := ⟨0, .regular, none, name, ()⟩

/-- The only worker is at the first of two tasks, and the second one still waits. -/
def backlogged : Pool Unit :=
  { (create 1 .spawn .none : Pool Unit) with
    workers := [⟨0, false, false, some (chore "first"), true⟩]
    queue := [{ chore "second" with sequence := 1 }]
    busy := 1
    nextSequence := 2
    journal := [.started ⟨0, false, false, some (chore "first"), false⟩ (chore "first")] }

theorem counted_backlogged : ∀ w ∈ backlogged.present, w.temporary = false → w.counted = true := by
  intro w hw
  rw [List.mem_singleton.mp hw]
  exact fun _ => rfl

theorem running_backlogged : ∀ w ∈ backlogged.present, w.temporary = false → w.running ≠ none := by
  intro w hw
  rw [List.mem_singleton.mp hw]
  exact fun _ => nofun

/-- Tasks do wait behind workers that are all at work: both were submitted before the worker took
one. -/
theorem backlogged_waits : ¬ ∀ past (p : Pool Unit), (create 1 .spawn .none).Trace past p →
    p.shutDown = false → (∀ w ∈ p.present, w.temporary = false → w.counted = true) →
    (∀ w ∈ p.present, w.temporary = false → w.running ≠ none) → p.queue = [] := by
  intro h
  have hfirst := @Trace.submit Unit (create 1 .spawn .none) _ _ _ _ (chore "first") false none
    .start List.mem_cons_self rfl
  have hsecond := @Trace.submit Unit _ _ _ _ _ (chore "second") false none hfirst
    List.mem_cons_self rfl
  have htaken := hsecond.work (.takes (w := ⟨0, false, false, none, false⟩) List.mem_cons_self rfl)
  have hbacklogged := htaken.work (.countsIn (w := ⟨0, false, false, some (chore "first"), false⟩)
    (q := backlogged) List.mem_cons_self rfl)
  exact absurd (h _ backlogged hbacklogged rfl counted_backlogged running_backlogged)
    (by simp [backlogged])

/-- The second task may as well be submitted when the worker took the first one and is not counted
yet. -/
theorem backlogged_crowded : ∃ past, CrowdedSubmission (past ++ [backlogged]) ∧
    ∃ q w, backlogged.submit (chore "third") false = .ok (q, some w) ∧ w.temporary = true ∧
      q.queue = backlogged.queue := by
  have hfirst := @Trace.submit Unit (create 1 .spawn .none) _ _ _ _ (chore "first") false none
    .start List.mem_cons_self rfl
  have htaken := hfirst.work (.takes (w := ⟨0, false, false, none, false⟩) List.mem_cons_self rfl)
  have hsecond := @Trace.submit Unit _ _ _ _ _ (chore "second") false none htaken
    (List.mem_append_right _ List.mem_cons_self) rfl
  have hbacklogged := hsecond.work (.countsIn (w := ⟨0, false, false, some (chore "first"), false⟩)
    (q := backlogged) List.mem_cons_self rfl)
  obtain ⟨hstarts, hcrowded⟩ := overflow_waits_only_if_crowded hbacklogged
  obtain ⟨q, w, hsubmit, _, htemporary, _, hqueue⟩ :=
    hstarts counted_backlogged (chore "third") false
  exact ⟨_, hcrowded running_backlogged (by simp [backlogged]), q, w, hsubmit, htemporary, hqueue⟩

end OverflowWitness

end Pool

end PluginHost
