import Mathlib.Logic.Relation
import PluginHost.Proofs.Pool.Serving

/-!
What becomes of tasks when a pool is closed. What waits at that moment is
dropped and never starts; what was started by then runs to its end, if the
workers are waited for. Both happen to a task once.
-/
namespace PluginHost

namespace Pool

variable {α : Type} {p q r : Pool α} {tasks : List (PoolTask α)} {task : PoolTask α}

/-- A task was run, once and to its end. -/
structure Ran (p : Pool α) (task : PoolTask α) : Prop where
  ended : (p.ends.filter fun t => t.sequence = task.sequence) = [task]
  undropped : task ∉ p.drops

/-- A task was dropped, once, and is never run. -/
structure Lost (p : Pool α) (task : PoolTask α) : Prop where
  dropped : (p.drops.filter fun t => t.sequence = task.sequence) = [task]
  unstarted : task ∉ p.starts

/-- Numbers tell tasks apart. -/
theorem filter_of_distinct {l : List (PoolTask α)} (distinct : (l.map PoolTask.sequence).Nodup)
    (hmem : task ∈ l) : (l.filter fun t => t.sequence = task.sequence) = [task] := by
  induction l with
  | nil => cases hmem
  | cons first rest ih =>
      obtain ⟨hfirst, hrest⟩ := List.nodup_cons.mp distinct
      have hother : ∀ t ∈ rest, t.sequence ≠ first.sequence :=
        fun t ht heq => hfirst (heq ▸ List.mem_map_of_mem ht)
      rcases List.mem_cons.mp hmem with rfl | hbehind
      · rw [List.filter_cons_of_pos (by simp), List.filter_eq_nil_iff.mpr (by simpa using hother)]
      · rw [List.filter_cons_of_neg (by simpa using (hother task hbehind).symm)]
        exact ih hrest hbehind

namespace Sound

theorem distinct_tasks (hp : p.Sound) : (p.tasks.map PoolTask.sequence).Nodup :=
  hp.placed.nodup_iff.mpr List.nodup_range

/-- Nothing that was dropped is ever started. -/
theorem not_started_of_dropped (hp : p.Sound) (dropped : task ∈ p.drops) : task ∉ p.starts := by
  have hdistinct : p.tasks.Nodup := hp.distinct_tasks.of_map
  have hapart := (List.nodup_append.mp hdistinct).2.2
  exact fun started => hapart task (List.mem_append_right _ started) task dropped rfl

theorem lost (hp : p.Sound) (dropped : task ∈ p.drops) : p.Lost task where
  dropped := by
    have hdistinct := hp.distinct_tasks
    rw [Pool.tasks, List.map_append] at hdistinct
    exact filter_of_distinct (List.nodup_append.mp hdistinct).2.1 dropped
  unstarted := hp.not_started_of_dropped dropped

/-- Once no worker is there any more, everything that was started has ended. -/
theorem ran (hp : p.Sound) (gone : p.present = []) (started : task ∈ p.starts) : p.Ran task where
  ended := by
    have hends : p.starts.Perm p.ends := by
      have hunderway := hp.underway
      rwa [running, gone, List.filterMap_nil, List.nil_append] at hunderway
    have hdistinct := hp.distinct_tasks
    rw [Pool.tasks, List.map_append, List.map_append] at hdistinct
    have hstarts := (List.nodup_append.mp (List.nodup_append.mp hdistinct).1).2.1
    have hone := hends.filter fun t => t.sequence = task.sequence
    rw [filter_of_distinct hstarts started] at hone
    exact List.perm_singleton.mp hone.symm
  undropped := fun dropped => hp.not_started_of_dropped dropped started

end Sound

/-- What workers leave alone once their pool is closed: they start nothing and drop nothing. -/
structure StartsNothing (p q : Pool α) : Prop where
  sound : q.Sound
  shutDown : q.shutDown = true
  starts : q.starts = p.starts
  drops : q.drops = p.drops

theorem StartsNothing.step (h : p.StartsNothing q) (works : q.Works r) : p.StartsNothing r := by
  obtain ⟨hsteady, hworked⟩ := works.worked h.sound.distinct
  refine ⟨h.sound.works works, hsteady.shutDown.trans h.shutDown, ?_, hworked.drops_eq.trans h.drops⟩
  rw [← h.starts]
  cases hworked with
  | began _ _ _ accepting _ _ _ _ =>
      rw [h.shutDown] at accepting
      cases accepting
  | recounted _ _ _ _ _ _ journal _ => rw [Pool.starts, Pool.starts, journal]
  | ended _ _ _ _ journal _ =>
      rw [starts_of_journal journal]
      exact List.append_nil _
  | exited _ _ _ _ _ _ journal _ =>
      rw [starts_of_journal journal]
      exact List.append_nil _

theorem StartsNothing.run (hp : p.Sound) (h : Relation.ReflTransGen Works p.close q) :
    p.close.StartsNothing q := by
  induction h with
  | refl => exact ⟨hp.close, rfl, rfl, rfl⟩
  | tail _ works ih => exact ih.step works

theorem Serves.works (h : p.Serves tasks q) (works : Relation.ReflTransGen Works q r) :
    p.Serves tasks r := by
  induction works with
  | refl => exact h
  | tail _ step ih => exact .work ih step

/-- A task that was submitted to a pool that was closed later is run, once and to its end, unless it
still waited then. What still waited is dropped, once, and never starts. -/
theorem Serves.accounts_of_close (hp : p.Sound) (h : p.Serves tasks q)
    (left : Relation.ReflTransGen Works q.close r) (gone : r.present = [])
    (hmem : task ∈ numbered p.nextSequence tasks) :
    (task ∉ q.queue → r.Ran task) ∧ (task ∈ q.queue → r.Lost task) := by
  have hquiet := StartsNothing.run (sound hp h) left
  constructor
  · intro hnot
    have hstarted := (waiting_or_started hp h hmem).resolve_left hnot
    exact hquiet.sound.ran gone (by rwa [hquiet.starts, starts_close])
  · intro hwaits
    apply hquiet.sound.lost
    rw [hquiet.drops, drops_close]
    exact List.mem_append_right _ hwaits

/-- A pool may take the first of two tasks, finish it, and be closed while the second one waits. -/
theorem Took.exists_closed {debug : DebugOptions} {a b : PoolTask α}
    (h : (create 1 .spawn debug).Took [a, b] q) (classes : a.priority = b.priority) :
    ∃ r last, Relation.ReflTransGen Works q r ∧ r.queue = [{ b with sequence := 1 }] ∧
      Relation.ReflTransGen Works r.close last ∧ last.present = [] := by
  obtain ⟨_, rank, _, _, _⟩ := a
  obtain ⟨_, _, _, _, _⟩ := b
  cases classes
  cases h with
  | cons first rest =>
      cases rest with
      | cons second rest =>
          cases rest
          -- Only with the class at hand is it known that the second task waits behind the first one.
          cases rank <;>
            · cases first
              cases second
              exact ⟨_, _,
                .tail (.tail (.tail
                  (.single (.takes (w := ⟨0, false, false, none, false⟩) List.mem_cons_self rfl))
                  (.countsIn (w := ⟨0, false, false, some _, false⟩) List.mem_cons_self rfl))
                  (@Works.ends _ _ _ ⟨0, false, false, some _, true⟩ (.ok ()) List.mem_cons_self rfl))
                  (.countsOut (w := ⟨0, false, false, none, true⟩) List.mem_cons_self rfl),
                rfl, .single (.exits (w := ⟨0, false, true, none, false⟩) List.mem_cons_self rfl), rfl⟩

end Pool

end PluginHost
