import PluginHost.Proofs.Host.Pruning
import PluginHost.Proofs.Pool.Closing

/-!
How a host ends: plugins are told that it stops, all of them are unloaded, the
pool is closed and its workers are waited for. Workers go on between and during
these calls. Every task the calls submit is run once, but for those that still
wait when the pool is closed: closing drops them.
-/
namespace PluginHost

namespace Host

variable {h between : Host} {unloaded last : Pool Call}

/-- The tasks that tell running plugins that the host stops. -/
def stopping (h : Host) : List (PoolTask Call) :=
  (h.listenersFor .hostStop).map (·.task .none)

/-- The tasks that are submitted when all plugins are unloaded. -/
def unloading (h : Host) : List (PoolTask Call) :=
  (Batch.validate (Batch.prepared (prunePlan fun _ => true) h)).notices

theorem dispatch_offered (h : Host) :
    h.pool.Offered h.stopping (h.dispatch .hostStop .none).1.pool :=
  submitAll_offered _ _

theorem unloadAll_offered (hconsistent : h.table.Consistent) :
    h.pool.Offered h.unloading h.unloadAll.1.pool :=
  Batch.run_offered (prunePlan fun _ => true) hconsistent

/-- An end of a host: its pool once the plugins were told that it stops, as the host finds it when
it unloads them; once they were told that they go; and once the pool was closed and no worker is
left. What workers call meanwhile may write records and change files. -/
structure Exits (h between : Host) (unloaded last : Pool Call) : Prop where
  told : h.pool.Serves h.stopping between.pool
  kept : between = { (h.dispatch .hostStop .none).1 with
    files := between.files, pool := between.pool,
    trace := { (h.dispatch .hostStop .none).1.trace with log := between.trace.log } }
  dismissed : between.pool.Serves between.unloading unloaded
  waited : Relation.ReflTransGen Pool.Works unloaded.close last
  gone : last.present = []

theorem Exits.table (hexits : h.Exits between unloaded last) : between.table = h.table := by
  rw [hexits.kept]
  rfl

/-- In every run, however workers go on while a host ends, every task that tells a plugin that the
host stops or that the plugin goes is run, once and to its end, unless it still waits when the pool
is closed. What still waits then is dropped, once, and never starts. -/
theorem Reachable.exit_accounts (hreach : h.Reachable) (hpool : h.pool.Reachable)
    (accepting : h.pool.shutDown = false) (hexits : h.Exits between unloaded last) :
    h.pool.Took h.stopping (h.dispatch .hostStop .none).1.pool ∧
      between.pool.Took between.unloading between.unloadAll.1.pool ∧
      ∀ task ∈ Pool.numbered h.pool.nextSequence (h.stopping ++ between.unloading),
        (task ∉ unloaded.queue → last.Ran task) ∧ (task ∈ unloaded.queue → last.Lost task) := by
  have hstopping := h.dispatch_offered
  have hconsistent : between.table.Consistent := hexits.table ▸ hreach.consistent
  have hunloading := unloadAll_offered hconsistent
  have hopen : between.pool.shutDown = false :=
    (hexits.told.same hpool.sound).shutDown.trans accepting
  rw [Pool.Offered, accepting] at hstopping
  rw [Pool.Offered, hopen] at hunloading
  refine ⟨hstopping, hunloading, fun task htask => ?_⟩
  have hserves := hexits.told.append hexits.dismissed
  exact hserves.accounts_of_close hpool.sound hexits.waited hexits.gone htask

end Host

namespace HostWitness

/-- A plugin that hears that the host stops and that it goes itself. -/
def parting : Loader where
  load _ _ path :=
    let listener (event : Event) (name : String) : Registration :=
      .listener event 0 ⟨path.text, name, fun _ => ⟨[], .ok ()⟩⟩
    .ok
      { code := { code "lone" "1.0.0" [] with
          registrations := .ok [listener .hostStop "stops", listener .pluginUnload "goes"] }
        subUnits := [⟨path.text, 0, none⟩] }
  unload _ _ := .ok ()
  unloadLog _ := []

/-- A host with that plugin. -/
def ending : Host :=
  { (Host.create settings ⟨"en", []⟩ parting .empty (.create 1 .spawn .none)).perform
      (.load ⟨"lone.mcdr"⟩) with pool := .create 1 .spawn .none }

theorem ending_reachable : ending.Reachable := by
  have hloaded : ((Host.create settings ⟨"en", []⟩ parting .empty (.create 1 .spawn .none)).perform
      (.load ⟨"lone.mcdr"⟩)).Reachable := .perform (.create _ _ _ _ _) _
  exact hloaded.meanwhile ending.files ending.trace.log (.create 1 .spawn .none)

/-- The host once the plugin was told that it stops, before the worker did anything. -/
def alerted : Host := (ending.dispatch .hostStop .none).1

theorem exists_of_name {α : Type} {tasks : List (PoolTask α)} {name : String}
    (h : tasks.map PoolTask.name = [name]) : ∃ a, tasks = [a] ∧ a.name = name := by
  obtain ⟨a, rfl, hname⟩ := List.map_eq_singleton_iff.mp h
  exact ⟨a, rfl, hname⟩

/-- The only worker may run the first of two tasks before the pool is closed, and not the second
one. -/
theorem ending_exits : ∃ a b unloaded last,
    Pool.numbered ending.pool.nextSequence (ending.stopping ++ alerted.unloading) = [a, b] ∧
      a.name = Event.hostStop.listenerName ∧ b.name = Event.pluginUnload.listenerName ∧
      ending.Exits alerted unloaded last ∧ unloaded.queue = [b] ∧ a.sequence ≠ b.sequence := by
  have hstops : ending.stopping.map PoolTask.name = [Event.hostStop.listenerName] := by
    decide +kernel
  have hgoes : alerted.unloading.map PoolTask.name = [Event.pluginUnload.listenerName] := by
    decide +kernel
  have hclass : (ending.stopping ++ alerted.unloading).map PoolTask.priority =
      [.regular, .regular] := by decide +kernel
  obtain ⟨a, ha, haname⟩ := exists_of_name hstops
  obtain ⟨b, hb, hbname⟩ := exists_of_name hgoes
  have hclasses : a.priority = b.priority := by
    rw [ha, hb] at hclass
    simp only [List.cons_append, List.nil_append, List.map_cons, List.map_nil, List.cons.injEq] at hclass
    exact hclass.1.trans hclass.2.1.symm
  have hconsistent : alerted.table.Consistent := ending_reachable.consistent
  have halerted : ending.pool.Took [a] alerted.pool := by
    have hoffered := ending.dispatch_offered
    rwa [Pool.Offered, if_neg (by decide), ha] at hoffered
  have hopen : alerted.pool.shutDown = false := halerted.shutDown
  have hdismissed : alerted.pool.Took [b] alerted.unloadAll.1.pool := by
    have hoffered := Host.unloadAll_offered hconsistent
    rwa [Pool.Offered, hopen, hb] at hoffered
  obtain ⟨unloaded, last, hworks, hqueue, hwaited, hgone⟩ :=
    Pool.Took.exists_closed (halerted.append hdismissed) hclasses
  refine ⟨{ a with sequence := 0 }, { b with sequence := 1 }, unloaded, last, ?_, haname, hbname,
    ⟨?_, rfl, ?_, hwaited, hgone⟩, hqueue, by simp⟩
  · rw [ha, hb]
    rfl
  · rw [ha]
    exact halerted.serves
  · rw [hb]
    exact hdismissed.serves.works hworks

theorem ending_pool_reachable : ending.pool.Reachable :=
  .create 1 .spawn .none

theorem ending_exit_accounts : ending.Reachable ∧ ending.pool.Reachable ∧
    ∃ a b unloaded last, ending.Exits alerted unloaded last ∧
      Pool.numbered ending.pool.nextSequence (ending.stopping ++ alerted.unloading) = [a, b] ∧
      last.Ran a ∧ last.Lost b := by
  obtain ⟨a, b, unloaded, last, hnumbered, _, _, hexits, hqueue, hother⟩ := ending_exits
  have haccounts :=
    (ending_reachable.exit_accounts ending_pool_reachable (by decide) hexits).2.2
  rw [hnumbered, hqueue] at haccounts
  have hran : a ∉ [b] := fun hmem => hother (congrArg PoolTask.sequence (List.mem_singleton.mp hmem))
  exact ⟨ending_reachable, ending_pool_reachable, a, b, unloaded, last, hexits, hnumbered,
    (haccounts a (by simp)).1 hran, (haccounts b (by simp)).2 (by simp)⟩

/-- A plugin may never hear that it goes: its task waits when the pool is closed, and is dropped. -/
theorem ending_forgets : ending.Reachable ∧ ending.pool.Reachable ∧ ending.pool.size = 1 ∧
    ending.pool.shutDown = false ∧
    ∃ task unloaded last, ending.Exits alerted unloaded last ∧
      task ∈ Pool.numbered ending.pool.nextSequence (ending.stopping ++ alerted.unloading) ∧
      task.name = Event.pluginUnload.listenerName ∧ task ∈ last.drops ∧ task ∉ last.starts := by
  obtain ⟨a, b, unloaded, last, hnumbered, _, hname, hexits, hqueue, _⟩ := ending_exits
  have hsubmitted : b ∈ Pool.numbered ending.pool.nextSequence
      (ending.stopping ++ alerted.unloading) := by
    rw [hnumbered]
    simp
  have hquiet := Pool.StartsNothing.run
    ((hexits.told.append hexits.dismissed).sound ending_pool_reachable.sound) hexits.waited
  have hdropped : b ∈ last.drops := by
    rw [hquiet.drops, Pool.drops_close, hqueue]
    simp
  exact ⟨ending_reachable, ending_pool_reachable, rfl, rfl, b, unloaded, last, hexits, hsubmitted,
    hname, hdropped, hquiet.sound.not_started_of_dropped hdropped⟩

end HostWitness

end PluginHost
