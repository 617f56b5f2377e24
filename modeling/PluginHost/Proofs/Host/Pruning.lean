import PluginHost.Proofs.Host.Cone
import PluginHost.Proofs.Host.Notices

/-!
Who goes when some units are to go: they and all that depend on one of them,
directly or through others, each once and before what it depends on. When
nothing else is asked for, all others stay as they are: they pass the check,
and only those that went hear of anything.
-/
namespace PluginHost

open Dependency

namespace Batch

variable {b : Batch} {h : Host} {id : String} {u : PluginUnit}

/-! ### One after the other -/

theorem pruneOne_eq (live : u.Live) (tracked : b.host.table.unit? id = some u) : ∃ result log,
    b.pruneOne id = ((b.made (b.host.table.erase id) [.unload u.subUnits result] log).noteGone
      u.leaving).noteUnload u.target result.isOk := by
  obtain ⟨gone, calls, result, log, hleaves, hdepart⟩ := depart_eq tracked
  obtain ⟨rfl, rfl⟩ := live.leaves hleaves
  exact ⟨result, log, by rw [pruneOne, hdepart]⟩

/-- The calls that give back what some units hold. -/
def Returns (units : List PluginUnit) (calls : List LoaderCall) : Prop :=
  List.Forall₂ (fun u call => ∃ result, call = .unload u.subUnits result) units calls

/-- Tracked units go in the order they are named in, and nothing else is done. -/
theorem foldl_pruneOne_eq (hconsistent : b.host.table.Consistent) {ids : List String}
    (distinct : ids.Nodup) (tracked : ∀ id ∈ ids, (b.host.table.unit? id).isSome) :
    ∃ unload calls log, ids.foldl pruneOne b =
        { b.made (ids.foldl UnitTable.erase b.host.table) calls log with
          departed := b.departed ++ (ids.filterMap b.host.table.unit?).map PluginUnit.leaving
          result := { b.result with unload } } ∧
      unload.all.Perm (b.result.unload.all ++
        (ids.filterMap b.host.table.unit?).map PluginUnit.target) ∧
      Returns (ids.filterMap b.host.table.unit?) calls := by
  induction ids generalizing b with
  | nil =>
      refine ⟨b.result.unload, [], b.host.trace.log, ?_, ?_, .nil⟩
      · simp [made]
      · simp
  | cons id rest ih =>
      obtain ⟨hnew, hrest⟩ := List.nodup_cons.mp distinct
      obtain ⟨u, hu⟩ := Option.isSome_iff_exists.mp (tracked id List.mem_cons_self)
      obtain ⟨result, log, hfirst⟩ := pruneOne_eq (hconsistent.unit_live hu) hu
      have hothers : ∀ i ∈ rest, (b.host.table.erase id).unit? i = b.host.table.unit? i := by
        intro i hi
        have hother : i ≠ id := fun heq => hnew (heq ▸ hi)
        rw [UnitTable.unit?_erase, if_neg hother]
      have hunits : (id :: rest).filterMap b.host.table.unit? =
          u :: rest.filterMap (b.host.table.erase id).unit? := by
        rw [List.filterMap_cons_some hu, List.filterMap_congr hothers]
      obtain ⟨unload, calls, log', hall, htold, hreturns⟩ :=
        ih (b := b.pruneOne id) (by rw [hfirst]; exact hconsistent.erase id) hrest (by
          intro i hi
          rw [hfirst]
          exact (hothers i hi) ▸ tracked i (List.mem_cons_of_mem id hi))
      rw [hfirst] at hall htold hreturns
      rw [List.foldl_cons, hunits]
      refine ⟨unload, .unload u.subUnits result :: calls, log', ?_, ?_, .cons ⟨result, rfl⟩ hreturns⟩
      · rw [hfirst, hall]
        simp [made, noteGone, noteUnload]
      · have hnoted := PhaseResult.perm_all_note b.result.unload u.target result.isOk
        refine htold.trans ((hnoted.append_right _).trans ?_)
        exact List.perm_middle.symm

/-- A check that nothing fails only lists what passed. -/
theorem validate_of_passed (hnone : b.host.graph.walk.failures = []) : ∃ log,
    validate b = { b.passing b.host.graph.walk.order with
      host := { b.host with trace := { b.host.trace with log } } } := by
  have hpurged : b.purged =
      { b with host := b.host.write (b.host.graph.walk.log b.host.settings.debug) } := by
    rw [Batch.purged, hnone]
    rfl
  obtain ⟨log, hchecked⟩ := b.validate_eq
  rw [hpurged] at hchecked
  exact ⟨log, hchecked⟩

/-- When nothing is new, only those that went hear of anything. -/
theorem notices_of_stale (hfresh : b.fresh = []) :
    b.notices = b.departed.flatMap (·.tasks .pluginUnload) := by
  have hnobody : b.order.flatMap (b.host.table.loadNotices b.fresh) = [] := by
    rw [hfresh]
    exact List.flatMap_eq_nil_iff.mpr fun id _ => if_neg List.not_mem_nil
  rw [notices, hnobody, List.nil_append]

end Batch

namespace UnitTable

theorem foldl_welcome_nil (t : UnitTable) (order : List String) :
    order.foldl (welcome []) t = t := by
  have hone : ∀ t id, welcome [] t id = t := by
    intro t id
    unfold welcome
    split <;> simp
  induction order with
  | nil => rfl
  | cons id rest ih => rw [List.foldl_cons, hone, ih]

end UnitTable

/-- The tasks of a unit carry its id. -/
theorem PluginUnit.Live.owner_eq {u : PluginUnit} {event : Event} {task : PoolTask Call}
    (h : u.Live) (htask : task ∈ u.tasks event) : task.owner = some u.id := by
  obtain ⟨l, hl, rfl⟩ := List.mem_map.mp htask
  exact congrArg some (h.owned.listeners l (List.mem_filter.mp hl).1)

/-! ### The first phase -/

namespace Host

open Batch

variable {h : Host} {condition : PluginUnit → Bool} {id other : String} {u : PluginUnit}

/-- The units that go when a condition chooses some, in the order they do. -/
def doomed (h : Host) (condition : PluginUnit → Bool) : List String :=
  (h.graph.walk.affected (h.select condition)).reverse

/-- What the first phase of a batch does with units that are to go, which are those a condition
chooses and all that depend on one of them: each goes once, before all it depends on, the result
tells of it, and it gives back what it holds. All others stay as they are. -/
structure Pruned (h : Host) (condition : PluginUnit → Bool) (gone : List String) (after : Batch) :
    Prop where
  once : gone.Nodup
  members : ∀ other, other ∈ gone ↔
    ∃ id u, h.table.unit? id = some u ∧ condition u = true ∧ h.Cone id other
  before : ∀ a b, b ∈ gone →
    Relation.TransGen (h.table.Depends h.settings.identity) a b → [a, b].Sublist gone
  units : ∀ id, after.host.table.unit? id = if id ∈ gone then none else h.table.unit? id
  departed : after.departed = (gone.filterMap h.table.unit?).map PluginUnit.leaving
  told : after.result.unload.all.Perm ((gone.filterMap h.table.unit?).map PluginUnit.target)
  returned : ∃ calls, after.host.trace.calls = h.trace.calls ++ calls ∧
    Returns (gone.filterMap h.table.unit?) calls

theorem nodup_doomed (hconsistent : h.table.Consistent) : (h.doomed condition).Nodup :=
  List.nodup_reverse.mpr (Walk.nodup_affected (distinct_graph hconsistent))

theorem tracked_of_doomed (hconsistent : h.table.Consistent) (hid : id ∈ h.doomed condition) :
    (h.table.unit? id).isSome := by
  have haffected := List.mem_reverse.mp hid
  rw [Walk.mem_affected_iff (distinct_graph hconsistent)] at haffected
  exact (mem_ids_graph_iff hconsistent).mp haffected.1

theorem mem_doomed_iff (hconsistent : h.table.Consistent)
    (foreign : h.settings.identity.id ∉ h.table.ids) : other ∈ h.doomed condition ↔
      ∃ id u, h.table.unit? id = some u ∧ condition u = true ∧ h.Cone id other := by
  rw [doomed, List.mem_reverse, Walk.mem_affected_iff (distinct_graph hconsistent)]
  constructor
  · rintro ⟨hother, id, hselected, hreach⟩
    obtain ⟨u, hu, hcondition⟩ := (mem_select_iff hconsistent.distinct).mp hselected
    have hcone := (cone_iff hconsistent foreign (by simp [hu])).mpr ⟨hother, hreach⟩
    exact ⟨id, u, hu, hcondition, hcone⟩
  · rintro ⟨id, u, hu, hcondition, hcone⟩
    obtain ⟨hother, hreach⟩ := (cone_iff hconsistent foreign (by simp [hu])).mp hcone
    exact ⟨hother, id, (mem_select_iff hconsistent.distinct).mpr ⟨u, hu, hcondition⟩, hreach⟩

theorem mem_doomed_of_depends (hconsistent : h.table.Consistent)
    (foreign : h.settings.identity.id ∉ h.table.ids) {a b : String} (hb : b ∈ h.doomed condition)
    (depends : h.table.Depends h.settings.identity a b) : a ∈ h.doomed condition := by
  rw [mem_doomed_iff hconsistent foreign] at hb ⊢
  obtain ⟨id, u, hu, hcondition, _, hreach⟩ := hb
  exact ⟨id, u, hu, hcondition, depends.tracked, .head depends hreach⟩

theorem Reachable.doomed_before (hreach : h.Reachable)
    (foreign : h.settings.identity.id ∉ h.table.ids) {a b : String} (hb : b ∈ h.doomed condition)
    (depends : Relation.TransGen (h.table.Depends h.settings.identity) a b) :
    [a, b].Sublist (h.doomed condition) := by
  have ha : a ∈ h.doomed condition := by
    induction depends using Relation.TransGen.head_induction_on with
    | single hab => exact mem_doomed_of_depends hreach.consistent foreign hb hab
    | head hac _ ih => exact mem_doomed_of_depends hreach.consistent foreign ih hac
  have hordered : (h.doomed condition).Pairwise fun a b =>
      ¬ Relation.TransGen (h.table.Depends h.settings.identity) b a :=
    List.pairwise_reverse.mpr (hreach.pairwise_affected foreign _)
  refine sublist_of_pairwise hordered hb ha ?_ depends
  rintro rfl
  exact hreach.table_closed.acyclic b depends

theorem associated_select (hconsistent : h.table.Consistent) (condition : PluginUnit → Bool)
    (operation : String) : ((Batch.start h).associated (h.select condition) operation).2 =
      h.graph.walk.affected (h.select condition) := by
  rw [associated_snd]
  split
  · next hnone =>
      rw [hnone, eq_comm, List.eq_nil_iff_forall_not_mem]
      intro i hi
      simp [Walk.mem_affected_iff (distinct_graph hconsistent)] at hi
  · rfl

theorem prune_start_eq (hconsistent : h.table.Consistent) (condition : PluginUnit → Bool) :
    ∃ unload calls log, prune condition (Batch.start h) =
        { (Batch.start h).made ((h.doomed condition).foldl UnitTable.erase h.table) calls log with
          departed := ((h.doomed condition).filterMap h.table.unit?).map PluginUnit.leaving
          result := { BatchResult.empty with unload } } ∧
      unload.all.Perm (((h.doomed condition).filterMap h.table.unit?).map PluginUnit.target) ∧
      Returns ((h.doomed condition).filterMap h.table.unit?) calls := by
  obtain ⟨log, hlog⟩ := (Batch.start h).associated_fst (h.select condition) "unload"
  have hall := foldl_pruneOne_eq
    (b := { Batch.start h with host := { h with trace := { h.trace with log } } }) hconsistent
    (nodup_doomed hconsistent)
    fun id (hid : id ∈ h.doomed condition) => tracked_of_doomed hconsistent hid
  have hrun : prune condition (Batch.start h) = (h.doomed condition).foldl pruneOne
      ((Batch.start h).associated (h.select condition) "unload").1 := by
    rw [doomed, ← associated_select hconsistent condition "unload"]
    rfl
  rw [hrun, hlog]
  exact hall

theorem Reachable.pruned (hreach : h.Reachable) (foreign : h.settings.identity.id ∉ h.table.ids)
    (condition : PluginUnit → Bool) :
    h.Pruned condition (h.doomed condition) (prune condition (Batch.start h)) := by
  have hconsistent := hreach.consistent
  obtain ⟨unload, calls, log, hprune, htold, hreturns⟩ := prune_start_eq hconsistent condition
  refine ⟨nodup_doomed hconsistent, fun _ => mem_doomed_iff hconsistent foreign,
    fun _ _ hb hdepends => hreach.doomed_before foreign hb hdepends, ?_, ?_, ?_, calls, ?_, hreturns⟩
  · intro id
    rw [unit?_prune]
    have hlist := associated_select hconsistent condition "unload"
    rw [doomed, ← hlist]
    simp only [List.mem_reverse]
    rfl
  · rw [hprune]
  · rw [hprune]
    exact htold
  · rw [hprune]
    rfl

/-! ### The rest of the batch -/

/-- What is to be done when only some units are to go. -/
def prunePlan (condition : PluginUnit → Bool) : Plan := { Plan.none with prune := some condition }

/-- What a whole batch does that only has some units go: all others stay as they are and pass the
check, the loader takes back what those held that go and is asked for nothing else, and the only
tasks that are submitted are for their listeners. -/
structure PruneEffect (h : Host) (gone : List String) (after : Host) (result : BatchResult) :
    Prop where
  kept : ∀ id, after.table.unit? id = if id ∈ gone then none else h.table.unit? id
  passed : result.dependencyCheck.succeeded.Perm (after.table.units.map PluginUnit.target)
  failed : result.dependencyCheck.failed = []
  told : result.unload.all.Perm ((gone.filterMap h.table.unit?).map PluginUnit.target)
  unasked : result.load = .empty ∧ result.reload = .empty
  returned : ∃ calls, after.trace.calls = h.trace.calls ++ calls ∧
    Returns (gone.filterMap h.table.unit?) calls
  submitted : h.pool.Offered ((gone.filterMap h.table.unit?).flatMap (·.tasks .pluginUnload))
    after.pool
  owned : ∀ task ∈ (gone.filterMap h.table.unit?).flatMap (·.tasks .pluginUnload),
    ∃ id ∈ gone, task.owner = some id

/-- Nothing fails the check when some units went with all that depend on them. -/
theorem Reachable.failures_pruned (hreach : h.Reachable)
    (foreign : h.settings.identity.id ∉ h.table.ids) (condition : PluginUnit → Bool) :
    (prune condition (Batch.start h)).host.graph.walk.failures = [] := by
  have hpruned := hreach.pruned foreign condition
  have hafter := (prune_transitions condition (Batch.start h)).consistent hreach.consistent
  have hhost : (prune condition (Batch.start h)).host.graph.host = h.graph.host :=
    congrArg HostSettings.identity (prune_transitions condition (Batch.start h)).advances.settings
  apply List.eq_nil_iff_forall_not_mem.mpr
  rintro ⟨id, cause⟩ hfailed
  obtain ⟨hid, _, hstuck⟩ := (Walk.walk_sound (distinct_graph hafter)).mem_failures_iff.mp
    (List.mem_map.mpr ⟨_, hfailed, rfl⟩)
  have htracked := (mem_ids_graph_iff hafter).mp hid
  rw [hpruned.units] at htracked
  split at htracked
  · cases htracked
  · next hstays =>
      refine hstuck (hreach.runs_apart foreign hhost (fun i => i ∉ h.doomed condition) ?_ ?_
        htracked hstays)
      · intro i u hu hi
        rw [hpruned.units, if_neg hi, hu]
      · intro a b hdepends ha hb
        exact ha (mem_doomed_of_depends hreach.consistent foreign hb hdepends)

theorem map_units_eq {α : Type} (hconsistent : h.table.Consistent) (f : PluginUnit → α) :
    h.table.units.map f = h.table.ids.filterMap fun id => (h.table.unit? id).map f := by
  rw [UnitTable.units, UnitTable.ids, List.map_map, List.filterMap_map]
  symm
  apply List.filterMap_eq_map_iff_forall_eq_some.mpr
  intro e he
  simp [(UnitTable.unit?_eq_some_iff hconsistent.distinct).mpr he]

/-- When nothing fails the check and no unit goes by the id of the host, all units pass. -/
theorem passed_perm (hconsistent : h.table.Consistent)
    (foreign : h.settings.identity.id ∉ h.table.ids) (hnone : h.graph.walk.failures = []) :
    (h.graph.walk.order.filterMap fun id => (h.table.unit? id).map PluginUnit.target).Perm
      (h.table.units.map PluginUnit.target) := by
  have hids : h.graph.ids = h.table.ids := ids_graph hconsistent
  have hdistinct : h.graph.ids.Nodup := distinct_graph hconsistent
  have hall : h.graph.ids.filter (· != h.graph.host.id) = h.table.ids := by
    rw [hids]
    exact List.filter_eq_self.mpr fun id hid => bne_iff_ne.mpr fun heq => foreign (heq ▸ hid)
  have hperm := (Walk.walk_sound hdistinct).perm_ids hdistinct
  rw [hnone, List.map_nil, List.nil_append, hall] at hperm
  rw [map_units_eq hconsistent]
  exact hperm.filterMap _

theorem prepared_prunePlan (h : Host) (condition : PluginUnit → Bool) :
    prepared (prunePlan condition) h = prune condition (Batch.start h) := rfl

theorem Reachable.pruneEffect (hreach : h.Reachable)
    (foreign : h.settings.identity.id ∉ h.table.ids)
    (condition : PluginUnit → Bool) : h.PruneEffect (h.doomed condition)
      (run (prunePlan condition) h).host (run (prunePlan condition) h).result := by
  have hpruned := hreach.pruned foreign condition
  have hafter := (prune_transitions condition (Batch.start h)).consistent hreach.consistent
  have hnone := hreach.failures_pruned foreign condition
  obtain ⟨unload, calls, log, hprune, htold, hreturns⟩ :=
    prune_start_eq hreach.consistent condition
  obtain ⟨log', hchecked⟩ := validate_of_passed hnone
  have htable : (run (prunePlan condition) h).host.table =
      (prune condition (Batch.start h)).host.table := by
    rw [(run_quiet _ h).table, (notify_table _).2.2, prepared_prunePlan, hchecked, hprune]
    exact UnitTable.foldl_welcome_nil _ _
  have hresult : (run (prunePlan condition) h).result =
      (validate (prune condition (Batch.start h))).result := result_run _ h
  refine ⟨?_, ?_, ?_, ?_, ?_, ⟨calls, ?_, hreturns⟩, ?_, ?_⟩
  · intro id
    rw [htable, hpruned.units]
  · rw [htable, hresult, hchecked]
    have hforeign : (prune condition (Batch.start h)).host.settings.identity.id ∉
        (prune condition (Batch.start h)).host.table.ids := by
      rw [← UnitTable.unit?_eq_none_iff, hpruned.units, hprune]
      exact ite_eq_left_iff.mpr fun _ => UnitTable.unit?_eq_none_iff.mpr foreign
    have hpassed := passed_perm hafter hforeign hnone
    have hbefore : (prune condition (Batch.start h)).result.dependencyCheck.succeeded = [] := by
      rw [hprune]
      rfl
    rw [passing, hbefore, List.nil_append]
    exact hpassed
  · rw [hresult, hchecked, hprune]
    rfl
  · rw [hresult, hchecked]
    exact hpruned.told
  · rw [hresult, hchecked, hprune]
    exact ⟨rfl, rfl⟩
  · rw [calls_run, prepared_prunePlan, hchecked, hprune]
    rfl
  · have hnotices : (validate (prune condition (Batch.start h))).notices =
        ((h.doomed condition).filterMap h.table.unit?).flatMap (·.tasks .pluginUnload) := by
      have hfresh : (validate (prune condition (Batch.start h))).fresh = [] := by
        rw [hchecked, hprune]
        rfl
      have hdeparted : (validate (prune condition (Batch.start h))).departed =
          ((h.doomed condition).filterMap h.table.unit?).map PluginUnit.leaving := by
        rw [hchecked]
        exact hpruned.departed
      rw [notices_of_stale hfresh, hdeparted]
      rw [List.flatMap_map]
      rfl
    rw [← hnotices]
    exact run_offered (prunePlan condition) hreach.consistent
  · intro task htask
    obtain ⟨u, hu, hmem⟩ := List.mem_flatMap.mp htask
    obtain ⟨id, hid, htracked⟩ := List.mem_filterMap.mp hu
    refine ⟨id, hid, ?_⟩
    rw [(hreach.consistent.unit_live htracked).owner_eq hmem, hreach.consistent.id_eq htracked]

theorem doomed_all (hconsistent : h.table.Consistent)
    (foreign : h.settings.identity.id ∉ h.table.ids) :
    other ∈ h.doomed (fun _ => true) ↔ (h.table.unit? other).isSome := by
  rw [mem_doomed_iff hconsistent foreign]
  constructor
  · rintro ⟨_, _, _, _, htracked, _⟩
    exact htracked
  · intro htracked
    obtain ⟨u, hu⟩ := Option.isSome_iff_exists.mp htracked
    exact ⟨other, u, hu, rfl, htracked, .refl⟩

theorem doomed_of_id (hconsistent : h.table.Consistent)
    (foreign : h.settings.identity.id ∉ h.table.ids) (tracked : (h.table.unit? id).isSome) :
    other ∈ h.doomed (fun u => u.id = id) ↔ h.Cone id other := by
  rw [mem_doomed_iff hconsistent foreign]
  constructor
  · rintro ⟨i, u, hu, hid, hcone⟩
    have hsame : i = id := (hconsistent.id_eq hu).symm.trans (of_decide_eq_true hid)
    exact hsame ▸ hcone
  · intro hcone
    obtain ⟨u, hu⟩ := Option.isSome_iff_exists.mp tracked
    exact ⟨id, u, hu, decide_eq_true (hconsistent.id_eq hu), hcone⟩

/-- In every run in which no tracked unit goes by the id of the host, whatever condition chooses
units that are to go, the first phase of a batch has exactly those go and all that depend on them,
each once and before what it depends on. When a tracked unit is unloaded, or all are, the rest of
the batch changes nothing: all others are still what they were, pass the check and hear of
nothing. -/
theorem Reachable.prune_exact (hreach : h.Reachable)
    (foreign : h.settings.identity.id ∉ h.table.ids) :
    (∀ condition, ∃ gone, h.Pruned condition gone (prune condition (Batch.start h))) ∧
      (∀ id, (h.table.unit? id).isSome → ∃ gone after result,
        h.unloadPlugin id = (after, .ok result) ∧
        h.Pruned (fun u => u.id = id) gone (prune (fun u => u.id = id) (Batch.start h)) ∧
        (∀ other, other ∈ gone ↔ h.Cone id other) ∧ h.PruneEffect gone after result) ∧
      ∃ gone, h.Pruned (fun _ => true) gone (prune (fun _ => true) (Batch.start h)) ∧
        (∀ other, other ∈ gone ↔ (h.table.unit? other).isSome) ∧
        h.PruneEffect gone h.unloadAll.1 h.unloadAll.2 := by
  refine ⟨fun condition => ⟨_, hreach.pruned foreign condition⟩, ?_, ?_⟩
  · intro id tracked
    have hran : h.unloadPlugin id = ((run (prunePlan fun u => u.id = id) h).host,
        .ok (run (prunePlan fun u => u.id = id) h).result) := by
      rw [unloadPlugin, UnitTable.containsId, if_pos tracked]
      rfl
    exact ⟨_, _, _, hran, hreach.pruned foreign _,
      fun _ => doomed_of_id hreach.consistent foreign tracked, hreach.pruneEffect foreign _⟩
  · have hran : h.unloadAll = ((run (prunePlan fun _ => true) h).host,
        (run (prunePlan fun _ => true) h).result) := rfl
    rw [hran]
    dsimp only
    exact ⟨_, hreach.pruned foreign _, fun _ => doomed_all hreach.consistent foreign,
      hreach.pruneEffect foreign fun _ => true⟩

end Host

namespace HostWitness

theorem busy_prune_exact : busy.Reachable ∧ busy.table.ids = ["behind", "chat", "core"] ∧
    (busy.unloadPlugin "core").1.table.ids = ["behind"] ∧
    ∃ gone after result, busy.unloadPlugin "core" = (after, .ok result) ∧
      (∀ other, other ∈ gone ↔ busy.Cone "core" other) ∧ busy.PruneEffect gone after result := by
  have hids : busy.table.ids = ["behind", "chat", "core"] := by decide +kernel
  have hforeign : busy.settings.identity.id ∉ busy.table.ids := by decide +kernel
  have hcore : (busy.table.unit? "core").isSome := by decide +kernel
  have hleft : (busy.unloadPlugin "core").1.table.ids = ["behind"] := by decide +kernel
  obtain ⟨gone, after, result, hran, _, hmembers, heffect⟩ :=
    (busy_reachable.prune_exact hforeign).2.1 "core" hcore
  exact ⟨busy_reachable, hids, hleft, gone, after, result, hran, hmembers, heffect⟩

end HostWitness

end PluginHost
