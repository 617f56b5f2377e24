import PluginHost.Proofs.Host.Confinement
import PluginHost.Proofs.Host.Newcomers
import PluginHost.Proofs.Host.Readiness

/-!
What a batch lets plugins hear, exactly: units that came or came back hear of
their loading, in the order of the check; then units that went hear of that,
in the order they went. Each hears it once, through all its listeners for it.
A pool of one worker that makes no temporary ones calls the listeners in this
order.
-/
namespace PluginHost

open Dependency

theorem PluginUnit.id_welcomed (u : PluginUnit) : u.welcomed.id = u.id := by
  rw [id, id, fileName, fileName, metadata_welcomed, path_welcomed]

theorem PluginUnit.target_welcomed (u : PluginUnit) : u.welcomed.target = u.target := by
  rw [target, target, metadata_welcomed, path_welcomed]

theorem PluginUnit.Live.welcomed {u : PluginUnit} (h : u.Live) : u.welcomed.Live := by
  unfold PluginUnit.welcomed
  split
  · next hloaded => exact h.readied hloaded
  · exact h

/-- Units that are looked up by id stand in the order of the ids. -/
theorem UnitTable.Consistent.ids_filterMap {t : UnitTable} (h : t.Consistent) (ids : List String) :
    ((ids.filterMap t.unit?).map PluginUnit.id).Sublist ids := by
  induction ids with
  | nil => exact .slnil
  | cons id rest ih =>
      cases hu : t.unit? id with
      | none =>
          rw [List.filterMap_cons_none hu]
          exact ih.cons id
      | some u =>
          rw [List.filterMap_cons_some hu, List.map_cons, h.id_eq hu]
          exact ih.cons_cons id

theorem UnitTable.Consistent.tracked_of_mem {t : UnitTable} (h : t.Consistent) {ids : List String}
    {u : PluginUnit} (hu : u ∈ ids.filterMap t.unit?) : t.unit? u.id = some u := by
  obtain ⟨i, _, hi⟩ := List.mem_filterMap.mp hu
  rwa [h.id_eq hi]

theorem UnitTable.Consistent.ids_of_tracked {t : UnitTable} (h : t.Consistent) {ids : List String}
    (tracked : ∀ id ∈ ids, (t.unit? id).isSome) :
    (ids.filterMap t.unit?).map PluginUnit.id = ids := by
  induction ids with
  | nil => rfl
  | cons id rest ih =>
      obtain ⟨u, hu⟩ := Option.isSome_iff_exists.mp (tracked id List.mem_cons_self)
      rw [List.filterMap_cons_some hu, List.map_cons, h.id_eq hu,
        ih fun i hi => tracked i (List.mem_cons_of_mem id hi)]

namespace Batch

variable {plan : Plan} {h : Host} {id : String} {u : PluginUnit} {task : PoolTask Call}

/-! ### Who came -/

theorem not_failed_of_passed (hconsistent : h.table.Consistent)
    (passed : id ∈ (prepared plan h).host.graph.walk.order) :
    id ∉ (prepared plan h).host.graph.walk.failures.map Prod.fst := by
  have hdistinct : (prepared plan h).host.graph.ids.Nodup := distinct_prepared hconsistent
  have hwalk := Walk.walk_sound hdistinct
  exact fun hfailed => (hwalk.mem_failures_iff.mp hfailed).2.2 (hwalk.mem_order_iff.mp passed).2

/-- All that passed the check is listed, in its order. -/
theorem order_validate (hconsistent : h.table.Consistent) :
    (validate (prepared plan h)).order = (prepared plan h).host.graph.walk.order := by
  have hchecked := validate_validated (prepared plan h)
  have hnone : (prepared plan h).order = [] := (prepared_advances plan h).order
  have hprepared : (prepared plan h).host.table.Consistent := consistent_prepared hconsistent
  have hwalk := Walk.walk_sound (Host.distinct_graph hprepared)
  rw [hchecked.order, hnone, List.nil_append]
  apply List.filter_eq_self.mpr
  intro id hid
  obtain ⟨_, n, hn, rfl, _⟩ := hwalk.mem_order_iff.mp hid
  rw [UnitTable.containsId, hchecked.unit?_eq, if_neg (not_failed_of_passed hconsistent hid)]
  exact (Host.mem_ids_graph_iff hprepared).mp (List.mem_map.mpr ⟨n, hn, rfl⟩)

/-- The units that came or came back and passed the check, in its order. -/
def Plan.came (plan : Plan) (h : Host) : List PluginUnit :=
  ((prepared plan h).host.graph.walk.order.filter (prepared plan h).fresh.contains).filterMap
    (run plan h).host.table.unit?

theorem mem_came_iff (hconsistent : h.table.Consistent)
    (tracked : (run plan h).host.table.unit? id = some u) (guest : id ≠ h.settings.identity.id) :
    u ∈ plan.came h ↔ id ∈ (prepared plan h).fresh := by
  have hafter := consistent_run plan hconsistent
  rw [Plan.came, List.mem_filterMap]
  simp only [List.mem_filter, List.contains_iff_mem]
  constructor
  · rintro ⟨i, ⟨_, hnew⟩, hu⟩
    have hid : i = id := (hafter.id_eq hu).symm.trans (hafter.id_eq tracked)
    exact hid ▸ hnew
  · intro hnew
    exact ⟨id, ⟨passed_of_tracked hconsistent tracked guest, hnew⟩, tracked⟩

theorem tracked_of_came (hconsistent : h.table.Consistent) (hu : u ∈ plan.came h) :
    u.id ∈ (prepared plan h).fresh ∧ (run plan h).host.table.unit? u.id = some u := by
  obtain ⟨i, hi, htracked⟩ := List.mem_filterMap.mp hu
  have hid : u.id = i := (consistent_run plan hconsistent).id_eq htracked
  rw [hid]
  exact ⟨List.contains_iff_mem.mp (List.mem_filter.mp hi).2, htracked⟩

/-- How the check found a unit that came. -/
theorem exists_welcomed (hnew : id ∈ (prepared plan h).fresh)
    (tracked : (run plan h).host.table.unit? id = some u)
    (passed : id ∈ (prepared plan h).host.graph.walk.order) :
    ∃ v, (prepared plan h).host.table.unit? id = some v ∧ u = v.welcomed := by
  rw [unit?_run] at tracked
  split at tracked
  · cases tracked
  · rw [if_pos ⟨passed, hnew⟩, Option.map_eq_some_iff] at tracked
    obtain ⟨v, hv, rfl⟩ := tracked
    exact ⟨v, hv, rfl⟩

/-- A tracked unit that is not new is as the check found it. -/
theorem prepared_of_old (hold : id ∉ (prepared plan h).fresh)
    (tracked : (run plan h).host.table.unit? id = some u) :
    (prepared plan h).host.table.unit? id = some u := by
  rw [unit?_run] at tracked
  split at tracked
  · cases tracked
  · rwa [if_neg fun hboth => hold hboth.2] at tracked

theorem ready_of_came (hconsistent : h.table.Consistent) (hu : u ∈ plan.came h)
    (guest : u.id ≠ h.settings.identity.id) : u.state = .ready := by
  obtain ⟨hnew, htracked⟩ := tracked_of_came hconsistent hu
  obtain ⟨v, hv, hwelcomed⟩ := exists_welcomed hnew htracked
    (passed_of_tracked hconsistent htracked guest)
  have hlive := (consistent_prepared hconsistent).unit_live hv
  rw [hwelcomed]
  exact hlive.ready_welcomed

theorem came_sublist (hconsistent : h.table.Consistent) :
    ((plan.came h).map PluginUnit.id).Sublist (prepared plan h).host.graph.walk.order :=
  ((consistent_run plan hconsistent).ids_filterMap _).trans List.filter_sublist

/-- No unit that came stands before one that it needs, however far off. -/
theorem came_behind (hconsistent : h.table.Consistent) :
    ((plan.came h).map PluginUnit.id).Pairwise fun a b => a ≠ b ∧
      ¬ Relation.TransGen ((run plan h).host.table.Depends h.settings.identity) a b := by
  have hdistinct : (prepared plan h).host.graph.ids.Nodup := distinct_prepared hconsistent
  have hwalk := Walk.walk_sound hdistinct
  have hordered := hwalk.memo.ordered.pairwise hdistinct hwalk.memo.nodup
  refine ((List.Pairwise.and hwalk.memo.nodup hordered).sublist (came_sublist hconsistent)).imp ?_
  rintro a b ⟨hother, hbehind⟩
  exact ⟨hother, fun hdepends => hbehind
    (Relation.TransGen.mono (fun _ _ => needs_of_depends hconsistent) a b hdepends)⟩

theorem newcomers_prepared (plan : Plan) (hconsistent : h.table.Consistent) :
    Newcomers h (prepared plan h) :=
  (Newcomers.start h).transitions hconsistent (prepared_transitions plan h)

theorem arrived_run (plan : Plan) (h : Host) :
    (run plan h).result.arrived = (prepared plan h).result.arrived := by
  obtain ⟨hload, hreload⟩ := loads_validate (prepared plan h)
  rw [result_run, BatchResult.arrived, BatchResult.arrived, hload, hreload]

/-- Those that came are those that the result tells of as loaded, or loaded again. -/
theorem mem_came_iff_arrived (hconsistent : h.table.Consistent)
    (tracked : (run plan h).host.table.unit? id = some u) (guest : id ≠ h.settings.identity.id) :
    u ∈ plan.came h ↔ u.target ∈ (run plan h).result.arrived := by
  have hnewcomers := newcomers_prepared plan hconsistent
  rw [mem_came_iff hconsistent tracked guest, arrived_run]
  constructor
  · intro hnew
    obtain ⟨v, hv, rfl⟩ :=
      exists_welcomed hnew tracked (passed_of_tracked hconsistent tracked guest)
    rw [v.target_welcomed]
    exact hnewcomers.told id v hv hnew
  · intro harrived
    by_contra hold
    have hunmoved := hnewcomers.unmoved id u (prepared_of_old hold tracked) hold
    have hother := hunmoved.arrived u.target harrived
    rw [u.path_target, Path.same_iff.mpr rfl] at hother
    cases hother

/-! ### What is submitted -/

theorem flatMap_of_filter {α β γ : Type} {l : List α} {p : α → Bool} {f : α → Option β}
    {g : β → List γ} {k : α → List γ}
    (same : ∀ a ∈ l, k a = if p a then (f a).toList.flatMap g else []) :
    l.flatMap k = ((l.filter p).filterMap f).flatMap g := by
  induction l with
  | nil => rfl
  | cons a rest ih =>
      rw [List.flatMap_cons, same a List.mem_cons_self,
        ih fun b hb => same b (List.mem_cons_of_mem a hb)]
      cases hp : p a with
      | false => simp [hp]
      | true => cases hf : f a <;> simp [hp, hf]

theorem loadNotices_validate (hconsistent : h.table.Consistent) :
    (validate (prepared plan h)).order.flatMap
        ((validate (prepared plan h)).host.table.loadNotices (validate (prepared plan h)).fresh) =
      (plan.came h).flatMap (·.tasks .pluginLoad) := by
  have hchecked := validate_validated (prepared plan h)
  rw [order_validate hconsistent, Plan.came]
  apply flatMap_of_filter
  intro id hid
  rw [UnitTable.loadNotices, hchecked.unit?_eq, hchecked.fresh, unit?_run]
  simp only [if_neg (not_failed_of_passed hconsistent hid), List.contains_iff_mem]
  by_cases hnew : id ∈ (prepared plan h).fresh
  · simp only [hnew, hid, and_self, if_true]
    cases (prepared plan h).host.table.unit? id <;> simp
  · simp only [hnew, if_false]

theorem name_of_tasks {event : Event} (htask : task ∈ u.tasks event) :
    task.name = event.listenerName ∧ task.priority = event.priority := by
  obtain ⟨l, hl, rfl⟩ := List.mem_map.mp htask
  have hevent : l.event = event := of_decide_eq_true (List.mem_filter.mp hl).2
  exact ⟨congrArg Event.listenerName hevent, congrArg Event.priority hevent⟩

/-- All tasks of a batch are of one class. -/
theorem priority_of_notices {b : Batch} (htask : task ∈ b.notices) : task.priority = .regular := by
  obtain ⟨u, event, htells, hmem⟩ := mem_notices_iff.mp htask
  rw [(name_of_tasks hmem).2]
  cases htells <;> rfl

/-! ### The whole -/

/-- The tasks for listeners of units that came, and behind them for those of units that went. -/
def announcements (came gone : List PluginUnit) : List (PoolTask Call) :=
  came.flatMap (·.tasks .pluginLoad) ++ gone.flatMap (·.tasks .pluginUnload)

/-- Who hears what of a batch: units that came or came back, in the order of the check, and units
that went, in the order they did. Units that could not be loaded again are listed as they were
before and as what hears that they go. -/
structure Announcements (plan : Plan) (h : Host) (came pruned : List PluginUnit)
    (lost : List (PluginUnit × PluginUnit)) (expelled : List PluginUnit) : Prop where
  came_iff : ∀ id u, (run plan h).host.table.unit? id = some u →
    (u ∈ came ↔ u.target ∈ (run plan h).result.arrived)
  came_tracked : ∀ u ∈ came, (run plan h).host.table.unit? u.id = some u ∧ u.state = .ready
  came_order : (came.map PluginUnit.id).Sublist (prepared plan h).host.graph.walk.order
  came_behind : (came.map PluginUnit.id).Pairwise fun a b => a ≠ b ∧
    ¬ Relation.TransGen ((run plan h).host.table.Depends h.settings.identity) a b
  pruned_tracked : ∀ u ∈ pruned, h.table.unit? u.id = some u
  pruned_order : pruned.map PluginUnit.id = plan.doomed h
  pruned_once : (pruned.map PluginUnit.id).Nodup
  lost_each : ∀ l ∈ lost, h.table.unit? l.1.id = some l.1 ∧ l.1.Lost h.env l.2
  lost_order : (lost.map fun l => l.1.id).Sublist (plan.gathered h)
  lost_once : (lost.map fun l => l.1.id).Nodup
  lost_told : (run plan h).result.reload.failed = lost.map fun l => l.2.target
  expelled_tracked : ∀ u ∈ expelled, (prepared plan h).host.table.unit? u.id = some u
  expelled_order : (expelled.map PluginUnit.id).Pairwise (· < ·)
  expelled_told : (run plan h).result.dependencyCheck.failed = expelled.map PluginUnit.target
  balance : (h.table.units.map PluginUnit.path ++
      (run plan h).result.load.succeeded.map Target.path).Perm
    ((run plan h).host.table.units.map PluginUnit.path ++
      (pruned ++ lost.map Prod.snd ++ expelled).map PluginUnit.path)
  others : ∀ id u, (run plan h).host.table.unit? id = some u → u ∉ came →
    h.table.unit? id = some u ∧
      ∀ w ∈ came ++ (pruned ++ lost.map Prod.snd ++ expelled), w.path.same u.path = false
  heard : ∀ u ∈ came ++ (pruned ++ lost.map Prod.snd ++ expelled), u.Hears

theorem nodup_gathered (plan : Plan) (hconsistent : h.table.Consistent) :
    (plan.gathered h).Nodup := by
  have hfurnished := (furnished_transitions plan h).consistent hconsistent
  unfold Plan.gathered
  cases plan.refresh with
  | none => exact List.nodup_nil
  | some condition =>
      dsimp only
      rw [Batch.gathered, associated_snd]
      split
      · exact List.nodup_nil
      · exact Walk.nodup_affected (Host.distinct_graph hfurnished)

theorem doomed_pruned (plan : Plan) (hconsistent : h.table.Consistent) : (plan.doomed h).Nodup ∧
    (plan.pruned h).map PluginUnit.id = plan.doomed h := by
  unfold Plan.pruned Plan.doomed
  cases plan.prune with
  | none => exact ⟨List.nodup_nil, rfl⟩
  | some condition => exact ⟨Host.nodup_doomed hconsistent,
      hconsistent.ids_of_tracked fun id hid => Host.tracked_of_doomed hconsistent hid⟩

/-- Units that failed the check stand in the order of their ids. -/
theorem expelled_sorted (plan : Plan) (hconsistent : h.table.Consistent) (hsorted : h.table.Sorted) :
    ((prepared plan h).expelled.map PluginUnit.id).Pairwise (· < ·) := by
  have hprepared : (prepared plan h).host.table.Consistent := consistent_prepared hconsistent
  have hids : (prepared plan h).host.graph.ids = (prepared plan h).host.table.ids :=
    Host.ids_graph hprepared
  have hascending : (prepared plan h).host.graph.ids.Pairwise (· < ·) := by
    rw [hids]
    exact sorted_prepared plan hsorted
  have hwalk := Walk.walk_sound (Host.distinct_graph hprepared)
  exact hascending.sublist ((hprepared.ids_filterMap _).trans hwalk.sublist)

section

variable {lost : List (PluginUnit × PluginUnit)}
  (losses : ReloadLosses h (plan.gathered h) (furnished plan h) (prepared plan h) lost)
include losses

theorem departed_validate (hconsistent : h.table.Consistent) :
    (validate (prepared plan h)).departed =
      (plan.pruned h ++ lost.map Prod.snd ++ (prepared plan h).expelled).map PluginUnit.leaving := by
  have hprepared : (prepared plan h).host.table.Consistent := consistent_prepared hconsistent
  rw [(validate_expelled hprepared).1, losses.departed, (furnished_keeps plan hconsistent).1,
    List.map_append, List.map_append, List.map_map]
  rfl

theorem notices_eq (hconsistent : h.table.Consistent) : (validate (prepared plan h)).notices =
    announcements (plan.came h)
      (plan.pruned h ++ lost.map Prod.snd ++ (prepared plan h).expelled) := by
  rw [notices, loadNotices_validate hconsistent, departed_validate losses hconsistent,
    announcements, List.flatMap_map]
  rfl

/-- A unit that did not come, come back or go shares no file with any that did. -/
theorem apart_of_old (hconsistent : h.table.Consistent)
    (tracked : (run plan h).host.table.unit? id = some u) (old : id ∉ (prepared plan h).fresh) :
    h.table.unit? id = some u ∧ ∀ w ∈ plan.came h ++
      (plan.pruned h ++ lost.map Prod.snd ++ (prepared plan h).expelled),
        w.path.same u.path = false := by
  have hprepared : (prepared plan h).host.table.Consistent := consistent_prepared hconsistent
  have hfound := prepared_of_old old tracked
  have hunmoved := (newcomers_prepared plan hconsistent).unmoved id u hfound old
  have hdeparted : (prepared plan h).departed =
      (plan.pruned h ++ lost.map Prod.snd).map PluginUnit.leaving := by
    rw [losses.departed, (furnished_keeps plan hconsistent).1, List.map_append, List.map_map]
    rfl
  refine ⟨hunmoved.kept, fun w hw => ?_⟩
  rcases List.mem_append.mp hw with hcame | hgone
  · obtain ⟨hnew, htracked⟩ := tracked_of_came hconsistent hcame
    exact (consistent_run plan hconsistent).not_same_file htracked tracked
      fun heq => old (heq ▸ hnew)
  · rcases List.mem_append.mp hgone with hbefore | hexpelled
    · exact hunmoved.departed w.leaving (hdeparted ▸ List.mem_map_of_mem hbefore)
    · refine apart_of_passed hprepared hfound (fun hfailed => ?_) w hexpelled
      rw [unit?_run, if_pos hfailed] at tracked
      cases tracked

theorem live_of_announcements (hconsistent : h.table.Consistent) : ∀ w ∈ plan.came h ++
    (plan.pruned h ++ lost.map Prod.snd ++ (prepared plan h).expelled), w.Live := by
  have hprepared : (prepared plan h).host.table.Consistent := consistent_prepared hconsistent
  intro w hw
  rcases List.mem_append.mp hw with hcame | hgone
  · exact (consistent_run plan hconsistent).unit_live (tracked_of_came hconsistent hcame).2
  · rcases List.mem_append.mp hgone with hbefore | hexpelled
    · rcases List.mem_append.mp hbefore with hpruned | hlost
      · exact hconsistent.unit_live (hconsistent.tracked_of_mem hpruned)
      · obtain ⟨l, hl, rfl⟩ := List.mem_map.mp hlost
        exact (losses.each l hl).2.2
    · exact hprepared.unit_live (hprepared.tracked_of_mem hexpelled)

/-- What went, and what was tracked before or came, are the same files. -/
theorem balance_of_losses (hconsistent : h.table.Consistent) :
    (h.table.units.map PluginUnit.path ++
        (run plan h).result.load.succeeded.map Target.path).Perm
      ((run plan h).host.table.units.map PluginUnit.path ++
        (plan.pruned h ++ lost.map Prod.snd ++ (prepared plan h).expelled).map PluginUnit.path) := by
  have hbalance := (balanced_validate plan hconsistent).balance
  rw [departed_validate losses hconsistent, List.map_map] at hbalance
  rw [result_run]
  exact hbalance.trans ((paths_run plan hconsistent).symm.append_right _)

theorem announcements_of_losses (hconsistent : h.table.Consistent) (hsorted : h.table.Sorted)
    (foreign : h.settings.identity.id ∉ (prepared plan h).host.table.ids) :
    Announcements plan h (plan.came h) (plan.pruned h) lost (prepared plan h).expelled := by
  have hprepared : (prepared plan h).host.table.Consistent := consistent_prepared hconsistent
  have hguest : ∀ id u, (run plan h).host.table.unit? id = some u → id ≠ h.settings.identity.id := by
    rintro id u tracked rfl
    rw [unit?_run_host plan hconsistent, UnitTable.unit?_eq_none_iff.mpr foreign] at tracked
    cases tracked
  obtain ⟨hpruned, hreload, hcheck⟩ := furnished_keeps plan hconsistent
  refine
    { came_iff := fun id u tracked =>
        mem_came_iff_arrived hconsistent tracked (hguest id u tracked)
      came_tracked := ?_
      came_order := came_sublist hconsistent
      came_behind := came_behind hconsistent
      pruned_tracked := fun u hu => hconsistent.tracked_of_mem hu
      pruned_order := (doomed_pruned plan hconsistent).2
      pruned_once := ?_
      lost_each := fun l hl => ⟨(losses.each l hl).1, (losses.each l hl).2.1⟩
      lost_order := losses.order
      lost_once := (nodup_gathered plan hconsistent).sublist losses.order
      lost_told := ?_
      expelled_tracked := fun u hu => hprepared.tracked_of_mem hu
      expelled_order := expelled_sorted plan hconsistent hsorted
      expelled_told := ?_
      balance := balance_of_losses losses hconsistent
      others := ?_
      heard := fun w hw => (live_of_announcements losses hconsistent w hw).hears }
  · intro u hu
    obtain ⟨_, htracked⟩ := tracked_of_came hconsistent hu
    exact ⟨htracked, ready_of_came hconsistent hu (hguest _ _ htracked)⟩
  · rw [(doomed_pruned plan hconsistent).2]
    exact (doomed_pruned plan hconsistent).1
  · rw [result_run, (loads_validate _).2, losses.failed, hreload]
    rfl
  · rw [result_run, (validate_expelled hprepared).2, losses.check, hcheck]
    rfl
  · intro id u tracked hout
    rw [mem_came_iff hconsistent tracked (hguest id u tracked)] at hout
    exact apart_of_old losses hconsistent tracked hout

end

end Batch

/-- In every run, where no unit goes by the id of the host, a batch submits exactly the tasks that
tell units that they came and, behind these, units that they went. Where there is one worker and no
other is made, they run one by one in this order. -/
theorem Host.Reachable.batch_announcements {h : Host} (hreach : h.Reachable) (plan : Batch.Plan)
    (accepting : h.pool.shutDown = false)
    (foreign : h.settings.identity.id ∉ (Batch.prepared plan h).host.table.ids) :
    ∃ came pruned lost expelled, Batch.Announcements plan h came pruned lost expelled ∧
      h.pool.Took (Batch.announcements came (pruned ++ lost.map Prod.snd ++ expelled))
        (Batch.run plan h).host.pool ∧
      (h.pool.Reachable → h.pool.present.length ≤ 1 → ∀ q,
        h.pool.Serves (Batch.announcements came (pruned ++ lost.map Prod.snd ++ expelled)) q →
          (h.pool.overflow = .queue ∨ q.NoTemporary h.pool.nextSequence) →
            h.pool.OneByOne (Batch.announcements came (pruned ++ lost.map Prod.snd ++ expelled))
              q) := by
  obtain ⟨lost, hlosses⟩ := Batch.prepared_losses plan hreach.consistent
  have hnotices := Batch.notices_eq hlosses hreach.consistent
  have hoffered := Batch.run_offered plan hreach.consistent
  rw [Pool.Offered, accepting, hnotices] at hoffered
  refine ⟨_, _, lost, _,
    Batch.announcements_of_losses hlosses hreach.consistent hreach.sorted foreign,
    hoffered, ?_⟩
  intro hpool single q hserves alone
  refine hserves.oneByOne hpool.sound single ?_ alone
  -- All tasks of a batch are of one class, so none overtakes another.
  rw [← hnotices]
  apply List.pairwise_of_forall_mem_list
  intro a ha b hb
  have hclass : a.priority = b.priority :=
    (Batch.priority_of_notices ha).trans (Batch.priority_of_notices hb).symm
  exact Nat.le_of_eq (congrArg Priority.rank hclass)

namespace HostWitness

/-- A host whose only worker does all that plugins are to hear. -/
def queueing : Host := { settled with pool := .create 1 .queue .none }

/-- A batch that drops a plugin and loads another one again. -/
def mixed : Batch.Plan where
  prune := some fun u => u.id = "lone"
  discover := none
  refresh := some fun u => u.id = "core"

theorem queueing_batch_announcements : queueing.Reachable ∧
    ((Batch.run mixed queueing).host.pool.queue.map fun task =>
      (task.work.listener.origin, task.work.listener.name)) =
        [("core", "came"), ("lone", "went"), ("chat", "went")] ∧
    ∃ came pruned lost expelled, Batch.Announcements mixed queueing came pruned lost expelled ∧
      ∀ q, queueing.pool.Serves
          (Batch.announcements came (pruned ++ lost.map Prod.snd ++ expelled)) q →
        queueing.pool.OneByOne
          (Batch.announcements came (pruned ++ lost.map Prod.snd ++ expelled)) q := by
  have hreach : queueing.Reachable :=
    ((Host.Reachable.create _ _ _ _ _).foldl _).meanwhile settled.files settled.trace.log
      (.create 1 .queue .none)
  have hqueue : ((Batch.run mixed queueing).host.pool.queue.map fun task =>
      (task.work.listener.origin, task.work.listener.name)) =
        [("core", "came"), ("lone", "went"), ("chat", "went")] := by decide +kernel
  have hforeign : queueing.settings.identity.id ∉ (Batch.prepared mixed queueing).host.table.ids := by
    decide +kernel
  obtain ⟨came, pruned, lost, expelled, hannouncements, _, hserial⟩ :=
    hreach.batch_announcements mixed rfl hforeign
  refine ⟨hreach, hqueue, came, pruned, lost, expelled, hannouncements, fun q hserves => ?_⟩
  exact hserial (.create 1 .queue .none) (by decide) q hserves (.inl rfl)

/-- The same host with a pool that makes temporary workers. -/
def hurried : Host := { settled with pool := .create 1 .spawn .none }

/-- What a task is for: the plugin that hears, and its listener. -/
def heard (task : PoolTask Call) : String × String :=
  (task.work.listener.origin, task.work.listener.name)

/-- With one worker and such a pool, the last plugin of a batch may hear that it goes while the one
before it does not know yet. -/
theorem hurried_out_of_order : hurried.Reachable ∧ hurried.pool.Reachable ∧
    hurried.pool.present.length = 1 ∧ hurried.pool.shutDown = false ∧
    hurried.settings.identity.id ∉ (Batch.prepared mixed hurried).host.table.ids ∧
    ∃ tasks q, hurried.pool.Took tasks (Batch.run mixed hurried).host.pool ∧
      tasks.map heard = [("core", "came"), ("lone", "went"), ("chat", "went")] ∧
      hurried.pool.Serves tasks q ∧ q.starts.map heard = [("core", "came"), ("chat", "went")] ∧
      q.queue.map heard = [("lone", "went")] ∧ ¬ hurried.pool.OneByOne tasks q := by
  have hreach : hurried.Reachable :=
    ((Host.Reachable.create _ _ _ _ _).foldl _).meanwhile settled.files settled.trace.log
      (.create 1 .spawn .none)
  have hforeign : hurried.settings.identity.id ∉ (Batch.prepared mixed hurried).host.table.ids := by
    decide +kernel
  have hoffered := Batch.run_offered mixed hreach.consistent
  have hheard : (Batch.validate (Batch.prepared mixed hurried)).notices.map heard =
      [("core", "came"), ("lone", "went"), ("chat", "went")] := by decide +kernel
  obtain ⟨a, b, c, habc⟩ :
      ∃ a b c, (Batch.validate (Batch.prepared mixed hurried)).notices = [a, b, c] :=
    List.length_eq_three.mp (by simpa using congrArg List.length hheard)
  have hregular : ∀ task ∈ [a, b, c], task.priority = .regular :=
    fun task htask => Batch.priority_of_notices (habc ▸ htask)
  rw [habc] at hoffered hheard
  simp only [List.map_cons, List.map_nil, List.cons.injEq, and_true] at hheard
  obtain ⟨ha, hb, hc⟩ := hheard
  obtain ⟨q, hserves, hqueue, hstarts, hnot⟩ := Pool.Serves.exists_not_oneByOne .none a b c
    ((hregular a (by simp)).trans (hregular b (by simp)).symm)
  refine ⟨hreach, .create 1 .spawn .none, by decide, rfl, hforeign, [a, b, c], q, hoffered, ?_,
    hserves, ?_, ?_, hnot⟩
  · simp [ha, hb, hc]
  · rw [hstarts]
    exact congrArg₂ (fun x y => [x, y]) ha hc
  · rw [hqueue]
    exact congrArg (fun x => [x]) hb

end HostWitness

end PluginHost
