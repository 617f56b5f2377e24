import PluginHost.Proofs.Host.Pruning
import PluginHost.Proofs.Plugin.ListenerOrder

/-!
Who comes and who goes in a batch, phase by phase. What is noted as new is what
the result tells of as loaded, or loaded again; all other tracked units are
those that were there before, and share no file with any that came or went.
Units go in the first phase, when they could not be loaded again, and when
they fail the check, in this order.
-/
namespace PluginHost

/-- What a result says of units that came, or came back. -/
def BatchResult.arrived (r : BatchResult) : List Target :=
  r.load.succeeded ++ r.reload.succeeded

namespace Batch

variable {h : Host} {b after : Batch} {id : String} {u v : PluginUnit}

/-! ### Who is new -/

/-- Nothing happened to a tracked unit: it was there before, and nobody of its file came or went. -/
structure Unmoved (h : Host) (b : Batch) (id : String) (u : PluginUnit) : Prop where
  kept : h.table.unit? id = some u
  departed : ∀ w ∈ b.departed, w.path.same u.path = false
  arrived : ∀ t ∈ b.result.arrived, t.path.same u.path = false

/-- A batch that notes as new exactly the units it tells of as loaded, or loaded again. -/
structure Newcomers (h : Host) (b : Batch) : Prop where
  told : ∀ id u, b.host.table.unit? id = some u → id ∈ b.fresh → u.target ∈ b.result.arrived
  unmoved : ∀ id u, b.host.table.unit? id = some u → id ∉ b.fresh → Unmoved h b id u

namespace Newcomers

theorem start (h : Host) : Newcomers h (.start h) where
  told := fun _ _ _ hnew => absurd hnew List.not_mem_nil
  unmoved := fun _ _ hu _ => ⟨hu, by simp [Batch.start],
    by simp [Batch.start, BatchResult.arrived, BatchResult.empty, PhaseResult.empty]⟩

theorem congr (hb : Newcomers h b) (table : after.host.table = b.host.table)
    (fresh : after.fresh = b.fresh) (departed : after.departed = b.departed)
    (arrived : after.result.arrived = b.result.arrived) : Newcomers h after where
  told := by
    rw [table, fresh, arrived]
    exact hb.told
  unmoved := by
    intro i w hw hold
    rw [table] at hw
    rw [fresh] at hold
    have hunmoved := hb.unmoved i w hw hold
    exact ⟨hunmoved.kept, departed ▸ hunmoved.departed, arrived ▸ hunmoved.arrived⟩

/-- A unit goes. -/
theorem leave (hb : Newcomers h b) (hconsistent : b.host.table.Consistent)
    (tracked : b.host.table.unit? id = some u) (path : v.path = u.path)
    (table : after.host.table = b.host.table.erase id) (fresh : after.fresh = b.fresh)
    (departed : after.departed = b.departed ++ [v])
    (arrived : after.result.arrived = b.result.arrived) : Newcomers h after where
  told := by
    intro i w hw hnew
    rw [table] at hw
    rw [fresh] at hnew
    rw [arrived]
    exact hb.told i w (hconsistent.stays tracked hw).1 hnew
  unmoved := by
    intro i w hw hold
    rw [table] at hw
    rw [fresh] at hold
    obtain ⟨hthere, hother⟩ := hconsistent.stays tracked hw
    have hunmoved := hb.unmoved i w hthere hold
    refine ⟨hunmoved.kept, ?_, arrived ▸ hunmoved.arrived⟩
    intro gone hgone
    rw [departed] at hgone
    rcases List.mem_append.mp hgone with hbefore | hlast
    · exact hunmoved.departed gone hbefore
    · rw [List.mem_singleton.mp hlast, path]
      exact hother

/-- A unit comes, or comes back. -/
theorem arrive (hb : Newcomers h b) (id : String)
    (units : ∀ i, after.host.table.unit? i =
      if i = v.id then some v else if i = id then none else b.host.table.unit? i)
    (apart : ∀ i w, i ≠ v.id → i ≠ id → b.host.table.unit? i = some w → v.path.same w.path = false)
    (fresh : after.fresh = b.fresh ++ [v.id]) (departed : after.departed = b.departed)
    (arrived : ∀ t, t ∈ after.result.arrived ↔ t ∈ b.result.arrived ∨ t = v.target) :
    Newcomers h after where
  told := by
    intro i w hw hnew
    rw [units] at hw
    rw [arrived]
    split at hw
    · cases hw
      exact .inr rfl
    · next hother =>
        split at hw
        · cases hw
        · rw [fresh, List.mem_append, List.mem_singleton] at hnew
          exact .inl (hb.told i w hw (hnew.resolve_right hother))
  unmoved := by
    intro i w hw hold
    rw [fresh, List.mem_append, List.mem_singleton, not_or] at hold
    rw [units, if_neg hold.2] at hw
    split at hw
    · cases hw
    · next hother =>
        have hunmoved := hb.unmoved i w hw hold.1
        refine ⟨hunmoved.kept, departed ▸ hunmoved.departed, ?_⟩
        intro t ht
        rcases (arrived t).mp ht with hbefore | rfl
        · exact hunmoved.arrived t hbefore
        · rw [v.path_target]
          exact apart i w hold.2 hother hw

theorem mem_arrived_noteReload (b : Batch) (target t : Target) :
    t ∈ (b.noteReload target true).result.arrived ↔ t ∈ b.result.arrived ∨ t = target := by
  simp [noteReload, PhaseResult.note, BatchResult.arrived, or_assoc]

theorem mem_arrived_noteLoad (b : Batch) (target t : Target) :
    t ∈ (b.noteLoad target true).result.arrived ↔ t ∈ b.result.arrived ∨ t = target := by
  simp only [noteLoad, PhaseResult.note, BatchResult.arrived, if_true, List.mem_append,
    List.mem_singleton]
  exact or_right_comm

theorem refreshed (hb : Newcomers h b) (hconsistent : b.host.table.Consistent)
    (tracked : b.host.table.unit? id = some u) (refreshed : b.Refreshed id u after) :
    Newcomers h after := by
  cases refreshed with
  | @kept v loaded log back same =>
      refine hb.arrive (v := v) id ?_ ?_ (same ▸ rfl) rfl
        (fun t => mem_arrived_noteReload b v.target t)
      · intro i
        refine (UnitTable.unit?_update_tracked tracked v).trans ?_
        rw [same]
        by_cases hi : i = id <;> simp [hi]
      · intro i w _ hi hw
        rw [back.path]
        exact hconsistent.not_same_file tracked hw (Ne.symm hi)
  | @moved v loaded log back free =>
      refine hb.arrive (v := v) id (fun i => UnitTable.unit?_moved tracked v) ?_ rfl rfl
        (fun t => mem_arrived_noteReload b v.target t)
      intro i w _ hi hw
      rw [back.path]
      exact hconsistent.not_same_file tracked hw (Ne.symm hi)
  | failedReload failedReload leaves =>
      obtain ⟨rfl, _⟩ := (hconsistent.unit_live tracked).bare.leaves leaves
      exact hb.leave hconsistent tracked (v := u.bare.leaving) rfl rfl rfl rfl rfl
  | @taken v w gone loaded rest result log back other taken leaves =>
      obtain ⟨rfl, _⟩ := back.live.leaves leaves
      exact hb.leave hconsistent tracked (v := v.leaving) back.path rfl rfl rfl rfl

theorem transition (hb : Newcomers h b) (hconsistent : b.host.table.Consistent)
    (htransition : Transition b after) :
    Newcomers h after := by
  cases htransition with
  | record log => exact hb.congr rfl rfl rfl rfl
  | @prune id u gone calls result log tracked leaves =>
      obtain ⟨rfl, _⟩ := (hconsistent.unit_live tracked).leaves leaves
      exact hb.leave hconsistent tracked (v := u.leaving) rfl rfl rfl rfl rfl
  | refuse _ _ => exact hb.congr rfl rfl rfl rfl
  | @enter u loaded log live state held newId newPath =>
      refine hb.arrive (v := u) u.id ?_ ?_ rfl rfl
        (fun t => mem_arrived_noteLoad b u.target t)
      · intro i
        refine (UnitTable.unit?_insert u.path).trans ?_
        by_cases hi : i = u.id <;> simp [hi]
      · intro i w _ _ hw
        have hfree := hconsistent.apart_of_free newPath w
          (List.mem_map.mpr ⟨(i, w), UnitTable.mem_of_unit? hw, rfl⟩)
        rw [← Bool.not_eq_true, Path.same_iff]
        exact hfree.symm
  | refresh tracked refreshed => exact hb.refreshed hconsistent tracked refreshed
  | @expel id u gone calls result log tracked leaves =>
      obtain ⟨rfl, _⟩ := (hconsistent.unit_live tracked).leaves leaves
      exact hb.leave hconsistent tracked (v := u.leaving) rfl rfl rfl rfl rfl

theorem transitions (hb : Newcomers h b) (hconsistent : b.host.table.Consistent)
    (htransitions : Transitions b after) : Newcomers h after := by
  have hboth := htransitions.keep (P := fun b => b.host.table.Consistent ∧ Newcomers h b)
    (fun htransition hbefore => ⟨htransition.transitions.consistent hbefore.1,
      hbefore.2.transition hbefore.1 htransition⟩)
    ⟨hconsistent, hb⟩
  exact hboth.2

end Newcomers

/-! ### Who goes -/

/-- What does not change where nobody goes. -/
structure Keeps (b after : Batch) : Prop where
  departed : after.departed = b.departed
  reload : after.result.reload = b.result.reload
  check : after.result.dependencyCheck = b.result.dependencyCheck

theorem discard_keeps (b : Batch) (u : PluginUnit) : b.Keeps (b.discard u) := by
  unfold discard
  dsimp only
  split <;> exact ⟨rfl, rfl, rfl⟩

theorem discoverOne_keeps (b : Batch) (path : Path) : b.Keeps (b.discoverOne path) := by
  unfold discoverOne
  split
  · exact ⟨rfl, rfl, rfl⟩
  · split
    · exact ⟨rfl, rfl, rfl⟩
    · dsimp only
      split
      · next _ unit trace _ _ existing _ =>
          obtain ⟨hdeparted, hreload, hcheck⟩ := discard_keeps
            (Batch.tell { b with host := { b.host with trace } } .error
              "plugin_manager.load_plugin.duplicate" [unit.title, path.text, existing.text]) unit
          exact ⟨hdeparted, hreload, hcheck⟩
      · exact ⟨rfl, rfl, rfl⟩

theorem discover_keeps (files : List Path) (b : Batch) : b.Keeps (discover files b) := by
  induction files generalizing b with
  | nil => exact ⟨rfl, rfl, rfl⟩
  | cons path rest ih =>
      have hfirst := b.discoverOne_keeps path
      have hrest := ih (b.discoverOne path)
      exact ⟨hrest.departed.trans hfirst.departed, hrest.reload.trans hfirst.reload,
        hrest.check.trans hfirst.check⟩

/-- What a unit works with does not change in a batch. -/
theorem Transitions.env (h : Transitions b after) : after.host.env = b.host.env :=
  h.keep (P := fun after => after.host.env = b.host.env) (fun htransition hbefore => by
    refine Eq.trans ?_ hbefore
    cases htransition with
    | refresh _ refreshed => cases refreshed <;> rfl
    | _ => rfl) rfl

end Batch

/-- A unit that could not be loaded again, with what hears that it goes: the unit as it was, if the
reload failed, or as the reload left it, if it brought another id. -/
inductive PluginUnit.Lost (env : UnitEnv) (u : PluginUnit) : PluginUnit → Prop
  | failed {v : PluginUnit} {cause : PluginError} {t after : Trace}
      (ran : u.reload env t = (v, .error cause, after)) : Lost env u u
  | taken {v : PluginUnit} {t after : Trace} (ran : u.reload env t = (v, .ok (), after))
      (other : v.id ≠ u.id) : Lost env u v

namespace Batch

variable {h : Host} {b after last : Batch} {id : String} {ids more : List String}
  {lost others : List (PluginUnit × PluginUnit)}

/-- What holds of loading one unit again, and of more if it holds of each, holds of loading some. -/
theorem foldl_refreshOne {R : List String → Batch → Batch → Prop} (none : ∀ b, R [] b b)
    (one : ∀ {b : Batch}, b.host.table.Consistent → Newcomers h b → b.host.env = h.env →
      ∀ id, R [id] b (b.refreshOne id))
    (more : ∀ id rest b after last, R [id] b after → R rest after last → R (id :: rest) b last)
    (hconsistent : b.host.table.Consistent) (hnew : Newcomers h b) (env : b.host.env = h.env)
    (ids : List String) : R ids b (ids.foldl Batch.refreshOne b) := by
  induction ids generalizing b with
  | nil => exact none b
  | cons id rest ih =>
      have htransitions := b.refreshOne_transitions id
      exact more id rest b _ _ (one hconsistent hnew env id)
        (ih (htransitions.consistent hconsistent) (hnew.transitions hconsistent htransitions)
          (htransitions.env.trans env))

/-- What loading some units again does to those that cannot be: they go, in the order it was tried,
and the result tells of them. -/
structure ReloadLosses (h : Host) (ids : List String) (b after : Batch)
    (lost : List (PluginUnit × PluginUnit)) : Prop where
  order : (lost.map fun l => l.1.id).Sublist ids
  each : ∀ l ∈ lost, h.table.unit? l.1.id = some l.1 ∧ l.1.Lost h.env l.2 ∧ l.2.Live
  departed : after.departed = b.departed ++ lost.map fun l => l.2.leaving
  failed : after.result.reload.failed = b.result.reload.failed ++ lost.map fun l => l.2.target
  check : after.result.dependencyCheck = b.result.dependencyCheck

namespace ReloadLosses

theorem nobody (departed : after.departed = b.departed)
    (failed : after.result.reload.failed = b.result.reload.failed)
    (check : after.result.dependencyCheck = b.result.dependencyCheck) :
    ReloadLosses h ids b after [] where
  order := List.nil_sublist ids
  each := by simp
  departed := by simpa using departed
  failed := by simpa using failed
  check := check

theorem trans (hfirst : ReloadLosses h ids b after lost)
    (hlast : ReloadLosses h more after last others) :
    ReloadLosses h (ids ++ more) b last (lost ++ others) where
  order := by
    rw [List.map_append]
    exact hfirst.order.append hlast.order
  each := by
    intro l hl
    rcases List.mem_append.mp hl with hl | hl
    · exact hfirst.each l hl
    · exact hlast.each l hl
  departed := by
    rw [hlast.departed, hfirst.departed, List.map_append, List.append_assoc]
  failed := by
    rw [hlast.failed, hfirst.failed, List.map_append, List.append_assoc]
  check := hlast.check.trans hfirst.check

theorem refreshOne (hconsistent : b.host.table.Consistent) (hnew : Newcomers h b)
    (env : b.host.env = h.env) (id : String) :
    ∃ lost, ReloadLosses h [id] b (b.refreshOne id) lost := by
  rcases b.refreshOne_cases id with hskip | ⟨u, tracked, hold, hrefreshed⟩
  · exact ⟨[], by rw [hskip]; exact .nobody rfl rfl rfl⟩
  · have hid : u.id = id := hconsistent.id_eq tracked
    have hkept : h.table.unit? u.id = some u := hid ▸ (hnew.unmoved id u tracked hold).kept
    have hlive : u.Live := hconsistent.unit_live tracked
    generalize b.refreshOne id = after at hrefreshed
    cases hrefreshed with
    | kept _ _ => exact ⟨[], .nobody rfl rfl rfl⟩
    | moved _ _ => exact ⟨[], .nobody rfl rfl rfl⟩
    | failedReload failedReload leaves failed =>
        obtain ⟨rfl, _⟩ := hlive.bare.leaves leaves
        obtain ⟨v, cause, t, hran⟩ := failed
        refine ⟨[(u, u)], by simp [hid], ?_, rfl, rfl, rfl⟩
        intro l hl
        rw [List.mem_singleton.mp hl]
        exact ⟨hkept, .failed (env ▸ hran), hlive⟩
    | @taken v w gone loaded rest result log back other taken leaves brought =>
        obtain ⟨rfl, _⟩ := back.live.leaves leaves
        obtain ⟨t, hran⟩ := brought
        refine ⟨[(u, v)], by simp [hid], ?_, rfl, rfl, rfl⟩
        intro l hl
        rw [List.mem_singleton.mp hl]
        exact ⟨hkept, .taken (env ▸ hran) (hid ▸ other), back.live⟩

theorem foldl (hconsistent : b.host.table.Consistent) (hnew : Newcomers h b)
    (env : b.host.env = h.env) (ids : List String) :
    ∃ lost, ReloadLosses h ids b (ids.foldl Batch.refreshOne b) lost := by
  refine foldl_refreshOne (R := fun ids b after => ∃ lost, ReloadLosses h ids b after lost)
    (fun _ => ⟨[], .nobody rfl rfl rfl⟩) refreshOne ?_ hconsistent hnew env ids
  rintro id rest b after last ⟨lost, hfirst⟩ ⟨others, hrest⟩
  exact ⟨lost ++ others, hfirst.trans hrest⟩

end ReloadLosses

/-- The units that are to be loaded again when a condition chooses some, in the order that is
tried. -/
def gathered (condition : PluginUnit → Bool) (b : Batch) : List String :=
  (b.associated ((b.host.select fun u => reloadable u && condition u).filter
    fun id => !b.fresh.contains id) "reload").2

theorem refresh_eq (condition : PluginUnit → Bool) (b : Batch) : ∃ log, refresh condition b =
    (gathered condition b).foldl refreshOne
      { b with host := { b.host with trace := { b.host.trace with log } } } := by
  obtain ⟨log, hlog⟩ := b.associated_fst ((b.host.select fun u => reloadable u && condition u).filter
    fun id => !b.fresh.contains id) "reload"
  exact ⟨log, by rw [← hlog]; rfl⟩

/-- A batch after its first two phases. -/
def furnished (plan : Plan) (h : Host) : Batch :=
  phase discover plan.discover (phase prune plan.prune (start h))

/-- The ids of the units that go in the first phase, in the order they do. -/
def Plan.doomed (plan : Plan) (h : Host) : List String :=
  match plan.prune with
  | some condition => h.doomed condition
  | .none => []

/-- The units that go in the first phase, in the order they do. -/
def Plan.pruned (plan : Plan) (h : Host) : List PluginUnit :=
  (plan.doomed h).filterMap h.table.unit?

/-- The units that are to be loaded again, in the order that is tried. -/
def Plan.gathered (plan : Plan) (h : Host) : List String :=
  match plan.refresh with
  | some condition => Batch.gathered condition (furnished plan h)
  | .none => []

theorem furnished_keeps (plan : Plan) (hconsistent : h.table.Consistent) :
    (furnished plan h).departed = (plan.pruned h).map PluginUnit.leaving ∧
      (furnished plan h).result.reload = .empty ∧
      (furnished plan h).result.dependencyCheck = .empty := by
  have hprune : (phase prune plan.prune (start h)).departed =
        (plan.pruned h).map PluginUnit.leaving ∧
      (phase prune plan.prune (start h)).result.reload = .empty ∧
      (phase prune plan.prune (start h)).result.dependencyCheck = .empty := by
    unfold phase Plan.pruned Plan.doomed
    cases plan.prune with
    | none => exact ⟨rfl, rfl, rfl⟩
    | some condition =>
        obtain ⟨unload, calls, log, hpruned, _⟩ := Host.prune_start_eq hconsistent condition
        dsimp only
        rw [hpruned]
        exact ⟨rfl, rfl, rfl⟩
  have hdiscover : (phase prune plan.prune (start h)).Keeps (furnished plan h) := by
    unfold furnished phase
    cases plan.discover with
    | none => exact ⟨rfl, rfl, rfl⟩
    | some files => exact discover_keeps files _
  exact ⟨hdiscover.departed.trans hprune.1, hdiscover.reload.trans hprune.2.1,
    hdiscover.check.trans hprune.2.2⟩

theorem furnished_transitions (plan : Plan) (h : Host) : Transitions (start h) (furnished plan h) :=
  (phase_transitions prune_transitions plan.prune (start h)).trans
    (phase_transitions discover_transitions plan.discover _)

theorem prepared_eq (plan : Plan) (h : Host) : ∃ log, prepared plan h =
    (plan.gathered h).foldl refreshOne
      { furnished plan h with host := { (furnished plan h).host with
        trace := { (furnished plan h).host.trace with log } } } := by
  have hprepared : prepared plan h = phase refresh plan.refresh (furnished plan h) := rfl
  rw [hprepared]
  unfold phase Plan.gathered
  cases plan.refresh with
  | none => exact ⟨(furnished plan h).host.trace.log, rfl⟩
  | some condition => exact refresh_eq condition (furnished plan h)

theorem newcomers_furnished (plan : Plan) (hconsistent : h.table.Consistent) :
    Newcomers h (furnished plan h) :=
  (Newcomers.start h).transitions hconsistent (furnished_transitions plan h)

theorem prepared_losses (plan : Plan) (hconsistent : h.table.Consistent) :
    ∃ lost, ReloadLosses h (plan.gathered h) (furnished plan h) (prepared plan h) lost := by
  have htransitions := furnished_transitions plan h
  obtain ⟨log, hprepared⟩ := prepared_eq plan h
  obtain ⟨lost, hlosses⟩ := ReloadLosses.foldl
    (b := { furnished plan h with host := { (furnished plan h).host with
      trace := { (furnished plan h).host.trace with log } } })
    (htransitions.consistent hconsistent)
    ((newcomers_furnished plan hconsistent).congr rfl rfl rfl rfl)
    htransitions.env (plan.gathered h)
  rw [hprepared]
  exact ⟨lost, hlosses.order, hlosses.each, hlosses.departed, hlosses.failed, hlosses.check⟩

/-! ### The check -/

/-- The units that fail the check, in the order they go. -/
def expelled (b : Batch) : List PluginUnit :=
  (b.host.graph.walk.failures.map Prod.fst).filterMap b.host.table.unit?

/-- What passes the check shares no file with what fails it. -/
theorem apart_of_passed (hconsistent : b.host.table.Consistent)
    (tracked : b.host.table.unit? id = some u)
    (passed : id ∉ b.host.graph.walk.failures.map Prod.fst) :
    ∀ w ∈ b.expelled, w.path.same u.path = false := by
  intro w hw
  obtain ⟨i, hfailed, hi⟩ := List.mem_filterMap.mp hw
  exact hconsistent.not_same_file hi tracked fun heq => passed (heq ▸ hfailed)

theorem failed_expelling (b : Batch) (failures : List (String × Dependency.Failure))
    (distinct : (failures.map Prod.fst).Nodup) :
    (b.expelling failures).result.dependencyCheck.failed = b.result.dependencyCheck.failed ++
      ((failures.map Prod.fst).filterMap b.host.table.unit?).map PluginUnit.target := by
  induction failures generalizing b with
  | nil => simp [expelling]
  | cons f rest ih =>
      obtain ⟨hfirst, hrest⟩ := List.nodup_cons.mp distinct
      have hcons : b.expelling (f :: rest) = (b.validateOne (f.1, .error f.2)).expelling rest := rfl
      have hsame : (rest.map Prod.fst).filterMap (b.validateOne (f.1, .error f.2)).host.table.unit? =
          (rest.map Prod.fst).filterMap b.host.table.unit? := by
        apply List.filterMap_congr
        intro i hi
        have hother : i ≠ f.1 := fun heq => hfirst (heq ▸ hi)
        rw [unit?_validateOne_error, if_neg hother]
      rw [hcons, ih _ hrest, hsame, List.map_cons]
      cases htracked : b.host.table.unit? f.1 with
      | none => rw [validateOne_untracked htracked, List.filterMap_cons_none htracked]
      | some u =>
          obtain ⟨gone, calls, result, log, _, hgone⟩ := validateOne_error htracked f.2
          rw [hgone, List.filterMap_cons_some htracked, List.map_cons]
          simp [noteCheck, PhaseResult.note, noteGone, made]

theorem validate_expelled (hconsistent : b.host.table.Consistent) :
    (validate b).departed = b.departed ++ b.expelled.map PluginUnit.leaving ∧
      (validate b).result.dependencyCheck.failed =
        b.result.dependencyCheck.failed ++ b.expelled.map PluginUnit.target := by
  have hdistinct : b.host.graph.ids.Nodup := Host.distinct_graph hconsistent
  have hfailures : (b.host.graph.walk.failures.map Prod.fst).Nodup :=
    hdistinct.sublist (Dependency.Walk.walk_sound hdistinct).sublist
  obtain ⟨hdeparted, _⟩ := expelling_gone
    (b := { b with host := b.host.write (b.host.graph.walk.log b.host.settings.debug) })
    hconsistent b.host.graph.walk.failures hfailures
  have hfailed := failed_expelling
    { b with host := b.host.write (b.host.graph.walk.log b.host.settings.debug) }
    b.host.graph.walk.failures hfailures
  obtain ⟨log, hchecked⟩ := b.validate_eq
  rw [hchecked, expelled, List.filterMap_map]
  rw [List.filterMap_map] at hfailed
  exact ⟨hdeparted, hfailed⟩

end Batch

end PluginHost
