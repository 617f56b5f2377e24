import PluginHost.Proofs.Host.Custody
import PluginHost.Proofs.Host.Settling
import PluginHost.Proofs.Host.Announcements

/-!
Loading one file. All that was tracked stays as it is and hears nothing: a new
unit, whatever it says about itself, takes nothing away that others need. At
most one unit comes, and it is of that file; if none does, the loader has back
all it handed out.
-/
namespace PluginHost

open Dependency

/-- Tables that find the same units have the same entries. -/
theorem UnitTable.byId_perm_of_units {s t : UnitTable} (hs : s.ids.Nodup) (ht : t.ids.Nodup)
    (same : ∀ id, s.unit? id = t.unit? id) : s.byId.Perm t.byId := by
  apply (List.perm_ext_iff_of_nodup hs.of_map ht.of_map).mpr
  rintro ⟨id, u⟩
  rw [← unit?_eq_some_iff hs, ← unit?_eq_some_iff ht, same]

/-- Units run on when others come. -/
theorem Host.Reachable.runs_beside {h after : Host} (hreach : h.Reachable)
    (host : after.graph.host = h.graph.host)
    (kept : ∀ id u, h.table.unit? id = some u → after.table.unit? id = some u) {id : String}
    (tracked : (h.table.unit? id).isSome) (guest : id ≠ h.settings.identity.id) :
    after.graph.Runs id :=
  hreach.runs_on host (fun _ => True) (fun i u hu _ => kept i u hu) (fun _ _ _ _ _ => trivial) tracked
    guest trivial

namespace Batch

variable {b after : Batch} {h : Host} {path : Path} {id : String} {u : PluginUnit}

theorem Transition.calls_grow (h : Transition b after) :
    b.host.trace.calls <+: after.host.trace.calls := by
  cases h with
  | record log => exact List.prefix_rfl
  | prune _ _ => exact List.prefix_append _ _
  | refuse _ _ => exact List.prefix_append _ _
  | enter _ _ _ _ _ => exact List.prefix_append _ _
  | refresh _ refreshed => cases refreshed <;> exact List.prefix_append _ _
  | expel _ _ => exact List.prefix_append _ _

theorem Transitions.calls_grow (h : Transitions b after) :
    b.host.trace.calls <+: after.host.trace.calls :=
  h.keep (P := fun after => b.host.trace.calls <+: after.host.trace.calls)
    (fun htransition hbefore => hbefore.trans htransition.calls_grow) List.prefix_rfl

/-- What a batch calls comes behind what was called before. -/
theorem calls_grow_run (plan : Plan) (h : Host) :
    h.trace.calls <+: (run plan h).host.trace.calls := by
  obtain ⟨log, hchecked⟩ := (prepared plan h).validate_eq
  have hprepared : h.trace.calls <+: (prepared plan h).host.trace.calls :=
    (prepared_transitions plan h).calls_grow
  rw [calls_run, hchecked]
  exact hprepared.trans (prepared plan h).purged_transitions.calls_grow

theorem unload_validate (b : Batch) : (validate b).result.unload = b.result.unload := by
  have hone : ∀ (b : Batch) (f : String × Failure),
      (b.validateOne (f.1, .error f.2)).result.unload = b.result.unload := by
    intro b f
    cases htracked : b.host.table.unit? f.1 with
    | none => rw [validateOne_untracked htracked]
    | some u =>
        obtain ⟨gone, calls, result, log, _, hgone⟩ := validateOne_error htracked f.2
        rw [hgone]
        rfl
  have hall : ∀ (failures : List (String × Failure)) (b : Batch),
      (b.expelling failures).result.unload = b.result.unload := by
    intro failures
    induction failures with
    | nil => exact fun _ => rfl
    | cons f rest ih => exact fun b => (ih _).trans (hone b f)
  obtain ⟨log, hchecked⟩ := b.validate_eq
  rw [hchecked]
  exact hall _ _

/-- A batch in which at most one unit came so far, of one file, and nothing else happened to
units. -/
structure AddsAtMostOne (h : Host) (path : Path) (b : Batch) : Prop where
  kept : ∀ id u, h.table.unit? id = some u → b.host.table.unit? id = some u
  origin : ∀ id u, b.host.table.unit? id = some u →
    h.table.unit? id = some u ∨ id ∈ b.fresh ∧ u.path = path
  new : ∀ id ∈ b.fresh, h.table.unit? id = none
  single : b.fresh = [] ∨ ∃ id, b.fresh = [id]
  departed : b.departed = []
  unload : b.result.unload = .empty
  reload : b.result.reload = .empty

theorem addsAtMostOne_discoverOne (h : Host) (path : Path) :
    AddsAtMostOne h path ((start h).discoverOne path) := by
  have hfound := (start h).discoverOne_discovered path
  generalize (start h).discoverOne path = after at hfound ⊢
  cases hfound with
  | known _ => exact ⟨fun _ _ hu => hu, fun _ _ hu => .inl hu, by simp [start], .inl rfl, rfl, rfl, rfl⟩
  | refused _ _ =>
      exact ⟨fun _ _ hu => hu, fun _ _ hu => .inl hu, by simp [start, noteLoad, made], .inl rfl, rfl,
        rfl, rfl⟩
  | @entered u loaded log live state held newId newPath brought =>
      refine ⟨?_, ?_, ?_, .inr ⟨u.id, rfl⟩, rfl, rfl, rfl⟩
      · intro i w hw
        have hother : i ≠ u.id := by
          rintro rfl
          cases newId.symm.trans hw
        exact (UnitTable.unit?_insert u.path).trans (by rw [if_neg hother]; exact hw)
      · intro i w hw
        have hcase := (UnitTable.unit?_insert u.path).symm.trans hw
        split at hcase
        · next hi =>
            cases hcase
            exact .inr ⟨hi ▸ List.mem_singleton_self u.id, rfl⟩
        · exact .inl hcase
      · intro i hi
        rw [List.mem_singleton.mp (show i ∈ [u.id] from hi)]
        exact newId

end Batch

namespace Host

open Batch Custody

variable {h : Host} {path : Path} {id : String} {u : PluginUnit}

/-- What is to be done when one file is to be loaded. -/
def loadPlan (path : Path) : Plan := { Plan.none with discover := some [path] }

theorem addsAtMostOne_loadPlan (h : Host) (path : Path) :
    AddsAtMostOne h path (prepared (loadPlan path) h) :=
  addsAtMostOne_discoverOne h path

theorem fresh_of_known (known : h.table.containsPath path = true) :
    prepared (loadPlan path) h = Batch.start h := by
  have hskip : (Batch.start h).discoverOne path = Batch.start h := by
    rw [discoverOne, if_pos]
    exact known
  exact hskip

/-- Whatever comes, what was tracked passes the check. -/
theorem Reachable.passed_of_old (hreach : h.Reachable) (old : (h.table.unit? id).isSome) :
    id ∉ (prepared (loadPlan path) h).host.graph.walk.failures.map Prod.fst := by
  intro hfailed
  have hdistinct : (prepared (loadPlan path) h).host.graph.ids.Nodup :=
    distinct_prepared hreach.consistent
  obtain ⟨_, hguest, hstuck⟩ := (Walk.walk_sound hdistinct).mem_failures_iff.mp hfailed
  rw [host_prepared] at hguest
  have hadds := addsAtMostOne_loadPlan h path
  exact hstuck (hreach.runs_beside (host_prepared _ h) hadds.kept old hguest)

/-- A unit that fails the check is one that came. -/
theorem Reachable.new_of_failed (hreach : h.Reachable)
    (failed : id ∈ (prepared (loadPlan path) h).host.graph.walk.failures.map Prod.fst) :
    h.table.unit? id = none := by
  cases hold : h.table.unit? id with
  | none => rfl
  | some u => exact absurd failed (hreach.passed_of_old (by simp [hold]))

/-- Whoever is told of something was not tracked before. -/
theorem Reachable.new_of_tells (hreach : h.Reachable) {event : Event} {task : PoolTask Call}
    (tells : (validate (prepared (loadPlan path) h)).Tells u event) (htask : task ∈ u.tasks event) :
    ∃ id, task.owner = some id ∧ h.table.unit? id = none := by
  have hprepared : (prepared (loadPlan path) h).host.table.Consistent :=
    consistent_prepared hreach.consistent
  have hchecked := validate_validated (prepared (loadPlan path) h)
  cases tells with
  | @came id u passed new tracked =>
      have hlive := (hchecked.consistent hprepared).unit_live tracked
      have hid := (hchecked.consistent hprepared).id_eq tracked
      rw [hchecked.fresh] at new
      refine ⟨id, ?_, (addsAtMostOne_loadPlan h path).new id new⟩
      rw [hlive.welcomed.owner_eq htask, u.id_welcomed, hid]
  | left departed =>
      obtain ⟨hdeparted, _⟩ := validate_expelled hprepared
      rw [hdeparted, (addsAtMostOne_loadPlan h path).departed, List.nil_append] at departed
      obtain ⟨v, hv, rfl⟩ := List.mem_map.mp departed
      obtain ⟨id, hfailed, htracked⟩ := List.mem_filterMap.mp hv
      refine ⟨id, ?_, hreach.new_of_failed hfailed⟩
      have howner : task.owner = some v.id := (hprepared.unit_live htracked).owner_eq htask
      rw [howner, hprepared.id_eq htracked]

/-- What loading one file does to all else, and what it adds: every unit that was tracked still is,
as it was, and is told nothing; at most one unit comes, and it is of that file. The loader is not
asked for a file that is tracked already, and has back all it handed out if no unit came. -/
structure LoadEffect (h : Host) (path : Path) (after : Host) (result : BatchResult) : Prop where
  kept : ∀ id u, h.table.unit? id = some u → after.table.unit? id = some u
  added : (∀ id, after.table.unit? id = h.table.unit? id) ∨
    ∃ v, v.path = path ∧ h.table.unit? v.id = none ∧
      ∀ id, after.table.unit? id = if id = v.id then some v else h.table.unit? id
  untold : result.unload = .empty ∧ result.reload = .empty
  unheard : ∃ tasks, h.pool.Offered tasks after.pool ∧
    ∀ task ∈ tasks, ∃ id, task.owner = some id ∧ h.table.unit? id = none
  unasked : h.table.containsPath path = true → after.trace.calls = h.trace.calls
  returned : ∃ calls, after.trace.calls = h.trace.calls ++ calls ∧
    ((∀ id, after.table.unit? id = h.table.unit? id) →
      (handedOut calls).Perm (handedBack calls))

theorem Reachable.kept_loadPlugin (hreach : h.Reachable) (path : Path)
    (old : h.table.unit? id = some u) :
    (run (loadPlan path) h).host.table.unit? id = some u := by
  have hadds := addsAtMostOne_loadPlan h path
  rw [unit?_run, if_neg (hreach.passed_of_old (by simp [old])), if_neg]
  · exact hadds.kept id u old
  · rintro ⟨_, hnew⟩
    cases (hadds.new id hnew).symm.trans old

/-- What is tracked afterwards was tracked before, or it came. -/
theorem Reachable.origin_loadPlugin (hreach : h.Reachable) (path : Path)
    (tracked : (run (loadPlan path) h).host.table.unit? id = some u) :
    h.table.unit? id = some u ∨ id ∈ (prepared (loadPlan path) h).fresh ∧ u.path = path := by
  have hadds := addsAtMostOne_loadPlan h path
  cases hold : h.table.unit? id with
  | some w => exact .inl ((hreach.kept_loadPlugin path hold).symm.trans tracked)
  | none =>
      refine .inr ?_
      have hnew : ∀ w, (prepared (loadPlan path) h).host.table.unit? id = some w →
          id ∈ (prepared (loadPlan path) h).fresh ∧ w.path = path := by
        intro w hw
        rcases hadds.origin id w hw with hbefore | hcame
        · cases hold.symm.trans hbefore
        · exact hcame
      rw [unit?_run] at tracked
      split at tracked
      · cases tracked
      · split at tracked
        · obtain ⟨w, hw, rfl⟩ := Option.map_eq_some_iff.mp tracked
          rw [w.path_welcomed]
          exact hnew w hw
        · exact hnew u tracked

theorem Reachable.added_loadPlugin (hreach : h.Reachable) (path : Path) :
    (∀ id, (run (loadPlan path) h).host.table.unit? id = h.table.unit? id) ∨
      ∃ v, v.path = path ∧ h.table.unit? v.id = none ∧
        ∀ id, (run (loadPlan path) h).host.table.unit? id =
          if id = v.id then some v else h.table.unit? id := by
  have hadds := addsAtMostOne_loadPlan h path
  have hafter := consistent_run (loadPlan path) hreach.consistent
  -- All but what came is looked up as before.
  have hothers : ∀ id, (∀ u, (run (loadPlan path) h).host.table.unit? id = some u →
      h.table.unit? id = some u) →
      (run (loadPlan path) h).host.table.unit? id = h.table.unit? id := by
    intro id hsame
    cases hold : h.table.unit? id with
    | some u => exact hreach.kept_loadPlugin path hold
    | none =>
        cases hnow : (run (loadPlan path) h).host.table.unit? id with
        | none => rfl
        | some u => cases hold.symm.trans (hsame u hnow)
  by_cases hcame : ∃ id v, (run (loadPlan path) h).host.table.unit? id = some v ∧
      id ∈ (prepared (loadPlan path) h).fresh ∧ v.path = path
  · obtain ⟨i, v, hv, hnew, hpath⟩ := hcame
    obtain rfl : v.id = i := hafter.id_eq hv
    refine .inr ⟨v, hpath, hadds.new v.id hnew, ?_⟩
    intro id
    split
    · next hid => rw [hid, hv]
    · next hother =>
        apply hothers
        intro u hu
        rcases hreach.origin_loadPlugin path hu with hold | ⟨hfresh, _⟩
        · exact hold
        · rcases hadds.single with hnone | ⟨j, hone⟩
          · simp [hnone] at hnew
          · rw [hone, List.mem_singleton] at hnew hfresh
            exact absurd (hfresh.trans hnew.symm) hother
  · refine .inl fun id => hothers id ?_
    intro u hu
    rcases hreach.origin_loadPlugin path hu with hold | hnew
    · exact hold
    · exact absurd ⟨id, u, hu, hnew⟩ hcame

/-- If the same units are tracked after a batch, the loader has back all it handed out meanwhile. -/
theorem Reachable.returned_of_same (hreach : h.Reachable) {after : Host} (hafter : after.Reachable)
    {calls : List LoaderCall} (hcalls : after.trace.calls = h.trace.calls ++ calls)
    (same : ∀ id, after.table.unit? id = h.table.unit? id) :
    (handedOut calls).Perm (handedBack calls) := by
  have hunits : after.table.units.Perm h.table.units :=
    (UnitTable.byId_perm_of_units hafter.consistent.distinct hreach.consistent.distinct
      same).map Prod.snd
  have hbefore := hreach.kept.accounted.balance
  have hnow := (hafter.kept.perm hunits).accounted.balance
  rw [hcalls, handedOut, handedBack, List.flatMap_append, List.flatMap_append] at hnow
  -- Both books balance with the same units, so what happened in between balances by itself.
  have hboth : (handedBack h.trace.calls ++ (h.table.units.flatMap PluginUnit.subUnits ++
      handedOut calls)).Perm (handedBack h.trace.calls ++
        (h.table.units.flatMap PluginUnit.subUnits ++ handedBack calls)) := by
    calc (handedBack h.trace.calls ++ (h.table.units.flatMap PluginUnit.subUnits ++
          handedOut calls)).Perm (handedOut h.trace.calls ++ handedOut calls) := by
          rw [← List.append_assoc]
          exact (hbefore.append_right _).symm
      List.Perm _ (handedBack h.trace.calls ++ handedBack calls ++
          h.table.units.flatMap PluginUnit.subUnits) := hnow
      List.Perm _ (handedBack h.trace.calls ++
          (h.table.units.flatMap PluginUnit.subUnits ++ handedBack calls)) := by
          rw [List.append_assoc]
          exact List.perm_append_comm.append_left _
  exact (List.perm_append_left_iff _).mp ((List.perm_append_left_iff _).mp hboth)

/-- In every run, loading a file never disturbs what is tracked. -/
theorem Reachable.load_effect (hreach : h.Reachable) (path : Path) :
    h.LoadEffect path (h.loadPlugin path).1 (h.loadPlugin path).2 := by
  have hran : h.loadPlugin path =
      ((run (loadPlan path) h).host, (run (loadPlan path) h).result) := rfl
  have hafter : (run (loadPlan path) h).host.Reachable := hreach.perform (.load path)
  have hadds := addsAtMostOne_loadPlan h path
  rw [hran]
  dsimp only
  refine ⟨fun _ _ old => hreach.kept_loadPlugin path old, hreach.added_loadPlugin path, ?_, ?_, ?_,
    ?_⟩
  · rw [result_run, unload_validate, (loads_validate _).2]
    exact ⟨hadds.unload, hadds.reload⟩
  · refine ⟨_, run_offered (loadPlan path) hreach.consistent, ?_⟩
    intro task htask
    obtain ⟨u, event, htells, hmem⟩ := mem_notices_iff.mp htask
    exact hreach.new_of_tells htells hmem
  · intro known
    exact (run_idle (fresh_of_known known) hreach.failures_nil).calls
  · obtain ⟨calls, hcalls⟩ := calls_grow_run (loadPlan path) h
    exact ⟨calls, hcalls.symm, hreach.returned_of_same hafter hcalls.symm⟩

end Host

namespace HostWitness

/-- A host with two plugins. -/
def lent : Host :=
  [.load ⟨"core.mcdr"⟩, .load ⟨"chat.mcdr"⟩].foldl Host.perform
    (.create settings ⟨"en", []⟩ lender .empty (.create 1 .spawn .none))

theorem lent_load_effect : lent.Reachable ∧ lent.table.ids = ["chat", "core"] ∧
    (lent.loadPlugin ⟨"twin.mcdr"⟩).2.load.failed = [.file ⟨"twin.mcdr"⟩] ∧
    lent.LoadEffect ⟨"twin.mcdr"⟩ (lent.loadPlugin ⟨"twin.mcdr"⟩).1
      (lent.loadPlugin ⟨"twin.mcdr"⟩).2 := by
  have hreach : lent.Reachable := (Host.Reachable.create _ _ _ _ _).foldl _
  have hids : lent.table.ids = ["chat", "core"] := by decide +kernel
  have hfailed : (lent.loadPlugin ⟨"twin.mcdr"⟩).2.load.failed = [.file ⟨"twin.mcdr"⟩] := by
    decide +kernel
  exact ⟨hreach, hids, hfailed, hreach.load_effect ⟨"twin.mcdr"⟩⟩

end HostWitness

end PluginHost
