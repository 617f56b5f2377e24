import PluginHost.Proofs.Host.Closure

/-!
Which units are ready after a batch: all that do not go by the id of the host.
The dependency check passes over a unit that does, so nothing makes it ready
and nothing makes it leave; it stays as the check found it.
-/
namespace PluginHost

open Dependency

/-- Every unit is ready, or noted as new, or goes by the id of the host. -/
def Settled (hostId : String) (s : UnitTable × List String) : Prop :=
  ∀ id u, s.1.unit? id = some u → u.state = .ready ∨ id ∈ s.2 ∨ id = hostId

theorem Shift.settled {hostId : String} {a b : UnitTable × List String} (h : Shift a b)
    (ha : Settled hostId a) : Settled hostId b := by
  cases h with
  | leave t fresh id =>
      intro other v hv
      rw [UnitTable.unit?_erase] at hv
      split at hv
      · cases hv
      · exact ha other v hv
  | @enter t fresh u live loaded newId newPath =>
      intro other v hv
      rw [UnitTable.unit?_insert] at hv
      split at hv
      · next hother => exact .inr (.inl (by simp [hother]))
      · exact (ha other v hv).imp_right fun h => h.imp_left (List.mem_append_left _)
  | @refresh t fresh id u v tracked live path state same =>
      intro other w hw
      rw [UnitTable.unit?_update] at hw
      split at hw
      · next hother => exact .inr (.inl (by simp [hother]))
      · exact (ha other w hw).imp_right fun h => h.imp_left (List.mem_append_left _)
  | @rename t fresh id u v tracked live path state free =>
      intro other w hw
      rw [UnitTable.unit?_moved tracked v] at hw
      split at hw
      · next hother => exact .inr (.inl (by simp [hother]))
      · split at hw
        · cases hw
        · exact (ha other w hw).imp_right fun h => h.imp_left (List.mem_append_left _)
  | @welcome t fresh id u tracked loaded =>
      intro other v hv
      rw [UnitTable.unit?_update] at hv
      split at hv
      · rw [tracked, Option.map_some, Option.some.injEq] at hv
        exact .inl (hv ▸ u.state_readied)
      · exact ha other v hv

theorem Shifts.settled {hostId : String} {a b : UnitTable × List String} (h : Shifts a b)
    (ha : Settled hostId a) : Settled hostId b := by
  induction h with
  | refl => exact ha
  | tail _ hstep ih => exact hstep.settled ih

namespace Batch

variable {plan : Plan} {h : Host} {id : String} {u : PluginUnit}

/-- A guest that is tracked after a batch is ready. -/
theorem ready_run (hconsistent : h.table.Consistent)
    (hready : ∀ id u, h.table.unit? id = some u → id ≠ h.settings.identity.id → u.state = .ready)
    (hu : (run plan h).host.table.unit? id = some u) (guest : id ≠ h.settings.identity.id) :
    u.state = .ready := by
  have hstart : Settled h.settings.identity.id (start h).tracked := by
    intro id u hu
    by_cases hid : id = h.settings.identity.id
    · exact .inr (.inr hid)
    · exact .inl (hready id u hu hid)
  have hsettled := (prepared_advances plan h).shifts.settled hstart
  -- What runs was passed, so it was welcomed if it was new.
  have hpassed := passed_of_tracked hconsistent hu guest
  rw [unit?_run] at hu
  split at hu
  · cases hu
  · split at hu
    · obtain ⟨v, hv, rfl⟩ := Option.map_eq_some_iff.mp hu
      exact ((consistent_prepared hconsistent).unit_live hv).ready_welcomed
    · next hold =>
        rcases hsettled id u hu with hdone | hnew | hhost
        · exact hdone
        · exact absurd ⟨hpassed, hnew⟩ hold
        · exact absurd hhost guest

/-- The unit that goes by the id of the host stays as the dependency check finds it. -/
theorem unit?_run_host (plan : Plan) (hconsistent : h.table.Consistent) :
    (run plan h).host.table.unit? h.settings.identity.id =
      (prepared plan h).host.table.unit? h.settings.identity.id := by
  have hdistinct : (prepared plan h).host.graph.ids.Nodup := distinct_prepared hconsistent
  have hwalk := Walk.walk_sound hdistinct
  rw [unit?_run, ← host_prepared plan h, if_neg, if_neg]
  · exact fun hboth => (hwalk.mem_order_iff.mp hboth.1).1 rfl
  · exact fun hfailed => (hwalk.mem_failures_iff.mp hfailed).2.1 rfl

/-- A plugin that a load finds under the id of the host stays loaded. -/
theorem loaded_of_host_id (hconsistent : h.table.Consistent) {path : Path} {trace : Trace}
    (hload : (PluginUnit.ofPath path).load h.env h.trace = (u, .ok (), trace))
    (hid : u.id = h.settings.identity.id) (newPath : h.table.containsPath path = false)
    (newId : h.table.unit? h.settings.identity.id = none) :
    (h.loadPlugin path).1.table.unit? h.settings.identity.id = some u ∧ u.state = .loaded := by
  refine ⟨?_, PluginUnit.state_of_load rfl hload⟩
  have hran : (h.loadPlugin path).1 =
      (run { Plan.none with discover := some [path] } h).host := rfl
  have hprepared : prepared { Plan.none with discover := some [path] } h =
      (start h).discoverOne path := rfl
  have hentered : ((start h).discoverOne path).host.table = h.table.insert u.id path u := by
    have hfree : h.table.pathOf? u.id = none := by simp [UnitTable.pathOf?, hid, newId]
    unfold discoverOne
    simp only [start, newPath, hload, hfree, Bool.false_eq_true, if_false]
    rfl
  rw [hran, unit?_run_host _ hconsistent, hprepared, hentered, UnitTable.unit?_insert,
    if_pos hid.symm]

end Batch

/-- In every run, all tracked units are ready but for one that goes by the id of the host. After a
batch that one is ready exactly when it was ready already as the dependency check found it; one that
was just loaded is not, and so stays loaded. -/
theorem Host.Reachable.ready_but_host {h : Host} (hreach : h.Reachable) :
    (∀ id u, h.table.unit? id = some u → id ≠ h.settings.identity.id → u.state = .ready) ∧
      (∀ plan : Batch.Plan,
        (∀ id u, (Batch.run plan h).host.table.unit? id = some u → u.state = .ready) ↔
          ∀ u, (Batch.prepared plan h).host.table.unit? h.settings.identity.id = some u →
            u.state = .ready) ∧
      ∀ path u trace, (PluginUnit.ofPath path).load h.env h.trace = (u, .ok (), trace) →
        u.id = h.settings.identity.id → h.table.containsPath path = false →
        h.table.unit? h.settings.identity.id = none →
        (h.loadPlugin path).1.table.unit? h.settings.identity.id = some u ∧ u.state = .loaded := by
  have hboth := hreach.induct
    (P := fun settings t => t.Consistent ∧
      ∀ id u, t.unit? id = some u → id ≠ settings.identity.id → u.state = .ready)
    (fun _ => ⟨.empty, by simp [UnitTable.unit?, UnitTable.empty]⟩)
    fun h plan hbefore => ⟨Batch.consistent_run plan hbefore.1,
      fun id u hu guest => Batch.ready_run hbefore.1 hbefore.2 hu guest⟩
  refine ⟨hboth.2, ?_, ?_⟩
  · intro plan
    have hhost := Batch.unit?_run_host plan hboth.1
    constructor
    · intro hall u hu
      exact hall _ u (hhost.trans hu)
    · intro hready id u hu
      by_cases hid : id = h.settings.identity.id
      · rw [hid, hhost] at hu
        exact hready u hu
      · exact Batch.ready_run hboth.1 hboth.2 hu hid
  · intro path u trace hload hid newPath newId
    exact Batch.loaded_of_host_id hboth.1 hload hid newPath newId

namespace HostWitness

/-- The host after a plugin was loaded that goes by the id of the host. -/
def strange : Host := busy.perform (.load ⟨"odd.mcdr"⟩)

theorem strange_ready_but_host : busy.Reachable ∧
    (∃ u, strange.table.unit? "mcdreforged" = some u ∧ u.state = .loaded) ∧
    ∃ u, strange.table.unit? "chat" = some u ∧ u.state = .ready := by
  have hid : busy.settings.identity.id = "mcdreforged" := by decide +kernel
  have hguest : strange.settings.identity.id = "mcdreforged" := by decide +kernel
  obtain ⟨chat, hchat⟩ : ∃ u, strange.table.unit? "chat" = some u :=
    Option.isSome_iff_exists.mp (by decide +kernel)
  have hload : ((PluginUnit.ofPath ⟨"odd.mcdr"⟩).load busy.env busy.trace).2.1 = .ok () := by
    decide +kernel
  have hodd : ((PluginUnit.ofPath ⟨"odd.mcdr"⟩).load busy.env busy.trace).1.id = "mcdreforged" := by
    decide +kernel
  have hfree : (busy.table.unit? "mcdreforged").isNone := by decide +kernel
  have hstays := busy_reachable.ready_but_host.2.2 ⟨"odd.mcdr"⟩ _ _
    (Prod.ext rfl (Prod.ext hload rfl)) (hodd.trans hid.symm) (by decide +kernel)
    (hid ▸ Option.isNone_iff_eq_none.mp hfree)
  have hstrange : strange.Reachable := busy_reachable.perform _
  have hready := hstrange.ready_but_host.1 "chat" chat hchat (by rw [hguest]; decide)
  exact ⟨busy_reachable, ⟨_, hid ▸ hstays⟩, chat, hchat, hready⟩

end HostWitness

end PluginHost
