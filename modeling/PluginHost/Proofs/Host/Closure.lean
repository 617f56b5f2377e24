import PluginHost.Proofs.Dependency.WalkSound
import PluginHost.Proofs.Host.Reachable

/-!
What the tracked units need of each other. After a batch all of it is there in
accepted versions, and no unit needs itself, not even through others. Units
that go by the id of the host are left out, for that id always means the host.
-/
namespace PluginHost

open Dependency

namespace UnitTable

/-- What the unit tracked under an id says about itself. -/
def metadata? (t : UnitTable) (id : String) : Option Metadata :=
  (t.unit? id).bind PluginUnit.metadata

/-- A need is met by the host, or by the unit tracked under its id, in a version that is
accepted. -/
def Meets (host : HostIdentity) (t : UnitTable) (d : String × Requirement) : Prop :=
  d.1 = host.id ∧ d.2.accepts host.version = true ∨
    d.1 ≠ host.id ∧ ∃ m, t.metadata? d.1 = some m ∧ d.2.accepts m.version = true

/-- The unit under the first id declares the second one; both are tracked, and neither goes by the
id of the host. -/
def Depends (host : HostIdentity) (t : UnitTable) (a b : String) : Prop :=
  a ≠ host.id ∧ b ≠ host.id ∧ (t.unit? b).isSome ∧
    ∃ m, t.metadata? a = some m ∧ ∃ r, (b, r) ∈ m.dependencies

/-- All that tracked units need is met, and no unit needs itself. -/
structure Closed (host : HostIdentity) (t : UnitTable) : Prop where
  met : ∀ id m, t.metadata? id = some m → id ≠ host.id → ∀ d ∈ m.dependencies, t.Meets host d
  acyclic : ∀ id, ¬ Relation.TransGen (t.Depends host) id id

end UnitTable

/-! ### The graph of a host -/

namespace Host

variable {h : Host} {id : String} {m : Metadata}

theorem ids_graph (hconsistent : h.table.Consistent) : h.graph.ids = h.table.ids := by
  have hids : h.graph.ids = h.table.byId.filterMap fun e => e.2.metadata.map fun _ => e.1 := by
    simp [Graph.ids, graph, List.map_filterMap, Function.comp_def]
  rw [hids, UnitTable.ids]
  apply List.filterMap_eq_map_iff_forall_eq_some.mpr
  intro e he
  obtain ⟨m, hm⟩ := Option.isSome_iff_exists.mp (hconsistent.live e he).described
  simp [hm]

theorem distinct_graph (hconsistent : h.table.Consistent) : h.graph.ids.Nodup := by
  rw [ids_graph hconsistent]
  exact hconsistent.distinct

theorem node_mem_graph (hm : h.table.metadata? id = some m) :
    ⟨id, m.version, m.dependencies⟩ ∈ h.graph.nodes := by
  obtain ⟨u, hu, hmeta⟩ := Option.bind_eq_some_iff.mp hm
  exact List.mem_filterMap.mpr ⟨(id, u), UnitTable.mem_of_unit? hu, by simp [hmeta]⟩

theorem metadata?_of_mem_graph (hconsistent : h.table.Consistent) {n : Node}
    (hn : n ∈ h.graph.nodes) : ∃ m, h.table.metadata? n.id = some m ∧ n.version = m.version ∧
      n.dependencies = m.dependencies := by
  obtain ⟨⟨id, u⟩, he, hnode⟩ := List.mem_filterMap.mp hn
  obtain ⟨m, hmeta, rfl⟩ := Option.map_eq_some_iff.mp hnode
  have hu := (UnitTable.unit?_eq_some_iff hconsistent.distinct).mpr he
  exact ⟨m, by simp [UnitTable.metadata?, hu, hmeta], rfl, rfl⟩

end Host

/-! ### After a batch -/

namespace Batch

theorem metadata?_run (plan : Plan) (h : Host) (id : String) :
    (run plan h).host.table.metadata? id =
      if id ∈ (prepared plan h).host.graph.walk.failures.map Prod.fst then none
      else (prepared plan h).host.table.metadata? id := by
  simp only [UnitTable.metadata?, unit?_run]
  split
  · rfl
  · split
    · cases (prepared plan h).host.table.unit? id <;> simp
    · rfl

variable {plan : Plan} {h : Host}

theorem consistent_prepared (hconsistent : h.table.Consistent) :
    (prepared plan h).host.table.Consistent := by
  have hprepared := (prepared_advances plan h).shifts.consistent (a := (start h).tracked) hconsistent
  exact hprepared

theorem sorted_prepared (plan : Plan) {h : Host} (hsorted : h.table.Sorted) :
    (prepared plan h).host.table.Sorted := by
  have hprepared := (prepared_advances plan h).shifts.sorted (a := (start h).tracked) hsorted
  exact hprepared

theorem distinct_prepared (hconsistent : h.table.Consistent) :
    (prepared plan h).host.graph.ids.Nodup :=
  Host.distinct_graph (consistent_prepared hconsistent)

theorem host_prepared (plan : Plan) (h : Host) :
    (prepared plan h).host.graph.host = h.settings.identity :=
  congrArg HostSettings.identity (prepared_advances plan h).settings

/-- A guest that is tracked after a batch runs in the graph that was checked. -/
theorem runs_of_metadata?_run (hconsistent : h.table.Consistent) {id : String} {m : Metadata}
    (hm : (run plan h).host.table.metadata? id = some m) (guest : id ≠ h.settings.identity.id) :
    (prepared plan h).host.table.metadata? id = some m ∧ (prepared plan h).host.graph.Runs id := by
  rw [metadata?_run] at hm
  split at hm
  · cases hm
  · next hkept =>
      have hid : id ∈ (prepared plan h).host.graph.ids :=
        List.mem_map.mpr ⟨_, Host.node_mem_graph hm, rfl⟩
      rw [← host_prepared plan h] at guest
      refine ⟨hm, ?_⟩
      by_contra hstuck
      exact hkept ((Walk.walk_sound (distinct_prepared hconsistent)).mem_failures_iff.mpr
        ⟨hid, guest, hstuck⟩)

/-- A guest that is tracked after a batch passed its check. -/
theorem passed_of_tracked (hconsistent : h.table.Consistent) {id : String} {u : PluginUnit}
    (tracked : (run plan h).host.table.unit? id = some u) (guest : id ≠ h.settings.identity.id) :
    id ∈ (prepared plan h).host.graph.walk.order := by
  obtain ⟨m, hm⟩ := Option.isSome_iff_exists.mp
    ((consistent_run plan hconsistent).unit_live tracked).described
  have hmeta : (run plan h).host.table.metadata? id = some m := by
    simp [UnitTable.metadata?, tracked, hm]
  obtain ⟨_, hruns⟩ := runs_of_metadata?_run hconsistent hmeta guest
  rw [← host_prepared plan h] at guest
  exact (Walk.walk_sound (distinct_prepared hconsistent)).mem_order_iff.mpr ⟨guest, hruns⟩

theorem metadata?_run_of_runs (hconsistent : h.table.Consistent) {id : String}
    (hruns : (prepared plan h).host.graph.Runs id) :
    (run plan h).host.table.metadata? id = (prepared plan h).host.table.metadata? id := by
  rw [metadata?_run, if_neg]
  intro hfailed
  exact ((Walk.walk_sound (distinct_prepared hconsistent)).mem_failures_iff.mp hfailed).2.2 hruns

theorem meets_run (hconsistent : h.table.Consistent) {d : String × Requirement}
    (hsatisfied : Satisfied (prepared plan h).host.graph d) :
    (run plan h).host.table.Meets h.settings.identity d := by
  rw [← host_prepared plan h]
  cases hsatisfied with
  | host accepts => exact .inl ⟨rfl, accepts⟩
  | @node n r guest accepts resolvable =>
      obtain ⟨m, hm, hversion, _⟩ :=
        Host.metadata?_of_mem_graph (consistent_prepared hconsistent) resolvable.mem
      have hruns : (prepared plan h).host.graph.Runs n.id := ⟨n, resolvable.mem, rfl, resolvable⟩
      rw [hversion] at accepts
      exact .inr ⟨guest, m, (metadata?_run_of_runs hconsistent hruns).trans hm, accepts⟩

/-- What a tracked guest declares, the node that was checked declares. -/
theorem needs_of_declared (hconsistent : h.table.Consistent) {a b : String} {m : Metadata}
    {r : Requirement} (hm : (run plan h).host.table.metadata? a = some m)
    (declared : (b, r) ∈ m.dependencies) (guest : a ≠ h.settings.identity.id)
    (needed : b ≠ h.settings.identity.id) : (prepared plan h).host.graph.Needs a b := by
  rw [← host_prepared plan h] at needed
  have hnode := Host.node_mem_graph (runs_of_metadata?_run hconsistent hm guest).1
  exact ⟨needed, _, hnode, rfl, r, declared⟩

theorem needs_of_depends (hconsistent : h.table.Consistent) {a b : String}
    (hdepends : (run plan h).host.table.Depends h.settings.identity a b) :
    (prepared plan h).host.graph.Needs a b := by
  obtain ⟨hguest, hneeded, _, m, hm, r, hr⟩ := hdepends
  exact needs_of_declared hconsistent hm hr hguest hneeded

theorem closed_run (plan : Plan) (hconsistent : h.table.Consistent) :
    (run plan h).host.table.Closed h.settings.identity where
  met := by
    intro id m hm guest d hd
    obtain ⟨hfound, hruns⟩ := runs_of_metadata?_run hconsistent hm guest
    have hnode := Host.node_mem_graph hfound
    have hresolvable := (Graph.runs_iff (distinct_prepared hconsistent) hnode).mp hruns
    exact meets_run hconsistent (hresolvable.satisfied d hd)
  acyclic := by
    intro id hcycle
    obtain ⟨_, hfirst, _⟩ := Relation.TransGen.head'_iff.mp hcycle
    obtain ⟨hguest, _, _, m, hm, _⟩ := hfirst
    have hruns := (runs_of_metadata?_run hconsistent hm hguest).2
    have hneeds := Relation.TransGen.mono (fun a b => needs_of_depends hconsistent) id id hcycle
    exact not_runs_of_needs_self (distinct_prepared hconsistent) hneeds hruns

end Batch

theorem UnitTable.Closed.empty (host : HostIdentity) : UnitTable.empty.Closed host where
  met := by simp [UnitTable.metadata?, UnitTable.unit?, UnitTable.empty]
  acyclic := by
    intro id hcycle
    obtain ⟨_, ⟨_, _, _, m, hm, _⟩, _⟩ := Relation.TransGen.head'_iff.mp hcycle
    simp [UnitTable.metadata?, UnitTable.unit?, UnitTable.empty] at hm

/-- In every run, whatever files and loader do meanwhile, what is tracked after an operation has all
it needs, and nothing that is tracked needs itself. -/
theorem Host.Reachable.table_closed {h : Host} (hreach : h.Reachable) :
    h.table.Closed h.settings.identity := by
  have hboth : h.table.Consistent ∧ h.table.Closed h.settings.identity :=
    hreach.induct (P := fun settings t => t.Consistent ∧ t.Closed settings.identity)
      (fun settings => ⟨.empty, .empty settings.identity⟩)
      fun h plan hbefore => ⟨Batch.consistent_run plan hbefore.1, Batch.closed_run plan hbefore.1⟩
  exact hboth.2

namespace HostWitness

theorem busy_closed : busy.Reachable ∧ (busy.table.metadata? "chat").isSome ∧
    busy.table.Closed settings.identity := by
  have hchat : (busy.table.metadata? "chat").isSome := by decide +kernel
  have hsettings : busy.settings.identity = settings.identity := by decide +kernel
  exact ⟨busy_reachable, hchat, hsettings ▸ busy_reachable.table_closed⟩

end HostWitness

end PluginHost
