import PluginHost.Proofs.Host.Removal

/-!
The cone of a tracked unit: the unit and all that need it, directly or through
others. Between operations every tracked unit that does not go by the id of
the host runs in the graph of what is tracked, so the dependency check lists
the cone with dependencies first.
-/
namespace PluginHost

open Dependency

/-- What is tracked with what it needs. -/
def UnitTable.graph (host : HostIdentity) (t : UnitTable) : Graph :=
  ⟨host, t.byId.filterMap fun (id, u) => u.metadata.map fun m => ⟨id, m.version, m.dependencies⟩⟩

theorem UnitTable.Depends.tracked {host : HostIdentity} {t : UnitTable} {a b : String}
    (h : t.Depends host a b) : (t.unit? a).isSome := by
  obtain ⟨_, _, _, m, hm, _⟩ := h
  obtain ⟨u, hu, _⟩ := Option.bind_eq_some_iff.mp hm
  rw [hu, Option.isSome_some]

namespace Batch

variable {plan : Plan} {h : Host} {id : String} {m : Metadata}

/-- What runs in the graph that was checked runs in the graph of what is left. -/
theorem runs_run (hconsistent : h.table.Consistent)
    (hm : (run plan h).host.table.metadata? id = some m) (guest : id ≠ h.settings.identity.id) :
    ((run plan h).host.table.graph h.settings.identity).Runs id := by
  obtain ⟨_, n, _, rfl, hres⟩ := runs_of_metadata?_run hconsistent hm guest
  have hkeep : ∀ k, Resolvable (prepared plan h).host.graph k → True →
      k ∈ ((run plan h).host.table.graph h.settings.identity).nodes := by
    intro k hk _
    obtain ⟨mk, hmk, hversion, hneeds⟩ :=
      Host.metadata?_of_mem_graph (consistent_prepared hconsistent) hk.mem
    have hruns : (prepared plan h).host.graph.Runs k.id := ⟨k, hk.mem, rfl, hk⟩
    have hnode : Node.mk k.id mk.version mk.dependencies ∈ (run plan h).host.graph.nodes :=
      Host.node_mem_graph ((metadata?_run_of_runs hconsistent hruns).trans hmk)
    rw [← hversion, ← hneeds] at hnode
    exact hnode
  have hres' := hres.transfer (host_prepared plan h).symm hkeep (fun _ _ _ _ _ _ _ => trivial)
    trivial
  exact ⟨n, hres'.mem, rfl, hres'⟩

end Batch

namespace Host

variable {h : Host} {id other : String}

/-- In every run, every tracked unit that does not go by the id of the host has all it needs, and
what it needs has all that needs, and so on to the end. -/
theorem Reachable.runs (hreach : h.Reachable) (tracked : (h.table.unit? id).isSome)
    (guest : id ≠ h.settings.identity.id) : h.graph.Runs id := by
  have hboth := hreach.induct
    (P := fun settings t => t.Consistent ∧ ∀ id, (t.unit? id).isSome → id ≠ settings.identity.id →
      (t.graph settings.identity).Runs id)
    (fun _ => ⟨.empty, by simp [UnitTable.unit?, UnitTable.empty]⟩)
    (by
      intro h plan hbefore
      have hafter := Batch.consistent_run plan hbefore.1
      refine ⟨hafter, ?_⟩
      intro id htracked hguest
      obtain ⟨u, hu⟩ := Option.isSome_iff_exists.mp htracked
      obtain ⟨m, hm⟩ := Option.isSome_iff_exists.mp (hafter.unit_live hu).described
      have hmeta : (Batch.run plan h).host.table.metadata? id = some m := by
        simp [UnitTable.metadata?, hu, hm]
      exact Batch.runs_run hbefore.1 hmeta hguest)
  exact hboth.2 id tracked guest

theorem mem_ids_graph_iff (hconsistent : h.table.Consistent) :
    id ∈ h.graph.ids ↔ (h.table.unit? id).isSome := by
  rw [ids_graph hconsistent, Option.isSome_iff_ne_none, ne_eq, UnitTable.unit?_eq_none_iff, not_not]

/-- Units run on when others come, change or go, if all they declare stays with them. -/
theorem Reachable.runs_on (hreach : h.Reachable) {after : Host}
    (host : after.graph.host = h.graph.host) (stays : String → Prop)
    (kept : ∀ id u, h.table.unit? id = some u → stays id → after.table.unit? id = some u)
    (down : ∀ a b, h.graph.Declares a b → (h.table.unit? b).isSome → stays a → stays b)
    (tracked : (h.table.unit? id).isSome) (guest : id ≠ h.settings.identity.id)
    (hstays : stays id) : after.graph.Runs id := by
  have hconsistent := hreach.consistent
  obtain ⟨n, hn, rfl, hres⟩ := hreach.runs tracked guest
  have hkeep : ∀ k, Resolvable h.graph k → stays k.id → k ∈ after.graph.nodes := by
    intro k hk hin
    obtain ⟨m, hm, hversion, hneeds⟩ := metadata?_of_mem_graph hconsistent hk.mem
    obtain ⟨u, hu, hmeta⟩ := Option.bind_eq_some_iff.mp hm
    have hm' : after.table.metadata? k.id = some m :=
      Option.bind_eq_some_iff.mpr ⟨u, kept k.id u hu hin, hmeta⟩
    have hnode := node_mem_graph hm'
    rw [← hversion, ← hneeds] at hnode
    exact hnode
  have hdown : ∀ k m r, k ∈ h.graph.nodes → stays k.id → (m.id, r) ∈ k.dependencies →
      Resolvable h.graph m → stays m.id := by
    intro k m r hk hin hneed hm
    have hneeded : (h.table.unit? m.id).isSome :=
      (mem_ids_graph_iff hconsistent).mp (List.mem_map.mpr ⟨m, hm.mem, rfl⟩)
    exact down k.id m.id ⟨k, hk, rfl, r, hneed⟩ hneeded hin
  have hres' := hres.transfer host hkeep hdown hstays
  exact ⟨n, hres'.mem, rfl, hres'⟩

/-! ### Who depends on whom -/

/-- A unit that goes along when another one is loaded again: it is that one, or it depends on it,
directly or through others. -/
def Cone (h : Host) (id other : String) : Prop :=
  (h.table.unit? other).isSome ∧
    Relation.ReflTransGen (h.table.Depends h.settings.identity) other id

theorem needs_of_depends {a b : String}
    (hdepends : h.table.Depends h.settings.identity a b) : h.graph.Needs a b := by
  obtain ⟨_, hneeded, _, m, hm, r, hr⟩ := hdepends
  exact ⟨hneeded, _, node_mem_graph hm, rfl, r, hr⟩

theorem guest_of_tracked (foreign : h.settings.identity.id ∉ h.table.ids)
    (tracked : (h.table.unit? id).isSome) : id ≠ h.settings.identity.id := by
  rintro rfl
  rw [Option.isSome_iff_ne_none, ne_eq, UnitTable.unit?_eq_none_iff, not_not] at tracked
  exact foreign tracked

variable (hconsistent : h.table.Consistent) (foreign : h.settings.identity.id ∉ h.table.ids)
include hconsistent foreign

theorem depends_of_declares {a b : String} (hdeclares : h.graph.Declares a b)
    (tracked : (h.table.unit? b).isSome) : h.table.Depends h.settings.identity a b := by
  obtain ⟨n, hn, rfl, r, hr⟩ := hdeclares
  obtain ⟨m, hm, _, hneeds⟩ := metadata?_of_mem_graph hconsistent hn
  have hfirst : (h.table.unit? n.id).isSome :=
    (mem_ids_graph_iff hconsistent).mp (List.mem_map.mpr ⟨n, hn, rfl⟩)
  exact ⟨guest_of_tracked foreign hfirst, guest_of_tracked foreign tracked,
    tracked, m, hm, r, hneeds ▸ hr⟩

theorem cone_of_declares (tracked : (h.table.unit? id).isSome)
    (hreach : Relation.ReflTransGen h.graph.Declares other id) : h.Cone id other := by
  induction hreach using Relation.ReflTransGen.head_induction_on with
  | refl => exact ⟨tracked, .refl⟩
  | head hdeclares _ ih =>
      have hdepends := depends_of_declares hconsistent foreign hdeclares ih.1
      obtain ⟨n, hn, rfl, _⟩ := hdeclares
      exact ⟨(mem_ids_graph_iff hconsistent).mp (List.mem_map.mpr ⟨n, hn, rfl⟩),
        .head hdepends ih.2⟩

/-- The cone is what leads to a unit along what is declared. -/
theorem cone_iff (tracked : (h.table.unit? id).isSome) : h.Cone id other ↔
    other ∈ h.graph.ids ∧ Relation.ReflTransGen h.graph.Declares other id := by
  constructor
  · rintro ⟨hother, hreach⟩
    exact ⟨(mem_ids_graph_iff hconsistent).mpr hother,
      Relation.ReflTransGen.mono (fun a b hab => (needs_of_depends hab).declares) other id hreach⟩
  · rintro ⟨_, hreach⟩
    exact cone_of_declares hconsistent foreign tracked hreach

/-! ### The list of the cone -/

theorem mem_affected_iff {set : List String} (hset : ∀ s, s ∈ set ↔ s = id)
    (tracked : (h.table.unit? id).isSome) :
    other ∈ h.graph.walk.affected set ↔ h.Cone id other := by
  rw [Walk.mem_affected_iff (distinct_graph hconsistent), cone_iff hconsistent foreign tracked]
  apply and_congr_right
  intro _
  constructor
  · rintro ⟨s, hs, hreach⟩
    exact (hset s).mp hs ▸ hreach
  · exact fun hreach => ⟨id, (hset id).mpr rfl, hreach⟩

omit hconsistent in
/-- The list stands with dependencies first. -/
theorem Reachable.pairwise_affected (hreach : h.Reachable) (set : List String) :
    (h.graph.walk.affected set).Pairwise fun a b =>
      ¬ Relation.TransGen (h.table.Depends h.settings.identity) a b := by
  have hdistinct : h.graph.ids.Nodup := distinct_graph hreach.consistent
  have hpassed : ∀ other ∈ h.graph.ids, other ∈ h.graph.walk.order := by
    intro other hother
    have htracked := (mem_ids_graph_iff hreach.consistent).mp hother
    have hguest := guest_of_tracked foreign htracked
    exact (Walk.walk_sound hdistinct).mem_order_iff.mpr ⟨hguest, hreach.runs htracked hguest⟩
  apply (Walk.pairwise_affected hdistinct set).imp_of_mem
  intro a b ha _ hbehind hdepends
  have hid := ((Walk.mem_affected_iff hdistinct).mp ha).1
  exact hbehind (hpassed a hid)
    (Relation.TransGen.mono (fun _ _ => needs_of_depends) a b hdepends)

/-! ### What stays -/

omit hconsistent in
/-- Units run on when others change or go, if all they depend on stays with them. -/
theorem Reachable.runs_apart (hreach : h.Reachable) {after : Host}
    (host : after.graph.host = h.graph.host) (stays : String → Prop)
    (kept : ∀ id u, h.table.unit? id = some u → stays id → after.table.unit? id = some u)
    (down : ∀ a b, h.table.Depends h.settings.identity a b → stays a → stays b)
    (tracked : (h.table.unit? id).isSome) (hstays : stays id) : after.graph.Runs id := by
  refine hreach.runs_on host stays kept ?_ tracked (guest_of_tracked foreign tracked) hstays
  intro a b hdeclares hneeded
  exact down a b (depends_of_declares hreach.consistent foreign hdeclares hneeded)

end Host

end PluginHost
