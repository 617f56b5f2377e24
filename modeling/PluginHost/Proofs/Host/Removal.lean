import PluginHost.Proofs.Dependency.Affected
import PluginHost.Proofs.Host.Closure

/-!
Who goes in the first phase of a batch: the units a condition selects, and
every unit that needs one of them, directly or through others.
-/
namespace PluginHost

theorem Host.mem_select_iff {h : Host} (distinct : h.table.ids.Nodup)
    {condition : PluginUnit → Bool} {id : String} :
    id ∈ h.select condition ↔ ∃ u, h.table.unit? id = some u ∧ condition u = true := by
  rw [select, List.mem_map]
  constructor
  · rintro ⟨e, he, rfl⟩
    obtain ⟨hmem, hcondition⟩ := List.mem_filter.mp he
    exact ⟨e.2, (UnitTable.unit?_eq_some_iff distinct).mpr hmem, hcondition⟩
  · rintro ⟨u, hu, hcondition⟩
    exact ⟨(id, u), List.mem_filter.mpr ⟨UnitTable.mem_of_unit? hu, hcondition⟩, rfl⟩

namespace Batch

variable {b : Batch} {id other : String}

/-- Some units with those that need them, as the dependency check lists them. -/
theorem associated_snd (b : Batch) (selected : List String) (operation : String) :
    (b.associated selected operation).2 =
      if selected = [] then [] else b.host.graph.walk.affected selected := by
  unfold associated
  cases selected with
  | nil => rfl
  | cons first rest =>
      dsimp only [List.isEmpty]
      simp only [Bool.false_eq_true, if_false, reduceCtorEq]
      split <;> rfl

theorem unit?_pruneOne :
    (b.pruneOne id).host.table.unit? other =
      if other = id then none else b.host.table.unit? other := by
  have hgone := b.unit?_depart id other
  unfold pruneOne
  generalize b.depart id = left at hgone ⊢
  obtain ⟨after, answer⟩ := left
  rcases answer with _ | ⟨target, success⟩
  · exact hgone
  · exact hgone

theorem unit?_foldl_pruneOne (ids : List String) (b : Batch) (id : String) :
    (ids.foldl pruneOne b).host.table.unit? id =
      if id ∈ ids then none else b.host.table.unit? id := by
  induction ids generalizing b with
  | nil => simp
  | cons first rest ih =>
      rw [List.foldl_cons, ih, unit?_pruneOne]
      by_cases hrest : id ∈ rest
      · simp [hrest]
      · by_cases hfirst : id = first <;> simp [hrest, hfirst]

theorem unit?_prune (condition : PluginUnit → Bool) (b : Batch) (id : String) :
    (prune condition b).host.table.unit? id =
      if id ∈ (b.associated (b.host.select condition) "unload").2 then none
      else b.host.table.unit? id := by
  obtain ⟨log, hlog⟩ := b.associated_fst (b.host.select condition) "unload"
  rw [prune, unit?_foldl_pruneOne, hlog]
  simp only [List.mem_reverse]

/-- What is tracked after the first phase was tracked before. -/
theorem tracked_of_prune {condition : PluginUnit → Bool} {u : PluginUnit}
    (tracked : (prune condition b).host.table.unit? id = some u) :
    b.host.table.unit? id = some u := by
  rw [unit?_prune] at tracked
  split at tracked
  · cases tracked
  · exact tracked

/-- What is selected is among what goes along with it. -/
theorem mem_associated (hconsistent : b.host.table.Consistent) {selected : List String}
    (tracked : (b.host.table.unit? id).isSome) (hselected : id ∈ selected) (operation : String) :
    id ∈ (b.associated selected operation).2 := by
  rw [associated_snd, if_neg (List.ne_nil_of_mem hselected),
    Dependency.Walk.mem_affected_iff (Host.distinct_graph hconsistent)]
  refine ⟨?_, id, hselected, .refl⟩
  have hids : b.host.graph.ids = b.host.table.ids := Host.ids_graph hconsistent
  obtain ⟨u, hu⟩ := Option.isSome_iff_exists.mp tracked
  rw [hids]
  exact List.mem_map.mpr ⟨(id, u), UnitTable.mem_of_unit? hu, rfl⟩

/-- What a condition selects is gone after the first phase. -/
theorem unit?_prune_of_selected (hconsistent : b.host.table.Consistent)
    {condition : PluginUnit → Bool} {u : PluginUnit} (tracked : b.host.table.unit? id = some u)
    (selected : condition u = true) : (prune condition b).host.table.unit? id = none := by
  have hselected : id ∈ b.host.select condition :=
    (Host.mem_select_iff hconsistent.distinct).mpr ⟨u, tracked, selected⟩
  rw [unit?_prune, if_pos (mem_associated hconsistent (by simp [tracked]) hselected "unload")]

end Batch

theorem UnitTable.units_eq_nil {t : UnitTable} (h : ∀ id, t.unit? id = none) : t.units = [] := by
  have hentries : t.byId = [] := by
    apply List.eq_nil_iff_forall_not_mem.mpr
    intro e he
    exact unit?_eq_none_iff.mp (h e.1) (List.mem_map.mpr ⟨e, he, rfl⟩)
  rw [units, hentries, List.map_nil]

/-- Nothing is tracked once everything was unloaded. -/
theorem Host.units_unloadAll {h : Host} (hconsistent : h.table.Consistent) :
    h.unloadAll.1.table.units = [] := by
  apply UnitTable.units_eq_nil
  intro id
  have hran : h.unloadAll.1 =
      (Batch.run { Batch.Plan.none with prune := some fun _ => true } h).host := rfl
  have hnone : (Batch.prune (fun _ => true) (Batch.start h)).host.table.unit? id = none := by
    cases htracked : h.table.unit? id with
    | some u => exact Batch.unit?_prune_of_selected hconsistent htracked rfl
    | none => rw [Batch.unit?_prune, Batch.start, htracked, ite_self]
  have hprepared : Batch.prepared { Batch.Plan.none with prune := some fun _ => true } h =
    Batch.prune (fun _ => true) (Batch.start h) := rfl
  rw [hran, Batch.unit?_run, hprepared, hnone, Option.map_none, ite_self, ite_self]

end PluginHost
