import Mathlib.Data.List.Nodup
import Mathlib.Data.List.Perm.Basic
import PluginHost.Host.Table
import PluginHost.Proofs.Json.SortedKeys
import PluginHost.Proofs.Plugin.Live

/-!
The table of units and its two ways in. The module says what a question by id
finds after each change, and when the two ways in agree; every change the host
makes keeps them in agreement.
-/
namespace PluginHost.UnitTable

variable {t : UnitTable} {id other : String} {u v : PluginUnit}

/-! ### Questions by id -/

theorem mem_of_unit? (h : t.unit? id = some u) : (id, u) ∈ t.byId := by
  obtain ⟨before, after, hsplit, _⟩ := List.lookup_eq_some_iff.mp h
  simp [hsplit]

theorem unit?_eq_none_iff : t.unit? id = none ↔ id ∉ t.ids := by
  rw [unit?, List.lookup_eq_none_iff, ids, List.mem_map]
  constructor
  · rintro h ⟨e, he, rfl⟩
    simpa using h e he
  · intro h e he
    exact bne_iff_ne.mpr fun heq => h ⟨e, he, heq.symm⟩

theorem unit?_eq_some_iff (distinct : t.ids.Nodup) : t.unit? id = some u ↔ (id, u) ∈ t.byId := by
  constructor
  · exact mem_of_unit?
  · intro hmem
    cases hv : t.unit? id with
    | none => exact absurd (List.mem_map.mpr ⟨(id, u), hmem, rfl⟩) (unit?_eq_none_iff.mp hv)
    | some v =>
        have heq := List.inj_on_of_nodup_map distinct (mem_of_unit? hv) hmem rfl
        rw [(Prod.mk.inj heq).2]

theorem unit?_insert (path : Path) :
    (t.insert id path u).unit? other = if other = id then some u else t.unit? other :=
  Json.lookup_put id u t.byId other

theorem lookup_filter_ne (entries : List (String × PluginUnit)) :
    (entries.filter (·.1 != id)).lookup other =
      if other = id then none else entries.lookup other := by
  induction entries with
  | nil => simp
  | cons e rest ih =>
      obtain ⟨key, u⟩ := e
      rw [Json.lookup_cons_eq_ite, List.filter_cons]
      by_cases hkey : key = id
      · simp only [hkey, bne_self_eq_false, Bool.false_eq_true, if_false, ih]
        split <;> rfl
      · simp only [bne_iff_ne.mpr hkey, if_true, Json.lookup_cons_eq_ite, ih]
        by_cases hother : other = key
        · simp [hother, hkey]
        · simp [hother]

theorem unit?_erase : (t.erase id).unit? other = if other = id then none else t.unit? other :=
  lookup_filter_ne t.byId

theorem unit?_update : (t.update id u).unit? other =
    if other = id then (t.unit? id).map fun _ => u else t.unit? other := by
  obtain ⟨entries, index⟩ := t
  simp only [unit?, update]
  induction entries with
  | nil => simp
  | cons e rest ih =>
      obtain ⟨key, v⟩ := e
      rw [List.map_cons]
      by_cases hkey : key = id
      · subst hkey
        simp only [if_true, Json.lookup_cons_eq_ite, ih]
        split <;> simp_all
      · rw [if_neg hkey, Json.lookup_cons_eq_ite, Json.lookup_cons_eq_ite, ih]
        by_cases hother : other = key
        · simp [hother, hkey]
        · simp [hother, Json.lookup_cons_eq_ite, Ne.symm hkey]

theorem unit?_rename {old new : String} (tracked : t.unit? old = some u) :
    (t.rename old new).unit? other =
      if other = new then some u else if other = old then none else t.unit? other := by
  simp only [rename, tracked]
  exact (Json.lookup_put new u _ other).trans (by rw [lookup_filter_ne]; rfl)

theorem unit?_update_tracked (tracked : t.unit? id = some u) (v : PluginUnit) :
    (t.update id v).unit? other = if other = id then some v else t.unit? other := by
  rw [unit?_update, tracked, Option.map_some]

theorem unit?_update_self (tracked : t.unit? id = some u) (v : PluginUnit) :
    (t.update id v).unit? id = some v :=
  (unit?_update_tracked tracked v).trans (if_pos rfl)

/-- What is tracked once a unit was replaced and came under another id. -/
theorem unit?_moved {new : String} (tracked : t.unit? id = some u) (v : PluginUnit) :
    ((t.update id v).rename id new).unit? other =
      if other = new then some v else if other = id then none else t.unit? other := by
  rw [unit?_rename (unit?_update_self tracked v), unit?_update_tracked tracked]
  by_cases hother : other = id
  · rw [if_pos hother, if_pos hother]
  · rw [if_neg hother, if_neg hother, if_neg hother]

theorem ids_update : (t.update id u).ids = t.ids := by
  simp only [ids, update, List.map_map]
  apply List.map_congr_left
  intro e _
  by_cases hkey : e.1 = id <;> simp [hkey]

/-- A unit that goes is gone, whatever was last done to it. -/
theorem erase_update : (t.update id u).erase id = t.erase id := by
  have hentries : ∀ entries : List (String × PluginUnit),
      (entries.map fun e => if e.1 = id then (id, u) else e).filter (·.1 != id) =
        entries.filter (·.1 != id) := by
    intro entries
    induction entries with
    | nil => rfl
    | cons e rest ih =>
        rw [List.map_cons, List.filter_cons, List.filter_cons, ih]
        by_cases hkey : e.1 = id <;> simp [hkey]
  simp [erase, update, hentries]

/-- With distinct ids, the entry of an id can be set apart. -/
theorem byId_perm (distinct : t.ids.Nodup) (tracked : t.unit? id = some u) :
    t.byId.Perm ((id, u) :: t.byId.filter (·.1 != id)) := by
  obtain ⟨before, after, hsplit, hbefore⟩ := List.lookup_eq_some_iff.mp tracked
  rw [ids, hsplit, List.map_append, List.map_cons] at distinct
  have hafter : ∀ e ∈ after, (e.1 != id) = true := by
    intro e he
    have hnew := (List.nodup_cons.mp (List.nodup_append.mp distinct).2.1).1
    exact bne_iff_ne.mpr fun heq => hnew (List.mem_map.mpr ⟨e, he, heq⟩)
  have hkept : ∀ e ∈ before, (e.1 != id) = true := by
    intro e he
    have hne := hbefore e he
    rw [bne_iff_ne] at hne ⊢
    exact hne.symm
  rw [hsplit, List.filter_append, List.filter_cons, List.filter_eq_self.mpr hkept,
    List.filter_eq_self.mpr hafter]
  simp only [bne_self_eq_false, Bool.false_eq_true, if_false]
  exact List.perm_middle

theorem byId_rename_perm {old new : String} (t : UnitTable) (tracked : t.unit? old = some u)
    (free : new ∉ (t.erase old).ids) : (t.rename old new).byId.Perm ((new, u) :: (t.erase old).byId) := by
  simp only [rename, tracked]
  exact Json.put_perm u free

/-- A unit that came back under another id, which is free, stands there beside those that stay. -/
theorem byId_moved_perm (tracked : t.unit? id = some u) (v : PluginUnit) {new : String}
    (free : t.unit? new = none) :
    ((t.update id v).rename id new).byId.Perm ((new, v) :: (t.erase id).byId) := by
  have hkept : (t.update id v).unit? id = some v := unit?_update_self tracked v
  have hnew : new ∉ ((t.update id v).erase id).ids := by
    rw [erase_update, ← unit?_eq_none_iff, unit?_erase, free, ite_self]
  have hperm := byId_rename_perm _ hkept hnew
  rwa [erase_update] at hperm

/-! ### The units of a table -/

theorem units_perm (distinct : t.ids.Nodup) (tracked : t.unit? id = some u) :
    t.units.Perm (u :: (t.erase id).units) :=
  (byId_perm distinct tracked).map Prod.snd

theorem units_insert_perm (path : Path) (u : PluginUnit) (free : t.unit? id = none) :
    (t.insert id path u).units.Perm (u :: t.units) :=
  (Json.put_perm u (unit?_eq_none_iff.mp free)).map Prod.snd

/-- A unit that replaces another one stands beside those that stay. -/
theorem units_update_perm (distinct : t.ids.Nodup) (tracked : t.unit? id = some u)
    (v : PluginUnit) : (t.update id v).units.Perm (v :: (t.erase id).units) := by
  have hkept : (t.update id v).unit? id = some v := unit?_update_self tracked v
  have hids : (t.update id v).ids.Nodup := by
    rw [ids_update]
    exact distinct
  have hperm := units_perm hids hkept
  rwa [erase_update] at hperm

theorem units_rename_perm (tracked : t.unit? id = some u) (v : PluginUnit) {new : String}
    (free : t.unit? new = none) :
    ((t.update id v).rename id new).units.Perm (v :: (t.erase id).units) :=
  (byId_moved_perm tracked v free).map Prod.snd

/-! ### Agreement of the two ways in -/

/-- The files of the index with the ids they are tracked under. -/
def pathIndex (t : UnitTable) : List (List Path.Step × String) :=
  t.idByPath.map fun e => (e.1.steps, e.2)

/-- The files of the units with the ids these are under. -/
def unitPaths (t : UnitTable) : List (List Path.Step × String) :=
  t.byId.map fun e => (e.2.path.steps, e.1)

theorem unitPaths_perm (distinct : t.ids.Nodup) (tracked : t.unit? id = some u) :
    t.unitPaths.Perm ((u.path.steps, id) :: (t.erase id).unitPaths) :=
  (byId_perm distinct tracked).map fun e : String × PluginUnit => (e.2.path.steps, e.1)

/-- What a renaming does to an entry of the index. -/
def moveTo (old new : String) (e : List Path.Step × String) : List Path.Step × String :=
  if e.2 = old then (e.1, new) else e

theorem pathIndex_rename {old new : String} (tracked : t.unit? old = some u) :
    (t.rename old new).pathIndex = t.pathIndex.map (moveTo old new) := by
  simp only [pathIndex, rename, tracked, List.map_map]
  apply List.map_congr_left
  intro e _
  by_cases hkey : e.2 = old <;> simp [moveTo, hkey]

theorem map_moveTo_erase {old new : String} :
    (t.erase old).unitPaths.map (moveTo old new) = (t.erase old).unitPaths := by
  rw [unitPaths, List.map_map]
  apply List.map_congr_left
  intro e he
  have hkey : e.1 ≠ old := bne_iff_ne.mp (List.mem_filter.mp he).2
  simp [moveTo, hkey]

/-- A table whose two ways in agree: no two units share an id or a file, each unit is under its own
id and lives, and the index of files has one entry for each. -/
structure Consistent (t : UnitTable) : Prop where
  distinct : t.ids.Nodup
  keyed : ∀ e ∈ t.byId, e.2.id = e.1
  live : ∀ e ∈ t.byId, e.2.Live
  indexed : t.pathIndex.Perm t.unitPaths
  apart : (t.unitPaths.map Prod.fst).Nodup

namespace Consistent

theorem empty : UnitTable.empty.Consistent where
  distinct := List.nodup_nil
  keyed := by simp [UnitTable.empty]
  live := by simp [UnitTable.empty]
  indexed := List.Perm.refl _
  apart := List.nodup_nil

variable (h : t.Consistent)
include h

theorem id_eq (tracked : t.unit? id = some u) : u.id = id :=
  h.keyed (id, u) (mem_of_unit? tracked)

theorem unit_live (tracked : t.unit? id = some u) : u.Live :=
  h.live (id, u) (mem_of_unit? tracked)

/-- A file is tracked under an id exactly when it is the file of the unit under that id. -/
theorem idOf?_eq_some_iff {path : Path} :
    t.idOf? path = some id ↔ ∃ u, t.unit? id = some u ∧ u.path.same path = true := by
  have hindex : (t.pathIndex.map Prod.fst).Nodup := (h.indexed.map Prod.fst).nodup_iff.mpr h.apart
  have hfound : t.idOf? path = some id ↔ (path.steps, id) ∈ t.pathIndex := by
    rw [idOf?, Option.map_eq_some_iff]
    constructor
    · rintro ⟨e, he, rfl⟩
      have hsame := Path.same_iff.mp (by simpa using List.find?_some he)
      exact List.mem_map.mpr ⟨e, List.mem_of_find?_eq_some he, by rw [hsame]⟩
    · intro hmem
      obtain ⟨e, he, heq⟩ := List.mem_map.mp hmem
      obtain ⟨hsteps, hid⟩ := Prod.mk.inj heq
      have hsome : (t.idByPath.find? fun e => e.1.same path).isSome :=
        List.find?_isSome.mpr ⟨e, he, Path.same_iff.mpr hsteps⟩
      obtain ⟨e', he'⟩ := Option.isSome_iff_exists.mp hsome
      have hsteps' := Path.same_iff.mp (by simpa using List.find?_some he')
      have hmem' : (e'.1.steps, e'.2) ∈ t.pathIndex :=
        List.mem_map.mpr ⟨e', List.mem_of_find?_eq_some he', rfl⟩
      have heq' := List.inj_on_of_nodup_map hindex hmem' hmem hsteps'
      exact ⟨e', he', (Prod.mk.inj heq').2⟩
  rw [hfound, h.indexed.mem_iff, unitPaths, List.mem_map]
  constructor
  · rintro ⟨e, he, heq⟩
    obtain ⟨hsteps, rfl⟩ := Prod.mk.inj heq
    exact ⟨e.2, (unit?_eq_some_iff h.distinct).mpr he, Path.same_iff.mpr hsteps⟩
  · rintro ⟨u, hu, hsame⟩
    exact ⟨(id, u), mem_of_unit? hu, by rw [Path.same_iff.mp hsame]⟩

/-- Files tell tracked units apart. -/
theorem not_same_file (hu : t.unit? id = some u) {v : PluginUnit} (hv : t.unit? other = some v)
    (apart : id ≠ other) : u.path.same v.path = false := by
  by_contra hsame
  have hone : t.idOf? v.path = some id :=
    h.idOf?_eq_some_iff.mpr ⟨u, hu, Bool.not_eq_false _ ▸ hsame⟩
  have htwo : t.idOf? v.path = some other :=
    h.idOf?_eq_some_iff.mpr ⟨v, hv, Path.same_iff.mpr rfl⟩
  exact apart (Option.some.inj (hone.symm.trans htwo))

/-- What stays when a unit goes shares no file with it. -/
theorem stays (tracked : t.unit? id = some u) {v : PluginUnit}
    (hv : (t.erase id).unit? other = some v) :
    t.unit? other = some v ∧ u.path.same v.path = false := by
  rw [unit?_erase] at hv
  split at hv
  · cases hv
  · next hother => exact ⟨hv, h.not_same_file tracked hv (Ne.symm hother)⟩

theorem path_not_mem {path : Path} (free : t.containsPath path = false) :
    path.steps ∉ t.unitPaths.map Prod.fst := by
  intro hmem
  obtain ⟨⟨steps, id⟩, hpair, rfl⟩ := List.mem_map.mp hmem
  obtain ⟨e, he, heq⟩ := List.mem_map.mp hpair
  have hfound : t.idOf? path = some e.1 := h.idOf?_eq_some_iff.mpr
    ⟨e.2, (unit?_eq_some_iff h.distinct).mpr he, Path.same_iff.mpr (Prod.mk.inj heq).1⟩
  simp [containsPath, hfound] at free

/-- No unit is of a file that is not tracked. -/
theorem apart_of_free {path : Path} (free : t.containsPath path = false) :
    ∀ w ∈ t.units, w.path.steps ≠ path.steps := by
  intro w hw heq
  obtain ⟨e, he, rfl⟩ := List.mem_map.mp hw
  exact h.path_not_mem free
    (List.mem_map.mpr ⟨(e.2.path.steps, e.1), List.mem_map.mpr ⟨e, he, rfl⟩, heq⟩)

/-- No other unit is of the file of a tracked one. -/
theorem apart_of_tracked (tracked : t.unit? id = some u) :
    ∀ w ∈ (t.erase id).units, w.path.steps ≠ u.path.steps := by
  have hsplit := ((unitPaths_perm h.distinct tracked).map Prod.fst).nodup_iff.mp h.apart
  intro w hw heq
  obtain ⟨e, he, rfl⟩ := List.mem_map.mp hw
  exact (List.nodup_cons.mp hsplit).1
    (List.mem_map.mpr ⟨(e.2.path.steps, e.1), List.mem_map.mpr ⟨e, he, rfl⟩, heq⟩)

/-! ### Changes -/

theorem erase (id : String) : (t.erase id).Consistent where
  distinct := by
    have hids : (t.erase id).ids.Sublist t.ids := List.filter_sublist.map Prod.fst
    exact h.distinct.sublist hids
  keyed := fun e he => h.keyed e (List.mem_filter.mp he).1
  live := fun e he => h.live e (List.mem_filter.mp he).1
  indexed := by
    have hindex : (t.erase id).pathIndex = t.pathIndex.filter (·.2 != id) := by
      simp [pathIndex, UnitTable.erase, List.filter_map, Function.comp_def]
    have hpaths : (t.erase id).unitPaths = t.unitPaths.filter (·.2 != id) := by
      simp [unitPaths, UnitTable.erase, List.filter_map, Function.comp_def]
    rw [hindex, hpaths]
    exact h.indexed.filter _
  apart := by
    have hpaths : ((t.erase id).unitPaths.map Prod.fst).Sublist (t.unitPaths.map Prod.fst) :=
      (List.filter_sublist.map _).map Prod.fst
    exact h.apart.sublist hpaths

theorem insert (live : u.Live) (newId : t.unit? u.id = none)
    (newPath : t.containsPath u.path = false) : (t.insert u.id u.path u).Consistent := by
  have hid : u.id ∉ t.ids := unit?_eq_none_iff.mp newId
  have hperm : (t.insert u.id u.path u).byId.Perm ((u.id, u) :: t.byId) := Json.put_perm u hid
  have hpaths : (t.insert u.id u.path u).unitPaths.Perm ((u.path.steps, u.id) :: t.unitPaths) :=
    hperm.map _
  have hindex : (t.insert u.id u.path u).pathIndex = t.pathIndex ++ [(u.path.steps, u.id)] := by
    have hnone : (t.idByPath.any fun e => e.1.same u.path) = false := by
      simpa [containsPath, idOf?] using newPath
    simp [pathIndex, UnitTable.insert, putPath, hnone]
  refine ⟨?_, ?_, ?_, ?_, ?_⟩
  · exact (hperm.map Prod.fst).nodup_iff.mpr (List.nodup_cons.mpr ⟨hid, h.distinct⟩)
  · intro e he
    rcases List.mem_cons.mp (hperm.mem_iff.mp he) with rfl | hold
    · rfl
    · exact h.keyed e hold
  · intro e he
    rcases List.mem_cons.mp (hperm.mem_iff.mp he) with rfl | hold
    · exact live
    · exact h.live e hold
  · rw [hindex]
    exact (List.perm_append_singleton _ _).trans ((h.indexed.cons _).trans hpaths.symm)
  · exact (hpaths.map Prod.fst).nodup_iff.mpr
      (List.nodup_cons.mpr ⟨h.path_not_mem newPath, h.apart⟩)

/-- Replacing a unit by one of the same file moves nothing in either way in. -/
theorem unitPaths_update (tracked : t.unit? id = some u) (path : v.path = u.path) :
    (t.update id v).unitPaths = t.unitPaths := by
  simp only [unitPaths, UnitTable.update, List.map_map]
  apply List.map_congr_left
  intro e he
  by_cases hkey : e.1 = id
  · have heq : e.2 = u := by
      have hunit := (unit?_eq_some_iff h.distinct).mpr he
      rw [hkey, tracked] at hunit
      exact (Option.some.inj hunit).symm
    simp [hkey, path, heq]
  · simp [hkey]

theorem update (tracked : t.unit? id = some u) (live : v.Live) (same : v.id = id)
    (path : v.path = u.path) : (t.update id v).Consistent := by
  have hentry : ∀ e ∈ (t.update id v).byId, e = (id, v) ∨ e ∈ t.byId := by
    intro e he
    obtain ⟨e', he', rfl⟩ := List.mem_map.mp he
    by_cases hkey : e'.1 = id
    · exact .inl (if_pos hkey)
    · exact .inr (by rwa [if_neg hkey])
  refine ⟨?_, ?_, ?_, ?_, ?_⟩
  · rw [ids_update]
    exact h.distinct
  · intro e he
    rcases hentry e he with rfl | hold
    · exact same
    · exact h.keyed e hold
  · intro e he
    rcases hentry e he with rfl | hold
    · exact live
    · exact h.live e hold
  · rw [h.unitPaths_update tracked path]
    exact h.indexed
  · rw [h.unitPaths_update tracked path]
    exact h.apart

/-- A unit that came back under another id, which is free, is moved there. -/
theorem rename (tracked : t.unit? id = some u) (live : v.Live) (free : t.unit? v.id = none)
    (path : v.path = u.path) : ((t.update id v).rename id v.id).Consistent := by
  have hkept : (t.update id v).unit? id = some v := unit?_update_self tracked v
  have hids : (t.update id v).ids.Nodup := by
    rw [ids_update]
    exact h.distinct
  have hnew : v.id ∉ (t.erase id).ids := by
    rw [← unit?_eq_none_iff, unit?_erase, free, ite_self]
  have hperm : ((t.update id v).rename id v.id).byId.Perm ((v.id, v) :: (t.erase id).byId) :=
    byId_moved_perm tracked v free
  have hpaths : ((t.update id v).rename id v.id).unitPaths.Perm
      ((v.path.steps, v.id) :: (t.erase id).unitPaths) := hperm.map _
  have hold : t.unitPaths.Perm ((v.path.steps, id) :: (t.erase id).unitPaths) := by
    have hsplit := unitPaths_perm hids hkept
    rwa [erase_update, h.unitPaths_update tracked path] at hsplit
  have hindex : ((t.update id v).rename id v.id).pathIndex.Perm
      ((v.path.steps, v.id) :: (t.erase id).unitPaths) := by
    have hmoved := (h.indexed.trans hold).map (moveTo id v.id)
    rw [List.map_cons, map_moveTo_erase, moveTo, if_pos rfl] at hmoved
    rw [pathIndex_rename hkept]
    exact hmoved
  refine ⟨?_, ?_, ?_, ?_, ?_⟩
  · exact (hperm.map Prod.fst).nodup_iff.mpr
      (List.nodup_cons.mpr ⟨hnew, (h.erase id).distinct⟩)
  · intro e he
    rcases List.mem_cons.mp (hperm.mem_iff.mp he) with rfl | hrest
    · rfl
    · exact (h.erase id).keyed e hrest
  · intro e he
    rcases List.mem_cons.mp (hperm.mem_iff.mp he) with rfl | hrest
    · exact live
    · exact (h.erase id).live e hrest
  · exact hindex.trans hpaths.symm
  · exact (hpaths.map Prod.fst).nodup_iff.mpr ((hold.map Prod.fst).nodup_iff.mp h.apart)

end Consistent

/-! ### The order of ids -/

/-- A table whose units stand in ascending order of ids. -/
def Sorted (t : UnitTable) : Prop :=
  t.ids.Pairwise (· < ·)

namespace Sorted

theorem empty : UnitTable.empty.Sorted :=
  List.Pairwise.nil

variable (h : t.Sorted)
include h

theorem erase (id : String) : (t.erase id).Sorted := by
  have hids : (t.erase id).ids.Sublist t.ids := List.filter_sublist.map Prod.fst
  exact h.sublist hids

theorem insert (id : String) (path : Path) (u : PluginUnit) : (t.insert id path u).Sorted :=
  Json.ascending_put id u h

theorem update (id : String) (u : PluginUnit) : (t.update id u).Sorted := by
  rw [Sorted, ids_update]
  exact h

theorem rename (old new : String) : (t.rename old new).Sorted := by
  unfold UnitTable.rename
  split
  · exact h
  · next u _ => exact Json.ascending_put new u (h.erase old)

end Sorted

/-- A table in which no two units share an id or a file, a file leads to an id exactly when the unit
under that id is of that file, and every unit is loaded or ready under its own id, which all it
registered carries. -/
structure Faithful (t : UnitTable) : Prop where
  distinct_ids : t.ids.Nodup
  distinct_paths : (t.units.map fun u => u.path.steps).Nodup
  distinct_files : (t.idByPath.map fun e => e.1.steps).Nodup
  keyed : ∀ id u, t.unit? id = some u → u.id = id
  found : ∀ path id, t.idOf? path = some id ↔ ∃ u, t.unit? id = some u ∧ u.path.same path = true
  described : ∀ id u, t.unit? id = some u → u.metadata.isSome
  running : ∀ id u, t.unit? id = some u → u.state = .loaded ∨ u.state = .ready
  listeners : ∀ id u, t.unit? id = some u → ∀ l ∈ u.registry.listeners, l.pluginId = id
  help : ∀ id u, t.unit? id = some u → ∀ e ∈ u.registry.help, e.pluginId = some id

theorem Consistent.faithful (h : t.Consistent) : t.Faithful where
  distinct_ids := h.distinct
  distinct_paths := by
    have hpaths := h.apart
    rw [unitPaths, List.map_map] at hpaths
    rw [units, List.map_map]
    exact hpaths
  distinct_files := by
    have hfiles := (h.indexed.map Prod.fst).nodup_iff.mpr h.apart
    rw [pathIndex, List.map_map] at hfiles
    exact hfiles
  keyed := fun id u tracked => h.id_eq tracked
  found := fun path id => h.idOf?_eq_some_iff
  described := fun id u tracked => (h.unit_live tracked).described
  running := fun id u tracked => (h.unit_live tracked).running
  listeners := fun id u tracked => h.id_eq tracked ▸ (h.unit_live tracked).owned.listeners
  help := fun id u tracked => h.id_eq tracked ▸ (h.unit_live tracked).owned.help

end PluginHost.UnitTable
