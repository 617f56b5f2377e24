import PluginHost.Proofs.Host.Newcomers
import PluginHost.Proofs.Plugin.Fingerprint

/-!
What a refresh leaves behind: every tracked unit is of a file that was found,
that is there, and that holds what was loaded; and every file that was found is
tracked, unless the result tells that it could not be. Units whose file went
are pruned, new ones are loaded from what their file holds, and each other one
is loaded again, or left alone because its file did not change.
-/
namespace PluginHost

/-- What could not be loaded, could not be loaded again, or did not pass the check. -/
def BatchResult.setbacks (r : BatchResult) : List Target :=
  r.load.failed ++ r.reload.failed ++ r.dependencyCheck.failed

theorem PluginUnit.fingerprint_welcomed (u : PluginUnit) :
    u.welcomed.fingerprint = u.fingerprint := by
  unfold welcomed
  split <;> rfl

theorem UnitTable.Consistent.containsPath_iff {t : UnitTable} (h : t.Consistent) {path : Path} :
    t.containsPath path = true ↔ ∃ id u, t.unit? id = some u ∧ u.path.same path = true := by
  rw [containsPath, Option.isSome_iff_exists]
  exact exists_congr fun _ => h.idOf?_eq_some_iff

theorem FileSystem.isFile_of_mem_list {files : FileSystem} {dir path : Path} {suffix : String}
    (h : path ∈ files.list dir suffix) : files.isFile path = true := by
  unfold list at h
  split at h
  · cases h
  · split at h
    · have hkept := (List.mem_filter.mp (List.mem_mergeSort.mp h)).2
      exact (Bool.and_eq_true_iff.mp hkept).1
    · cases h

/-- A file that was found and is there. -/
structure Backed (files : FileSystem) (found : List Path) (path : Path) : Prop where
  found : found.any path.same = true
  there : files.isFile path = true

/-- A refresh lets those units be that are backed. -/
theorem backed_iff_not_stale {u : PluginUnit} {files : FileSystem} {found : List Path} :
    (!u.fileExists files || !found.any u.path.same) = false ↔ Backed files found u.path := by
  rw [Bool.or_eq_false_iff, Bool.not_eq_false', Bool.not_eq_false']
  exact ⟨fun ⟨there, found⟩ => ⟨found, there⟩, fun ⟨found, there⟩ => ⟨there, found⟩⟩

namespace Batch

variable {b after : Batch} {id i : String} {u w : PluginUnit} {files : FileSystem}
  {found : List Path} {path : Path}

/-! ### Where tracked units come from -/

theorem fresh_depart (b : Batch) (id : String) : (b.depart id).1.fresh = b.fresh := by
  unfold depart
  dsimp only
  split
  · rfl
  · split <;> rfl

/-- What a reload leaves tracked: all others, whether or not it went well, and the unit as it came
back, if it did. -/
theorem reloadUnit_units (tracked : b.host.table.unit? id = some u) :
    (b.reloadUnit id u).1.fresh = b.fresh ∧
      ((∃ cause, (b.reloadUnit id u).2.2 = .error cause ∧
          ∀ i, i ≠ id → (b.reloadUnit id u).1.host.table.unit? i = b.host.table.unit? i) ∨
        ∃ v newId t, u.reload b.host.env b.host.trace = (v, .ok (), t) ∧
          (b.reloadUnit id u).2.2 = .ok newId ∧
          ∀ i, (b.reloadUnit id u).1.host.table.unit? i =
            if i = newId then some v else if i = id then none else b.host.table.unit? i) := by
  generalize hran : u.reload b.host.env b.host.trace = ran
  obtain ⟨v, result, t⟩ := ran
  have hothers : ∀ i, i ≠ id → (b.host.table.update id v).unit? i = b.host.table.unit? i := by
    intro i hi
    rw [UnitTable.unit?_update, if_neg hi]
  simp only [reloadUnit, hran]
  cases result with
  | error cause => exact ⟨rfl, .inl ⟨cause, rfl, hothers⟩⟩
  | ok _ =>
      dsimp only
      split
      · next hsame =>
          refine ⟨rfl, .inr ⟨v, id, t, rfl, rfl, ?_⟩⟩
          intro i
          refine (UnitTable.unit?_update_tracked tracked v).trans ?_
          by_cases hi : i = id <;> simp [hi]
      · split
        · exact ⟨rfl, .inl ⟨_, rfl, hothers⟩⟩
        · exact ⟨rfl, .inr ⟨v, v.id, t, rfl, rfl, fun i => UnitTable.unit?_moved tracked v⟩⟩

/-- A unit that is tracked once another one was loaded again was tracked before, or it is what the
reload brought. -/
theorem refreshOne_origin (hconsistent : b.host.table.Consistent)
    (tracked : (b.refreshOne id).host.table.unit? i = some w) :
    b.host.table.unit? i = some w ∧ (i ∈ (b.refreshOne id).fresh → i ∈ b.fresh) ∧
        (i = id → i ∈ b.fresh) ∨
      ∃ u t, b.host.table.unit? id = some u ∧
        u.reload b.host.env b.host.trace = (w, .ok (), t) := by
  by_cases hnew : id ∈ b.fresh
  · have hskip : b.refreshOne id = b := by simp [refreshOne, hnew]
    rw [hskip] at tracked ⊢
    exact .inl ⟨tracked, fun h => h, fun h => h ▸ hnew⟩
  · cases hu : b.host.table.unit? id with
    | none =>
        have hskip : b.refreshOne id = b := by simp [refreshOne, hu]
        rw [hskip] at tracked ⊢
        refine .inl ⟨tracked, fun h => h, ?_⟩
        rintro rfl
        cases hu.symm.trans tracked
    | some u =>
        have hreloadable : reloadable u = true := by
          simpa [reloadable] using (hconsistent.unit_live hu).running
        have hfresh : b.fresh.contains id = false := by simpa using hnew
        obtain ⟨hold, hran⟩ := reloadUnit_units hu
        simp only [refreshOne, hu, hreloadable, hfresh, Bool.not_true, Bool.false_eq_true,
          if_false] at tracked ⊢
        generalize b.reloadUnit id u = reloaded at hold hran tracked ⊢
        obtain ⟨back, v, result⟩ := reloaded
        dsimp only at hold hran
        rcases hran with ⟨cause, rfl, hothers⟩ | ⟨v, newId, t, hv, rfl, hunits⟩
        · dsimp only at tracked ⊢
          rw [unit?_depart] at tracked
          split at tracked
          · cases tracked
          · next hi =>
              rw [fresh_depart]
              exact .inl ⟨(hothers i hi).symm.trans tracked, fun h => hold ▸ h,
                fun h => absurd h hi⟩
        · have hw := (hunits i).symm.trans tracked
          split at hw
          · cases hw
            exact .inr ⟨u, t, rfl, hv⟩
          · next hi =>
              split at hw
              · cases hw
              · next hother =>
                  refine .inl ⟨hw, ?_, fun h => absurd h hother⟩
                  intro h
                  have hmem : i ∈ back.fresh ++ [newId] := h
                  rw [hold, List.mem_append, List.mem_singleton] at hmem
                  exact hmem.resolve_right hi

/-- A unit that is tracked once a file was looked at was tracked before, or it is what the file
brought. -/
theorem discoverOne_origin (tracked : (b.discoverOne path).host.table.unit? i = some w) :
    b.host.table.unit? i = some w ∧ (i ∈ (b.discoverOne path).fresh → i ∈ b.fresh) ∨
      ∃ t, (PluginUnit.ofPath path).load b.host.env b.host.trace = (w, .ok (), t) := by
  have hfound := b.discoverOne_discovered path
  generalize b.discoverOne path = after at hfound tracked ⊢
  cases hfound with
  | known _ => exact .inl ⟨tracked, fun h => h⟩
  | refused _ _ => exact .inl ⟨tracked, fun h => h⟩
  | @entered u loaded log live state held newId newPath brought =>
      have hw := (UnitTable.unit?_insert u.path).symm.trans tracked
      split at hw
      · cases hw
        exact .inr brought
      · next hother =>
          refine .inl ⟨hw, ?_⟩
          intro h
          have hmem : i ∈ b.fresh ++ [u.id] := h
          rw [List.mem_append, List.mem_singleton] at hmem
          exact hmem.resolve_right hother

/-- What holds of the files of all units holds of them once a unit was loaded again. -/
theorem path_refreshOne {P : Path → Prop} (hconsistent : b.host.table.Consistent)
    (hb : ∀ i w, b.host.table.unit? i = some w → P w.path)
    (tracked : (b.refreshOne id).host.table.unit? i = some w) : P w.path := by
  rcases refreshOne_origin hconsistent tracked with ⟨hold, _⟩ | ⟨u, t, hu, hran⟩
  · exact hb i w hold
  · rw [(PluginUnit.reload_latest hran).1]
    exact hb id u hu

/-! ### Nothing is left behind its file -/

/-- A batch in which all units are of files that are there, and new ones hold what their files
do. -/
structure FilesCurrent (files : FileSystem) (found : List Path) (b : Batch) : Prop where
  backed : ∀ i w, b.host.table.unit? i = some w → Backed files found w.path
  latest : ∀ i w, b.host.table.unit? i = some w → i ∈ b.fresh → w.Latest files

theorem FilesCurrent.discoverOne (hb : b.FilesCurrent files found)
    (hfiles : b.host.env.files = files)
    (hpath : Backed files found path) : (b.discoverOne path).FilesCurrent files found where
  backed := by
    intro i w hw
    rcases discoverOne_origin hw with ⟨hold, _⟩ | ⟨t, hran⟩
    · exact hb.backed i w hold
    · rw [(PluginUnit.load_latest hran).1]
      exact hpath
  latest := by
    intro i w hw hnew
    rcases discoverOne_origin hw with ⟨hold, hfresh⟩ | ⟨t, hran⟩
    · exact hb.latest i w hold (hfresh hnew)
    · exact hfiles ▸ (PluginUnit.load_latest hran).2

theorem FilesCurrent.discover {rest : List Path} (hb : b.FilesCurrent files found)
    (hfiles : b.host.env.files = files) (hrest : ∀ path ∈ rest, Backed files found path) :
    (discover rest b).FilesCurrent files found := by
  induction rest generalizing b with
  | nil => exact hb
  | cons path rest ih =>
      have henv : (b.discoverOne path).host.env = b.host.env := (b.discoverOne_transitions path).env
      exact ih (hb.discoverOne hfiles (hrest path List.mem_cons_self)) (henv ▸ hfiles)
        fun p hp => hrest p (List.mem_cons_of_mem path hp)

/-- A unit as it was when loading again began, that is not new and was not attempted since. -/
structure Untried (before : Batch) (done : List String) (i : String) (w : PluginUnit) : Prop where
  tracked : before.host.table.unit? i = some w
  old : i ∉ before.fresh
  untried : i ∉ done

/-- A batch on the way: every unit is of a file that is there, and holds what that file does, or was
not attempted yet. -/
structure ReloadProgress (files : FileSystem) (found : List Path) (before : Batch)
    (done : List String) (b : Batch) : Prop where
  backed : ∀ i w, b.host.table.unit? i = some w → Backed files found w.path
  latest : ∀ i w, b.host.table.unit? i = some w →
    w.Latest files ∨ Untried before done i w ∧ i ∉ b.fresh

theorem FilesCurrent.reloadProgress (hb : b.FilesCurrent files found) :
    ReloadProgress files found b [] b where
  backed := hb.backed
  latest := by
    intro i w hw
    by_cases hnew : i ∈ b.fresh
    · exact .inl (hb.latest i w hw hnew)
    · exact .inr ⟨⟨hw, hnew, List.not_mem_nil⟩, hnew⟩

variable {before : Batch} {done : List String}

theorem ReloadProgress.refreshOne (hb : ReloadProgress files found before done b)
    (hconsistent : b.host.table.Consistent) (hfiles : b.host.env.files = files) (id : String) :
    ReloadProgress files found before (done ++ [id]) (b.refreshOne id) where
  backed := fun _ _ tracked => path_refreshOne hconsistent hb.backed tracked
  latest := by
    intro i w hw
    rcases refreshOne_origin hconsistent hw with ⟨hold, hfresh, hskip⟩ | ⟨u, t, hu, hran⟩
    · rcases hb.latest i w hold with hlatest | ⟨huntried, hnew⟩
      · exact .inl hlatest
      · refine .inr ⟨⟨huntried.tracked, huntried.old, ?_⟩, fun h => hnew (hfresh h)⟩
        rw [List.mem_append, List.mem_singleton, not_or]
        exact ⟨huntried.untried, fun h => hnew (hskip h)⟩
    · exact .inl (hfiles ▸ (PluginUnit.reload_latest hran).2)

theorem ReloadProgress.foldl (hb : ReloadProgress files found before done b)
    (hconsistent : b.host.table.Consistent) (hfiles : b.host.env.files = files)
    (ids : List String) :
    ReloadProgress files found before (done ++ ids) (ids.foldl Batch.refreshOne b) := by
  induction ids generalizing b done with
  | nil => simpa using hb
  | cons id rest ih =>
      have htransitions := b.refreshOne_transitions id
      have hrest := ih (hb.refreshOne hconsistent hfiles id) (htransitions.consistent hconsistent)
        (htransitions.env ▸ hfiles)
      rwa [List.append_assoc] at hrest

theorem mem_gathered (hconsistent : b.host.table.Consistent) {condition : PluginUnit → Bool}
    (tracked : b.host.table.unit? i = some w) (chosen : condition w = true) (old : i ∉ b.fresh) :
    i ∈ gathered condition b := by
  have hreloadable : reloadable w = true := by
    simpa [reloadable] using (hconsistent.unit_live tracked).running
  refine mem_associated hconsistent (by simp [tracked]) ?_ "reload"
  refine List.mem_filter.mpr ⟨?_, by simpa using old⟩
  exact (Host.mem_select_iff hconsistent.distinct).mpr ⟨w, tracked, by simp [hreloadable, chosen]⟩

/-- Once units were loaded again, each holds what its file does, if those that were left alone
did. -/
theorem FilesCurrent.refresh (hb : b.FilesCurrent files found)
    (hconsistent : b.host.table.Consistent)
    (hfiles : b.host.env.files = files) {condition : PluginUnit → Bool}
    (left : ∀ w, condition w = false → w.Latest files)
    (tracked : (refresh condition b).host.table.unit? i = some w) :
    Backed files found w.path ∧ w.Latest files := by
  obtain ⟨log, hlog⟩ := refresh_eq condition b
  rw [hlog] at tracked
  have hstart : ReloadProgress files found b []
      { b with host := { b.host with trace := { b.host.trace with log } } } :=
    ⟨hb.reloadProgress.backed, hb.reloadProgress.latest⟩
  have hdone := hstart.foldl hconsistent hfiles (gathered condition b)
  rw [List.nil_append] at hdone
  refine ⟨hdone.backed i w tracked, ?_⟩
  rcases hdone.latest i w tracked with hlatest | ⟨huntried, _⟩
  · exact hlatest
  · apply left
    rw [← Bool.not_eq_true]
    intro hchosen
    exact huntried.untried (mem_gathered hconsistent huntried.tracked hchosen huntried.old)

/-! ### No file is passed over -/

/-- A file that is tracked, or that the result tells of as one that could not be. -/
def Accounted (b : Batch) (path : Path) : Prop :=
  b.host.table.containsPath path = true ∨ ∃ t ∈ b.result.setbacks, t.path.same path = true

/-- A file stays accounted for when each unit stays, under whatever id, or the result tells of
it. -/
theorem Accounted.step (hb : b.Accounted path) (hconsistent : b.host.table.Consistent)
    (hafter : after.host.table.Consistent) (told : b.result.setbacks ⊆ after.result.setbacks)
    (units : ∀ i w, b.host.table.unit? i = some w →
      (∃ j v, after.host.table.unit? j = some v ∧ v.path = w.path) ∨
        ∃ t ∈ after.result.setbacks, t.path = w.path) : after.Accounted path := by
  rcases hb with htracked | ⟨t, ht, hsame⟩
  · obtain ⟨i, w, hw, hsame⟩ := hconsistent.containsPath_iff.mp htracked
    rcases units i w hw with ⟨j, v, hv, hpath⟩ | ⟨t, ht, hpath⟩
    · exact .inl (hafter.containsPath_iff.mpr ⟨j, v, hv, hpath ▸ hsame⟩)
    · exact .inr ⟨t, ht, hpath ▸ hsame⟩
  · exact .inr ⟨t, told ht, hsame⟩

theorem setbacks_noteLoad (b : Batch) (target : Target) (success : Bool) :
    b.result.setbacks ⊆ (b.noteLoad target success).result.setbacks := by
  intro t ht
  simp only [BatchResult.setbacks, List.mem_append] at ht ⊢
  cases success with
  | true => exact ht
  | false => exact ht.imp_left fun h => h.imp_left (List.mem_append_left _)

theorem setbacks_noteReload (b : Batch) (target : Target) (success : Bool) :
    b.result.setbacks ⊆ (b.noteReload target success).result.setbacks := by
  intro t ht
  simp only [BatchResult.setbacks, List.mem_append] at ht ⊢
  cases success with
  | true => exact ht
  | false => exact ht.imp_left fun h => h.imp_right (List.mem_append_left _)

theorem mem_setbacks_noteReload (b : Batch) (target : Target) :
    target ∈ (b.noteReload target false).result.setbacks := by
  simp [BatchResult.setbacks, noteReload, PhaseResult.note]

theorem Accounted.discoverOne (hb : b.Accounted path) (hconsistent : b.host.table.Consistent)
    (other : Path) : (b.discoverOne other).Accounted path := by
  have hafter := (b.discoverOne_transitions other).consistent hconsistent
  have hfound := b.discoverOne_discovered other
  generalize b.discoverOne other = after at hfound hafter ⊢
  cases hfound with
  | known _ => exact hb
  | @refused other calls log free failedLoad =>
      exact hb.step hconsistent hafter
        (setbacks_noteLoad (b.made b.host.table calls log) (.file other) false)
        fun i w hw => .inl ⟨i, w, hw, rfl⟩
  | @entered u loaded log live state held newId newPath brought =>
      refine hb.step hconsistent hafter
        (setbacks_noteLoad (b.made _ [.load u.path (.ok loaded)] log) u.target true) ?_
      intro i w hw
      refine .inl ⟨i, w, (UnitTable.unit?_insert u.path).trans ?_, rfl⟩
      have hother : i ≠ u.id := by
        rintro rfl
        cases newId.symm.trans hw
      rw [if_neg hother, hw]

/-- A file that was looked at is accounted for. -/
theorem accounted_discoverOne (b : Batch) (hconsistent : b.host.table.Consistent) (path : Path) :
    (b.discoverOne path).Accounted path := by
  have hafter := (b.discoverOne_transitions path).consistent hconsistent
  have hfound := b.discoverOne_discovered path
  generalize b.discoverOne path = after at hfound hafter ⊢
  cases hfound with
  | known tracked => exact .inl tracked
  | refused free failedLoad =>
      refine .inr ⟨.file path, ?_, Path.same_iff.mpr rfl⟩
      simp [BatchResult.setbacks, noteLoad, PhaseResult.note]
  | @entered u loaded log live state held newId newPath brought =>
      have hthere : (b.host.table.insert u.id u.path u).unit? u.id = some u :=
        (UnitTable.unit?_insert u.path).trans (if_pos rfl)
      exact .inl (hafter.containsPath_iff.mpr ⟨u.id, u, hthere, Path.same_iff.mpr rfl⟩)

theorem accounted_discover {rest : List Path} (hconsistent : b.host.table.Consistent) :
    (∀ path, b.Accounted path → (discover rest b).Accounted path) ∧
      ∀ path ∈ rest, (discover rest b).Accounted path := by
  induction rest generalizing b with
  | nil => exact ⟨fun _ h => h, by simp⟩
  | cons first rest ih =>
      have hfirst := (b.discoverOne_transitions first).consistent hconsistent
      obtain ⟨hkeep, hrest⟩ := ih hfirst
      refine ⟨fun path h => hkeep path (h.discoverOne hconsistent first), ?_⟩
      intro path hpath
      rcases List.mem_cons.mp hpath with rfl | hmem
      · exact hkeep path (b.accounted_discoverOne hconsistent path)
      · exact hrest path hmem

/-- A unit that is loaded again is back, under whatever id, or the result tells of it. -/
theorem Refreshed.accounted (hb : b.Accounted path) (hconsistent : b.host.table.Consistent)
    (tracked : b.host.table.unit? id = some u) (h : b.Refreshed id u after) :
    after.Accounted path := by
  have hafter : after.host.table.Consistent :=
    (Transition.refresh tracked h).transitions.consistent hconsistent
  cases h with
  | @kept v loaded log back same =>
      refine hb.step hconsistent hafter
        (setbacks_noteReload (b.made _ (u.again loaded) log) v.target true) ?_
      intro i w hw
      by_cases hi : i = id
      · obtain rfl : u = w := Option.some.inj (tracked.symm.trans (hi ▸ hw))
        exact .inl ⟨id, v, UnitTable.unit?_update_self tracked v, back.path⟩
      · exact .inl ⟨i, w, UnitTable.unit?_update.trans (by rw [if_neg hi, hw]), rfl⟩
  | @moved v loaded log back free =>
      refine hb.step hconsistent hafter
        (setbacks_noteReload (b.made _ (u.again loaded) log) v.target true) ?_
      intro i w hw
      by_cases hi : i = id
      · obtain rfl : u = w := Option.some.inj (tracked.symm.trans (hi ▸ hw))
        exact .inl ⟨v.id, v, (UnitTable.unit?_moved tracked v).trans (if_pos rfl), back.path⟩
      · have hother : i ≠ v.id := by
          rintro rfl
          cases free.symm.trans hw
        refine .inl ⟨i, w, (UnitTable.unit?_moved tracked v).trans ?_, rfl⟩
        rw [if_neg hother, if_neg hi, hw]
  | @failedReload calls rest gone result log failedReload leaves failed =>
      refine hb.step hconsistent hafter
        (setbacks_noteReload ((b.made _ (calls ++ rest) log).noteGone gone) u.target false) ?_
      intro i w hw
      by_cases hi : i = id
      · obtain rfl : u = w := Option.some.inj (tracked.symm.trans (hi ▸ hw))
        exact .inr ⟨u.target, mem_setbacks_noteReload _ _, u.path_target⟩
      · exact .inl ⟨i, w, UnitTable.unit?_erase.trans (by rw [if_neg hi, hw]), rfl⟩
  | @taken v other gone loaded rest result log back apart taken leaves brought =>
      refine hb.step hconsistent hafter
        (setbacks_noteReload ((b.made _ (u.again loaded ++ rest) log).noteGone gone) v.target false)
        ?_
      intro i w hw
      by_cases hi : i = id
      · obtain rfl : u = w := Option.some.inj (tracked.symm.trans (hi ▸ hw))
        exact .inr ⟨v.target, mem_setbacks_noteReload _ _, v.path_target.trans back.path⟩
      · exact .inl ⟨i, w, UnitTable.unit?_erase.trans (by rw [if_neg hi, hw]), rfl⟩

theorem Accounted.foldl (hb : b.Accounted path) (hconsistent : b.host.table.Consistent)
    (ids : List String) : (ids.foldl Batch.refreshOne b).Accounted path := by
  induction ids generalizing b with
  | nil => exact hb
  | cons id rest ih =>
      refine ih ?_ ((b.refreshOne_transitions id).consistent hconsistent)
      rcases b.refreshOne_cases id with hskip | ⟨u, tracked, _, hrefreshed⟩
      · rw [hskip]
        exact hb
      · exact hrefreshed.accounted hb hconsistent tracked

theorem Accounted.refresh (hb : b.Accounted path) (hconsistent : b.host.table.Consistent)
    (condition : PluginUnit → Bool) : (refresh condition b).Accounted path := by
  obtain ⟨log, hlog⟩ := refresh_eq condition b
  rw [hlog]
  exact Accounted.foldl
    (b := { b with host := { b.host with trace := { b.host.trace with log } } }) hb hconsistent _

theorem Accounted.validate (hb : b.Accounted path) (hconsistent : b.host.table.Consistent) :
    (validate b).Accounted path := by
  have hchecked := b.validate_validated
  obtain ⟨hload, hreload⟩ := b.loads_validate
  obtain ⟨_, hfailed⟩ := validate_expelled hconsistent
  refine hb.step hconsistent (hchecked.consistent hconsistent) ?_ ?_
  · intro t ht
    simp only [BatchResult.setbacks, List.mem_append, hload, hreload, hfailed] at ht ⊢
    exact ht.imp_right .inl
  · intro i w hw
    by_cases hi : i ∈ b.host.graph.walk.failures.map Prod.fst
    · refine .inr ⟨w.target, ?_, w.path_target⟩
      have hgone : w ∈ b.expelled := List.mem_filterMap.mpr ⟨i, hi, hw⟩
      simp only [BatchResult.setbacks, List.mem_append, hfailed]
      exact .inr (.inr (List.mem_map.mpr ⟨w, hgone, rfl⟩))
    · exact .inl ⟨i, w, by rw [hchecked.unit?_eq, if_neg hi, hw], rfl⟩

theorem accounted_run {plan : Plan} {h : Host} (hconsistent : h.table.Consistent)
    (hb : (prepared plan h).Accounted path) : (run plan h).Accounted path := by
  have hprepared : (prepared plan h).host.table.Consistent := consistent_prepared hconsistent
  have hchecked := (validate_validated (prepared plan h)).consistent hprepared
  refine (hb.validate hprepared).step hchecked (consistent_run plan hconsistent) ?_ ?_
  · rw [result_run]
    exact List.Subset.refl _
  · intro i w hw
    rw [(run_quiet plan h).table, (notify_table _).2.2]
    simp only [UnitTable.unit?_foldl_welcome]
    by_cases hnew : i ∈ (validate (prepared plan h)).order ∧ i ∈ (validate (prepared plan h)).fresh
    · exact .inl ⟨i, w.welcomed, by rw [if_pos hnew, hw, Option.map_some], w.path_welcomed⟩
    · exact .inl ⟨i, w, by rw [if_neg hnew, hw], rfl⟩

end Batch

namespace Host

open Batch

variable {h : Host} {condition : PluginUnit → Bool}

/-- What a refresh is asked to do. -/
def refreshPlan (h : Host) (condition : PluginUnit → Bool) : Plan :=
  { prune := some fun u => !u.fileExists h.files || !h.scan.1.any u.path.same
    discover := some h.scan.1
    refresh := some condition }

theorem refreshIf_eq (h : Host) (condition : PluginUnit → Bool) : h.refreshIf condition =
    ((run (h.refreshPlan condition) (h.write h.scan.2)).host,
      (run (h.refreshPlan condition) (h.write h.scan.2)).result) := rfl

theorem scanDirectory_fst (h : Host) (dir : Path) : (h.scanDirectory dir).1 =
    if h.files.isDirectory dir then h.files.list dir h.settings.suffix else [] := by
  unfold scanDirectory
  split <;> rfl

/-- Every file that a scan finds is there. -/
theorem backed_of_scan {path : Path} (found : path ∈ h.scan.1) :
    Backed h.files h.scan.1 path where
  found := List.any_eq_true.mpr ⟨path, found, Path.same_iff.mpr rfl⟩
  there := by
    obtain ⟨scanned, hscanned, hpath⟩ := List.mem_flatMap.mp found
    obtain ⟨dir, _, rfl⟩ := List.mem_map.mp hscanned
    rw [scanDirectory_fst] at hpath
    split at hpath
    · exact FileSystem.isFile_of_mem_list hpath
    · cases hpath

/-- Pruning leaves the units whose files were found. -/
theorem filesCurrent_prune (hconsistent : h.table.Consistent) (condition : PluginUnit → Bool) :
    (phase prune (h.refreshPlan condition).prune
      (Batch.start (h.write h.scan.2))).FilesCurrent h.files
      h.scan.1 where
  backed := by
    intro i w hw
    have hthere : (h.write h.scan.2).table.unit? i = some w := tracked_of_prune hw
    have hfound : (!w.fileExists h.files || !h.scan.1.any w.path.same) = false := by
      rw [← Bool.not_eq_true]
      intro hstale
      cases (unit?_prune_of_selected (b := .start (h.write h.scan.2)) hconsistent hthere
        hstale).symm.trans hw
    exact backed_iff_not_stale.mp hfound
  latest := by
    intro i w _ hnew
    obtain ⟨unload, calls, log, hpruned, _⟩ := prune_start_eq (h := h.write h.scan.2) hconsistent
      fun u => !u.fileExists h.files || !h.scan.1.any u.path.same
    have hnone : (phase prune (h.refreshPlan condition).prune
        (Batch.start (h.write h.scan.2))).fresh = [] := congrArg Batch.fresh hpruned
    rw [hnone] at hnew
    cases hnew

/-- What is tracked when a refresh is done is of a file that was found, that is there, and that
holds what was loaded, if this was so of all units that were not to be loaded again. -/
theorem current_refreshIf (hconsistent : h.table.Consistent)
    (left : ∀ u : PluginUnit, condition u = false → u.Latest h.files) {id : String} {u : PluginUnit}
    (tracked : (h.refreshIf condition).1.table.unit? id = some u) :
    Backed h.files h.scan.1 u.path ∧ u.Latest h.files := by
  have htransitions := furnished_transitions (h.refreshPlan condition) (h.write h.scan.2)
  have hcurrent : (furnished (h.refreshPlan condition) (h.write h.scan.2)).FilesCurrent h.files
      h.scan.1 :=
    (filesCurrent_prune hconsistent condition).discover
      (congrArg UnitEnv.files (phase_transitions prune_transitions _ _).env)
      fun path hpath => backed_of_scan hpath
  have hfiles : (furnished (h.refreshPlan condition) (h.write h.scan.2)).host.env.files = h.files :=
    congrArg UnitEnv.files htransitions.env
  have hprepared : ∀ w, (prepared (h.refreshPlan condition) (h.write h.scan.2)).host.table.unit? id =
      some w → Backed h.files h.scan.1 w.path ∧ w.Latest h.files :=
    fun w hw => hcurrent.refresh (htransitions.consistent hconsistent) hfiles left hw
  rw [refreshIf_eq] at tracked
  have hrun := (unit?_run _ _ id).symm.trans tracked
  split at hrun
  · cases hrun
  · split at hrun
    · obtain ⟨v, hv, rfl⟩ := Option.map_eq_some_iff.mp hrun
      obtain ⟨hbacked, hlatest⟩ := hprepared v hv
      rw [v.path_welcomed, PluginUnit.Latest, v.fingerprint_welcomed, v.path_welcomed]
      exact ⟨hbacked, hlatest⟩
    · exact hprepared u hrun

/-- Every file that was found is tracked when a refresh is done, or the result tells of it. -/
theorem accounted_refreshIf (hconsistent : h.table.Consistent) (condition : PluginUnit → Bool)
    {path : Path} (found : path ∈ h.scan.1) :
    (h.refreshIf condition).1.table.containsPath path = true ∨
      ∃ t ∈ (h.refreshIf condition).2.setbacks, t.path.same path = true := by
  have hpruned := (phase_transitions prune_transitions (h.refreshPlan condition).prune
    (Batch.start (h.write h.scan.2))).consistent hconsistent
  have hfurnished : (furnished (h.refreshPlan condition) (h.write h.scan.2)).Accounted path := by
    have hfound : (discover h.scan.1 (phase prune (h.refreshPlan condition).prune
        (Batch.start (h.write h.scan.2)))).Accounted path := (accounted_discover hpruned).2 path found
    exact hfound
  have htransitions := furnished_transitions (h.refreshPlan condition) (h.write h.scan.2)
  have hprepared : (prepared (h.refreshPlan condition) (h.write h.scan.2)).Accounted path :=
    hfurnished.refresh (htransitions.consistent hconsistent) condition
  have hwarned : (h.write h.scan.2).table.Consistent := hconsistent
  have hran := accounted_run hwarned hprepared
  rw [refreshIf_eq]
  dsimp only
  exact hran

/-- A host that is in line with the plugin directories as they are: what it tracks was found, is
there and holds what was loaded, and what was found is tracked, or a result tells of it. -/
structure MatchesDirectories (h after : Host) (result : BatchResult) : Prop where
  found : ∀ id u, after.table.unit? id = some u →
    (∃ path ∈ h.scan.1, u.path.same path = true) ∧ h.files.isFile u.path = true
  latest : ∀ id u, after.table.unit? id = some u → ∃ content,
    h.files.read u.path = .ok content ∧ u.fingerprint = some (Digest.Sha256.hex content)
  accounted : ∀ path ∈ h.scan.1, after.table.containsPath path = false →
    ∃ t ∈ result.load.failed ++ result.reload.failed ++ result.dependencyCheck.failed,
      t.path.same path = true

theorem matchesDirectories_refreshIf (hconsistent : h.table.Consistent)
    (left : ∀ u : PluginUnit, condition u = false → u.Latest h.files) :
    h.MatchesDirectories (h.refreshIf condition).1 (h.refreshIf condition).2 where
  found := by
    intro id u tracked
    obtain ⟨hbacked, _⟩ := current_refreshIf hconsistent left tracked
    exact ⟨List.any_eq_true.mp hbacked.found, hbacked.there⟩
  latest := by
    intro id u tracked
    obtain ⟨hbacked, hlatest⟩ := current_refreshIf hconsistent left tracked
    obtain ⟨content, hread, hfingerprint⟩ := FileSystem.exists_content hbacked.there
    exact ⟨content, hread, hlatest.trans hfingerprint⟩
  accounted := by
    intro path found hfree
    rcases accounted_refreshIf hconsistent condition found with htracked | htold
    · cases hfree.symm.trans htracked
    · exact htold

/-- In every run, a refresh brings the tracked units in line with the plugin directories: no unit
goes on with code its file does not hold any more, and no file is passed over in silence. -/
theorem Reachable.refresh_matches_directories (hreach : h.Reachable) :
    h.MatchesDirectories h.refreshAll.1 h.refreshAll.2 ∧
      h.MatchesDirectories h.refreshChanged.1 h.refreshChanged.2 := by
  constructor
  · exact matchesDirectories_refreshIf hreach.consistent fun _ hnone => nomatch hnone
  · exact matchesDirectories_refreshIf hreach.consistent
      fun _ hsame => PluginUnit.latest_iff.mpr hsame

end Host

namespace HostWitness

/-- Two directories with a file each. -/
def shelf : FileSystem :=
  ⟨[(["plugins"], .directory), (["plugins", "core.mcdr"], .file ⟨#[1]⟩),
    (["more"], .directory), (["more", "bad.mcdr"], .file ⟨#[2]⟩)]⟩

/-- A loader that can make something of one of them. -/
def librarian : Loader where
  load _ _ path :=
    if path.text = "plugins/core.mcdr" then .ok ⟨code "core" "1.2.0" [], []⟩
    else .error (.load path "no plugin")
  unload _ _ := .ok ()
  unloadLog _ := []

/-- A host that looks for plugins in both directories. -/
def stocked : Host :=
  .create { settings with directories := [⟨"plugins"⟩, ⟨"more"⟩] } ⟨"en", []⟩ librarian shelf
    (.create 1 .spawn .none)

theorem stocked_reachable : stocked.Reachable :=
  .create _ _ _ _ _

theorem stocked_matches_directories : stocked.Reachable ∧
    stocked.refreshAll.1.table.ids = ["core"] ∧
    stocked.refreshAll.2.setbacks = [.file ⟨"more/bad.mcdr"⟩] ∧
    stocked.MatchesDirectories stocked.refreshAll.1 stocked.refreshAll.2 := by
  have hids : stocked.refreshAll.1.table.ids = ["core"] := by decide +kernel
  have hfailed : stocked.refreshAll.2.setbacks = [.file ⟨"more/bad.mcdr"⟩] := by decide +kernel
  exact ⟨stocked_reachable, hids, hfailed, stocked_reachable.refresh_matches_directories.1⟩

end HostWitness

end PluginHost
