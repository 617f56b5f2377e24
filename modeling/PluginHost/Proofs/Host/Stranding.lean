import PluginHost.Proofs.Host.Undone

/-!
Which units lose their files when a plugin is switched off. The plugin is found by
the steps of its path, and its file by where these lead. So a plugin that was loaded
under other steps to the same file is not unloaded, and its file is renamed under it:
a leading dot is enough. No other unit loses its file.
-/
namespace PluginHost

namespace FileSystem

variable {fs after : FileSystem} {old new : Place} {content : ByteArray} {path : Path}

/-- Only what was read at the old place of a file is gone once it is somewhere else. -/
theorem Shifted.isFile_eq_false_iff (h : fs.Shifted old new content after)
    (there : fs.isFile path = true) :
    after.isFile path = false ↔ fs.locate path = .ok old ∧ old ≠ new := by
  obtain ⟨found, hlookup⟩ := isFile_iff.mp there
  obtain ⟨place, hplace, hheld⟩ := lookup_iff.mp hlookup
  have hstill : after.locate path = .ok place := h.sameDirectories.locate_iff.mpr hplace
  have hafter : after.isFile path = true ↔ ∃ kept, after.holding? place = some (.file kept) := by
    rw [isFile_iff]
    refine exists_congr fun kept => lookup_iff.trans ⟨?_, fun hkept => ⟨place, hstill, hkept⟩⟩
    rintro ⟨other, hother, hkept⟩
    cases hstill.symm.trans hother
    exact hkept
  rw [← Bool.not_eq_true, hafter, hplace, Except.ok.injEq]
  constructor
  · intro hgone
    have hnew : place ≠ new := fun heq => hgone ⟨content, heq ▸ h.held⟩
    have hold : place = old := by
      by_contra hother
      exact hgone ⟨found, (h.others place hother hnew).trans hheld⟩
    exact ⟨hold, hold ▸ hnew⟩
  · rintro ⟨rfl, hmoved⟩ ⟨kept, hkept⟩
    cases (h.left hmoved).symm.trans hkept

end FileSystem

namespace Host

open Batch

variable {h : Host} {path : Path} {id : String} {u : PluginUnit} {condition : PluginUnit → Bool}
  {result : BatchResult}

/-- What is tracked once some units were to go was tracked before and is none of them. -/
theorem tracked_of_prunePlan (hconsistent : h.table.Consistent)
    (tracked : (run (prunePlan condition) h).host.table.unit? id = some u) :
    h.table.unit? id = some u ∧ condition u = false := by
  obtain ⟨unload, calls, log, hprune, _⟩ := prune_start_eq hconsistent condition
  have hfresh : (prepared (prunePlan condition) h).fresh = [] := congrArg Batch.fresh hprune
  have hpruned : (prune condition (Batch.start h)).host.table.unit? id = some u := by
    rw [unit?_run, hfresh] at tracked
    split at tracked
    · cases tracked
    · rwa [if_neg fun hnew => List.not_mem_nil hnew.2] at tracked
  have hbefore : h.table.unit? id = some u := tracked_of_prune hpruned
  refine ⟨hbefore, ?_⟩
  rw [← Bool.not_eq_true]
  intro hselected
  cases (unit?_prune_of_selected (b := .start h) hconsistent hbefore hselected).symm.trans hpruned

/-- A plugin that was switched off was unloaded, and its file renamed. -/
theorem disablePlugin_done (done : (h.disablePlugin path).2 = .ok result) :
    h.files.isFile path = true ∧
      (h.disablePlugin path).1.table = (run (prunePlan fun u => u.path.same path) h).host.table ∧
      h.files.rename path (h.disabledPath path) = .ok (h.disablePlugin path).1.files := by
  have hdisables := h.disablePlugin_disables path
  generalize h.disablePlugin path = answer at done hdisables ⊢
  cases hdisables with
  | missing absent records cause => cases done
  | @ran ran after outcome there batch moves =>
      have hfiles : ran.1.files = h.files := batch ▸ h.files_runBatch _
      have htable : ran.1.table = (run (prunePlan fun u => u.path.same path) h).host.table :=
        batch ▸ rfl
      cases moves with
      | moved renamed => exact ⟨there, htable, hfiles ▸ renamed⟩
      | stuck records cause => cases done

/-- What switching a plugin off under a path leaves to the units that are tracked still. -/
structure DisableEffect (h : Host) (path : Path) (after : Host) : Prop where
  /-- They are as they were, and none of them has the path. -/
  kept : ∀ id u, after.table.unit? id = some u →
    h.table.unit? id = some u ∧ u.path.same path = false
  /-- Those lose their files that were loaded from the file at the path, if it was moved. -/
  stranded : ∀ id u, after.table.unit? id = some u → h.files.isFile u.path = true →
    (after.files.isFile u.path = false ↔ h.files.locate u.path = h.files.locate path ∧
      h.files.locate (h.disabledPath path) ≠ h.files.locate path)
  /-- If all that were loaded from that file have the path, none loses its file. -/
  safe : (∀ id u, h.table.unit? id = some u → h.files.locate u.path = h.files.locate path →
      u.path.same path = true) →
    ∀ id u, after.table.unit? id = some u → h.files.isFile u.path = true →
      after.files.isFile u.path = true

/-- In every run, once a plugin was switched off under a path, no unit of that path is tracked. A
unit that is tracked still lost its file just if that is the one the path leads to: it was loaded
under a path with other steps to the same file. -/
theorem Reachable.disable_effect (hreach : h.Reachable)
    (done : (h.disablePlugin path).2 = .ok result) :
    h.DisableEffect path (h.disablePlugin path).1 := by
  obtain ⟨hthere, htable, hrename⟩ := disablePlugin_done done
  obtain ⟨content, hlookup⟩ := FileSystem.isFile_iff.mp hthere
  obtain ⟨old, hold, hheld⟩ := FileSystem.lookup_iff.mp hlookup
  obtain ⟨new, hnew, hshifted⟩ := FileSystem.shifted_of_rename hrename hold hheld
  have hkept : ∀ id u, (h.disablePlugin path).1.table.unit? id = some u →
      h.table.unit? id = some u ∧ u.path.same path = false := by
    intro id u tracked
    rw [htable] at tracked
    exact tracked_of_prunePlan hreach.consistent tracked
  have hstranded : ∀ u : PluginUnit, h.files.isFile u.path = true →
      ((h.disablePlugin path).1.files.isFile u.path = false ↔
        h.files.locate u.path = h.files.locate path ∧
          h.files.locate (h.disabledPath path) ≠ h.files.locate path) := by
    intro u hfile
    rw [hshifted.isFile_eq_false_iff hfile, hold, hnew]
    refine and_congr_right fun _ => not_congr ⟨fun heq => heq ▸ rfl, fun heq => ?_⟩
    exact (Except.ok.inj heq).symm
  refine ⟨hkept, fun _ u _ => hstranded u, fun known id u tracked hfile => ?_⟩
  obtain ⟨hbefore, hother⟩ := hkept id u tracked
  rw [← Bool.not_eq_false, hstranded u hfile]
  intro hlost
  cases (known id u hbefore hlost.1).symm.trans hother

end Host

namespace HostWitness

/-- A loader that reads the same plugin from all files. -/
def undiscerning : Loader :=
  { loader with load := fun history trace _ => loader.load history trace ⟨"core.mcdr"⟩ }

/-- A host that loaded a plugin under a path that starts with a dot. -/
def dotted : Host :=
  .perform (.create settings ⟨"en", []⟩ undiscerning ⟨[(["core.mcdr"], .file ⟨#[1]⟩)]⟩
    (.create 1 .spawn .none)) (.load ⟨"./core.mcdr"⟩)

/-- Switching it off under its name takes its file away, and it is tracked still. -/
theorem dotted_stranded : dotted.Reachable ∧ ∃ result u,
    (dotted.disablePlugin ⟨"core.mcdr"⟩).2 = .ok result ∧
      (dotted.disablePlugin ⟨"core.mcdr"⟩).1.table.unit? "core" = some u ∧
      dotted.files.isFile u.path = true ∧
      (dotted.disablePlugin ⟨"core.mcdr"⟩).1.files.isFile u.path = false := by
  have hreach : dotted.Reachable :=
    (Host.Reachable.create _ _ _ _ _).perform (.load ⟨"./core.mcdr"⟩)
  have hran : ((dotted.disablePlugin ⟨"core.mcdr"⟩).2.isOk,
      ((dotted.disablePlugin ⟨"core.mcdr"⟩).1.table.unit? "core").map PluginUnit.path,
      dotted.files.isFile ⟨"./core.mcdr"⟩) = (true, some ⟨"./core.mcdr"⟩, true) := by
    decide +kernel
  obtain ⟨hdone, hrest⟩ := Prod.mk.inj hran
  obtain ⟨htracked, hfile⟩ := Prod.mk.inj hrest
  obtain ⟨u, hu, hpath⟩ := Option.map_eq_some_iff.mp htracked
  -- Both paths lead to one place, which the disabled path does not lead to.
  have hdotted : dotted.files.locate ⟨"./core.mcdr"⟩ = .ok ["core.mcdr"] :=
    FileSystem.leads_iff.mp (by decide +kernel)
  have hplain : dotted.files.locate ⟨"core.mcdr"⟩ = .ok ["core.mcdr"] :=
    FileSystem.leads_iff.mp (by decide +kernel)
  have hother : dotted.files.locate (dotted.disabledPath ⟨"core.mcdr"⟩) ≠ .ok ["core.mcdr"] :=
    mt FileSystem.leads_iff.mpr (by decide +kernel)
  cases houtcome : (dotted.disablePlugin ⟨"core.mcdr"⟩).2 with
  | error cause =>
      rw [houtcome] at hdone
      cases hdone
  | ok result =>
      have heffect := hreach.disable_effect houtcome
      rw [← hpath] at hfile hdotted
      refine ⟨hreach, result, u, rfl, hu, hfile, (heffect.stranded "core" u hu hfile).mpr ?_⟩
      rw [hdotted, hplain]
      exact ⟨rfl, hother⟩

end HostWitness

end PluginHost
