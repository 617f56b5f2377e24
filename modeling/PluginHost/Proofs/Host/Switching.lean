import PluginHost.Proofs.FileSystem.Renaming
import PluginHost.Proofs.Host.Settling

/-!
Switching plugins on and off, as far as files go. A switch renames the file it
is asked about, or changes no file at all. What the file held is kept; a file
that has the new name already is replaced by it, and no other one is touched.
-/
namespace PluginHost

namespace Host

variable {h : Host} {path dest : Path}

theorem files_runBatch (h : Host) (plan : Batch.Plan) : (h.runBatch plan).1.files = h.files :=
  files_of_env (Batch.env_run plan h)

/-- What a switch does to files. -/
structure Switched (h : Host) (path dest : Path)
    (outcome : Host × Except PluginError BatchResult) : Prop where
  /-- If it fails, all files are as before. -/
  failed : ∀ cause, outcome.2 = .error cause → outcome.1.files = h.files
  /-- If not, the file it is about was renamed. -/
  done : ∀ result, outcome.2 = .ok result → h.files.isFile path = true ∧
    h.files.Renamed path dest outcome.1.files

/-- A switch loses nothing if no other file has the new name. -/
theorem Switched.lossless {outcome : Host × Except PluginError BatchResult}
    (hswitched : h.Switched path dest outcome) (free : ¬ h.files.Taken path dest) :
    h.files.Lossless path dest outcome.1.files := by
  cases houtcome : outcome.2 with
  | error cause =>
      rw [hswitched.failed cause houtcome]
      exact ⟨fun _ _ _ => ⟨rfl, rfl⟩, .inl rfl⟩
  | ok result => exact (hswitched.done result houtcome).2.lossless free

/-- A switch that renamed the file. -/
theorem Switched.renamed {outcome : Host × Except PluginError BatchResult} {result : BatchResult}
    (there : h.files.isFile path = true) (hrename : h.files.rename path dest = .ok outcome.1.files)
    (hdone : outcome.2 = .ok result) : h.Switched path dest outcome where
  failed := fun _ hfailed => by cases hdone.symm.trans hfailed
  done := fun _ _ => ⟨there, FileSystem.renamed_of_rename hrename there⟩

/-- A switch that left all files as they were. -/
theorem Switched.refused {outcome : Host × Except PluginError BatchResult} {cause : PluginError}
    (same : outcome.1.files = h.files) (hcause : outcome.2 = .error cause) :
    h.Switched path dest outcome where
  failed := fun _ _ => same
  done := fun _ hok => by cases hcause.symm.trans hok

theorem switched_enable (h : Host) (path : Path) :
    h.Switched path (h.enabledPath path) (h.enablePlugin path) := by
  have henables := h.enablePlugin_enables path
  generalize h.enablePlugin path = answer at henables ⊢
  cases henables with
  | stuck records cause => exact .refused rfl rfl
  | @done files loaded there renamed batch =>
      have hfiles : loaded.1.files = files := by
        rw [← batch]
        exact files_runBatch _ _
      exact .renamed there (hfiles ▸ renamed) rfl

theorem switched_disable (h : Host) (path : Path) :
    h.Switched path (h.disabledPath path) (h.disablePlugin path) := by
  have hdisables := h.disablePlugin_disables path
  generalize h.disablePlugin path = answer at hdisables ⊢
  cases hdisables with
  | missing absent records cause => exact .refused rfl rfl
  | @ran ran after outcome there batch moves =>
      have hfiles : ran.1.files = h.files := batch ▸ h.files_runBatch _
      cases moves with
      | moved renamed => exact .renamed there (hfiles ▸ renamed) rfl
      | stuck records cause => exact .refused hfiles rfl

/-- Switching a plugin on or off renames its file or changes no file. The one file that may be lost
is another one that has the new name: without it nothing is. -/
theorem switches_keep_files (h : Host) (path : Path) :
    h.Switched path (h.enabledPath path) (h.enablePlugin path) ∧
    h.Switched path (h.disabledPath path) (h.disablePlugin path) ∧
    (¬ h.files.Taken path (h.enabledPath path) →
      h.files.Lossless path (h.enabledPath path) (h.enablePlugin path).1.files) ∧
    (¬ h.files.Taken path (h.disabledPath path) →
      h.files.Lossless path (h.disabledPath path) (h.disablePlugin path).1.files) :=
  ⟨h.switched_enable path, h.switched_disable path, (h.switched_enable path).lossless,
    (h.switched_disable path).lossless⟩

end Host

namespace HostWitness

/-- A host whose files hold a plugin twice, switched on and switched off. -/
def doubled : Host :=
  .create settings ⟨"en", []⟩ loader
    ⟨[(["a.mcdr"], .file "on".toUTF8), (["a.mcdr.disabled"], .file "off".toUTF8)]⟩
    (.create 1 .spawn .none)

theorem doubled_keeps : doubled.Reachable ∧
    (doubled.disablePlugin ⟨"a.mcdr.disabled"⟩).1.files.isFile ⟨"a.mcdr.disabled.disabled"⟩ = true ∧
    doubled.files.Lossless ⟨"a.mcdr.disabled"⟩ ⟨"a.mcdr.disabled.disabled"⟩
      (doubled.disablePlugin ⟨"a.mcdr.disabled"⟩).1.files := by
  have hmoved : (doubled.disablePlugin ⟨"a.mcdr.disabled"⟩).1.files.isFile
      ⟨"a.mcdr.disabled.disabled"⟩ = true := by decide +kernel
  have hfree : ¬ doubled.files.Taken ⟨"a.mcdr.disabled"⟩
      (doubled.disabledPath ⟨"a.mcdr.disabled"⟩) := fun htaken =>
    absurd htaken.1 (by decide +kernel)
  obtain ⟨_, _, _, hlossless⟩ := doubled.switches_keep_files ⟨"a.mcdr.disabled"⟩
  exact ⟨.create _ _ _ _ _, hmoved, hlossless hfree⟩

/-- Whichever of the two is switched, the other one is lost. -/
theorem doubled_loses : doubled.Reachable ∧
    ¬ doubled.files.Lossless ⟨"a.mcdr"⟩ (doubled.disabledPath ⟨"a.mcdr"⟩)
      (doubled.disablePlugin ⟨"a.mcdr"⟩).1.files ∧
    ¬ doubled.files.Lossless ⟨"a.mcdr.disabled"⟩ (doubled.enabledPath ⟨"a.mcdr.disabled"⟩)
      (doubled.enablePlugin ⟨"a.mcdr.disabled"⟩).1.files := by
  refine ⟨.create _ _ _ _ _, ?_, ?_⟩
  · intro hlossless
    have hkept := (hlossless.kept ⟨"a.mcdr.disabled"⟩ (by decide +kernel) (by decide +kernel)).2
    have hsizes := congrArg (fun read => read.toOption.map ByteArray.size) hkept
    exact absurd hsizes (by decide +kernel)
  · intro hlossless
    have hkept := (hlossless.kept ⟨"a.mcdr"⟩ (by decide +kernel) (by decide +kernel)).2
    have hsizes := congrArg (fun read => read.toOption.map ByteArray.size) hkept
    exact absurd hsizes (by decide +kernel)

end HostWitness

end PluginHost
