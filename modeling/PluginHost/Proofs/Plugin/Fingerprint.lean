import PluginHost.Proofs.Plugin.Calls

/-!
What a unit knows of its file: once it was loaded, or loaded again, it holds
the fingerprint of what the file held then, and it is still of that file.
-/
namespace PluginHost

/-- A file that can be read is there, and has the fingerprint of what it holds. -/
theorem FileSystem.exists_content {files : FileSystem} {path : Path} (h : files.isFile path = true) :
    ∃ content, files.read path = .ok content ∧
      files.fingerprint? path = some (Digest.Sha256.hex content) := by
  have hfound : ∃ content, files.lookup path = .ok (.file content) := by
    unfold isFile at h
    split at h
    · next content hlookup => exact ⟨content, hlookup⟩
    · cases h
  obtain ⟨content, hlookup⟩ := hfound
  have hread : files.read path = .ok content := by
    rw [read, hlookup]
    rfl
  exact ⟨content, hread, by rw [fingerprint?, hread]; rfl⟩

namespace PluginUnit

variable {u v : PluginUnit} {env : UnitEnv} {t after : Trace}

/-- A unit whose fingerprint is that of its file. -/
def Latest (files : FileSystem) (u : PluginUnit) : Prop :=
  u.fingerprint = files.fingerprint? u.path

theorem latest_iff {files : FileSystem} : u.Latest files ↔ u.fileChanged files = false := by
  rw [Latest, fileChanged, bne_eq_false_iff_eq, eq_comm]

theorem fingerprint_of_freshLoad {fresh : FreshLoad}
    (ran : u.freshLoad env t = (.ok fresh, after)) :
    fresh.fingerprint = env.files.fingerprint? u.path := by
  unfold freshLoad at ran
  dsimp only at ran
  split at ran
  · cases ran
  · split at ran
    · cases ran
      rfl
    · split at ran <;> cases ran

theorem load_latest (ran : u.load env t = (v, .ok (), after)) :
    v.path = u.path ∧ v.Latest env.files := by
  obtain ⟨fresh, log, hfresh, rfl⟩ := exists_fresh_of_load ran
  exact ⟨rfl, fingerprint_of_freshLoad hfresh⟩

theorem reload_latest (ran : u.reload env t = (v, .ok (), after)) :
    v.path = u.path ∧ v.Latest env.files := by
  obtain ⟨fresh, given, log, hfresh, rfl⟩ := exists_fresh_of_reload ran
  have hfingerprint := fingerprint_of_freshLoad hfresh
  split <;> exact ⟨rfl, hfingerprint⟩

end PluginUnit

end PluginHost
