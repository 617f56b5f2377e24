import PluginHost.Proofs.Host.Precedence
import PluginHost.Proofs.Host.Switching

/-!
What a switch that fails leaves behind. Switching a plugin on renames its file
first, so that nothing was done when that fails. Switching it off unloads first:
the file stays where it is then, but what was unloaded stays unloaded. Where there
was nothing to unload, nothing but the result of the latest batch tells of it.
-/
namespace PluginHost

/-- The latest result a host knows is that of its latest batch. -/
theorem Batch.last_run (plan : Plan) (h : Host) :
    (run plan h).host.last = some (run plan h).result := by
  obtain ⟨log, hconclude⟩ := conclude_eq { (validate (prepared plan h)).notify with
    host := exportRegistry (validate (prepared plan h)).notify.host }
  rw [run_eq, hconclude]

namespace Host

open Batch

variable {h after : Host} {path dest : Path} {condition : PluginUnit → Bool} {cause : PluginError}

/-- A batch that is to have units go of which there is none changes nothing. -/
theorem Reachable.prune_nobody (hreach : h.Reachable)
    (nobody : ∀ id u, h.table.unit? id = some u → condition u = false) :
    Idle h (run (prunePlan condition) h).host (run (prunePlan condition) h).result := by
  refine run_idle ?_ hreach.failures_nil
  rw [prepared_prunePlan]
  refine prune_idle (select_eq_nil fun e he => nobody e.1 e.2 ?_)
  exact (UnitTable.unit?_eq_some_iff hreach.consistent.distinct).mpr he

/-- What operators see changes only with what is tracked, once there was a batch. -/
theorem Reachable.exported_of_table (hreach : h.Reachable) (begun : h.last ≠ none)
    {plan : Batch.Plan} (same : (run plan h).host.table = h.table) :
    (run plan h).host.exported = h.exported := by
  obtain ⟨past, hhistory⟩ := hreach.hasHistory
  have hshown := hhistory.shown.resolve_left fun hnever => begun hnever.1
  rw [exported_run, same, hshown]

theorem PruneEffect.write {gone : List String} {result : BatchResult} {records : List LogRecord}
    (pruneEffect : h.PruneEffect gone after result) :
    h.PruneEffect gone (after.write records) result where
  __ := pruneEffect

/-- What is left of switching a plugin off when its file could not be renamed. -/
structure Unfinished (h : Host) (path : Path) (after : Host) : Prop where
  /-- No file was touched. -/
  files : after.files = h.files
  /-- All is as the unloading left it, but for what was written. -/
  unloaded : ∃ records,
    after = (run (prunePlan fun u => u.path.same path) h).host.write records
  /-- If no unit goes by the id of the host, those went that have the path or depend on one that
  has, and no others. -/
  gone : h.settings.identity.id ∉ h.table.ids → ∃ gone result, after.last = some result ∧
    h.PruneEffect gone after result ∧ ∀ other, other ∈ gone ↔
      ∃ id u, h.table.unit? id = some u ∧ u.path.same path = true ∧ h.Cone id other
  /-- Without a plugin of that path nothing was unloaded, called or submitted. -/
  idle : (∀ id u, h.table.unit? id = some u → u.path.same path = false) →
    after.table = h.table ∧ after.trace.calls = h.trace.calls ∧ after.pool = h.pool ∧
      (h.last ≠ none → after.exported = h.exported) ∧
      ∃ result, after.last = some result ∧ result.isNoop = true

theorem enablePlugin_failed (failed : (h.enablePlugin path).2 = .error cause) :
    ∃ records, (h.enablePlugin path).1 = h.write records := by
  have henables := h.enablePlugin_enables path
  generalize h.enablePlugin path = answer at failed henables ⊢
  cases henables with
  | stuck records cause => exact ⟨records, rfl⟩
  | done there renamed batch => cases failed

theorem disablePlugin_missing (missing : h.files.isFile path = false) :
    ∃ records, (h.disablePlugin path).1 = h.write records := by
  have hdisables := h.disablePlugin_disables path
  generalize h.disablePlugin path = answer at hdisables ⊢
  cases hdisables with
  | missing absent records cause => exact ⟨records, rfl⟩
  | ran there batch moves => cases missing.symm.trans there

theorem disablePlugin_failed (there : h.files.isFile path = true)
    (failed : (h.disablePlugin path).2 = .error cause) : ∃ records,
      (h.disablePlugin path).1 = (run (prunePlan fun u => u.path.same path) h).host.write records := by
  have hdisables := h.disablePlugin_disables path
  generalize h.disablePlugin path = answer at failed hdisables ⊢
  cases hdisables with
  | missing absent records cause => cases absent.symm.trans there
  | @ran ran after outcome there batch moves =>
      have hran : ran.1 = (run (prunePlan fun u => u.path.same path) h).host := batch ▸ rfl
      cases moves with
      | moved renamed => cases failed
      | stuck records cause => exact ⟨records, hran ▸ rfl⟩

theorem Reachable.unfinished (hreach : h.Reachable) (there : h.files.isFile path = true)
    (failed : (h.disablePlugin path).2 = .error cause) :
    h.Unfinished path (h.disablePlugin path).1 where
  files := (h.switched_disable path).failed cause failed
  unloaded := disablePlugin_failed there failed
  gone := by
    intro foreign
    obtain ⟨records, hafter⟩ := disablePlugin_failed there failed
    have heffect := hreach.pruneEffect foreign fun u => u.path.same path
    have hlast := last_run (prunePlan fun u => u.path.same path) h
    rw [hafter]
    generalize run (prunePlan fun u => u.path.same path) h = b at heffect hlast ⊢
    exact ⟨_, b.result, hlast, heffect.write, fun _ => mem_doomed_iff hreach.consistent foreign⟩
  idle := by
    intro nobody
    obtain ⟨records, hafter⟩ := disablePlugin_failed there failed
    obtain ⟨hnoop, hcalls, hpool, htable⟩ := hreach.prune_nobody nobody
    have hexported := fun begun : h.last ≠ none => hreach.exported_of_table begun htable
    have hlast := last_run (prunePlan fun u => u.path.same path) h
    rw [hafter]
    generalize run (prunePlan fun u => u.path.same path) h = b
      at hnoop hcalls hpool htable hexported hlast ⊢
    exact ⟨htable, hcalls, hpool, hexported, b.result, hlast, hnoop⟩

/-- In every run, a plugin that could not be switched on leaves all as it was but for records. One
that could not be switched off does so too if it has no file; otherwise its file could not be
renamed, and all but the records is as unloading it left it. -/
theorem Reachable.switch_failed (hreach : h.Reachable) (path : Path) :
    (∀ cause, (h.enablePlugin path).2 = .error cause →
      ∃ records, (h.enablePlugin path).1 = h.write records) ∧
    ∀ cause, (h.disablePlugin path).2 = .error cause →
      (h.files.isFile path = false → ∃ records, (h.disablePlugin path).1 = h.write records) ∧
      (h.files.isFile path = true → h.Unfinished path (h.disablePlugin path).1) :=
  ⟨fun _ => enablePlugin_failed,
    fun _ failed => ⟨disablePlugin_missing, fun there => hreach.unfinished there failed⟩⟩

end Host

namespace HostWitness

/-- A host whose files hold a plugin beside a directory with the name it would be disabled under. -/
def cramped : Host :=
  .create settings ⟨"en", []⟩ loader
    ⟨[(["core.mcdr"], .file ⟨#[1]⟩), (["core.mcdr.disabled"], .directory)]⟩
    (.create 1 .spawn .none)

theorem cramped_reachable : (cramped.loadPlugin ⟨"core.mcdr"⟩).1.Reachable :=
  (Host.Reachable.create _ _ _ _ _).perform (.load ⟨"core.mcdr"⟩)

/-- The plugin cannot be switched off. -/
theorem cramped_fails : ∃ cause,
    ((cramped.loadPlugin ⟨"core.mcdr"⟩).1.disablePlugin ⟨"core.mcdr"⟩).2 = .error cause := by
  have hfails : ((cramped.loadPlugin ⟨"core.mcdr"⟩).1.disablePlugin ⟨"core.mcdr"⟩).2.isOk = false := by
    decide +kernel
  cases houtcome : ((cramped.loadPlugin ⟨"core.mcdr"⟩).1.disablePlugin ⟨"core.mcdr"⟩).2 with
  | error cause => exact ⟨cause, rfl⟩
  | ok result =>
      rw [houtcome] at hfails
      cases hfails

theorem cramped_unfinished :
    (cramped.loadPlugin ⟨"core.mcdr"⟩).1.Unfinished ⟨"core.mcdr"⟩
      ((cramped.loadPlugin ⟨"core.mcdr"⟩).1.disablePlugin ⟨"core.mcdr"⟩).1 := by
  have hthere : (cramped.loadPlugin ⟨"core.mcdr"⟩).1.files.isFile ⟨"core.mcdr"⟩ = true := by
    decide +kernel
  obtain ⟨cause, hfailed⟩ := cramped_fails
  exact ((cramped_reachable.switch_failed ⟨"core.mcdr"⟩).2 cause hfailed).2 hthere

/-- It is unloaded all the same. -/
theorem cramped_unloads : ¬ ∀ (h : Host) (path : Path) (cause : PluginError), h.Reachable →
    (h.disablePlugin path).2 = .error cause →
      (h.disablePlugin path).1.table.ids = h.table.ids := by
  intro hatomic
  have hids : ((cramped.loadPlugin ⟨"core.mcdr"⟩).1.table.ids,
      ((cramped.loadPlugin ⟨"core.mcdr"⟩).1.disablePlugin ⟨"core.mcdr"⟩).1.table.ids) =
        (["core"], []) := by
    decide +kernel
  obtain ⟨hbefore, hafter⟩ := Prod.mk.inj hids
  obtain ⟨cause, hfailed⟩ := cramped_fails
  have hsame := hatomic _ _ cause cramped_reachable hfailed
  rw [hbefore, hafter] at hsame
  cases hsame

end HostWitness

end PluginHost
