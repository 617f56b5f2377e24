import PluginHost.Proofs.FileSystem.Deleting
import PluginHost.Proofs.Host.Alike
import PluginHost.Proofs.Host.Notices

/-!
A file that does not load keeps its trouble to itself. Whether it lies in a
plugin directory or not, a refresh tracks, loads, unloads, checks, exports and
tells the same; that it could not be loaded is all that is said of it. Both
refreshes find the same other files, in the same order, and go on in step.
-/
namespace PluginHost

namespace Host

open Batch

variable {h : Host} {place : Place} {path : Path} {without : FileSystem}
  {condition condition' : PluginUnit → Bool} {id : String} {u : PluginUnit}

/-- A host as it is, in front of other files. -/
def withFiles (h : Host) (files : FileSystem) : Host := { h with files }

/-- The file at a place does not load, under whatever paths a scan finds it, and nothing tracked is
of it. -/
structure Unloadable (h : Host) (place : Place) : Prop where
  untracked : ∀ path ∈ h.scan.1, h.files.locate path = .ok place →
    h.table.containsPath path = false
  fails : ∀ path ∈ h.scan.1, h.files.locate path = .ok place →
    ∃ cause, ((PluginUnit.ofPath path).load h.env h.trace).2.1 = .error cause

/-! ### What both refreshes find -/

/-- A scan finds what it did, but for the file. -/
theorem scan_without (lacks : h.files.Lacks place without) :
    (h.withFiles without).scan.1 =
      h.scan.1.filter fun path => !h.files.leads place path := by
  simp only [scan, withFiles, List.flatMap_map, scanDirectory_fst, lacks.isDirectory_eq,
    lacks.list_eq]
  induction h.settings.directories with
  | nil => rfl
  | cons dir rest ih =>
      rw [List.flatMap_cons, List.flatMap_cons, List.filter_append, ih]
      congr 1
      split <;> rfl

theorem locate_of_isFile {files : FileSystem} (hfile : files.isFile path = true) :
    ∃ there, files.locate path = .ok there := by
  obtain ⟨content, hlookup⟩ := FileSystem.isFile_iff.mp hfile
  obtain ⟨there, hthere, _⟩ := FileSystem.lookup_iff.mp hlookup
  exact ⟨there, hthere⟩

/-- A file that was found is not the one that does not load if a tracked unit is of it. -/
theorem Unloadable.apart (unloadable : h.Unloadable place) (hconsistent : h.table.Consistent)
    (tracked : h.table.unit? id = some u) {q : Path} (found : q ∈ h.scan.1)
    (same : u.path.same q = true) : h.files.leads place q = false := by
  rw [← Bool.not_eq_true, FileSystem.leads_iff]
  intro hplace
  have hfree := unloadable.untracked q found hplace
  rw [hconsistent.containsPath_iff.mpr ⟨id, u, tracked, same⟩] at hfree
  cases hfree

theorem Unloadable.leads_backed (unloadable : h.Unloadable place) (hconsistent : h.table.Consistent)
    (tracked : h.table.unit? id = some u) (backed : Backed h.files h.scan.1 u.path) :
    h.files.leads place u.path = false := by
  obtain ⟨q, found, same⟩ := List.any_eq_true.mp backed.found
  have hapart := unloadable.apart hconsistent tracked found same
  rw [← Bool.not_eq_true, FileSystem.leads_iff] at hapart ⊢
  intro hplace
  -- It was found under another spelling of its path, and both lead to one place.
  obtain ⟨there, hthere⟩ := locate_of_isFile (backed_of_scan found).there
  rw [FileSystem.locate_of_same hplace hthere same] at hapart
  exact hapart hthere

/-- A tracked unit is backed by a file with or without the one that does not load. -/
theorem Unloadable.backed_iff (unloadable : h.Unloadable place)
    (lacks : h.files.Lacks place without)
    (hconsistent : h.table.Consistent) (tracked : h.table.unit? id = some u) :
    Backed without (h.withFiles without).scan.1 u.path ↔
      Backed h.files h.scan.1 u.path := by
  constructor
  · rintro ⟨hfound, hthere⟩
    rw [scan_without lacks] at hfound
    rw [lacks.isFile_eq, Bool.and_eq_true] at hthere
    obtain ⟨q, hq, same⟩ := List.any_eq_true.mp hfound
    exact ⟨List.any_eq_true.mpr ⟨q, (List.mem_filter.mp hq).1, same⟩, hthere.1⟩
  · intro backed
    have hleads := unloadable.leads_backed hconsistent tracked backed
    obtain ⟨q, found, same⟩ := List.any_eq_true.mp backed.found
    have hapart := unloadable.apart hconsistent tracked found same
    constructor
    · rw [scan_without lacks]
      exact List.any_eq_true.mpr ⟨q, List.mem_filter.mpr ⟨found, by rw [hapart]; rfl⟩, same⟩
    · rw [lacks.isFile_eq, backed.there, hleads]
      rfl

/-! ### Both refreshes in step -/

/-- A host with the warnings about directories that are not there. -/
def warned (h : Host) : Host := h.write h.scan.2

/-- A refresh once the units went whose file went. -/
def pruned (h : Host) : Batch :=
  prune (fun u => !u.fileExists h.files || !h.scan.1.any u.path.same) (Batch.start h.warned)

theorem refreshIf_warned (h : Host) (condition : PluginUnit → Bool) : h.refreshIf condition =
    ((run (h.refreshPlan condition) h.warned).host,
      (run (h.refreshPlan condition) h.warned).result) := rfl

theorem env_pruned (h : Host) : h.pruned.host.env = h.env :=
  (prune_transitions _ _).env

theorem furnished_refreshPlan (h : Host) (condition : PluginUnit → Bool) :
    furnished (h.refreshPlan condition) h.warned = discover h.scan.1 h.pruned := rfl

section

variable (unloadable : h.Unloadable place) (lacks : h.files.Lacks place without)
  (hconsistent : h.table.Consistent)
include unloadable lacks hconsistent

theorem readable_pruned : h.pruned.Readable without := by
  intro i w tracked
  have hbacked := (filesCurrent_prune hconsistent fun _ => true).backed i w tracked
  have hbefore : h.table.unit? i = some w := tracked_of_prune tracked
  have hfiles : h.pruned.host.files = h.files := congrArg UnitEnv.files h.env_pruned
  rw [hfiles]
  exact (lacks.read_eq hbacked.there (unloadable.leads_backed hconsistent hbefore hbacked)).symm

variable (steady : h.loader.Steady)
include steady

/-- The same units go because their file went. -/
theorem alike_pruned :
    h.pruned.Alike without (h.files.leads place) (h.withFiles without).pruned := by
  have hstart : Batch.Alike without (h.files.leads place) (Batch.start h.warned)
      (Batch.start (h.withFiles without).warned) :=
    ⟨⟨steady, rfl, rfl, rfl, rfl, rfl⟩, .nil, rfl, rfl, rfl⟩
  apply hstart.prune
  · intro e he
    have tracked : h.table.unit? e.1 = some e.2 :=
      (UnitTable.unit?_eq_some_iff hconsistent.distinct).mpr he
    have hbacked := unloadable.backed_iff lacks hconsistent tracked
    rw [← backed_iff_not_stale, ← backed_iff_not_stale] at hbacked
    rw [Bool.eq_iff_iff, ← Bool.not_eq_false, ← Bool.not_eq_false, not_iff_not]
    exact hbacked.symm
  · intro u
    rfl

omit hconsistent in
/-- Every file that was found is read the same, or it is the one that does not load. -/
theorem shared_scan : ∀ path ∈ h.scan.1, Shared h.env without (h.files.leads place) path := by
  intro path found
  unfold Shared
  split
  · next mine =>
      obtain ⟨cause, hcause⟩ := unloadable.fails path found (FileSystem.leads_iff.mp mine)
      intro t
      have hsame : PluginUnit.SameEnd ((PluginUnit.ofPath path).load h.env h.trace)
          ((PluginUnit.ofPath path).load { h.env with files := h.env.files } t) := by
        apply PluginUnit.load_alike
        · exact steady
        · exact (rfl : (PluginUnit.ofPath path).unnumbered = (PluginUnit.ofPath path).unnumbered)
        · rfl
      exact ⟨cause, hsame.result.symm.trans hcause⟩
  · next other =>
      have hapart : h.files.leads place path = false := by simpa using other
      exact (lacks.read_eq (backed_of_scan found).there hapart).symm

/-- The same other files are loaded. -/
theorem alike_discovered : (discover h.scan.1 h.pruned).Alike without (h.files.leads place)
      (discover (h.withFiles without).scan.1 (h.withFiles without).pruned) ∧
    (discover h.scan.1 h.pruned).Readable without := by
  have hshared := shared_scan unloadable lacks steady
  rw [← h.env_pruned] at hshared
  rw [scan_without lacks]
  exact (alike_pruned unloadable lacks hconsistent steady).discover
    (readable_pruned unloadable lacks hconsistent) hshared

/-- The same units are loaded again, if both refreshes choose the same among those whose file both
read the same. -/
theorem alike_prepared
    (same : ∀ u : PluginUnit, h.files.read u.path = without.read u.path → condition u = condition' u)
    (blind : ∀ u : PluginUnit, condition' u.unnumbered = condition' u) :
    Batch.Alike without (h.files.leads place) (prepared (h.refreshPlan condition) h.warned)
      (prepared ((h.withFiles without).refreshPlan condition') (h.withFiles without).warned) := by
  have htransitions := furnished_transitions (h.refreshPlan condition) h.warned
  rw [h.furnished_refreshPlan] at htransitions
  have hfurnished : (discover h.scan.1 h.pruned).host.table.Consistent :=
    htransitions.consistent hconsistent
  have hfiles : (discover h.scan.1 h.pruned).host.files = h.files :=
    congrArg UnitEnv.files htransitions.env
  obtain ⟨halike, hread⟩ := alike_discovered unloadable lacks hconsistent steady
  apply halike.refresh hread hfurnished
  · intro e he
    apply same
    have tracked := (UnitTable.unit?_eq_some_iff hfurnished.distinct).mpr he
    rw [← hfiles]
    exact hread e.1 e.2 tracked
  · exact blind

end

/-- Two refreshes of a host, the first of which saw some files of its own, that make no difference:
the same is tracked, but for the numbers of sub-units, and exported, all results are the same but
for failures to load those files, and the same tasks went to the pool, one after the other. -/
structure SameRefresh (own : Path → Bool) (before : Pool Call) (first second : Host × BatchResult) :
    Prop where
  table : first.1.table.unnumbered = second.1.table.unnumbered
  exported : first.1.exported = second.1.exported
  result : first.2.sparing own = second.2
  pool : first.1.pool = second.1.pool
  told : ∃ tasks, before.Offered tasks first.1.pool ∧ before.Offered tasks second.1.pool

theorem SameRefresh.of_alike {own : Path → Bool} {before : Pool Call} {tasks : List (PoolTask Call)}
    {b b' : Batch} (alike : b.Alike without own b') (told : before.Offered tasks b.host.pool) :
    SameRefresh own before (b.host, b.result) (b'.host, b'.result) where
  table := alike.host.table
  exported := alike.host.exported.symm
  result := alike.result.symm
  pool := alike.host.pool.symm
  told := ⟨tasks, told, alike.host.pool.symm ▸ told⟩

theorem sameRefresh_refreshIf (unloadable : h.Unloadable place)
    (lacks : h.files.Lacks place without)
    (hconsistent : h.table.Consistent) (steady : h.loader.Steady)
    (same : ∀ u : PluginUnit, h.files.read u.path = without.read u.path → condition u = condition' u)
    (blind : ∀ u : PluginUnit, condition' u.unnumbered = condition' u) :
    SameRefresh (h.files.leads place) h.pool (h.refreshIf condition)
      ((h.withFiles without).refreshIf condition') := by
  have hrun : Batch.Alike without (h.files.leads place) (run (h.refreshPlan condition) h.warned)
      (run ((h.withFiles without).refreshPlan condition') (h.withFiles without).warned) :=
    (alike_prepared unloadable lacks hconsistent steady same blind).finish
  have hwarned : h.warned.table.Consistent := hconsistent
  have htold := run_offered (h.refreshPlan condition) hwarned
  have hdone := SameRefresh.of_alike hrun htold
  rw [refreshIf_warned, refreshIf_warned]
  exact hdone

/-- In every run, a file that does not load, and that nothing tracked is of, makes no difference to
a refresh but that it could not be loaded: with a loader that goes by what files hold, the refresh
does all else as if the file was not there. -/
theorem Reachable.refresh_isolates (hreach : h.Reachable) (steady : h.loader.Steady)
    (located : h.files.locate path = .ok place) (absent : h.files.delete path = .ok without)
    (unloadable : h.Unloadable place) :
    SameRefresh (h.files.leads place) h.pool h.refreshAll (h.withFiles without).refreshAll ∧
      SameRefresh (h.files.leads place) h.pool h.refreshChanged
        (h.withFiles without).refreshChanged := by
  have lacks := FileSystem.lacks_of_delete located absent
  have hconsistent := hreach.consistent
  constructor
  · apply sameRefresh_refreshIf unloadable lacks hconsistent steady
    · exact fun _ _ => rfl
    · exact fun _ => rfl
  · apply sameRefresh_refreshIf unloadable lacks hconsistent steady
    · intro u same
      have hfingerprint : h.files.fingerprint? u.path = without.fingerprint? u.path :=
        congrArg (fun content => content.toOption.map Digest.Sha256.hex) same
      rw [PluginUnit.fileChanged, PluginUnit.fileChanged, hfingerprint]
      rfl
    · exact fun _ => rfl

end Host

namespace HostWitness

/-- What linking a file gives: one content is a plugin, and all others hand out nothing. -/
def link (content : ByteArray) : Library.Image :=
  if content.data = #[1] then .code (code "core" "1.2.0" []) else .nothing

/-- A host that loads libraries, with a file in each of its directories. -/
def workshop : Host :=
  .create { settings with directories := [⟨"plugins"⟩, ⟨"more"⟩] } ⟨"en", []⟩
    (Library.loader link) shelf (.create 1 .spawn .none)

/-- Where the file lies that is no plugin. -/
def litter : Place := ["more", "bad.mcdr"]

theorem scan_workshop :
    workshop.scan.1 = [⟨"plugins/core.mcdr"⟩, ⟨"more/bad.mcdr"⟩] := by
  decide +kernel

theorem unloadable_litter : workshop.Unloadable litter where
  untracked := fun _ _ _ => rfl
  fails := by
    intro path found hplace
    rw [scan_workshop] at found
    have hleads := FileSystem.leads_iff.mpr hplace
    rcases List.mem_cons.mp found with rfl | hrest
    · have hcore : workshop.files.leads litter ⟨"plugins/core.mcdr"⟩ = false := by decide +kernel
      rw [hcore] at hleads
      cases hleads
    · obtain rfl := List.mem_singleton.mp hrest
      have hfails : ((PluginUnit.ofPath ⟨"more/bad.mcdr"⟩).load workshop.env
          workshop.trace).2.1.isOk = false := by decide +kernel
      generalize ((PluginUnit.ofPath ⟨"more/bad.mcdr"⟩).load workshop.env workshop.trace).2.1 = result
        at hfails ⊢
      cases result with
      | error cause => exact ⟨cause, rfl⟩
      | ok _ => cases hfails

theorem workshop_isolates : workshop.Reachable ∧
    workshop.refreshAll.2.load.failed = [.file ⟨"more/bad.mcdr"⟩] ∧
    Host.SameRefresh (workshop.files.leads litter) workshop.pool workshop.refreshAll
      (workshop.withFiles (shelf.erase litter)).refreshAll := by
  have hreach : workshop.Reachable := .create _ _ _ _ _
  have hplace : workshop.files.locate ⟨"more/bad.mcdr"⟩ = .ok litter :=
    FileSystem.leads_iff.mp (by decide +kernel)
  have habsent : workshop.files.delete ⟨"more/bad.mcdr"⟩ = .ok (shelf.erase litter) := by
    rw [FileSystem.delete, hplace]
    rfl
  have hfailed : workshop.refreshAll.2.load.failed = [.file ⟨"more/bad.mcdr"⟩] := by decide +kernel
  have hisolated :=
    hreach.refresh_isolates (Library.loader_steady link) hplace habsent unloadable_litter
  exact ⟨hreach, hfailed, hisolated.1⟩

end HostWitness

end PluginHost
