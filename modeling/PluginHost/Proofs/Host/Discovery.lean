import Mathlib.Data.List.Induction
import PluginHost.Proofs.Host.Isolation
import PluginHost.Proofs.Host.Settling
import PluginHost.Proofs.Host.Trials
import PluginHost.Proofs.Plugin.Accounts

/-!
Which of the files that are found become plugins. When it is fixed how each file
loads, a batch takes the first one under each id that is free, in the order they
are found, and leaves no trace of the others but a failure in its result. A
refresh has let go by then of all units whose own file went, so that none of
these stands in the way of a file.
-/
namespace PluginHost

/-! ### What is fixed of a file -/

namespace PluginUnit

/-- The id a file is loaded under, if it loads. -/
def loadedId? (env : UnitEnv) (t : Trace) (path : Path) : Option String :=
  match (ofPath path).load env t with
  | (u, .ok (), _) => some u.id
  | (_, .error _, _) => none

end PluginUnit

/-! ### What comes of a file -/

/-- The file a call of the loader asks for. -/
def LoaderCall.asked? : LoaderCall → Option Path
  | .load path _ => some path
  | .unload _ _ => none

/-- What came of a file that was tried: a unit that lives and is loaded, or nothing, and then all
that was handed out for it went back. -/
inductive Probe where
  | taken (unit : PluginUnit) (loaded : LoadedCode) (live : unit.Live)
      (state : unit.state = .loaded) (held : unit.subUnits = loaded.subUnits)
  | failed (path : Path) (calls : List LoaderCall) (failedLoad : FailedLoad path calls)

namespace Probe

def path : Probe → Path
  | taken u _ _ _ _ => u.path
  | failed path _ _ => path

/-- The unit the file brought. -/
def unit? : Probe → Option PluginUnit
  | taken u _ _ _ _ => some u
  | failed _ _ _ => none

/-- The calls of the loader it took. -/
def calls : Probe → List LoaderCall
  | taken u loaded _ _ _ => [.load u.path (.ok loaded)]
  | failed _ calls _ => calls

/-- What is told of a file that brought nothing. -/
def failure? : Probe → Option Target
  | taken _ _ _ _ _ => none
  | failed path _ _ => some (.file path)

/-- What came of a file, as far as it is about its path and an id. -/
def verdict (p : Probe) : Path × Option String := (p.path, p.unit?.map PluginUnit.id)

/-- The units that some files brought. -/
def units (probes : List Probe) : List PluginUnit := probes.filterMap unit?

@[simp] theorem units_failed (probes : List Probe) {path : Path} {calls : List LoaderCall}
    (failedLoad : FailedLoad path calls) :
    units (probes ++ [failed path calls failedLoad]) = units probes :=
  List.filterMap_append.trans (List.append_nil _)

@[simp] theorem units_taken (probes : List Probe) {u : PluginUnit} {loaded : LoadedCode}
    (live : u.Live) (state : u.state = .loaded) (held : u.subUnits = loaded.subUnits) :
    units (probes ++ [taken u loaded live state held]) = units probes ++ [u] :=
  List.filterMap_append

theorem ids_units (probes : List Probe) :
    (units probes).map PluginUnit.id = (probes.map verdict).filterMap Prod.snd := by
  rw [units, List.filterMap_map, List.map_filterMap]
  rfl

/-- The loader is asked once for a file that is tried. -/
theorem asked (p : Probe) : p.calls.filterMap LoaderCall.asked? = [p.path] := by
  cases p with
  | taken u loaded live state held => rfl
  | failed path calls failedLoad => cases failedLoad <;> rfl

/-- What the loader handed out is held by the unit the file brought; if there is none, it went
back. -/
theorem balance (p : Probe) : Custody.handedOut p.calls =
    Custody.handedBack p.calls ++ (p.unit?.map PluginUnit.subUnits).getD [] := by
  cases p with
  | taken u loaded live state held =>
      simp [calls, unit?, Custody.handedOut, Custody.handedBack, LoaderCall.handedOut,
        LoaderCall.handedBack, held]
  | failed path calls failedLoad =>
      cases failedLoad <;>
        simp [Probe.calls, unit?, Custody.handedOut, Custody.handedBack, LoaderCall.handedOut,
          LoaderCall.handedBack]

end Probe

namespace Batch

variable {b : Batch} {id? : Path → Option String} {files : List Path} {probes : List Probe}
  {table : UnitTable} {log : List LogRecord} {path : Path} {id : String}

theorem fresh_discard (b : Batch) (u : PluginUnit) : (b.discard u).fresh = b.fresh := by
  unfold discard
  dsimp only
  split <;> rfl

/-- What is new once a file was tried: the id it loads under, if it loads and that id is free. -/
theorem fresh_discoverOne (b : Batch) (path : Path)
    (free : b.host.table.containsPath path = false) : (b.discoverOne path).fresh =
      b.fresh ++ ((PluginUnit.loadedId? b.host.env b.host.trace path).filter
        fun id => !b.host.table.containsId id).toList := by
  simp only [discoverOne, free, PluginUnit.loadedId?, Bool.false_eq_true, if_false]
  generalize (PluginUnit.ofPath path).load b.host.env b.host.trace = loaded
  obtain ⟨u, result, t⟩ := loaded
  cases result with
  | error cause => simp [noteLoad, tell]
  | ok _ =>
      simp only [UnitTable.pathOf?, UnitTable.containsId, Option.filter_some]
      cases b.host.table.unit? u.id with
      | none => rfl
      | some w =>
          exact (fresh_discard _ u).trans (List.append_nil b.fresh).symm

/-- A batch once some files were tried: the loader was called for them, the units they brought are
noted as new, and the result tells of each. -/
def triedFiles (b : Batch) (probes : List Probe) (table : UnitTable) (log : List LogRecord) :
    Batch :=
  { b.made table (probes.flatMap Probe.calls) log with
    fresh := b.fresh ++ (Probe.units probes).map PluginUnit.id
    result := { b.result with load :=
      ⟨b.result.load.succeeded ++ (Probe.units probes).map PluginUnit.target,
        b.result.load.failed ++ probes.filterMap Probe.failure?⟩ } }

/-- A table once some files were tried: what came of them is what had to, and the units they brought
came in under their ids and their paths, beside all that was there before. -/
structure TriesFiles (id? : Path → Option String) (b : Batch) (files : List Path)
    (probes : List Probe) (table : UnitTable) : Prop where
  verdicts : probes.map Probe.verdict = b.host.table.trials id? files
  brought : ∀ u ∈ Probe.units probes, ∃ t t',
    (PluginUnit.ofPath u.path).load b.host.env t = (u, .ok (), t')
  byId : table.byId.Perm (b.host.table.byId ++ (Probe.units probes).map fun u => (u.id, u))
  idByPath : table.idByPath =
    b.host.table.idByPath ++ (Probe.units probes).map fun u => (u.path, u.id)
  kept : ∀ id u, b.host.table.unit? id = some u → table.unit? id = some u

theorem triedFiles_failed {calls : List LoaderCall} (failedLoad : FailedLoad path calls)
    (log' : List LogRecord) :
    ((b.triedFiles probes table log).made table calls log').noteLoad (.file path) false =
      b.triedFiles (probes ++ [.failed path calls failedLoad]) table log' := by
  simp [triedFiles, made, noteLoad, PhaseResult.note, Probe.calls, Probe.failure?,
    List.filterMap_append]

theorem triedFiles_taken {u : PluginUnit} {loaded : LoadedCode} (live : u.Live)
    (state : u.state = .loaded) (held : u.subUnits = loaded.subUnits) (grown : UnitTable)
    (log' : List LogRecord) :
    (((b.triedFiles probes table log).made grown [.load u.path (.ok loaded)] log').noteLoad u.target
        true).noteFresh u.id =
      b.triedFiles (probes ++ [.taken u loaded live state held]) grown log' := by
  simp [triedFiles, made, noteLoad, noteFresh, PhaseResult.note, Probe.calls, Probe.failure?,
    List.filterMap_append]

namespace TriesFiles

theorem start (id? : Path → Option String) (b : Batch) : TriesFiles id? b [] [] b.host.table where
  verdicts := rfl
  brought := by simp [Probe.units]
  byId := by simp [Probe.units]
  idByPath := by simp [Probe.units]
  kept := fun _ _ h => h

variable (h : TriesFiles id? b files probes table)
include h

/-- A file is tracked by then if it was before, or was taken. -/
theorem containsPath_eq (path : Path) : table.containsPath path =
    (b.host.table.containsPath path || UnitTable.took (b.host.table.trials id? files) path) := by
  rw [UnitTable.containsPath_eq_any, UnitTable.containsPath_eq_any, h.idByPath, List.any_append,
    ← h.verdicts, UnitTable.took, List.any_map, List.any_map, Probe.units, List.any_filterMap]
  congr 2
  funext p
  cases p <;> rfl

/-- An id is free by then if it was before and no file was taken under it. -/
theorem frees_eq (id : String) :
    (!table.containsId id) = b.host.table.frees (b.host.table.trials id? files) id := by
  have hids : table.ids.Perm (b.host.table.ids ++ (Probe.units probes).map PluginUnit.id) := by
    simpa [UnitTable.ids, Function.comp_def] using h.byId.map Prod.fst
  rw [Bool.eq_iff_iff, UnitTable.frees_iff, Bool.not_eq_true', ← Bool.not_eq_true,
    ← Bool.not_eq_true, UnitTable.containsId_iff, UnitTable.containsId_iff, hids.mem_iff,
    List.mem_append, not_or, Probe.ids_units, h.verdicts, List.mem_filterMap]
  simp only [not_exists, not_and, ne_eq]

theorem fail {calls : List LoaderCall} (failedLoad : FailedLoad path calls)
    (told : b.host.table.trials id? (files ++ [path]) =
      b.host.table.trials id? files ++ [(path, none)]) :
    TriesFiles id? b (files ++ [path]) (probes ++ [.failed path calls failedLoad]) table where
  verdicts := by
    rw [told, List.map_append, h.verdicts]
    rfl
  brought := by
    rw [Probe.units_failed]
    exact h.brought
  byId := by
    rw [Probe.units_failed]
    exact h.byId
  idByPath := by
    rw [Probe.units_failed]
    exact h.idByPath
  kept := h.kept

theorem take {u : PluginUnit} {loaded : LoadedCode} (live : u.Live) (state : u.state = .loaded)
    (held : u.subUnits = loaded.subUnits) (newId : table.unit? u.id = none)
    (newPath : table.containsPath u.path = false)
    (brought : ∃ t t', (PluginUnit.ofPath u.path).load b.host.env t = (u, .ok (), t'))
    (told : b.host.table.trials id? (files ++ [u.path]) =
      b.host.table.trials id? files ++ [(u.path, some u.id)]) :
    TriesFiles id? b (files ++ [u.path]) (probes ++ [.taken u loaded live state held])
      (table.insert u.id u.path u) where
  verdicts := by
    rw [told, List.map_append, h.verdicts]
    rfl
  brought := by
    intro w hw
    rw [Probe.units_taken] at hw
    rcases List.mem_append.mp hw with hbefore | hlast
    · exact h.brought w hbefore
    · rw [List.mem_singleton.mp hlast]
      exact brought
  byId := by
    rw [Probe.units_taken, List.map_append, ← List.append_assoc]
    exact (UnitTable.byId_insert_perm u.path u newId).trans
      ((h.byId.cons _).trans (List.perm_append_singleton _ _).symm)
  idByPath := by
    rw [Probe.units_taken, List.map_append, ← List.append_assoc, ← h.idByPath]
    exact UnitTable.idByPath_insert u.id u newPath
  kept := by
    intro i w hw
    have hthere := h.kept i w hw
    have hother : i ≠ u.id := by
      rintro rfl
      cases newId.symm.trans hthere
    exact (UnitTable.unit?_insert u.path).trans ((if_neg hother).trans hthere)

/-- One more file is passed over, fails to load, or brings a unit. -/
theorem discoverOne (settled : ∀ t, PluginUnit.loadedId? b.host.env t path = id? path) :
    ∃ probes' table' log', (b.triedFiles probes table log).discoverOne path =
      b.triedFiles probes' table' log' ∧ TriesFiles id? b (files ++ [path]) probes' table' := by
  have hfrees : (fun id => !table.containsId id) =
      b.host.table.frees (b.host.table.trials id? files) := funext h.frees_eq
  have hfresh : table.containsPath path = false →
      ((b.triedFiles probes table log).discoverOne path).fresh =
        (b.triedFiles probes table log).fresh ++
        ((id? path).filter (b.host.table.frees (b.host.table.trials id? files))).toList := by
    rw [← hfrees, ← settled (b.triedFiles probes table log).host.trace]
    exact (b.triedFiles probes table log).fresh_discoverOne path
  have htrial := UnitTable.trials_concat b.host.table id? files path
  rw [UnitTable.trial, ← h.containsPath_eq] at htrial
  have hfound := (b.triedFiles probes table log).discoverOne_discovered path
  generalize (b.triedFiles probes table log).discoverOne path = after at hfound hfresh ⊢
  -- Which case it is can be told from what is new: an id if a unit came, and nothing if none did.
  cases hfound with
  | known tracked =>
      have hskip : table.containsPath path = true := tracked
      rw [if_pos hskip] at htrial
      exact ⟨probes, table, log, rfl, htrial ▸ h.verdicts, h.brought, h.byId, h.idByPath, h.kept⟩
  | refused free failedLoad =>
      have hfree : table.containsPath path = false := free
      have hnone : ((id? path).filter
          (b.host.table.frees (b.host.table.trials id? files))).toList = [] :=
        List.self_eq_append_right.mp (hfresh hfree)
      rw [hfree, if_neg Bool.false_ne_true, Option.toList_eq_nil_iff.mp hnone] at htrial
      exact ⟨_, _, _, triedFiles_failed failedLoad _, h.fail failedLoad htrial⟩
  | @entered u _ _ live state held newId newPath brought =>
      have hfree : table.containsPath u.path = false := newPath
      have hsome : ((id? u.path).filter
          (b.host.table.frees (b.host.table.trials id? files))).toList = [u.id] :=
        (List.append_cancel_left (hfresh hfree)).symm
      rw [hfree, if_neg Bool.false_ne_true, Option.toList_eq_singleton_iff.mp hsome] at htrial
      exact ⟨_, _, _, triedFiles_taken live state held _ _,
        h.take live state held newId hfree ⟨_, brought⟩ htrial⟩

end TriesFiles

theorem triedFiles_nil (b : Batch) : b.triedFiles [] b.host.table b.host.trace.log = b := by
  simp [triedFiles, made, Probe.units]

theorem triesFiles_discover (settled : ∀ path t, PluginUnit.loadedId? b.host.env t path = id? path)
    (files : List Path) : ∃ probes table log, discover files b = b.triedFiles probes table log ∧
      TriesFiles id? b files probes table := by
  induction files using List.reverseRecOn with
  | nil => exact ⟨[], _, _, b.triedFiles_nil.symm, .start id? b⟩
  | append_singleton front path ih =>
      obtain ⟨probes, table, log, hfront, htries⟩ := ih
      have hlast : discover (front ++ [path]) b = (discover front b).discoverOne path :=
        List.foldl_concat ..
      rw [hlast, hfront]
      exact htries.discoverOne (settled path)

/-- What looking at some files does to a batch. -/
structure TriedFiles (id? : Path → Option String) (b : Batch) (files : List Path) (after : Batch)
    (probes : List Probe) : Prop extends
    TriesFiles id? b files probes after.host.table where
  /-- Nothing else changes. -/
  rest : ∃ log, after = b.triedFiles probes after.host.table log
  untracked : ∀ p ∈ probes, b.host.table.containsPath p.path = false
  /-- The loader is asked once for each file that is tried, in order, and for no other one. -/
  asked : (probes.flatMap Probe.calls).filterMap LoaderCall.asked? = probes.map Probe.path
  /-- What was handed out is held by a unit that came, or went back. -/
  released : ∀ p ∈ probes, Custody.handedOut p.calls =
    Custody.handedBack p.calls ++ (p.unit?.map PluginUnit.subUnits).getD []

theorem triedFiles_discover (settled : ∀ path t, PluginUnit.loadedId? b.host.env t path = id? path)
    (files : List Path) : ∃ probes, TriedFiles id? b files (discover files b) probes := by
  obtain ⟨probes, table, log, hran, htries⟩ := triesFiles_discover settled files
  have htable : (discover files b).host.table = table := congrArg (·.host.table) hran
  rw [← htable] at htries
  refine ⟨probes, htries, ⟨log, by rw [htable, hran]⟩, ?_, ?_, fun p _ => p.balance⟩
  · intro p hp
    have hverdict : p.verdict ∈ b.host.table.trials id? files :=
      htries.verdicts ▸ List.mem_map_of_mem hp
    exact (UnitTable.mem_trials hverdict).2.1
  · rw [List.filterMap_flatMap, List.flatMap_congr fun p _ => p.asked]
    exact List.map_eq_flatMap.symm

/-- What is new once some files were looked at. -/
theorem fresh_discover (settled : ∀ path t, PluginUnit.loadedId? b.host.env t path = id? path)
    (files : List Path) : (discover files b).fresh =
      b.fresh ++ (b.host.table.trials id? files).filterMap Prod.snd := by
  obtain ⟨probes, table, log, hran, htries⟩ := triesFiles_discover settled files
  rw [hran, ← htries.verdicts, ← Probe.ids_units]
  rfl

/-- A file is taken if it is the first one under an id that is free. -/
theorem first_iff (settled : ∀ path t, PluginUnit.loadedId? b.host.env t path = id? path)
    (spelled : ∀ p q : Path, p.same q = true → id? p = id? q) (front : List Path) :
    b.host.table.First id? front path id ↔
      (discover (front ++ [path]) b).fresh = (discover front b).fresh ++ [id] := by
  rw [fresh_discover settled, fresh_discover settled, List.append_assoc,
    List.append_cancel_left_eq, UnitTable.trials_concat, ← UnitTable.trial_takes_iff spelled,
    UnitTable.trial]
  split
  · simp
  · generalize (id? path).filter _ = taken
    cases taken <;> simp

/-! ### Behind the pruning -/

theorem load_foldl_refreshOne (ids : List String) (b : Batch) :
    (ids.foldl refreshOne b).result.load = b.result.load := by
  induction ids generalizing b with
  | nil => rfl
  | cons id rest ih =>
      refine (ih _).trans ?_
      rcases b.refreshOne_cases id with hskip | ⟨u, _, _, hrefreshed⟩
      · rw [hskip]
      · generalize b.refreshOne id = after at hrefreshed
        cases hrefreshed <;> rfl

/-- Only files that are found are told of as loaded, or as not. -/
theorem load_run (plan : Plan) (h : Host) :
    (run plan h).result.load = (furnished plan h).result.load := by
  obtain ⟨log, hprepared⟩ := prepared_eq plan h
  rw [result_run, (loads_validate _).1, hprepared, load_foldl_refreshOne]

end Batch

namespace Host

open Batch

variable {h : Host} {id? : Path → Option String}

/-- A refresh in which no file is turned away because of a unit whose own file went. -/
structure NoStaleRefusals (id? : Path → Option String) (h : Host) (result : BatchResult) :
    Prop where
  /-- Whenever the next file is looked at, all units in the table are of files that are there. -/
  backed : ∀ front, front <+: h.scan.1 → ∀ id u,
    (discover front h.pruned).host.table.unit? id = some u → Backed h.files h.scan.1 u.path
  triedFiles : ∃ probes, TriedFiles id? h.pruned h.scan.1 (discover h.scan.1 h.pruned) probes
  told : result.load = (discover h.scan.1 h.pruned).result.load
  /-- When a file could be loaded and was turned away, its id belongs to another file, which is
  there: that of a unit that was tracked before, or one that was found. -/
  owned : ∀ path id, .file path ∈ result.load.failed → id? path = some id →
    ∃ owner, Backed h.files h.scan.1 owner ∧ owner.same path = false ∧
      ((∃ u, h.table.unit? id = some u ∧ u.path = owner) ∨
        owner ∈ h.scan.1 ∧ id? owner = some id)

theorem load_pruned (hconsistent : h.table.Consistent) : h.pruned.result.load = .empty := by
  obtain ⟨unload, calls, log, hpruned, _⟩ := prune_start_eq (h := h.warned) hconsistent
    fun u => !u.fileExists h.files || !h.scan.1.any u.path.same
  exact congrArg (·.result.load) hpruned

theorem load_refreshIf (h : Host) (condition : PluginUnit → Bool) :
    (h.refreshIf condition).2.load = (discover h.scan.1 h.pruned).result.load := by
  rw [refreshIf_warned]
  dsimp only
  rw [load_run, furnished_refreshPlan]

theorem noStaleRefusals_refreshIf (hconsistent : h.table.Consistent)
    (settled : ∀ path t, PluginUnit.loadedId? h.env t path = id? path)
    (condition : PluginUnit → Bool) : h.NoStaleRefusals id? (h.refreshIf condition).2 := by
  have hpruned : h.pruned.host.table.Consistent := (prune_transitions _ _).consistent hconsistent
  have hcurrent : h.pruned.FilesCurrent h.files h.scan.1 := filesCurrent_prune hconsistent condition
  have htold : (h.refreshIf condition).2.load = (discover h.scan.1 h.pruned).result.load :=
    h.load_refreshIf condition
  rw [← h.env_pruned] at settled
  obtain ⟨probes, htried⟩ := triedFiles_discover settled h.scan.1
  refine ⟨?_, ⟨probes, htried⟩, htold, ?_⟩
  · intro front hfront
    exact (hcurrent.discover (congrArg UnitEnv.files h.env_pruned)
      fun path hpath => backed_of_scan (hfront.subset hpath)).backed
  · intro path id hfailed hloads
    obtain ⟨log, hrest⟩ := htried.rest
    have hmem : Target.file path ∈ probes.filterMap Probe.failure? := by
      rw [htold, hrest] at hfailed
      simpa [Batch.triedFiles, load_pruned hconsistent, PhaseResult.empty] using hfailed
    have hrefused : (path, none) ∈ h.pruned.host.table.trials id? h.scan.1 := by
      obtain ⟨p, hp, hfailure⟩ := List.mem_filterMap.mp hmem
      rw [← htried.verdicts]
      refine List.mem_map.mpr ⟨p, hp, ?_⟩
      cases p with
      | taken u loaded live state held => cases hfailure
      | failed other calls failedLoad =>
          cases hfailure
          rfl
    rcases UnitTable.taken_of_refused hrefused hloads with htracked | ⟨e, he, hid, hother⟩
    · obtain ⟨u, hu⟩ := Option.isSome_iff_exists.mp htracked
      refine ⟨u.path, hcurrent.backed id u hu, ?_, .inl ⟨u, tracked_of_prune hu, rfl⟩⟩
      rw [← Bool.not_eq_true]
      intro hsame
      have hknown := hpruned.containsPath_iff.mpr ⟨id, u, hu, hsame⟩
      cases hknown.symm.trans (UnitTable.mem_trials hrefused).2.1
    · obtain ⟨hfound, _, hrest⟩ := UnitTable.mem_trials he
      exact ⟨e.1, backed_of_scan hfound, hother, .inr ⟨hfound, (hrest id hid).1⟩⟩

/-- When it is settled how files load, looking at some files takes the first one under each id that
is free and changes nothing else, whatever is tracked; and a refresh, which first lets go of the
units whose file went, never turns a file away because of one of these. -/
theorem discover_takes_first {env : UnitEnv}
    (settled : ∀ path t, PluginUnit.loadedId? env t path = id? path) :
    (∀ b : Batch, b.host.env = env →
      (∀ files, ∃ probes, TriedFiles id? b files (discover files b) probes) ∧
      ((∀ p q : Path, p.same q = true → id? p = id? q) → ∀ front path id,
        b.host.table.First id? front path id ↔
          (discover (front ++ [path]) b).fresh = (discover front b).fresh ++ [id])) ∧
    ∀ (h : Host) condition, h.table.Consistent → h.env = env →
      h.NoStaleRefusals id? (h.refreshIf condition).2 := by
  constructor
  · rintro b rfl
    exact ⟨triedFiles_discover settled, fun spelled front _ _ => first_iff settled spelled front⟩
  · rintro h condition hconsistent rfl
    exact noStaleRefusals_refreshIf hconsistent settled condition

end Host

namespace HostWitness

open Batch

/-- A loader that goes by the name of a file: two names are of one plugin, all others of none. -/
def keeper : Loader where
  load _ _ path :=
    if path.name? = some "core.mcdr" then .ok ⟨code "core" "1.2.0" [], [⟨"core", 0, none⟩]⟩
    else if path.name? = some "twin.mcdr" then .ok ⟨code "core" "2.0.0" [], [⟨"twin", 0, none⟩]⟩
    else .error (.load path "no plugin")
  unload _ _ := .ok ()
  unloadLog _ := []

/-- The id a file is loaded under by then. -/
def keptId? (path : Path) : Option String :=
  if path.name? = some "core.mcdr" ∨ path.name? = some "twin.mcdr" then some "core" else none

/-- A host that looks in three directories with a file each, after it loaded one that is nowhere. -/
def moved : Host :=
  (Host.loadPlugin (.create
    { settings with directories := [⟨"plugins"⟩, ⟨"more"⟩, ⟨"spare"⟩] } ⟨"en", []⟩ keeper
    ⟨shelf.entries ++ [(["spare"], .directory), (["spare", "twin.mcdr"], .file ⟨#[3]⟩)]⟩
    (.create 1 .spawn .none)) ⟨"core.mcdr"⟩).1

theorem moved_settled (path : Path) (t : Trace) :
    PluginUnit.loadedId? moved.env t path = keptId? path := by
  have hload : moved.env.loader.load t.calls moved.env.files path =
      keeper.load t.calls moved.env.files path :=
    congrArg (fun env => env.loader.load t.calls moved.env.files path) (env_run _ _)
  simp only [PluginUnit.loadedId?, PluginUnit.load, PluginUnit.freshLoad, Trace.load,
    PluginUnit.ofPath, hload, keptId?]
  by_cases hcore : path.name? = some "core.mcdr"
  · simp only [keeper, hcore, if_true, true_or]
    rfl
  · by_cases htwin : path.name? = some "twin.mcdr"
    · simp only [keeper, htwin, if_true, or_true]
      rfl
    · simp only [keeper, hcore, htwin, if_false, or_false]
      rfl

theorem keptId?_spelled (p q : Path) (same : p.same q = true) : keptId? p = keptId? q := by
  rw [keptId?, keptId?, Path.name?, Path.name?, Path.same_iff.mp same]

/-- The plugin came from a file that went; once that is pruned, the first of two other files takes
its place, under whichever spelling, and the second one is turned away. -/
theorem moved_takes_first :
    let files :=
      [⟨"more/bad.mcdr"⟩, ⟨"plugins/core.mcdr"⟩, ⟨"plugins//core.mcdr"⟩, ⟨"spare/twin.mcdr"⟩]
    (discover files moved.pruned).fresh = ["core"] ∧
      (∃ probes, TriedFiles keptId? moved.pruned files (discover files moved.pruned) probes) ∧
      moved.pruned.host.table.First keptId? [⟨"more/bad.mcdr"⟩] ⟨"plugins/core.mcdr"⟩ "core" ∧
      moved.table.pathOf? "core" = some ⟨"core.mcdr"⟩ ∧
      moved.refreshAll.1.table.pathOf? "core" = some ⟨"plugins/core.mcdr"⟩ ∧
      moved.refreshAll.2.load.failed = [.file ⟨"more/bad.mcdr"⟩, .file ⟨"spare/twin.mcdr"⟩] ∧
      moved.NoStaleRefusals keptId? moved.refreshAll.2 := by
  intro files
  have hreach : moved.Reachable := (Host.Reachable.create _ _ _ _ _).perform (.load ⟨"core.mcdr"⟩)
  obtain ⟨hbatches, hrefreshes⟩ := Host.discover_takes_first moved_settled
  obtain ⟨htried, hfirst⟩ := hbatches moved.pruned moved.env_pruned
  have htaken := (hfirst keptId?_spelled [⟨"more/bad.mcdr"⟩] ⟨"plugins/core.mcdr"⟩ "core").mpr
    (by decide +kernel)
  exact ⟨by decide +kernel, htried files, htaken, by decide +kernel, by decide +kernel,
    by decide +kernel, hrefreshes moved _ hreach.consistent rfl⟩

end HostWitness

end PluginHost
