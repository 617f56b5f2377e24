import PluginHost.Host.Operations
import PluginHost.Proofs.Host.Outcome

/-!
Runs of a host: it starts with nothing tracked, an operator has things done,
and between that files change, workers make calls and records are written.
What a loader answers may depend on all it was asked before, so a run leaves
open how its loads and unloads end. Every operation is at most one batch, so
the two ways into the table agree after any of them.
-/
namespace PluginHost

/-- What an operator can have done. -/
inductive Operation where
  | load (path : Path)
  | unload (id : String)
  | reload (id : String)
  | refreshAll
  | refreshChanged
  | unloadAll
  | enable (path : Path)
  | disable (path : Path)

namespace Host

/-- Have something done. -/
def perform (h : Host) : Operation → Host
  | .load path => (h.loadPlugin path).1
  | .unload id => (h.unloadPlugin id).1
  | .reload id => (h.reloadPlugin id).1
  | .refreshAll => h.refreshAll.1
  | .refreshChanged => h.refreshChanged.1
  | .unloadAll => h.unloadAll.1
  | .enable path => (h.enablePlugin path).1
  | .disable path => (h.disablePlugin path).1

/-- The hosts of all runs. -/
inductive Reachable : Host → Prop
  | create (settings : HostSettings) (language : Language) (loader : Loader) (files : FileSystem)
      (pool : Pool Call) : Reachable (create settings language loader files pool)
  | perform {h : Host} (before : Reachable h) (operation : Operation) :
      Reachable (h.perform operation)
  | meanwhile {h : Host} (before : Reachable h) (files : FileSystem) (log : List LogRecord)
      (pool : Pool Call) : Reachable { h with files, pool, trace := { h.trace with log } }

theorem Reachable.foldl {h : Host} (hreach : h.Reachable) (operations : List Operation) :
    (operations.foldl Host.perform h).Reachable := by
  induction operations generalizing h with
  | nil => exact hreach
  | cons operation rest ih => exact ih (hreach.perform operation)

/-! ### Operations as batches -/

/-- What became of a host through at most one batch. -/
inductive Batched (h : Host) : Host → Prop
  | idle {after : Host} (quiet : h.Quiet after) : Batched h after
  | ran {start after : Host} (plan : Batch.Plan) (before : h.Quiet start)
      (behind : (Batch.run plan start).host.Quiet after) : Batched h after

theorem Quiet.refl (h : Host) : h.Quiet h := ⟨rfl, rfl, rfl⟩

theorem Batched.behind {h start after : Host} (quiet : h.Quiet start) (hafter : start.Batched after) :
    h.Batched after := by
  cases hafter with
  | idle hquiet => exact .idle (quiet.trans hquiet)
  | ran plan before behind => exact .ran plan (quiet.trans before) behind

theorem Batched.before {h last after : Host} (hafter : h.Batched after) (quiet : after.Quiet last) :
    h.Batched last := by
  cases hafter with
  | idle hquiet => exact .idle (hquiet.trans quiet)
  | ran plan before behind => exact .ran plan before (behind.trans quiet)

theorem batched_runBatch (h : Host) (plan : Batch.Plan) : h.Batched (h.runBatch plan).1 := by
  have hran : (h.runBatch plan).1 = (Batch.run plan h).host := rfl
  rw [hran]
  exact .ran plan (.refl h) (.refl (Batch.run plan h).host)

theorem batched_unloadPlugin (h : Host) (id : String) : h.Batched (h.unloadPlugin id).1 := by
  have hran := h.batched_runBatch { Batch.Plan.none with prune := some fun u => u.id = id }
  unfold unloadPlugin
  split
  · generalize h.runBatch _ = ran at hran ⊢
    exact hran
  · exact .idle (.refl h)

theorem batched_reloadPlugin (h : Host) (id : String) : h.Batched (h.reloadPlugin id).1 := by
  have hran := h.batched_runBatch { Batch.Plan.none with refresh := some fun u => u.id = id }
  unfold reloadPlugin
  split
  · generalize h.runBatch _ = ran at hran ⊢
    exact hran
  · exact .idle (.refl h)

theorem batched_refreshIf (h : Host) (condition : PluginUnit → Bool) :
    h.Batched (h.refreshIf condition).1 := by
  unfold refreshIf
  generalize h.scan = scanned
  have hwarned : h.Quiet (h.write scanned.2) := ⟨rfl, rfl, rfl⟩
  exact (batched_runBatch _ _).behind hwarned

/-- What comes of renaming a file: the files are others then, or records were written. -/
inductive Moves (h : Host) (source dest : Path) : Host × Except PluginError Unit → Prop
  | moved {files : FileSystem} (renamed : h.files.rename source dest = .ok files) :
      Moves h source dest ({ h with files }, .ok ())
  | stuck (records : List LogRecord) (cause : PluginError) :
      Moves h source dest (h.write records, .error cause)

theorem renameFile_moves (h : Host) (source dest : Path) :
    h.Moves source dest (h.renameFile source dest) := by
  unfold renameFile
  split
  · next hrename => exact .moved hrename
  · exact .stuck _ _

theorem Moves.quiet {h after : Host} {source dest : Path} {outcome : Except PluginError Unit}
    (moves : h.Moves source dest (after, outcome)) : h.Quiet after := by
  cases moves <;> exact ⟨rfl, rfl, rfl⟩

/-- What comes of switching a plugin on: records were written, or its file was renamed and
loaded. -/
inductive Enables (h : Host) (path : Path) : Host × Except PluginError BatchResult → Prop
  | stuck (records : List LogRecord) (cause : PluginError) :
      Enables h path (h.write records, .error cause)
  | done {files : FileSystem} {loaded : Host × BatchResult} (there : h.files.isFile path = true)
      (renamed : h.files.rename path (h.enabledPath path) = .ok files)
      (batch : loadPlugin { h with files } (h.enabledPath path) = loaded) :
      Enables h path (loaded.1, .ok loaded.2)

theorem enablePlugin_enables (h : Host) (path : Path) :
    h.Enables path (h.enablePlugin path) := by
  have hmoves := h.renameFile_moves path (h.enabledPath path)
  unfold enablePlugin
  split
  · next hthere =>
      generalize h.renameFile path (h.enabledPath path) = renamed at hmoves ⊢
      cases hmoves with
      | moved renamed =>
          dsimp only
          generalize hloaded : loadPlugin _ _ = loaded
          exact .done hthere renamed hloaded
      | stuck records cause => exact .stuck records cause
  · exact .stuck _ _

/-- What comes of switching a plugin off: records were written if it has no file, or there was a
batch that unloads it, and its file was renamed or not. -/
inductive Disables (h : Host) (path : Path) : Host × Except PluginError BatchResult → Prop
  | missing (absent : h.files.isFile path = false) (records : List LogRecord) (cause : PluginError) :
      Disables h path (h.write records, .error cause)
  | ran {ran : Host × BatchResult} {after : Host} {outcome : Except PluginError Unit}
      (there : h.files.isFile path = true)
      (batch : h.runBatch { Batch.Plan.none with prune := some fun u => u.path.same path } = ran)
      (moves : ran.1.Moves path (h.disabledPath path) (after, outcome)) :
      Disables h path (after, outcome.map fun _ => ran.2)

theorem disablePlugin_disables (h : Host) (path : Path) :
    h.Disables path (h.disablePlugin path) := by
  unfold disablePlugin
  split
  · next hthere =>
      generalize hran : h.runBatch _ = ran
      obtain ⟨middle, result⟩ := ran
      have hmoves := middle.renameFile_moves path (h.disabledPath path)
      dsimp only
      generalize middle.renameFile path (h.disabledPath path) = renamed at hmoves ⊢
      obtain ⟨after, outcome⟩ := renamed
      cases outcome with
      | error cause => exact .ran hthere hran hmoves
      | ok _ => exact .ran hthere hran hmoves
  · next habsent => exact .missing (Bool.not_eq_true _ ▸ habsent) _ _

theorem batched_enablePlugin (h : Host) (path : Path) : h.Batched (h.enablePlugin path).1 := by
  have henables := h.enablePlugin_enables path
  generalize h.enablePlugin path = answer at henables ⊢
  cases henables with
  | stuck records cause => exact .idle ⟨rfl, rfl, rfl⟩
  | @done files loaded there renamed batch =>
      have hquiet : h.Quiet { h with files } := ⟨rfl, rfl, rfl⟩
      subst batch
      exact (batched_runBatch _ _).behind hquiet

theorem batched_disablePlugin (h : Host) (path : Path) : h.Batched (h.disablePlugin path).1 := by
  have hdisables := h.disablePlugin_disables path
  generalize h.disablePlugin path = answer at hdisables ⊢
  cases hdisables with
  | missing absent records cause => exact .idle ⟨rfl, rfl, rfl⟩
  | ran there batch moves =>
      subst batch
      exact (h.batched_runBatch _).before moves.quiet

/-- Whatever an operator has done is at most one batch; renaming files and writing records around it
leaves the units alone. -/
theorem batched_perform (h : Host) (operation : Operation) : h.Batched (h.perform operation) := by
  cases operation with
  | load path => exact h.batched_runBatch { Batch.Plan.none with discover := some [path] }
  | unload id => exact h.batched_unloadPlugin id
  | reload id => exact h.batched_reloadPlugin id
  | refreshAll => exact h.batched_refreshIf fun _ => true
  | refreshChanged => exact h.batched_refreshIf fun u => u.fileChanged h.files
  | unloadAll => exact h.batched_runBatch { Batch.Plan.none with prune := some fun _ => true }
  | enable path => exact h.batched_enablePlugin path
  | disable path => exact h.batched_disablePlugin path

/-- A property of settings, table and calls of the loader that is true at the start and kept by
batches is true in all runs. -/
theorem Reachable.induct_calls {P : HostSettings → UnitTable → List LoaderCall → Prop}
    (empty : ∀ settings, P settings .empty [])
    (run : ∀ (h : Host) (plan : Batch.Plan), P h.settings h.table h.trace.calls →
      P h.settings (Batch.run plan h).host.table (Batch.run plan h).host.trace.calls)
    {h : Host} (hreach : h.Reachable) : P h.settings h.table h.trace.calls := by
  induction hreach with
  | create settings => exact empty settings
  | @perform h _ operation ih =>
      cases h.batched_perform operation with
      | idle quiet =>
          rw [quiet.settings, quiet.table, quiet.calls]
          exact ih
      | @ran start _ plan before behind =>
          rw [behind.settings, behind.table, behind.calls, Batch.settings_run]
          rw [← before.settings, ← before.table, ← before.calls] at ih
          exact run start plan ih
  | meanwhile _ _ _ _ ih => exact ih

/-- A property of settings and table that is true of empty tables and kept by batches is true in all
runs. -/
theorem Reachable.induct {P : HostSettings → UnitTable → Prop}
    (empty : ∀ settings, P settings .empty)
    (run : ∀ (h : Host) (plan : Batch.Plan), P h.settings h.table →
      P h.settings (Batch.run plan h).host.table)
    {h : Host} (hreach : h.Reachable) : P h.settings h.table :=
  hreach.induct_calls (P := fun settings t _ => P settings t) empty run

theorem Reachable.consistent {h : Host} (hreach : h.Reachable) : h.table.Consistent :=
  hreach.induct (P := fun _ t => t.Consistent) (fun _ => .empty)
    fun _ plan hbefore => Batch.consistent_run plan hbefore

theorem Reachable.sorted {h : Host} (hreach : h.Reachable) : h.table.Sorted :=
  hreach.induct (P := fun _ t => t.Sorted) (fun _ => .empty)
    fun _ plan hbefore => Batch.sorted_run plan hbefore

/-- In every run, whatever files and loader do meanwhile, the two ways into the table agree. -/
theorem Reachable.table_faithful {h : Host} (hreach : h.Reachable) : h.table.Faithful :=
  hreach.consistent.faithful

end Host

namespace HostWitness

/-- A host that looks for plugins nowhere by itself. -/
def settings : HostSettings :=
  ⟨[], ".mcdr", ".disabled", ⟨"mcdreforged", .ofNumbers 2 0 0⟩, .none⟩

/-- A plugin with an id, a version and what it needs, that has a help entry. -/
def code (id version : String) (needs : List (String × Json)) : PluginCode :=
  { metadata := .ok (some (.object
      [("id", .text id), ("version", .text version), ("dependencies", .object needs)]))
    registrations := .ok [.help "!!word" "A word" 0]
    callback := fun _ => .ok none }

/-- Two plugins that go together, one with the id of the host, and one whose name depends on how
often the loader was asked. -/
def loader : Loader where
  load history _ path :=
    match path.text with
    | "core.mcdr" => .ok ⟨code "core" "1.2.0" [], []⟩
    | "chat.mcdr" => .ok ⟨code "chat" "1.0.0" [("core", .text ">=1"), ("mcdreforged", .text "*")], []⟩
    | "odd.mcdr" => .ok ⟨code "mcdreforged" "1.0.0" [], []⟩
    | "new.mcdr" => .ok ⟨code (if history.length ≤ 2 then "before" else "behind") "1.0.0" [], []⟩
    | other => .error (.load ⟨other⟩ "there is nothing")
  unload _ _ := .ok ()
  unloadLog _ := []

/-- The host at the start. -/
def idle : Host :=
  .create settings ⟨"en", []⟩ loader .empty (.create 1 .spawn .none)

/-- The host after three plugins were loaded and one of them, asked again, had another id. -/
def busy : Host :=
  [.load ⟨"core.mcdr"⟩, .load ⟨"chat.mcdr"⟩, .load ⟨"new.mcdr"⟩, .reload "before"].foldl
    Host.perform idle

theorem idle_reachable : idle.Reachable :=
  .create _ _ _ _ _

theorem busy_reachable : busy.Reachable :=
  idle_reachable.foldl _

theorem busy_faithful : busy.Reachable ∧ busy.table.ids = ["behind", "chat", "core"] ∧
    busy.table.Faithful := by
  have hids : busy.table.ids = ["behind", "chat", "core"] := by decide +kernel
  exact ⟨busy_reachable, hids, busy_reachable.table_faithful⟩

end HostWitness

end PluginHost
