import PluginHost.Proofs.Host.Readiness

/-!
The history of a host: the batches it went through, each with what was asked
for and the host it was asked of. Between two batches files change, workers make
calls, tasks are submitted and records are written, and nothing happens to the
units. Whatever an operator has done adds at most one batch.
-/
namespace PluginHost

/-- A batch of a history. -/
structure PastBatch where
  plan : Batch.Plan
  before : Host

namespace PastBatch

/-- The batch once its dependency check is done. -/
def checked (c : PastBatch) : Batch := Batch.validate (Batch.prepared c.plan c.before)

/-- The host at the end of the batch. -/
def after (c : PastBatch) : Host := (Batch.run c.plan c.before).host

end PastBatch

namespace Host

/-- A host and the batches it went through, from the start on. -/
inductive HasHistory : List PastBatch → Host → Prop
  | create (settings : HostSettings) (language : Language) (loader : Loader) (files : FileSystem)
      (pool : Pool Call) : HasHistory [] (create settings language loader files pool)
  | batch {past : List PastBatch} {h : Host} (before : HasHistory past h) (plan : Batch.Plan) :
      HasHistory (past ++ [⟨plan, h⟩]) (Batch.run plan h).host
  | meanwhile {past : List PastBatch} {h : Host} (before : HasHistory past h) (files : FileSystem)
      (log : List LogRecord) (pool : Pool Call) :
      HasHistory past { h with files, pool, trace := { h.trace with log } }

/-- What happens to a host besides batches. -/
def BesidesBatches (h after : Host) : Prop :=
  ∃ files log pool, after = { h with files, pool, trace := { h.trace with log } }

variable {past : List PastBatch} {h after : Host}

theorem HasHistory.besidesBatches (hhistory : h.HasHistory past) (beside : h.BesidesBatches after) :
    after.HasHistory past := by
  obtain ⟨files, log, pool, rfl⟩ := beside
  exact hhistory.meanwhile files log pool

theorem besidesBatches_write (h : Host) (records : List LogRecord) :
    h.BesidesBatches (h.write records) :=
  ⟨h.files, _, h.pool, rfl⟩

theorem besidesBatches_dispatch (h : Host) (event : Event) (payload : Payload) :
    h.BesidesBatches (h.dispatch event payload).1 :=
  ⟨h.files, _, _, rfl⟩

theorem Moves.besidesBatches {source dest : Path} {outcome : Except PluginError Unit}
    (moves : h.Moves source dest (after, outcome)) : h.BesidesBatches after := by
  cases moves with
  | moved renamed => exact ⟨_, h.trace.log, h.pool, rfl⟩
  | stuck records cause => exact h.besidesBatches_write records

/-! ### Whatever is done is a part of a history -/

theorem HasHistory.runBatch (hhistory : h.HasHistory past) (plan : Batch.Plan) :
    (h.runBatch plan).1.HasHistory (past ++ [⟨plan, h⟩]) :=
  hhistory.batch plan

theorem HasHistory.enablePlugin (hhistory : h.HasHistory past) (path : Path) :
    ∃ more, (h.enablePlugin path).1.HasHistory (past ++ more) := by
  have henables := h.enablePlugin_enables path
  generalize h.enablePlugin path = answer at henables ⊢
  cases henables with
  | stuck records cause =>
      exact ⟨[], (List.append_nil past).symm ▸
        hhistory.besidesBatches (h.besidesBatches_write _)⟩
  | @done files loaded there renamed batch =>
      have hrenamed : h.BesidesBatches { h with files } := ⟨files, h.trace.log, h.pool, rfl⟩
      subst batch
      exact ⟨_, (hhistory.besidesBatches hrenamed).runBatch _⟩

theorem HasHistory.disablePlugin (hhistory : h.HasHistory past) (path : Path) :
    ∃ more, (h.disablePlugin path).1.HasHistory (past ++ more) := by
  have hdisables := h.disablePlugin_disables path
  generalize h.disablePlugin path = answer at hdisables ⊢
  cases hdisables with
  | missing absent records cause =>
      exact ⟨[], (List.append_nil past).symm ▸ hhistory.besidesBatches (h.besidesBatches_write _)⟩
  | ran there batch moves =>
      subst batch
      exact ⟨_, (hhistory.runBatch _).besidesBatches moves.besidesBatches⟩

/-- Whatever an operator has done, the history goes on. -/
theorem HasHistory.perform (hhistory : h.HasHistory past) (operation : Operation) :
    ∃ more, (h.perform operation).HasHistory (past ++ more) := by
  cases operation with
  | load path => exact ⟨_, hhistory.batch { Batch.Plan.none with discover := some [path] }⟩
  | unload id =>
      simp only [Host.perform, unloadPlugin]
      split
      · exact ⟨_, hhistory.batch { Batch.Plan.none with prune := some fun u => u.id = id }⟩
      · exact ⟨[], (List.append_nil past).symm ▸ hhistory⟩
  | reload id =>
      simp only [Host.perform, reloadPlugin]
      split
      · exact ⟨_, hhistory.batch { Batch.Plan.none with refresh := some fun u => u.id = id }⟩
      · exact ⟨[], (List.append_nil past).symm ▸ hhistory⟩
  | refreshAll =>
      exact ⟨_, (hhistory.besidesBatches (h.besidesBatches_write h.scan.2)).batch _⟩
  | refreshChanged =>
      exact ⟨_, (hhistory.besidesBatches (h.besidesBatches_write h.scan.2)).batch _⟩
  | unloadAll => exact ⟨_, hhistory.batch { Batch.Plan.none with prune := some fun _ => true }⟩
  | enable path => exact hhistory.enablePlugin path
  | disable path => exact hhistory.disablePlugin path

/-- Every run has a history. -/
theorem Reachable.hasHistory (hreach : h.Reachable) : ∃ past, h.HasHistory past := by
  induction hreach with
  | create settings language loader files pool => exact ⟨[], .create settings language loader files pool⟩
  | perform _ operation ih =>
      obtain ⟨past, hhistory⟩ := ih
      obtain ⟨more, hmore⟩ := hhistory.perform operation
      exact ⟨past ++ more, hmore⟩
  | meanwhile _ files log pool ih =>
      obtain ⟨past, hhistory⟩ := ih
      exact ⟨past, hhistory.meanwhile files log pool⟩

/-! ### What holds all along -/

/-- A property of settings and table that is true of empty tables and kept by batches is true all
along a history. -/
theorem HasHistory.induct {P : HostSettings → UnitTable → Prop}
    (empty : ∀ settings, P settings .empty)
    (run : ∀ (h : Host) (plan : Batch.Plan), P h.settings h.table →
      P h.settings (Batch.run plan h).host.table)
    (hhistory : h.HasHistory past) : P h.settings h.table := by
  induction hhistory with
  | create settings => exact empty settings
  | @batch _ h _ plan ih =>
      rw [Batch.settings_run]
      exact run h plan ih
  | meanwhile _ _ _ _ ih => exact ih

theorem HasHistory.consistent (hhistory : h.HasHistory past) : h.table.Consistent :=
  hhistory.induct (P := fun _ t => t.Consistent) (fun _ => .empty)
    fun _ plan hbefore => Batch.consistent_run plan hbefore

/-- All units are ready between batches, but for one that goes by the id of the host. -/
theorem HasHistory.ready (hhistory : h.HasHistory past) {id : String} {u : PluginUnit}
    (tracked : h.table.unit? id = some u) (guest : id ≠ h.settings.identity.id) :
    u.state = .ready := by
  have hboth := hhistory.induct
    (P := fun settings t => t.Consistent ∧
      ∀ id u, t.unit? id = some u → id ≠ settings.identity.id → u.state = .ready)
    (fun _ => ⟨.empty, by simp [UnitTable.unit?, UnitTable.empty]⟩)
    fun h plan hbefore => ⟨Batch.consistent_run plan hbefore.1,
      fun id u hu guest => Batch.ready_run hbefore.1 hbefore.2 hu guest⟩
  exact hboth.2 id u tracked guest

end Host

end PluginHost
