import PluginHost.Proofs.Host.Current

/-!
A second refresh right behind a first one that met no trouble. Its phases find
nothing to do: what is tracked was found and is unchanged, what was found is
tracked, and all that is tracked passes the check. So nothing happens.
-/
namespace PluginHost

/-- What operators see of the units in a table. -/
def UnitTable.shown (t : UnitTable) (language : Language) : MergedRegistry :=
  ((t.units.filter (·.state = .ready)).foldl (fun m u => m.collect u.registry)
    MergedRegistry.empty).arrange language

theorem Host.language_of_env {h after : Host} (same : after.env = h.env) :
    after.language = h.language :=
  congrArg UnitEnv.language same

theorem Host.files_of_env {h after : Host} (same : after.env = h.env) : after.files = h.files :=
  congrArg UnitEnv.files same

namespace Batch

variable {b : Batch} {h : Host} {plan : Plan}

/-! ### What no batch changes -/

theorem env_announce (h : Host) (u : PluginUnit) (event : Event) :
    (announce h u event).env = h.env := by
  unfold announce
  dsimp only
  split <;> rfl

theorem env_welcome (fresh : List String) (h : Host) (id : String) :
    (welcome fresh h id).env = h.env := by
  unfold welcome
  split
  · rfl
  · split
    · rfl
    · split
      · split
        · rfl
        · exact env_announce _ _ _
      · exact env_announce _ _ _

theorem env_farewell (acc : Host × List PluginUnit) (u : PluginUnit) :
    (farewell acc u).1.env = acc.1.env := by
  have hannounced := env_announce acc.1 u .pluginUnload
  unfold farewell
  dsimp only
  split <;> exact hannounced

theorem env_notify (b : Batch) : b.notify.host.env = b.host.env := by
  have hwelcome : ∀ (order : List String) (h : Host),
      (order.foldl (welcome b.fresh) h).env = h.env := by
    intro order
    induction order with
    | nil => exact fun _ => rfl
    | cons id rest ih => exact fun h => (ih (welcome b.fresh h id)).trans (env_welcome b.fresh h id)
  have hfarewell : ∀ (departed : List PluginUnit) (acc : Host × List PluginUnit),
      (departed.foldl farewell acc).1.env = acc.1.env := by
    intro departed
    induction departed with
    | nil => exact fun _ => rfl
    | cons u rest ih => exact fun acc => (ih (farewell acc u)).trans (env_farewell acc u)
  exact (hfarewell b.departed (b.order.foldl (welcome b.fresh) b.host, [])).trans
    (hwelcome b.order b.host)

theorem env_validate (b : Batch) : (validate b).host.env = b.host.env := by
  obtain ⟨log, hchecked⟩ := b.validate_eq
  rw [hchecked]
  exact b.purged_transitions.env

theorem env_conclude (b : Batch) :
    (conclude { b with host := exportRegistry b.host }).host.env = b.host.env := by
  obtain ⟨_, _, _, _, hfinish⟩ := finish_eq b
  rw [hfinish]
  rfl

/-- Whatever units work with is the same after a batch, the files among it. -/
theorem env_run (plan : Plan) (h : Host) : (run plan h).host.env = h.env := by
  calc (run plan h).host.env
      = (validate (prepared plan h)).notify.host.env := env_conclude _
    _ = (validate (prepared plan h)).host.env := env_notify _
    _ = (prepared plan h).host.env := env_validate _
    _ = h.env := (prepared_transitions plan h).env

theorem exported_conclude (b : Batch) :
    (conclude { b with host := exportRegistry b.host }).host.exported =
      (conclude { b with host := exportRegistry b.host }).host.table.shown
        (conclude { b with host := exportRegistry b.host }).host.language := by
  obtain ⟨log, hconclude⟩ := conclude_eq { b with host := exportRegistry b.host }
  rw [hconclude]
  rfl

/-- What is exported at the end of a batch is what its table shows. -/
theorem exported_run (plan : Plan) (h : Host) :
    (run plan h).host.exported = (run plan h).host.table.shown h.language := by
  have hlanguage : (run plan h).host.language = h.language :=
    Host.language_of_env (env_run plan h)
  have hshown := exported_conclude (validate (prepared plan h)).notify
  rw [← run_eq, hlanguage] at hshown
  exact hshown

/-! ### Phases that find nothing to do -/

theorem prune_idle {condition : PluginUnit → Bool} (hnone : b.host.select condition = []) :
    prune condition b = b := by
  simp [prune, associated, hnone]

theorem discover_idle {files : List Path}
    (known : ∀ path ∈ files, b.host.table.containsPath path = true) : discover files b = b := by
  induction files with
  | nil => rfl
  | cons path rest ih =>
      have hfirst : b.discoverOne path = b := by
        simp [discoverOne, known path List.mem_cons_self]
      rw [discover, List.foldl_cons, hfirst]
      exact ih fun p hp => known p (List.mem_cons_of_mem path hp)

theorem refresh_idle {condition : PluginUnit → Bool}
    (hnone : (b.host.select fun u => reloadable u && condition u) = []) :
    refresh condition b = b := by
  simp [refresh, associated, hnone]

theorem notify_idle (hfresh : b.fresh = []) (hdeparted : b.departed = []) : b.notify = b := by
  have hwelcome : ∀ (order : List String) (h : Host), order.foldl (welcome []) h = h := by
    intro order
    induction order with
    | nil => exact fun _ => rfl
    | cons id rest ih => exact fun h => ih h
  simp only [notify, hfresh, hdeparted, hwelcome]
  obtain ⟨host, departed, fresh, result, order⟩ := b
  cases hfresh
  cases hdeparted
  rfl

/-- A batch that does nothing: no phase tells of anything but the check, which nothing fails, and
the loader and the pool are not asked for anything. -/
structure Idle (h after : Host) (result : BatchResult) : Prop where
  noop : result.isNoop = true
  calls : after.trace.calls = h.trace.calls
  pool : after.pool = h.pool
  table : after.table = h.table

theorem Idle.of_write {after : Host} {result : BatchResult} {records : List LogRecord}
    (idle : Idle (h.write records) after result) : Idle h after result :=
  ⟨idle.noop, idle.calls, idle.pool, idle.table⟩

theorem run_idle (hprepared : prepared plan h = start h) (hpassed : h.graph.walk.failures = []) :
    Idle h (run plan h).host (run plan h).result := by
  obtain ⟨log, hchecked⟩ := validate_of_passed (b := start h) hpassed
  have hnotify : (validate (start h)).notify = validate (start h) := by
    rw [hchecked]
    exact notify_idle rfl rfl
  have hquiet := run_quiet plan h
  rw [hprepared, hnotify, hchecked] at hquiet
  refine ⟨?_, hquiet.calls, ?_, hquiet.table⟩
  · rw [result_run, hprepared, hchecked]
    rfl
  · rw [pool_run, hprepared, hnotify, hchecked]
    rfl

end Batch

namespace Host

open Batch Dependency

variable {h after : Host} {condition : PluginUnit → Bool}

/-- What a scan finds depends on nothing but settings and files. -/
theorem scan_congr (settings : after.settings = h.settings) (files : after.files = h.files) :
    after.scan.1 = h.scan.1 := by
  simp only [scan, List.flatMap_map, scanDirectory_fst, settings, files]

theorem select_eq_nil (hnone : ∀ e ∈ h.table.byId, condition e.2 = false) :
    h.select condition = [] := by
  rw [select, List.map_eq_nil_iff, List.filter_eq_nil_iff]
  intro e he
  simp [hnone e he]

/-- Between operations all that is tracked passes the check. -/
theorem Reachable.failures_nil (hreach : h.Reachable) : h.graph.walk.failures = [] := by
  have hdistinct := distinct_graph hreach.consistent
  have hwalk := Walk.walk_sound hdistinct
  rw [List.eq_nil_iff_forall_not_mem]
  intro f hf
  obtain ⟨hid, hguest, hstuck⟩ := hwalk.mem_failures_iff.mp (List.mem_map.mpr ⟨f, hf, rfl⟩)
  exact hstuck (hreach.runs ((mem_ids_graph_iff hreach.consistent).mp hid) hguest)

/-- A refresh does nothing when all that is tracked was found and is not to be loaded again, and all
that was found is tracked. -/
theorem Reachable.refreshIf_idle (hreach : h.Reachable)
    (backed : ∀ e ∈ h.table.byId, Backed h.files h.scan.1 e.2.path)
    (kept : ∀ e ∈ h.table.byId, condition e.2 = false)
    (known : ∀ path ∈ h.scan.1, h.table.containsPath path = true) :
    Idle h (h.refreshIf condition).1 (h.refreshIf condition).2 := by
  have hprune : prune (fun u => !u.fileExists h.files || !h.scan.1.any u.path.same)
      (Batch.start (h.write h.scan.2)) = Batch.start (h.write h.scan.2) := by
    apply prune_idle
    apply select_eq_nil (h := h.write h.scan.2)
    intro e he
    exact backed_iff_not_stale.mpr (backed e he)
  have hdiscover : discover h.scan.1 (Batch.start (h.write h.scan.2)) =
      Batch.start (h.write h.scan.2) := discover_idle known
  have hrefresh : refresh condition (Batch.start (h.write h.scan.2)) =
      Batch.start (h.write h.scan.2) := by
    apply refresh_idle
    apply select_eq_nil (h := h.write h.scan.2)
    intro e he
    rw [kept e he, Bool.and_false]
  have hprepared : prepared (h.refreshPlan condition) (h.write h.scan.2) =
      Batch.start (h.write h.scan.2) := by
    rw [prepared, refreshPlan]
    simp only [phase, hprune, hdiscover, hrefresh]
  have hidle := run_idle hprepared hreach.failures_nil
  rw [refreshIf_eq]
  dsimp only
  exact hidle.of_write

theorem settings_refreshIf (h : Host) (condition : PluginUnit → Bool) :
    (h.refreshIf condition).1.settings = h.settings := by
  rw [refreshIf_eq]
  dsimp only
  exact settings_run _ _

theorem env_refreshIf (h : Host) (condition : PluginUnit → Bool) :
    (h.refreshIf condition).1.env = h.env := by
  rw [refreshIf_eq]
  dsimp only
  exact env_run _ _

theorem exported_refreshIf (h : Host) (condition : PluginUnit → Bool) :
    (h.refreshIf condition).1.exported = (h.refreshIf condition).1.table.shown h.language := by
  rw [refreshIf_eq]
  dsimp only
  exact exported_run _ _

/-- A refresh does nothing to a host that is in line with the same files already. -/
theorem Reachable.refresh_idle (hafter : after.Reachable) (settings : after.settings = h.settings)
    (files : after.files = h.files)
    (current : ∀ id u, after.table.unit? id = some u →
      Backed h.files h.scan.1 u.path ∧ u.Latest h.files)
    (known : ∀ path ∈ h.scan.1, after.table.containsPath path = true) :
    Idle after after.refreshChanged.1 after.refreshChanged.2 := by
  have hscan : after.scan.1 = h.scan.1 := scan_congr settings files
  have hcurrent : ∀ e ∈ after.table.byId,
      Backed after.files after.scan.1 e.2.path ∧ e.2.Latest after.files := by
    intro e he
    rw [hscan, files]
    exact current e.1 e.2 ((UnitTable.unit?_eq_some_iff hafter.consistent.distinct).mpr he)
  refine hafter.refreshIf_idle (fun e he => (hcurrent e he).1) ?_ (hscan ▸ known)
  intro e he
  exact PluginUnit.latest_iff.mp (hcurrent e he).2

/-- In every run, a refresh right behind one that met no trouble does nothing, whatever workers did
and records were written in between: its result is that of a refresh with nothing to do, it calls
the loader for nothing, submits no task, and leaves all that is tracked and all that is exported as
it was. -/
theorem Reachable.refresh_settles (hreach : h.Reachable)
    (loaded : h.refreshChanged.2.load.failed = [])
    (reloaded : h.refreshChanged.2.reload.failed = [])
    (checked : h.refreshChanged.2.dependencyCheck.failed = []) (log : List LogRecord)
    (pool : Pool Call) :
    let settled := { h.refreshChanged.1 with
      pool, trace := { h.refreshChanged.1.trace with log } }
    Idle settled settled.refreshChanged.1 settled.refreshChanged.2 ∧
      settled.refreshChanged.1.exported = settled.exported := by
  have hran : h.refreshChanged = h.refreshIf fun u => u.fileChanged h.files := rfl
  have hreached : h.refreshChanged.1.Reachable := hreach.perform .refreshChanged
  have hcurrent : ∀ id u, h.refreshChanged.1.table.unit? id = some u →
      Backed h.files h.scan.1 u.path ∧ u.Latest h.files := by
    intro id u tracked
    rw [hran] at tracked
    exact current_refreshIf hreach.consistent (fun u hsame => PluginUnit.latest_iff.mpr hsame) tracked
  have hknown : ∀ path ∈ h.scan.1, h.refreshChanged.1.table.containsPath path = true := by
    intro path hpath
    have hnobody : h.refreshChanged.2.setbacks = [] := by
      rw [BatchResult.setbacks, loaded, reloaded, checked]
      rfl
    rw [hran] at hnobody ⊢
    rcases accounted_refreshIf hreach.consistent _ hpath with htracked | ⟨t, ht, _⟩
    · exact htracked
    · exact absurd (hnobody ▸ ht) List.not_mem_nil
  have hsettings : h.refreshChanged.1.settings = h.settings := hran ▸ h.settings_refreshIf _
  have henv : h.refreshChanged.1.env = h.env := hran ▸ h.env_refreshIf _
  have hexported : h.refreshChanged.1.exported = h.refreshChanged.1.table.shown h.language :=
    hran ▸ h.exported_refreshIf _
  -- From here on it only matters what the first refresh left, not how.
  generalize h.refreshChanged.1 = after at hreached hcurrent hknown hsettings henv hexported ⊢
  intro settled
  have hsettled : settled.Reachable := hreached.meanwhile after.files log pool
  have hidle : Idle settled settled.refreshChanged.1 settled.refreshChanged.2 :=
    hsettled.refresh_idle hsettings (files_of_env henv) hcurrent hknown
  refine ⟨hidle, ?_⟩
  have hagain := settled.exported_refreshIf fun u => u.fileChanged settled.files
  calc settled.refreshChanged.1.exported
      = settled.refreshChanged.1.table.shown settled.language := hagain
    _ = after.table.shown h.language := by rw [hidle.table, ← language_of_env henv]
    _ = settled.exported := hexported.symm

end Host

namespace HostWitness

/-- A host that looks only where a plugin is. -/
def tidy : Host :=
  .create { settings with directories := [⟨"plugins"⟩] } ⟨"en", []⟩ librarian shelf
    (.create 1 .spawn .none)

theorem tidy_settles : tidy.Reachable ∧ tidy.refreshChanged.1.table.ids = ["core"] ∧
    Batch.Idle tidy.refreshChanged.1 tidy.refreshChanged.1.refreshChanged.1
      tidy.refreshChanged.1.refreshChanged.2 := by
  have hreach : tidy.Reachable := .create _ _ _ _ _
  have hran : (tidy.refreshChanged.1.table.ids, tidy.refreshChanged.2.setbacks) = (["core"], []) := by
    decide +kernel
  obtain ⟨hids, hnone⟩ := Prod.mk.inj hran
  rw [BatchResult.setbacks, List.append_eq_nil_iff, List.append_eq_nil_iff] at hnone
  obtain ⟨⟨hloaded, hreloaded⟩, hchecked⟩ := hnone
  have hsettles := hreach.refresh_settles hloaded hreloaded hchecked
    tidy.refreshChanged.1.trace.log tidy.refreshChanged.1.pool
  exact ⟨hreach, hids, hsettles.1⟩

end HostWitness

end PluginHost
