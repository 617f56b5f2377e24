import PluginHost.Proofs.Host.Phases

/-!
What a whole batch makes of the tracked units. The dependency check erases the
units it failed and lists those it passed; then the new ones among these
become ready. Nothing after that touches a unit that is tracked.
-/
namespace PluginHost

/-! ### Becoming ready -/

/-- A unit after it was welcomed. -/
def PluginUnit.welcomed (u : PluginUnit) : PluginUnit :=
  if u.state = .loaded then u.readied else u

theorem PluginUnit.welcomed_welcomed (u : PluginUnit) : u.welcomed.welcomed = u.welcomed := by
  by_cases h : u.state = .loaded
  · simp [welcomed, h]
  · simp [welcomed, h]

@[simp] theorem PluginUnit.metadata_welcomed (u : PluginUnit) :
    u.welcomed.metadata = u.metadata := by
  unfold welcomed
  split <;> rfl

@[simp] theorem PluginUnit.path_welcomed (u : PluginUnit) : u.welcomed.path = u.path := by
  unfold welcomed
  split <;> rfl

theorem PluginUnit.Live.ready_welcomed {u : PluginUnit} (h : u.Live) :
    u.welcomed.state = .ready := by
  unfold welcomed
  split
  · rfl
  · next hstate => exact h.running.resolve_left hstate

/-- The table after the unit under an id was welcomed, if it is new. -/
def UnitTable.welcome (fresh : List String) (t : UnitTable) (id : String) : UnitTable :=
  match t.unit? id with
  | some u => if id ∈ fresh ∧ u.state = .loaded then t.update id u.readied else t
  | none => t

namespace UnitTable

variable {t : UnitTable} {fresh : List String} {id other : String}

theorem shifts_welcome (t : UnitTable) (fresh : List String) (id : String) :
    Shifts (t, fresh) (t.welcome fresh id, fresh) := by
  unfold welcome
  split
  · next u htracked =>
      split
      · next hnew => exact (Shift.welcome htracked hnew.2).shifts
      · exact .refl _
  · exact .refl _

theorem shifts_foldl_welcome (t : UnitTable) (fresh order : List String) :
    Shifts (t, fresh) (order.foldl (welcome fresh) t, fresh) := by
  induction order generalizing t with
  | nil => exact .refl _
  | cons id rest ih => exact (shifts_welcome t fresh id).trans (ih _)

theorem unit?_welcome : (t.welcome fresh id).unit? other =
    if other = id ∧ id ∈ fresh then (t.unit? other).map PluginUnit.welcomed else t.unit? other := by
  unfold welcome
  split
  · next u htracked =>
      by_cases hother : other = id
      · subst hother
        by_cases hnew : other ∈ fresh <;> by_cases hstate : u.state = .loaded <;>
          simp [hnew, hstate, unit?_update, htracked, PluginUnit.welcomed]
      · split <;> simp [hother, unit?_update]
  · next hnone =>
      split
      · next hnew => simp [hnew.1, hnone]
      · rfl

theorem unit?_foldl_welcome (t : UnitTable) (fresh order : List String) (id : String) :
    (order.foldl (welcome fresh) t).unit? id =
      if id ∈ order ∧ id ∈ fresh then (t.unit? id).map PluginUnit.welcomed else t.unit? id := by
  induction order generalizing t with
  | nil => simp
  | cons first rest ih =>
      rw [List.foldl_cons, ih, unit?_welcome]
      by_cases hnew : id ∈ fresh
      · by_cases hfirst : id = first
        · subst hfirst
          simp only [hnew, and_true, if_true, List.mem_cons, true_or, Option.map_map]
          have hagain : PluginUnit.welcomed ∘ PluginUnit.welcomed = PluginUnit.welcomed :=
            funext PluginUnit.welcomed_welcomed
          rw [hagain, ite_self]
        · simp [hfirst]
      · have hother : ¬(id = first ∧ first ∈ fresh) := fun h => hnew (h.1 ▸ h.2)
        simp [hnew, hother]

theorem ids_welcome (fresh : List String) (t : UnitTable) (id : String) :
    (t.welcome fresh id).ids = t.ids := by
  unfold welcome
  split
  · split
    · exact ids_update
    · rfl
  · rfl

/-- What becoming ready does not change of units, welcoming does not change of a table. -/
theorem map_units_welcome_perm {α : Type} {f : PluginUnit → α} (same : ∀ u, f u.readied = f u)
    (distinct : t.ids.Nodup) (fresh : List String) (id : String) :
    ((t.welcome fresh id).units.map f).Perm (t.units.map f) := by
  unfold welcome
  split
  · next u htracked =>
      split
      · have hsplit := (units_perm distinct htracked).map f
        have hback := (units_update_perm distinct htracked u.readied).map f
        rw [List.map_cons, same] at hback
        exact hback.trans hsplit.symm
      · exact .refl _
  · exact .refl _

theorem map_units_foldl_welcome_perm {α : Type} {f : PluginUnit → α}
    (same : ∀ u, f u.readied = f u) (distinct : t.ids.Nodup) (fresh order : List String) :
    ((order.foldl (welcome fresh) t).units.map f).Perm (t.units.map f) := by
  induction order generalizing t with
  | nil => exact .refl _
  | cons id rest ih =>
      have hids : (t.welcome fresh id).ids.Nodup := by
        rw [ids_welcome]
        exact distinct
      exact (ih hids).trans (map_units_welcome_perm same distinct fresh id)

end UnitTable

/-- A change of a host that touches neither its settings nor its units and asks nothing of the
loader. -/
structure Host.Quiet (h after : Host) : Prop where
  settings : after.settings = h.settings
  table : after.table = h.table
  calls : after.trace.calls = h.trace.calls

theorem Host.Quiet.trans {h after last : Host} (hfirst : h.Quiet after) (hlast : after.Quiet last) :
    h.Quiet last :=
  ⟨hlast.settings.trans hfirst.settings, hlast.table.trans hfirst.table,
    hlast.calls.trans hfirst.calls⟩

namespace Batch

variable {b : Batch} {id : String}

/-! ### The dependency check -/

theorem unit?_validateOne_error (b : Batch) (id other : String) (cause : Dependency.Failure) :
    (b.validateOne (id, .error cause)).host.table.unit? other =
      if other = id then none else b.host.table.unit? other := by
  cases htracked : b.host.table.unit? id with
  | none =>
      rw [validateOne_untracked htracked]
      by_cases hother : other = id
      · simp [hother, htracked]
      · simp [hother]
  | some u =>
      simp only [validateOne, htracked]
      exact unit?_depart _ id other

theorem validateOne_error_keeps (b : Batch) (id : String) (cause : Dependency.Failure) :
    (b.validateOne (id, .error cause)).fresh = b.fresh ∧
      (b.validateOne (id, .error cause)).result.load = b.result.load ∧
      (b.validateOne (id, .error cause)).result.reload = b.result.reload := by
  cases htracked : b.host.table.unit? id with
  | none =>
      rw [validateOne_untracked htracked]
      exact ⟨rfl, rfl, rfl⟩
  | some u =>
      obtain ⟨gone, calls, result, log, _, hgone⟩ := validateOne_error htracked cause
      rw [hgone]
      exact ⟨rfl, rfl, rfl⟩

/-- A batch after some units failed the check. -/
def expelling (b : Batch) (failures : List (String × Dependency.Failure)) : Batch :=
  failures.foldl (fun b f => b.validateOne (f.1, .error f.2)) b

theorem expelling_transitions (b : Batch) (failures : List (String × Dependency.Failure)) :
    Transitions b (b.expelling failures) := by
  induction failures generalizing b with
  | nil => exact .refl b
  | cons f rest ih => exact (b.validateOne_error_transitions f.1 f.2).trans (ih _)

theorem expelling_keeps (b : Batch) (failures : List (String × Dependency.Failure)) :
    (b.expelling failures).fresh = b.fresh ∧
      (b.expelling failures).result.load = b.result.load ∧
      (b.expelling failures).result.reload = b.result.reload := by
  induction failures generalizing b with
  | nil => exact ⟨rfl, rfl, rfl⟩
  | cons f rest ih =>
      obtain ⟨hfresh, hload, hreload⟩ := b.validateOne_error_keeps f.1 f.2
      have hrest := ih (b.validateOne (f.1, .error f.2))
      exact ⟨hrest.1.trans hfresh, hrest.2.1.trans hload, hrest.2.2.trans hreload⟩

theorem unit?_expelling (b : Batch) (failures : List (String × Dependency.Failure)) (id : String) :
    (b.expelling failures).host.table.unit? id =
      if id ∈ failures.map Prod.fst then none else b.host.table.unit? id := by
  induction failures generalizing b with
  | nil => simp [expelling]
  | cons f rest ih =>
      have hcons : b.expelling (f :: rest) = (b.validateOne (f.1, .error f.2)).expelling rest := rfl
      rw [hcons, ih, unit?_validateOne_error, List.map_cons]
      by_cases hid : id = f.1
      · simp only [hid, List.mem_cons, true_or, if_true, ite_self]
      · simp only [hid, List.mem_cons, false_or, if_false]

/-- Units that failed the check go in the order of the failures, and each gives back what it
holds. -/
theorem expelling_gone (hconsistent : b.host.table.Consistent)
    (failures : List (String × Dependency.Failure)) (distinct : (failures.map Prod.fst).Nodup) :
    let units := failures.filterMap fun f => b.host.table.unit? f.1
    (b.expelling failures).departed = b.departed ++ units.map PluginUnit.leaving ∧
      ∃ calls, (b.expelling failures).host.trace.calls = b.host.trace.calls ++ calls ∧
        List.Forall₂ (fun u call => ∃ result, call = .unload u.subUnits result) units calls := by
  induction failures generalizing b with
  | nil => exact ⟨by simp [expelling], [], by simp [expelling], .nil⟩
  | cons f rest ih =>
      obtain ⟨hfirst, hrest⟩ := List.nodup_cons.mp distinct
      have hcons : b.expelling (f :: rest) = (b.validateOne (f.1, .error f.2)).expelling rest := rfl
      have hsame : rest.filterMap (fun g => (b.validateOne (f.1, .error f.2)).host.table.unit? g.1) =
          rest.filterMap fun g => b.host.table.unit? g.1 := by
        apply List.filterMap_congr
        intro g hg
        have hother : g.1 ≠ f.1 := fun heq => hfirst (heq ▸ List.mem_map.mpr ⟨g, hg, rfl⟩)
        rw [unit?_validateOne_error, if_neg hother]
      have hafter := (b.validateOne_error_transitions f.1 f.2).consistent hconsistent
      obtain ⟨hdeparted, calls, hcalls, hgiven⟩ := ih hafter hrest
      rw [hsame] at hdeparted hgiven
      cases htracked : b.host.table.unit? f.1 with
      | none =>
          rw [validateOne_untracked htracked] at hcons hdeparted hcalls
          have hunits : (f :: rest).filterMap (fun g => b.host.table.unit? g.1) =
            rest.filterMap fun g => b.host.table.unit? g.1 := List.filterMap_cons_none htracked
          dsimp only
          rw [hcons, hunits]
          exact ⟨hdeparted, calls, hcalls, hgiven⟩
      | some u =>
          obtain ⟨gone, given, result, log, hleaves, hgone⟩ := validateOne_error htracked f.2
          obtain ⟨rfl, rfl⟩ := (hconsistent.unit_live htracked).leaves hleaves
          rw [hgone] at hcons hdeparted hcalls
          have hunits : (f :: rest).filterMap (fun g => b.host.table.unit? g.1) =
            u :: rest.filterMap fun g => b.host.table.unit? g.1 := List.filterMap_cons_some htracked
          dsimp only
          rw [hcons, hunits]
          refine ⟨?_, .unload u.subUnits result :: calls, ?_, .cons ⟨result, rfl⟩ hgiven⟩
          · rw [hdeparted]
            exact List.append_assoc _ _ _
          · rw [hcalls]
            exact List.append_assoc _ _ _

/-- A batch once some plugins passed the check; those that are not tracked are passed over. -/
def passing (b : Batch) (ids : List String) : Batch :=
  { b with
    result := { b.result with dependencyCheck := { b.result.dependencyCheck with
      succeeded := b.result.dependencyCheck.succeeded ++
        ids.filterMap fun id => (b.host.table.unit? id).map PluginUnit.target } }
    order := b.order ++ ids.filter b.host.table.containsId }

theorem validateOne_ok (b : Batch) (id : String) :
    b.validateOne (id, .ok ()) = b.passing [id] := by
  cases htracked : b.host.table.unit? id with
  | none => simp [validateOne_untracked htracked, passing, UnitTable.containsId, htracked]
  | some u =>
      simp [validateOne, passing, UnitTable.containsId, htracked, noteCheck, PhaseResult.note]

theorem foldl_validateOne_passed (b : Batch) (passed : List String) :
    passed.foldl (fun b id => b.validateOne (id, .ok ())) b = b.passing passed := by
  induction passed generalizing b with
  | nil => simp [passing]
  | cons id rest ih =>
      have hsplit : id :: rest = [id] ++ rest := rfl
      rw [List.foldl_cons, validateOne_ok, ih, hsplit]
      simp only [passing, List.filter_append, List.filterMap_append, List.append_assoc]

/-- A batch after all units went that failed the check. -/
def purged (b : Batch) : Batch :=
  { b with host := b.host.write (b.host.graph.walk.log b.host.settings.debug) }.expelling
    b.host.graph.walk.failures

theorem purged_transitions (b : Batch) : Transitions b b.purged := by
  have hlogged : Transitions b
      { b with host := b.host.write (b.host.graph.walk.log b.host.settings.debug) } :=
    (Transition.record _).transitions
  exact hlogged.trans (expelling_transitions _ _)

theorem purged_keeps (b : Batch) :
    b.purged.fresh = b.fresh ∧ b.purged.result.load = b.result.load ∧
      b.purged.result.reload = b.result.reload :=
  expelling_keeps _ _

theorem unit?_purged (b : Batch) (id : String) : b.purged.host.table.unit? id =
    if id ∈ b.host.graph.walk.failures.map Prod.fst then none else b.host.table.unit? id :=
  unit?_expelling _ _ id

/-- The check makes those go that failed it, and lists the others. -/
theorem validate_eq (b : Batch) : ∃ log, validate b =
    { b.purged.passing b.host.graph.walk.order with
      host := { b.purged.host with trace := { b.purged.host.trace with log } } } := by
  have hresults : b.host.graph.walk.results = b.host.graph.walk.failures.map
      (fun f => (f.1, .error f.2)) ++ b.host.graph.walk.order.map (·, .ok ()) := rfl
  unfold validate
  simp only [hresults, List.foldl_append, List.foldl_map, foldl_validateOne_passed]
  split
  · exact ⟨_, rfl⟩
  · exact ⟨b.purged.host.trace.log, rfl⟩

/-- The check has no part in what was loaded, or loaded again. -/
theorem loads_validate (b : Batch) : (validate b).result.load = b.result.load ∧
    (validate b).result.reload = b.result.reload := by
  obtain ⟨log, hafter⟩ := b.validate_eq
  rw [hafter]
  exact b.purged_keeps.2

/-- What the dependency check made of a batch. -/
structure Validated (b after : Batch) : Prop where
  settings : after.host.settings = b.host.settings
  fresh : after.fresh = b.fresh
  shifts : Shifts b.tracked after.tracked
  unit?_eq : ∀ id, after.host.table.unit? id =
    if id ∈ b.host.graph.walk.failures.map Prod.fst then none else b.host.table.unit? id
  order : after.order = b.order ++ b.host.graph.walk.order.filter after.host.table.containsId

theorem Validated.consistent {after : Batch} (h : b.Validated after)
    (hconsistent : b.host.table.Consistent) : after.host.table.Consistent := by
  have hafter := h.shifts.consistent (a := b.tracked) hconsistent
  exact hafter

theorem validate_validated (b : Batch) : b.Validated (validate b) := by
  obtain ⟨log, hafter⟩ := b.validate_eq
  rw [hafter]
  have hadvance := b.purged_transitions.advances
  exact ⟨hadvance.settings, b.purged_keeps.1, hadvance.shifts, b.unit?_purged,
    congrArg (· ++ _) hadvance.order⟩

/-! ### Notification -/

theorem announce_quiet (h : Host) (u : PluginUnit) (event : Event) :
    h.Quiet (announce h u event) := by
  unfold announce
  dsimp only
  split <;> exact ⟨rfl, rfl, rfl⟩

theorem welcome_keeps (fresh : List String) (h : Host) (id : String) :
    (welcome fresh h id).settings = h.settings ∧
      (welcome fresh h id).trace.calls = h.trace.calls := by
  unfold welcome
  split
  · exact ⟨rfl, rfl⟩
  · split
    · exact ⟨rfl, rfl⟩
    · split
      · split
        · exact ⟨rfl, rfl⟩
        · exact ⟨(announce_quiet _ _ _).settings, (announce_quiet _ _ _).calls⟩
      · exact ⟨(announce_quiet _ _ _).settings, (announce_quiet _ _ _).calls⟩

theorem table_welcome (fresh : List String) (h : Host) (id : String) :
    (welcome fresh h id).table = h.table.welcome fresh id := by
  unfold welcome UnitTable.welcome
  cases htracked : h.table.unit? id with
  | none => split <;> rfl
  | some u =>
      by_cases hnew : id ∈ fresh
      · by_cases hstate : u.state = .loaded
        · simp only [List.contains_iff_mem.mpr hnew, hnew, hstate, and_self, if_true,
            Bool.not_true, Bool.false_eq_true, if_false, PluginUnit.ready_of_loaded hstate]
          exact (announce_quiet _ _ _).table
        · simp only [List.contains_iff_mem.mpr hnew, hnew, hstate, and_false, if_false,
            Bool.not_true, Bool.false_eq_true]
          exact (announce_quiet _ _ _).table
      · simp [hnew]

theorem foldl_welcome (fresh order : List String) (h : Host) :
    (order.foldl (welcome fresh) h).settings = h.settings ∧
      (order.foldl (welcome fresh) h).trace.calls = h.trace.calls ∧
      (order.foldl (welcome fresh) h).table = order.foldl (UnitTable.welcome fresh) h.table := by
  induction order generalizing h with
  | nil => exact ⟨rfl, rfl, rfl⟩
  | cons id rest ih =>
      obtain ⟨hsettings, hcalls, htable⟩ := ih (welcome fresh h id)
      obtain ⟨hsettings', hcalls'⟩ := welcome_keeps fresh h id
      rw [List.foldl_cons, List.foldl_cons, ← table_welcome]
      exact ⟨hsettings.trans hsettings', hcalls.trans hcalls', htable⟩

theorem farewell_quiet (acc : Host × List PluginUnit) (u : PluginUnit) :
    acc.1.Quiet (farewell acc u).1 := by
  have hannounced := announce_quiet acc.1 u .pluginUnload
  unfold farewell
  dsimp only
  split <;> exact ⟨hannounced.settings, hannounced.table, hannounced.calls⟩

theorem foldl_farewell_quiet (departed : List PluginUnit) (acc : Host × List PluginUnit) :
    acc.1.Quiet (departed.foldl farewell acc).1 := by
  induction departed generalizing acc with
  | nil => exact ⟨rfl, rfl, rfl⟩
  | cons u rest ih => exact (farewell_quiet acc u).trans (ih (farewell acc u))

theorem foldl_farewell_departed (departed : List PluginUnit) (acc : Host × List PluginUnit) :
    (departed.foldl farewell acc).2 = acc.2 ++ departed.map fun u => u.remove.1 := by
  induction departed generalizing acc with
  | nil => simp
  | cons u rest ih =>
      have hfirst : (farewell acc u).2 = acc.2 ++ [u.remove.1] := by
        unfold farewell
        split
        · next heq => rw [heq]
        · next heq => rw [heq]
      rw [List.foldl_cons, ih, hfirst, List.map_cons, List.append_assoc, List.singleton_append]

/-! ### The whole batch -/

theorem notify_table (b : Batch) :
    b.notify.host.settings = b.host.settings ∧
      b.notify.host.trace.calls = b.host.trace.calls ∧
      b.notify.host.table = b.order.foldl (UnitTable.welcome b.fresh) b.host.table := by
  obtain ⟨hsettings, hcalls, htable⟩ := foldl_welcome b.fresh b.order b.host
  have hfarewell := foldl_farewell_quiet b.departed (b.order.foldl (welcome b.fresh) b.host, [])
  exact ⟨hfarewell.settings.trans hsettings, hfarewell.calls.trans hcalls,
    hfarewell.table.trans htable⟩

theorem departed_notify (b : Batch) : b.notify.departed = b.departed.map fun u => u.remove.1 :=
  foldl_farewell_departed b.departed (b.order.foldl (welcome b.fresh) b.host, [])

theorem foldl_report_eq (failures : List (String × Target)) (h : Host) : ∃ log,
    failures.foldl (fun host (phase, target) =>
      host.report .error ("Plugin " ++ target.title ++ " failed during " ++ phase)) h =
      { h with trace := { h.trace with log } } := by
  induction failures generalizing h with
  | nil => exact ⟨h.trace.log, rfl⟩
  | cons f rest ih =>
      obtain ⟨log, hlog⟩ := ih (h.report .error
        ("Plugin " ++ f.2.title ++ " failed during " ++ f.1))
      exact ⟨log, by rw [List.foldl_cons, hlog]; rfl⟩

/-- The end of a batch is to note its result and write records. -/
theorem conclude_eq (b : Batch) : ∃ log, b.conclude = { b with
    host := { b.host with last := some b.result, trace := { b.host.trace with log } } } := by
  obtain ⟨log, hlog⟩ := foldl_report_eq b.result.failures { b.host with last := some b.result }
  exact ⟨_, by rw [conclude]; dsimp only; rw [hlog]; rfl⟩

/-- A batch as its dependency check finds it. -/
def prepared (plan : Plan) (h : Host) : Batch :=
  phase refresh plan.refresh (phase discover plan.discover (phase prune plan.prune (start h)))

theorem phase_transitions {α : Type} {run : α → Batch → Batch}
    (transitions : ∀ a b, Transitions b (run a b))
    (what : Option α) (b : Batch) : Transitions b (phase run what b) := by
  cases what with
  | none => exact .refl b
  | some a => exact transitions a b

theorem prepared_transitions (plan : Plan) (h : Host) : Transitions (start h) (prepared plan h) :=
  ((phase_transitions prune_transitions plan.prune (start h)).trans
    (phase_transitions discover_transitions plan.discover _)).trans
    (phase_transitions refresh_transitions plan.refresh _)

theorem prepared_advances (plan : Plan) (h : Host) : (start h).Advances (prepared plan h) :=
  (prepared_transitions plan h).advances

theorem run_eq (plan : Plan) (h : Host) :
    run plan h = conclude { (validate (prepared plan h)).notify with
      host := exportRegistry (validate (prepared plan h)).notify.host } := rfl

theorem result_notify (b : Batch) : b.notify.result = b.result := rfl

/-- What follows the notification: the registry is exported and the result told. -/
theorem finish_eq (b : Batch) : ∃ exported exports last log,
    conclude { b with host := exportRegistry b.host } = { b with host := { b.host with
      exported, exports, last, trace := { b.host.trace with log } } } := by
  obtain ⟨log, hlog⟩ := conclude_eq { b with host := exportRegistry b.host }
  exact ⟨_, _, _, log, hlog⟩

theorem result_run (plan : Plan) (h : Host) :
    (run plan h).result = (validate (prepared plan h)).result := by
  obtain ⟨_, _, _, _, hfinish⟩ := finish_eq (validate (prepared plan h)).notify
  rw [run_eq, hfinish]
  dsimp only
  rw [result_notify]

theorem run_quiet (plan : Plan) (h : Host) :
    (validate (prepared plan h)).notify.host.Quiet (run plan h).host := by
  obtain ⟨_, _, _, _, hfinish⟩ := finish_eq (validate (prepared plan h)).notify
  rw [run_eq, hfinish]
  exact ⟨rfl, rfl, rfl⟩

theorem pool_run (plan : Plan) (h : Host) :
    (run plan h).host.pool = (validate (prepared plan h)).notify.host.pool := by
  obtain ⟨_, _, _, _, hfinish⟩ := finish_eq (validate (prepared plan h)).notify
  rw [run_eq, hfinish]

theorem calls_run (plan : Plan) (h : Host) :
    (run plan h).host.trace.calls = (validate (prepared plan h)).host.trace.calls :=
  (run_quiet plan h).calls.trans (notify_table _).2.1

theorem departed_run (plan : Plan) (h : Host) : (run plan h).departed =
    (validate (prepared plan h)).departed.map fun u => u.remove.1 := by
  obtain ⟨_, _, _, _, hfinish⟩ := finish_eq (validate (prepared plan h)).notify
  rw [run_eq, hfinish]
  dsimp only
  rw [departed_notify]

theorem settings_run (plan : Plan) (h : Host) : (run plan h).host.settings = h.settings := by
  calc (run plan h).host.settings
      = (validate (prepared plan h)).notify.host.settings := (run_quiet plan h).settings
    _ = (validate (prepared plan h)).host.settings := (notify_table (validate (prepared plan h))).1
    _ = (prepared plan h).host.settings := (validate_validated (prepared plan h)).settings
    _ = h.settings := (prepared_advances plan h).settings

/-- A unit is tracked after a batch exactly when the check found it and did not fail it; what is new
and passed was welcomed, the rest is as the check found it. -/
theorem unit?_run (plan : Plan) (h : Host) (id : String) :
    (run plan h).host.table.unit? id =
      if id ∈ (prepared plan h).host.graph.walk.failures.map Prod.fst then none
      else if id ∈ (prepared plan h).host.graph.walk.order ∧ id ∈ (prepared plan h).fresh then
        ((prepared plan h).host.table.unit? id).map PluginUnit.welcomed
      else (prepared plan h).host.table.unit? id := by
  have hchecked := validate_validated (prepared plan h)
  have horder : (validate (prepared plan h)).order = (prepared plan h).host.graph.walk.order.filter
      (validate (prepared plan h)).host.table.containsId := by
    have hnone : (prepared plan h).order = [] := (prepared_advances plan h).order
    rw [hchecked.order, hnone, List.nil_append]
  rw [(run_quiet plan h).table, (notify_table _).2.2, UnitTable.unit?_foldl_welcome, horder,
    hchecked.fresh]
  simp only [List.mem_filter, UnitTable.containsId, hchecked.unit?_eq]
  by_cases hfailed : id ∈ (prepared plan h).host.graph.walk.failures.map Prod.fst
  · simp only [hfailed, if_true, Option.map_none, ite_self]
  · simp only [hfailed, if_false]
    cases (prepared plan h).host.table.unit? id with
    | none => simp only [Option.map_none, ite_self]
    | some u => simp only [Option.isSome_some, and_true]

theorem shifts_run (plan : Plan) (h : Host) :
    Shifts (h.table, []) ((run plan h).host.table, (prepared plan h).fresh) := by
  have hprepared : Shifts (h.table, []) (prepared plan h).tracked :=
    (prepared_advances plan h).shifts
  have hchecked := validate_validated (prepared plan h)
  have hwelcome := UnitTable.shifts_foldl_welcome (validate (prepared plan h)).host.table
    (validate (prepared plan h)).fresh (validate (prepared plan h)).order
  rw [(run_quiet plan h).table, (notify_table _).2.2, ← hchecked.fresh]
  exact (hprepared.trans hchecked.shifts).trans hwelcome

theorem consistent_run (plan : Plan) {h : Host} (hconsistent : h.table.Consistent) :
    (run plan h).host.table.Consistent := by
  have hafter := (shifts_run plan h).consistent hconsistent
  dsimp only at hafter
  exact hafter

theorem sorted_run (plan : Plan) {h : Host} (hsorted : h.table.Sorted) :
    (run plan h).host.table.Sorted := by
  have hafter := (shifts_run plan h).sorted hsorted
  dsimp only at hafter
  exact hafter

end Batch

end PluginHost
