import PluginHost.Proofs.Host.Removal
import PluginHost.Proofs.Plugin.Accounts

/-!
Where sub-units are. Whatever the loader handed out is with a tracked unit, or
it went back, and it goes back once: nothing is given back that is not out.
What a unit holds is what the latest load of its file handed out. Once all
units are unloaded nothing is left to give back.
-/
namespace PluginHost

namespace Custody

variable {calls : List LoaderCall} {held rest : List SubUnit} {path : Path}

/-! ### The latest load of a file -/

/-- What a call brought for a file, if it is a load of it that went well. -/
def loadOf? (path : Path) : LoaderCall → Option LoadedCode
  | .load other (.ok loaded) => if other.same path then some loaded else none
  | _ => none

/-- What the latest load of a file that went well brought. -/
def latest? (calls : List LoaderCall) (path : Path) : Option LoadedCode :=
  (calls.filterMap (loadOf? path)).getLast?

/-- Calls among which no other file than one is loaded. -/
def OnlyLoads (path : Path) (piece : List LoaderCall) : Prop :=
  ∀ other : Path, other.steps ≠ path.steps → piece.filterMap (loadOf? other) = []

theorem loadOf?_other {other : Path} (h : other.steps ≠ path.steps)
    (result : Except PluginError LoadedCode) : loadOf? other (.load path result) = none := by
  have hnot : path.same other = false := by
    simpa [Path.same] using fun heq : path.steps = other.steps => h heq.symm
  cases result with
  | error cause => rfl
  | ok loaded => simp [loadOf?, hnot]

theorem OnlyLoads.load (path : Path) (result : Except PluginError LoadedCode) :
    OnlyLoads path [.load path result] := by
  intro other hother
  simp [loadOf?_other hother]

theorem OnlyLoads.unload (path : Path) (back : List SubUnit) (result : Except PluginError Unit)
    {piece : List LoaderCall} (h : OnlyLoads path piece) :
    OnlyLoads path (.unload back result :: piece) := by
  intro other hother
  rw [List.filterMap_cons_none rfl]
  exact h other hother

theorem OnlyLoads.append {before behind : List LoaderCall} (hbefore : OnlyLoads path before)
    (hbehind : OnlyLoads path behind) : OnlyLoads path (before ++ behind) := by
  intro other hother
  rw [List.filterMap_append, hbefore other hother, hbehind other hother, List.append_nil]

theorem only_nil (path : Path) : OnlyLoads path [] := fun _ _ => rfl

theorem OnlyLoads.of_failedLoad {piece : List LoaderCall} (failedLoad : FailedLoad path piece) :
    OnlyLoads path piece := by
  cases failedLoad with
  | refused cause => exact .load path _
  | returned loaded result => exact (OnlyLoads.load path _).append (.unload _ _ _ (only_nil path))

theorem OnlyLoads.of_failedReload {u : PluginUnit} {piece : List LoaderCall}
    (failedReload : u.FailedReload piece) :
    OnlyLoads u.path piece := by
  cases failedReload with
  | stuck cause => exact .unload _ _ _ (only_nil _)
  | failedLoad failedLoad => exact .unload _ _ _ (.of_failedLoad failedLoad)

theorem OnlyLoads.again (u : PluginUnit) (loaded : LoadedCode) :
    OnlyLoads u.path (u.again loaded) :=
  .unload _ _ _ (.load _ _)

theorem latest?_append_only {piece : List LoaderCall} (only : OnlyLoads path piece) {other : Path}
    (h : other.steps ≠ path.steps) : latest? (calls ++ piece) other = latest? calls other := by
  simp [latest?, only other h]

theorem latest?_unload (calls : List LoaderCall) (back : List SubUnit)
    (result : Except PluginError Unit) (path : Path) :
    latest? (calls ++ [.unload back result]) path = latest? calls path := by
  simp [latest?, loadOf?]

theorem latest?_load (calls : List LoaderCall) (path : Path) (loaded : LoadedCode) :
    latest? (calls ++ [.load path (.ok loaded)]) path = some loaded := by
  simp [latest?, loadOf?, Path.same]

/-! ### What units hold -/

/-- Units that hold all sub-units that are out, each those of the latest load of its file. -/
structure Kept (units : List PluginUnit) (calls : List LoaderCall) : Prop where
  accounted : Accounted calls (units.flatMap PluginUnit.subUnits)
  latest : ∀ u ∈ units, ∃ loaded, latest? calls u.path = some loaded ∧ u.subUnits = loaded.subUnits

namespace Kept

variable {units others : List PluginUnit} {u v : PluginUnit} {piece : List LoaderCall}

/-- Units may change in all but their files and what they hold. -/
theorem congr (h : Kept units calls) (same : (units.map fun u => (u.path, u.subUnits)).Perm
    (others.map fun u => (u.path, u.subUnits))) : Kept others calls where
  accounted := by
    have hheld := same.flatMap_right Prod.snd
    rw [List.flatMap_map, List.flatMap_map] at hheld
    exact h.accounted.perm hheld
  latest := by
    intro v hv
    obtain ⟨u, hu, heq⟩ := List.mem_map.mp (same.mem_iff.mpr (List.mem_map.mpr ⟨v, hv, rfl⟩))
    obtain ⟨hpath, hheld⟩ := Prod.mk.inj heq
    rw [← hpath, ← hheld]
    exact h.latest u hu

theorem perm (h : Kept units calls) (hperm : units.Perm others) : Kept others calls :=
  h.congr (hperm.map _)

/-- Sub-units that no unit holds go back. -/
theorem unload {back : List SubUnit}
    (accounted : Accounted calls (back ++ units.flatMap PluginUnit.subUnits))
    (latest : ∀ u ∈ units, ∃ loaded,
      latest? calls u.path = some loaded ∧ u.subUnits = loaded.subUnits)
    (result : Except PluginError Unit) : Kept units (calls ++ [.unload back result]) where
  accounted := accounted.unload result
  latest := by
    intro u hu
    rw [latest?_unload]
    exact latest u hu

theorem leave (h : Kept (u :: units) calls) (result : Except PluginError Unit) :
    Kept units (calls ++ [.unload u.subUnits result]) :=
  unload h.accounted (fun w hw => h.latest w (List.mem_cons_of_mem u hw)) result

/-- Calls for one file change nothing for units of others. -/
theorem latest_only (only : OnlyLoads path piece) (apart : ∀ w ∈ units, w.path.steps ≠ path.steps)
    (latest : ∀ w ∈ units, ∃ loaded,
      latest? calls w.path = some loaded ∧ w.subUnits = loaded.subUnits) :
    ∀ w ∈ units, ∃ loaded,
      latest? (calls ++ piece) w.path = some loaded ∧ w.subUnits = loaded.subUnits := by
  intro w hw
  rw [latest?_append_only only (apart w hw)]
  exact latest w hw

theorem failedLoad (h : Kept units calls) (apart : ∀ w ∈ units, w.path.steps ≠ path.steps)
    (failedLoad : FailedLoad path piece) : Kept units (calls ++ piece) :=
  ⟨h.accounted.failedLoad failedLoad, latest_only (.of_failedLoad failedLoad) apart h.latest⟩

theorem enter (h : Kept units calls) (apart : ∀ w ∈ units, w.path.steps ≠ u.path.steps)
    {loaded : LoadedCode} (held : u.subUnits = loaded.subUnits) :
    Kept (u :: units) (calls ++ [.load u.path (.ok loaded)]) where
  accounted := by
    rw [List.flatMap_cons, held]
    exact h.accounted.load u.path loaded
  latest := by
    intro w hw
    rcases List.mem_cons.mp hw with rfl | hold
    · exact ⟨loaded, latest?_load _ _ _, held⟩
    · exact latest_only (.load _ _) apart h.latest w hold

theorem failedReload (h : Kept (u :: units) calls)
    (apart : ∀ w ∈ units, w.path.steps ≠ u.path.steps)
    (failedReload : u.FailedReload piece) : Kept units (calls ++ piece) :=
  ⟨h.accounted.failedReload failedReload,
    latest_only (.of_failedReload failedReload) apart fun w hw =>
      h.latest w (List.mem_cons_of_mem u hw)⟩

theorem again (h : Kept (u :: units) calls) (apart : ∀ w ∈ units, w.path.steps ≠ u.path.steps)
    {loaded : LoadedCode} (back : u.Back v loaded) :
    Kept (v :: units) (calls ++ u.again loaded) where
  accounted := by
    rw [List.flatMap_cons, back.held]
    exact h.accounted.again loaded
  latest := by
    intro w hw
    rcases List.mem_cons.mp hw with rfl | hold
    · refine ⟨loaded, ?_, back.held⟩
      rw [PluginUnit.again, List.append_cons, back.path]
      exact latest?_load _ _ _
    · exact latest_only (.again u loaded) apart (fun w hw => h.latest w (List.mem_cons_of_mem u hw))
        w hold

end Kept

end Custody

namespace Batch

open Custody

variable {b after : Batch} {id : String} {u : PluginUnit}

theorem kept_refreshed (hconsistent : b.host.table.Consistent)
    (hkept : Kept b.host.table.units b.host.trace.calls) (tracked : b.host.table.unit? id = some u)
    (refreshed : b.Refreshed id u after) : Kept after.host.table.units after.host.trace.calls := by
  have hsplit := hkept.perm (UnitTable.units_perm hconsistent.distinct tracked)
  have hapart := hconsistent.apart_of_tracked tracked
  cases refreshed with
  | kept back same =>
      exact (hsplit.again hapart back).perm
        (UnitTable.units_update_perm hconsistent.distinct tracked _).symm
  | moved back free =>
      exact (hsplit.again hapart back).perm (UnitTable.units_rename_perm tracked _ free).symm
  | @failedReload calls rest gone result log failedReload leaves =>
      have hbare : u.bare.Live := (hconsistent.unit_live tracked).bare
      obtain ⟨_, rfl⟩ := hbare.leaves leaves
      have hvain := hsplit.failedReload hapart failedReload
      have hboth : Kept _ (b.host.trace.calls ++ calls ++ [.unload [] result]) :=
        .unload hvain.accounted hvain.latest result
      rw [List.append_assoc] at hboth
      exact hboth
  | @taken v w gone loaded rest result log back other taken leaves =>
      obtain ⟨_, rfl⟩ := back.live.leaves leaves
      have hboth := (hsplit.again hapart back).leave result
      rw [List.append_assoc] at hboth
      exact hboth

theorem kept_transition (hconsistent : b.host.table.Consistent)
    (hkept : Kept b.host.table.units b.host.trace.calls) (htransition : Transition b after) :
    Kept after.host.table.units after.host.trace.calls := by
  cases htransition with
  | record log => exact hkept
  | prune tracked leaves =>
      obtain ⟨_, rfl⟩ := (hconsistent.unit_live tracked).leaves leaves
      exact (hkept.perm (UnitTable.units_perm hconsistent.distinct tracked)).leave _
  | refuse free failedLoad => exact hkept.failedLoad (hconsistent.apart_of_free free) failedLoad
  | enter live state held newId newPath =>
      exact (hkept.enter (hconsistent.apart_of_free newPath) held).perm
        (UnitTable.units_insert_perm _ _ newId).symm
  | refresh tracked refreshed => exact kept_refreshed hconsistent hkept tracked refreshed
  | expel tracked leaves =>
      obtain ⟨_, rfl⟩ := (hconsistent.unit_live tracked).leaves leaves
      exact (hkept.perm (UnitTable.units_perm hconsistent.distinct tracked)).leave _

theorem kept_transitions (h : Transitions b after) (hconsistent : b.host.table.Consistent)
    (hkept : Kept b.host.table.units b.host.trace.calls) :
    Kept after.host.table.units after.host.trace.calls := by
  have hboth := h.keep
    (P := fun b => b.host.table.Consistent ∧ Kept b.host.table.units b.host.trace.calls)
    (fun htransition hb => ⟨htransition.transitions.consistent hb.1,
      kept_transition hb.1 hb.2 htransition⟩)
    ⟨hconsistent, hkept⟩
  exact hboth.2

theorem kept_run {h : Host} (plan : Plan) (hconsistent : h.table.Consistent)
    (hkept : Kept h.table.units h.trace.calls) :
    Kept (run plan h).host.table.units (run plan h).host.trace.calls := by
  have hprepared : Kept (prepared plan h).host.table.units (prepared plan h).host.trace.calls :=
    kept_transitions (prepared_transitions plan h) hconsistent hkept
  obtain ⟨log, hchecked⟩ := (prepared plan h).validate_eq
  have hpurge := (prepared plan h).purged_transitions
  have hconsistent' : (prepared plan h).purged.host.table.Consistent :=
    hpurge.consistent (consistent_prepared hconsistent)
  have hpurged := kept_transitions hpurge (consistent_prepared hconsistent) hprepared
  rw [(run_quiet plan h).table, calls_run, (notify_table _).2.2, hchecked]
  exact hpurged.congr
    (UnitTable.map_units_foldl_welcome_perm (fun _ => rfl) hconsistent'.distinct _ _).symm

end Batch

namespace Host

open Custody

theorem Reachable.kept {h : Host} (hreach : h.Reachable) : Kept h.table.units h.trace.calls := by
  have hboth := hreach.induct_calls
    (P := fun _ t calls => t.Consistent ∧ Kept t.units calls)
    (fun _ => ⟨.empty, .empty, by simp [UnitTable.units, UnitTable.empty]⟩)
    fun h plan hbefore => ⟨Batch.consistent_run plan hbefore.1,
      Batch.kept_run plan hbefore.1 hbefore.2⟩
  exact hboth.2

/-- In every run, whatever files, the loader and the code of plugins do, the sub-units that were
handed out and did not go back yet are those the tracked units hold, and at no time more went back
than was out. Each tracked unit holds what the latest load of its file handed out. Once everything
is unloaded, nothing is tracked and all that was ever handed out went back. -/
theorem Reachable.custody {h : Host} (hreach : h.Reachable) :
    Accounted h.trace.calls (h.table.units.flatMap PluginUnit.subUnits) ∧
      (∀ u ∈ h.table.units, ∃ loaded,
        latest? h.trace.calls u.path = some loaded ∧ u.subUnits = loaded.subUnits) ∧
      h.unloadAll.1.table.units = [] ∧
      (handedOut h.unloadAll.1.trace.calls).Perm (handedBack h.unloadAll.1.trace.calls) := by
  have hkept := hreach.kept
  have hnone := units_unloadAll hreach.consistent
  have hlast : h.unloadAll.1.Reachable := hreach.perform .unloadAll
  have hbalance := hlast.kept.accounted.balance
  rw [hnone, List.flatMap_nil, List.append_nil] at hbalance
  exact ⟨hkept.accounted, hkept.latest, hnone, hbalance⟩

end Host

namespace HostWitness

/-- A loader that hands out one sub-unit for each file: a plugin, one that needs it and whose
sub-unit is stuck, one under a taken id, and one that panics. -/
def lender : Loader where
  load history _ path :=
    let brought (code : PluginCode) (fault : Option String) : Except PluginError LoadedCode :=
      .ok ⟨code, [⟨path.text, history.length, fault⟩]⟩
    match path.text with
    | "core.mcdr" => brought (code "core" "1.2.0" []) none
    | "chat.mcdr" => brought (code "chat" "1.0.0" [("core", .text ">=1")]) (some "in use")
    | "twin.mcdr" => brought (code "core" "2.0.0" []) none
    | "rash.mcdr" => brought { code "rash" "1.0.0" [] with metadata := .error ⟨some "no"⟩ } none
    | other => .error (.load ⟨other⟩ "there is nothing")
  unload _ subUnits :=
    match subUnits.findSome? SubUnit.fault with
    | some fault => .error (.unload "" fault)
    | none => .ok ()
  unloadLog _ := []

/-- The host after four loads, of which two came to nothing, and a reload that one of the two
plugins did not survive. -/
def lending : Host :=
  [.load ⟨"core.mcdr"⟩, .load ⟨"chat.mcdr"⟩, .load ⟨"twin.mcdr"⟩, .load ⟨"rash.mcdr"⟩,
    .reload "core"].foldl Host.perform
    (.create settings ⟨"en", []⟩ lender .empty (.create 1 .spawn .none))

theorem lending_custody : lending.Reachable ∧
    (Custody.handedOut lending.trace.calls).map SubUnit.load = [0, 1, 2, 4, 7] ∧
    (lending.table.units.flatMap PluginUnit.subUnits).map SubUnit.load = [7] ∧
    Custody.Accounted lending.trace.calls (lending.table.units.flatMap PluginUnit.subUnits) ∧
    lending.unloadAll.1.table.units = [] := by
  have hreach : lending.Reachable := (Host.Reachable.create _ _ _ _ _).foldl _
  have hout : (Custody.handedOut lending.trace.calls).map SubUnit.load = [0, 1, 2, 4, 7] := by
    decide +kernel
  have hheld : (lending.table.units.flatMap PluginUnit.subUnits).map SubUnit.load = [7] := by
    decide +kernel
  obtain ⟨haccounted, _, hnone, _⟩ := hreach.custody
  exact ⟨hreach, hout, hheld, haccounted, hnone⟩

end HostWitness

end PluginHost
