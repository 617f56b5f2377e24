import PluginHost.Proofs.Host.Attempts
import PluginHost.Proofs.Host.Cone
import PluginHost.Proofs.Host.Notices

/-!
What loading a unit again can touch: the unit and those that need it, directly
or through others, each of which is attempted once, behind what it needs.
Whatever the loader answers, all other units stay as they are, the loader is
not called for them, and none of their listeners is submitted to the pool.
-/
namespace PluginHost

open Batch Dependency

namespace Host

/-- What is to be done to load a unit again. -/
def reloadPlan (id : String) : Plan := { Plan.none with refresh := some fun u => u.id = id }

variable {h : Host} {id other : String} {u v : PluginUnit}

/-- Some units that are to be loaded again: the cone of one, with dependencies first. -/
structure ConeInOrder (h : Host) (id : String) (attempted : List String) : Prop where
  distinct : attempted.Nodup
  members : ∀ other, other ∈ attempted ↔ h.Cone id other
  ordered : attempted.Pairwise fun a b =>
    ¬ Relation.TransGen (h.table.Depends h.settings.identity) a b

theorem Reachable.coneInOrder (hreach : h.Reachable)
    (foreign : h.settings.identity.id ∉ h.table.ids)
    (tracked : (h.table.unit? id).isSome) {selected : List String}
    (hselected : ∀ s, s ∈ selected ↔ s = id) :
    h.ConeInOrder id (h.graph.walk.affected selected) where
  distinct := Walk.nodup_affected (distinct_graph hreach.consistent)
  members := fun _ => mem_affected_iff hreach.consistent foreign hselected tracked
  ordered := hreach.pairwise_affected foreign selected

/-- The unit that is chosen to be loaded again. -/
def chosen (h : Host) (id : String) : List String :=
  (h.select fun u => reloadable u && u.id = id).filter fun i => !(Batch.start h).fresh.contains i

theorem mem_chosen_iff (hconsistent : h.table.Consistent) (tracked : (h.table.unit? id).isSome) :
    other ∈ h.chosen id ↔ other = id := by
  have hnone : (Batch.start h).fresh = [] := rfl
  rw [chosen, List.mem_filter, mem_select_iff hconsistent.distinct, hnone]
  constructor
  · rintro ⟨⟨u, hu, hcondition⟩, _⟩
    have hid : u.id = other := hconsistent.id_eq hu
    simp only [Bool.and_eq_true, decide_eq_true_eq] at hcondition
    exact hid.symm.trans hcondition.2
  · rintro rfl
    obtain ⟨u, hu⟩ := Option.isSome_iff_exists.mp tracked
    have hid : u.id = other := hconsistent.id_eq hu
    have hrunning := (hconsistent.unit_live hu).running
    exact ⟨⟨u, hu, by simpa [reloadable, hid] using hrunning⟩, rfl⟩

theorem prepared_reloadPlan (h : Host) (id : String) : prepared (reloadPlan id) h =
    ((Batch.start h).associated (h.chosen id) "reload").2.foldl refreshOne
      ((Batch.start h).associated (h.chosen id) "reload").1 := rfl

theorem Reachable.redoing (hreach : h.Reachable) (foreign : h.settings.identity.id ∉ h.table.ids)
    (tracked : (h.table.unit? id).isSome) : ∃ attempted pieces,
      h.ConeInOrder id attempted ∧ Redoing h attempted pieces (prepared (reloadPlan id) h) := by
  have hchosen : ∀ s, s ∈ h.chosen id ↔ s = id := fun s => mem_chosen_iff hreach.consistent tracked
  have hordered := hreach.coneInOrder foreign tracked hchosen
  have hlist : ((Batch.start h).associated (h.chosen id) "reload").2 =
      h.graph.walk.affected (h.chosen id) := by
    rw [associated_snd, if_neg (List.ne_nil_of_mem ((hchosen id).mpr rfl))]
    rfl
  obtain ⟨log, hlog⟩ := (Batch.start h).associated_fst (h.chosen id) "reload"
  have hdistinct : ([] ++ h.graph.walk.affected (h.chosen id)).Nodup := hordered.distinct
  obtain ⟨pieces, hall⟩ := ((Redoing.start h).record log).foldl hreach.consistent hdistinct
    fun i hi => ((hordered.members i).mp hi).1
  rw [prepared_reloadPlan, hlist, hlog]
  exact ⟨_, pieces, hordered, hall⟩

/-! ### Outside -/

section

variable {attempted : List String} {pieces : List (List LoaderCall)} {b : Batch}

theorem Reachable.runs_outside (hreach : h.Reachable)
    (foreign : h.settings.identity.id ∉ h.table.ids) (hordered : h.ConeInOrder id attempted)
    (hb : Redoing h attempted pieces b) (host : b.host.graph.host = h.graph.host)
    (tracked : (h.table.unit? other).isSome) (outside : ¬ h.Cone id other) :
    b.host.graph.Runs other := by
  refine hreach.runs_apart foreign host (fun i => ¬ h.Cone id i) ?_ ?_ tracked outside
  · intro i u hu hout
    exact hb.others i u hu (mt (hordered.members i).mp hout)
  · -- What a unit outside the cone needs is outside too: otherwise that unit would be in the cone.
    rintro a c hdepends hout ⟨_, hreaches⟩
    exact hout ⟨hdepends.tracked, .head hdepends hreaches⟩

end

end Host

/-! ### The dependency check -/

namespace Batch

/-- A batch in which all units that were not attempted still run. -/
def OthersRun (h : Host) (attempted : List String) (b : Batch) : Prop :=
  ∀ id u, h.table.unit? id = some u → id ∉ attempted → b.host.graph.Runs id

namespace Redoing

section

variable {h : Host} {b : Batch} {attempted : List String} {pieces : List (List LoaderCall)}
  {id : String} {w : PluginUnit}
  (hb : Redoing h attempted pieces b) (hconsistent : b.host.table.Consistent)
  (othersRun : OthersRun h attempted b)
include hb hconsistent othersRun

theorem redone_of_failed (failed : id ∈ b.host.graph.walk.failures.map Prod.fst)
    (tracked : b.host.table.unit? id = some w) : Redone h attempted pieces.flatten w := by
  have hdistinct : b.host.graph.ids.Nodup := Host.distinct_graph hconsistent
  rcases hb.origin id w tracked with ⟨hstart, hout⟩ | hredone
  · have hstuck := ((Walk.walk_sound hdistinct).mem_failures_iff.mp failed).2.2
    exact absurd (othersRun id w hstart hout) hstuck
  · exact hredone

/-- What the check makes go came back in this batch, and gives back what the load handed out. -/
theorem purged : ∃ rest,
    b.purged.host.trace.calls = h.trace.calls ++ pieces.flatten ++ rest ∧
      (∀ call ∈ rest, ∃ id ∈ attempted, ∃ u loaded result, h.table.unit? id = some u ∧
        .load u.path (.ok loaded) ∈ pieces.flatten ∧ call = .unload loaded.subUnits result) ∧
      ∀ w ∈ b.purged.departed, SameFile h attempted w := by
  have hdistinct : b.host.graph.ids.Nodup := Host.distinct_graph hconsistent
  have hfailures : (b.host.graph.walk.failures.map Prod.fst).Nodup :=
    hdistinct.sublist (Walk.walk_sound hdistinct).sublist
  have hredone : ∀ w ∈ b.host.graph.walk.failures.filterMap fun f => b.host.table.unit? f.1,
      Redone h attempted pieces.flatten w := by
    intro w hw
    obtain ⟨f, hf, htracked⟩ := List.mem_filterMap.mp hw
    exact hb.redone_of_failed hconsistent othersRun (List.mem_map.mpr ⟨f, hf, rfl⟩) htracked
  obtain ⟨hdeparted, rest, hcalls, hgiven⟩ := expelling_gone
    (b := { b with host := b.host.write (b.host.graph.walk.log b.host.settings.debug) })
    hconsistent b.host.graph.walk.failures hfailures
  refine ⟨rest, ?_, ?_, ?_⟩
  · rw [← hb.calls]
    exact hcalls
  · intro call hcall
    obtain ⟨w, hw, result, rfl⟩ := Fallible.exists_of_forall₂ hgiven.flip hcall
    obtain ⟨i, hi, v, loaded, hv, _, hheld, hload⟩ := hredone w hw
    exact ⟨i, hi, v, loaded, result, hv, hload, by rw [hheld]⟩
  · intro w hw
    rw [Batch.purged, hdeparted] at hw
    rcases List.mem_append.mp hw with hold | hnew
    · exact hb.departed w hold
    · obtain ⟨v, hv, rfl⟩ := List.mem_map.mp hnew
      exact (hredone v hv).sameFile

/-- Whoever is told of something is of a file that was asked for again. -/
theorem sameFile_of_tells {event : Event} (tells : (validate b).Tells w event) :
    SameFile h attempted w := by
  have hchecked := b.validate_validated
  cases tells with
  | @came id u _ new tracked =>
      rw [hchecked.fresh] at new
      rw [hchecked.unit?_eq] at tracked
      split at tracked
      · cases tracked
      · rcases hb.origin id u tracked with ⟨hstart, hout⟩ | hredone
        · rcases hb.fresh id new with hdone | hnone
          · exact absurd hdone hout
          · simp [hstart] at hnone
        · simpa [SameFile] using hredone.sameFile
  | left departed =>
      obtain ⟨log, hafter⟩ := b.validate_eq
      obtain ⟨_, _, _, hdeparted⟩ := hb.purged hconsistent othersRun
      rw [hafter] at departed
      exact hdeparted w departed

end

/-- What was not attempted is tracked as before when the batch is over. -/
theorem kept_run {h : Host} {plan : Plan} {attempted : List String}
    {pieces : List (List LoaderCall)} {id : String} {u : PluginUnit}
    (hb : Redoing h attempted pieces (prepared plan h)) (hconsistent : h.table.Consistent)
    (othersRun : OthersRun h attempted (prepared plan h)) (tracked : h.table.unit? id = some u)
    (outside : id ∉ attempted) : (run plan h).host.table.unit? id = some u := by
  have hpassed : id ∉ (prepared plan h).host.graph.walk.failures.map Prod.fst := by
    intro hfailed
    have hstuck :=
      ((Walk.walk_sound (distinct_prepared hconsistent)).mem_failures_iff.mp hfailed).2.2
    exact hstuck (othersRun id u tracked outside)
  have hold : id ∉ (prepared plan h).fresh := by
    intro hnew
    rcases hb.fresh id hnew with hdone | hnone
    · exact outside hdone
    · simp [tracked] at hnone
  rw [unit?_run, if_neg hpassed, if_neg fun hnew => hold hnew.2]
  exact hb.others id u tracked outside

end Redoing

end Batch

/-! ### The whole reload -/

namespace Host

variable {h : Host} {id : String}

/-- The batch that loads a unit again, before anybody hears of it. -/
def reloading (h : Host) (id : String) : Batch := change (reloadPlan id) (Batch.start h)

/-- Calls that some units take, in order, for one attempt each to load them again. After that units
that came back may fail the dependency check and give back what was handed out for them. -/
def Attempted (h : Host) (attempted : List String) (calls : List LoaderCall) : Prop :=
  ∃ pieces rest, calls = pieces.flatten ++ rest ∧
    List.Forall₂ (fun id piece => ∃ u, h.table.unit? id = some u ∧ u.Attempt piece)
      attempted pieces ∧
    ∀ call ∈ rest, ∃ id ∈ attempted, ∃ u loaded result, h.table.unit? id = some u ∧
      .load u.path (.ok loaded) ∈ pieces.flatten ∧ call = .unload loaded.subUnits result

/-- A tracked unit is what it was, its file was not asked for, and nobody of its file is told of
anything. -/
structure Untouched (h : Host) (id : String) (calls : List LoaderCall) (after : Host)
    (other : String) (u : PluginUnit) : Prop where
  kept : after.table.unit? other = some u
  unasked : ∀ path result, .load path result ∈ calls → path.same u.path = false
  untold : ∀ w event, (h.reloading id).Tells w event → w.path.same u.path = false

variable {attempted : List String} {pieces : List (List LoaderCall)} {calls : List LoaderCall}
  {other : String} {u : PluginUnit}

theorem Attempted.about {call : LoaderCall} (hcalls : h.Attempted attempted calls)
    (hcall : call ∈ calls) :
    ∃ i ∈ attempted, ∃ u, h.table.unit? i = some u ∧ u.About calls call := by
  obtain ⟨pieces, rest, rfl, hattempts, hrest⟩ := hcalls
  rcases List.mem_append.mp hcall with hfirst | hlast
  · obtain ⟨piece, hpiece, hmem⟩ := List.mem_flatten.mp hfirst
    obtain ⟨i, hi, u, hu, hattempt⟩ := Fallible.exists_of_forall₂ hattempts.flip hpiece
    refine ⟨i, hi, u, hu, (hattempt.about hmem).mono ?_⟩
    intro c hc
    exact List.mem_append_left _ (List.mem_flatten.mpr ⟨piece, hpiece, hc⟩)
  · obtain ⟨i, hi, u, loaded, result, hu, hload, rfl⟩ := hrest call hlast
    exact ⟨i, hi, u, hu, .brought (List.mem_append_left _ hload) result⟩

theorem Reachable.othersRun (hreach : h.Reachable) (foreign : h.settings.identity.id ∉ h.table.ids)
    (hordered : h.ConeInOrder id attempted)
    (hb : Redoing h attempted pieces (prepared (reloadPlan id) h)) :
    OthersRun h attempted (prepared (reloadPlan id) h) := by
  intro other u hu hout
  exact hreach.runs_outside foreign hordered hb (host_prepared _ h) (by simp [hu])
    (mt (hordered.members other).mpr hout)

theorem untouched_of_redoing (hconsistent : h.table.Consistent)
    (hb : Redoing h attempted pieces (prepared (reloadPlan id) h))
    (othersRun : OthersRun h attempted (prepared (reloadPlan id) h))
    (hattempted : h.Attempted attempted calls) (tracked : h.table.unit? other = some u)
    (outside : other ∉ attempted) :
    h.Untouched id calls (run (reloadPlan id) h).host other u where
  kept := hb.kept_run hconsistent othersRun tracked outside
  unasked := by
    intro path result hload
    obtain ⟨i, hi, v, hv, habout⟩ := hattempted.about hload
    cases habout
    exact hconsistent.not_same_file hv tracked fun heq => outside (heq ▸ hi)
  untold := by
    intro w event htells
    have hsame := hb.sameFile_of_tells (consistent_prepared hconsistent) othersRun htells
    obtain ⟨i, hi, v, hv, hpath⟩ := hsame
    rw [hpath]
    exact hconsistent.not_same_file hv tracked fun heq => outside (heq ▸ hi)

/-- In every run in which no tracked unit goes by the id of the host, loading a tracked unit again
attempts that for the units of its cone and for no others, for each once and behind what it needs,
and the result tells of each attempt. Whatever the files and the loader bring, all other units are
untouched: they stay what they were, no call is about them, and no task for their listeners is
submitted. -/
theorem Reachable.reload_confined (hreach : h.Reachable)
    (foreign : h.settings.identity.id ∉ h.table.ids) (tracked : (h.table.unit? id).isSome) :
    ∃ after result attempted calls,
      h.reloadPlugin id = (after, .ok result) ∧
      h.ConeInOrder id attempted ∧
      after.trace.calls = h.trace.calls ++ calls ∧ h.Attempted attempted calls ∧
      (∀ call ∈ calls, ∃ i ∈ attempted, ∃ u, h.table.unit? i = some u ∧ u.About calls call) ∧
      (result.reload.all.map Target.path).Perm
        ((attempted.filterMap h.table.unit?).map PluginUnit.path) ∧
      h.pool.Offered (h.reloading id).notices after.pool ∧
      (∀ task ∈ (h.reloading id).notices, ∃ w event,
        (h.reloading id).Tells w event ∧ task ∈ w.tasks event) ∧
      ∀ other u, h.table.unit? other = some u → ¬ h.Cone id other →
        h.Untouched id calls after other u := by
  have hconsistent := hreach.consistent
  obtain ⟨attempted, pieces, hordered, hb⟩ := hreach.redoing foreign tracked
  have hothers := hreach.othersRun foreign hordered hb
  obtain ⟨log, hchecked⟩ := (prepared (reloadPlan id) h).validate_eq
  obtain ⟨rest, hcalls, hrest, _⟩ := hb.purged (consistent_prepared hconsistent) hothers
  have hran : h.reloadPlugin id =
      ((run (reloadPlan id) h).host, .ok (run (reloadPlan id) h).result) := by
    rw [reloadPlugin, UnitTable.containsId, if_pos tracked]
    rfl
  have hattempted : h.Attempted attempted (pieces.flatten ++ rest) :=
    ⟨pieces, rest, rfl, hb.attempts, hrest⟩
  refine ⟨_, _, attempted, pieces.flatten ++ rest, hran, hordered, ?_, hattempted,
    fun call hcall => hattempted.about hcall, ?_, ?_, fun task htask => mem_notices_iff.mp htask, ?_⟩
  · rw [calls_run, hchecked, ← List.append_assoc, ← hcalls]
  · have hreload : (run (reloadPlan id) h).result.reload =
        (prepared (reloadPlan id) h).result.reload := by
      rw [result_run, (loads_validate _).2]
    rw [hreload]
    exact hb.reported
  · exact run_offered (reloadPlan id) hconsistent
  · intro other u hu hout
    have hnot : other ∉ attempted := mt (hordered.members other).mp hout
    exact untouched_of_redoing hconsistent hb hothers hattempted hu hnot

end Host

namespace HostWitness

/-- A plugin with one sub-unit that listens for when it comes and goes. -/
def hearing (load : Nat) (id version : String) (needs : List (String × Json)) : LoadedCode :=
  let listener (event : Event) (name : String) : Registration :=
    .listener event 0 ⟨id, name, fun _ => ⟨[], .ok ()⟩⟩
  { code := { code id version needs with
      registrations := .ok [listener .pluginLoad "came", listener .pluginUnload "went"] }
    subUnits := [⟨id, load, none⟩] }

/-- A loader that brings an older version of a plugin when it is asked again. -/
def moody : Loader where
  load history _ path :=
    let load := history.length
    match path.text with
    | "core.mcdr" => .ok (hearing load "core" (if load = 0 then "1.2.0" else "0.5.0") [])
    | "chat.mcdr" => .ok (hearing load "chat" "1.0.0" [("core", .text ">=1")])
    | "lone.mcdr" => .ok (hearing load "lone" "1.0.0" [])
    | other => .error (.load ⟨other⟩ "there is nothing")
  unload _ _ := .ok ()
  unloadLog _ := []

/-- The host with a plugin, one that needs its version and one that needs nothing. -/
def settled : Host :=
  [.load ⟨"core.mcdr"⟩, .load ⟨"chat.mcdr"⟩, .load ⟨"lone.mcdr"⟩].foldl Host.perform
    (.create settings ⟨"en", []⟩ moody .empty (.create 1 .spawn .none))

theorem settled_reload_confined : settled.Reachable ∧ settled.table.ids = ["chat", "core", "lone"] ∧
    (settled.reloadPlugin "core").1.table.ids = ["core", "lone"] ∧
    ((settled.reloading "core").notices.map fun task =>
      (task.work.listener.origin, task.work.listener.name)) = [("core", "came"), ("chat", "went")] ∧
    ∃ attempted calls u, "chat" ∈ attempted ∧ "lone" ∉ attempted ∧
      settled.ConeInOrder "core" attempted ∧ settled.Attempted attempted calls ∧
      settled.Untouched "core" calls (settled.reloadPlugin "core").1 "lone" u := by
  have hreach : settled.Reachable := (Host.Reachable.create _ _ _ _ _).foldl _
  have hids : settled.table.ids = ["chat", "core", "lone"] := by decide +kernel
  have hforeign : settled.settings.identity.id ∉ settled.table.ids := by decide +kernel
  have hcore : (settled.table.unit? "core").isSome := by decide +kernel
  have hlist : settled.graph.walk.affected ["core"] = ["core", "chat"] := by decide +kernel
  have hcone : ∀ other, other ∈ ["core", "chat"] ↔ settled.Cone "core" other := by
    intro other
    rw [← hlist]
    exact Host.mem_affected_iff hreach.consistent hforeign (by simp) hcore
  have hchat : settled.Cone "core" "chat" := (hcone "chat").mp (by decide)
  have hlone : ¬ settled.Cone "core" "lone" := mt (hcone "lone").mpr (by decide)
  obtain ⟨u, hu⟩ : ∃ u, settled.table.unit? "lone" = some u :=
    Option.isSome_iff_exists.mp (by decide +kernel)
  obtain ⟨after, result, attempted, calls, hran, hordered, _, hattempted, _, _, _, _, houtside⟩ :=
    hreach.reload_confined hforeign hcore
  have hafter : (settled.reloadPlugin "core").1 = after := by rw [hran]
  have hleft : (settled.reloadPlugin "core").1.table.ids = ["core", "lone"] := by decide +kernel
  have htold : ((settled.reloading "core").notices.map fun task =>
      (task.work.listener.origin, task.work.listener.name)) =
        [("core", "came"), ("chat", "went")] := by decide +kernel
  exact ⟨hreach, hids, hleft, htold, attempted, calls, u, (hordered.members "chat").mpr hchat,
    mt (hordered.members "lone").mp hlone, hordered, hattempted,
    hafter ▸ houtside "lone" u hu hlone⟩

end HostWitness

end PluginHost
