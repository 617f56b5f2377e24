import PluginHost.Proofs.Host.Loading

/-!
In which order units are loaded again. The order is that of the dependency
check as the step finds the units, before it reads any file again: what a unit
needed then is loaded again before it. What a unit comes to need by its own
reload has no part in this, so it may be loaded again behind the unit.
-/
namespace PluginHost

open Dependency

namespace Batch

variable {h : Host} {b after last : Batch} {id i : String} {u w : PluginUnit}
  {ids more : List String} {back others : List (PluginUnit × PluginUnit)}

/-! ### Who comes back -/

theorem refreshOne_fresh (b : Batch) (id : String) : b.fresh ⊆ (b.refreshOne id).fresh := by
  rcases b.refreshOne_cases id with hskip | ⟨u, _, _, hrefreshed⟩
  · rw [hskip]
    exact List.Subset.refl _
  · generalize b.refreshOne id = after at hrefreshed
    cases hrefreshed with
    | kept _ _ => exact List.subset_append_left _ _
    | moved _ _ => exact List.subset_append_left _ _
    | failedReload _ _ _ => exact List.Subset.refl _
    | taken _ _ _ _ _ => exact List.Subset.refl _

theorem refreshOne_departed (b : Batch) (id : String) :
    b.departed ⊆ (b.refreshOne id).departed := by
  rcases b.refreshOne_cases id with hskip | ⟨u, _, _, hrefreshed⟩
  · rw [hskip]
    exact List.Subset.refl _
  · generalize b.refreshOne id = after at hrefreshed
    cases hrefreshed with
    | kept _ _ => exact List.Subset.refl _
    | moved _ _ => exact List.Subset.refl _
    | failedReload _ _ _ => exact List.subset_append_left _ _
    | taken _ _ _ _ _ => exact List.subset_append_left _ _

/-- A unit that is new stays as it is while others are loaded again. -/
theorem refreshOne_keeps_new (tracked : b.host.table.unit? i = some w) (new : i ∈ b.fresh) :
    (b.refreshOne id).host.table.unit? i = some w := by
  rcases b.refreshOne_cases id with hskip | ⟨u, hu, hold, hrefreshed⟩
  · rwa [hskip]
  · have hother : i ≠ id := fun heq => hold (heq ▸ new)
    generalize b.refreshOne id = after at hrefreshed
    cases hrefreshed with
    | @kept v loaded log _ _ =>
        refine UnitTable.unit?_update.trans ?_
        rw [if_neg hother, tracked]
    | @moved v loaded log _ free =>
        have htaken : i ≠ v.id := by
          rintro rfl
          cases free.symm.trans tracked
        refine (UnitTable.unit?_moved hu v).trans ?_
        rw [if_neg htaken, if_neg hother, tracked]
    | failedReload _ _ _ =>
        refine UnitTable.unit?_erase.trans ?_
        rw [if_neg hother, tracked]
    | taken _ _ _ _ _ =>
        refine UnitTable.unit?_erase.trans ?_
        rw [if_neg hother, tracked]

/-- What loading some units again does to those that come back: each is listed as it was and as it
came back, in the order it was tried, and the result tells of them. -/
structure ReloadReturns (h : Host) (ids : List String) (b after : Batch)
    (back : List (PluginUnit × PluginUnit)) : Prop where
  order : (back.map fun p => p.1.id).Sublist ids
  each : ∀ p ∈ back, h.table.unit? p.1.id = some p.1 ∧
    (∀ w ∈ b.departed, w.path.same p.1.path = false) ∧ ∃ loaded, p.1.Back p.2 loaded
  tracked : ∀ p ∈ back, after.host.table.unit? p.2.id = some p.2 ∧ p.2.id ∈ after.fresh
  departed : b.departed ⊆ after.departed
  stays : ∀ i w, b.host.table.unit? i = some w → i ∈ b.fresh →
    after.host.table.unit? i = some w ∧ i ∈ after.fresh
  succeeded : after.result.reload.succeeded =
    b.result.reload.succeeded ++ back.map fun p => p.2.target

namespace ReloadReturns

theorem nobody (departed : b.departed ⊆ after.departed)
    (stays : ∀ i w, b.host.table.unit? i = some w → i ∈ b.fresh →
      after.host.table.unit? i = some w ∧ i ∈ after.fresh)
    (succeeded : after.result.reload.succeeded = b.result.reload.succeeded) :
    ReloadReturns h ids b after [] where
  order := List.nil_sublist ids
  each := by simp
  tracked := by simp
  departed := departed
  stays := stays
  succeeded := by simpa using succeeded

theorem trans (hfirst : ReloadReturns h ids b after back)
    (hlast : ReloadReturns h more after last others) :
    ReloadReturns h (ids ++ more) b last (back ++ others) where
  order := by
    rw [List.map_append]
    exact hfirst.order.append hlast.order
  each := by
    intro p hp
    rcases List.mem_append.mp hp with hp | hp
    · exact hfirst.each p hp
    · obtain ⟨htracked, hstays, hback⟩ := hlast.each p hp
      exact ⟨htracked, fun w hw => hstays w (hfirst.departed hw), hback⟩
  tracked := by
    intro p hp
    rcases List.mem_append.mp hp with hp | hp
    · obtain ⟨htracked, hnew⟩ := hfirst.tracked p hp
      exact hlast.stays _ _ htracked hnew
    · exact hlast.tracked p hp
  departed := List.Subset.trans hfirst.departed hlast.departed
  stays := by
    intro i w htracked hnew
    obtain ⟨hthen, hnew'⟩ := hfirst.stays i w htracked hnew
    exact hlast.stays i w hthen hnew'
  succeeded := by
    rw [hlast.succeeded, hfirst.succeeded, List.map_append, List.append_assoc]

theorem refreshOne (hconsistent : b.host.table.Consistent) (hnew : Newcomers h b) (id : String) :
    ∃ back, ReloadReturns h [id] b (b.refreshOne id) back := by
  have hdeparted := b.refreshOne_departed id
  have hstays : ∀ i w, b.host.table.unit? i = some w → i ∈ b.fresh →
      (b.refreshOne id).host.table.unit? i = some w ∧ i ∈ (b.refreshOne id).fresh :=
    fun i w htracked hi => ⟨refreshOne_keeps_new htracked hi, b.refreshOne_fresh id hi⟩
  rcases b.refreshOne_cases id with hskip | ⟨u, hu, hold, hrefreshed⟩
  · exact ⟨[], .nobody hdeparted hstays (by rw [hskip])⟩
  · have hid : u.id = id := hconsistent.id_eq hu
    have hunmoved : Unmoved h b id u := hnew.unmoved id u hu hold
    have hkept : h.table.unit? u.id = some u := hid ▸ hunmoved.kept
    generalize b.refreshOne id = after at hrefreshed hdeparted hstays
    cases hrefreshed with
    | @kept v loaded log back same =>
        have htracked : (b.host.table.update id v).unit? v.id = some v :=
          (UnitTable.unit?_update_tracked hu v).trans (if_pos same)
        refine ⟨[(u, v)], by simp [hid], ?_, ?_, hdeparted, hstays, rfl⟩
        · intro p hp
          rw [List.mem_singleton.mp hp]
          exact ⟨hkept, hunmoved.departed, loaded, back⟩
        · intro p hp
          rw [List.mem_singleton.mp hp]
          exact ⟨htracked, same ▸ List.mem_append_right _ (List.mem_singleton_self _)⟩
    | @moved v loaded log back free =>
        have htracked : ((b.host.table.update id v).rename id v.id).unit? v.id = some v :=
          (UnitTable.unit?_moved hu v).trans (if_pos rfl)
        refine ⟨[(u, v)], by simp [hid], ?_, ?_, hdeparted, hstays, rfl⟩
        · intro p hp
          rw [List.mem_singleton.mp hp]
          exact ⟨hkept, hunmoved.departed, loaded, back⟩
        · intro p hp
          rw [List.mem_singleton.mp hp]
          exact ⟨htracked, List.mem_append_right _ (List.mem_singleton_self _)⟩
    | failedReload _ _ _ => exact ⟨[], .nobody hdeparted hstays rfl⟩
    | taken _ _ _ _ _ => exact ⟨[], .nobody hdeparted hstays rfl⟩

end ReloadReturns

/-- Who came back in a batch. -/
theorem prepared_returns (plan : Plan) (hconsistent : h.table.Consistent) :
    ∃ back, ReloadReturns h (plan.gathered h) (furnished plan h) (prepared plan h) back := by
  have htransitions := furnished_transitions plan h
  obtain ⟨log, hprepared⟩ := prepared_eq plan h
  obtain ⟨back, hreturns⟩ := foldl_refreshOne
    (R := fun ids b after => ∃ back, ReloadReturns h ids b after back)
    (fun b => ⟨[], .nobody (List.Subset.refl _) (fun _ _ hw hi => ⟨hw, hi⟩) rfl⟩)
    (fun hconsistent hnew _ id => ReloadReturns.refreshOne hconsistent hnew id)
    (by
      rintro id rest b after last ⟨back, hfirst⟩ ⟨others, hrest⟩
      exact ⟨back ++ others, hfirst.trans hrest⟩)
    (b := { furnished plan h with host := { (furnished plan h).host with
      trace := { (furnished plan h).host.trace with log } } })
    (htransitions.consistent hconsistent)
    ((newcomers_furnished plan hconsistent).congr rfl rfl rfl rfl)
    htransitions.env (plan.gathered h)
  rw [hprepared]
  exact ⟨back, hreturns.order, hreturns.each, hreturns.tracked, hreturns.departed, hreturns.stays,
    hreturns.succeeded⟩

/-! ### What stays until then -/

theorem discover_keeps_units (files : List Path) (tracked : b.host.table.unit? i = some w) :
    (discover files b).host.table.unit? i = some w := by
  induction files generalizing b with
  | nil => exact tracked
  | cons path rest ih =>
      apply ih
      have hfound := b.discoverOne_discovered path
      generalize b.discoverOne path = after at hfound ⊢
      cases hfound with
      | known _ => exact tracked
      | refused _ _ => exact tracked
      | @entered u loaded log live state held newId newPath brought =>
          have hother : i ≠ u.id := by
            rintro rfl
            cases newId.symm.trans tracked
          refine (UnitTable.unit?_insert u.path).trans ?_
          rw [if_neg hother]
          exact tracked

variable {plan : Plan}

theorem unit?_furnished (hconsistent : h.table.Consistent) (tracked : h.table.unit? i = some w)
    (othersRun : i ∉ plan.doomed h) : (furnished plan h).host.table.unit? i = some w := by
  have hpruned : (phase prune plan.prune (start h)).host.table.unit? i = some w := by
    cases hprune : plan.prune with
    | none => exact tracked
    | some condition =>
        simp only [Plan.doomed, hprune, Host.doomed, List.mem_reverse] at othersRun
        have hlist := Host.associated_select hconsistent condition "unload"
        rw [← hlist] at othersRun
        exact (unit?_prune condition (start h) i).trans ((if_neg othersRun).trans tracked)
  unfold furnished phase
  cases plan.discover with
  | none => exact hpruned
  | some files => exact discover_keeps_units files hpruned

theorem mem_doomed_of_declares (hconsistent : h.table.Consistent) {a c : String}
    (declares : h.graph.Declares a c) (doomed : c ∈ plan.doomed h) : a ∈ plan.doomed h := by
  cases hprune : plan.prune with
  | none =>
      simp only [Plan.doomed, hprune] at doomed
      cases doomed
  | some condition =>
      simp only [Plan.doomed, hprune, Host.doomed, List.mem_reverse,
        Walk.mem_affected_iff (Host.distinct_graph hconsistent)] at doomed ⊢
      obtain ⟨_, s, hs, hreach⟩ := doomed
      obtain ⟨n, hn, rfl, _⟩ := id declares
      exact ⟨List.mem_map.mpr ⟨n, hn, rfl⟩, s, hs, .head declares hreach⟩

/-- A unit that came back was there all along, and all it needed was. -/
theorem ReloadReturns.passed (hreach : h.Reachable)
    (hreturns : ReloadReturns h ids (furnished plan h) after back) {p : PluginUnit × PluginUnit}
    (hp : p ∈ back) (guest : p.1.id ≠ h.settings.identity.id) :
    p.1.id ∈ (furnished plan h).host.graph.walk.order := by
  have hconsistent := hreach.consistent
  have hfurnished := (furnished_transitions plan h).consistent hconsistent
  have hhost : (furnished plan h).host.graph.host = h.graph.host :=
    congrArg HostSettings.identity (furnished_transitions plan h).advances.settings
  obtain ⟨htracked, hapart, _⟩ := hreturns.each p hp
  have hothers : p.1.id ∉ plan.doomed h := by
    intro hdoomed
    have hgone : p.1.leaving ∈ (furnished plan h).departed := by
      rw [(furnished_keeps plan hconsistent).1]
      exact List.mem_map_of_mem (List.mem_filterMap.mpr ⟨_, hdoomed, htracked⟩)
    have hsame : p.1.leaving.path.same p.1.path = true := Path.same_iff.mpr rfl
    exact absurd hsame (Bool.eq_false_iff.mp (hapart _ hgone))
  have hruns := hreach.runs_on hhost (fun i => i ∉ plan.doomed h)
    (fun i w hw hi => unit?_furnished hconsistent hw hi)
    (fun a c hdeclares _ ha hc => ha (mem_doomed_of_declares hconsistent hdeclares hc))
    (by rw [htracked, Option.isSome_some]) guest hothers
  exact (Walk.walk_sound (Host.distinct_graph hfurnished)).mem_order_iff.mpr ⟨hhost ▸ guest, hruns⟩

theorem pairwise_gathered (plan : Plan) (hconsistent : h.table.Consistent) :
    (plan.gathered h).Pairwise fun a c => a ∈ (furnished plan h).host.graph.walk.order →
      ¬ Relation.TransGen (furnished plan h).host.graph.Needs a c := by
  have hfurnished := (furnished_transitions plan h).consistent hconsistent
  unfold Plan.gathered
  cases plan.refresh with
  | none => exact .nil
  | some condition =>
      dsimp only
      rw [Batch.gathered, associated_snd]
      split
      · exact .nil
      · exact Walk.pairwise_affected (Host.distinct_graph hfurnished) _

/-- None of those that came back stands before one that it needed, as the step found them. -/
theorem ReloadReturns.pairwise (hreach : h.Reachable)
    (hreturns : ReloadReturns h (plan.gathered h) (furnished plan h) after back) :
    back.Pairwise fun p q => ¬ Relation.TransGen
      ((furnished plan h).host.table.Depends h.settings.identity) p.1.id q.1.id := by
  have hordered := (pairwise_gathered plan hreach.consistent).sublist hreturns.order
  have hidentity : (furnished plan h).host.settings.identity = h.settings.identity :=
    congrArg HostSettings.identity (furnished_transitions plan h).advances.settings
  refine (List.pairwise_map.mp hordered).imp_of_mem ?_
  intro p q hp _ hbehind hdepends
  obtain ⟨_, ⟨hguest, _⟩, _⟩ := Relation.TransGen.head'_iff.mp hdepends
  rw [← hidentity] at hdepends
  exact hbehind (hreturns.passed hreach hp hguest)
    (Relation.TransGen.mono (fun _ _ => Host.needs_of_depends) _ _ hdepends)

/-- Those that are tracked after the batch still say what they said when they came back. -/
theorem ReloadReturns.metadata_eq (hreturns : ReloadReturns h ids b (prepared plan h) back)
    {p : PluginUnit × PluginUnit} (hp : p ∈ back)
    (tracked : (run plan h).host.table.unit? p.2.id = some w) : w.metadata = p.2.metadata := by
  rw [unit?_run, (hreturns.tracked p hp).1] at tracked
  split at tracked
  · cases tracked
  · split at tracked
    · rw [Option.map_some, Option.some.injEq] at tracked
      rw [← tracked, PluginUnit.metadata_welcomed]
    · rw [Option.some.inj tracked]

end Batch

/-- In every run, a batch loads units again in an order in which each stands behind all that it
needed, directly or through others, as the step found the units. What a unit comes to need by being
loaded again is not among that. -/
theorem Host.Reachable.reloaded_in_order {h : Host} (hreach : h.Reachable) (plan : Batch.Plan) :
    ∃ back : List (PluginUnit × PluginUnit),
      (Batch.run plan h).result.reload.succeeded = back.map (fun p => p.2.target) ∧
      (back.map fun p => p.1.id).Nodup ∧
      (∀ p ∈ back, h.table.unit? p.1.id = some p.1 ∧ (∃ loaded, p.1.Back p.2 loaded) ∧
        ∀ w, (Batch.run plan h).host.table.unit? p.2.id = some w → w.metadata = p.2.metadata) ∧
      ∀ u ∈ back, ∀ d ∈ back, u ≠ d →
        Relation.TransGen ((Batch.furnished plan h).host.table.Depends h.settings.identity)
          u.1.id d.1.id → [d, u].Sublist back := by
  obtain ⟨back, hreturns⟩ := Batch.prepared_returns plan hreach.consistent
  refine ⟨back, ?_, (Batch.nodup_gathered plan hreach.consistent).sublist hreturns.order, ?_, ?_⟩
  · rw [Batch.result_run, (Batch.loads_validate _).2, hreturns.succeeded,
      (Batch.furnished_keeps plan hreach.consistent).2.1]
    rfl
  · intro p hp
    obtain ⟨htracked, _, hback⟩ := hreturns.each p hp
    exact ⟨htracked, hback, fun w hw => hreturns.metadata_eq hp hw⟩
  · intro u hu d hd hother hneeds
    exact sublist_of_pairwise (hreturns.pairwise hreach) hu hd hother hneeds

namespace HostWitness

/-- Two plugins, of which the first one comes to need the other one when it is loaded again. -/
def rewired : Loader where
  load history _ path :=
    match path.text with
    | "core.mcdr" => .ok ⟨code "core" "1.0.0" [], []⟩
    | "chat.mcdr" =>
      .ok ⟨code "chat" "1.0.0" (if history.length ≤ 1 then [] else [("core", .text "*")]), []⟩
    | other => .error (.load ⟨other⟩ "there is nothing")
  unload _ _ := .ok ()
  unloadLog _ := []

/-- A host with both plugins. -/
def wired : Host :=
  [.load ⟨"core.mcdr"⟩, .load ⟨"chat.mcdr"⟩].foldl Host.perform
    (.create settings ⟨"en", []⟩ rewired .empty (.create 1 .spawn .none))

/-- A batch that loads all units again. -/
def renewal : Batch.Plan := { Batch.Plan.none with refresh := some fun _ => true }

/-- The first plugin is loaded again before the one that it needs from then on; it did not need it
before. -/
theorem wired_reloaded : wired.Reachable ∧ ∃ u d : PluginUnit × PluginUnit,
    (Batch.run renewal wired).result.reload.succeeded = [u.2.target, d.2.target] ∧
    u.2.target = .plugin "chat" "1.0.0" ⟨"chat.mcdr"⟩ ∧
    d.2.target = .plugin "core" "1.0.0" ⟨"core.mcdr"⟩ ∧
    ((Batch.run renewal wired).host.table.metadata? "chat").map
      (fun m => m.dependencies.map Prod.fst) = some ["core"] ∧
    wired.table.unit? u.1.id = some u.1 ∧ wired.table.unit? d.1.id = some d.1 ∧
    ¬ Relation.TransGen ((Batch.furnished renewal wired).host.table.Depends wired.settings.identity)
      u.1.id d.1.id := by
  have hreach : wired.Reachable := (Host.Reachable.create _ _ _ _ _).foldl _
  have htold : (Batch.run renewal wired).result.reload.succeeded =
      [.plugin "chat" "1.0.0" ⟨"chat.mcdr"⟩, .plugin "core" "1.0.0" ⟨"core.mcdr"⟩] := by
    decide +kernel
  obtain ⟨back, hsucceeded, _, heach, hbehind⟩ := hreach.reloaded_in_order renewal
  rw [hsucceeded] at htold
  obtain ⟨u, rest, rfl, hu, hrest⟩ := List.map_eq_cons_iff.mp htold
  obtain ⟨d, none, rfl, hd, hnone⟩ := List.map_eq_cons_iff.mp hrest
  rw [List.map_eq_nil_iff.mp hnone] at hsucceeded heach hbehind
  have hother : u ≠ d := by
    rintro rfl
    rw [hu] at hd
    exact absurd hd (by decide)
  refine ⟨hreach, u, d, hsucceeded, hu, hd, by decide +kernel, (heach u (by simp)).1,
    (heach d (by simp)).1, fun hneeds => ?_⟩
  -- Had it needed the other one, it would stand behind it.
  have hswapped := hbehind u (by simp) d (by simp) hother hneeds
  have heq := hswapped.eq_of_length rfl
  exact hother (List.cons.inj heq).1.symm

end HostWitness

end PluginHost
