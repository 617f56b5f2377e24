import PluginHost.Proofs.Host.Precedence
import PluginHost.Proofs.Host.Announcements

/-!
Who ever hears of anything. Whoever is ready was told of its loading when it
became ready, and no unit of its file went since; events are dispatched to
nobody else. What a batch tells is different: all that goes hears of that,
ready or not. So a plugin whose dependencies are not met hears, through the
listeners it registers by itself, that it goes, though it was never told that
it came.
-/
namespace PluginHost

namespace Batch

variable {h : Host} {b after : Batch} {id : String} {u v w : PluginUnit} {plan : Plan}

/-! ### Where units come from -/

/-- Where a tracked unit of a batch comes from: it was there before, with its file and in its state,
and no unit of its file went; or the batch loaded it. -/
inductive Origin (h : Host) (b : Batch) (u : PluginUnit) : Prop
  | old {id : String} {v : PluginUnit} (tracked : h.table.unit? id = some v) (path : v.path = u.path)
      (state : v.state = u.state) (apart : ∀ w ∈ b.departed, w.path.same u.path = false)
  | new (loaded : u.state = .loaded) (told : u.path ∈ b.result.load.succeeded.map Target.path)

/-- Every tracked unit comes from somewhere. -/
def Origins (h : Host) (b : Batch) : Prop :=
  ∀ id u, b.host.table.unit? id = some u → Origin h b u

theorem Origin.carry (ho : Origin h b u) (path : u.path = v.path) (state : u.state = v.state)
    (departed : ∀ w ∈ after.departed, w ∈ b.departed ∨ w.path.same v.path = false)
    (loads : b.result.load.succeeded ⊆ after.result.load.succeeded) : Origin h after v := by
  cases ho with
  | old tracked opath ostate apart =>
      refine .old tracked (opath.trans path) (ostate.trans state) fun w hw => ?_
      rcases departed w hw with hbefore | hother
      · rw [← path]
        exact apart w hbefore
      · exact hother
  | new loaded told => exact .new (state ▸ loaded) (path ▸ List.map_subset Target.path loads told)

namespace Origins

theorem start (h : Host) : Origins h (.start h) :=
  fun _ _ tracked => .old tracked rfl rfl (by simp [Batch.start])

theorem congr (hb : Origins h b) (table : after.host.table = b.host.table)
    (departed : after.departed = b.departed)
    (loads : after.result.load.succeeded = b.result.load.succeeded) : Origins h after := by
  intro i w hw
  rw [table] at hw
  exact (hb i w hw).carry rfl rfl (fun gone hgone => .inl (departed ▸ hgone))
    (loads ▸ List.Subset.refl _)

/-- A unit goes. -/
theorem leave (hb : Origins h b) (hconsistent : b.host.table.Consistent)
    (tracked : b.host.table.unit? id = some u) (path : v.path = u.path)
    (table : after.host.table = b.host.table.erase id)
    (departed : after.departed = b.departed ++ [v])
    (loads : after.result.load.succeeded = b.result.load.succeeded) : Origins h after := by
  intro i w hw
  rw [table] at hw
  obtain ⟨hthere, hother⟩ := hconsistent.stays tracked hw
  refine (hb i w hthere).carry rfl rfl (fun gone hgone => ?_) (loads ▸ List.Subset.refl _)
  rw [departed] at hgone
  rcases List.mem_append.mp hgone with hbefore | hlast
  · exact .inl hbefore
  · rw [List.mem_singleton.mp hlast, path]
    exact .inr hother

/-- A unit is loaded again, in its place or under another id. -/
theorem back {loaded : LoadedCode} (hb : Origins h b) (tracked : b.host.table.unit? id = some u)
    (back : u.Back v loaded)
    (units : ∀ i w, after.host.table.unit? i = some w → w = v ∨ b.host.table.unit? i = some w)
    (departed : after.departed = b.departed)
    (loads : after.result.load.succeeded = b.result.load.succeeded) : Origins h after := by
  have hkeep : ∀ gone ∈ after.departed, gone ∈ b.departed := fun gone hgone => departed ▸ hgone
  intro i w hw
  rcases units i w hw with rfl | hbefore
  · exact (hb id u tracked).carry back.path.symm back.state.symm
      (fun gone hgone => .inl (hkeep gone hgone)) (loads ▸ List.Subset.refl _)
  · exact (hb i w hbefore).carry rfl rfl (fun gone hgone => .inl (hkeep gone hgone))
      (loads ▸ List.Subset.refl _)

theorem refreshed (hb : Origins h b) (hconsistent : b.host.table.Consistent)
    (tracked : b.host.table.unit? id = some u) (refreshed : b.Refreshed id u after) :
    Origins h after := by
  cases refreshed with
  | @kept v loaded log back same =>
      refine hb.back tracked back (fun i w hw => ?_) rfl rfl
      have hunits := (UnitTable.unit?_update_tracked tracked v).symm.trans hw
      split at hunits
      · exact .inl (Option.some.inj hunits).symm
      · exact .inr hunits
  | @moved v loaded log back free =>
      refine hb.back tracked back (fun i w hw => ?_) rfl rfl
      have hunits := (UnitTable.unit?_moved tracked v).symm.trans hw
      split at hunits
      · exact .inl (Option.some.inj hunits).symm
      · split at hunits
        · cases hunits
        · exact .inr hunits
  | failedReload failedReload leaves =>
      obtain ⟨rfl, _⟩ := (hconsistent.unit_live tracked).bare.leaves leaves
      exact hb.leave hconsistent tracked (v := u.bare.leaving) rfl rfl rfl rfl
  | @taken v w gone loaded rest result log back other taken leaves =>
      obtain ⟨rfl, _⟩ := back.live.leaves leaves
      exact hb.leave hconsistent tracked (v := v.leaving) back.path rfl rfl rfl

theorem transition (hb : Origins h b) (hconsistent : b.host.table.Consistent)
    (htransition : Transition b after) :
    Origins h after := by
  cases htransition with
  | record log => exact hb.congr rfl rfl rfl
  | @prune id u gone calls result log tracked leaves =>
      obtain ⟨rfl, _⟩ := (hconsistent.unit_live tracked).leaves leaves
      exact hb.leave hconsistent tracked (v := u.leaving) rfl rfl rfl rfl
  | refuse _ _ => exact hb.congr rfl rfl rfl
  | @enter u loaded log live state held newId newPath =>
      intro i w hw
      have hunits := (UnitTable.unit?_insert u.path).symm.trans hw
      split at hunits
      · cases hunits
        refine .new state ?_
        rw [← u.path_target]
        exact List.mem_map_of_mem (List.mem_append_right _ (List.mem_singleton_self _))
      · exact (hb i w hunits).carry rfl rfl (fun gone hgone => .inl hgone)
          (List.subset_append_left _ _)
  | refresh tracked refreshed => exact hb.refreshed hconsistent tracked refreshed
  | @expel id u gone calls result log tracked leaves =>
      obtain ⟨rfl, _⟩ := (hconsistent.unit_live tracked).leaves leaves
      exact hb.leave hconsistent tracked (v := u.leaving) rfl rfl rfl rfl

theorem transitions (hb : Origins h b) (hconsistent : b.host.table.Consistent)
    (htransitions : Transitions b after) :
    Origins h after := by
  have hboth := htransitions.keep (P := fun b => b.host.table.Consistent ∧ Origins h b)
    (fun htransition hbefore => ⟨htransition.transitions.consistent hbefore.1,
      hbefore.2.transition hbefore.1 htransition⟩)
    ⟨hconsistent, hb⟩
  exact hboth.2

end Origins

theorem origins_prepared (plan : Plan) (hconsistent : h.table.Consistent) :
    Origins h (prepared plan h) :=
  (Origins.start h).transitions hconsistent (prepared_transitions plan h)

/-! ### Whoever goes -/

end Batch

theorem PluginUnit.Lost.same {env : UnitEnv} {u v : PluginUnit} (h : u.Lost env v)
    (running : u.state = .loaded ∨ u.state = .ready) : u.path = v.path ∧ u.state = v.state := by
  cases h with
  | failed _ => exact ⟨rfl, rfl⟩
  | @taken _ t after ran _ =>
      have hreloaded : u.Reloaded t (u.reload env t) := u.reload_reloaded running
      rw [ran] at hreloaded
      cases hreloaded with
      | back back => exact ⟨back.path.symm, back.state.symm⟩

namespace Batch

variable {h : Host} {b : Batch} {id : String} {u v w : PluginUnit} {plan : Plan}

/-- A unit as it was when a batch made it go: it was tracked before, with its file and in its state;
or the batch loaded it and the check failed it. -/
inductive Leaver (plan : Plan) (h : Host) (w : PluginUnit) : Prop
  | old {id : String} {v : PluginUnit} (tracked : h.table.unit? id = some v) (path : v.path = w.path)
      (state : v.state = w.state)
  | new (loaded : w.state = .loaded)
      (told : w.path ∈ (run plan h).result.load.succeeded.map Target.path)
      (failed : w.target ∈ (run plan h).result.dependencyCheck.failed)

theorem failed_of_expelled (hconsistent : h.table.Consistent) (hw : w ∈ (prepared plan h).expelled) :
    w.target ∈ (run plan h).result.dependencyCheck.failed := by
  rw [result_run, (validate_expelled (consistent_prepared hconsistent)).2]
  exact List.mem_append_right _ (List.mem_map_of_mem hw)

theorem leaver_of_departed (hconsistent : h.table.Consistent)
    (hu : u ∈ (validate (prepared plan h)).departed) :
    ∃ w, u = w.leaving ∧ w.Live ∧ Leaver plan h w := by
  have hprepared : (prepared plan h).host.table.Consistent := consistent_prepared hconsistent
  obtain ⟨lost, hlosses⟩ := prepared_losses plan hconsistent
  rw [departed_validate hlosses hconsistent] at hu
  obtain ⟨w, hw, rfl⟩ := List.mem_map.mp hu
  refine ⟨w, rfl, live_of_announcements hlosses hconsistent w (List.mem_append_right _ hw), ?_⟩
  rcases List.mem_append.mp hw with hbefore | hexpelled
  · rcases List.mem_append.mp hbefore with hpruned | hlost
    · exact .old (hconsistent.tracked_of_mem hpruned) rfl rfl
    · obtain ⟨l, hl, rfl⟩ := List.mem_map.mp hlost
      obtain ⟨htracked, hlose, _⟩ := hlosses.each l hl
      obtain ⟨hpath, hstate⟩ := hlose.same (hconsistent.unit_live htracked).running
      exact .old htracked hpath hstate
  · cases origins_prepared plan hconsistent w.id w (hprepared.tracked_of_mem hexpelled) with
    | old tracked path state _ => exact .old tracked path state
    | new loaded told =>
        refine .new loaded ?_ (failed_of_expelled hconsistent hexpelled)
        rwa [result_run, (loads_validate (prepared plan h)).1]

/-- Whoever is told of its loading is ready and tracked after the batch. -/
theorem tracked_of_tells (hconsistent : h.table.Consistent)
    (htells : (validate (prepared plan h)).Tells u .pluginLoad) :
    u.state = .ready ∧ (run plan h).host.table.unit? u.id = some u := by
  have hchecked := validate_validated (prepared plan h)
  cases htells with
  | @came id v passed new tracked =>
      rw [order_validate hconsistent] at passed
      rw [hchecked.fresh] at new
      have hpassed := not_failed_of_passed hconsistent passed
      rw [hchecked.unit?_eq, if_neg hpassed] at tracked
      have hwelcomed : (run plan h).host.table.unit? id = some v.welcomed := by
        rw [unit?_run, if_neg hpassed, if_pos ⟨passed, new⟩, tracked, Option.map_some]
      have hlive := (consistent_prepared hconsistent).unit_live tracked
      refine ⟨hlive.ready_welcomed, ?_⟩
      rwa [(consistent_run plan hconsistent).id_eq hwelcomed]

/-- A tracked unit was told of its loading in this batch, or it is as the check found it. -/
theorem tells_or_found (hconsistent : h.table.Consistent)
    (tracked : (run plan h).host.table.unit? id = some u) :
    (validate (prepared plan h)).Tells u .pluginLoad ∨
      (prepared plan h).host.table.unit? id = some u ∧
        id ∉ (prepared plan h).host.graph.walk.failures.map Prod.fst := by
  have hchecked := validate_validated (prepared plan h)
  rw [unit?_run] at tracked
  by_cases hfailed : id ∈ (prepared plan h).host.graph.walk.failures.map Prod.fst
  · rw [if_pos hfailed] at tracked
    cases tracked
  · rw [if_neg hfailed] at tracked
    by_cases hnew : id ∈ (prepared plan h).host.graph.walk.order ∧ id ∈ (prepared plan h).fresh
    · rw [if_pos hnew] at tracked
      obtain ⟨v, hv, rfl⟩ := Option.map_eq_some_iff.mp tracked
      have hpassed : id ∈ (validate (prepared plan h)).order := by
        rw [order_validate hconsistent]
        exact hnew.1
      have hfresh : id ∈ (validate (prepared plan h)).fresh := by
        rw [hchecked.fresh]
        exact hnew.2
      exact .inl (.came hpassed hfresh (by rwa [hchecked.unit?_eq, if_neg hfailed]))
    · rw [if_neg hnew] at tracked
      exact .inr ⟨tracked, hfailed⟩

end Batch

/-! ### Introductions -/

/-- A batch made a unit of a file ready and told it of its loading. -/
def PastBatch.Introduces (c : PastBatch) (path : Path) : Prop :=
  ∃ u, c.checked.Tells u .pluginLoad ∧ u.state = .ready ∧ c.after.table.unit? u.id = some u ∧
    u.path = path

/-- Some batch introduced a unit of a file, and no unit of this file went in a later one. -/
def Introduced (past : List PastBatch) (path : Path) : Prop :=
  ∃ front c back, past = front ++ c :: back ∧ c.Introduces path ∧
    ∀ later ∈ back, ∀ w ∈ later.checked.departed, w.path.same path = false

namespace Host

variable {past : List PastBatch} {h : Host} {id : String} {u : PluginUnit}

/-- Every batch of a history was asked of a host with a history of its own. -/
theorem HasHistory.pastBatch (hhistory : h.HasHistory past) {c : PastBatch} (hc : c ∈ past) :
    ∃ earlier, c.before.HasHistory earlier := by
  induction hhistory with
  | create _ _ _ _ _ => cases hc
  | @batch earlier h before plan ih =>
      rcases List.mem_append.mp hc with hbefore | hlast
      · exact ih hbefore
      · rw [List.mem_singleton.mp hlast]
        exact ⟨earlier, before⟩
  | meanwhile _ _ _ _ ih => exact ih hc

/-- Whoever is ready was introduced, and has been there since. -/
theorem HasHistory.introduced (hhistory : h.HasHistory past) (tracked : h.table.unit? id = some u)
    (ready : u.state = .ready) : Introduced past u.path := by
  induction hhistory generalizing id u with
  | create _ _ _ _ _ => cases tracked
  | @batch past h before plan ih =>
      have hconsistent := before.consistent
      rcases Batch.tells_or_found hconsistent tracked with htells | ⟨hfound, hpassed⟩
      · obtain ⟨hready, hafter⟩ := Batch.tracked_of_tells hconsistent htells
        exact ⟨past, ⟨plan, h⟩, [], rfl, ⟨u, htells, hready, hafter, rfl⟩, by simp⟩
      · cases Batch.origins_prepared plan hconsistent id u hfound with
        | new loaded _ => cases loaded.symm.trans ready
        | old otracked path state apart =>
            obtain ⟨front, c, back, rfl, hintroduces, hsince⟩ := ih otracked (state.trans ready)
            rw [path] at hintroduces hsince
            refine ⟨front, c, back ++ [⟨plan, h⟩], by simp, hintroduces, ?_⟩
            intro later hlater w hw
            rcases List.mem_append.mp hlater with hbefore | hlast
            · exact hsince later hbefore w hw
            · rw [List.mem_singleton.mp hlast, PastBatch.checked,
                (Batch.validate_expelled (Batch.consistent_prepared hconsistent)).1] at hw
              rcases List.mem_append.mp hw with hgone | hexpelled
              · exact apart w hgone
              · obtain ⟨v, hv, rfl⟩ := List.mem_map.mp hexpelled
                exact Batch.apart_of_passed (Batch.consistent_prepared hconsistent) hfound hpassed v
                  hv
  | meanwhile _ _ _ _ ih => exact ih tracked ready

end Host

/-! ### Whoever hears -/

/-- A unit that a batch tells of an event after some history. It became ready; or it goes, was ready
before and had been introduced; or it goes and never was ready: the batch itself loaded it and the
check failed it, or it goes by the id of the host. One that never was ready hears through the
listeners its code registers, and not through those it has by convention. -/
inductive Hearer (past : List PastBatch) (plan : Batch.Plan) (h : Host) : PluginUnit → Event → Prop
  | came {u : PluginUnit} (ready : u.state = .ready)
      (tracked : (Batch.run plan h).host.table.unit? u.id = some u) : Hearer past plan h u .pluginLoad
  | left {w : PluginUnit} (ready : w.state = .ready) (introduced : Introduced past w.path) :
      Hearer past plan h w.leaving .pluginUnload
  | refused {w : PluginUnit} (loaded : w.state = .loaded) (hears : w.Hears)
      (told : w.path ∈ (Batch.run plan h).result.load.succeeded.map Target.path)
      (failed : w.target ∈ (Batch.run plan h).result.dependencyCheck.failed) :
      Hearer past plan h w.leaving .pluginUnload
  | strange {v w : PluginUnit} (loaded : w.state = .loaded) (hears : w.Hears)
      (tracked : h.table.unit? h.settings.identity.id = some v) (path : v.path = w.path)
      (state : v.state = w.state) : Hearer past plan h w.leaving .pluginUnload

/-- What a batch lets plugins hear after some history: whatever it submits is for such a unit, and
all that fails the check hears that it goes. -/
structure Heard (past : List PastBatch) (plan : Batch.Plan) (h : Host) : Prop where
  offered : h.pool.Offered (Batch.validate (Batch.prepared plan h)).notices
    (Batch.run plan h).host.pool
  hearers : ∀ task ∈ (Batch.validate (Batch.prepared plan h)).notices, ∃ u event,
    Hearer past plan h u event ∧ task ∈ u.tasks event
  expelled : ∀ w ∈ (Batch.prepared plan h).expelled, ∀ task ∈ w.tasks .pluginUnload,
    task ∈ (Batch.validate (Batch.prepared plan h)).notices

namespace Host

variable {past : List PastBatch} {h : Host} {plan : Batch.Plan} {u : PluginUnit} {event : Event}

theorem HasHistory.hearer (hhistory : h.HasHistory past)
    (htells : (Batch.validate (Batch.prepared plan h)).Tells u event) :
    Hearer past plan h u event := by
  have hconsistent := hhistory.consistent
  cases event with
  | pluginLoad =>
      obtain ⟨hready, htracked⟩ := Batch.tracked_of_tells hconsistent htells
      exact .came hready htracked
  | pluginUnload =>
      cases htells with
      | left departed =>
          obtain ⟨w, rfl, hlive, hleaver⟩ := Batch.leaver_of_departed hconsistent departed
          rcases hlive.running with hloaded | hready
          · cases hleaver with
            | new _ told failed => exact .refused hloaded hlive.hears told failed
            | @old id v tracked path state =>
                -- Only one that goes by the id of the host is not ready between batches.
                have hhost : id = h.settings.identity.id := by
                  by_contra guest
                  cases (hhistory.ready tracked guest).symm.trans (state.trans hloaded)
                exact .strange hloaded hlive.hears (hhost ▸ tracked) path state
          · cases hleaver with
            | new loaded _ _ => cases loaded.symm.trans hready
            | old tracked path state =>
                exact .left hready (path ▸ hhistory.introduced tracked (state.trans hready))
  | _ => cases htells

theorem HasHistory.heard (hhistory : h.HasHistory past) (plan : Batch.Plan) :
    Heard past plan h where
  offered := Batch.run_offered plan hhistory.consistent
  hearers := by
    intro task htask
    obtain ⟨u, event, htells, hmem⟩ := Batch.mem_notices_iff.mp htask
    exact ⟨u, event, hhistory.hearer htells, hmem⟩
  expelled := by
    intro w hw task htask
    have hgone : w.leaving ∈ (Batch.validate (Batch.prepared plan h)).departed := by
      rw [(Batch.validate_expelled (Batch.consistent_prepared hhistory.consistent)).1]
      exact List.mem_append_right _ (List.mem_map_of_mem hw)
    exact Batch.mem_notices_iff.mpr ⟨w.leaving, .pluginUnload, .left hgone, htask⟩

/-- In every run, whoever hears of an event that is dispatched is ready, was told of its loading
when it became ready, and has been there since. Of its unloading a unit hears whenever it goes: one
that the check fails does, though nobody told it that it was loaded. -/
theorem Reachable.listeners_introduced (hreach : h.Reachable) : (∃ past, h.HasHistory past) ∧
    ∀ past, h.HasHistory past →
      (∀ c ∈ past, c.before.pool.Offered c.checked.notices c.after.pool) ∧
      (∀ event payload,
        h.pool.Offered ((h.listenersFor event).map (·.task payload))
          (h.dispatch event payload).1.pool ∧
        (h.dispatch event payload).1.HasHistory past ∧
        ∀ l ∈ h.listenersFor event, ∃ u ∈ h.table.running, l ∈ u.registry.listenersOf event ∧
          Introduced past u.path) ∧
      ∀ plan, Heard past plan h := by
  refine ⟨hreach.hasHistory, fun past hhistory => ⟨fun c hc => ?_,
    fun event payload =>
      ⟨?_, hhistory.besidesBatches (h.besidesBatches_dispatch event payload), ?_⟩,
    hhistory.heard⟩⟩
  · obtain ⟨earlier, hearlier⟩ := hhistory.pastBatch hc
    exact (hearlier.heard c.plan).offered
  · exact submitAll_offered h.pool ((h.listenersFor event).map (·.task payload))
  · intro l hl
    obtain ⟨u, hu, hmem⟩ := List.mem_flatMap.mp ((h.stably_listenersFor event).perm.mem_iff.mp hl)
    refine ⟨u, hu, hmem, ?_⟩
    obtain ⟨hunit, hready⟩ := List.mem_filter.mp hu
    obtain ⟨e, he, rfl⟩ := List.mem_map.mp hunit
    exact hhistory.introduced ((UnitTable.unit?_eq_some_iff hhistory.consistent.distinct).mpr he)
      (of_decide_eq_true hready)

end Host

namespace HostWitness

/-- A plugin that needs one that is not there, and registers what it does when it goes. -/
def shunned : Loader where
  load _ _ path :=
    match path.text with
    | "chat.mcdr" =>
      .ok ⟨{ code "chat" "1.0.0" [("core", .text "*")] with
        registrations := .ok [.listener .pluginUnload 1000 ⟨"chat", "went", fun _ => ⟨[], .ok ()⟩⟩] },
        []⟩
    | other => .error (.load ⟨other⟩ "there is nothing")
  unload _ _ := .ok ()
  unloadLog _ := []

/-- A host that never loaded anything. -/
def silent : Host := .create settings ⟨"en", []⟩ shunned .empty (.create 1 .spawn .none)

/-- A batch that loads the plugin. -/
def arrival : Batch.Plan := { Batch.Plan.none with discover := some [⟨"chat.mcdr"⟩] }

/-- The only one that hears anything never was ready. -/
theorem silent_hears_of_leaving : silent.Reachable ∧ silent.HasHistory [] ∧
    silent.pool.shutDown = false ∧
    ∃ task, (Batch.validate (Batch.prepared arrival silent)).notices = [task] ∧
      silent.pool.Took [task] (Batch.run arrival silent).host.pool ∧
      ∃ w : PluginUnit, w.state = .loaded ∧
        w.target ∈ (Batch.run arrival silent).result.dependencyCheck.failed ∧
        task ∈ w.tasks .pluginUnload := by
  have hreach : silent.Reachable := .create _ _ _ _ _
  have hhistory : silent.HasHistory [] := .create _ _ _ _ _
  obtain ⟨task, htask⟩ := List.length_eq_one_iff.mp
    (show (Batch.validate (Batch.prepared arrival silent)).notices.length = 1 by decide +kernel)
  obtain ⟨_, _, hheard⟩ := hreach.listeners_introduced.2 [] hhistory
  obtain ⟨hoffered, hhearers, _⟩ := hheard arrival
  rw [htask] at hoffered hhearers
  refine ⟨hreach, hhistory, rfl, task, htask, hoffered, ?_⟩
  obtain ⟨u, event, hhearer, hmem⟩ := hhearers task (List.mem_singleton_self task)
  cases hhearer with
  | came _ tracked =>
      have hnobody : (Batch.run arrival silent).host.table.ids = [] := by decide +kernel
      rw [UnitTable.unit?_eq_none_iff.mpr (by simp [hnobody])] at tracked
      cases tracked
  | left _ introduced =>
      obtain ⟨front, c, back, hpast, _⟩ := introduced
      simp at hpast
  | @refused w loaded _ _ failed => exact ⟨w, loaded, failed, hmem⟩
  | strange _ _ tracked => cases tracked

end HostWitness

end PluginHost
