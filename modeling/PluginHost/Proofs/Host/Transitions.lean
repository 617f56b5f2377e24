import Mathlib.Logic.Relation
import PluginHost.Host.Batch
import PluginHost.Proofs.Host.Table
import PluginHost.Proofs.Plugin.Calls

/-!
What the phases of a batch can do, one transition at a time: which unit comes,
goes or is loaded again, which calls of the loader that takes, and what is
noted of it. Everything else about phases is read off from here. The records
written on the way are left open.
-/
namespace PluginHost.Batch

/-- A batch once units changed and the loader was called. -/
def made (b : Batch) (table : UnitTable) (calls : List LoaderCall) (log : List LogRecord) : Batch :=
  { b with host := { b.host with table, trace := ⟨b.host.trace.calls ++ calls, log⟩ } }

/-- Note that a unit left the table. -/
def noteGone (b : Batch) (unit : PluginUnit) : Batch :=
  { b with departed := b.departed ++ [unit] }

/-- What comes of loading a tracked unit again: it is back under its id, or under another one that
is free, or it goes because the load came to nothing or brought an id that is taken. -/
inductive Refreshed (b : Batch) (id : String) (u : PluginUnit) : Batch → Prop
  | kept {v : PluginUnit} {loaded : LoadedCode} {log : List LogRecord} (back : u.Back v loaded)
      (same : v.id = id) : Refreshed b id u
        (((b.made (b.host.table.update id v) (u.again loaded) log).noteReload v.target
          true).noteFresh id)
  | moved {v : PluginUnit} {loaded : LoadedCode} {log : List LogRecord} (back : u.Back v loaded)
      (free : b.host.table.unit? v.id = none) : Refreshed b id u
        (((b.made ((b.host.table.update id v).rename id v.id) (u.again loaded) log).noteReload
          v.target true).noteFresh v.id)
  | failedReload {calls rest : List LoaderCall} {gone : PluginUnit}
      {result : Except PluginError Unit} {log : List LogRecord}
      (failedReload : u.FailedReload calls) (leaves : u.bare.Leaves gone rest result)
      (failed : ∃ v cause t, u.reload b.host.env b.host.trace = (v, .error cause, t)) :
      Refreshed b id u
        (((b.made (b.host.table.erase id) (calls ++ rest) log).noteGone gone).noteReload u.target
          false)
  | taken {v w gone : PluginUnit} {loaded : LoadedCode} {rest : List LoaderCall}
      {result : Except PluginError Unit} {log : List LogRecord} (back : u.Back v loaded)
      (other : v.id ≠ id) (taken : b.host.table.unit? v.id = some w)
      (leaves : v.Leaves gone rest result)
      (brought : ∃ t, u.reload b.host.env b.host.trace = (v, .ok (), t)) : Refreshed b id u
        (((b.made (b.host.table.erase id) (u.again loaded ++ rest) log).noteGone gone).noteReload
          v.target false)

/-- What comes of a file that was found: it is tracked already, or it brings nothing or an id that
is taken, or it brings a new unit. -/
inductive Discovered (b : Batch) : Path → Batch → Prop
  | known {path : Path} (tracked : b.host.table.containsPath path = true) : Discovered b path b
  | refused {path : Path} {calls : List LoaderCall} {log : List LogRecord}
      (free : b.host.table.containsPath path = false) (failedLoad : FailedLoad path calls) :
      Discovered b path ((b.made b.host.table calls log).noteLoad (.file path) false)
  | entered {u : PluginUnit} {loaded : LoadedCode} {log : List LogRecord} (live : u.Live)
      (state : u.state = .loaded) (held : u.subUnits = loaded.subUnits)
      (newId : b.host.table.unit? u.id = none) (newPath : b.host.table.containsPath u.path = false)
      (brought : ∃ t, (PluginUnit.ofPath u.path).load b.host.env b.host.trace = (u, .ok (), t)) :
      Discovered b u.path (((b.made (b.host.table.insert u.id u.path u)
        [.load u.path (.ok loaded)] log).noteLoad u.target true).noteFresh u.id)

/-- One transition of a batch. -/
inductive Transition (b : Batch) : Batch → Prop
  | record (log : List LogRecord) :
      Transition b { b with host := { b.host with trace := { b.host.trace with log } } }
  | prune {id : String} {u gone : PluginUnit} {calls : List LoaderCall}
      {result : Except PluginError Unit} {log : List LogRecord}
      (tracked : b.host.table.unit? id = some u) (leaves : u.Leaves gone calls result) :
      Transition b (((b.made (b.host.table.erase id) calls log).noteGone gone).noteUnload u.target
        result.isOk)
  | refuse {path : Path} {calls : List LoaderCall} {log : List LogRecord}
      (free : b.host.table.containsPath path = false) (failedLoad : FailedLoad path calls) :
      Transition b ((b.made b.host.table calls log).noteLoad (.file path) false)
  | enter {u : PluginUnit} {loaded : LoadedCode} {log : List LogRecord} (live : u.Live)
      (state : u.state = .loaded) (held : u.subUnits = loaded.subUnits)
      (newId : b.host.table.unit? u.id = none) (newPath : b.host.table.containsPath u.path = false) :
      Transition b (((b.made (b.host.table.insert u.id u.path u)
        [.load u.path (.ok loaded)] log).noteLoad u.target true).noteFresh u.id)
  | refresh {id : String} {u : PluginUnit} {after : Batch}
      (tracked : b.host.table.unit? id = some u) (refreshed : b.Refreshed id u after) :
      Transition b after
  | expel {id : String} {u gone : PluginUnit} {calls : List LoaderCall}
      {result : Except PluginError Unit} {log : List LogRecord}
      (tracked : b.host.table.unit? id = some u) (leaves : u.Leaves gone calls result) :
      Transition b (((b.made (b.host.table.erase id) calls log).noteGone gone).noteCheck u.target
        false)

/-- Some transitions of a batch, one after the other. -/
def Transitions : Batch → Batch → Prop :=
  Relation.ReflTransGen Transition

theorem Transitions.refl (b : Batch) : Transitions b b :=
  Relation.ReflTransGen.refl

theorem Transitions.trans {a b c : Batch} (hab : Transitions a b) (hbc : Transitions b c) :
    Transitions a c :=
  Relation.ReflTransGen.trans hab hbc

theorem Transition.transitions {a b : Batch} (h : Transition a b) : Transitions a b :=
  Relation.ReflTransGen.single h

theorem transitions_foldl {α : Type} {f : Batch → α → Batch} (step : ∀ b a, Transitions b (f b a))
    (l : List α) (b : Batch) : Transitions b (l.foldl f b) := by
  induction l generalizing b with
  | nil => exact .refl b
  | cons a rest ih => exact (step b a).trans (ih (f b a))

/-- What every transition keeps or makes true, whatever was done before. -/
theorem Transitions.keep {P : Batch → Prop} (step : ∀ {b after}, Transition b after → P b → P after)
    {b after : Batch} (h : Transitions b after) (hb : P b) : P after := by
  induction h with
  | refl => exact hb
  | tail _ htransition ih => exact step htransition ih

variable {b after : Batch} {id : String} {u : PluginUnit}

/-! ### Leaving -/

theorem depart_untracked (h : b.host.table.unit? id = none) : b.depart id = (b, none) := by
  simp [depart, h]

theorem depart_eq (tracked : b.host.table.unit? id = some u) : ∃ gone calls result log,
    u.Leaves gone calls result ∧ b.depart id =
      ((b.made (b.host.table.erase id) calls log).noteGone gone, some (u.target, result.isOk)) := by
  obtain ⟨gone, calls, result, log, hunload, hleaves⟩ := u.unload_leaves b.host.env b.host.trace
  cases result with
  | error cause => exact ⟨gone, calls, _, _, hleaves, by simp only [depart, tracked, hunload]; rfl⟩
  | ok _ => exact ⟨gone, calls, _, _, hleaves, by simp only [depart, tracked, hunload]; rfl⟩

theorem unit?_depart (b : Batch) (id i : String) : (b.depart id).1.host.table.unit? i =
    if i = id then none else b.host.table.unit? i := by
  cases hu : b.host.table.unit? id with
  | none =>
      rw [depart_untracked hu]
      by_cases hi : i = id
      · simp [hi, hu]
      · simp [hi]
  | some u =>
      obtain ⟨gone, calls, result, log, _, hdepart⟩ := depart_eq hu
      rw [hdepart]
      exact UnitTable.unit?_erase

/-- Looking for those that need some units writes records and changes nothing else. -/
theorem associated_fst (b : Batch) (selected : List String) (operation : String) : ∃ log,
    (b.associated selected operation).1 =
      { b with host := { b.host with trace := { b.host.trace with log } } } := by
  unfold associated
  split
  · exact ⟨b.host.trace.log, rfl⟩
  · dsimp only
    split
    · exact ⟨_, rfl⟩
    · exact ⟨_, rfl⟩

theorem associated_transitions (b : Batch) (selected : List String) (operation : String) :
    Transitions b (b.associated selected operation).1 := by
  obtain ⟨log, hlog⟩ := b.associated_fst selected operation
  rw [hlog]
  exact (Transition.record log).transitions

/-! ### Prune -/

theorem pruneOne_transitions (b : Batch) (id : String) : Transitions b (b.pruneOne id) := by
  unfold pruneOne
  cases htracked : b.host.table.unit? id with
  | none =>
      rw [depart_untracked htracked]
      exact .refl b
  | some u =>
      obtain ⟨gone, calls, result, log, hleaves, hdepart⟩ := depart_eq htracked
      rw [hdepart]
      exact (Transition.prune htracked hleaves).transitions

theorem prune_transitions (condition : PluginUnit → Bool) (b : Batch) :
    Transitions b (prune condition b) :=
  (b.associated_transitions _ _).trans (transitions_foldl pruneOne_transitions _ _)

/-! ### Discover -/

theorem discard_eq (b : Batch) (live : u.Live) : ∃ result log,
    b.discard u = b.made b.host.table [.unload u.subUnits result] log := by
  obtain ⟨gone, calls, result, log, hunload, hleaves⟩ := u.unload_leaves b.host.env b.host.trace
  obtain ⟨rfl, rfl⟩ := live.leaves hleaves
  have hremove : u.leaving.remove.2 = .ok () := by rw [PluginUnit.remove_unloading rfl]
  cases result with
  | error cause => exact ⟨_, _, by simp only [discard, hunload, hremove]; rfl⟩
  | ok _ => exact ⟨_, _, by simp only [discard, hunload, hremove]; rfl⟩

theorem discoverOne_discovered (b : Batch) (path : Path) :
    b.Discovered path (b.discoverOne path) := by
  unfold discoverOne
  split
  · next hpath => exact .known hpath
  · next hpath =>
      have hfree : b.host.table.containsPath path = false := by simpa using hpath
      have hentry : PluginUnit.Entry (.ofPath path) b.host.trace
          ((PluginUnit.ofPath path).load b.host.env b.host.trace) := PluginUnit.load_entry rfl
      generalize hran : (PluginUnit.ofPath path).load b.host.env b.host.trace = loaded at hentry
      cases hentry with
      | failedLoad failedLoad => exact .refused hfree failedLoad
      | @brought v loaded log live hpath' state held =>
          have hsame : v.path = path := hpath'
          subst hsame
          dsimp only
          split
          · next existing _ =>
              generalize hreported : Batch.tell _ _ _ _ = reported
              obtain ⟨result, log', hdiscard⟩ := reported.discard_eq live
              subst hreported
              rw [hdiscard]
              have hreturned : b.Discovered v.path ((b.made b.host.table
                  ([.load v.path (.ok loaded)] ++ [.unload v.subUnits result]) log').noteLoad
                  (.file v.path) false) := by
                rw [held]
                exact .refused hfree (.returned loaded result)
              simp only [made, ← List.append_assoc] at hreturned
              exact hreturned
          · next hid =>
              have hnewId : b.host.table.unit? v.id = none := by
                simpa [UnitTable.pathOf?] using hid
              exact .entered live state held hnewId hfree ⟨_, hran⟩

theorem Discovered.transitions {path : Path} (h : b.Discovered path after) :
    Transitions b after := by
  cases h with
  | known _ => exact .refl b
  | refused free failedLoad => exact (Transition.refuse free failedLoad).transitions
  | entered live state held newId newPath _ =>
      exact (Transition.enter live state held newId newPath).transitions

theorem discoverOne_transitions (b : Batch) (path : Path) : Transitions b (b.discoverOne path) :=
  (b.discoverOne_discovered path).transitions

theorem discover_transitions (files : List Path) (b : Batch) : Transitions b (discover files b) :=
  transitions_foldl discoverOne_transitions files b

/-! ### Refresh -/

/-- A unit whose reload failed goes, and what the reload put under its id goes with it. -/
theorem lose_eq (tracked : b.host.table.unit? id = some u) (v : PluginUnit)
    (calls : List LoaderCall) (log : List LogRecord) (level : Level) (key : String)
    (args : List String) : ∃ gone rest result log', v.Leaves gone rest result ∧
      ((((b.made (b.host.table.update id v) calls log).tell level key args).noteReload v.target
        false).depart id).1 =
      ((b.made (b.host.table.erase id) (calls ++ rest) log').noteGone gone).noteReload v.target
        false := by
  have hthere : (b.host.table.update id v).unit? id = some v :=
    UnitTable.unit?_update_self tracked v
  generalize hreported : Batch.noteReload _ _ _ = reported
  have hunit : reported.host.table.unit? id = some v := hreported ▸ hthere
  obtain ⟨gone, rest, result, log', hleaves, hdepart⟩ := depart_eq hunit
  refine ⟨gone, rest, result, log', hleaves, ?_⟩
  have hgone : (reported.depart id).1 = (((b.made ((b.host.table.update id v).erase id)
      (calls ++ rest) log').noteGone gone).noteReload v.target false) := by
    rw [hdepart, ← hreported]
    simp only [made, ← List.append_assoc]
    rfl
  rw [hgone, UnitTable.erase_update]

theorem refreshOne_refreshed (tracked : b.host.table.unit? id = some u)
    (running : u.state = .loaded ∨ u.state = .ready) (old : id ∉ b.fresh) :
    b.Refreshed id u (b.refreshOne id) := by
  have hreloadable : reloadable u = true := by simpa [reloadable] using running
  have hnew : b.fresh.contains id = false := by simpa using old
  have hreloaded : u.Reloaded b.host.trace (u.reload b.host.env b.host.trace) :=
    PluginUnit.reload_reloaded running
  simp only [refreshOne, tracked, hreloadable, hnew, reloadUnit]
  generalize hran : u.reload b.host.env b.host.trace = reloaded at hreloaded
  cases hreloaded with
  | @failedReload calls log cause failedReload =>
      obtain ⟨gone, rest, result, log', hleaves, hlost⟩ := lose_eq tracked u.bare calls log .error
        "plugin_manager.reload_plugin.fail" [u.bare.title, cause.message]
      have hvain : b.Refreshed id u (((b.made (b.host.table.erase id) (calls ++ rest)
          log').noteGone gone).noteReload u.bare.target false) :=
        .failedReload failedReload hleaves ⟨_, _, _, hran⟩
      rw [← hlost] at hvain
      exact hvain
  | @back v loaded log back =>
      by_cases hsame : v.id = id
      · simp only [hsame]
        exact .kept back hsame
      · have hother : (b.host.table.update id v).unit? v.id = b.host.table.unit? v.id := by
          rw [UnitTable.unit?_update, if_neg hsame]
        simp only [hsame, UnitTable.pathOf?, hother]
        cases htaken : b.host.table.unit? v.id with
        | none => exact .moved back htaken
        | some w =>
            obtain ⟨gone, rest, result, log', hleaves, hlost⟩ := lose_eq tracked v
              (u.again loaded) log .error "plugin_manager.reload_plugin.fail"
              [v.title, (PluginError.duplicateId v.id v.path w.path).message]
            have htakes : b.Refreshed id u (((b.made (b.host.table.erase id)
                (u.again loaded ++ rest) log').noteGone gone).noteReload v.target false) :=
              .taken back hsame htaken hleaves ⟨_, hran⟩
            rw [← hlost] at htakes
            exact htakes

/-- What loading one unit again does, if it does anything. -/
theorem refreshOne_cases (b : Batch) (id : String) : b.refreshOne id = b ∨
    ∃ u, b.host.table.unit? id = some u ∧ id ∉ b.fresh ∧ b.Refreshed id u (b.refreshOne id) := by
  by_cases hnew : id ∈ b.fresh
  · exact .inl (by simp [refreshOne, hnew])
  · cases htracked : b.host.table.unit? id with
    | none => exact .inl (by simp [refreshOne, htracked])
    | some u =>
        by_cases hreloadable : reloadable u = true
        · have hrunning : u.state = .loaded ∨ u.state = .ready := by
            simpa [reloadable] using hreloadable
          exact .inr ⟨u, rfl, hnew, refreshOne_refreshed htracked hrunning hnew⟩
        · exact .inl (by simp [refreshOne, htracked, hreloadable])

theorem refreshOne_transitions (b : Batch) (id : String) : Transitions b (b.refreshOne id) := by
  rcases b.refreshOne_cases id with hskip | ⟨u, htracked, _, hrefreshed⟩
  · rw [hskip]
    exact .refl b
  · exact (Transition.refresh htracked hrefreshed).transitions

theorem refresh_transitions (condition : PluginUnit → Bool) (b : Batch) :
    Transitions b (refresh condition b) :=
  (b.associated_transitions _ _).trans (transitions_foldl refreshOne_transitions _ _)

/-! ### Validate -/

/-- A unit that failed the check goes. -/
theorem validateOne_error (tracked : b.host.table.unit? id = some u) (cause : Dependency.Failure) :
    ∃ gone calls result log, u.Leaves gone calls result ∧ b.validateOne (id, .error cause) =
      ((b.made (b.host.table.erase id) calls log).noteGone gone).noteCheck u.target false := by
  generalize hreported : (b.tell .warn "plugin_manager.check_plugin_dependencies.item_failed"
    [u.target.title, cause.message]).noteCheck u.target false = reported
  have hunit : reported.host.table.unit? id = some u := hreported ▸ tracked
  obtain ⟨gone, calls, result, log, hleaves, hdepart⟩ := depart_eq hunit
  refine ⟨gone, calls, result, log, hleaves, ?_⟩
  simp only [validateOne, tracked, hreported, hdepart]
  subst hreported
  rfl

theorem validateOne_untracked (untracked : b.host.table.unit? id = none)
    (outcome : Except Dependency.Failure Unit) : b.validateOne (id, outcome) = b := by
  simp [validateOne, untracked]

theorem validateOne_error_transitions (b : Batch) (id : String) (cause : Dependency.Failure) :
    Transitions b (b.validateOne (id, .error cause)) := by
  cases htracked : b.host.table.unit? id with
  | none =>
      rw [validateOne_untracked htracked]
      exact .refl b
  | some u =>
      obtain ⟨gone, calls, result, log, hleaves, hgone⟩ := validateOne_error htracked cause
      rw [hgone]
      exact (Transition.expel htracked hleaves).transitions

end PluginHost.Batch
