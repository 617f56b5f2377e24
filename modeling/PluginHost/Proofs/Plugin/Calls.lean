import PluginHost.Proofs.Plugin.Live

/-!
The calls of the loader that operations on units make. A load that comes to
nothing gives back what it was handed; a reload gives the old sub-units back
first; an unload gives back all that a unit holds, and a unit that goes holds
nothing. The records written meanwhile are left open.
-/
namespace PluginHost

/-- The calls for a file that brought nothing: the loader refused, or it gave code that panicked and
whose sub-units went back at once. -/
inductive FailedLoad (path : Path) : List LoaderCall → Prop
  | refused (cause : PluginError) : FailedLoad path [.load path (.error cause)]
  | returned (loaded : LoadedCode) (result : Except PluginError Unit) :
      FailedLoad path [.load path (.ok loaded), .unload loaded.subUnits result]

namespace PluginUnit

/-- A unit without its sub-units. -/
def bare (u : PluginUnit) : PluginUnit := { u with subUnits := [] }

/-- A unit that was unloaded and still has to hear of it. -/
def leaving (u : PluginUnit) : PluginUnit := { u with subUnits := [], state := .unloading }

/-- A unit at the end of its life. -/
def gone (u : PluginUnit) : PluginUnit :=
  { u with state := .unloaded, registry := u.registry.clear, defaults := [], code := none }

theorem releaseSubUnits_eq (u : PluginUnit) (env : UnitEnv) (t : Trace) : ∃ result log,
    u.releaseSubUnits env t = (u.bare, result, ⟨t.calls ++ [.unload u.subUnits result], log⟩) :=
  ⟨_, _, rfl⟩

/-! ### Loading -/

/-- What a load brought, if it registers what its code asks for. -/
def Brought (fresh : FreshLoad) : Prop :=
  ∃ asked, fresh.code.registrations = .ok asked ∧ conventional fresh.code = .ok fresh.defaults ∧
    fresh.registry = (Registry.ofId fresh.metadata.id).registerAll asked

/-- What comes of asking for the file of a unit. -/
inductive Fetched (path : Path) (t : Trace) : Except PluginError FreshLoad × Trace → Prop
  | failedLoad {calls : List LoaderCall} {log : List LogRecord} {cause : PluginError}
      (failedLoad : FailedLoad path calls) : Fetched path t (.error cause, ⟨t.calls ++ calls, log⟩)
  | brought {fresh : FreshLoad} {loaded : LoadedCode} {log : List LogRecord}
      (brought : Brought fresh) (held : fresh.subUnits = loaded.subUnits) :
      Fetched path t (.ok fresh, ⟨t.calls ++ [.load path (.ok loaded)], log⟩)

theorem freshLoad_fetched (u : PluginUnit) (env : UnitEnv) (t : Trace) :
    Fetched u.path t (u.freshLoad env t) := by
  unfold freshLoad Trace.load
  cases env.loader.load t.calls env.files u.path with
  | error cause => exact .failedLoad (.refused cause)
  | ok loaded =>
      dsimp only
      split
      · next hexamine =>
          obtain ⟨data, asked, _, hasked⟩ := examine_ok (congrArg Prod.snd hexamine)
          exact .brought ⟨asked, hasked⟩ rfl
      · unfold Trace.unload
        dsimp only [Trace.write]
        rw [List.append_assoc]
        generalize env.loader.unload _ _ = result
        cases result <;> exact .failedLoad (.returned loaded _)

/-- What comes of loading a unit nobody looked at yet. -/
inductive Entry (u : PluginUnit) (t : Trace) : Step → Prop
  | failedLoad {calls : List LoaderCall} {log : List LogRecord} {cause : PluginError}
      (failedLoad : FailedLoad u.path calls) : Entry u t (u, .error cause, ⟨t.calls ++ calls, log⟩)
  | brought {v : PluginUnit} {loaded : LoadedCode} {log : List LogRecord} (live : v.Live)
      (path : v.path = u.path) (state : v.state = .loaded) (held : v.subUnits = loaded.subUnits) :
      Entry u t (v, .ok (), ⟨t.calls ++ [.load u.path (.ok loaded)], log⟩)

variable {u v : PluginUnit} {env : UnitEnv} {t : Trace}

theorem load_entry (h : u.state = .uninitialized) : Entry u t (u.load env t) := by
  have hstate : u.require [.uninitialized] = .ok () := require_ok_iff.mpr (by simp [h])
  have hfetched := u.freshLoad_fetched env t
  simp only [load, hstate]
  generalize u.freshLoad env t = fetched at hfetched
  cases hfetched with
  | failedLoad failedLoad => exact .failedLoad failedLoad
  | @brought fresh loaded log brought held =>
      obtain ⟨asked, hasked, hfound, hregistry⟩ := brought
      have hregistered : ({ u.adopt fresh with state := .loaded } : PluginUnit).HoldsRegistrations
          fresh.code asked fresh.defaults :=
        ⟨rfl, hasked, hfound, fun _ => ⟨hregistry, rfl⟩, fun hstate => by cases hstate⟩
      exact .brought ⟨rfl, .inl rfl, _, _, _, hregistered⟩ rfl rfl held

/-- A load that goes well takes over what the file brought. -/
theorem exists_fresh_of_load {after : Trace} (ran : u.load env t = (v, .ok (), after)) :
    ∃ fresh log, u.freshLoad env t = (.ok fresh, ⟨after.calls, log⟩) ∧
      v = { u.adopt fresh with state := .loaded } := by
  unfold load at ran
  split at ran
  · cases ran
  · split at ran
    · cases ran
    · next fresh between hfresh =>
        cases ran
        exact ⟨fresh, between.log, hfresh, rfl⟩

theorem state_of_load (hstate : u.state = .uninitialized) {after : Trace}
    (hload : u.load env t = (v, .ok (), after)) : v.state = .loaded := by
  have hentry : Entry u t (u.load env t) := load_entry hstate
  rw [hload] at hentry
  cases hentry with
  | brought _ _ state _ => exact state

/-! ### Loading again -/

/-- The calls of a reload that comes to nothing: the old sub-units do not go back, or the file
brings nothing. -/
inductive FailedReload (u : PluginUnit) : List LoaderCall → Prop
  | stuck (cause : PluginError) : FailedReload u [.unload u.subUnits (.error cause)]
  | failedLoad {calls : List LoaderCall} (failedLoad : FailedLoad u.path calls) :
      FailedReload u (.unload u.subUnits (.ok ()) :: calls)

/-- The calls of a reload that goes well. -/
def again (u : PluginUnit) (loaded : LoadedCode) : List LoaderCall :=
  [.unload u.subUnits (.ok ()), .load u.path (.ok loaded)]

/-- A unit after its file was loaded again. -/
structure Back (u v : PluginUnit) (loaded : LoadedCode) : Prop where
  live : v.Live
  path : v.path = u.path
  state : v.state = u.state
  held : v.subUnits = loaded.subUnits

/-- All calls for a unit that is to be loaded again: it is back, or it goes, with nothing left to
give back or with what the load brought. -/
inductive Attempt (u : PluginUnit) : List LoaderCall → Prop
  | back (loaded : LoadedCode) : Attempt u (u.again loaded)
  | failedReload {calls : List LoaderCall} (failedReload : u.FailedReload calls)
      (result : Except PluginError Unit) :
      Attempt u (calls ++ [.unload [] result])
  | taken (loaded : LoadedCode) (result : Except PluginError Unit) :
      Attempt u (u.again loaded ++ [.unload loaded.subUnits result])

/-- A call that is about a unit: it asks for its file, or gives back what the unit held, what its
file brought in some calls, or nothing at all. -/
inductive About (u : PluginUnit) (calls : List LoaderCall) : LoaderCall → Prop
  | load (result : Except PluginError LoadedCode) : About u calls (.load u.path result)
  | held (result : Except PluginError Unit) : About u calls (.unload u.subUnits result)
  | brought {loaded : LoadedCode} (load : .load u.path (.ok loaded) ∈ calls)
      (result : Except PluginError Unit) : About u calls (.unload loaded.subUnits result)
  | nothing (result : Except PluginError Unit) : About u calls (.unload [] result)

theorem About.mono {calls all : List LoaderCall} {call : LoaderCall} (h : u.About calls call)
    (subset : calls ⊆ all) : u.About all call := by
  cases h with
  | load result => exact .load result
  | held result => exact .held result
  | brought load result => exact .brought (subset load) result
  | nothing result => exact .nothing result

theorem About.of_again {loaded : LoadedCode} {calls : List LoaderCall} {call : LoaderCall}
    (h : call ∈ u.again loaded) : u.About calls call := by
  simp only [again, List.mem_cons, List.not_mem_nil, or_false] at h
  rcases h with rfl | rfl
  · exact .held _
  · exact .load _

theorem FailedReload.about {calls : List LoaderCall} {call : LoaderCall} (h : u.FailedReload calls)
    (hcall : call ∈ calls) : u.About calls call := by
  cases h with
  | stuck cause =>
      rw [List.mem_singleton.mp hcall]
      exact .held _
  | failedLoad failedLoad =>
      rcases List.mem_cons.mp hcall with rfl | hrest
      · exact .held _
      · cases failedLoad with
        | refused cause =>
            rw [List.mem_singleton.mp hrest]
            exact .load _
        | returned loaded result =>
            simp only [List.mem_cons, List.not_mem_nil, or_false] at hrest
            rcases hrest with rfl | rfl
            · exact .load _
            · exact .brought (by simp) _

theorem Attempt.about {calls : List LoaderCall} {call : LoaderCall} (h : u.Attempt calls)
    (hcall : call ∈ calls) : u.About calls call := by
  cases h with
  | back loaded => exact .of_again hcall
  | @failedReload calls failedReload result =>
      rcases List.mem_append.mp hcall with hfirst | hlast
      · exact (failedReload.about hfirst).mono (List.subset_append_left _ _)
      · rw [List.mem_singleton.mp hlast]
        exact .nothing _
  | taken loaded result =>
      rcases List.mem_append.mp hcall with hfirst | hlast
      · exact .of_again hfirst
      · rw [List.mem_singleton.mp hlast]
        exact .brought (by simp [again]) _

/-- What comes of loading a unit again. -/
inductive Reloaded (u : PluginUnit) (t : Trace) : Step → Prop
  | failedReload {calls : List LoaderCall} {log : List LogRecord} {cause : PluginError}
      (failedReload : u.FailedReload calls) :
      Reloaded u t (u.bare, .error cause, ⟨t.calls ++ calls, log⟩)
  | back {v : PluginUnit} {loaded : LoadedCode} {log : List LogRecord} (back : u.Back v loaded) :
      Reloaded u t (v, .ok (), ⟨t.calls ++ u.again loaded, log⟩)

theorem Back.of_adopt {fresh : FreshLoad} {loaded : LoadedCode}
    (running : u.state = .loaded ∨ u.state = .ready) (brought : Brought fresh)
    (held : fresh.subUnits = loaded.subUnits) :
    u.Back (if u.state = .ready then (u.adopt fresh).registerDefaults else u.adopt fresh)
      loaded := by
  obtain ⟨asked, hasked, hfound, hregistry⟩ := brought
  split
  · next hready =>
      have hregistered : (u.adopt fresh).registerDefaults.HoldsRegistrations fresh.code asked
          fresh.defaults := by
        refine ⟨rfl, hasked, hfound, fun hloaded => ?_, fun _ => ?_⟩
        · cases hready.symm.trans hloaded
        · exact congrArg (·.addDefaults fresh.defaults) hregistry
      exact ⟨⟨rfl, running, _, _, _, hregistered⟩, rfl, rfl, held⟩
  · next hother =>
      have hregistered : (u.adopt fresh).HoldsRegistrations fresh.code asked fresh.defaults :=
        ⟨rfl, hasked, hfound, fun _ => ⟨hregistry, rfl⟩, fun hready => absurd hready hother⟩
      exact ⟨⟨rfl, running, _, _, _, hregistered⟩, rfl, rfl, held⟩

theorem reload_reloaded (h : u.state = .loaded ∨ u.state = .ready) :
    Reloaded u t (u.reload env t) := by
  have hstate : u.require [.loaded, .ready] = .ok () := require_ok_iff.mpr (by simpa using h)
  obtain ⟨result, log, hrelease⟩ := u.releaseSubUnits_eq env t
  simp only [reload, hstate, hrelease]
  cases result with
  | error cause => exact .failedReload (.stuck cause)
  | ok _ =>
      have hfetched := u.bare.freshLoad_fetched env ⟨t.calls ++ [.unload u.subUnits (.ok ())], log⟩
      dsimp only
      generalize u.bare.freshLoad env _ = fetched at hfetched
      cases hfetched with
      | failedLoad failedLoad =>
          rw [List.append_assoc]
          exact .failedReload (.failedLoad failedLoad)
      | brought brought held =>
          rw [List.append_assoc]
          exact .back (.of_adopt h brought held)

/-- A reload that goes well takes over what the file brought once the old sub-units were given
back. -/
theorem exists_fresh_of_reload {after : Trace} (ran : u.reload env t = (v, .ok (), after)) :
    ∃ fresh given log,
      u.bare.freshLoad env ⟨t.calls ++ [.unload u.subUnits (.ok ())], given⟩ =
        (.ok fresh, ⟨after.calls, log⟩) ∧
      v = if u.state = .ready then (u.bare.adopt fresh).registerDefaults
        else u.bare.adopt fresh := by
  obtain ⟨result, given, hrelease⟩ := u.releaseSubUnits_eq env t
  unfold reload at ran
  rw [hrelease] at ran
  split at ran
  · cases ran
  · cases result with
    | error cause => cases ran
    | ok _ =>
        dsimp only at ran
        split at ran
        · cases ran
        · next fresh between hfresh =>
            cases ran
            exact ⟨fresh, given, between.log, hfresh, rfl⟩

/-! ### Leaving -/

/-- What unloading makes of a unit, with the calls it took and how it went: a unit that lives gives
back all it holds, and one that is gone already stays as it is. -/
inductive Leaves (u : PluginUnit) :
    PluginUnit → List LoaderCall → Except PluginError Unit → Prop
  | unloads (result : Except PluginError Unit) :
      Leaves u u.leaving [.unload u.subUnits result] result
  | refuses {cause : PluginError} (dead : u.state = .unloading ∨ u.state = .unloaded) :
      Leaves u u [] (.error cause)

theorem unload_leaves (u : PluginUnit) (env : UnitEnv) (t : Trace) :
    ∃ v calls result log, u.unload env t = (v, result, ⟨t.calls ++ calls, log⟩) ∧
      u.Leaves v calls result := by
  cases hstate : u.require [.uninitialized, .loaded, .ready] with
  | error cause =>
      refine ⟨u, [], .error cause, t.log, by simp [unload, hstate], .refuses ?_⟩
      cases hu : u.state <;> simp_all [require]
  | ok _ =>
      obtain ⟨result, log, hrelease⟩ := u.releaseSubUnits_eq env t
      exact ⟨u.leaving, _, result, log, by simp [unload, hstate, hrelease, bare, leaving],
        .unloads result⟩

theorem Live.bare (h : u.Live) : u.bare.Live := by
  obtain ⟨code, asked, found, hholds⟩ := h.registrations
  exact ⟨h.described, h.running, code, asked, found, hholds.known, hholds.registers,
    hholds.conventions, hholds.pending, hholds.settled⟩

theorem Live.leaves {calls : List LoaderCall} {result : Except PluginError Unit} (h : u.Live)
    (leaves : u.Leaves v calls result) : v = u.leaving ∧ calls = [.unload u.subUnits result] := by
  cases leaves with
  | unloads => exact ⟨rfl, rfl⟩
  | refuses dead => rcases h.running with hstate | hstate <;> simp [hstate] at dead

theorem remove_unloading (h : u.state = .unloading) : u.remove = (u.gone, .ok ()) := by
  have hstate : u.require [.unloading] = .ok () := require_ok_iff.mpr (by simp [h])
  rw [remove, hstate]
  rfl

end PluginUnit

end PluginHost
