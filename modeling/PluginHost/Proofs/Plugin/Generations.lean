import PluginHost.Proofs.Plugin.Lifecycle
import PluginHost.Proofs.Plugin.ListenerOrder

/-!
What a unit listens to over its whole life. Each load and each reload that goes
well starts a generation: its listeners are those that the code of this
generation asks for and those that were added since, in the order in which they
came, and nothing of earlier generations. The listeners that code has by
convention come in once, when the unit becomes ready, or at once if it is.
-/
namespace PluginHost

/-- The code a call of the loader brought. -/
def LoaderCall.code? : LoaderCall → Option PluginCode
  | .load _ (.ok loaded) => some loaded.code
  | _ => none

/-- What operations that go well do to what a unit listens to. -/
inductive Happening where
  /-- A load or a reload brought code. -/
  | brought (code : PluginCode)
  | readied
  | added (event : Event) (listener : Listener)

namespace Happening

def isBrought : Happening → Bool
  | .brought _ => true
  | _ => false

def isReadied : Happening → Bool
  | .readied => true
  | _ => false

/-- The listeners for an event that come in when something happens to a unit with some code. -/
def entries (code : PluginCode) (id : String) (event : Event) : Happening → List ListenerEntry
  | .brought _ => []
  | .readied => code.convention id event
  | .added e listener => if e = event then [⟨e, id, listener, defaultListenerPriority⟩] else []

end Happening

/-- What an operation that went well did, going by what was asked and what the loader answered. -/
def UnitOperation.happening (op : UnitOperation) (made : List LoaderCall) : List Happening :=
  match op with
  | .load _ | .reload _ => (made.filterMap LoaderCall.code?).map .brought
  | .ready => [.readied]
  | .addListener event listener => [.added event listener]
  | .receive _ _ | .unload _ | .remove => []

/-- What happened when an operation was performed; nothing, if it failed. -/
def Performed.happened (r : Performed) (op : UnitOperation) (t : Trace) : List Happening :=
  match r.result with
  | .error _ => []
  | .ok () => op.happening (r.made t)

namespace Performed

variable {r : Performed} {op : UnitOperation} {t : Trace} {piece : List LoaderCall} {e : HostError}

theorem happened_of_error (failed : r.result = .error e) : r.happened op t = [] := by
  simp only [happened, failed]

theorem happened_of_ok (fine : r.result = .ok ()) (calls : r.trace.calls = t.calls ++ piece) :
    r.happened op t = op.happening piece := by
  simp only [happened, fine, made, calls, List.drop_left]

/-- Whether it went well does not matter for an operation that leaves no mark. -/
theorem happened_of_unmarked (unmarked : ∀ made, op.happening made = []) : r.happened op t = [] := by
  unfold happened
  split
  · rfl
  · exact unmarked _

end Performed

namespace PluginUnit

variable {u v : PluginUnit} {env : UnitEnv} {t after : Trace} {pool : Pool Call} {path : Path}
  {history before since : List Happening} {code : PluginCode} {event : Event} {listener : Listener}

/-- A life of a unit for a file, with all that happened in it. What else goes on meanwhile may
change the trace and the pool. -/
inductive HasHistory (path : Path) : PluginUnit → List Happening → Prop
  | new : HasHistory path (.ofPath path) []
  | perform {u : PluginUnit} {history : List Happening} (before : HasHistory path u history)
      (op : UnitOperation) (t : Trace) (pool : Pool Call) :
      HasHistory path (u.perform op t pool).unit (history ++ (u.perform op t pool).happened op t)

/-- The listeners for an event that wait until the unit becomes ready. -/
def pendingOf (u : PluginUnit) (event : Event) : List ListenerEntry :=
  (u.defaults.filter (·.1 = event)).map fun l => ⟨event, u.id, l.2, defaultListenerPriority⟩

/-- A unit to which a listener was added. -/
def listening (u : PluginUnit) (event : Event) (listener : Listener) : PluginUnit :=
  { u with registry := u.registry.addListener event listener defaultListenerPriority }

/-- What a running unit listens to, if some code was the last that was brought: `before` happened
before that, `since` behind it. -/
structure Listens (u : PluginUnit) (history before : List Happening) (code : PluginCode)
    (since : List Happening) : Prop where
  split : history = before ++ .brought code :: since
  latest : ∀ h ∈ since, h.isBrought = false
  current : u.code = some code
  /-- It became ready once, or it is not ready. -/
  once : history.countP Happening.isReadied = if u.state = .ready then 1 else 0
  /-- The listeners that the code registers come first; behind them the one it has by convention, if
  the unit was ready when the code was brought; and then what came in since, in that order. -/
  heard : ∃ asked, code.registrations = .ok asked ∧ ∀ event, u.registry.listenersOf event =
    asked.filterMap (Registration.entry? u.id event) ++
      (if before.any Happening.isReadied then code.convention u.id event else []) ++
      since.flatMap (Happening.entries code u.id event)
  /-- As long as it is not ready, the listener by convention is pending. -/
  pending : u.state = .loaded → ∀ event, u.pendingOf event = code.convention u.id event
  owned : u.registry.Owned u.id

/-! ### Code that is brought -/

theorem freshLoad_code {fresh : FreshLoad} (ran : u.freshLoad env t = (.ok fresh, after)) :
    ∃ loaded, after.calls = t.calls ++ [.load u.path (.ok loaded)] ∧ fresh.code = loaded.code := by
  unfold freshLoad Trace.load at ran
  cases hload : env.loader.load t.calls env.files u.path with
  | error e => rw [hload] at ran; cases ran
  | ok loaded =>
      rw [hload] at ran
      dsimp only at ran
      split at ran
      · cases ran
        exact ⟨loaded, rfl, rfl⟩
      · split at ran <;> cases ran

theorem load_code (ran : u.load env t = (v, .ok (), after)) :
    ∃ loaded, after.calls = t.calls ++ [.load u.path (.ok loaded)] ∧ v.code = some loaded.code := by
  obtain ⟨fresh, log, hfresh, rfl⟩ := exists_fresh_of_load ran
  obtain ⟨loaded, hcalls, hcode⟩ := freshLoad_code hfresh
  exact ⟨loaded, hcalls, congrArg some hcode⟩

theorem reload_code (ran : u.reload env t = (v, .ok (), after)) :
    ∃ loaded, after.calls = t.calls ++ u.again loaded ∧ v.code = some loaded.code := by
  obtain ⟨fresh, given, log, hfresh, rfl⟩ := exists_fresh_of_reload ran
  obtain ⟨loaded, hcalls, hcode⟩ := freshLoad_code hfresh
  refine ⟨loaded, ?_, ?_⟩
  · rw [again, ← List.singleton_append, ← List.append_assoc]
    exact hcalls
  · split <;> exact congrArg some hcode

/-! ### Steps -/

/-- A unit that was just brought code listens to what the code asks for. -/
theorem Live.listens (h : v.Live) (current : v.code = some code)
    (once : history.countP Happening.isReadied = if v.state = .ready then 1 else 0) :
    v.Listens (history ++ [.brought code]) history code [] where
  split := rfl
  latest := nofun
  current := current
  once := by rw [List.countP_append, once]; rfl
  heard := by
    obtain ⟨same, asked, hsame, hasked, hheard⟩ := h.hears
    cases current.symm.trans hsame
    refine ⟨asked, hasked, fun event => ?_⟩
    have hready : history.any Happening.isReadied = true ↔ v.state = .ready := by
      rw [List.any_eq_true, ← List.countP_pos_iff, once]
      split <;> simp [*]
    rw [hheard event, List.flatMap_nil, List.append_nil]
    simp only [hready]
  pending := by
    intro hloaded event
    obtain ⟨same, asked, found, hholds⟩ := h.registrations
    cases current.symm.trans hholds.known
    rw [pendingOf, (hholds.pending hloaded).2, filter_of_conventional hholds.conventions]
  owned := h.owned

namespace Listens

theorem bare (h : u.Listens history before code since) : u.bare.Listens history before code since :=
  ⟨h.split, h.latest, h.current, h.once, h.heard, h.pending, h.owned⟩

/-- Something other than code came in, and left what the unit is called and runs as it was. -/
theorem follow {happening : Happening} (h : u.Listens history before code since)
    (keeps : happening.isBrought = false) (code_eq : v.code = u.code) (id_eq : v.id = u.id)
    (entered : ∀ event, v.registry.listenersOf event =
      u.registry.listenersOf event ++ happening.entries code u.id event)
    (once : (history ++ [happening]).countP Happening.isReadied = if v.state = .ready then 1 else 0)
    (pending : v.state = .loaded → ∀ event, v.pendingOf event = code.convention v.id event)
    (owned : v.registry.Owned v.id) :
    v.Listens (history ++ [happening]) before code (since ++ [happening]) where
  split := by rw [h.split, List.append_assoc, List.cons_append]
  latest := List.forall_mem_append.mpr ⟨h.latest, List.forall_mem_singleton.mpr keeps⟩
  current := code_eq.trans h.current
  once := once
  heard := by
    obtain ⟨asked, hasked, hheard⟩ := h.heard
    refine ⟨asked, hasked, fun event => ?_⟩
    rw [entered event, hheard event, id_eq, List.flatMap_append, List.flatMap_singleton,
      List.append_assoc _ _ (happening.entries code u.id event)]
  pending := pending
  owned := owned

theorem readied (h : u.Listens history before code since) (loaded : u.state = .loaded) :
    u.readied.Listens (history ++ [.readied]) before code (since ++ [.readied]) := by
  have honce : (history ++ [Happening.readied]).countP Happening.isReadied = 1 := by
    rw [List.countP_append, h.once, loaded]
    rfl
  refine h.follow rfl rfl rfl (fun event => ?_) honce nofun (h.owned.addDefaults u.defaults)
  have hregistry : u.readied.registry = u.registry.addDefaults u.defaults := rfl
  rw [hregistry, Registry.listenersOf_addDefaults, h.owned.pluginId]
  exact congrArg _ (h.pending loaded event)

theorem listened (h : u.Listens history before code since) :
    (u.listening event listener).Listens (history ++ [.added event listener]) before code
      (since ++ [.added event listener]) := by
  have honce : (history ++ [Happening.added event listener]).countP Happening.isReadied =
      if u.state = .ready then 1 else 0 := by
    rw [List.countP_append, h.once]
    rfl
  refine h.follow rfl rfl rfl (fun e => ?_) honce h.pending
    (h.owned.addListener event listener defaultListenerPriority)
  have hregistry : (u.listening event listener).registry =
    u.registry.addListener event listener defaultListenerPriority := rfl
  rw [hregistry, Registry.listenersOf_addListener, h.owned.pluginId]
  rfl

end Listens

/-- What is true of a unit all its life: nothing happened to it before it was loaded, and while it
runs it listens to what came in. -/
structure Recorded (u : PluginUnit) (history : List Happening) : Prop where
  untouched : u.state = .uninitialized → history = []
  running : u.state = .loaded ∨ u.state = .ready → ∃ before code since,
    u.Listens history before code since

namespace Recorded

theorem new (path : Path) : Recorded (.ofPath path) [] :=
  ⟨fun _ => rfl, nofun⟩

theorem of_listens (h : u.Listens history before code since)
    (running : u.state = .loaded ∨ u.state = .ready) : Recorded u history where
  untouched := fun hfresh => by simp [hfresh] at running
  running := fun _ => ⟨before, code, since, h⟩

theorem of_gone (gone : u.state = .unloading ∨ u.state = .unloaded) : Recorded u history where
  untouched := fun hfresh => by simp [hfresh] at gone
  running := fun hrunning => by rcases gone with hgone | hgone <;> simp [hgone] at hrunning

/-- A load that failed leaves no mark in the history. -/
theorem load (h : Recorded u history) (fresh : u.state = .uninitialized) :
    Recorded (u.perform (.load env) t pool).unit
      (history ++ (u.perform (.load env) t pool).happened (.load env) t) := by
  have hentry : Entry u t (u.load env t) := load_entry fresh
  rw [perform]
  cases hran : u.load env t with
  | mk v rest =>
      rw [hran] at hentry
      cases hentry with
      | failedLoad failedLoad =>
          rw [Performed.happened_of_error rfl, List.append_nil]
          exact h
      | brought live path state held =>
          obtain ⟨loaded, hcalls, hcode⟩ := load_code hran
          cases List.append_cancel_left hcalls
          rw [h.untouched fresh, Performed.happened_of_ok rfl rfl]
          have honce : [].countP Happening.isReadied = if v.state = .ready then 1 else 0 := by
            rw [state]
            rfl
          exact of_listens (live.listens hcode honce) (.inl state)

theorem ready (h : Recorded u history) (loaded : u.state = .loaded) :
    Recorded (u.perform .ready t pool).unit
      (history ++ (u.perform .ready t pool).happened .ready t) := by
  obtain ⟨before, code, since, hlistens⟩ := h.running (.inl loaded)
  rw [perform, ready_of_loaded loaded, Performed.happened_of_ok rfl (List.append_nil _).symm]
  exact of_listens (hlistens.readied loaded) (.inr rfl)

theorem reload (h : Recorded u history) (running : u.state = .loaded ∨ u.state = .ready) :
    Recorded (u.perform (.reload env) t pool).unit
      (history ++ (u.perform (.reload env) t pool).happened (.reload env) t) := by
  obtain ⟨before, code, since, hlistens⟩ := h.running running
  have hreloaded : Reloaded u t (u.reload env t) := reload_reloaded running
  rw [perform]
  cases hran : u.reload env t with
  | mk v rest =>
      rw [hran] at hreloaded
      cases hreloaded with
      | failedReload failedReload =>
          rw [Performed.happened_of_error rfl, List.append_nil]
          exact of_listens hlistens.bare running
      | back back =>
          obtain ⟨loaded, hcalls, hcode⟩ := reload_code hran
          rw [Performed.happened_of_ok rfl hcalls]
          have honce : history.countP Happening.isReadied = if v.state = .ready then 1 else 0 := by
            rw [back.state]
            exact hlistens.once
          exact of_listens (back.live.listens hcode honce) (back.state ▸ running)

theorem addListener (h : Recorded u history) (running : u.state = .loaded ∨ u.state = .ready) :
    Recorded (u.perform (.addListener event listener) t pool).unit
      (history ++ (u.perform (.addListener event listener) t pool).happened
        (.addListener event listener) t) := by
  obtain ⟨before, code, since, hlistens⟩ := h.running running
  have hstate : u.require [.loaded, .ready] = .ok () := require_ok_iff.mpr (by simpa using running)
  rw [perform, PluginUnit.addListener, hstate,
    Performed.happened_of_ok rfl (List.append_nil _).symm]
  exact of_listens hlistens.listened running

/-- Whatever is asked of a unit, its history still tells what it listens to. -/
theorem perform (h : Recorded u history) (op : UnitOperation) (t : Trace) (pool : Pool Call) :
    Recorded (u.perform op t pool).unit (history ++ (u.perform op t pool).happened op t) := by
  by_cases hallowed : u.state ∈ op.allowed
  · cases op with
    | load env => exact h.load (List.mem_singleton.mp hallowed)
    | ready => exact h.ready (List.mem_singleton.mp hallowed)
    | reload env => exact h.reload (by simpa [UnitOperation.allowed] using hallowed)
    | addListener event listener =>
        exact h.addListener (by simpa [UnitOperation.allowed] using hallowed)
    | receive event payload =>
        rw [Performed.happened_of_unmarked fun _ => rfl, List.append_nil]
        exact h
    | unload env =>
        obtain ⟨v, piece, result, log, hunload, hleaves⟩ := u.unload_leaves env t
        rw [PluginUnit.perform, hunload]
        cases hleaves with
        | unloads => exact of_gone (.inl rfl)
        | refuses dead => exact of_gone dead
    | remove =>
        have hgoing : u.state = .unloading := List.mem_singleton.mp hallowed
        rw [PluginUnit.perform, remove_unloading hgoing]
        exact of_gone (.inr rfl)
  · rw [perform_of_forbidden hallowed, Performed.happened_of_error rfl, List.append_nil]
    exact h

end Recorded

theorem HasHistory.recorded (h : HasHistory path u history) : Recorded u history := by
  induction h with
  | new => exact .new path
  | perform _ op t pool ih => exact ih.perform op t pool

/-! ### Ready and loaded again, in any order -/

/-- A loaded unit that became ready is loaded again as if it became ready afterwards. -/
theorem reload_readied (loaded : u.state = .loaded) :
    u.readied.reload env t =
      ((u.reload env t).1.readied, (u.reload env t).2.1, (u.reload env t).2.2) := by
  have hready : u.readied.require [.loaded, .ready] = .ok () := require_ok_iff.mpr (by simp)
  have hloaded : u.require [.loaded, .ready] = .ok () := require_ok_iff.mpr (by simp [loaded])
  obtain ⟨result, log, hrelease⟩ := u.releaseSubUnits_eq env t
  -- What a unit gives back, and the file it asks for, do not depend on whether it is ready.
  have hreadied : u.readied.releaseSubUnits env t = (u.bare.readied,
      (u.releaseSubUnits env t).2.1, (u.releaseSubUnits env t).2.2) := rfl
  have hfresh : ∀ t, u.bare.readied.freshLoad env t = u.bare.freshLoad env t := fun _ => rfl
  have hstate : u.bare.state ≠ .ready := by simp [bare, loaded]
  rw [hrelease] at hreadied
  simp only [reload, hready, hloaded, hreadied, hrelease]
  cases result with
  | error cause => rfl
  | ok _ =>
      dsimp only
      rw [hfresh]
      split
      · rfl
      · next fresh _ _ =>
          have hadopted : (u.bare.adopt fresh).state ≠ .ready := hstate
          dsimp only
          rw [if_neg hadopted]
          rfl

theorem state_reload (u : PluginUnit) (env : UnitEnv) (t : Trace) :
    (u.reload env t).1.state = u.state := by
  by_cases hrunning : u.state = .loaded ∨ u.state = .ready
  · have hreloaded : Reloaded u t (u.reload env t) := reload_reloaded hrunning
    generalize u.reload env t = step at hreloaded
    cases hreloaded with
    | failedReload => rfl
    | back back => exact back.state
  · have hrefused : u.require [.loaded, .ready] = .error _ := require_of_not_mem (by simpa using hrunning)
    rw [PluginUnit.reload, hrefused]

theorem ready_of_not_loaded (other : u.state ≠ .loaded) : u.ready.1 = u := by
  have hrefused : u.require [.loaded] = .error _ := require_of_not_mem (by simpa using other)
  rw [PluginUnit.ready, hrefused]

theorem ready_reload_comm (u : PluginUnit) (env : UnitEnv) (t : Trace) :
    (u.ready.1.reload env t).1 = (u.reload env t).1.ready.1 := by
  have hstate := u.state_reload env t
  by_cases hloaded : u.state = .loaded
  · rw [ready_of_loaded hloaded, ready_of_loaded (hstate.trans hloaded), reload_readied hloaded]
  · have hother : (u.reload env t).1.state ≠ .loaded := hstate ▸ hloaded
    rw [ready_of_not_loaded hloaded, ready_of_not_loaded hother]

/-- As long as a unit runs, it listens to what its latest code asks for and to what came in since,
and to nothing else; and whether it becomes ready before it is loaded again or afterwards comes to
the same. -/
theorem HasHistory.hears_only_latest (h : HasHistory path u history) :
    (u.state = .loaded ∨ u.state = .ready →
      ∃ before code since, u.Listens history before code since) ∧
    ∀ (r : Performed) (env again : UnitEnv),
      (performAll r [.load env, .ready, .reload again]).unit =
        (performAll r [.load env, .reload again, .ready]).unit :=
  ⟨h.recorded.running, fun r env again =>
    ready_reload_comm (r.unit.load env r.trace).1 again (r.unit.load env r.trace).2.2⟩

/-- Operations one after the other, each told from what it left. -/
def happenedAll (r : Performed) : List UnitOperation → List Happening
  | [] => []
  | op :: rest =>
    let next := r.unit.perform op r.trace r.pool
    next.happened op r.trace ++ happenedAll next rest

theorem HasHistory.performAll {r : Performed} (h : HasHistory path r.unit history)
    (ops : List UnitOperation) :
    HasHistory path (performAll r ops).unit (history ++ happenedAll r ops) := by
  induction ops generalizing r history with
  | nil =>
      rw [happenedAll, List.append_nil]
      exact h
  | cons op rest ih =>
      rw [happenedAll, ← List.append_assoc]
      exact ih (h.perform op r.trace r.pool)

namespace GenerationWitness

def voice (origin : String) : Listener := ⟨origin, "on_load", fun _ => ⟨[], .ok ()⟩⟩

/-- Code that registers a listener for its load and has another one by convention. -/
def dialect (origin : String) : PluginCode where
  metadata := .ok none
  registrations := .ok [.listener .pluginLoad 10 (voice (origin ++ " asked"))]
  callback := fun name =>
    .ok (if name = "on_load" then some (voice (origin ++ " by convention")) else none)

/-- A loader that brings other code each time. -/
def loader : Loader where
  load history _ _ := .ok ⟨dialect (if history.isEmpty then "old" else "new"), []⟩
  unload _ _ := .ok ()
  unloadLog _ := []

def setting : UnitEnv := ⟨loader, .empty, ".mcdr", ⟨"en", []⟩, .none⟩

/-- What is asked of the unit: it gets a listener before and behind everything that brings
others. -/
def asked : List UnitOperation :=
  [.load setting, .addListener .pluginLoad (voice "early"), .ready, .reload setting,
    .addListener .pluginLoad (voice "late"), .ready]

def start : Performed :=
  ⟨.ofPath ⟨"a.mcdr"⟩, .empty, .create 1 .spawn .none, .ok ()⟩

def renewed : PluginUnit := (performAll start asked).unit

theorem renewed_hears : renewed.state = .ready ∧
    (renewed.registry.listenersOf .pluginLoad).map (·.listener.origin) =
      ["new asked", "new by convention", "late"] ∧
    ∃ before code since, renewed.Listens (happenedAll start asked) before code since := by
  have hnew : HasHistory ⟨"a.mcdr"⟩ start.unit [] := .new
  have hhistory : HasHistory ⟨"a.mcdr"⟩ renewed (happenedAll start asked) := hnew.performAll asked
  have hstate : renewed.state = .ready := by decide +kernel
  have hheard : (renewed.registry.listenersOf .pluginLoad).map (·.listener.origin) =
      ["new asked", "new by convention", "late"] := by decide +kernel
  exact ⟨hstate, hheard, hhistory.hears_only_latest.1 (.inr hstate)⟩

end GenerationWitness

end PluginUnit

end PluginHost
