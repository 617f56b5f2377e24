import PluginHost.Proofs.Plugin.Accounts

/-!
The life of a unit. Whatever is asked of it, in whatever order and however
loaders and plugin code answer, its state goes one way only; what its state does
not allow is refused and changes nothing; a load or a reload that fails leaves
of the unit what the documentation promises, and gives back what it was handed.
-/
namespace PluginHost

/-- What can be asked of a unit, with what it works with. -/
inductive UnitOperation where
  | load (env : UnitEnv)
  | ready
  | reload (env : UnitEnv)
  | addListener (event : Event) (listener : Listener)
  | receive (event : Event) (payload : Payload)
  | unload (env : UnitEnv)
  | remove

/-- The states of a unit in which an operation is allowed. -/
def UnitOperation.allowed : UnitOperation → List UnitState
  | .load _ => [.uninitialized]
  | .ready => [.loaded]
  | .reload _ => [.loaded, .ready]
  | .addListener _ _ => [.loaded, .ready]
  | .receive _ _ => [.ready, .unloading]
  | .unload _ => [.uninitialized, .loaded, .ready]
  | .remove => [.unloading]

/-- What an operation on a unit leaves, and whether it went well. -/
structure Performed where
  unit : PluginUnit
  trace : Trace
  pool : Pool Call
  result : Except HostError Unit

/-- The calls of the loader that were made meanwhile. -/
def Performed.made (r : Performed) (t : Trace) : List LoaderCall :=
  r.trace.calls.drop t.calls.length

/-- One step in the life of a unit. -/
inductive UnitState.Next : UnitState → UnitState → Prop
  | load : Next .uninitialized .loaded
  | ready : Next .loaded .ready
  | unload {state : UnitState} (live : state ∈ [.uninitialized, .loaded, .ready]) :
      Next state .unloading
  | remove : Next .unloading .unloaded

/-- A load that brings nothing gives back what it was handed. -/
theorem FailedLoad.returns {path : Path} {attempt : List LoaderCall} (h : FailedLoad path attempt) :
    Custody.handedBack attempt = Custody.handedOut attempt := by
  cases h with
  | refused cause => rfl
  | returned loaded result =>
      simp [Custody.handedBack, Custody.handedOut, LoaderCall.handedBack, LoaderCall.handedOut]

namespace PluginUnit

/-- Do what is asked. -/
def perform (u : PluginUnit) (op : UnitOperation) (t : Trace) (pool : Pool Call) : Performed :=
  match op with
  | .load env =>
    let (v, result, t) := u.load env t
    ⟨v, t, pool, result.mapError .plugin⟩
  | .ready =>
    let (v, result) := u.ready
    ⟨v, t, pool, result.mapError .plugin⟩
  | .reload env =>
    let (v, result, t) := u.reload env t
    ⟨v, t, pool, result.mapError .plugin⟩
  | .addListener event listener =>
    let (v, result) := u.addListener event listener
    ⟨v, t, pool, result.mapError .plugin⟩
  | .receive event payload =>
    let submitted := u.receive event payload pool
    ⟨u, t.write submitted.log, submitted.pool, submitted.result.map fun _ => ()⟩
  | .unload env =>
    let (v, result, t) := u.unload env t
    ⟨v, t, pool, result.mapError .plugin⟩
  | .remove =>
    let (v, result) := u.remove
    ⟨v, t, pool, result.mapError .plugin⟩

variable {u v : PluginUnit} {t : Trace} {pool : Pool Call} {op : UnitOperation} {path : Path}
  {calls : List LoaderCall}

/-- What an operation that is refused comes to. -/
def refusal (u : PluginUnit) (op : UnitOperation) (t : Trace) (pool : Pool Call) : Performed :=
  ⟨u, t, pool, .error (.plugin (.illegalState u.title op.allowed u.state))⟩

/-- What an operation comes to. -/
inductive Does (u : PluginUnit) (t : Trace) (pool : Pool Call) : UnitOperation → Performed → Prop
  | refused {op : UnitOperation} (forbidden : u.state ∉ op.allowed) :
      Does u t pool op (u.refusal op t pool)
  | loadFailed {env : UnitEnv} {piece : List LoaderCall} {log : List LogRecord} {cause : PluginError}
      (fresh : u.state = .uninitialized) (failedLoad : FailedLoad u.path piece) :
      Does u t pool (.load env) ⟨u, ⟨t.calls ++ piece, log⟩, pool, .error (.plugin cause)⟩
  | loaded {env : UnitEnv} {v : PluginUnit} {loaded : LoadedCode} {log : List LogRecord}
      (fresh : u.state = .uninitialized) (path : v.path = u.path) (state : v.state = .loaded)
      (held : v.subUnits = loaded.subUnits) :
      Does u t pool (.load env) ⟨v, ⟨t.calls ++ [.load u.path (.ok loaded)], log⟩, pool, .ok ()⟩
  | readied (loaded : u.state = .loaded) : Does u t pool .ready ⟨u.readied, t, pool, .ok ()⟩
  | reloadFailed {env : UnitEnv} {piece : List LoaderCall} {log : List LogRecord}
      {cause : PluginError} (running : u.state = .loaded ∨ u.state = .ready)
      (failedReload : u.FailedReload piece) :
      Does u t pool (.reload env) ⟨u.bare, ⟨t.calls ++ piece, log⟩, pool, .error (.plugin cause)⟩
  | reloaded {env : UnitEnv} {v : PluginUnit} {loaded : LoadedCode} {log : List LogRecord}
      (running : u.state = .loaded ∨ u.state = .ready) (back : u.Back v loaded) :
      Does u t pool (.reload env) ⟨v, ⟨t.calls ++ u.again loaded, log⟩, pool, .ok ()⟩
  | listens {event : Event} {listener : Listener} (running : u.state = .loaded ∨ u.state = .ready) :
      Does u t pool (.addListener event listener)
        ⟨{ u with registry := u.registry.addListener event listener defaultListenerPriority },
          t, pool, .ok ()⟩
  | received {event : Event} {payload : Payload} {log : List LogRecord} {after : Pool Call}
      {result : Except HostError Unit} (hearing : u.state = .ready ∨ u.state = .unloading) :
      Does u t pool (.receive event payload) ⟨u, ⟨t.calls, log⟩, after, result⟩
  | unloaded {env : UnitEnv} {log : List LogRecord}
      (live : u.state ∈ [.uninitialized, .loaded, .ready]) (result : Except PluginError Unit) :
      Does u t pool (.unload env)
        ⟨u.leaving, ⟨t.calls ++ [.unload u.subUnits result], log⟩, pool, result.mapError .plugin⟩
  | removed (going : u.state = .unloading) : Does u t pool .remove ⟨u.gone, t, pool, .ok ()⟩

theorem require_of_not_mem {expected : List UnitState} (h : u.state ∉ expected) :
    u.require expected = .error (.illegalState u.title expected u.state) := if_neg h

/-- What the state of a unit does not allow is refused, and nothing happens. -/
theorem perform_of_forbidden (h : u.state ∉ op.allowed) : u.perform op t pool = u.refusal op t pool := by
  have hrefused := require_of_not_mem h
  cases op <;> dsimp only [UnitOperation.allowed] at hrefused <;>
    simp [perform, load, ready, reload, addListener, receive, unload, remove, hrefused, refusal,
      UnitOperation.allowed, Except.mapError, Except.map, Trace.write]

theorem perform_of_allowed (h : u.state ∈ op.allowed) : Does u t pool op (u.perform op t pool) := by
  cases op with
  | load env =>
      have hfresh : u.state = .uninitialized := List.mem_singleton.mp h
      have hentry : Entry u t (u.load env t) := load_entry hfresh
      rw [perform]
      generalize u.load env t = step at hentry
      cases hentry with
      | failedLoad failedLoad => exact .loadFailed hfresh failedLoad
      | brought _ path state held => exact .loaded hfresh path state held
  | ready =>
      have hloaded : u.state = .loaded := List.mem_singleton.mp h
      rw [perform, ready_of_loaded hloaded]
      exact .readied hloaded
  | reload env =>
      have hrunning : u.state = .loaded ∨ u.state = .ready := by simpa [UnitOperation.allowed] using h
      have hreloaded : Reloaded u t (u.reload env t) := reload_reloaded hrunning
      rw [perform]
      generalize u.reload env t = step at hreloaded
      cases hreloaded with
      | failedReload failedReload => exact .reloadFailed hrunning failedReload
      | back back => exact .reloaded hrunning back
  | addListener event listener =>
      have hrunning : u.state = .loaded ∨ u.state = .ready := by simpa [UnitOperation.allowed] using h
      have hstate : u.require [.loaded, .ready] = .ok () := require_ok_iff.mpr h
      rw [perform, addListener, hstate]
      exact .listens hrunning
  | receive event payload =>
      have hhearing : u.state = .ready ∨ u.state = .unloading := by
        simpa [UnitOperation.allowed] using h
      exact .received hhearing
  | unload env =>
      obtain ⟨v, piece, result, log, hunload, hleaves⟩ := u.unload_leaves env t
      rw [perform, hunload]
      cases hleaves with
      | unloads => exact .unloaded h result
      | refuses dead => rcases dead with hdead | hdead <;> simp [UnitOperation.allowed, hdead] at h
  | remove =>
      have hgoing : u.state = .unloading := List.mem_singleton.mp h
      rw [perform, remove_unloading hgoing]
      exact .removed hgoing

theorem perform_does (u : PluginUnit) (op : UnitOperation) (t : Trace) (pool : Pool Call) :
    Does u t pool op (u.perform op t pool) := by
  by_cases hallowed : u.state ∈ op.allowed
  · exact perform_of_allowed hallowed
  · rw [perform_of_forbidden hallowed]
    exact .refused hallowed

/-! ### What comes of an operation -/

namespace Does

variable {r : Performed}

/-- Calls that were made before are kept. -/
theorem calls_eq (h : Does u t pool op r) : r.trace.calls = t.calls ++ r.made t := by
  cases h <;> simp [Performed.made, refusal]

theorem moves (h : Does u t pool op r) : r.unit.state = u.state ∨ u.state.Next r.unit.state := by
  cases h with
  | refused => exact .inl rfl
  | loadFailed => exact .inl rfl
  | loaded fresh _ state _ =>
      right
      rw [fresh, state]
      exact .load
  | readied loaded =>
      right
      rw [loaded]
      exact .ready
  | reloadFailed => exact .inl rfl
  | reloaded _ back => exact .inl back.state
  | listens => exact .inl rfl
  | received => exact .inl rfl
  | unloaded live _ => exact .inr (.unload live)
  | removed going =>
      right
      rw [going]
      exact .remove

/-- Tasks are queued only for a unit that hears, when it is told something. -/
theorem queues (h : Does u t pool op r) (queued : r.pool ≠ pool) :
    (u.state = .ready ∨ u.state = .unloading) ∧ ∃ event payload, op = .receive event payload := by
  cases h with
  | received hearing => exact ⟨hearing, _, _, rfl⟩
  | _ => exact absurd rfl queued

end Does

/-! ### Lives -/

/-- A life of a unit for a file, with the calls of the loader it took: one thing after the other is
asked of it. What else happens meanwhile may change the trace and the pool. -/
inductive Lives (path : Path) : PluginUnit → List LoaderCall → Prop
  | new : Lives path (.ofPath path) []
  | perform {u : PluginUnit} {calls : List LoaderCall} (before : Lives path u calls)
      (op : UnitOperation) (t : Trace) (pool : Pool Call) :
      Lives path (u.perform op t pool).unit (calls ++ (u.perform op t pool).made t)

/-- What is true of a unit all its life: as long as it was not loaded nothing happened to it, once
it goes it holds nothing, and all sub-units the loader handed out for it are accounted for. -/
structure LifeInvariant (path : Path) (u : PluginUnit) (calls : List LoaderCall) : Prop where
  path_eq : u.path = path
  untouched : u.state = .uninitialized → u = .ofPath path
  emptied : u.state = .unloading ∨ u.state = .unloaded → u.subUnits = []
  accounted : Custody.Accounted calls u.subUnits

namespace LifeInvariant

theorem new (path : Path) : LifeInvariant path (.ofPath path) [] :=
  ⟨rfl, fun _ => rfl, fun _ => rfl, .empty⟩

/-- A unit that runs was touched, and may hold what it likes. -/
theorem of_running (path_eq : v.path = path) (running : v.state = .loaded ∨ v.state = .ready)
    (accounted : Custody.Accounted calls v.subUnits) : LifeInvariant path v calls where
  path_eq := path_eq
  untouched := fun hfresh => by simp [hfresh] at running
  emptied := fun hgoing => by rcases hgoing with hgoing | hgoing <;> simp [hgoing] at running
  accounted := accounted

/-- A unit may change in its registry and what it says of itself. -/
theorem keep (h : LifeInvariant path u calls) (path_eq : v.path = u.path)
    (running : v.state = .loaded ∨ v.state = .ready) (held : v.subUnits = u.subUnits) :
    LifeInvariant path v calls :=
  of_running (path_eq.trans h.path_eq) running (held ▸ h.accounted)

theorem does {r : Performed} {piece : List LoaderCall} (h : LifeInvariant path u calls)
    (does : Does u t pool op r) (made : r.trace.calls = t.calls ++ piece) :
    LifeInvariant path r.unit (calls ++ piece) := by
  have hheld : Custody.Accounted calls (u.subUnits ++ []) := by
    rw [List.append_nil]
    exact h.accounted
  cases does with
  | refused =>
      rw [List.self_eq_append_right.mp made, List.append_nil]
      exact h
  | loadFailed fresh failedLoad =>
      rw [← List.append_cancel_left made]
      exact ⟨h.path_eq, h.untouched, h.emptied, h.accounted.failedLoad failedLoad⟩
  | @loaded _ v brought _ fresh path state held =>
      rw [← List.append_cancel_left made]
      have hnone : u.subUnits = [] := by
        rw [h.untouched fresh]
        rfl
      have hloaded := h.accounted.load u.path brought
      rw [hnone, List.append_nil, ← held] at hloaded
      exact of_running (path.trans h.path_eq) (.inl state) hloaded
  | readied loaded =>
      rw [List.self_eq_append_right.mp made, List.append_nil]
      exact h.keep rfl (.inr rfl) rfl
  | reloadFailed running failedReload =>
      rw [← List.append_cancel_left made]
      exact of_running h.path_eq running (hheld.failedReload failedReload)
  | @reloaded _ v brought _ running back =>
      rw [← List.append_cancel_left made]
      have hback := hheld.again brought
      rw [List.append_nil, ← back.held] at hback
      exact of_running (back.path.trans h.path_eq) (back.state ▸ running) hback
  | listens running =>
      rw [List.self_eq_append_right.mp made, List.append_nil]
      exact h.keep rfl running rfl
  | received =>
      rw [List.self_eq_append_right.mp made, List.append_nil]
      exact h
  | unloaded live result =>
      rw [← List.append_cancel_left made]
      exact ⟨h.path_eq, fun hfresh => (by cases hfresh), fun _ => rfl, hheld.unload result⟩
  | removed going =>
      rw [List.self_eq_append_right.mp made, List.append_nil]
      exact ⟨h.path_eq, fun hfresh => (by cases hfresh), fun _ => h.emptied (.inl going), h.accounted⟩

end LifeInvariant

theorem Lives.lifeInvariant (h : Lives path u calls) : LifeInvariant path u calls := by
  induction h with
  | new => exact .new path
  | perform _ op t pool ih => exact ih.does (perform_does _ op t pool) (perform_does _ op t pool).calls_eq

/-! ### What is promised -/

/-- What is promised of a unit, whatever is asked of it. -/
structure LifecycleLaws (path : Path) (u : PluginUnit) : Prop where
  /-- Its state goes one step on, or stays. -/
  moves : ∀ op t pool, (u.perform op t pool).unit.state = u.state ∨
    u.state.Next (u.perform op t pool).unit.state
  /-- What its state does not allow is refused: no loader is called, nothing is queued or written,
  and the unit stays as it is. -/
  refuses : ∀ op t pool, u.state ∉ op.allowed → u.perform op t pool =
    ⟨u, t, pool, .error (.plugin (.illegalState u.title op.allowed u.state))⟩
  /-- After a load that failed it is as it was made, and what the load was handed went back. -/
  load_failed : ∀ env t pool r, u.perform (.load env) t pool = r → u.state = .uninitialized →
    ∀ cause, r.result = .error cause → r.unit = .ofPath path ∧
      ∃ attempt, r.trace.calls = t.calls ++ attempt ∧
        Custody.handedBack attempt = Custody.handedOut attempt
  /-- After a reload that failed it lacks nothing but its sub-units, which went back in one call,
  and what the load was handed went back as well. -/
  reload_failed : ∀ env t pool r, u.perform (.reload env) t pool = r →
    u.state = .loaded ∨ u.state = .ready → ∀ cause, r.result = .error cause →
      r.unit = { u with subUnits := [] } ∧
        ∃ answer attempt, r.trace.calls = t.calls ++ .unload u.subUnits answer :: attempt ∧
          Custody.handedBack attempt = Custody.handedOut attempt
  /-- Unloading takes its sub-units, even if the loader fails. -/
  unloads : ∀ env t pool r, u.perform (.unload env) t pool = r →
    u.state ∈ [.uninitialized, .loaded, .ready] →
      r.unit = { u with state := .unloading, subUnits := [] } ∧
        ∃ answer, r.trace.calls = t.calls ++ [.unload u.subUnits answer] ∧
          r.result = answer.mapError .plugin
  /-- Tasks are queued only while it is ready or goes, and only when it is told something. -/
  queues : ∀ op t pool, (u.perform op t pool).pool ≠ pool →
    (u.state = .ready ∨ u.state = .unloading) ∧ ∃ event payload, op = .receive event payload

theorem LifeInvariant.lifecycleLaws (h : LifeInvariant path u calls) : LifecycleLaws path u where
  moves op t pool := (perform_does u op t pool).moves
  refuses op t pool forbidden := perform_of_forbidden forbidden
  load_failed := by
    intro env t pool r hran hfresh cause hfailed
    have hdoes : Does u t pool (.load env) r := hran ▸ perform_does u (.load env) t pool
    cases hdoes with
    | refused forbidden => simp [UnitOperation.allowed, hfresh] at forbidden
    | loadFailed _ failedLoad => exact ⟨h.untouched hfresh, _, rfl, failedLoad.returns⟩
    | loaded => cases hfailed
  reload_failed := by
    intro env t pool r hran hrunning cause hfailed
    have hdoes : Does u t pool (.reload env) r := hran ▸ perform_does u (.reload env) t pool
    cases hdoes with
    | refused forbidden => simp [UnitOperation.allowed, hrunning] at forbidden
    | reloadFailed _ failedReload =>
        cases failedReload with
        | stuck cause => exact ⟨rfl, _, [], rfl, rfl⟩
        | failedLoad failedLoad => exact ⟨rfl, _, _, rfl, failedLoad.returns⟩
    | reloaded => cases hfailed
  unloads := by
    intro env t pool r hran hlive
    have hdoes : Does u t pool (.unload env) r := hran ▸ perform_does u (.unload env) t pool
    cases hdoes with
    | refused forbidden => exact absurd hlive forbidden
    | unloaded _ result => exact ⟨rfl, result, rfl, rfl⟩
  queues op t pool queued := (perform_does u op t pool).queues queued

/-- Whatever was asked of a unit so far, it keeps what is promised of it, and all sub-units the
loader handed out for it are with it or went back once. -/
theorem Lives.lifecycle_laws (h : Lives path u calls) :
    LifecycleLaws path u ∧ Custody.Accounted calls u.subUnits :=
  ⟨h.lifeInvariant.lifecycleLaws, h.lifeInvariant.accounted⟩

/-- Operations one after the other, each on what the one before left. -/
def performAll (r : Performed) (ops : List UnitOperation) : Performed :=
  ops.foldl (fun r op => r.unit.perform op r.trace r.pool) r

theorem Lives.performAll {r : Performed} (h : Lives path r.unit r.trace.calls)
    (ops : List UnitOperation) :
    Lives path (performAll r ops).unit (performAll r ops).trace.calls := by
  induction ops generalizing r with
  | nil => exact h
  | cons op rest ih =>
      have hstep := h.perform op r.trace r.pool
      rw [← (perform_does r.unit op r.trace r.pool).calls_eq] at hstep
      exact ih hstep

namespace LifeWitness

/-- Code that asks for nothing. -/
def plain : PluginCode where
  metadata := .ok none
  registrations := .ok []
  callback := fun _ => .ok none

/-- A loader that has a file once, and takes sub-units back once. -/
def fickle : Loader where
  load history _ path :=
    if history.isEmpty then .ok ⟨plain, [⟨path.text, 1, none⟩]⟩ else .error (.load path "it is gone")
  unload history _ := if history.length = 1 then .ok () else .error (.unload "a" "it is stuck")
  unloadLog _ := []

def env : UnitEnv := ⟨fickle, .empty, ".mcdr", ⟨"en", []⟩, .none⟩

/-- A unit that was loaded, became ready, could not be loaded again and is unloaded. -/
def weary : Performed :=
  performAll ⟨.ofPath ⟨"a.mcdr"⟩, .empty, .create 1 .spawn .none, .ok ()⟩
    [.load env, .ready, .reload env, .unload env]

theorem weary_lifecycle_laws : weary.unit.state = .unloading ∧
    (Custody.handedOut weary.trace.calls).map SubUnit.name = ["a.mcdr"] ∧
    LifecycleLaws ⟨"a.mcdr"⟩ weary.unit ∧
    Custody.Accounted weary.trace.calls weary.unit.subUnits := by
  have hlives : Lives ⟨"a.mcdr"⟩ weary.unit weary.trace.calls := Lives.new.performAll _
  have hstate : weary.unit.state = .unloading := by decide +kernel
  have hout : (Custody.handedOut weary.trace.calls).map SubUnit.name = ["a.mcdr"] := by decide +kernel
  exact ⟨hstate, hout, hlives.lifecycle_laws⟩

end LifeWitness

end PluginUnit

end PluginHost
