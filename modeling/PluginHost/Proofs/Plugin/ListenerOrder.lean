import PluginHost.Proofs.Fallible
import PluginHost.Proofs.Plugin.Live

/-!
In which order a plugin hears an event: first the listeners its code registers
for it, in the order it does, and behind them the one the code has for the
event by convention, once the plugin is ready.
-/
namespace PluginHost

/-- The entry a registration makes for an event in the registry of a plugin. -/
def Registration.entry? (id : String) (event : Event) : Registration → Option ListenerEntry
  | .listener e priority l => if e = event then some ⟨e, id, l, priority⟩ else none
  | .help _ _ _ => none

/-- The entry for the listener that code has for an event by convention. -/
def PluginCode.convention (code : PluginCode) (id : String) (event : Event) : List ListenerEntry :=
  match code.callback event.listenerName with
  | .ok (some listener) => [⟨event, id, listener, defaultListenerPriority⟩]
  | _ => []

namespace Registry

variable {r : Registry} {event : Event}

theorem listenersOf_registerAll (r : Registry) (asked : List Registration) (event : Event) :
    (r.registerAll asked).pluginId = r.pluginId ∧ (r.registerAll asked).listenersOf event =
      r.listenersOf event ++ asked.filterMap (Registration.entry? r.pluginId event) := by
  induction asked generalizing r with
  | nil => simp [registerAll]
  | cons registration rest ih =>
      have hcons : r.registerAll (registration :: rest) = (r.register registration).registerAll rest :=
        rfl
      have hid : (r.register registration).pluginId = r.pluginId := by cases registration <;> rfl
      have hone : (r.register registration).listenersOf event =
          r.listenersOf event ++ [registration].filterMap (Registration.entry? r.pluginId event) := by
        cases registration with
        | listener e priority listener =>
            by_cases he : e = event <;> simp [register, Registration.entry?, he]
        | help command message permission => simp [register, Registration.entry?]
      obtain ⟨hsame, hrest⟩ := ih (r.register registration)
      rw [hcons, hsame, hrest, hid, hone, List.append_assoc, ← List.filterMap_append]
      exact ⟨rfl, rfl⟩

theorem listenersOf_addDefaults (r : Registry) (found : List (Event × Listener)) (event : Event) :
    (r.addDefaults found).listenersOf event = r.listenersOf event ++
      (found.filter (·.1 = event)).map fun l => ⟨event, r.pluginId, l.2, defaultListenerPriority⟩ := by
  induction found generalizing r with
  | nil => simp [addDefaults]
  | cons l rest ih =>
      have hcons : r.addDefaults (l :: rest) =
        (r.addListener l.1 l.2 defaultListenerPriority).addDefaults rest := rfl
      rw [hcons, ih, listenersOf_addListener, List.filter_cons]
      by_cases hevent : l.1 = event <;> simp [hevent, addListener]

end Registry

namespace PluginUnit

/-- One question to code: which listener it has for an event by convention. -/
def ask (code : PluginCode) (event : Event) : Except Panic (Option (Event × Listener)) :=
  (fun callback => callback.map (event, ·)) <$> code.callback event.listenerName

theorem ask_eq_ok {code : PluginCode} {event : Event} {answer : Option (Event × Listener)}
    (h : ask code event = .ok answer) :
    ∃ callback, code.callback event.listenerName = .ok callback ∧
      answer = callback.map (event, ·) := by
  unfold ask at h
  cases hcallback : code.callback event.listenerName with
  | error panic => simp [hcallback, Functor.map, Except.map] at h
  | ok callback =>
      simp only [hcallback, Functor.map, Except.map, Except.ok.injEq] at h
      exact ⟨callback, rfl, h.symm⟩

/-- The entries that come of the answers for some events, of which none is asked for twice. -/
theorem filter_of_answers {code : PluginCode} {events : List Event}
    {answers : List (Option (Event × Listener))}
    (h : List.Forall₂ (fun event answer => ask code event = .ok answer) events answers)
    (distinct : events.Nodup) (id : String) (event : Event) :
    (((answers.filterMap fun l => l).filter (·.1 = event)).map fun l =>
      (⟨event, id, l.2, defaultListenerPriority⟩ : ListenerEntry)) =
        if event ∈ events then code.convention id event else [] := by
  induction h with
  | nil => rfl
  | @cons first answer rest others hanswer _ ih =>
      obtain ⟨hfirst, hrest⟩ := List.nodup_cons.mp distinct
      obtain ⟨callback, hcallback, rfl⟩ := ask_eq_ok hanswer
      have hbehind := ih hrest
      by_cases hevent : first = event
      · subst hevent
        rw [if_neg hfirst, List.map_eq_nil_iff] at hbehind
        rw [if_pos List.mem_cons_self, PluginCode.convention, hcallback]
        cases callback with
        | none => exact List.map_eq_nil_iff.mpr hbehind
        | some l => simp [hbehind]
      · have hother : event ≠ first := fun heq => hevent heq.symm
        cases callback <;> simp [hbehind, hevent, hother]

/-- Of the listeners that code has by convention, at most one is for an event. -/
theorem filter_of_conventional {code : PluginCode} {found : List (Event × Listener)}
    (h : conventional code = .ok found) (id : String) (event : Event) :
    ((found.filter (·.1 = event)).map fun l =>
      (⟨event, id, l.2, defaultListenerPriority⟩ : ListenerEntry)) = code.convention id event := by
  have hasks : conventional code =
    (fun answers => answers.filterMap fun l => l) <$> Event.all.mapM (ask code) := rfl
  rw [hasks] at h
  cases hanswers : Event.all.mapM (ask code) with
  | error panic => simp [hanswers, Functor.map, Except.map] at h
  | ok answers =>
      simp only [hanswers, Functor.map, Except.map, Except.ok.injEq] at h
      subst h
      rw [filter_of_answers (Fallible.mapM_ok_iff.mp hanswers) (by decide) id event, if_pos event.mem_all]

/-- A unit that hears events in the order its code asks for: through the listeners the code
registers, and, once the unit is ready, through the one the code has by convention. -/
def Hears (u : PluginUnit) : Prop :=
  ∃ code asked, u.code = some code ∧ code.registrations = .ok asked ∧ ∀ event,
    u.registry.listenersOf event = asked.filterMap (Registration.entry? u.id event) ++
      if u.state = .ready then code.convention u.id event else []

theorem Live.hears {u : PluginUnit} (h : u.Live) : u.Hears := by
  obtain ⟨code, asked, found, hholds⟩ := h.registrations
  refine ⟨code, asked, hholds.known, hholds.registers, fun event => ?_⟩
  obtain ⟨hid, hasked⟩ := (Registry.ofId u.id).listenersOf_registerAll asked event
  have hnone : (Registry.ofId u.id).listenersOf event = [] := rfl
  have hown : (Registry.ofId u.id).pluginId = u.id := rfl
  rw [hnone, List.nil_append, hown] at hasked
  rcases h.running with hloaded | hready
  · rw [(hholds.pending hloaded).1, hasked, hloaded]
    simp
  · rw [hholds.settled hready, Registry.listenersOf_addDefaults, hasked, hid, hown,
      filter_of_conventional hholds.conventions, if_pos hready]

end PluginUnit

end PluginHost
