import PluginHost.Plugin.Unit

/-!
Units that live: they know what they are, they are loaded or ready, and their
registry holds what their code asks for, under their own id.
-/
namespace PluginHost

/-- Everything in a registry belongs to the plugin with an id. -/
structure Registry.Owned (r : Registry) (id : String) : Prop where
  pluginId : r.pluginId = id
  listeners : ∀ l ∈ r.listeners, l.pluginId = id
  help : ∀ e ∈ r.help, e.pluginId = some id

namespace Registry.Owned

variable {r : Registry} {id : String}

theorem ofId (id : String) : (Registry.ofId id).Owned id :=
  ⟨rfl, by simp [Registry.ofId], by simp [Registry.ofId]⟩

theorem addListener (h : r.Owned id) (event : Event) (listener : Listener) (priority : Int) :
    (r.addListener event listener priority).Owned id where
  pluginId := h.pluginId
  listeners := by
    intro l hl
    rcases List.mem_append.mp hl with hold | hnew
    · exact h.listeners l hold
    · rw [List.mem_singleton.mp hnew]
      exact h.pluginId
  help := h.help

theorem addHelp (h : r.Owned id) (command message : String) (permission : Nat) :
    (r.addHelp command message permission).Owned id where
  pluginId := h.pluginId
  listeners := h.listeners
  help := by
    intro e he
    rcases List.mem_append.mp he with hold | hnew
    · exact h.help e hold
    · rw [List.mem_singleton.mp hnew]
      exact congrArg some h.pluginId

theorem register (h : r.Owned id) (registration : Registration) :
    (r.register registration).Owned id := by
  cases registration with
  | listener event priority listener => exact h.addListener event listener priority
  | help command message permission => exact h.addHelp command message permission

theorem registerAll (h : r.Owned id) (registrations : List Registration) :
    (r.registerAll registrations).Owned id := by
  induction registrations generalizing r with
  | nil => exact h
  | cons registration rest ih => exact ih (h.register registration)

theorem addDefaults (h : r.Owned id) (defaults : List (Event × Listener)) :
    (r.addDefaults defaults).Owned id := by
  induction defaults generalizing r with
  | nil => exact h
  | cons d rest ih => exact ih (h.addListener d.1 d.2 defaultListenerPriority)

end Registry.Owned

namespace PluginUnit

/-- A unit whose registry holds what its code asks for: first what the code registers, and behind
that the listeners it has by convention, which are pending until the unit is ready. -/
structure HoldsRegistrations (u : PluginUnit) (code : PluginCode) (asked : List Registration)
    (found : List (Event × Listener)) : Prop where
  known : u.code = some code
  registers : code.registrations = .ok asked
  conventions : conventional code = .ok found
  pending : u.state = .loaded →
    u.registry = (Registry.ofId u.id).registerAll asked ∧ u.defaults = found
  settled : u.state = .ready →
    u.registry = ((Registry.ofId u.id).registerAll asked).addDefaults found

/-- A unit that is loaded, or ready as well. -/
structure Live (u : PluginUnit) : Prop where
  described : u.metadata.isSome
  running : u.state = .loaded ∨ u.state = .ready
  registrations : ∃ code asked found, u.HoldsRegistrations code asked found

/-- All that a unit registered is registered under its id. -/
theorem Live.owned {u : PluginUnit} (h : u.Live) : u.registry.Owned u.id := by
  obtain ⟨code, asked, found, hholds⟩ := h.registrations
  have hasked := (Registry.Owned.ofId u.id).registerAll asked
  rcases h.running with hloaded | hready
  · rw [(hholds.pending hloaded).1]
    exact hasked
  · rw [hholds.settled hready]
    exact hasked.addDefaults found

theorem require_ok_iff {u : PluginUnit} {expected : List UnitState} :
    u.require expected = .ok () ↔ u.state ∈ expected := by
  simp [require]

/-! ### Loading -/

theorem examine_ok {env : UnitEnv} {fallbackId : String} {code : PluginCode}
    {metadata : Metadata} {registry : Registry} {defaults : List (Event × Listener)}
    (h : (examine env fallbackId code).2 = .ok (metadata, registry, defaults)) :
    ∃ data asked, metadata = (Metadata.extract env.language data fallbackId).1 ∧
      code.registrations = .ok asked ∧ conventional code = .ok defaults ∧
      registry = (Registry.ofId metadata.id).registerAll asked := by
  unfold examine at h
  split at h
  · cases h
  · next data _ =>
      cases hreg : code.registrations with
      | error panic => simp [hreg, bind, Except.bind] at h
      | ok asked =>
          cases hdef : conventional code with
          | error panic => simp [hreg, hdef, bind, Except.bind] at h
          | ok found =>
              simp only [hreg, hdef, bind, Except.bind, pure, Except.pure, Except.ok.injEq,
                Prod.mk.injEq] at h
              obtain ⟨rfl, rfl, rfl⟩ := h
              exact ⟨data, asked, rfl, rfl, rfl, rfl⟩

variable {u : PluginUnit}

/-! ### Becoming ready -/

/-- A loaded unit that became ready. -/
def readied (u : PluginUnit) : PluginUnit :=
  { u.registerDefaults with state := .ready }

theorem ready_of_loaded (h : u.state = .loaded) : u.ready = (u.readied, .ok ()) := by
  have hstate : u.require [.loaded] = .ok () := require_ok_iff.mpr (by simp [h])
  rw [ready, hstate]
  rfl

@[simp] theorem state_readied (u : PluginUnit) : u.readied.state = .ready := rfl

theorem HoldsRegistrations.readied {code : PluginCode} {asked : List Registration}
    {found : List (Event × Listener)} (h : u.HoldsRegistrations code asked found)
    (loaded : u.state = .loaded) :
    u.readied.HoldsRegistrations code asked found where
  known := h.known
  registers := h.registers
  conventions := h.conventions
  pending := fun hstate => by cases hstate
  settled := by
    intro _
    obtain ⟨hregistry, hdefaults⟩ := h.pending loaded
    have hregistered : u.readied.registry = u.registry.addDefaults u.defaults := rfl
    rw [hregistered, hregistry, hdefaults]
    rfl

theorem Live.readied (h : u.Live) (loaded : u.state = .loaded) : u.readied.Live := by
  obtain ⟨code, asked, found, hholds⟩ := h.registrations
  exact ⟨h.described, .inr rfl, code, asked, found, hholds.readied loaded⟩

end PluginUnit

end PluginHost
