import PluginHost.Host.Table
import PluginHost.Plugin.Library

/-!
Units up to which load their sub-units came with. With a loader that goes by
what a file holds, not by what it was asked before, it does not matter in which
of two histories a unit is loaded, loaded again or unloaded: both times it ends
alike, and becomes the same but for the numbers of its sub-units.
-/
namespace PluginHost

/-- Two outcomes that look the same are failures of one cause or successes that look the same. -/
theorem except_of_map_eq {ε α β : Type} {f : α → β} {x y : Except ε α} (h : x.map f = y.map f) :
    (∃ cause, x = .error cause ∧ y = .error cause) ∨ ∃ a b, x = .ok a ∧ y = .ok b ∧ f a = f b := by
  cases x with
  | error cause =>
      cases y with
      | error cause' => exact .inl ⟨cause, rfl, congrArg Except.error (Except.error.inj h).symm⟩
      | ok b => cases h
  | ok a =>
      cases y with
      | error cause' => cases h
      | ok b => exact .inr ⟨a, b, rfl, rfl, Except.ok.inj h⟩

/-- A sub-unit, whichever load it came with. -/
def SubUnit.unnumbered (s : SubUnit) : SubUnit := { s with load := 0 }

/-- What a load hands out, whichever load it is. -/
def LoadedCode.unnumbered (loaded : LoadedCode) : LoadedCode :=
  { loaded with subUnits := loaded.subUnits.map SubUnit.unnumbered }

/-- A loader that goes by what a file holds: what it hands out depends on nothing else, and how
giving something back ends depends on nothing but what that is. Only the numbers of loads tell what
else it was asked for. -/
structure Loader.Steady (loader : Loader) : Prop where
  load : ∀ {files files' : FileSystem} {path : Path}, files.read path = files'.read path →
    ∀ calls calls', (loader.load calls files path).map LoadedCode.unnumbered =
      (loader.load calls' files' path).map LoadedCode.unnumbered
  unload : ∀ {subUnits subUnits' : List SubUnit},
    subUnits.map SubUnit.unnumbered = subUnits'.map SubUnit.unnumbered →
      ∀ calls calls', loader.unload calls subUnits = loader.unload calls' subUnits'

/-- Libraries are loaded by what their files hold. -/
theorem Library.loader_steady (link : ByteArray → Image) : (loader link).Steady where
  load := by
    intro files files' path same calls calls'
    have hopen : openFile link files path = openFile link files' path := by
      unfold openFile
      rw [same]
    change (Library.load link calls files path).map _ = (Library.load link calls' files' path).map _
    unfold Library.load
    rw [hopen]
    cases openFile link files' path <;> rfl
  unload := fun _ _ _ => rfl

/-- What loading a file brought, whichever load it is. -/
def FreshLoad.unnumbered (fresh : FreshLoad) : FreshLoad :=
  { fresh with subUnits := fresh.subUnits.map SubUnit.unnumbered }

namespace PluginUnit

/-- A unit, whichever loads its sub-units came with. -/
def unnumbered (u : PluginUnit) : PluginUnit :=
  { u with subUnits := u.subUnits.map SubUnit.unnumbered }

/-- Two units that are the same but for the numbers of their sub-units. -/
def Alike (u v : PluginUnit) : Prop :=
  u.unnumbered = v.unnumbered

variable {u v : PluginUnit} {env : UnitEnv} {files : FileSystem}

namespace Alike

variable (h : u.Alike v)
include h

/-- What does not look at numbers is the same of both. -/
theorem keep {α : Type} (f : PluginUnit → α) (blind : ∀ w : PluginUnit, f w.unnumbered = f w) :
    f u = f v := by
  have hsame : f u.unnumbered = f v.unnumbered := congrArg f h
  rwa [blind, blind] at hsame

theorem same : u.unnumbered = v.unnumbered := h

theorem path : u.path = v.path := h.keep PluginUnit.path fun _ => rfl

theorem state : u.state = v.state := h.keep PluginUnit.state fun _ => rfl

theorem id : u.id = v.id := h.keep PluginUnit.id fun _ => rfl

theorem target : u.target = v.target := h.keep PluginUnit.target fun _ => rfl

theorem require (expected : List UnitState) : u.require expected = v.require expected :=
  h.keep (PluginUnit.require · expected) fun _ => rfl

theorem subUnits : u.subUnits.map SubUnit.unnumbered = v.subUnits.map SubUnit.unnumbered :=
  congrArg PluginUnit.subUnits h.same

/-- What does not touch sub-units makes alike units of alike ones. -/
theorem change (f : PluginUnit → PluginUnit) (apart : ∀ w, f w.unnumbered = (f w).unnumbered) :
    (f u).Alike (f v) := by
  have hsame : f u.unnumbered = f v.unnumbered := congrArg f h
  rwa [apart, apart] at hsame

end Alike

/-- Two ends of one operation: it ended the same way, and made alike units. -/
structure SameEnd (s s' : Step) : Prop where
  unit : s.1.Alike s'.1
  result : s.2.1 = s'.2.1

theorem fingerprint?_congr {path : Path} (same : env.files.read path = files.read path) :
    env.files.fingerprint? path = files.fingerprint? path := by
  rw [FileSystem.fingerprint?, FileSystem.fingerprint?, same]

/-- What a file brings does not depend on what happened before. -/
theorem freshLoad_alike (steady : env.loader.Steady) (path : u.path = v.path)
    (same : env.files.read u.path = files.read u.path) (t t' : Trace) :
    (u.freshLoad env t).1.map FreshLoad.unnumbered =
      (v.freshLoad { env with files } t').1.map FreshLoad.unnumbered := by
  have hfingerprint := fingerprint?_congr same
  have hname : u.fileName = v.fileName := congrArg Path.shortName path
  simp only [freshLoad, Trace.load, ← path, ← hname, hfingerprint]
  rcases except_of_map_eq (steady.load same t.calls t'.calls) with
    ⟨cause, hfirst, hsecond⟩ | ⟨loaded, loaded', hfirst, hsecond, hsame⟩
  · rw [hfirst, hsecond]
  · have hcode : loaded.unnumbered.code = loaded'.unnumbered.code := congrArg _ hsame
    have hheld : loaded.subUnits.map SubUnit.unnumbered =
        loaded'.subUnits.map SubUnit.unnumbered := congrArg LoadedCode.subUnits hsame
    have hexamine : ∀ name code, examine { env with files } name code = examine env name code :=
      fun _ _ => rfl
    rw [hfirst, hsecond]
    simp only [show loaded.code = loaded'.code from hcode, hexamine]
    generalize examine env _ loaded'.code = examined
    obtain ⟨warnings, panic | ⟨metadata, registry, defaults⟩⟩ := examined
    · dsimp only
      split <;> split <;> rfl
    · simp [Except.map, FreshLoad.unnumbered, hheld]

theorem releaseSubUnits_alike (steady : env.loader.Steady) (h : u.Alike v) (t t' : Trace) :
    SameEnd (u.releaseSubUnits env t) (v.releaseSubUnits { env with files } t') where
  unit := h.change (fun w => { w with subUnits := [] }) fun _ => rfl
  result := steady.unload h.subUnits _ _

/-- Units are unloaded alike. -/
theorem unload_alike (steady : env.loader.Steady) (h : u.Alike v) (t t' : Trace) :
    SameEnd (u.unload env t) (v.unload { env with files } t') := by
  have hreleased : SameEnd (u.releaseSubUnits env t) (v.releaseSubUnits { env with files } t') :=
    releaseSubUnits_alike steady h t t'
  simp only [unload, h.require]
  split
  · exact ⟨h, rfl⟩
  · exact ⟨hreleased.unit.change (fun w => { w with state := .unloading }) fun _ => rfl,
      hreleased.result⟩

theorem Alike.adopt {fresh fresh' : FreshLoad} (h : u.Alike v)
    (same : fresh.unnumbered = fresh'.unnumbered) : (u.adopt fresh).Alike (v.adopt fresh') := by
  have hu : (u.adopt fresh).unnumbered = u.unnumbered.adopt fresh.unnumbered := rfl
  have hv : (v.adopt fresh').unnumbered = v.unnumbered.adopt fresh'.unnumbered := rfl
  rw [Alike, hu, hv, same, h.same]

/-- Units are loaded alike. -/
theorem load_alike (steady : env.loader.Steady) (h : u.Alike v)
    (same : env.files.read u.path = files.read u.path) (t t' : Trace) :
    SameEnd (u.load env t) (v.load { env with files } t') := by
  have hfetched := freshLoad_alike steady h.path same t t'
  simp only [load, h.require]
  split
  · exact ⟨h, rfl⟩
  · generalize u.freshLoad env t = fetched at hfetched
    generalize v.freshLoad { env with files } t' = fetched' at hfetched
    obtain ⟨result, after⟩ := fetched
    obtain ⟨result', after'⟩ := fetched'
    rcases except_of_map_eq hfetched with ⟨cause, rfl, rfl⟩ | ⟨fresh, fresh', rfl, rfl, hsame⟩
    · exact ⟨h, rfl⟩
    · exact ⟨(h.adopt hsame).change (fun w => { w with state := .loaded }) fun _ => rfl, rfl⟩

theorem unnumbered_settle (w : PluginUnit) :
    (if w.unnumbered.state = .ready then w.unnumbered.registerDefaults else w.unnumbered) =
      (if w.state = .ready then w.registerDefaults else w).unnumbered := by
  by_cases hready : w.state = .ready
  · rw [if_pos hready, if_pos (show w.unnumbered.state = .ready from hready)]
    rfl
  · rw [if_neg hready, if_neg (show w.unnumbered.state ≠ .ready from hready)]

/-- Units are loaded again alike. -/
theorem reload_alike (steady : env.loader.Steady) (h : u.Alike v)
    (same : env.files.read u.path = files.read u.path) (t t' : Trace) :
    SameEnd (u.reload env t) (v.reload { env with files } t') := by
  have hreleased : SameEnd (u.releaseSubUnits env t) (v.releaseSubUnits { env with files } t') :=
    releaseSubUnits_alike steady h t t'
  have hpath : (u.releaseSubUnits env t).1.path = u.path := rfl
  simp only [reload, h.require]
  split
  · exact ⟨h, rfl⟩
  · generalize u.releaseSubUnits env t = released at hreleased hpath
    generalize v.releaseSubUnits { env with files } t' = released' at hreleased
    obtain ⟨bare, result, t⟩ := released
    obtain ⟨bare', result', t'⟩ := released'
    obtain ⟨hbare, hresult⟩ := hreleased
    dsimp only at hbare hresult hpath
    subst hresult
    cases result with
    | error cause => exact ⟨hbare, rfl⟩
    | ok _ =>
        have hfetched := freshLoad_alike steady hbare.path (hpath ▸ same) t t'
        dsimp only
        generalize bare.freshLoad env t = fetched at hfetched
        generalize bare'.freshLoad { env with files } t' = fetched' at hfetched
        obtain ⟨result, after⟩ := fetched
        obtain ⟨result', after'⟩ := fetched'
        rcases except_of_map_eq hfetched with ⟨cause, rfl, rfl⟩ | ⟨fresh, fresh', rfl, rfl, hsame⟩
        · exact ⟨hbare, rfl⟩
        · exact ⟨(hbare.adopt hsame).change (fun w => if w.state = .ready then w.registerDefaults
            else w) unnumbered_settle, rfl⟩

/-- Units become ready alike. -/
theorem Alike.ready (h : u.Alike v) : u.ready.1.Alike v.ready.1 ∧ u.ready.2 = v.ready.2 := by
  unfold PluginUnit.ready
  rw [h.require]
  split
  · exact ⟨h, rfl⟩
  · exact ⟨h.change (fun w => { w.registerDefaults with state := .ready }) fun _ => rfl, rfl⟩

/-- Units end alike. -/
theorem Alike.remove (h : u.Alike v) : u.remove.1.Alike v.remove.1 ∧ u.remove.2 = v.remove.2 := by
  unfold PluginUnit.remove
  rw [h.require]
  split
  · exact ⟨h, rfl⟩
  · exact ⟨h.change (fun w => { w with
        state := .unloaded, registry := w.registry.clear, defaults := [], code := none })
      fun _ => rfl, rfl⟩

/-- Alike units hear of events alike. -/
theorem Alike.receive (h : u.Alike v) (event : Event) (payload : Payload) (pool : Pool Call) :
    u.receive event payload pool = v.receive event payload pool :=
  h.keep (PluginUnit.receive · event payload pool) fun _ => rfl

end PluginUnit

end PluginHost
