import PluginHost.Proofs.Host.Current
import PluginHost.Proofs.Host.Announcements

/-!
What tracked units go by. The id that code states is taken if it is a valid one, and
the name of the file without the plugin suffix if not. Every load and reload sees to
that, and nothing else gives a unit its id, so it is true of all that is tracked.
-/
namespace PluginHost

namespace Metadata

variable {language : Language} {members : List (String × Json)} {data : Option Json}
  {fallbackId : String}

/-- The id is a valid one or the fallback. -/
theorem idOf_valid_or : isValidId (idOf language members fallbackId).1 = true ∨
    (idOf language members fallbackId).1 = fallbackId := by
  unfold idOf
  split
  · split
    · next hvalid => exact .inl hvalid
    · exact .inr rfl
  · exact .inr rfl

theorem extract_valid_or : isValidId (extract language data fallbackId).1.id = true ∨
    (extract language data fallbackId).1.id = fallbackId :=
  idOf_valid_or

end Metadata

namespace PluginUnit

variable {u v : PluginUnit} {env : UnitEnv} {t after : Trace} {suffix : String}

/-- A unit that goes by a valid id, or by the name of its file without the plugin suffix. -/
def Named (suffix : String) (u : PluginUnit) : Prop :=
  Metadata.isValidId u.id = true ∨ u.id = dropSuffix u.fileName suffix

theorem named_of_freshLoad {fresh : FreshLoad} (ran : u.freshLoad env t = (.ok fresh, after)) :
    (u.adopt fresh).Named env.suffix := by
  unfold freshLoad at ran
  dsimp only at ran
  split at ran
  · cases ran
  · split at ran
    · next metadata registry defaults hexamine =>
        obtain ⟨data, _, hmetadata, _⟩ := examine_ok (congrArg Prod.snd hexamine)
        cases ran
        rw [hmetadata]
        exact Metadata.extract_valid_or
    · split at ran <;> cases ran

theorem load_named (ran : u.load env t = (v, .ok (), after)) : v.Named env.suffix := by
  obtain ⟨fresh, log, hfresh, rfl⟩ := exists_fresh_of_load ran
  exact named_of_freshLoad hfresh

theorem reload_named (ran : u.reload env t = (v, .ok (), after)) : v.Named env.suffix := by
  obtain ⟨fresh, given, log, hfresh, rfl⟩ := exists_fresh_of_reload ran
  have hnamed := named_of_freshLoad hfresh
  split <;> exact hnamed

theorem Named.welcomed (h : u.Named suffix) : u.welcomed.Named suffix := by
  rw [Named, fileName, u.id_welcomed, u.path_welcomed]
  exact h

end PluginUnit

/-! ### What is true of all that is tracked -/

/-- All tracked units are as said. -/
def UnitTable.Each (P : PluginUnit → Prop) (t : UnitTable) : Prop :=
  ∀ id u, t.unit? id = some u → P u

namespace Batch

variable {b : Batch} {h : Host} {P : PluginUnit → Prop} {env : UnitEnv}

/-- What loads and reloads see to, and what stays so when a unit becomes ready. -/
structure LoadInvariant (env : UnitEnv) (P : PluginUnit → Prop) : Prop where
  load : ∀ {u v t after}, PluginUnit.load u env t = (v, .ok (), after) → P v
  reload : ∀ {u v t after}, PluginUnit.reload u env t = (v, .ok (), after) → P v
  welcomed : ∀ {u}, P u → P u.welcomed

theorem LoadInvariant.discover (brings : LoadInvariant env P) (henv : b.host.env = env)
    (hb : b.host.table.Each P) (files : List Path) : (discover files b).host.table.Each P := by
  induction files generalizing b with
  | nil => exact hb
  | cons path rest ih =>
      refine ih ((b.discoverOne_transitions path).env.trans henv) fun id u tracked => ?_
      rcases discoverOne_origin tracked with ⟨hold, _⟩ | ⟨t, hran⟩
      · exact hb id u hold
      · exact brings.load (henv ▸ hran)

theorem LoadInvariant.foldl_refreshOne (brings : LoadInvariant env P) (henv : b.host.env = env)
    (hconsistent : b.host.table.Consistent) (hb : b.host.table.Each P) (ids : List String) :
    (ids.foldl refreshOne b).host.table.Each P := by
  induction ids generalizing b with
  | nil => exact hb
  | cons id rest ih =>
      have htransitions := b.refreshOne_transitions id
      refine ih (htransitions.env.trans henv) (htransitions.consistent hconsistent)
        fun i u tracked => ?_
      rcases refreshOne_origin hconsistent tracked with ⟨hold, _⟩ | ⟨_, _, _, hran⟩
      · exact hb i u hold
      · exact brings.reload (henv ▸ hran)

theorem LoadInvariant.furnished (brings : LoadInvariant h.env P) (hb : h.table.Each P)
    (plan : Plan) :
    (furnished plan h).host.table.Each P := by
  have hpruned : (phase prune plan.prune (start h)).host.table.Each P := by
    cases plan.prune with
    | none => exact hb
    | some condition => exact fun id u tracked => hb id u (tracked_of_prune (b := start h) tracked)
  have henv : (phase prune plan.prune (start h)).host.env = h.env :=
    (phase_transitions prune_transitions plan.prune (start h)).env
  rw [Batch.furnished]
  cases plan.discover with
  | none => exact hpruned
  | some files => exact brings.discover henv hpruned files

/-- What loads and reloads see to is true of all that is tracked after a batch, if it was before. -/
theorem LoadInvariant.run (brings : LoadInvariant h.env P) (hconsistent : h.table.Consistent)
    (hb : h.table.Each P) (plan : Plan) : (run plan h).host.table.Each P := by
  have hprepared : (prepared plan h).host.table.Each P := by
    obtain ⟨log, hall⟩ := prepared_eq plan h
    have htransitions := furnished_transitions plan h
    rw [hall]
    exact brings.foldl_refreshOne
      (b := { Batch.furnished plan h with host := { (Batch.furnished plan h).host with
        trace := { (Batch.furnished plan h).host.trace with log } } })
      htransitions.env (htransitions.consistent hconsistent) (brings.furnished hb plan) _
  intro id u tracked
  rw [unit?_run] at tracked
  split at tracked
  · cases tracked
  · split at tracked
    · obtain ⟨v, hv, rfl⟩ := Option.map_eq_some_iff.mp tracked
      exact brings.welcomed (hprepared id v hv)
    · exact hprepared id u tracked

end Batch

namespace Host

variable {h : Host} {id : String} {u : PluginUnit}

/-- In every run, all that is tracked goes by a valid id or by the name of its file. -/
theorem Reachable.each_named (hreach : h.Reachable) :
    h.table.Each (PluginUnit.Named h.settings.suffix) := by
  have hboth := hreach.induct
    (P := fun settings t => t.Consistent ∧ t.Each (PluginUnit.Named settings.suffix))
    (fun _ => ⟨.empty, by simp [UnitTable.Each, UnitTable.unit?, UnitTable.empty]⟩)
    fun h plan hbefore => by
      have hinvariant : Batch.LoadInvariant h.env (PluginUnit.Named h.settings.suffix) :=
        ⟨PluginUnit.load_named, PluginUnit.reload_named, PluginUnit.Named.welcomed⟩
      exact ⟨Batch.consistent_run plan hbefore.1, hinvariant.run hbefore.1 hbefore.2 plan⟩
  exact hboth.2

end Host

end PluginHost
