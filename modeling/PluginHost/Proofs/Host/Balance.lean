import PluginHost.Proofs.Host.Reachable

/-!
The books of a batch. What was tracked before and what came make up what is
tracked after and what went, file by file, and the result tells of each that
came or went once. What went has ended its life, even if its sub-units could
not be given back or nobody could be told.
-/
namespace PluginHost

/-- What a result says of units that went: they were unloaded, or their reload or their dependency
check failed. -/
def BatchResult.left (r : BatchResult) : List Target :=
  r.unload.succeeded ++ r.unload.failed ++ r.reload.failed ++ r.dependencyCheck.failed

/-- All that a phase tells of. -/
def PhaseResult.all (r : PhaseResult) : List Target := r.succeeded ++ r.failed

theorem PhaseResult.perm_all_note (r : PhaseResult) (target : Target) (success : Bool) :
    (r.note target success).all.Perm (target :: r.all) := by
  cases success with
  | false =>
      have hlast : (r.note target false).all = r.all ++ [target] :=
        (List.append_assoc r.succeeded r.failed [target]).symm
      rw [hlast]
      exact List.perm_append_singleton target r.all
  | true =>
      have hmiddle : (r.note target true).all = r.succeeded ++ target :: r.failed :=
        List.append_assoc r.succeeded [target] r.failed
      rw [hmiddle]
      exact List.perm_middle

@[simp] theorem PluginUnit.path_target (u : PluginUnit) : u.target.path = u.path := by
  unfold target
  split <;> rfl

namespace Batch

/-- A batch whose books are right so far: what went is on its way out. -/
structure Balanced (h : Host) (b : Batch) : Prop where
  balance : (h.table.units.map PluginUnit.path ++ b.result.load.succeeded.map Target.path).Perm
    (b.host.table.units.map PluginUnit.path ++ b.departed.map PluginUnit.path)
  told : (b.departed.map PluginUnit.path).Perm (b.result.left.map Target.path)
  leaving : ∀ u ∈ b.departed, u.state = .unloading

variable {h : Host} {b after : Batch} {id : String} {u : PluginUnit} {target : Target}

namespace Balanced

theorem start (h : Host) : Balanced h (.start h) where
  balance := List.Perm.refl _
  told := List.Perm.refl _
  leaving := by simp [Batch.start]

/-- The books of a batch depend on the files that are tracked, on what went and on what is told. -/
theorem congr (hb : Balanced h b)
    (units : (b.host.table.units.map PluginUnit.path).Perm
      (after.host.table.units.map PluginUnit.path))
    (departed : after.departed = b.departed)
    (loads : after.result.load.succeeded = b.result.load.succeeded)
    (left : after.result.left = b.result.left) : Balanced h after where
  balance := by
    rw [loads, departed]
    exact hb.balance.trans (units.append_right _)
  told := by
    rw [departed, left]
    exact hb.told
  leaving := by
    rw [departed]
    exact hb.leaving

/-- A unit comes. -/
theorem enter (hb : Balanced h b)
    (units : (after.host.table.units.map PluginUnit.path).Perm
      (target.path :: b.host.table.units.map PluginUnit.path))
    (departed : after.departed = b.departed)
    (loads : after.result.load.succeeded = b.result.load.succeeded ++ [target])
    (left : after.result.left = b.result.left) : Balanced h after where
  balance := by
    rw [loads, departed, List.map_append, ← List.append_assoc]
    calc (h.table.units.map PluginUnit.path ++ b.result.load.succeeded.map Target.path ++
            [target].map Target.path).Perm
          (target.path :: (h.table.units.map PluginUnit.path ++
            b.result.load.succeeded.map Target.path)) := List.perm_append_singleton _ _
      List.Perm _ (target.path :: (b.host.table.units.map PluginUnit.path ++
            b.departed.map PluginUnit.path)) := hb.balance.cons _
      List.Perm _ (after.host.table.units.map PluginUnit.path ++
            b.departed.map PluginUnit.path) := units.symm.append_right _
  told := by
    rw [departed, left]
    exact hb.told
  leaving := by
    rw [departed]
    exact hb.leaving

/-- A unit goes. -/
theorem leave (hb : Balanced h b) (gone : PluginUnit)
    (units : (b.host.table.units.map PluginUnit.path).Perm
      (gone.path :: after.host.table.units.map PluginUnit.path))
    (departed : after.departed = b.departed ++ [gone])
    (loads : after.result.load.succeeded = b.result.load.succeeded)
    (left : after.result.left.Perm (target :: b.result.left)) (path : target.path = gone.path)
    (state : gone.state = .unloading) : Balanced h after where
  balance := by
    rw [loads, departed, List.map_append, ← List.append_assoc]
    calc (h.table.units.map PluginUnit.path ++ b.result.load.succeeded.map Target.path).Perm
          (b.host.table.units.map PluginUnit.path ++ b.departed.map PluginUnit.path) := hb.balance
      List.Perm _ (gone.path :: (after.host.table.units.map PluginUnit.path ++
            b.departed.map PluginUnit.path)) := units.append_right _
      List.Perm _ (after.host.table.units.map PluginUnit.path ++
            b.departed.map PluginUnit.path ++ [gone].map PluginUnit.path) :=
        (List.perm_append_singleton _ _).symm
  told := by
    rw [departed, List.map_append]
    calc (b.departed.map PluginUnit.path ++ [gone].map PluginUnit.path).Perm
          (gone.path :: b.departed.map PluginUnit.path) := List.perm_append_singleton _ _
      List.Perm _ (gone.path :: b.result.left.map Target.path) := hb.told.cons _
      _ = (target :: b.result.left).map Target.path := by rw [List.map_cons, path]
      List.Perm _ (after.result.left.map Target.path) := (left.map _).symm
  leaving := by
    rw [departed]
    intro u hu
    rcases List.mem_append.mp hu with hold | hnew
    · exact hb.leaving u hold
    · rw [List.mem_singleton.mp hnew]
      exact state

end Balanced

/-! ### Deeds -/

theorem left_noteUnload (b : Batch) (target : Target) (success : Bool) :
    (b.noteUnload target success).result.left.Perm (target :: b.result.left) :=
  ((PhaseResult.perm_all_note b.result.unload target success).append_right _).append_right _

theorem left_noteReload_failed (b : Batch) (target : Target) :
    (b.noteReload target false).result.left.Perm (target :: b.result.left) := by
  apply List.perm_iff_count.mpr
  intro t
  simp only [noteReload, PhaseResult.note, BatchResult.left, Bool.false_eq_true, if_false,
    List.count_append, List.count_cons, List.count_nil]
  omega

theorem left_noteCheck_failed (b : Batch) (target : Target) :
    (b.noteCheck target false).result.left.Perm (target :: b.result.left) := by
  apply List.perm_iff_count.mpr
  intro t
  simp only [noteCheck, PhaseResult.note, BatchResult.left, Bool.false_eq_true, if_false,
    List.count_append, List.count_cons, List.count_nil]
  omega

theorem Balanced.refreshed (hb : Balanced h b) (hconsistent : b.host.table.Consistent)
    (tracked : b.host.table.unit? id = some u) (refreshed : b.Refreshed id u after) :
    Balanced h after := by
  have hsplit : (b.host.table.units.map PluginUnit.path).Perm
      (u.path :: (b.host.table.erase id).units.map PluginUnit.path) :=
    (UnitTable.units_perm hconsistent.distinct tracked).map PluginUnit.path
  cases refreshed with
  | @kept v loaded log back same =>
      have hback := (UnitTable.units_update_perm hconsistent.distinct tracked v).map PluginUnit.path
      rw [List.map_cons, back.path] at hback
      exact hb.congr (hsplit.trans hback.symm) rfl rfl rfl
  | @moved v loaded log back free =>
      have hback := (UnitTable.units_rename_perm tracked v free).map PluginUnit.path
      rw [List.map_cons, back.path] at hback
      exact hb.congr (hsplit.trans hback.symm) rfl rfl rfl
  | failedReload failedReload leaves =>
      obtain ⟨rfl, _⟩ := (hconsistent.unit_live tracked).bare.leaves leaves
      exact hb.leave u.bare.leaving hsplit rfl rfl (left_noteReload_failed _ _) u.path_target rfl
  | @taken v w gone loaded rest result log back other taken leaves =>
      obtain ⟨rfl, _⟩ := back.live.leaves leaves
      rw [← back.path] at hsplit
      exact hb.leave v.leaving hsplit rfl rfl (left_noteReload_failed _ _) v.path_target rfl

theorem Balanced.transition (hb : Balanced h b) (hconsistent : b.host.table.Consistent)
    (htransition : Transition b after) : Balanced h after := by
  cases htransition with
  | record log => exact hb.congr (.refl _) rfl rfl rfl
  | @prune id u _ _ _ _ tracked leaves =>
      obtain ⟨rfl, _⟩ := (hconsistent.unit_live tracked).leaves leaves
      have hsplit := (UnitTable.units_perm hconsistent.distinct tracked).map PluginUnit.path
      exact hb.leave u.leaving hsplit rfl rfl (left_noteUnload _ _ _) u.path_target rfl
  | refuse _ _ => exact hb.congr (.refl _) rfl rfl rfl
  | @enter u loaded log live state held newId newPath =>
      have hcome := (UnitTable.units_insert_perm u.path u newId).map PluginUnit.path
      rw [List.map_cons, ← u.path_target] at hcome
      exact hb.enter hcome rfl rfl rfl
  | refresh tracked refreshed => exact hb.refreshed hconsistent tracked refreshed
  | @expel id u _ _ _ _ tracked leaves =>
      obtain ⟨rfl, _⟩ := (hconsistent.unit_live tracked).leaves leaves
      have hsplit := (UnitTable.units_perm hconsistent.distinct tracked).map PluginUnit.path
      exact hb.leave u.leaving hsplit rfl rfl (left_noteCheck_failed _ _) u.path_target rfl

theorem Balanced.transitions (hb : Balanced h b) (hconsistent : b.host.table.Consistent)
    (htransitions : Transitions b after) : Balanced h after := by
  have hboth := htransitions.keep (P := fun b => b.host.table.Consistent ∧ Balanced h b)
    (fun htransition hbefore => ⟨htransition.transitions.consistent hbefore.1,
      hbefore.2.transition hbefore.1 htransition⟩)
    ⟨hconsistent, hb⟩
  exact hboth.2

theorem balanced_validate (plan : Plan) (hconsistent : h.table.Consistent) :
    Balanced h (validate (prepared plan h)) := by
  have hprepared := (Balanced.start h).transitions hconsistent (prepared_transitions plan h)
  obtain ⟨log, hchecked⟩ := (prepared plan h).validate_eq
  have hpurged := hprepared.transitions ((prepared_transitions plan h).consistent hconsistent)
    (prepared plan h).purged_transitions
  rw [hchecked]
  exact hpurged.congr (.refl _) rfl rfl rfl

/-! ### The whole batch -/

/-- A batch whose books are right at its end: the files tracked before with those of the plugins it
loaded are the files tracked after with those of the plugins that went, each of which it tells of
once; and what went is at the end of its life, with nothing registered. -/
structure Balances (h : Host) (b : Batch) : Prop where
  balance : (h.table.units.map PluginUnit.path ++ b.result.load.succeeded.map Target.path).Perm
    (b.host.table.units.map PluginUnit.path ++ b.result.left.map Target.path)
  told : (b.departed.map PluginUnit.path).Perm (b.result.left.map Target.path)
  ended : ∀ u ∈ b.departed, u.state = .unloaded ∧ u.registry.listeners = [] ∧ u.registry.help = []

theorem departed_run_gone (plan : Plan) (hconsistent : h.table.Consistent) :
    (run plan h).departed = (validate (prepared plan h)).departed.map PluginUnit.gone := by
  have hleaving := (balanced_validate plan hconsistent).leaving
  rw [departed_run]
  apply List.map_congr_left
  intro u hu
  rw [PluginUnit.remove_unloading (hleaving u hu)]

theorem paths_run (plan : Plan) (hconsistent : h.table.Consistent) :
    ((run plan h).host.table.units.map PluginUnit.path).Perm
      ((validate (prepared plan h)).host.table.units.map PluginUnit.path) := by
  have hchecked : (validate (prepared plan h)).host.table.Consistent :=
    (validate_validated _).consistent ((prepared_transitions plan h).consistent hconsistent)
  rw [(run_quiet plan h).table, (notify_table _).2.2]
  exact UnitTable.map_units_foldl_welcome_perm (fun _ => rfl) hchecked.distinct _ _

theorem balances_run (plan : Plan) (hconsistent : h.table.Consistent) :
    Balances h (run plan h) := by
  obtain ⟨hbalance, htold, _⟩ := balanced_validate plan hconsistent
  have hdeparted := departed_run_gone plan hconsistent
  have hpaths : (run plan h).departed.map PluginUnit.path =
      (validate (prepared plan h)).departed.map PluginUnit.path := by
    rw [hdeparted, List.map_map]
    rfl
  refine ⟨?_, ?_, ?_⟩
  · rw [result_run]
    exact hbalance.trans ((paths_run plan hconsistent).symm.append htold)
  · rw [hpaths, result_run]
    exact htold
  · intro u hu
    rw [hdeparted] at hu
    obtain ⟨v, _, rfl⟩ := List.mem_map.mp hu
    exact ⟨rfl, rfl, rfl⟩

end Batch

/-- In every run the books of every batch are right, whatever it is to do and whatever the loader
and the pool answer. -/
theorem Host.Reachable.batch_balances {h : Host} (hreach : h.Reachable) (plan : Batch.Plan) :
    Batch.Balances h (Batch.run plan h) :=
  Batch.balances_run plan hreach.consistent

namespace HostWitness

/-- The host once its pool takes no task any more. -/
def closing : Host := { busy with pool := busy.pool.close }

/-- What has to be done to unload one of two plugins that go together. -/
def plan : Batch.Plan := { Batch.Plan.none with prune := some fun u => u.id = "core" }

theorem closing_batch_balances : closing.Reachable ∧
    (Batch.run plan closing).departed.map PluginUnit.path = [⟨"chat.mcdr"⟩, ⟨"core.mcdr"⟩] ∧
    Batch.Balances closing (Batch.run plan closing) := by
  have hreach : closing.Reachable :=
    busy_reachable.meanwhile busy.files busy.trace.log busy.pool.close
  have hgone : (Batch.run plan closing).departed.map PluginUnit.path =
      [⟨"chat.mcdr"⟩, ⟨"core.mcdr"⟩] := by decide +kernel
  exact ⟨hreach, hgone, hreach.batch_balances plan⟩

end HostWitness

end PluginHost
