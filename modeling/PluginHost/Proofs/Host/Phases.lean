import PluginHost.Proofs.Host.Transitions

/-!
What the phases of a batch can make of the tracked units. Each step erases a
unit, inserts a loaded one, replaces one, moves one to another id, or makes a
loaded one ready. Properties of the table that all these keep are kept by
batches, since every transition of a batch is such a step or leaves the table
alone.
-/
namespace PluginHost

/-- One step of a batch, on the tracked units and the ids noted as new. -/
inductive Shift : UnitTable × List String → UnitTable × List String → Prop
  | leave (t : UnitTable) (fresh : List String) (id : String) :
      Shift (t, fresh) (t.erase id, fresh)
  | enter {t : UnitTable} {fresh : List String} {u : PluginUnit} (live : u.Live)
      (loaded : u.state = .loaded) (newId : t.unit? u.id = none)
      (newPath : t.containsPath u.path = false) :
      Shift (t, fresh) (t.insert u.id u.path u, fresh ++ [u.id])
  | refresh {t : UnitTable} {fresh : List String} {id : String} {u v : PluginUnit}
      (tracked : t.unit? id = some u) (live : v.Live) (path : v.path = u.path)
      (state : v.state = u.state) (same : v.id = id) :
      Shift (t, fresh) (t.update id v, fresh ++ [id])
  | rename {t : UnitTable} {fresh : List String} {id : String} {u v : PluginUnit}
      (tracked : t.unit? id = some u) (live : v.Live) (path : v.path = u.path)
      (state : v.state = u.state) (free : t.unit? v.id = none) :
      Shift (t, fresh) ((t.update id v).rename id v.id, fresh ++ [v.id])
  | welcome {t : UnitTable} {fresh : List String} {id : String} {u : PluginUnit}
      (tracked : t.unit? id = some u) (loaded : u.state = .loaded) :
      Shift (t, fresh) (t.update id u.readied, fresh)

/-- Some steps of a batch. -/
def Shifts : UnitTable × List String → UnitTable × List String → Prop :=
  Relation.ReflTransGen Shift

theorem Shifts.refl (a : UnitTable × List String) : Shifts a a :=
  Relation.ReflTransGen.refl

theorem Shifts.trans {a b c : UnitTable × List String} (hab : Shifts a b) (hbc : Shifts b c) :
    Shifts a c :=
  Relation.ReflTransGen.trans hab hbc

theorem Shift.shifts {a b : UnitTable × List String} (h : Shift a b) : Shifts a b :=
  Relation.ReflTransGen.single h

theorem Shift.consistent {a b : UnitTable × List String} (h : Shift a b) (ha : a.1.Consistent) :
    b.1.Consistent := by
  cases h with
  | leave t fresh id => exact ha.erase id
  | enter live _ newId newPath => exact ha.insert live newId newPath
  | refresh tracked live path _ same => exact ha.update tracked live same path
  | rename tracked live path _ free => exact ha.rename tracked live free path
  | @welcome t fresh id u tracked loaded =>
      have hid : u.id = id := ha.id_eq tracked
      exact ha.update tracked ((ha.unit_live tracked).readied loaded) hid rfl

theorem Shifts.consistent {a b : UnitTable × List String} (h : Shifts a b) (ha : a.1.Consistent) :
    b.1.Consistent := by
  induction h with
  | refl => exact ha
  | tail _ hstep ih => exact hstep.consistent ih

theorem Shift.sorted {a b : UnitTable × List String} (h : Shift a b) (ha : a.1.Sorted) :
    b.1.Sorted := by
  cases h with
  | leave t fresh id => exact ha.erase id
  | @enter t fresh u _ _ _ _ => exact ha.insert u.id u.path u
  | @refresh t fresh id u v _ _ _ _ _ => exact ha.update id v
  | @rename t fresh id u v _ _ _ _ _ => exact (ha.update id v).rename id v.id
  | @welcome t fresh id u _ _ => exact ha.update id u.readied

theorem Shifts.sorted {a b : UnitTable × List String} (h : Shifts a b) (ha : a.1.Sorted) :
    b.1.Sorted := by
  induction h with
  | refl => exact ha
  | tail _ hstep ih => exact hstep.sorted ih

namespace Batch

/-- What steps work on. -/
def tracked (b : Batch) : UnitTable × List String := (b.host.table, b.fresh)

/-- A batch that went some steps further and has not checked dependencies meanwhile. -/
structure Advances (b after : Batch) : Prop where
  settings : after.host.settings = b.host.settings
  pool : after.host.pool = b.host.pool
  order : after.order = b.order
  shifts : Shifts b.tracked after.tracked

variable {b after : Batch} {id : String} {u : PluginUnit}

theorem Advances.refl (b : Batch) : b.Advances b :=
  ⟨rfl, rfl, rfl, .refl _⟩

theorem Advances.trans {last : Batch} (h : b.Advances after) (hlast : after.Advances last) :
    b.Advances last :=
  ⟨hlast.settings.trans h.settings, hlast.pool.trans h.pool, hlast.order.trans h.order,
    h.shifts.trans hlast.shifts⟩

theorem Refreshed.advances (tracked : b.host.table.unit? id = some u)
    (h : b.Refreshed id u after) : b.Advances after := by
  cases h with
  | kept back same =>
      exact ⟨rfl, rfl, rfl, (Shift.refresh tracked back.live back.path back.state same).shifts⟩
  | moved back free =>
      exact ⟨rfl, rfl, rfl, (Shift.rename tracked back.live back.path back.state free).shifts⟩
  | failedReload _ _ => exact ⟨rfl, rfl, rfl, (Shift.leave _ _ id).shifts⟩
  | taken _ _ _ _ => exact ⟨rfl, rfl, rfl, (Shift.leave _ _ id).shifts⟩

theorem Transition.advances (h : Transition b after) : b.Advances after := by
  cases h with
  | record log => exact ⟨rfl, rfl, rfl, .refl _⟩
  | @prune id _ _ _ _ _ _ _ => exact ⟨rfl, rfl, rfl, (Shift.leave _ _ id).shifts⟩
  | refuse _ _ => exact ⟨rfl, rfl, rfl, .refl _⟩
  | enter live state _ newId newPath =>
      exact ⟨rfl, rfl, rfl, (Shift.enter live state newId newPath).shifts⟩
  | refresh tracked refreshed => exact refreshed.advances tracked
  | @expel id _ _ _ _ _ _ _ => exact ⟨rfl, rfl, rfl, (Shift.leave _ _ id).shifts⟩

theorem Transitions.advances (h : Transitions b after) : b.Advances after :=
  h.keep (fun htransition hbefore => hbefore.trans htransition.advances) (.refl b)

theorem Transitions.consistent (h : Transitions b after) (hb : b.host.table.Consistent) :
    after.host.table.Consistent := by
  have hafter := h.advances.shifts.consistent (a := b.tracked) hb
  exact hafter

end Batch

end PluginHost
