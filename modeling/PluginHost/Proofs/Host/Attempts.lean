import PluginHost.Proofs.Host.Balance

/-!
Loading tracked units again, one after the other. Each takes one attempt,
after which the unit is back, under its id or a free one, or gone. Whatever
the loader answers, all other units stay as they are and the loader is not
called for them.
-/
namespace PluginHost

namespace Batch

/-- A unit that came back when one of some tracked units was loaded again, and that holds what the
load handed out. -/
def Redone (h : Host) (done : List String) (calls : List LoaderCall) (w : PluginUnit) : Prop :=
  ∃ id ∈ done, ∃ u loaded, h.table.unit? id = some u ∧ w.path = u.path ∧
    w.subUnits = loaded.subUnits ∧ .load u.path (.ok loaded) ∈ calls

/-- A unit of the file of one of some tracked units. -/
def SameFile (h : Host) (done : List String) (w : PluginUnit) : Prop :=
  ∃ id ∈ done, ∃ u, h.table.unit? id = some u ∧ w.path = u.path

/-- A batch on the way: some units were attempted, in order, and nothing else was touched. -/
structure Redoing (h : Host) (done : List String) (pieces : List (List LoaderCall)) (b : Batch) :
    Prop where
  calls : b.host.trace.calls = h.trace.calls ++ pieces.flatten
  attempts : List.Forall₂ (fun id piece => ∃ u, h.table.unit? id = some u ∧ u.Attempt piece)
    done pieces
  others : ∀ id u, h.table.unit? id = some u → id ∉ done → b.host.table.unit? id = some u
  origin : ∀ id w, b.host.table.unit? id = some w →
    h.table.unit? id = some w ∧ id ∉ done ∨ Redone h done pieces.flatten w
  fresh : ∀ id ∈ b.fresh, id ∈ done ∨ h.table.unit? id = none
  departed : ∀ w ∈ b.departed, SameFile h done w
  reported : (b.result.reload.all.map Target.path).Perm
    ((done.filterMap h.table.unit?).map PluginUnit.path)

variable {h : Host} {b after : Batch} {done : List String} {pieces : List (List LoaderCall)}
  {id : String} {u w : PluginUnit} {piece : List LoaderCall}

theorem Redone.mono (hw : Redone h done pieces.flatten w) (id : String) (piece : List LoaderCall) :
    Redone h (done ++ [id]) (pieces ++ [piece]).flatten w := by
  obtain ⟨i, hi, v, loaded, hv, hpath, hheld, hload⟩ := hw
  refine ⟨i, List.mem_append_left _ hi, v, loaded, hv, hpath, hheld, ?_⟩
  rw [List.flatten_append]
  exact List.mem_append_left _ hload

theorem SameFile.mono (hw : SameFile h done w) (id : String) : SameFile h (done ++ [id]) w := by
  obtain ⟨i, hi, v, hv, hpath⟩ := hw
  exact ⟨i, List.mem_append_left _ hi, v, hv, hpath⟩

theorem Redone.sameFile {calls : List LoaderCall} (hw : Redone h done calls w) :
    SameFile h done w := by
  obtain ⟨i, hi, v, _, hv, hpath, _⟩ := hw
  exact ⟨i, hi, v, hv, hpath⟩

namespace Redoing

/-- Nothing was attempted. -/
theorem start (h : Host) : Redoing h [] [] (.start h) where
  calls := (List.append_nil _).symm
  attempts := .nil
  others := fun _ _ hu _ => hu
  origin := fun _ _ hw => .inl ⟨hw, List.not_mem_nil⟩
  fresh := by simp [Batch.start]
  departed := by simp [Batch.start]
  reported := .refl _

/-- Writing records does not matter. -/
theorem record (hb : Redoing h done pieces b) (log : List LogRecord) :
    Redoing h done pieces { b with host := { b.host with trace := { b.host.trace with log } } } :=
  ⟨hb.calls, hb.attempts, hb.others, hb.origin, hb.fresh, hb.departed, hb.reported⟩

/-- One more unit was attempted: at most it came back, under whatever id, and all others stayed. -/
theorem add (hb : Redoing h done pieces b) (tracked : h.table.unit? id = some u)
    (attempt : u.Attempt piece)
    (calls : after.host.trace.calls = b.host.trace.calls ++ piece)
    (others : ∀ i w, b.host.table.unit? i = some w → i ≠ id → after.host.table.unit? i = some w)
    (origin : ∀ i w, after.host.table.unit? i = some w →
      b.host.table.unit? i = some w ∧ i ≠ id ∨
        ∃ loaded, w.path = u.path ∧ w.subUnits = loaded.subUnits ∧
          .load u.path (.ok loaded) ∈ piece)
    (fresh : ∀ i ∈ after.fresh, i ∈ b.fresh ∨ i = id ∨ b.host.table.unit? i = none)
    (departed : ∀ w ∈ after.departed, w ∈ b.departed ∨ w.path = u.path)
    (reported : (after.result.reload.all.map Target.path).Perm
      (u.path :: b.result.reload.all.map Target.path)) :
    Redoing h (done ++ [id]) (pieces ++ [piece]) after where
  calls := by
    rw [calls, hb.calls, List.flatten_append, List.flatten_singleton, List.append_assoc]
  attempts := List.rel_append hb.attempts (.cons ⟨u, tracked, attempt⟩ .nil)
  others := by
    intro i w hw hi
    simp only [List.mem_append, List.mem_singleton, not_or] at hi
    exact others i w (hb.others i w hw hi.1) hi.2
  origin := by
    intro i w hw
    rcases origin i w hw with ⟨hbefore, hother⟩ | ⟨loaded, hpath, hheld, hload⟩
    · rcases hb.origin i w hbefore with ⟨hstart, hi⟩ | hredone
      · exact .inl ⟨hstart, by simp [hi, hother]⟩
      · exact .inr (hredone.mono id piece)
    · refine .inr ⟨id, by simp, u, loaded, tracked, hpath, hheld, ?_⟩
      rw [List.flatten_append, List.flatten_singleton]
      exact List.mem_append_right _ hload
  fresh := by
    intro i hi
    rw [List.mem_append, List.mem_singleton]
    rcases fresh i hi with hold | rfl | hfree
    · exact (hb.fresh i hold).imp_left .inl
    · exact .inl (.inr rfl)
    · -- An id that is free by now was attempted, or it never was one.
      by_cases hdone : i ∈ done
      · exact .inl (.inl hdone)
      · cases hi : h.table.unit? i with
        | none => exact .inr rfl
        | some w => simp [hb.others i w hi hdone] at hfree
  departed := by
    intro w hw
    rcases departed w hw with hold | hpath
    · exact (hb.departed w hold).mono id
    · exact ⟨id, by simp, u, tracked, hpath⟩
  reported := by
    have hlast : ((done ++ [id]).filterMap h.table.unit?).map PluginUnit.path =
        (done.filterMap h.table.unit?).map PluginUnit.path ++ [u.path] := by
      simp [tracked]
    rw [hlast]
    exact (reported.trans (hb.reported.cons u.path)).trans (List.perm_append_singleton _ _).symm

theorem paths_noteReload (b : Batch) (target : Target) (success : Bool) :
    ((b.noteReload target success).result.reload.all.map Target.path).Perm
      (target.path :: b.result.reload.all.map Target.path) :=
  (PhaseResult.perm_all_note b.result.reload target success).map Target.path

/-- A unit came back. -/
theorem back (hb : Redoing h done pieces b) (tracked : h.table.unit? id = some u)
    {loaded : LoadedCode} (back : u.Back w loaded)
    (free : w.id = id ∨ b.host.table.unit? w.id = none)
    (calls : after.host.trace.calls = b.host.trace.calls ++ u.again loaded)
    (units : ∀ i, after.host.table.unit? i =
      if i = w.id then some w else if i = id then none else b.host.table.unit? i)
    (fresh : after.fresh = b.fresh ++ [w.id]) (departed : after.departed = b.departed)
    (reported : (after.result.reload.all.map Target.path).Perm
      (w.target.path :: b.result.reload.all.map Target.path)) :
    Redoing h (done ++ [id]) (pieces ++ [u.again loaded]) after := by
  rw [w.path_target, back.path] at reported
  refine hb.add tracked (.back loaded) calls ?_ ?_ ?_ (fun v hv => .inl (departed ▸ hv)) reported
  · intro i v hv hi
    have hother : i ≠ w.id := by
      rintro rfl
      rcases free with hsame | hfree
      · exact hi hsame
      · simp [hfree] at hv
    rw [units, if_neg hother, if_neg hi, hv]
  · intro i v hv
    rw [units] at hv
    split at hv
    · cases hv
      exact .inr ⟨loaded, back.path, back.held, by simp [PluginUnit.again]⟩
    · split at hv
      · cases hv
      · next hi => exact .inl ⟨hv, hi⟩
  · intro i hi
    rw [fresh, List.mem_append, List.mem_singleton] at hi
    rcases hi with hold | rfl
    · exact .inl hold
    · exact .inr free

/-- A unit went. -/
theorem gone (hb : Redoing h done pieces b) (tracked : h.table.unit? id = some u)
    (attempt : u.Attempt piece) (path : w.path = u.path)
    (calls : after.host.trace.calls = b.host.trace.calls ++ piece)
    (table : after.host.table = b.host.table.erase id) (fresh : after.fresh = b.fresh)
    (departed : after.departed = b.departed ++ [w])
    (reported : (after.result.reload.all.map Target.path).Perm
      (u.path :: b.result.reload.all.map Target.path)) :
    Redoing h (done ++ [id]) (pieces ++ [piece]) after := by
  refine hb.add tracked attempt calls ?_ ?_ (fun i hi => .inl (fresh ▸ hi)) ?_ reported
  · intro i v hv hi
    rw [table, UnitTable.unit?_erase, if_neg hi, hv]
  · intro i v hv
    rw [table, UnitTable.unit?_erase] at hv
    split at hv
    · cases hv
    · next hi => exact .inl ⟨hv, hi⟩
  · intro v hv
    rw [departed, List.mem_append, List.mem_singleton] at hv
    rcases hv with hold | rfl
    · exact .inl hold
    · exact .inr path

/-- Whatever comes of it, loading a unit again is one attempt. -/
theorem refreshed (hb : Redoing h done pieces b) (tracked : h.table.unit? id = some u)
    (live : u.Live) (new : id ∉ done) (refreshed : b.Refreshed id u after) :
    ∃ piece, Redoing h (done ++ [id]) (pieces ++ [piece]) after := by
  have hthere : b.host.table.unit? id = some u := hb.others id u tracked new
  cases refreshed with
  | @kept v loaded log back same =>
      refine ⟨_, hb.back tracked back (.inl same) rfl ?_ (same ▸ rfl) rfl
        (paths_noteReload _ v.target true)⟩
      intro i
      refine (UnitTable.unit?_update_tracked hthere v).trans ?_
      rw [same]
      by_cases hi : i = id <;> simp [hi]
  | @moved v loaded log back free =>
      exact ⟨_, hb.back tracked back (.inr free) rfl (fun i => UnitTable.unit?_moved hthere v) rfl rfl
        (paths_noteReload _ v.target true)⟩
  | @failedReload calls rest gone result log failedReload leaves =>
      obtain ⟨rfl, rfl⟩ := live.bare.leaves leaves
      have hreported := paths_noteReload b u.target false
      rw [u.path_target] at hreported
      exact ⟨_, hb.gone (w := u.bare.leaving) tracked (.failedReload failedReload result) rfl rfl
        rfl rfl rfl
        hreported⟩
  | @taken v w gone loaded rest result log back other taken leaves =>
      obtain ⟨rfl, rfl⟩ := back.live.leaves leaves
      have hreported := paths_noteReload b v.target false
      rw [v.path_target, back.path] at hreported
      rw [back.held]
      exact ⟨_, hb.gone (w := v.leaving) tracked (.taken loaded result) back.path rfl rfl rfl rfl
        hreported⟩

/-- Units that are tracked are attempted one after the other. -/
theorem foldl (hb : Redoing h done pieces b) (hconsistent : h.table.Consistent)
    {rest : List String} (distinct : (done ++ rest).Nodup)
    (tracked : ∀ id ∈ rest, (h.table.unit? id).isSome) :
    ∃ more, Redoing h (done ++ rest) (pieces ++ more) (rest.foldl refreshOne b) := by
  induction rest generalizing b done pieces with
  | nil => exact ⟨[], by simpa using hb⟩
  | cons id rest ih =>
      rw [List.append_cons] at distinct
      have hnew : id ∉ done := by
        have hfirst := List.nodup_append.mp (List.nodup_append.mp distinct).1
        exact fun hid => hfirst.2.2 id hid id (by simp) rfl
      obtain ⟨u, hu⟩ := Option.isSome_iff_exists.mp (tracked id List.mem_cons_self)
      have hlive : u.Live := hconsistent.unit_live hu
      have hold : id ∉ b.fresh := by
        intro hid
        rcases hb.fresh id hid with hdone | hnone
        · exact hnew hdone
        · simp [hu] at hnone
      have hrefreshed : b.Refreshed id u (b.refreshOne id) :=
        refreshOne_refreshed (hb.others id u hu hnew) hlive.running hold
      obtain ⟨piece, hnext⟩ := hb.refreshed hu hlive hnew hrefreshed
      obtain ⟨more, hall⟩ := ih hnext distinct fun i hi => tracked i (List.mem_cons_of_mem id hi)
      rw [← List.append_cons, List.append_assoc] at hall
      exact ⟨piece :: more, hall⟩

end Redoing

end Batch

end PluginHost
