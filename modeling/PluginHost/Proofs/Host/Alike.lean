import PluginHost.Proofs.Host.Current
import PluginHost.Proofs.Plugin.Steady

/-!
Two batches in step. Batches are alike when they differ in nothing but the
history of their loader, the records they wrote, the files they see, and the
failures to load some files that only one of them sees. With a loader that goes
by what files hold, alike batches stay alike through all phases, as long as
both read the same for what they load.
-/
namespace PluginHost

/-- A result without the failures to load some files. -/
def BatchResult.sparing (own : Path → Bool) (r : BatchResult) : BatchResult :=
  { r with load := { r.load with failed := r.load.failed.filter fun t => !own t.path } }

theorem Json.put_map {α β : Type} (f : α → β) (key : String) (value : α)
    (members : List (String × α)) : put key (f value) (members.map fun e => (e.1, f e.2)) =
      (put key value members).map fun e => (e.1, f e.2) := by
  induction members with
  | nil => rfl
  | cons e rest ih =>
      obtain ⟨k, v⟩ := e
      simp only [List.map_cons, put, ih]
      split
      · rfl
      · split <;> rfl

namespace UnitTable

/-- A table, whichever loads the sub-units of its units came with. -/
def unnumbered (t : UnitTable) : UnitTable :=
  { t with byId := t.byId.map fun e => (e.1, e.2.unnumbered) }

/-- Two tables that are the same but for the numbers of sub-units. -/
def Alike (s t : UnitTable) : Prop :=
  s.unnumbered = t.unnumbered

variable {s t : UnitTable} {u v : PluginUnit} {id : String} {path : Path}

theorem unit?_unnumbered (t : UnitTable) (id : String) :
    t.unnumbered.unit? id = (t.unit? id).map PluginUnit.unnumbered := by
  unfold unit? unnumbered
  induction t.byId with
  | nil => rfl
  | cons e rest ih =>
      rw [List.map_cons, List.lookup_cons, List.lookup_cons, ih]
      split <;> rfl

theorem unnumbered_erase (t : UnitTable) (id : String) :
    (t.erase id).unnumbered = t.unnumbered.erase id := by
  simp only [unnumbered, erase, List.filter_map]
  rfl

theorem unnumbered_insert (t : UnitTable) (id : String) (path : Path) (u : PluginUnit) :
    (t.insert id path u).unnumbered = t.unnumbered.insert id path u.unnumbered := by
  simp only [unnumbered, insert, ← Json.put_map]

theorem unnumbered_update (t : UnitTable) (id : String) (u : PluginUnit) :
    (t.update id u).unnumbered = t.unnumbered.update id u.unnumbered := by
  simp only [unnumbered, update, List.map_map]
  congr 1
  apply List.map_congr_left
  intro e _
  simp only [Function.comp_apply]
  split <;> rfl

theorem unnumbered_rename (t : UnitTable) (old new : String) :
    (t.rename old new).unnumbered = t.unnumbered.rename old new := by
  unfold rename
  rw [unit?_unnumbered]
  cases t.unit? old with
  | none => rfl
  | some u =>
      simp only [unnumbered, Option.map_some, ← Json.put_map, List.filter_map]
      rfl

namespace Alike

variable (h : s.Alike t)
include h

theorem same : s.unnumbered = t.unnumbered := h

theorem byId : (s.byId.map fun e => (e.1, e.2.unnumbered)) =
    t.byId.map fun e => (e.1, e.2.unnumbered) :=
  congrArg UnitTable.byId h.same

theorem idByPath : s.idByPath = t.idByPath := by
  have hsame : s.unnumbered.idByPath = t.unnumbered.idByPath := congrArg _ h.same
  exact hsame

theorem unit? (id : String) : s.unit? id = none ∧ t.unit? id = none ∨
    ∃ u v, s.unit? id = some u ∧ t.unit? id = some v ∧ u.Alike v := by
  have hsame : s.unnumbered.unit? id = t.unnumbered.unit? id :=
    congrArg (UnitTable.unit? · id) h.same
  rw [unit?_unnumbered, unit?_unnumbered] at hsame
  cases hs : s.unit? id with
  | none =>
      rw [hs] at hsame
      exact .inl ⟨rfl, Option.map_eq_none_iff.mp hsame.symm⟩
  | some u =>
      rw [hs] at hsame
      obtain ⟨v, hv, huv⟩ := Option.map_eq_some_iff.mp hsame.symm
      exact .inr ⟨u, v, rfl, hv, huv.symm⟩

theorem containsPath (path : Path) : s.containsPath path = t.containsPath path := by
  rw [UnitTable.containsPath, UnitTable.containsPath, idOf?, idOf?, h.idByPath]

theorem pathOf? (id : String) : s.pathOf? id = t.pathOf? id := by
  rw [UnitTable.pathOf?, UnitTable.pathOf?]
  rcases h.unit? id with ⟨hs, ht⟩ | ⟨u, v, hs, ht, huv⟩
  · rw [hs, ht]
  · rw [hs, ht, Option.map_some, Option.map_some, huv.path]

theorem erase (id : String) : (s.erase id).Alike (t.erase id) := by
  rw [Alike, unnumbered_erase, unnumbered_erase, h.same]

theorem insert (huv : u.Alike v) (id : String) (path : Path) :
    (s.insert id path u).Alike (t.insert id path v) := by
  rw [Alike, unnumbered_insert, unnumbered_insert, h.same, huv.same]

theorem update (huv : u.Alike v) (id : String) : (s.update id u).Alike (t.update id v) := by
  rw [Alike, unnumbered_update, unnumbered_update, h.same, huv.same]

theorem rename (old new : String) : (s.rename old new).Alike (t.rename old new) := by
  rw [Alike, unnumbered_rename, unnumbered_rename, h.same]

end Alike

end UnitTable

namespace Host

/-- Two hosts in step: they see other files and asked their loader, which goes by what files hold,
for other things before. -/
structure Alike (files : FileSystem) (h h' : Host) : Prop where
  steady : h.loader.Steady
  settings : h'.settings = h.settings
  env : h'.env = { h.env with files }
  table : h.table.Alike h'.table
  pool : h'.pool = h.pool
  exported : h'.exported = h.exported

variable {files : FileSystem} {h h' : Host}

theorem Alike.traced (alike : h.Alike files h') (t t' : Trace) :
    Alike files { h with trace := t } { h' with trace := t' } :=
  ⟨alike.steady, alike.settings, alike.env, alike.table, alike.pool, alike.exported⟩

theorem Alike.language (alike : h.Alike files h') : h'.language = h.language :=
  congrArg UnitEnv.language alike.env

theorem Alike.graph (alike : h.Alike files h') : h'.graph = h.graph := by
  have hnodes : ∀ h : Host, h.graph = ⟨h.settings.identity,
      (h.table.byId.map fun e => (e.1, e.2.unnumbered)).filterMap fun e =>
        e.2.metadata.map fun m => ⟨e.1, m.version, m.dependencies⟩⟩ := by
    intro h
    rw [List.filterMap_map]
    rfl
  rw [hnodes, hnodes, alike.settings, alike.table.byId]

/-- Conditions that do not look at numbers, and that see both files alike where it matters, select
the same units. -/
theorem Alike.select (alike : h.Alike files h') {condition condition' : PluginUnit → Bool}
    (same : ∀ e ∈ h.table.byId, condition e.2 = condition' e.2)
    (blind : ∀ u : PluginUnit, condition' u.unnumbered = condition' u) :
    h.select condition = h'.select condition' := by
  have hselect : ∀ h : Host, h.select condition' =
      ((h.table.byId.map fun e => (e.1, e.2.unnumbered)).filter fun e => condition' e.2).map
        Prod.fst := by
    intro h
    rw [List.filter_map, List.map_map]
    simp only [Function.comp_def, blind]
    rfl
  have hfirst : h.select condition = h.select condition' := by
    rw [Host.select, Host.select]
    exact congrArg _ (List.filter_congr same)
  rw [hfirst, hselect, hselect, alike.table.byId]

end Host

namespace Batch

/-- Two batches in step, the first of which has failures of its own. -/
structure Alike (files : FileSystem) (own : Path → Bool) (b b' : Batch) : Prop where
  host : b.host.Alike files b'.host
  departed : List.Forall₂ PluginUnit.Alike b.departed b'.departed
  fresh : b'.fresh = b.fresh
  order : b'.order = b.order
  result : b'.result = b.result.sparing own

variable {files : FileSystem} {own : Path → Bool} {b b' : Batch} {u v : PluginUnit} {path : Path}

namespace Alike

variable (h : b.Alike files own b')
include h

theorem traced (t t' : Trace) :
    Alike files own { b with host := { b.host with trace := t } }
      { b' with host := { b'.host with trace := t' } } :=
  ⟨h.host.traced t t', h.departed, h.fresh, h.order, h.result⟩

theorem tell (level level' : Level) (key key' : String) (args args' : List String) :
    (b.tell level key args).Alike files own (b'.tell level' key' args') :=
  h.traced _ _

theorem tellFirst (level : Level) (key : String) (args : List String) :
    (b.tell level key args).Alike files own b' :=
  h.traced _ b'.host.trace

theorem withTable {t t' : UnitTable} (table : t.Alike t') :
    Alike files own { b with host := { b.host with table := t } }
      { b' with host := { b'.host with table := t' } } :=
  ⟨⟨h.host.steady, h.host.settings, h.host.env, table, h.host.pool, h.host.exported⟩, h.departed,
    h.fresh, h.order, h.result⟩

theorem noteLoaded (target : Target) :
    (b.noteLoad target true).Alike files own (b'.noteLoad target true) := by
  refine ⟨h.host, h.departed, h.fresh, h.order, ?_⟩
  rw [noteLoad, h.result]
  rfl

theorem noteFailed (foreign : own path = false) :
    (b.noteLoad (.file path) false).Alike files own (b'.noteLoad (.file path) false) := by
  refine ⟨h.host, h.departed, h.fresh, h.order, ?_⟩
  rw [noteLoad, noteLoad, h.result]
  simp [BatchResult.sparing, PhaseResult.note, Target.path, foreign]

theorem noteOwn (mine : own path = true) : (b.noteLoad (.file path) false).Alike files own b' := by
  refine ⟨h.host, h.departed, h.fresh, h.order, ?_⟩
  rw [noteLoad, h.result]
  simp [BatchResult.sparing, PhaseResult.note, Target.path, mine]

theorem noteUnload (target : Target) (success : Bool) :
    (b.noteUnload target success).Alike files own (b'.noteUnload target success) := by
  refine ⟨h.host, h.departed, h.fresh, h.order, ?_⟩
  rw [Batch.noteUnload, h.result]
  rfl

theorem noteReload (target : Target) (success : Bool) :
    (b.noteReload target success).Alike files own (b'.noteReload target success) := by
  refine ⟨h.host, h.departed, h.fresh, h.order, ?_⟩
  rw [Batch.noteReload, h.result]
  rfl

theorem noteCheck (target : Target) (success : Bool) :
    (b.noteCheck target success).Alike files own (b'.noteCheck target success) := by
  refine ⟨h.host, h.departed, h.fresh, h.order, ?_⟩
  rw [Batch.noteCheck, h.result]
  rfl

theorem noteFresh (id : String) : (b.noteFresh id).Alike files own (b'.noteFresh id) :=
  ⟨h.host, h.departed, by rw [Batch.noteFresh, h.fresh]; rfl, h.order, h.result⟩

/-! ### Leaving -/

theorem depart (id : String) :
    (b.depart id).1.Alike files own (b'.depart id).1 ∧ (b'.depart id).2 = (b.depart id).2 := by
  rcases h.host.table.unit? id with ⟨hu, hv⟩ | ⟨u, v, hu, hv, huv⟩
  · rw [depart_untracked hu, depart_untracked hv]
    exact ⟨h, rfl⟩
  · have hgone : PluginUnit.SameEnd (u.unload b.host.env b.host.trace)
        (v.unload { b.host.env with files } b'.host.trace) :=
      PluginUnit.unload_alike h.host.steady huv _ _
    simp only [Batch.depart, hu, hv, h.host.env]
    generalize u.unload b.host.env b.host.trace = end₁ at hgone
    generalize v.unload { b.host.env with files } b'.host.trace = end₂ at hgone
    obtain ⟨gone, result, t⟩ := end₁
    obtain ⟨gone', result', t'⟩ := end₂
    obtain ⟨hunit, hresult⟩ := hgone
    dsimp only at hunit hresult
    subst hresult
    have hleft : Alike files own
        { b with host := { b.host with table := b.host.table.erase id, trace := t },
                 departed := b.departed ++ [gone] }
        { b' with host := { b'.host with table := b'.host.table.erase id, trace := t' },
                  departed := b'.departed ++ [gone'] } :=
      ⟨⟨h.host.steady, h.host.settings, h.host.env, h.host.table.erase id, h.host.pool,
        h.host.exported⟩, List.rel_append h.departed (.cons hunit .nil), h.fresh, h.order, h.result⟩
    cases result with
    | ok _ => exact ⟨hleft.tell _ _ _ _ _ _, by rw [huv.target]⟩
    | error cause => exact ⟨hleft.tell _ _ _ _ _ _, by rw [huv.target]⟩

theorem associated (selected : List String) (operation : String) :
    (b.associated selected operation).1.Alike files own (b'.associated selected operation).1 ∧
      (b'.associated selected operation).2 = (b.associated selected operation).2 := by
  obtain ⟨log, hlog⟩ := b.associated_fst selected operation
  obtain ⟨log', hlog'⟩ := b'.associated_fst selected operation
  rw [hlog, hlog', associated_snd, associated_snd, h.host.graph]
  exact ⟨h.traced _ _, rfl⟩

theorem foldl {α : Type} {step : Batch → α → Batch}
    (hstep : ∀ {b b' : Batch}, b.Alike files own b' → ∀ a, (step b a).Alike files own (step b' a))
    (l : List α) : (l.foldl step b).Alike files own (l.foldl step b') := by
  induction l generalizing b b' with
  | nil => exact h
  | cons a rest ih => exact ih (hstep h a)

/-! ### Prune -/

theorem pruneOne (id : String) : (b.pruneOne id).Alike files own (b'.pruneOne id) := by
  obtain ⟨hgone, htarget⟩ := h.depart id
  unfold Batch.pruneOne
  generalize b.depart id = left at hgone htarget
  generalize b'.depart id = left' at hgone htarget
  obtain ⟨after, target⟩ := left
  obtain ⟨after', target'⟩ := left'
  dsimp only at hgone htarget
  subst htarget
  rcases target' with _ | ⟨target, success⟩
  · exact hgone
  · exact hgone.noteUnload target success

theorem prune {condition condition' : PluginUnit → Bool}
    (same : ∀ e ∈ b.host.table.byId, condition e.2 = condition' e.2)
    (blind : ∀ u : PluginUnit, condition' u.unnumbered = condition' u) :
    (prune condition b).Alike files own (prune condition' b') := by
  unfold Batch.prune
  rw [h.host.select same blind]
  obtain ⟨hgathered, hids⟩ := h.associated (b'.host.select condition') "unload"
  dsimp only
  rw [hids]
  exact hgathered.foldl (fun hb id => hb.pruneOne id) _

/-! ### Discover -/

theorem discard (u v : PluginUnit) : (b.discard u).Alike files own (b'.discard v) := by
  have hdiscard : ∀ (b : Batch) (u : PluginUnit),
      ∃ t, b.discard u = { b with host := { b.host with trace := t } } := by
    intro b u
    unfold Batch.discard
    dsimp only
    split
    · split <;> exact ⟨_, rfl⟩
    · split <;> exact ⟨_, rfl⟩
  obtain ⟨t, ht⟩ := hdiscard b u
  obtain ⟨t', ht'⟩ := hdiscard b' v
  rw [ht, ht']
  exact h.traced t t'

/-- Both look at a file that both read the same. -/
theorem discoverOne (foreign : own path = false) (same : b.host.files.read path = files.read path) :
    (b.discoverOne path).Alike files own (b'.discoverOne path) := by
  have hloaded : PluginUnit.SameEnd ((PluginUnit.ofPath path).load b.host.env b.host.trace)
      ((PluginUnit.ofPath path).load { b.host.env with files } b'.host.trace) := by
    apply PluginUnit.load_alike
    · exact h.host.steady
    · exact (rfl : (PluginUnit.ofPath path).unnumbered = (PluginUnit.ofPath path).unnumbered)
    · exact same
  unfold Batch.discoverOne
  rw [← h.host.table.containsPath, h.host.env]
  split
  · exact h
  · generalize (PluginUnit.ofPath path).load b.host.env b.host.trace = end₁ at hloaded
    generalize (PluginUnit.ofPath path).load { b.host.env with files } b'.host.trace = end₂
      at hloaded
    obtain ⟨u, result, t⟩ := end₁
    obtain ⟨v, result', t'⟩ := end₂
    obtain ⟨huv, hresult⟩ := hloaded
    dsimp only at huv hresult
    subst hresult
    have hasked := h.traced t t'
    cases result with
    | error cause =>
        dsimp only
        exact (hasked.tell _ _ _ _ _ _).noteFailed foreign
    | ok _ =>
        dsimp only
        rw [← huv.id, ← h.host.table.pathOf?]
        split
        · exact ((hasked.tell _ _ _ _ _ _).discard u v).noteFailed foreign
        · rw [← huv.target]
          have htold := hasked.tell .info .info "plugin_manager.load_plugin.success"
            "plugin_manager.load_plugin.success" [u.title] [v.title]
          have htracked := htold.withTable (h.host.table.insert huv u.id path)
          exact (htracked.noteLoaded u.target).noteFresh u.id

/-- A file that only the first batch sees changes nothing if it does not load. -/
theorem discoverOne_own (mine : own path = true)
    (fails : ∀ t, ∃ cause, ((PluginUnit.ofPath path).load b.host.env t).2.1 = .error cause) :
    (b.discoverOne path).Alike files own b' := by
  obtain ⟨cause, hfails⟩ := fails b.host.trace
  unfold Batch.discoverOne
  split
  · exact h
  · generalize (PluginUnit.ofPath path).load b.host.env b.host.trace = ending at hfails
    obtain ⟨u, result, t⟩ := ending
    dsimp only at hfails
    subst hfails
    have hasked := h.traced t b'.host.trace
    dsimp only
    exact (hasked.tellFirst _ _ _).noteOwn mine

/-! ### Refresh -/

/-- A unit whose file both read the same is loaded again. -/
theorem reloadUnit (huv : u.Alike v) (same : b.host.files.read u.path = files.read u.path)
    (id : String) : (b.reloadUnit id u).1.Alike files own (b'.reloadUnit id v).1 ∧
      (b.reloadUnit id u).2.1.Alike (b'.reloadUnit id v).2.1 ∧
      (b'.reloadUnit id v).2.2 = (b.reloadUnit id u).2.2 := by
  have hloaded : PluginUnit.SameEnd (u.reload b.host.env b.host.trace)
      (v.reload { b.host.env with files } b'.host.trace) := by
    apply PluginUnit.reload_alike
    · exact h.host.steady
    · exact huv
    · exact same
  unfold Batch.reloadUnit
  rw [h.host.env]
  generalize u.reload b.host.env b.host.trace = end₁ at hloaded
  generalize v.reload { b.host.env with files } b'.host.trace = end₂ at hloaded
  obtain ⟨w, result, t⟩ := end₁
  obtain ⟨w', result', t'⟩ := end₂
  obtain ⟨hw, hresult⟩ := hloaded
  dsimp only at hw hresult
  subst hresult
  have hupdated := (h.traced t t').withTable (h.host.table.update hw id)
  cases result with
  | error cause => exact ⟨hupdated, hw, rfl⟩
  | ok _ =>
      dsimp only
      rw [← hw.id, ← hw.path, ← (h.host.table.update hw id).pathOf?]
      split
      · exact ⟨hupdated, hw, rfl⟩
      · split
        · exact ⟨hupdated, hw, rfl⟩
        · exact ⟨hupdated.withTable ((h.host.table.update hw id).rename id w.id), hw, rfl⟩

theorem refreshOne {id : String} (same : ∀ u, b.host.table.unit? id = some u →
    b.host.files.read u.path = files.read u.path) :
    (b.refreshOne id).Alike files own (b'.refreshOne id) := by
  unfold Batch.refreshOne
  rw [h.fresh]
  split
  · exact h
  · rcases h.host.table.unit? id with ⟨hu, hv⟩ | ⟨u, v, hu, hv, huv⟩
    · rw [hu, hv]
      exact h
    · have hreloadable : reloadable v = reloadable u := (huv.keep reloadable fun _ => rfl).symm
      rw [hu, hv]
      dsimp only
      rw [hreloadable]
      split
      · exact h
      · obtain ⟨hreloaded, hw, hresult⟩ := h.reloadUnit huv (same u hu) id
        generalize b.reloadUnit id u = again at hreloaded hw hresult
        generalize b'.reloadUnit id v = again' at hreloaded hw hresult
        obtain ⟨after, w, result⟩ := again
        obtain ⟨after', w', result'⟩ := again'
        dsimp only at hreloaded hw hresult
        subst hresult
        cases result' with
        | ok newId =>
            dsimp only
            rw [← hw.target]
            exact ((hreloaded.tell _ _ _ _ _ _).noteReload w.target true).noteFresh newId
        | error cause =>
            dsimp only
            rw [← hw.target]
            exact (((hreloaded.tell _ _ _ _ _ _).noteReload w.target false).depart id).1

end Alike

/-- A batch all units of which have files that read the same in another file system. -/
def Readable (files : FileSystem) (b : Batch) : Prop :=
  ∀ i w, b.host.table.unit? i = some w → b.host.files.read w.path = files.read w.path

theorem Readable.refreshOne (h : b.Readable files) (hconsistent : b.host.table.Consistent)
    (id : String) : (b.refreshOne id).Readable files := by
  have hfiles : (b.refreshOne id).host.files = b.host.files :=
    congrArg UnitEnv.files (b.refreshOne_transitions id).env
  intro i w tracked
  rw [hfiles]
  exact path_refreshOne (P := fun p => b.host.files.read p = files.read p) hconsistent h tracked

theorem Alike.foldl_refreshOne (h : b.Alike files own b') (hread : b.Readable files)
    (hconsistent : b.host.table.Consistent) (ids : List String) :
    (ids.foldl Batch.refreshOne b).Alike files own (ids.foldl Batch.refreshOne b') := by
  induction ids generalizing b b' with
  | nil => exact h
  | cons id rest ih =>
      apply ih
      · exact h.refreshOne fun u hu => hread id u hu
      · exact hread.refreshOne hconsistent id
      · exact (b.refreshOne_transitions id).consistent hconsistent

theorem Alike.refresh (h : b.Alike files own b') (hread : b.Readable files)
    (hconsistent : b.host.table.Consistent) {condition condition' : PluginUnit → Bool}
    (same : ∀ e ∈ b.host.table.byId, condition e.2 = condition' e.2)
    (blind : ∀ u : PluginUnit, condition' u.unnumbered = condition' u) :
    (refresh condition b).Alike files own (refresh condition' b') := by
  have hselected : b.host.select (fun u => reloadable u && condition u) =
      b'.host.select fun u => reloadable u && condition' u := by
    apply h.host.select
    · intro e he
      rw [same e he]
    · intro u
      rw [blind]
      rfl
  have hgathered : gathered condition' b' = gathered condition b := by
    rw [gathered, gathered, ← hselected, h.fresh]
    exact (h.associated _ "reload").2
  obtain ⟨log, hfirst⟩ := refresh_eq condition b
  obtain ⟨log', hsecond⟩ := refresh_eq condition' b'
  have hstart := h.traced { b.host.trace with log } { b'.host.trace with log := log' }
  rw [hfirst, hsecond, hgathered]
  exact hstart.foldl_refreshOne hread hconsistent _

theorem Readable.discoverOne (h : b.Readable files)
    (hpath : b.host.files.read path = files.read path ∨
      ∀ t, ∃ cause, ((PluginUnit.ofPath path).load b.host.env t).2.1 = .error cause) :
    (b.discoverOne path).Readable files := by
  have hfiles : (b.discoverOne path).host.files = b.host.files :=
    congrArg UnitEnv.files (b.discoverOne_transitions path).env
  intro i w tracked
  rw [hfiles]
  rcases discoverOne_origin tracked with ⟨hold, _⟩ | ⟨t, hran⟩
  · exact h i w hold
  · rcases hpath with hsame | hfails
    · rw [(PluginUnit.load_latest hran).1]
      exact hsame
    · obtain ⟨cause, hcause⟩ := hfails b.host.trace
      rw [hran] at hcause
      cases hcause

/-- A file is looked at by both, who read the same, or it does not load and only the first one sees
it. -/
def Shared (env : UnitEnv) (files : FileSystem) (own : Path → Bool) (path : Path) : Prop :=
  if own path then ∀ t, ∃ cause, ((PluginUnit.ofPath path).load env t).2.1 = .error cause
  else env.files.read path = files.read path

theorem Alike.discover (h : b.Alike files own b') (hread : b.Readable files) {found : List Path}
    (shared : ∀ path ∈ found, Shared b.host.env files own path) :
    (discover found b).Alike files own (discover (found.filter fun path => !own path) b') ∧
      (discover found b).Readable files := by
  -- The first batch may go a step alone; what both read the same stays so either way.
  induction found generalizing b b' with
  | nil => exact ⟨h, hread⟩
  | cons path rest ih =>
      have henv : (b.discoverOne path).host.env = b.host.env := (b.discoverOne_transitions path).env
      have hfirst := shared path List.mem_cons_self
      have hrest : ∀ p ∈ rest, Shared (b.discoverOne path).host.env files own p := by
        intro p hp
        rw [henv]
        exact shared p (List.mem_cons_of_mem path hp)
      unfold Shared at hfirst
      cases mine : own path with
      | true =>
          rw [if_pos mine] at hfirst
          rw [List.filter_cons_of_neg (by simp [mine])]
          exact ih (h.discoverOne_own mine hfirst) (hread.discoverOne (.inr hfirst)) hrest
      | false =>
          rw [if_neg (by simp [mine])] at hfirst
          rw [List.filter_cons_of_pos (by simp [mine])]
          exact ih (h.discoverOne mine hfirst) (hread.discoverOne (.inl hfirst)) hrest

/-! ### Validate -/

theorem Alike.validateOne (h : b.Alike files own b')
    (checked : String × Except Dependency.Failure Unit) :
    (b.validateOne checked).Alike files own (b'.validateOne checked) := by
  unfold Batch.validateOne
  rcases h.host.table.unit? checked.1 with ⟨hu, hv⟩ | ⟨u, v, hu, hv, huv⟩
  · rw [hu, hv]
    exact h
  · rw [hu, hv]
    dsimp only
    rw [← huv.target]
    split
    · have hnoted := h.noteCheck u.target true
      refine ⟨hnoted.host, hnoted.departed, hnoted.fresh, ?_, hnoted.result⟩
      exact congrArg (· ++ [checked.1]) h.order
    · exact (((h.tell _ _ _ _ _ _).noteCheck u.target false).depart checked.1).1

theorem Alike.validate (h : b.Alike files own b') :
    (Batch.validate b).Alike files own (Batch.validate b') := by
  have hvalidate : ∀ b : Batch, ∃ t t', Batch.validate b =
      let checked := b.host.graph.walk.results.foldl Batch.validateOne
        { b with host := { b.host with trace := t } }
      { checked with host := { checked.host with trace := t' } } := by
    intro b
    unfold Batch.validate
    dsimp only
    split <;> exact ⟨_, _, rfl⟩
  obtain ⟨t₁, t₂, hfirst⟩ := hvalidate b
  obtain ⟨t₁', t₂', hsecond⟩ := hvalidate b'
  rw [hfirst, hsecond, h.host.graph]
  exact ((h.traced t₁ t₁').foldl (fun hb checked => hb.validateOne checked) _).traced t₂ t₂'

/-! ### Notify -/

end Batch

namespace Host.Alike

open Batch

variable {files : FileSystem} {h h' : Host} {u v : PluginUnit} (alike : h.Alike files h')
include alike

theorem announce (huv : u.Alike v) (event : Event) :
    (announce h u event).Alike files (announce h' v event) := by
  unfold Batch.announce
  rw [alike.pool, ← huv.receive]
  have hsubmitted : ∀ pool t t',
      Alike files { h with pool, trace := t } { h' with pool, trace := t' } :=
    fun pool t t' => ⟨alike.steady, alike.settings, alike.env, alike.table, rfl, alike.exported⟩
  dsimp only
  split
  · exact hsubmitted _ _ _
  · exact hsubmitted _ _ _

theorem welcome (fresh : List String) (id : String) :
    (welcome fresh h id).Alike files (welcome fresh h' id) := by
  unfold Batch.welcome
  split
  · exact alike
  · rcases alike.table.unit? id with ⟨hu, hv⟩ | ⟨u, v, hu, hv, huv⟩
    · rw [hu, hv]
      exact alike
    · obtain ⟨hready, hresult⟩ := huv.ready
      rw [hu, hv]
      dsimp only
      rw [← huv.state]
      split
      · generalize u.ready = woken at hready hresult
        generalize v.ready = woken' at hready hresult
        obtain ⟨w, result⟩ := woken
        obtain ⟨w', result'⟩ := woken'
        dsimp only at hready hresult
        subst hresult
        cases result with
        | error cause => exact alike.traced _ _
        | ok _ =>
            have hwoken : Alike files { h with table := h.table.update id w }
                { h' with table := h'.table.update id w' } :=
              ⟨alike.steady, alike.settings, alike.env, alike.table.update hready id, alike.pool,
                alike.exported⟩
            exact hwoken.announce hready .pluginLoad
      · exact alike.announce huv .pluginLoad

theorem foldl_welcome (fresh order : List String) :
    (order.foldl (Batch.welcome fresh) h).Alike files (order.foldl (Batch.welcome fresh) h') := by
  induction order generalizing h h' with
  | nil => exact alike
  | cons id rest ih => exact ih (alike.welcome fresh id)

theorem farewell {gone gone' : List PluginUnit} (departed : List.Forall₂ PluginUnit.Alike gone gone')
    (huv : u.Alike v) : (farewell (h, gone) u).1.Alike files (farewell (h', gone') v).1 ∧
      List.Forall₂ PluginUnit.Alike (farewell (h, gone) u).2 (farewell (h', gone') v).2 := by
  have htold := alike.announce huv .pluginUnload
  obtain ⟨hremoved, hresult⟩ := huv.remove
  unfold Batch.farewell
  dsimp only
  generalize u.remove = ended at hremoved hresult
  generalize v.remove = ended' at hremoved hresult
  obtain ⟨w, result⟩ := ended
  obtain ⟨w', result'⟩ := ended'
  dsimp only at hremoved hresult
  subst hresult
  have hgone := List.rel_append departed (.cons hremoved .nil)
  cases result with
  | ok _ => exact ⟨htold, hgone⟩
  | error cause => exact ⟨htold.traced _ _, hgone⟩

theorem foldl_farewell {leaving leaving' gone gone' : List PluginUnit}
    (leave : List.Forall₂ PluginUnit.Alike leaving leaving')
    (departed : List.Forall₂ PluginUnit.Alike gone gone') :
    (leaving.foldl Batch.farewell (h, gone)).1.Alike files
        (leaving'.foldl Batch.farewell (h', gone')).1 ∧
      List.Forall₂ PluginUnit.Alike (leaving.foldl Batch.farewell (h, gone)).2
        (leaving'.foldl Batch.farewell (h', gone')).2 := by
  induction leave generalizing h h' gone gone' with
  | nil => exact ⟨alike, departed⟩
  | cons huv _ ih =>
      obtain ⟨htold, hgone⟩ := alike.farewell departed huv
      exact ih htold hgone

theorem exportRegistry :
    (Batch.exportRegistry h).Alike files (Batch.exportRegistry h') := by
  have hexported : ∀ h : Host, (Batch.exportRegistry h).exported =
      ((((h.table.byId.map fun e => (e.1, e.2.unnumbered)).filter fun e => e.2.state = .ready).foldl
        (fun m e => m.collect e.2.registry) MergedRegistry.empty).arrange h.language) := by
    intro h
    rw [Batch.exportRegistry, UnitTable.units, List.filter_map, List.filter_map, List.foldl_map,
      List.foldl_map]
    rfl
  refine ⟨alike.steady, alike.settings, alike.env, alike.table, alike.pool, ?_⟩
  rw [hexported, hexported, alike.table.byId, alike.language]

end Host.Alike

namespace Batch

variable {files : FileSystem} {own : Path → Bool} {b b' : Batch}

theorem Alike.notify (h : b.Alike files own b') : b.notify.Alike files own b'.notify := by
  have hwelcomed := h.host.foldl_welcome b.fresh b.order
  obtain ⟨htold, hgone⟩ := hwelcomed.foldl_farewell h.departed .nil
  have hnotify : ∀ b : Batch, (b.notify.host, b.notify.departed) =
      b.departed.foldl Batch.farewell (b.order.foldl (Batch.welcome b.fresh) b.host, []) :=
    fun _ => rfl
  rw [← hnotify b] at htold hgone
  rw [← h.order, ← h.fresh, ← hnotify b'] at htold hgone
  exact ⟨htold, hgone, h.fresh, h.order, h.result⟩

theorem Alike.conclude (h : b.Alike files own b') :
    (Batch.conclude b).Alike files own (Batch.conclude b') := by
  obtain ⟨log, hfirst⟩ := conclude_eq b
  obtain ⟨log', hsecond⟩ := conclude_eq b'
  rw [hfirst, hsecond]
  exact ⟨⟨h.host.steady, h.host.settings, h.host.env, h.host.table, h.host.pool, h.host.exported⟩,
    h.departed, h.fresh, h.order, h.result⟩

theorem Alike.exported (h : b.Alike files own b') :
    Alike files own { b with host := Batch.exportRegistry b.host }
      { b' with host := Batch.exportRegistry b'.host } :=
  ⟨h.host.exportRegistry, h.departed, h.fresh, h.order, h.result⟩

/-- What follows on the phases that load keeps batches alike. -/
theorem Alike.finish (h : b.Alike files own b') :
    (Batch.conclude { (Batch.validate b).notify with
        host := Batch.exportRegistry (Batch.validate b).notify.host }).Alike files own
      (Batch.conclude { (Batch.validate b').notify with
        host := Batch.exportRegistry (Batch.validate b').notify.host }) :=
  h.validate.notify.exported.conclude

end Batch

end PluginHost
