import PluginHost.Proofs.Host.Announcements

/-!
In which order plugins hear that they were loaded. A batch submits the tasks
of a plugin behind those of all it needs, and however the workers go on
meanwhile, a task is started behind all that were submitted before it, unless
it is given to a temporary worker because all others are busy.
-/
namespace PluginHost

open Dependency

namespace Batch

variable {plan : Plan} {h : Host} {id : String} {task : PoolTask Call}

/-! ### What a batch submits -/

theorem owner_of_loadNotices {t : UnitTable} {fresh : List String} (hconsistent : t.Consistent)
    (htask : task ∈ t.loadNotices fresh id) : task.owner = some id := by
  obtain ⟨_, u, hu, hmem⟩ := mem_loadNotices_iff.mp htask
  rw [(hconsistent.unit_live hu).welcomed.owner_eq hmem, u.id_welcomed, hconsistent.id_eq hu]

/-- If the second task tells a plugin that it was loaded, the first one is for none that needs that
plugin. -/
def NoDependentFirst (g : Graph) (first second : PoolTask Call) : Prop :=
  ∀ a b, first.owner = some a → second.owner = some b →
    second.name = Event.pluginLoad.listenerName → ¬ g.Needs a b

/-- Plugins hear of their loading behind all they need. -/
theorem pairwise_notices (plan : Plan) (hconsistent : h.table.Consistent) :
    (validate (prepared plan h)).notices.Pairwise
      (NoDependentFirst (prepared plan h).host.graph) := by
  have hdistinct : (prepared plan h).host.graph.ids.Nodup := distinct_prepared hconsistent
  have hwalk := Walk.walk_sound hdistinct
  have hafter := (validate_validated (prepared plan h)).consistent (consistent_prepared hconsistent)
  have hleft : ∀ first, ∀ task ∈ (validate (prepared plan h)).departed.flatMap (·.tasks .pluginUnload),
      NoDependentFirst (prepared plan h).host.graph first task := by
    intro first task htask a b _ _ hname
    obtain ⟨u, _, hmem⟩ := List.mem_flatMap.mp htask
    rw [(name_of_tasks hmem).1] at hname
    exact absurd hname (by decide)
  have horder := hwalk.memo.ordered.pairwise hdistinct hwalk.memo.nodup
  rw [notices, order_validate hconsistent]
  refine List.pairwise_append.mpr ⟨?_, ?_, fun first _ task htask => hleft first task htask⟩
  · refine List.pairwise_flatMap.mpr ⟨?_, ?_⟩
    · -- Tasks of one plugin: it does not need itself.
      intro id hid
      apply List.pairwise_of_forall_mem_list
      intro first hfirst second hsecond a b ha hb _ hneeds
      rw [owner_of_loadNotices hafter hfirst, Option.some.injEq] at ha
      rw [owner_of_loadNotices hafter hsecond, Option.some.injEq] at hb
      subst ha hb
      exact not_runs_of_needs_self hdistinct (.single hneeds) (hwalk.mem_order_iff.mp hid).2
    · refine horder.imp ?_
      intro i j hbefore first hfirst second hsecond a b ha hb _ hneeds
      rw [owner_of_loadNotices hafter hfirst, Option.some.injEq] at ha
      rw [owner_of_loadNotices hafter hsecond, Option.some.injEq] at hb
      subst ha hb
      exact hbefore (.single hneeds)
  · exact List.pairwise_of_forall_mem_list fun first _ task htask => hleft first task htask

/-- A task, with its number, that tells the unit under an id that it was loaded. -/
structure TellsOfLoading (plan : Plan) (h : Host) (id : String) (task : PoolTask Call) : Prop where
  submitted : task ∈ Pool.numbered h.pool.nextSequence (validate (prepared plan h)).notices
  owner : task.owner = some id
  name : task.name = Event.pluginLoad.listenerName

/-- Only what passed the check hears of its loading. -/
theorem TellsOfLoading.passed (htells : TellsOfLoading plan h id task)
    (hconsistent : h.table.Consistent) :
    id ∈ (prepared plan h).host.graph.walk.order := by
  obtain ⟨t, ht, heq⟩ := Pool.exists_of_numbered htells.submitted
  have howner : t.owner = some id := by rw [← htells.owner, heq]
  have hname : t.name = Event.pluginLoad.listenerName := by rw [← htells.name, heq]
  have hafter := (validate_validated (prepared plan h)).consistent (consistent_prepared hconsistent)
  rcases List.mem_append.mp ht with hgreeted | hfarewell
  · obtain ⟨i, hi, hmem⟩ := List.mem_flatMap.mp hgreeted
    rw [owner_of_loadNotices hafter hmem, Option.some.injEq] at howner
    rwa [order_validate hconsistent, howner] at hi
  · obtain ⟨u, _, hmem⟩ := List.mem_flatMap.mp hfarewell
    rw [(name_of_tasks hmem).1] at hname
    exact absurd hname (by decide)

theorem TellsOfLoading.guest (htells : TellsOfLoading plan h id task)
    (hconsistent : h.table.Consistent) :
    id ≠ h.settings.identity.id := by
  have hpassed := (Walk.walk_sound (distinct_prepared hconsistent)).mem_order_iff.mp
    (htells.passed hconsistent)
  rw [host_prepared plan h] at hpassed
  exact hpassed.1

theorem TellsOfLoading.regular (htells : TellsOfLoading plan h id task) :
    task.priority = .regular := by
  obtain ⟨t, ht, heq⟩ := Pool.exists_of_numbered htells.submitted
  rw [heq, ← priority_of_notices ht]

/-- What is needed hears of its loading before what needs it. -/
theorem TellsOfLoading.before {u d : String} {first second : PoolTask Call}
    (hfirst : TellsOfLoading plan h d first) (hsecond : TellsOfLoading plan h u second)
    (hconsistent : h.table.Consistent) (needs : (prepared plan h).host.graph.Needs u d) :
    first.sequence < second.sequence := by
  have hdistinct : (prepared plan h).host.graph.ids.Nodup := distinct_prepared hconsistent
  have hpairs := Pool.pairwise_numbered h.pool.nextSequence
    (fun _ _ _ _ hnoDependent => hnoDependent)
    (pairwise_notices plan hconsistent)
  obtain ⟨i, hi, rfl⟩ := List.getElem_of_mem hfirst.submitted
  obtain ⟨j, hj, rfl⟩ := List.getElem_of_mem hsecond.submitted
  rcases Nat.lt_trichotomy i j with hlt | rfl | hgt
  · exact (List.pairwise_iff_getElem.mp hpairs i j hi hj hlt).1
  · -- One task for both would be for a plugin that needs itself.
    have hsame : d = u := Option.some.inj (hfirst.owner.symm.trans hsecond.owner)
    have hruns := ((Walk.walk_sound hdistinct).mem_order_iff.mp (hsecond.passed hconsistent)).2
    exact absurd hruns (not_runs_of_needs_self hdistinct (.single (hsame ▸ needs)))
  · have hnoDependent := (List.pairwise_iff_getElem.mp hpairs j i hj hi hgt).2
    exact absurd needs (hnoDependent u d hsecond.owner hfirst.owner hfirst.name)

/-- A unit that came hears of it through all its listeners. -/
theorem exists_tellsOfLoading (hconsistent : h.table.Consistent) {u : PluginUnit}
    (tracked : (run plan h).host.table.unit? u.id = some u)
    (guest : u.id ≠ h.settings.identity.id) (came : u.target ∈ (run plan h).result.arrived)
    (htask : task ∈ u.tasks .pluginLoad) :
    ∃ a, TellsOfLoading plan h u.id a ∧ a = { task with sequence := a.sequence } := by
  have hafter := consistent_run plan hconsistent
  have hcame : u ∈ plan.came h := (mem_came_iff_arrived hconsistent tracked guest).mpr came
  have hnotice : task ∈ (validate (prepared plan h)).notices := by
    rw [notices, loadNotices_validate hconsistent]
    exact List.mem_append_left _ (List.mem_flatMap.mpr ⟨u, hcame, htask⟩)
  obtain ⟨a, ha, heq⟩ := Pool.exists_numbered h.pool.nextSequence hnotice
  refine ⟨a, ⟨ha, ?_, ?_⟩, heq⟩
  · rw [heq, ← (hafter.unit_live tracked).owner_eq htask]
  · rw [heq, ← (name_of_tasks htask).1]

end Batch

/-- In every run, while a batch submits its tasks and the workers of a pool of any size go on, a
plugin that needs another one hears of its loading behind it: each of its tasks is started after all
those of the other one, unless the pool makes temporary workers and it was given one. -/
theorem Host.Reachable.heard_in_order {h : Host} (hreach : h.Reachable) (hpool : h.pool.Reachable)
    (plan : Batch.Plan) :
    h.pool.Offered (Batch.validate (Batch.prepared plan h)).notices (Batch.run plan h).host.pool ∧
      (∀ u, (Batch.run plan h).host.table.unit? u.id = some u → u.id ≠ h.settings.identity.id →
        u.target ∈ (Batch.run plan h).result.arrived → ∀ task ∈ u.tasks .pluginLoad,
          ∃ a, Batch.TellsOfLoading plan h u.id a ∧ a = { task with sequence := a.sequence }) ∧
      ∀ u d m r, (Batch.run plan h).host.table.metadata? u = some m → (d, r) ∈ m.dependencies →
        d ≠ h.settings.identity.id →
        ∀ first second, Batch.TellsOfLoading plan h d first → Batch.TellsOfLoading plan h u second →
          first.sequence < second.sequence ∧
          ∀ told later q, told <+: (Batch.validate (Batch.prepared plan h)).notices ++ later →
            h.pool.Serves told q →
              ∀ front back w, q.journal = front ++ .started w second :: back →
                (∃ v, .started v first ∈ front) ∨ w.temporary = true ∧ h.pool.overflow = .spawn := by
  have hconsistent := hreach.consistent
  refine ⟨Batch.run_offered plan hconsistent, fun u tracked guest came task htask =>
    Batch.exists_tellsOfLoading hconsistent tracked guest came htask, ?_⟩
  intro u d m r hm declared needed first second hfirst hsecond
  have hearlier := hfirst.before hsecond hconsistent
    (Batch.needs_of_declared hconsistent hm declared (hsecond.guest hconsistent) needed)
  refine ⟨hearlier, fun told later q hprefix hserves front back w started => ?_⟩
  -- What was started was submitted, and so was all that stands before it.
  have hlate : second.sequence < h.pool.nextSequence + told.length := by
    have hstarted : .started w second ∈ q.journal :=
      started ▸ List.mem_append_right _ List.mem_cons_self
    rw [← (hserves.same hpool.sound).nextSequence]
    exact (hserves.sound hpool.sound).sequence_lt_of_starts (Pool.mem_starts_of_started hstarted)
  have htold : ∀ id task, Batch.TellsOfLoading plan h id task →
      task.sequence < h.pool.nextSequence + told.length →
        task ∈ Pool.numbered h.pool.nextSequence told := by
    intro id task htells early
    refine Pool.mem_numbered_of_prefix hprefix ?_ early
    rw [Pool.numbered_append]
    exact List.mem_append_left _ htells.submitted
  have hclass : first.priority = second.priority := hfirst.regular.trans hsecond.regular.symm
  have hurgent : first.priority.rank ≤ second.priority.rank :=
    Nat.le_of_eq (congrArg Priority.rank hclass)
  exact hserves.started_before hpool.sound (htold d first hfirst (Nat.lt_trans hearlier hlate))
    (htold u second hsecond hlate) hurgent hearlier front back w started

namespace HostWitness

/-- A plugin that hears through some listeners that it was loaded. -/
def listening (id : String) (names : List String) (needs : List (String × Json)) : LoadedCode :=
  { code := { code id "1.0.0" needs with
      registrations := .ok (names.map fun name =>
        .listener .pluginLoad 0 ⟨id, name, fun _ => ⟨[], .ok ()⟩⟩) }
    subUnits := [⟨id, 0, none⟩] }

/-- A plugin with two listeners, and one that needs it. -/
def pair : Loader where
  load _ _ path :=
    match path.text with
    | "core.mcdr" => .ok (listening "core" ["first", "second"] [])
    | "chat.mcdr" => .ok (listening "chat" ["came"] [("core", .text "*")])
    | other => .error (.load ⟨other⟩ "there is nothing")
  unload _ _ := .ok ()
  unloadLog _ := []

/-- A host with one worker that makes temporary ones. -/
def rushing : Host :=
  .create settings ⟨"en", []⟩ pair .empty (.create 1 .spawn .none)

/-- A batch that loads both. -/
def loading : Batch.Plan where
  prune := none
  discover := some [⟨"core.mcdr"⟩, ⟨"chat.mcdr"⟩]
  refresh := none

/-- The tasks of the batch are for both listeners of the plugin that is needed, and for the one of
the other one. -/
theorem rushing_notices : ∃ a b c : PoolTask Call,
    (Batch.validate (Batch.prepared loading rushing)).notices = [a, b, c] ∧
    Batch.TellsOfLoading loading rushing "core" { b with sequence := 1 } ∧
    Batch.TellsOfLoading loading rushing "chat" { c with sequence := 2 } := by
  have hlength : (Batch.validate (Batch.prepared loading rushing)).notices.length = 3 := by
    decide +kernel
  obtain ⟨a, b, c, habc⟩ := List.length_eq_three.mp hlength
  have howners : ((Batch.validate (Batch.prepared loading rushing)).notices.map fun task =>
      (task.owner, task.name)) = [(some "core", Event.pluginLoad.listenerName),
        (some "core", Event.pluginLoad.listenerName), (some "chat", Event.pluginLoad.listenerName)] := by
    decide +kernel
  have hnumbered : Pool.numbered rushing.pool.nextSequence
      (Batch.validate (Batch.prepared loading rushing)).notices =
        [{ a with sequence := 0 }, { b with sequence := 1 }, { c with sequence := 2 }] := by
    rw [habc]
    rfl
  rw [habc] at howners
  simp only [List.map_cons, List.map_nil, List.cons.injEq, Prod.mk.injEq] at howners
  obtain ⟨_, ⟨hb, hbname⟩, ⟨hc, hcname⟩, _⟩ := howners
  refine ⟨a, b, c, habc, ⟨?_, hb, hbname⟩, ⟨?_, hc, hcname⟩⟩
  · rw [hnumbered]
    simp
  · rw [hnumbered]
    simp

theorem rushing_reachable : rushing.Reachable :=
  .create _ _ _ _ _

theorem rushing_pool_reachable : rushing.pool.Reachable :=
  .create 1 .spawn .none

theorem chat_declares_core : ∃ m r, (Batch.run loading rushing).host.table.metadata? "chat" = some m ∧
    ("core", r) ∈ m.dependencies := by
  obtain ⟨m, hm⟩ : ∃ m, (Batch.run loading rushing).host.table.metadata? "chat" = some m :=
    Option.isSome_iff_exists.mp (by decide +kernel)
  have hneeds : (((Batch.run loading rushing).host.table.metadata? "chat").map fun m =>
      m.dependencies.map Prod.fst) = some ["core"] := by decide +kernel
  rw [hm, Option.map_some, Option.some.injEq] at hneeds
  obtain ⟨⟨id, r⟩, hr, rfl⟩ := List.mem_map.mp (hneeds ▸ List.mem_singleton_self "core")
  exact ⟨m, r, hm, hr⟩

theorem rushing_heard_in_order : rushing.Reachable ∧ rushing.pool.Reachable ∧
    ∃ first second, Batch.TellsOfLoading loading rushing "core" first ∧
      Batch.TellsOfLoading loading rushing "chat" second ∧ first.sequence < second.sequence ∧
      ∀ q, rushing.pool.Serves (Batch.validate (Batch.prepared loading rushing)).notices q →
        ∀ front back w, q.journal = front ++ .started w second :: back →
          (∃ v, .started v first ∈ front) ∨ w.temporary = true ∧ rushing.pool.overflow = .spawn := by
  obtain ⟨a, b, c, _, hfirst, hsecond⟩ := rushing_notices
  obtain ⟨m, r, hm, hr⟩ := chat_declares_core
  have hguest : "core" ≠ rushing.settings.identity.id := by decide
  have hheard := (rushing_reachable.heard_in_order rushing_pool_reachable loading).2.2 "chat" "core"
    m r hm hr hguest _ _ hfirst hsecond
  exact ⟨rushing_reachable, rushing_pool_reachable, _, _, hfirst, hsecond, hheard.1, fun q hserves =>
    hheard.2 _ [] q (List.prefix_append _ _) hserves⟩

/-- A plugin that was loaded with the one it needs may hear of it while a listener of the needed one
still waits: its task got a temporary worker. -/
theorem rushing_overtaken : rushing.Reachable ∧ rushing.pool.Reachable ∧ rushing.pool.size = 1 ∧
    (Batch.run loading rushing).host.table.ids = ["chat", "core"] ∧
    ((Batch.run loading rushing).result.load.succeeded.map Target.path) =
      [⟨"core.mcdr"⟩, ⟨"chat.mcdr"⟩] ∧
    (∃ m r, (Batch.run loading rushing).host.table.metadata? "chat" = some m ∧
      ("core", r) ∈ m.dependencies) ∧
    ∃ first second q front w, Batch.TellsOfLoading loading rushing "core" first ∧
      Batch.TellsOfLoading loading rushing "chat" second ∧
      rushing.pool.Serves (Batch.validate (Batch.prepared loading rushing)).notices q ∧
      q.journal = front ++ [.started w second] ∧ first ∈ q.queue ∧
      ∀ v, .started v first ∉ q.journal := by
  obtain ⟨a, b, c, habc, hfirst, hsecond⟩ := rushing_notices
  have hregular : ∀ task ∈ [a, b, c], task.priority = .regular :=
    fun task htask => Batch.priority_of_notices (habc ▸ htask)
  have hclass : a.priority = b.priority :=
    (hregular a (by simp)).trans (hregular b (by simp)).symm
  obtain ⟨q, v, w, hserves, hqueue, hjournal⟩ := Pool.Serves.exists_overtaken .none a b c hclass
  refine ⟨rushing_reachable, rushing_pool_reachable, rfl, by decide +kernel, by decide +kernel,
    chat_declares_core, _, _, q, [.started v { a with sequence := 0 }], w, hfirst, hsecond, ?_, hjournal,
    ?_, ?_⟩
  · rw [habc]
    exact hserves
  · rw [hqueue]
    exact List.mem_singleton_self _
  · intro u hstarted
    rw [hjournal] at hstarted
    simp at hstarted

end HostWitness

end PluginHost
