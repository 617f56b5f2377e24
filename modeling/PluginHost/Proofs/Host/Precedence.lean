import PluginHost.Proofs.FileSystem.Paths
import PluginHost.Proofs.Host.History
import PluginHost.Proofs.Host.Notices
import PluginHost.Proofs.Host.Settling

/-!
In which order listeners are called and help entries are shown. What is
exported at the end of a batch is sorted once; an event is dispatched to
listeners that are collected and sorted each time. Both come to the same,
batch after batch. What a single unit is told is not sorted at all: it hears
of its own loading and unloading in the order its listeners were registered.
-/
namespace PluginHost

/-! ### Sorted by a key -/

/-- A list brought into the order of a key, where those of one key stand as they stood before. -/
structure Stably {α κ : Type} [LE κ] [DecidableEq κ] (key : α → κ) (before after : List α) :
    Prop where
  perm : after.Perm before
  ascending : after.Pairwise fun a b => key a ≤ key b
  stable : ∀ k, after.filter (fun a => key a = k) = before.filter fun a => key a = k

section

variable {α κ : Type} [LE κ] [DecidableLE κ] [Std.IsLinearOrder κ] {key : α → κ}
  {le : α → α → Bool} (byKey : ∀ a b, le a b = decide (key a ≤ key b))
include byKey

theorem trans_of_key (a b c : α) (hab : le a b = true) (hbc : le b c = true) : le a c = true := by
  rw [byKey, decide_eq_true_eq] at hab hbc ⊢
  exact Std.le_trans hab hbc

theorem total_of_key (a b : α) : (le a b || le b a) = true := by
  rw [byKey, byKey, Bool.or_eq_true, decide_eq_true_eq, decide_eq_true_eq]
  exact Std.le_total

theorem filter_mergeSort_of_key (p : α → Bool) (l : List α) :
    (l.mergeSort le).filter p = (l.filter p).mergeSort le :=
  filter_mergeSort (trans_of_key byKey) (total_of_key byKey) p l

variable [DecidableEq κ]

theorem stably_mergeSort (l : List α) : Stably key l (l.mergeSort le) := by
  refine ⟨List.mergeSort_perm l le, ?_, ?_⟩
  · refine (List.pairwise_mergeSort (trans_of_key byKey) (total_of_key byKey) l).imp ?_
    intro a b hle
    rwa [byKey, decide_eq_true_eq] at hle
  · intro k
    rw [filter_mergeSort_of_key byKey]
    -- Those of one key are in order already.
    apply List.mergeSort_of_pairwise
    apply List.pairwise_of_forall_mem_list
    intro a ha b hb
    have hsame : key a = key b :=
      (of_decide_eq_true (List.mem_filter.mp ha).2).trans
        (of_decide_eq_true (List.mem_filter.mp hb).2).symm
    rw [byKey, decide_eq_true_eq, hsame]
    exact Std.le_refl _

omit [DecidableLE κ] byKey in
/-- The keys come into the one order in which they ascend. -/
theorem Stably.map_eq {before after : List α} (h : Stably key before after) (keys : List κ)
    (same : (before.map key).Perm keys) (ascending : keys.Pairwise (· ≤ ·)) :
    after.map key = keys := by
  have hascending : (after.map key).Pairwise (· ≤ ·) := List.pairwise_map.mpr h.ascending
  exact ((h.perm.map key).trans same).eq_of_pairwise (fun _ _ _ _ => Std.le_antisymm) hascending
    ascending

theorem mergeSort_eq_self_iff (l : List α) :
    l.mergeSort le = l ↔ l.Pairwise fun a b => key a ≤ key b := by
  constructor
  · intro hsame
    have hsorted := (stably_mergeSort byKey l).ascending
    rwa [hsame] at hsorted
  · intro hsorted
    apply List.mergeSort_of_pairwise
    refine hsorted.imp ?_
    intro a b hle
    rwa [byKey, decide_eq_true_eq]

end

namespace MergedRegistry

theorem listenerLe_eq (a b : ListenerEntry) : listenerLe a b = decide (a.priority ≤ b.priority) :=
  rfl

theorem helpLe_eq (a b : HelpEntry) : helpLe a b = decide (helpKey a ≤ helpKey b) := by
  rw [helpLe, ← decide_not, decide_eq_decide]
  exact String.not_lt

theorem foldl_collect (units : List PluginUnit) (m : MergedRegistry) :
    units.foldl (fun m u => m.collect u.registry) m =
      ⟨m.listeners ++ units.flatMap (·.registry.listeners),
        m.help ++ units.flatMap (·.registry.help)⟩ := by
  induction units generalizing m with
  | nil => simp
  | cons u rest ih =>
      rw [List.foldl_cons, ih]
      simp [collect]

end MergedRegistry

/-! ### What is shown -/

namespace UnitTable

/-- The units whose listeners hear of events, in the order of their ids. -/
def running (t : UnitTable) : List PluginUnit := t.units.filter (·.state = .ready)

theorem shown_eq (t : UnitTable) (language : Language) : t.shown language =
    MergedRegistry.arrange ⟨t.running.flatMap (·.registry.listeners),
      t.running.flatMap (·.registry.help)⟩ language := by
  have hcollected := MergedRegistry.foldl_collect t.running .empty
  simp only [MergedRegistry.empty, List.nil_append] at hcollected
  rw [← hcollected]
  rfl

theorem stably_help_shown (t : UnitTable) (language : Language) :
    Stably MergedRegistry.helpKey
      (t.running.flatMap (·.registry.help) ++ [MergedRegistry.hostHelp language])
      (t.shown language).help := by
  rw [shown_eq]
  exact stably_mergeSort MergedRegistry.helpLe_eq _

/-- Only the entry of the host belongs to no plugin. -/
theorem host_help_shown {t : UnitTable} (hconsistent : t.Consistent) (language : Language) :
    (t.shown language).help.filter (·.pluginId = none) = [MergedRegistry.hostHelp language] := by
  have howned : (t.running.flatMap (·.registry.help)).filter (·.pluginId = none) = [] := by
    apply List.filter_eq_nil_iff.mpr
    intro e he
    obtain ⟨u, hu, hmem⟩ := List.mem_flatMap.mp he
    obtain ⟨⟨id, u⟩, hentry, rfl⟩ := List.mem_map.mp (List.mem_filter.mp hu).1
    simp [(hconsistent.live _ hentry).owned.help e hmem]
  have hperm := (t.stably_help_shown language).perm.filter (·.pluginId = none)
  rw [List.filter_append, howned] at hperm
  exact List.perm_singleton.mp hperm

end UnitTable

theorem submitAll_of_open {pool : Pool Call} (accepting : pool.shutDown = false)
    (tasks : List (PoolTask Call)) : pool.Took tasks (submitAll pool tasks).pool ∧
      (submitAll pool tasks).result = .ok tasks.length := by
  have htook := submitAll_offered pool tasks
  rw [Pool.Offered, accepting] at htook
  refine ⟨htook, ?_⟩
  have hcount : ∀ (s : Submitted) (count : Nat), s.pool.shutDown = false → s.result = .ok count →
      (tasks.foldl Submitted.next s).result = .ok (count + tasks.length) := by
    clear htook
    induction tasks with
    | nil => exact fun s count _ ok => ok
    | cons task rest ih =>
        intro s count hopen ok
        obtain ⟨q, worker, hsubmit⟩ := Pool.submit_of_open hopen task
        have hnext : s.next task = ⟨q, s.log ++ q.dispatchLog task worker, .ok (count + 1)⟩ := by
          simp only [Submitted.next, ok, hsubmit]
        have hrest := ih (s.next task) (count + 1) (hnext ▸ (Pool.shutDown_submit hsubmit).2)
          (congrArg Submitted.result hnext)
        rw [List.foldl_cons, hrest, List.length_cons, Nat.add_assoc, Nat.add_comm 1]
  have hall := hcount ⟨pool, [], .ok 0⟩ 0 accepting rfl
  rwa [Nat.zero_add] at hall

namespace Host

variable {h : Host} {past : List PastBatch}

theorem stably_listenersFor (h : Host) (event : Event) :
    Stably ListenerEntry.priority (h.table.running.flatMap fun u => u.registry.listenersOf event)
      (h.listenersFor event) :=
  stably_mergeSort MergedRegistry.listenerLe_eq _

/-- What is shown of a table has the listeners that an event would be dispatched to. -/
theorem listenersOf_shown (h : Host) (language : Language) (event : Event) :
    (h.table.shown language).listenersOf event = h.listenersFor event := by
  have hfiltered : (h.table.running.flatMap (·.registry.listeners)).filter (·.event = event) =
      h.table.running.flatMap fun u => u.registry.listenersOf event := by
    rw [List.filter_flatMap]
    rfl
  rw [UnitTable.shown_eq, listenersFor, ← UnitTable.running, ← hfiltered]
  exact filter_mergeSort_of_key MergedRegistry.listenerLe_eq _ _

/-- An event is dispatched to each listener once, in the order of the priorities. -/
theorem dispatch_of_open (accepting : h.pool.shutDown = false) (event : Event) (payload : Payload) :
    h.pool.Took ((h.listenersFor event).map (·.task payload)) (h.dispatch event payload).1.pool ∧
      (h.dispatch event payload).2 = .ok (h.listenersFor event).length := by
  have hsubmitted := submitAll_of_open accepting ((h.listenersFor event).map (·.task payload))
  rw [List.length_map] at hsubmitted
  exact hsubmitted

/-- What is exported after a batch is what its table shows; at first nothing is. -/
theorem HasHistory.shown (hhistory : h.HasHistory past) :
    h.last = none ∧ h.table = .empty ∧ h.exported = .empty ∨
      h.exported = h.table.shown h.language := by
  induction hhistory with
  | create _ _ _ _ _ => exact .inl ⟨rfl, rfl, rfl⟩
  | @batch _ h _ plan _ =>
      right
      rw [language_of_env (Batch.env_run plan h)]
      exact Batch.exported_run plan h
  | meanwhile _ _ _ _ ih => exact ih

theorem HasHistory.exported_agrees (hhistory : h.HasHistory past) (event : Event) :
    h.exported.listenersOf event = h.listenersFor event := by
  rcases hhistory.shown with ⟨_, htable, hexported⟩ | hexported
  · have hnobody := (h.stably_listenersFor event).perm
    rw [htable] at hnobody
    rw [hexported, List.perm_nil.mp hnobody]
    rfl
  · rw [hexported]
    exact h.listenersOf_shown h.language event

/-- In every run, what is exported agrees with what events are dispatched to, from the start on. For
every event the exported listeners are those of the units that run, in the order of ids and then in
that of their registration, sorted by priority; an open pool is given a task for each of them, in
this order. Once there was a batch, the exported help consists of the entries of the units that run,
in the order of ids and then in that of their registration, and one entry of the host, sorted by the
words they are about. -/
theorem Reachable.registry_agrees (hreach : h.Reachable) : h.table.ids.Pairwise (· < ·) ∧
    (∀ event, h.exported.listenersOf event = h.listenersFor event ∧
      Stably ListenerEntry.priority
        (h.table.running.flatMap fun u => u.registry.listenersOf event)
        (h.exported.listenersOf event) ∧
      ∀ payload, h.pool.shutDown = false →
        h.pool.Took ((h.exported.listenersOf event).map (·.task payload))
          (h.dispatch event payload).1.pool ∧
        (h.dispatch event payload).2 = .ok (h.exported.listenersOf event).length) ∧
    (h.last.isSome → Stably MergedRegistry.helpKey
        (h.table.running.flatMap (·.registry.help) ++ [MergedRegistry.hostHelp h.language])
        h.exported.help ∧
      h.exported.help.filter (·.pluginId = none) = [MergedRegistry.hostHelp h.language]) := by
  obtain ⟨past, hhistory⟩ := hreach.hasHistory
  refine ⟨hreach.sorted, fun event => ?_, fun hbatch => ?_⟩
  · rw [hhistory.exported_agrees event]
    exact ⟨rfl, h.stably_listenersFor event, fun payload accepting =>
      dispatch_of_open accepting event payload⟩
  · rcases hhistory.shown with ⟨hnone, _⟩ | hexported
    · rw [hnone] at hbatch
      cases hbatch
    · rw [hexported]
      exact ⟨h.table.stably_help_shown h.language,
        UnitTable.host_help_shown hreach.consistent h.language⟩

/-! ### What a single unit is told -/

/-- A unit that runs alone gets the tasks of an event in the order its listeners were registered
when it is told by itself, and in the order of their priorities when the event is dispatched. So the
two orders are the same exactly when its listeners were registered with ascending priorities. -/
theorem told_and_dispatched {u : PluginUnit} (alone : h.table.running = [u])
    (accepting : h.pool.shutDown = false) (event : Event) (payload : Payload) :
    h.pool.Took ((u.registry.listenersOf event).map (·.task payload))
        (u.receive event payload h.pool).pool ∧
      (u.receive event payload h.pool).result = .ok (u.registry.listenersOf event).length ∧
      h.pool.Took ((h.listenersFor event).map (·.task payload)) (h.dispatch event payload).1.pool ∧
      (h.dispatch event payload).2 = .ok (u.registry.listenersOf event).length ∧
      Stably ListenerEntry.priority (u.registry.listenersOf event) (h.listenersFor event) ∧
      (h.listenersFor event = u.registry.listenersOf event ↔
        (u.registry.listenersOf event).Pairwise fun a b => a.priority ≤ b.priority) := by
  have hready : u.state = .ready := by
    have hmem : u ∈ h.table.running := alone ▸ List.mem_singleton_self u
    exact of_decide_eq_true (List.mem_filter.mp hmem).2
  have hstate : u.require [.ready, .unloading] = .ok () :=
    PluginUnit.require_ok_iff.mpr (by simp [hready])
  have hreceive : u.receive event payload h.pool =
      submitAll h.pool ((u.registry.listenersOf event).map (·.task payload)) := by
    rw [PluginUnit.receive, hstate]
  have htold := submitAll_of_open accepting ((u.registry.listenersOf event).map (·.task payload))
  obtain ⟨hdispatched, hcount⟩ := h.dispatch_of_open accepting event payload
  have hlisteners : h.listenersFor event =
      (u.registry.listenersOf event).mergeSort MergedRegistry.listenerLe := by
    rw [listenersFor, ← UnitTable.running, alone, List.flatMap_singleton]
  rw [List.length_map, ← hreceive] at htold
  refine ⟨htold.1, htold.2, hdispatched, ?_, ?_, ?_⟩
  · rw [hcount, hlisteners, List.length_mergeSort]
  · rw [hlisteners]
    exact stably_mergeSort MergedRegistry.listenerLe_eq _
  · rw [hlisteners]
    exact mergeSort_eq_self_iff MergedRegistry.listenerLe_eq _

end Host

namespace HostWitness

/-- A plugin with a listener for each of some priorities. -/
def ranked (id : String) (priorities : List Int) : LoadedCode where
  code := { code id "1.0.0" [] with
    registrations := .ok (.help "!!word" "A word" 0 :: priorities.map fun priority =>
      .listener .pluginLoad priority ⟨id, "came", fun _ => ⟨[], .ok ()⟩⟩) }
  subUnits := [⟨id, 0, none⟩]

/-- Two plugins, one of which registers its later listener first. -/
def choir : Loader where
  load _ _ path :=
    match path.text with
    | "core.mcdr" => .ok (ranked "core" [500, 1])
    | "chat.mcdr" => .ok (ranked "chat" [100])
    | other => .error (.load ⟨other⟩ "there is nothing")
  unload _ _ := .ok ()
  unloadLog _ := []

/-- A host with some of these plugins. -/
def singing (paths : List Path) : Host :=
  (paths.map Operation.load).foldl Host.perform
    (.create settings ⟨"en", []⟩ choir .empty (.create 1 .spawn .none))

theorem singing_reachable (paths : List Path) : (singing paths).Reachable :=
  (Host.Reachable.create _ _ _ _ _).foldl _

/-- One plugin is heard before and behind the other one. -/
theorem singing_agrees : ∃ h : Host, h.Reachable ∧ h.last.isSome ∧
    (h.exported.listenersOf .pluginLoad).map (·.priority) = [1, 100, 500] ∧
    h.exported.listenersOf .pluginLoad = h.listenersFor .pluginLoad ∧
    h.pool.Took ((h.exported.listenersOf .pluginLoad).map (·.task .none))
      (h.dispatch .pluginLoad .none).1.pool ∧
    h.exported.help.map MergedRegistry.helpKey = ["!!MCDR", "!!word", "!!word"] ∧
    h.exported.help.filter (·.pluginId = none) = [MergedRegistry.hostHelp h.language] := by
  have hreach := singing_reachable [⟨"core.mcdr"⟩, ⟨"chat.mcdr"⟩]
  have hlast : (singing [⟨"core.mcdr"⟩, ⟨"chat.mcdr"⟩]).last.isSome := by decide +kernel
  obtain ⟨_, hlisteners, hhelp⟩ := hreach.registry_agrees
  obtain ⟨hsame, hsorted, hdispatched⟩ := hlisteners .pluginLoad
  have hsubmitted := hdispatched .none (by decide +kernel)
  obtain ⟨hshown, hhost⟩ := hhelp hlast
  have hpriorities := hsorted.map_eq [1, 100, 500] (by decide +kernel) (by decide)
  have hwords := hshown.map_eq ["!!MCDR", "!!word", "!!word"] (by decide +kernel)
    (by decide)
  exact ⟨_, hreach, hlast, hpriorities, hsame, hsubmitted.1, hwords, hhost⟩

/-- Told by itself, the plugin is called through its later listener first; when the same event is
dispatched, through its earlier one. -/
theorem singing_told : ∃ (h : Host) (u : PluginUnit), h.Reachable ∧ h.table.running = [u] ∧
    (u.registry.listenersOf .pluginLoad).map (·.priority) = [500, 1] ∧
    (h.listenersFor .pluginLoad).map (·.priority) = [1, 500] ∧
    h.pool.Took ((u.registry.listenersOf .pluginLoad).map (·.task .none))
      (u.receive .pluginLoad .none h.pool).pool ∧
    h.pool.Took ((h.listenersFor .pluginLoad).map (·.task .none))
      (h.dispatch .pluginLoad .none).1.pool ∧
    h.listenersFor .pluginLoad ≠ u.registry.listenersOf .pluginLoad := by
  have hone : (singing [⟨"core.mcdr"⟩]).table.running.length = 1 := by decide +kernel
  obtain ⟨u, hu⟩ := List.length_eq_one_iff.mp hone
  have hregistered : (singing [⟨"core.mcdr"⟩]).table.running.map (fun u =>
      (u.registry.listenersOf .pluginLoad).map (·.priority)) = [[500, 1]] := by decide +kernel
  rw [hu, List.map_singleton, List.singleton_inj] at hregistered
  obtain ⟨htold, _, hdispatched, _, hsorted, _⟩ :=
    Host.told_and_dispatched hu (by decide +kernel) .pluginLoad .none
  have hpriorities := hsorted.map_eq [1, 500] (hregistered ▸ by decide) (by decide)
  refine ⟨_, u, singing_reachable _, hu, hregistered, hpriorities, htold, hdispatched, ?_⟩
  intro heq
  rw [heq, hregistered] at hpriorities
  exact absurd hpriorities (by decide)

end HostWitness

end PluginHost
