import PluginHost.Proofs.Host.Balance
import PluginHost.Proofs.Pool.Serving

/-!
Which listener tasks a batch submits: those of the units that came or came
back and passed the check, in the order of the check, and behind them those of
the units that went, in the order they did. A pool that is closed takes none
of them and any other pool takes all.
-/
namespace PluginHost

/-! ### What a pool takes -/

namespace Submitted

variable {s : Submitted} {tasks : List (PoolTask Call)}

/-- One more task is submitted, unless one was refused already. -/
def next (s : Submitted) (task : PoolTask Call) : Submitted :=
  match s.result with
  | .error _ => s
  | .ok count =>
    match s.pool.submit task false with
    | .error e => { s with result := .error (.pool e) }
    | .ok (pool, worker) => ⟨pool, s.log ++ pool.dispatchLog task worker, .ok (count + 1)⟩

theorem pool_next_of_closed (h : s.pool.shutDown = true) (task : PoolTask Call) :
    (s.next task).pool = s.pool := by
  unfold next
  rw [Pool.submit_of_closed h]
  split <;> rfl

theorem pool_foldl_next_of_closed (h : s.pool.shutDown = true) :
    (tasks.foldl next s).pool = s.pool := by
  induction tasks generalizing s with
  | nil => rfl
  | cons task rest ih =>
      have hpool := pool_next_of_closed h task
      exact (ih (hpool ▸ h)).trans hpool

theorem took_foldl_next {count : Nat} (h : s.pool.shutDown = false) (ok : s.result = .ok count) :
    s.pool.Took tasks (tasks.foldl next s).pool := by
  induction tasks generalizing s count with
  | nil => exact .nil _
  | cons task rest ih =>
      obtain ⟨q, worker, hsubmit⟩ := Pool.submit_of_open h task
      have hnext : s.next task = ⟨q, s.log ++ q.dispatchLog task worker, .ok (count + 1)⟩ := by
        simp only [next, ok, hsubmit]
      have hopen : (s.next task).pool.shutDown = false := by
        rw [hnext]
        exact (Pool.shutDown_submit hsubmit).2
      have hrest := ih hopen (congrArg result hnext)
      rw [hnext] at hrest
      rw [List.foldl_cons, hnext]
      exact .cons hsubmit hrest

end Submitted

theorem submitAll_offered (pool : Pool Call) (tasks : List (PoolTask Call)) :
    pool.Offered tasks (submitAll pool tasks).pool := by
  have hfold : submitAll pool tasks = tasks.foldl Submitted.next ⟨pool, [], .ok 0⟩ := rfl
  rw [hfold, Pool.Offered]
  cases hpool : pool.shutDown with
  | true =>
      rw [Submitted.pool_foldl_next_of_closed hpool]
      exact .nil pool
  | false => exact Submitted.took_foldl_next (s := ⟨pool, [], .ok 0⟩) hpool rfl

/-! ### What units are told -/

/-- The tasks of a unit's listeners for an event. -/
def PluginUnit.tasks (u : PluginUnit) (event : Event) : List (PoolTask Call) :=
  (u.registry.listenersOf event).map (·.task .none)

/-- What a new unit is told when it is welcomed. -/
def UnitTable.loadNotices (fresh : List String) (t : UnitTable) (id : String) :
    List (PoolTask Call) :=
  if id ∈ fresh then
    match t.unit? id with
    | some u => u.welcomed.tasks .pluginLoad
    | none => []
  else []

namespace Batch

/-- The tasks a batch submits: new units that passed the check hear of their loading, then units
that went hear of that. -/
def notices (b : Batch) : List (PoolTask Call) :=
  b.order.flatMap (b.host.table.loadNotices b.fresh) ++ b.departed.flatMap (·.tasks .pluginUnload)

/-- A unit that a batch tells of an event. -/
inductive Tells (b : Batch) : PluginUnit → Event → Prop
  | came {id : String} {u : PluginUnit} (passed : id ∈ b.order) (new : id ∈ b.fresh)
      (tracked : b.host.table.unit? id = some u) : Tells b u.welcomed .pluginLoad
  | left {u : PluginUnit} (departed : u ∈ b.departed) : Tells b u .pluginUnload

theorem mem_loadNotices_iff {fresh : List String} {t : UnitTable} {id : String}
    {task : PoolTask Call} : task ∈ t.loadNotices fresh id ↔
      id ∈ fresh ∧ ∃ u, t.unit? id = some u ∧ task ∈ u.welcomed.tasks .pluginLoad := by
  unfold UnitTable.loadNotices
  by_cases hnew : id ∈ fresh
  · cases t.unit? id <;> simp [hnew]
  · simp [hnew]

/-- Every task is for a listener of a unit that is told of something. -/
theorem mem_notices_iff {b : Batch} {task : PoolTask Call} :
    task ∈ b.notices ↔ ∃ u event, b.Tells u event ∧ task ∈ u.tasks event := by
  simp only [notices, List.mem_append, List.mem_flatMap, mem_loadNotices_iff]
  constructor
  · rintro (⟨id, hpassed, hnew, u, htracked, htask⟩ | ⟨u, hleft, htask⟩)
    · exact ⟨_, _, .came hpassed hnew htracked, htask⟩
    · exact ⟨_, _, .left hleft, htask⟩
  · rintro ⟨_, _, htells, htask⟩
    cases htells with
    | came hpassed hnew htracked => exact .inl ⟨_, hpassed, hnew, _, htracked, htask⟩
    | left hleft => exact .inr ⟨_, hleft, htask⟩

theorem announce_offered (h : Host) {u : PluginUnit} (event : Event)
    (awake : u.state = .ready ∨ u.state = .unloading) :
    h.pool.Offered (u.tasks event) (announce h u event).pool := by
  have hstate : u.require [.ready, .unloading] = .ok () :=
    PluginUnit.require_ok_iff.mpr (by simpa using awake)
  have hpool : (announce h u event).pool = (submitAll h.pool (u.tasks event)).pool := by
    simp only [announce, PluginUnit.receive, hstate]
    split <;> rfl
  rw [hpool]
  exact submitAll_offered h.pool (u.tasks event)

theorem welcome_offered (fresh : List String) {h : Host} (id : String)
    (hconsistent : h.table.Consistent) :
    h.pool.Offered (h.table.loadNotices fresh id) (welcome fresh h id).pool := by
  unfold welcome UnitTable.loadNotices
  by_cases hnew : id ∈ fresh
  · simp only [List.contains_iff_mem.mpr hnew, hnew, Bool.not_true, Bool.false_eq_true, if_false,
      if_true]
    cases htracked : h.table.unit? id with
    | none => exact .nil _
    | some u =>
        dsimp only
        by_cases hstate : u.state = .loaded
        · simp only [hstate, if_true, PluginUnit.ready_of_loaded hstate, PluginUnit.welcomed]
          exact announce_offered { h with table := h.table.update id u.readied } .pluginLoad
            (.inl rfl)
        · have hready : u.state = .ready :=
            (hconsistent.unit_live htracked).running.resolve_left hstate
          simp only [hstate, if_false, PluginUnit.welcomed]
          exact announce_offered h .pluginLoad (.inl hready)
  · simp only [hnew, if_false, List.contains_eq_mem, decide_false, Bool.not_false, if_true]
    exact .nil _

theorem loadNotices_welcome (fresh : List String) (t : UnitTable) (id : String) :
    (t.welcome fresh id).loadNotices fresh = t.loadNotices fresh := by
  funext other
  unfold UnitTable.loadNotices
  rw [UnitTable.unit?_welcome]
  by_cases hother : other = id ∧ id ∈ fresh
  · rw [if_pos hother]
    cases t.unit? other with
    | none => rfl
    | some u => simp only [Option.map_some, PluginUnit.welcomed_welcomed]
  · rw [if_neg hother]

theorem foldl_welcome_offered (fresh order : List String) {h : Host}
    (hconsistent : h.table.Consistent) :
    h.pool.Offered (order.flatMap (h.table.loadNotices fresh))
      (order.foldl (welcome fresh) h).pool := by
  induction order generalizing h with
  | nil => exact .nil _
  | cons id rest ih =>
      have hwelcomed : (welcome fresh h id).table.Consistent := by
        rw [table_welcome]
        exact (UnitTable.shifts_welcome h.table fresh id).consistent hconsistent
      have hrest := ih hwelcomed
      rw [table_welcome, loadNotices_welcome] at hrest
      exact (welcome_offered fresh id hconsistent).append hrest

theorem farewell_offered (acc : Host × List PluginUnit) {u : PluginUnit}
    (leaving : u.state = .unloading) :
    acc.1.pool.Offered (u.tasks .pluginUnload) (farewell acc u).1.pool := by
  have hpool : (farewell acc u).1.pool = (announce acc.1 u .pluginUnload).pool := by
    simp only [farewell, PluginUnit.remove_unloading leaving]
  rw [hpool]
  exact announce_offered acc.1 .pluginUnload (.inr leaving)

theorem foldl_farewell_offered (departed : List PluginUnit) (acc : Host × List PluginUnit)
    (leaving : ∀ u ∈ departed, u.state = .unloading) :
    acc.1.pool.Offered (departed.flatMap (·.tasks .pluginUnload))
      (departed.foldl farewell acc).1.pool := by
  induction departed generalizing acc with
  | nil => exact .nil _
  | cons u rest ih =>
      have hfirst := farewell_offered acc (leaving u List.mem_cons_self)
      exact hfirst.append (ih _ fun v hv => leaving v (List.mem_cons_of_mem u hv))

theorem notify_offered {b : Batch} (hconsistent : b.host.table.Consistent)
    (leaving : ∀ u ∈ b.departed, u.state = .unloading) :
    b.host.pool.Offered b.notices b.notify.host.pool :=
  (foldl_welcome_offered b.fresh b.order hconsistent).append
    (foldl_farewell_offered b.departed (b.order.foldl (welcome b.fresh) b.host, []) leaving)

theorem pool_validate (plan : Plan) (h : Host) :
    (validate (prepared plan h)).host.pool = h.pool := by
  obtain ⟨log, hchecked⟩ := (prepared plan h).validate_eq
  rw [hchecked]
  exact ((prepared plan h).purged_transitions.advances.pool).trans (prepared_advances plan h).pool

/-- All that a batch gives to the pool are the notices of those that came and went. -/
theorem run_offered (plan : Plan) {h : Host} (hconsistent : h.table.Consistent) :
    h.pool.Offered (validate (prepared plan h)).notices (run plan h).host.pool := by
  have hprepared := (prepared_transitions plan h).consistent hconsistent
  have hchecked := (validate_validated (prepared plan h)).consistent hprepared
  rw [← pool_validate plan h, pool_run]
  exact notify_offered hchecked (balanced_validate plan hconsistent).leaving

end Batch

end PluginHost
