import PluginHost.Proofs.Dependency.Affected

/-!
Who is affected, found by looking at one id after another. A sweep takes the
next id from a queue and, if it was not seen before, puts in line whatever
declares it. Each declaration is put in line at most once, so the queue runs
empty, and then what was seen is what leads to the ids at the start. The list
of a check holds the nodes among them, those that failed by id and behind them
those that passed, dependencies first, and it is the list of its own members.
-/
namespace PluginHost.Dependency

/-- A search for what needs some ids: those seen so far, and those to look at. -/
structure Sweep where
  seen : List String
  queue : List String

namespace Graph

variable {g : Graph} {a b id : String}

/-- Which node declares which id, once for each of its needs. -/
def declarations (g : Graph) : List (String × String) :=
  g.nodes.flatMap fun n => n.dependencies.map fun d => (n.id, d.1)

/-- The nodes that declare an id, once for each time they do. -/
def declaring (g : Graph) (id : String) : List String :=
  (g.declarations.filter (·.2 = id)).map Prod.fst

theorem mem_declarations_iff : (a, b) ∈ g.declarations ↔ g.Declares a b := by
  simp only [declarations, List.mem_flatMap, List.mem_map, Prod.mk.injEq]
  constructor
  · rintro ⟨n, hn, d, hd, rfl, rfl⟩
    exact ⟨n, hn, rfl, d.2, hd⟩
  · rintro ⟨n, hn, rfl, r, hr⟩
    exact ⟨n, hn, (b, r), hr, rfl, rfl⟩

theorem mem_declaring_iff : a ∈ g.declaring id ↔ g.Declares a id := by
  rw [← mem_declarations_iff]
  simp [declaring]

/-- Whatever declares something is a node. -/
theorem Declares.mem_ids (h : g.Declares a b) : a ∈ g.ids := by
  obtain ⟨n, hn, rfl, _⟩ := h
  exact List.mem_map.mpr ⟨n, hn, rfl⟩

/-- Among nodes none of which is the host, to declare something over others is to need it. -/
theorem transGen_needs (foreign : g.host.id ∉ g.ids) (hb : b ∈ g.ids)
    (h : Relation.TransGen g.Declares a b) : Relation.TransGen g.Needs a b := by
  have hguest : ∀ {c : String}, c ∈ g.ids → c ≠ g.host.id := fun hc heq => foreign (heq ▸ hc)
  induction h using Relation.TransGen.head_induction_on with
  | single hdeclares => exact .single ⟨hguest hb, hdeclares⟩
  | head hdeclares hrest ih =>
      obtain ⟨_, hnext, _⟩ := Relation.TransGen.head'_iff.mp hrest
      exact .head ⟨hguest hnext.mem_ids, hdeclares⟩ ih

end Graph

namespace Sweep

variable {g : Graph} {ids : List String} {s : Sweep}

def start (ids : List String) : Sweep := ⟨[], ids⟩

/-- Look at the next id. -/
def step (g : Graph) (s : Sweep) : Sweep :=
  match s.queue with
  | [] => s
  | id :: queue =>
    if id ∈ s.seen then { s with queue }
    else ⟨id :: s.seen, queue ++ (g.declaring id).filter (· ∉ id :: s.seen)⟩

/-- A number of steps. -/
def run (g : Graph) : Nat → Sweep → Sweep
  | 0, s => s
  | n + 1, s => run g n (s.step g)

theorem step_of_known {id : String} {queue : List String} (h : s.queue = id :: queue)
    (known : id ∈ s.seen) : s.step g = { s with queue } := by
  simp [step, h, known]

theorem step_of_new {id : String} {queue : List String} (h : s.queue = id :: queue)
    (new : id ∉ s.seen) : s.step g =
      ⟨id :: s.seen, queue ++ (g.declaring id).filter (· ∉ id :: s.seen)⟩ := by
  simp [step, h, new]

theorem run_of_nil (h : s.queue = []) (n : Nat) : run g n s = s := by
  have hstep : s.step g = s := by simp [step, h]
  induction n with
  | zero => rfl
  | succ n ih => rw [run, hstep, ih]

/-! ### The end -/

/-- What is left to do: ids to look at, and declarations of ids that were not seen yet. -/
def work (g : Graph) (s : Sweep) : Nat :=
  s.queue.length + (g.declarations.filter (·.2 ∉ s.seen)).length

/-- A new id takes its declarations with it, and these are all that is put in line. -/
theorem length_declarations {id : String} {seen : List String} (new : id ∉ seen) :
    (g.declaring id).length + (g.declarations.filter (·.2 ∉ id :: seen)).length =
      (g.declarations.filter (·.2 ∉ seen)).length := by
  rw [Graph.declaring, List.length_map]
  induction g.declarations with
  | nil => rfl
  | cons d rest ih =>
      by_cases hd : d.2 = id
      · simp [hd, new] at ih ⊢
        omega
      · by_cases hseen : d.2 ∈ seen
        · simp [hd, hseen] at ih ⊢
          omega
        · simp [hd, hseen] at ih ⊢
          omega

theorem work_step_lt (h : s.queue ≠ []) : (s.step g).work g < s.work g := by
  obtain ⟨id, queue, hqueue⟩ := List.exists_cons_of_ne_nil h
  by_cases hknown : id ∈ s.seen
  · rw [step_of_known hqueue hknown, work, work, hqueue, List.length_cons]
    dsimp only
    omega
  · rw [step_of_new hqueue hknown, work, work, hqueue, List.length_append, List.length_cons]
    have htaken := length_declarations (g := g) hknown
    have hadded := (g.declaring id).length_filter_le (· ∉ id :: s.seen)
    dsimp only
    omega

theorem queue_run {n : Nat} (h : s.work g ≤ n) : (run g n s).queue = [] := by
  induction n generalizing s with
  | zero =>
      rw [work] at h
      have hnone : s.queue.length = 0 := by omega
      exact List.length_eq_zero_iff.mp hnone
  | succ n ih =>
      by_cases hnil : s.queue = []
      · rw [run_of_nil hnil, hnil]
      · have hless := work_step_lt (g := g) hnil
        exact ih (by omega)

/-! ### What was seen -/

/-- What was met stays so. -/
theorem met_step {a : String} (met : a ∈ s.seen ∨ a ∈ s.queue) :
    a ∈ (s.step g).seen ∨ a ∈ (s.step g).queue := by
  cases hqueue : s.queue with
  | nil => simpa [step, hqueue] using met
  | cons id queue =>
      rw [hqueue, List.mem_cons] at met
      by_cases hknown : id ∈ s.seen
      · rw [step_of_known hqueue hknown]
        rcases met with hseen | rfl | hrest
        · exact .inl hseen
        · exact .inl hknown
        · exact .inr hrest
      · rw [step_of_new hqueue hknown]
        rcases met with hseen | rfl | hrest
        · exact .inl (List.mem_cons_of_mem id hseen)
        · exact .inl List.mem_cons_self
        · exact .inr (List.mem_append_left _ hrest)

/-- A sweep that is on the track of what leads to some ids: nothing that does is lost, and nothing
else is found. -/
structure Tracks (g : Graph) (ids : List String) (s : Sweep) : Prop where
  nodup : s.seen.Nodup
  starts : ∀ id ∈ ids, id ∈ s.seen ∨ id ∈ s.queue
  follows : ∀ a b, g.Declares a b → b ∈ s.seen → a ∈ s.seen ∨ a ∈ s.queue
  leads : ∀ id, id ∈ s.seen ∨ id ∈ s.queue → ∃ t ∈ ids, Relation.ReflTransGen g.Declares id t

theorem tracks_start (g : Graph) (ids : List String) : (start ids).Tracks g ids where
  nodup := List.nodup_nil
  starts := fun _ hid => .inr hid
  follows := fun _ _ _ hb => nomatch hb
  leads := by
    rintro id (hseen | hqueue)
    · cases hseen
    · exact ⟨id, hqueue, .refl⟩

namespace Tracks

theorem step (h : s.Tracks g ids) : (s.step g).Tracks g ids := by
  have hstarts : ∀ t ∈ ids, t ∈ (s.step g).seen ∨ t ∈ (s.step g).queue :=
    fun t ht => met_step (h.starts t ht)
  have hfollows : ∀ a b, g.Declares a b → b ∈ s.seen →
      a ∈ (s.step g).seen ∨ a ∈ (s.step g).queue :=
    fun a b hab hb => met_step (h.follows a b hab hb)
  cases hqueue : s.queue with
  | nil => simpa [Sweep.step, hqueue] using h
  | cons id queue =>
      by_cases hknown : id ∈ s.seen
      · rw [step_of_known hqueue hknown] at hstarts hfollows ⊢
        refine ⟨h.nodup, hstarts, hfollows, fun a ha => h.leads a ?_⟩
        rw [hqueue]
        exact ha.imp_right (List.mem_cons_of_mem id)
      · rw [step_of_new hqueue hknown] at hstarts hfollows ⊢
        refine ⟨List.nodup_cons.mpr ⟨hknown, h.nodup⟩, hstarts, ?_, ?_⟩
        · intro a b hab hb
          rcases List.mem_cons.mp hb with rfl | hseen
          · by_cases ha : a ∈ b :: s.seen
            · exact .inl ha
            · refine .inr (List.mem_append_right _ (List.mem_filter.mpr ⟨?_, by simpa using ha⟩))
              exact Graph.mem_declaring_iff.mpr hab
          · exact hfollows a b hab hseen
        · obtain ⟨t, ht, hreach⟩ := h.leads id (.inr (hqueue ▸ List.mem_cons_self))
          rintro a (hseen | hline)
          · rcases List.mem_cons.mp hseen with rfl | hold
            · exact ⟨t, ht, hreach⟩
            · exact h.leads a (.inl hold)
          · rcases List.mem_append.mp hline with hrest | hnew
            · exact h.leads a (.inr (hqueue ▸ List.mem_cons_of_mem id hrest))
            · have hdeclares := Graph.mem_declaring_iff.mp (List.mem_filter.mp hnew).1
              exact ⟨t, ht, .head hdeclares hreach⟩

theorem run (h : s.Tracks g ids) (n : Nat) : (run g n s).Tracks g ids := by
  induction n generalizing s with
  | zero => exact h
  | succ n ih => exact ih h.step

theorem mem_seen_iff (h : s.Tracks g ids) (done : s.queue = []) {id : String} :
    id ∈ s.seen ↔ ∃ t ∈ ids, Relation.ReflTransGen g.Declares id t := by
  have hseen : ∀ {a : String}, a ∈ s.seen ∨ a ∈ s.queue → a ∈ s.seen := by simp [done]
  constructor
  · exact fun hid => h.leads id (.inl hid)
  · rintro ⟨t, ht, hreach⟩
    induction hreach using Relation.ReflTransGen.head_induction_on with
    | refl => exact hseen (h.starts t ht)
    | head hdeclares _ ih => exact hseen (h.follows _ _ hdeclares ih)

end Tracks

end Sweep

namespace Walk

variable {g : Graph} {ids : List String} {id : String}

/-- The list of a check is what a sweep has seen when it is done, as far as that are nodes. -/
theorem sweep_perm_affected (distinct : g.ids.Nodup) {n : Nat}
    (long : (Sweep.start ids).work g ≤ n) :
    ((Sweep.run g n (.start ids)).seen.filter g.ids.contains).Perm (g.walk.affected ids) := by
  have htracks := (Sweep.tracks_start g ids).run n
  apply (List.perm_ext_iff_of_nodup (htracks.nodup.filter _) (nodup_affected distinct)).mpr
  intro id
  rw [mem_affected_iff distinct, List.mem_filter, htracks.mem_seen_iff (Sweep.queue_run long),
    List.contains_iff_mem, and_comm]

theorem pairwise_lt_mergeSort {l : List String} (nodup : l.Nodup) :
    (l.mergeSort fun a b => !decide (b < a)).Pairwise (· < ·) := by
  have hle : ∀ a b : String, (!decide (b < a)) = true ↔ a ≤ b := by
    intro a b
    rw [Bool.not_eq_true', decide_eq_false_iff_not, String.not_lt]
  have hsorted : (l.mergeSort fun a b => !decide (b < a)).Pairwise fun a b =>
      (!decide (b < a)) = true :=
    List.pairwise_mergeSort
      (fun a b c hab hbc => (hle a c).mpr (String.le_trans ((hle a b).mp hab) ((hle b c).mp hbc)))
      (fun a b => by rw [Bool.or_eq_true, hle, hle]; exact String.le_total a b) l
  have hapart := (List.mergeSort_perm l fun a b => !decide (b < a)).nodup_iff.mpr nodup
  exact (hsorted.and hapart).imp fun h => Std.lt_of_le_of_ne ((hle _ _).mp h.1) h.2

/-- The list of a check, in its two parts. -/
theorem affected_parts (distinct : g.ids.Nodup) (foreign : g.host.id ∉ g.ids) (ids : List String) :
    ∃ failed passed, g.walk.affected ids = failed ++ passed ∧ failed.Pairwise (· < ·) ∧
      (∀ id ∈ failed, id ∈ g.walk.failures.map Prod.fst) ∧ passed.Sublist g.walk.order := by
  have hsound := walk_sound distinct
  rw [affected, graph_walk, eraseDups_of_nodup distinct]
  refine ⟨_, _, rfl, pairwise_lt_mergeSort (distinct.filter _), ?_, List.filter_sublist⟩
  intro id hid
  obtain ⟨hnode, hkept⟩ := List.mem_filter.mp (List.mem_mergeSort.mp hid)
  have hguest : id ≠ g.host.id := fun heq => foreign (heq ▸ hnode)
  have hstuck : id ∉ g.walk.order := by simpa using (Bool.and_eq_true_iff.mp hkept).2
  exact hsound.mem_failures_iff.mpr
    ⟨hnode, hguest, fun hruns => hstuck (hsound.mem_order_iff.mpr ⟨hguest, hruns⟩)⟩

/-- What passed stands behind all in the list that it depends on. -/
theorem affected_behind (distinct : g.ids.Nodup) (foreign : g.host.id ∉ g.ids) {a b : String}
    (ha : a ∈ g.walk.affected ids) (hb : b ∈ g.walk.affected ids) (passed : a ∈ g.walk.order)
    (depends : Relation.TransGen g.Declares a b) : [b, a].Sublist (g.walk.affected ids) := by
  have hneeds : Relation.TransGen g.Needs a b :=
    Graph.transGen_needs foreign ((mem_affected_iff distinct).mp hb).1 depends
  have hother : a ≠ b := by
    rintro rfl
    obtain ⟨_, n, _, rfl, hresolvable⟩ := (walk_sound distinct).mem_order_iff.mp passed
    exact hresolvable.not_needs_self distinct hneeds
  exact sublist_of_pairwise ((pairwise_affected distinct ids).imp
    (S := fun a b => ¬ (a ∈ g.walk.order ∧ Relation.TransGen g.Needs a b))
    fun h hboth => h hboth.1 hboth.2) ha hb hother ⟨passed, hneeds⟩

/-- Affected by what some ids affect is nothing else. -/
theorem affected_affected (distinct : g.ids.Nodup) (ids : List String) :
    g.walk.affected (g.walk.affected ids) = g.walk.affected ids := by
  have hsame : ∀ id ∈ g.ids, (g.closure (g.walk.affected ids)).contains id =
      (g.closure ids).contains id := by
    intro id hid
    rw [Bool.eq_iff_iff, List.contains_iff_mem, List.contains_iff_mem, Graph.mem_closure_iff,
      Graph.mem_closure_iff]
    constructor
    · rintro ⟨s, hs, hreach⟩
      obtain ⟨_, t, ht, hrest⟩ := (mem_affected_iff distinct).mp hs
      exact ⟨t, ht, hreach.trans hrest⟩
    · exact fun hleads => ⟨id, (mem_affected_iff distinct).mpr ⟨hid, hleads⟩, .refl⟩
  have horder : ∀ id ∈ g.walk.order, id ∈ g.ids := by
    intro id hid
    obtain ⟨_, n, hn, rfl, _⟩ := (walk_sound distinct).mem_order_iff.mp hid
    exact List.mem_map.mpr ⟨n, hn, rfl⟩
  simp only [affected, graph_walk, eraseDups_of_nodup distinct] at hsame ⊢
  rw [List.filter_congr fun id hid => by rw [hsame id hid],
    List.filter_congr fun id hid => hsame id (horder id hid)]

/-- What the list of a check holds, and in which order. -/
structure Cascade (g : Graph) (w : Walk) (ids : List String) : Prop where
  /-- A sweep that looks at one id after another comes to an end, and has then seen the nodes in the
  list, and apart from them only ids that are no nodes. -/
  swept : ∀ n, ids.length + g.declarations.length ≤ n → (Sweep.run g n (.start ids)).queue = [] ∧
    ((Sweep.run g n (.start ids)).seen.filter g.ids.contains).Perm (w.affected ids)
  nodup : (w.affected ids).Nodup
  mem_iff : ∀ id, id ∈ w.affected ids ↔
    id ∈ g.ids ∧ ∃ t ∈ ids, id = t ∨ Relation.TransGen g.Declares id t
  /-- Those that failed come first, by id, and behind them those that passed, in their order. -/
  parts : ∃ failed passed, w.affected ids = failed ++ passed ∧ failed.Pairwise (· < ·) ∧
    (∀ id ∈ failed, id ∈ w.failures.map Prod.fst) ∧ passed.Sublist w.order
  behind : ∀ a ∈ w.affected ids, ∀ b ∈ w.affected ids, a ∈ w.order →
    Relation.TransGen g.Declares a b → [b, a].Sublist (w.affected ids)
  again : w.affected (w.affected ids) = w.affected ids

/-- Whatever a walker did before, after a check of distinct plugins, none of which is the host, it
lists all that some ids affect, whether or not these are plugins. -/
theorem again_cascades (w : Walk) (nodes : List Node) (ids : List String)
    (distinct : (nodes.map Node.id).Nodup) (foreign : w.graph.host.id ∉ nodes.map Node.id) :
    Cascade ⟨w.graph.host, nodes⟩ (w.again nodes) ids := by
  have hwalk : w.again nodes = Graph.walk ⟨w.graph.host, nodes⟩ := rfl
  have hdistinct : (Graph.ids ⟨w.graph.host, nodes⟩).Nodup := distinct
  rw [hwalk]
  refine ⟨fun n hn => ?_, nodup_affected hdistinct, fun id => ?_,
    affected_parts hdistinct foreign ids,
    fun _ ha _ hb passed depends => affected_behind hdistinct foreign ha hb passed depends,
    affected_affected hdistinct ids⟩
  · have hlong : (Sweep.start ids).work ⟨w.graph.host, nodes⟩ ≤ n := by
      simpa [Sweep.work, Sweep.start] using hn
    exact ⟨Sweep.queue_run hlong, sweep_perm_affected hdistinct hlong⟩
  · rw [mem_affected_iff hdistinct]
    simp only [Relation.reflTransGen_iff_eq_or_transGen, eq_comm]

end Walk

namespace WalkWitness

/-- The host is no plugin, but what needs it is affected by it, and so is what needs that. -/
theorem walker_again_cascades :
    (walker.again nodes).affected ["host", "west"] = ["east", "west", "chat"] ∧
    Walk.Cascade ⟨host, nodes⟩ (walker.again nodes) ["host", "west"] := by
  have hfailed : ((walker.again nodes).graph.ids.eraseDups.filter fun id =>
      ((walker.again nodes).graph.closure ["host", "west"]).contains id &&
        !(walker.again nodes).order.contains id) = ["east", "west"] := by decide +kernel
  have hlist : (walker.again nodes).affected ["host", "west"] = ["east", "west", "chat"] := by
    rw [Walk.affected]
    simp only [hfailed]
    rw [List.mergeSort_of_pairwise (by decide)]
    decide +kernel
  exact ⟨hlist, walker.again_cascades nodes ["host", "west"] (by decide) (by decide)⟩

end WalkWitness

end PluginHost.Dependency
