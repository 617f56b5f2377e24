import PluginHost.Dependency.Walk
import PluginHost.Proofs.Dependency.SearchSound

/-!
The check of a whole graph. After a node is visited it is decided for good,
so at the end the failures are the plugins that do not run, in the order of
the nodes, and what passed are those that do, dependencies first. Whether a
node is reported as a success is then a matter of resolvability alone.
-/
namespace PluginHost.Dependency

namespace Walk

theorem visit_pass {g : Graph} {w : Walk} {node : Node} {after : Memo}
    (open' : ∀ cause, w.memo.mark? node.id ≠ some (.fail cause))
    (hresolve : g.resolve w.memo node.id = (.ok (), after)) :
    w.visit g node = { w with memo := after } := by
  rw [Walk.visit]
  split
  · next cause hcause => exact absurd hcause (open' cause)
  · rw [hresolve]

theorem visit_fail {g : Graph} {w : Walk} {node : Node} {after : Memo} {cause : Failure}
    (open' : ∀ cause, w.memo.mark? node.id ≠ some (.fail cause))
    (hresolve : g.resolve w.memo node.id = (.error cause, after)) :
    w.visit g node = { w with failures := w.failures ++ [(node.id, cause)], memo := after } := by
  rw [Walk.visit]
  split
  · next why hwhy => exact absurd hwhy (open' why)
  · rw [hresolve]

/-- A check that has visited some nodes and reported exactly those of them that failed. -/
structure Sound (g : Graph) (seen : List Node) (w : Walk) : Prop where
  memo : w.memo.Sound g
  sublist : (w.failures.map Prod.fst).Sublist (seen.map Node.id)
  decided : ∀ n ∈ seen, ∃ mark, w.memo.mark? n.id = some mark
  failed_iff : ∀ n ∈ seen,
    n.id ∈ w.failures.map Prod.fst ↔ ∃ cause, w.memo.mark? n.id = some (.fail cause)

namespace Sound

variable {g : Graph} {seen : List Node} {w : Walk}

/-- Decisions on visited nodes stay what they are while others are added. -/
theorem fail_iff_of_grows (h : w.Sound g seen) {after : Memo} (grows : w.memo.Grows after)
    {n : Node} (hn : n ∈ seen) :
    (∃ cause, after.mark? n.id = some (.fail cause)) ↔
      ∃ cause, w.memo.mark? n.id = some (.fail cause) := by
  constructor
  · rintro ⟨cause, hafter⟩
    obtain ⟨mark, hmark⟩ := h.decided n hn
    have hsame := grows n.id mark hmark
    rw [hafter, Option.some.injEq] at hsame
    exact ⟨cause, hsame ▸ hmark⟩
  · exact fun ⟨cause, hbefore⟩ => ⟨cause, grows n.id _ hbefore⟩

/-- One more node is visited and not reported. -/
theorem add_pass (h : w.Sound g seen) {node : Node} {after : Memo} (sound : after.Sound g)
    (grows : w.memo.Grows after) (mark : after.mark? node.id = some .pass)
    (open' : ∀ cause, w.memo.mark? node.id ≠ some (.fail cause)) :
    Sound g (seen ++ [node]) { w with memo := after } where
  memo := sound
  sublist := by
    rw [List.map_append]
    exact h.sublist.trans (List.sublist_append_left _ _)
  decided := by
    intro n hn
    rcases List.mem_append.mp hn with hold | hnew
    · obtain ⟨m, hm⟩ := h.decided n hold
      exact ⟨m, grows n.id m hm⟩
    · exact ⟨.pass, List.mem_singleton.mp hnew ▸ mark⟩
  failed_iff := by
    intro n hn
    rcases List.mem_append.mp hn with hold | hnew
    · exact (h.failed_iff n hold).trans (h.fail_iff_of_grows grows hold).symm
    · rw [List.mem_singleton.mp hnew, mark]
      constructor
      · intro hfailed
        obtain ⟨m, hm, hid⟩ := List.mem_map.mp (h.sublist.mem hfailed)
        rw [← hid] at hfailed
        obtain ⟨cause, hcause⟩ := (h.failed_iff m hm).mp hfailed
        exact absurd (hid ▸ hcause) (open' cause)
      · rintro ⟨cause, hcause⟩
        cases hcause

/-- One more node is visited and reported as a failure. -/
theorem add_fail (h : w.Sound g seen) {node : Node} {after : Memo} {cause why : Failure}
    (sound : after.Sound g) (grows : w.memo.Grows after)
    (mark : after.mark? node.id = some (.fail why)) :
    Sound g (seen ++ [node])
      { w with failures := w.failures ++ [(node.id, cause)], memo := after } where
  memo := sound
  sublist := by
    rw [List.map_append, List.map_append]
    exact h.sublist.append (List.Sublist.refl [node.id])
  decided := by
    intro n hn
    rcases List.mem_append.mp hn with hold | hnew
    · obtain ⟨m, hm⟩ := h.decided n hold
      exact ⟨m, grows n.id m hm⟩
    · exact ⟨.fail why, List.mem_singleton.mp hnew ▸ mark⟩
  failed_iff := by
    intro n hn
    simp only [List.map_append, List.map_cons, List.map_nil, List.mem_append,
      List.mem_singleton] at hn ⊢
    by_cases hid : n.id = node.id
    · rw [hid]
      exact ⟨fun _ => ⟨why, mark⟩, fun _ => .inr rfl⟩
    · have hold : n ∈ seen := hn.resolve_right fun hnew => hid (congrArg Node.id hnew)
      rw [h.failed_iff n hold, h.fail_iff_of_grows grows hold]
      exact ⟨fun hor => hor.resolve_right hid, .inl⟩

theorem visit (distinct : g.ids.Nodup) (h : w.Sound g seen) {node : Node} (hnode : node ∈ g.nodes) :
    (w.visit g node).Sound g (seen ++ [node]) := by
  have hid : node.id ∈ g.ids := List.mem_map.mpr ⟨node, hnode, rfl⟩
  obtain ⟨hgrows, hsound, hresult⟩ := Graph.resolve_sound distinct h.memo hid
  by_cases hfail : ∃ cause, w.memo.mark? node.id = some (.fail cause)
  · obtain ⟨cause, hcause⟩ := hfail
    have hvisit : w.visit g node = { w with failures := w.failures ++ [(node.id, cause)] } := by
      simp [Walk.visit, hcause]
    rw [hvisit]
    exact h.add_fail h.memo (Memo.Grows.refl _) hcause
  · have hopen : ∀ cause, w.memo.mark? node.id ≠ some (.fail cause) :=
      fun cause hcause => hfail ⟨cause, hcause⟩
    cases hresolve : g.resolve w.memo node.id with
    | mk result after =>
        rw [hresolve] at hgrows hsound hresult
        cases result with
        | ok _ =>
            rw [visit_pass hopen hresolve]
            exact h.add_pass hsound hgrows hresult hopen
        | error cause =>
            obtain ⟨why, hwhy⟩ := hresult
            rw [visit_fail hopen hresolve]
            exact h.add_fail hsound hgrows hwhy

theorem foldl (distinct : g.ids.Nodup) (h : w.Sound g seen) {rest : List Node}
    (hrest : ∀ n ∈ rest, n ∈ g.nodes) :
    (rest.foldl (Walk.visit g) w).Sound g (seen ++ rest) := by
  induction rest generalizing seen w with
  | nil => simpa using h
  | cons node rest ih =>
      have hstep := h.visit distinct (hrest node List.mem_cons_self)
      have hall := ih hstep fun n hn => hrest n (List.mem_cons_of_mem node hn)
      simpa using hall

end Sound

/-- Whatever a walker did before, its check of distinct nodes is right. -/
theorem again_sound (w : Walk) {nodes : List Node} (distinct : (nodes.map Node.id).Nodup) :
    (w.again nodes).Sound ⟨w.graph.host, nodes⟩ nodes := by
  have hstart : Sound ⟨w.graph.host, nodes⟩ [] ⟨⟨w.graph.host, nodes⟩, [], .empty⟩ :=
    ⟨Memo.Sound.empty _, List.Sublist.refl [], by simp, by simp⟩
  have hdistinct : (Graph.ids ⟨w.graph.host, nodes⟩).Nodup := distinct
  have hall := hstart.foldl hdistinct fun n hn => hn
  rw [List.nil_append] at hall
  exact hall

theorem walk_sound {g : Graph} (distinct : g.ids.Nodup) : g.walk.Sound g g.nodes :=
  (Walk.unstarted g.host).again_sound distinct

namespace Sound

variable {g : Graph} {w : Walk}

/-- What passed is what runs. -/
theorem mem_order_iff (h : w.Sound g g.nodes) {id : String} :
    id ∈ w.order ↔ id ≠ g.host.id ∧ g.Runs id := by
  constructor
  · exact h.memo.runs id
  · rintro ⟨guest, n, hn, rfl, hres⟩
    obtain ⟨mark, hmark⟩ := h.decided n hn
    cases mark with
    | pass => exact h.memo.pass_mem n.id hmark guest
    | fail cause => exact absurd ⟨n, hn, rfl, hres⟩ (h.memo.fails n.id cause hmark).2

/-- What is reported as a failure is what does not run. -/
theorem mem_failures_iff (h : w.Sound g g.nodes) {id : String} :
    id ∈ w.failures.map Prod.fst ↔ id ∈ g.ids ∧ id ≠ g.host.id ∧ ¬ g.Runs id := by
  constructor
  · intro hfailed
    have hid : id ∈ g.ids := h.sublist.mem hfailed
    obtain ⟨n, hn, rfl⟩ := List.mem_map.mp hid
    obtain ⟨cause, hcause⟩ := (h.failed_iff n hn).mp hfailed
    exact ⟨hid, h.memo.fails n.id cause hcause⟩
  · rintro ⟨hid, guest, hstuck⟩
    obtain ⟨n, hn, rfl⟩ := List.mem_map.mp hid
    obtain ⟨mark, hmark⟩ := h.decided n hn
    cases mark with
    | pass => exact absurd (h.memo.runs n.id (h.memo.pass_mem n.id hmark guest)).2 hstuck
    | fail cause => exact (h.failed_iff n hn).mpr ⟨cause, hmark⟩

/-- Every node is reported once, unless it has the id of the host. -/
theorem perm_ids (distinct : g.ids.Nodup) (h : w.Sound g g.nodes) :
    (w.failures.map Prod.fst ++ w.order).Perm (g.ids.filter (· != g.host.id)) := by
  apply (List.perm_ext_iff_of_nodup ?_ (distinct.filter _)).mpr
  · intro id
    rw [List.mem_append, h.mem_failures_iff, h.mem_order_iff, List.mem_filter, bne_iff_ne]
    constructor
    · rintro (⟨hid, guest, _⟩ | ⟨guest, n, hn, rfl, _⟩)
      · exact ⟨hid, guest⟩
      · exact ⟨List.mem_map.mpr ⟨n, hn, rfl⟩, guest⟩
    · rintro ⟨hid, guest⟩
      by_cases hruns : g.Runs id
      · exact .inr ⟨guest, hruns⟩
      · exact .inl ⟨hid, guest, hruns⟩
  · refine List.nodup_append.mpr ⟨distinct.sublist h.sublist, h.memo.nodup, ?_⟩
    rintro a ha b hb rfl
    exact (h.mem_failures_iff.mp ha).2.2 (h.mem_order_iff.mp hb).2

theorem mem_results_ok_iff {id : String} : (id, .ok ()) ∈ w.results ↔ id ∈ w.order := by
  simp [results]

theorem sublist_order (h : w.Sound g g.nodes) {id : String} (hid : id ∈ w.order)
    {d : String × Requirement} (hd : d ∈ g.dependenciesOf id) (guest : d.1 ≠ g.host.id) :
    [d.1, id].Sublist w.order :=
  h.memo.ordered.sublist hid hd guest

end Sound

/-! ### The results of a check -/

/-- Results that account for every node of a graph. -/
structure Accounts (g : Graph) (results : List (String × Except Failure Unit)) : Prop where
  /-- Every node is reported exactly once. -/
  once : (results.map Prod.fst).Perm g.ids
  success_iff : ∀ n ∈ g.nodes, (n.id, .ok ()) ∈ results ↔ Resolvable g n
  /-- Behind a success there are only successes. -/
  failures_first : results.Pairwise fun a b => a.2 = .ok () → b.2 = .ok ()
  failures_in_order : ((results.filter fun r => !r.2.isOk).map Prod.fst).Sublist g.ids
  needs_first : ∀ n ∈ g.nodes, (n.id, .ok ()) ∈ results → ∀ d ∈ n.dependencies,
    d.1 ≠ g.host.id → [(d.1, .ok ()), (n.id, .ok ())].Sublist results

theorem results_failures_first (w : Walk) :
    w.results.Pairwise fun a b => a.2 = .ok () → b.2 = .ok () := by
  rw [results, List.pairwise_append]
  refine ⟨?_, ?_, ?_⟩
  · rw [List.pairwise_map]
    exact List.pairwise_of_forall fun _ _ hok => by cases hok
  · rw [List.pairwise_map]
    exact List.pairwise_of_forall fun _ _ _ => rfl
  · intro a _ b hb _
    obtain ⟨id, _, rfl⟩ := List.mem_map.mp hb
    rfl

theorem map_fst_results (w : Walk) :
    w.results.map Prod.fst = w.failures.map Prod.fst ++ w.order := by
  simp [results, Function.comp_def]

theorem map_fst_failed (w : Walk) :
    (w.results.filter fun r => !r.2.isOk).map Prod.fst = w.failures.map Prod.fst := by
  have hfailed : (w.failures.map fun f => (f.1, (.error f.2 : Except Failure Unit))).filter
      (fun r => !r.2.isOk) = w.failures.map fun f => (f.1, .error f.2) :=
    List.filter_eq_self.mpr fun r hr => by
      obtain ⟨f, _, rfl⟩ := List.mem_map.mp hr
      rfl
  have hpassed : (w.order.map fun id => (id, (.ok () : Except Failure Unit))).filter
      (fun r => !r.2.isOk) = [] :=
    List.filter_eq_nil_iff.mpr fun r hr => by
      obtain ⟨id, _, rfl⟩ := List.mem_map.mp hr
      simp [Except.isOk, Except.toBool]
  rw [results, List.filter_append, hfailed, hpassed]
  simp [Function.comp_def]

theorem Sound.accounts {w : Walk} {g : Graph} (distinct : g.ids.Nodup) (foreign : g.host.id ∉ g.ids)
    (h : w.Sound g g.nodes) : Accounts g w.results where
  once := by
    have hguests : g.ids.filter (· != g.host.id) = g.ids :=
      List.filter_eq_self.mpr fun id hid => bne_iff_ne.mpr fun heq => foreign (heq ▸ hid)
    rw [map_fst_results, ← hguests]
    exact h.perm_ids distinct
  success_iff := by
    intro n hn
    have guest : n.id ≠ g.host.id := fun heq => foreign (heq ▸ List.mem_map.mpr ⟨n, hn, rfl⟩)
    rw [Sound.mem_results_ok_iff, h.mem_order_iff, Graph.runs_iff distinct hn]
    exact ⟨And.right, fun hres => ⟨guest, hres⟩⟩
  failures_first := w.results_failures_first
  failures_in_order := by
    rw [map_fst_failed]
    exact h.sublist
  needs_first := by
    intro n hn hok d hd guest
    have hneed : d ∈ g.dependenciesOf n.id := (Graph.dependenciesOf_of_mem distinct hn).symm ▸ hd
    have hsub := h.sublist_order (Sound.mem_results_ok_iff.mp hok) hneed guest
    exact (hsub.map fun id => (id, (.ok () : Except Failure Unit))).trans
      (List.sublist_append_right _ _)

/-- A check of distinct plugins, none of which has the id of the host, is right whatever the walker
did before, and which of them succeed does not depend on the order in which they and their needs are
listed. -/
theorem again_accounts (w : Walk) (nodes : List Node) (distinct : (nodes.map Node.id).Nodup)
    (foreign : w.graph.host.id ∉ nodes.map Node.id) :
    Accounts ⟨w.graph.host, nodes⟩ (w.again nodes).results ∧
      ∀ (other : Walk) (others : List Node), other.graph.host = w.graph.host →
        Reordered nodes others → ∀ id,
          (id, .ok ()) ∈ (w.again nodes).results ↔ (id, .ok ()) ∈ (other.again others).results := by
  refine ⟨(w.again_sound distinct).accounts distinct foreign, ?_⟩
  intro other others hhost hreorder id
  have hdistinct : (others.map Node.id).Nodup := hreorder.ids_perm.nodup_iff.mp distinct
  have hone := w.again_sound distinct
  have htwo := other.again_sound hdistinct
  rw [hhost] at htwo
  rw [Sound.mem_results_ok_iff, Sound.mem_results_ok_iff, hone.mem_order_iff, htwo.mem_order_iff]
  exact and_congr_right fun _ => ⟨Graph.Runs.reorder hreorder, Graph.Runs.reorder hreorder.symm⟩

end Walk

namespace WalkWitness

def host : HostIdentity := ⟨"host", .ofNumbers 2 0 0⟩

/-- Two plugins that need each other, one that needs the host and one of those that run, one that
needs nothing, and one that asks for a version that is not there. -/
def nodes : List Node :=
  [⟨"east", .zero, [("west", .any)]⟩,
   ⟨"west", .zero, [("east", .any)]⟩,
   ⟨"chat", .zero, [("host", .any), ("core", .any)]⟩,
   ⟨"core", .zero, []⟩,
   ⟨"old", .zero, [("core", ⟨[⟨.greater, .zero, false⟩]⟩)]⟩]

/-- A walker that checked other nodes before. -/
def walker : Walk := (Walk.unstarted host).again nodes.tail

theorem reordered_reverse : Reordered nodes nodes.reverse :=
  ⟨nodes.reverse, nodes.reverse_perm.symm,
    List.forall₂_same.mpr fun _ _ => ⟨rfl, rfl, List.Perm.refl _⟩⟩

theorem walker_again_accounts :
    (nodes.map Node.id).Nodup ∧ walker.graph.host.id ∉ nodes.map Node.id ∧
      Walk.Accounts ⟨host, nodes⟩ (walker.again nodes).results ∧
      (("chat", .ok ()) ∈ (walker.again nodes).results ↔
        ("chat", .ok ()) ∈ ((Walk.unstarted host).again nodes.reverse).results) := by
  have hdistinct : (nodes.map Node.id).Nodup := by decide
  have hforeign : walker.graph.host.id ∉ nodes.map Node.id := by decide
  obtain ⟨haccounts, hany⟩ := walker.again_accounts nodes hdistinct hforeign
  exact ⟨hdistinct, hforeign, haccounts,
    hany (Walk.unstarted host) nodes.reverse rfl reordered_reverse "chat"⟩

example : (walker.again nodes).order = ["core", "chat"] := by decide

example : (walker.again nodes).failures.map Prod.fst = ["east", "west", "old"] := by decide

end WalkWitness

end PluginHost.Dependency
