import PluginHost.Proofs.Dependency.WalkSound

/-!
Who is affected by some plugins: they themselves and whatever declares one of
them, directly or through others. The set grows round by round, and after as
many rounds as there are nodes nothing is left to add. The module says who is
in the list a check gives, and in which order.
-/
namespace PluginHost.Dependency

namespace Graph

variable {g : Graph} {set : List String} {id : String}

/-- A node of the first id declares the second one, whatever that is. -/
def Declares (g : Graph) (a b : String) : Prop :=
  ∃ n ∈ g.nodes, n.id = a ∧ ∃ r, (b, r) ∈ n.dependencies

theorem Needs.declares {a b : String} (h : g.Needs a b) : g.Declares a b := h.2

theorem mem_dependentsOf_iff :
    id ∈ g.dependentsOf set ↔ id ∉ set ∧ ∃ b ∈ set, g.Declares id b := by
  simp only [dependentsOf, List.mem_map, List.mem_filter, Bool.and_eq_true, Bool.not_eq_true',
    List.contains_eq_mem, decide_eq_false_iff_not, List.any_eq_true, decide_eq_true_eq]
  constructor
  · rintro ⟨n, ⟨hn, hout, d, hd, hin⟩, rfl⟩
    exact ⟨hout, d.1, hin, n, hn, rfl, d.2, hd⟩
  · rintro ⟨hout, b, hb, n, hn, rfl, r, hr⟩
    exact ⟨n, ⟨hn, hout, (b, r), hr, hb⟩, rfl⟩

/-- Nothing outside a set declares something in it. -/
def Closed (g : Graph) (set : List String) : Prop :=
  ∀ a b, g.Declares a b → b ∈ set → a ∈ set

/-- The nodes that are not in a set yet. -/
def outside (g : Graph) (set : List String) : List Node :=
  g.nodes.filter fun n => !set.contains n.id

theorem dependentsOf_eq_nil_iff : g.dependentsOf set = [] ↔ g.Closed set := by
  rw [List.eq_nil_iff_forall_not_mem]
  constructor
  · intro hnone a b hdeclares hb
    by_contra hout
    exact hnone a (mem_dependentsOf_iff.mpr ⟨hout, b, hb, hdeclares⟩)
  · intro hclosed a ha
    obtain ⟨hout, b, hb, hdeclares⟩ := mem_dependentsOf_iff.mp ha
    exact hout (hclosed a b hdeclares hb)

/-- A round that adds something leaves fewer nodes outside. -/
theorem outside_withDependents_lt (hopen : ¬ g.Closed set) :
    (g.outside (g.withDependents set)).length < (g.outside set).length := by
  obtain ⟨id, hid⟩ := List.exists_mem_of_ne_nil _ (mt dependentsOf_eq_nil_iff.mp hopen)
  obtain ⟨hout, b, _, n, hn, rfl, _⟩ := mem_dependentsOf_iff.mp hid
  have hsplit : g.outside (g.withDependents set) =
      (g.outside set).filter fun n => !(g.withDependents set).contains n.id := by
    rw [outside, outside, List.filter_filter]
    apply List.filter_congr
    intro m _
    by_cases hm : m.id ∈ set <;> simp [withDependents, hm]
  rw [hsplit]
  apply List.length_filter_lt_length_iff_exists.mpr
  refine ⟨n, List.mem_filter.mpr ⟨hn, by simpa using hout⟩, ?_⟩
  simp [withDependents, hid]

theorem closed_or_outside_le (g : Graph) (set : List String) (rounds : Nat) :
    g.Closed (Nat.repeat g.withDependents rounds set) ∨
      (g.outside (Nat.repeat g.withDependents rounds set)).length + rounds ≤ g.nodes.length := by
  induction rounds with
  | zero => exact .inr (List.length_filter_le _ _)
  | succ rounds ih =>
      rw [Nat.repeat]
      by_cases hclosed : g.Closed (Nat.repeat g.withDependents rounds set)
      · left
        rw [withDependents, dependentsOf_eq_nil_iff.mpr hclosed, List.append_nil]
        exact hclosed
      · right
        have hless := outside_withDependents_lt hclosed
        have hbefore := ih.resolve_left hclosed
        omega

theorem closed_closure (g : Graph) (set : List String) : g.Closed (g.closure set) := by
  rcases g.closed_or_outside_le set g.nodes.length with hclosed | hcount
  · exact hclosed
  · have hnone : g.outside (g.closure set) = [] := List.length_eq_zero_iff.mp (by
      rw [closure]
      omega)
    rintro a b ⟨n, hn, rfl, _⟩ _
    have hin := List.filter_eq_nil_iff.mp hnone n hn
    simpa using hin

theorem mem_withDependents_iff : id ∈ g.withDependents set ↔
    id ∈ set ∨ id ∈ g.dependentsOf set := List.mem_append

theorem subset_repeat (g : Graph) (set : List String) (rounds : Nat) :
    set ⊆ Nat.repeat g.withDependents rounds set := by
  induction rounds with
  | zero => exact List.Subset.refl set
  | succ rounds ih => exact fun a ha => mem_withDependents_iff.mpr (.inl (ih ha))

theorem exists_of_mem_repeat {rounds : Nat} (h : id ∈ Nat.repeat g.withDependents rounds set) :
    ∃ s ∈ set, Relation.ReflTransGen g.Declares id s := by
  induction rounds generalizing id with
  | zero => exact ⟨id, h, .refl⟩
  | succ rounds ih =>
      rcases mem_withDependents_iff.mp h with hold | hnew
      · exact ih hold
      · obtain ⟨_, b, hb, hdeclares⟩ := mem_dependentsOf_iff.mp hnew
        obtain ⟨s, hs, hreach⟩ := ih hb
        exact ⟨s, hs, .head hdeclares hreach⟩

/-- What is added to a set is what leads to it along declared needs. -/
theorem mem_closure_iff :
    id ∈ g.closure set ↔ ∃ s ∈ set, Relation.ReflTransGen g.Declares id s := by
  constructor
  · exact exists_of_mem_repeat
  · rintro ⟨s, hs, hreach⟩
    induction hreach using Relation.ReflTransGen.head_induction_on with
    | refl => exact g.subset_repeat set _ hs
    | head hdeclares _ ih => exact g.closed_closure set _ _ hdeclares ih

end Graph

/-- Of two members of a list, one that must not stand behind the other stands in front of it. -/
theorem sublist_of_pairwise {α : Type} {r : α → α → Prop} {l : List α} {a b : α}
    (apart : l.Pairwise fun a b => ¬ r a b) (ha : a ∈ l) (hb : b ∈ l) (other : a ≠ b) (hr : r a b) :
    [b, a].Sublist l := by
  obtain ⟨front, tail, rfl⟩ := List.append_of_mem ha
  rcases List.mem_append.mp hb with hfront | hrest
  · exact (List.singleton_sublist.mpr hfront).append (List.singleton_sublist.mpr List.mem_cons_self)
  · rcases List.mem_cons.mp hrest with rfl | htail
    · exact absurd rfl other
    · exact absurd hr (List.rel_of_pairwise_cons (List.pairwise_append.mp apart).2.1 htail)

/-! ### The list of a check -/

namespace Walk

variable {g : Graph} {set : List String} {id : String}

theorem graph_visit (g : Graph) (w : Walk) (node : Node) : (w.visit g node).graph = w.graph := by
  unfold visit
  split
  · rfl
  · split <;> rfl

theorem graph_foldl_visit (g : Graph) (nodes : List Node) (w : Walk) :
    (nodes.foldl (visit g) w).graph = w.graph := by
  induction nodes generalizing w with
  | nil => rfl
  | cons node rest ih => exact (ih _).trans (graph_visit g w node)

@[simp] theorem graph_walk (g : Graph) : g.walk.graph = g :=
  graph_foldl_visit _ _ _

theorem mem_affected_iff (distinct : g.ids.Nodup) : id ∈ g.walk.affected set ↔
    id ∈ g.ids ∧ ∃ s ∈ set, Relation.ReflTransGen g.Declares id s := by
  have hids : id ∈ g.walk.order → id ∈ g.ids := by
    intro hid
    obtain ⟨_, n, hn, rfl, _⟩ := (walk_sound distinct).mem_order_iff.mp hid
    exact List.mem_map.mpr ⟨n, hn, rfl⟩
  simp only [affected, graph_walk, List.mem_append, List.mem_mergeSort, List.mem_filter,
    List.mem_eraseDups, Bool.and_eq_true, Bool.not_eq_true', List.contains_eq_mem,
    decide_eq_true_eq, decide_eq_false_iff_not, Graph.mem_closure_iff]
  constructor
  · rintro (⟨hid, hset, _⟩ | ⟨horder, hset⟩)
    · exact ⟨hid, hset⟩
    · exact ⟨hids horder, hset⟩
  · rintro ⟨hid, hset⟩
    by_cases horder : id ∈ g.walk.order
    · exact .inr ⟨horder, hset⟩
    · exact .inl ⟨hid, hset, horder⟩

theorem eraseDups_of_nodup {l : List String} (h : l.Nodup) : l.eraseDups = l := by
  induction l with
  | nil => rfl
  | cons a rest ih =>
      obtain ⟨hnew, hrest⟩ := List.nodup_cons.mp h
      have hkept : rest.filter (fun b => !b == a) = rest := by
        apply List.filter_eq_self.mpr
        intro b hb
        have hother : b ≠ a := fun heq => hnew (heq ▸ hb)
        simpa using hother
      rw [List.eraseDups_cons, hkept, ih hrest]

theorem nodup_affected (distinct : g.ids.Nodup) : (g.walk.affected set).Nodup := by
  rw [affected, graph_walk, eraseDups_of_nodup distinct]
  refine List.nodup_append.mpr ⟨?_, ?_, ?_⟩
  · exact (List.mergeSort_perm _ _).nodup_iff.mpr (distinct.filter _)
  · exact (walk_sound distinct).memo.nodup.filter _
  · rintro a ha b hb rfl
    have hout := (List.mem_filter.mp (List.mem_mergeSort.mp ha)).2
    have hin := (List.mem_filter.mp hb).1
    simp [hin] at hout

/-- Nothing that is affected and passed stands before something it needs. -/
theorem pairwise_affected (distinct : g.ids.Nodup) (set : List String) :
    (g.walk.affected set).Pairwise fun a b =>
      a ∈ g.walk.order → ¬ Relation.TransGen g.Needs a b := by
  have hmemo := (walk_sound distinct).memo
  have hstuck : ∀ a ∈ (g.ids.eraseDups.filter fun id => (g.closure set).contains id &&
      !g.walk.order.contains id).mergeSort fun a b => !decide (b < a), a ∉ g.walk.order := by
    intro a ha hpassed
    have hkept := (List.mem_filter.mp (List.mem_mergeSort.mp ha)).2
    simp [hpassed] at hkept
  rw [affected, graph_walk]
  refine List.pairwise_append.mpr ⟨?_, ?_, fun a ha _ _ hpassed => absurd hpassed (hstuck a ha)⟩
  · exact List.pairwise_of_forall_mem_list fun a ha _ _ hpassed => absurd hpassed (hstuck a ha)
  · have hordered := (hmemo.ordered.pairwise distinct hmemo.nodup).sublist
      (List.filter_sublist (p := fun id => (g.closure set).contains id))
    refine hordered.imp ?_
    intro a b hbehind _
    exact hbehind

end Walk

end PluginHost.Dependency
