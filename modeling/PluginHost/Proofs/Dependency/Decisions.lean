import PluginHost.Dependency.Search
import PluginHost.Proofs.Dependency.Moves
import PluginHost.Proofs.Dependency.Resolvable

/-!
When the decisions of a check are right: what passed is resolvable and is
listed behind everything it needs, and what failed is not resolvable. The
module says how each single decision keeps them right.
-/
namespace PluginHost.Dependency

namespace Graph

variable {g : Graph}

theorem node?_of_mem (distinct : g.ids.Nodup) {n : Node} (hn : n ∈ g.nodes) :
    g.node? n.id = some n := by
  cases hnode : g.node? n.id with
  | none =>
      rw [node?, List.find?_eq_none] at hnode
      have hmiss := hnode n (List.mem_reverse.mpr hn)
      simp at hmiss
  | some m =>
      obtain ⟨hm, hid⟩ := node?_sound hnode
      rw [List.inj_on_of_nodup_map distinct hm hn hid]

theorem dependenciesOf_of_mem (distinct : g.ids.Nodup) {n : Node} (hn : n ∈ g.nodes) :
    g.dependenciesOf n.id = n.dependencies := by
  simp [dependenciesOf, node?_of_mem distinct hn]

theorem version?_of_mem (distinct : g.ids.Nodup) {n : Node} (hn : n ∈ g.nodes)
    (guest : n.id ≠ g.host.id) : g.version? n.id = some n.version := by
  simp [g.version?_guest guest, node?_of_mem distinct hn]

theorem needs_of_mem_dependenciesOf {id : String} {d : String × Requirement}
    (hd : d ∈ g.dependenciesOf id) (guest : d.1 ≠ g.host.id) : g.Needs id d.1 := by
  cases hnode : g.node? id with
  | none => simp [dependenciesOf, hnode] at hd
  | some n =>
      obtain ⟨hn, hid⟩ := node?_sound hnode
      simp only [dependenciesOf, hnode, Option.map_some, Option.getD_some] at hd
      exact ⟨guest, n, hn, hid, d.2, hd⟩

/-- The plugin under an id is there and resolvable. -/
def Runs (g : Graph) (id : String) : Prop :=
  ∃ n ∈ g.nodes, n.id = id ∧ Resolvable g n

theorem runs_iff (distinct : g.ids.Nodup) {n : Node} (hn : n ∈ g.nodes) :
    g.Runs n.id ↔ Resolvable g n := by
  constructor
  · rintro ⟨m, hm, hid, hres⟩
    rwa [List.inj_on_of_nodup_map distinct hm hn hid] at hres
  · exact fun hres => ⟨n, hn, rfl, hres⟩

theorem runs_iff_satisfied (distinct : g.ids.Nodup) {id : String} (hid : id ∈ g.ids) :
    g.Runs id ↔ ∀ d ∈ g.dependenciesOf id, Satisfied g d := by
  obtain ⟨n, hn, rfl⟩ := List.mem_map.mp hid
  rw [runs_iff distinct hn, dependenciesOf_of_mem distinct hn]
  exact ⟨Resolvable.satisfied, .of_satisfied hn⟩

theorem Runs.reorder {host : HostIdentity} {ms ns : List Node} (h : Reordered ms ns) {id : String}
    (hruns : Graph.Runs ⟨host, ms⟩ id) : Graph.Runs ⟨host, ns⟩ id := by
  obtain ⟨m, hm, rfl, hres⟩ := hruns
  obtain ⟨n, hn, hsim⟩ := h.exists_similar hm
  exact ⟨n, hn, hsim.id.symm, hres.reorder h hn hsim⟩

end Graph

/-! ### Needs that are not satisfied -/

section

variable {g : Graph}

theorem Satisfied.host_or_runs {d : String × Requirement} (h : Satisfied g d) :
    d.1 = g.host.id ∨ g.Runs d.1 := by
  cases h with
  | host _ => exact .inl rfl
  | node _ _ resolvable => exact .inr ⟨_, resolvable.mem, rfl, resolvable⟩

theorem Satisfied.checkVersion (distinct : g.ids.Nodup) {d : String × Requirement}
    (h : Satisfied g d) : g.checkVersion d.1 (some d.2) = .ok () := by
  rw [Graph.checkVersion_eq_ok_iff]
  cases h with
  | host accepts => exact ⟨g.host.version, g.version?_host, fun r hr => by simp_all⟩
  | @node m r guest accepts resolvable =>
      exact ⟨m.version, Graph.version?_of_mem distinct resolvable.mem guest,
        fun r hr => by simp_all⟩

/-- A plugin that needs itself, be it through others, does not run. -/
theorem not_runs_of_needs_self (distinct : g.ids.Nodup) {id : String}
    (h : Relation.TransGen g.Needs id id) : ¬ g.Runs id := by
  rintro ⟨n, _, rfl, hres⟩
  exact hres.not_needs_self distinct h

end

/-! ### Right decisions -/

/-- A list of plugins each of which stands behind all it needs. -/
inductive Ordered (g : Graph) : List String → Prop
  | nil : Ordered g []
  | snoc {order : List String} {id : String} (earlier : Ordered g order)
      (behind : ∀ d ∈ g.dependenciesOf id, d.1 ≠ g.host.id → d.1 ∈ order) :
      Ordered g (order ++ [id])

theorem Ordered.sublist {g : Graph} {order : List String} (h : Ordered g order) {id : String}
    (hid : id ∈ order) {d : String × Requirement} (hd : d ∈ g.dependenciesOf id)
    (guest : d.1 ≠ g.host.id) : [d.1, id].Sublist order := by
  induction h with
  | nil => simp at hid
  | @snoc order last _ behind ih =>
      rcases List.mem_append.mp hid with hold | hlast
      · exact (ih hold).trans (List.sublist_append_left order [last])
      · rw [List.mem_singleton] at hlast
        subst hlast
        have hneed : [d.1].Sublist order := List.singleton_sublist.mpr (behind d hd guest)
        exact hneed.append (List.Sublist.refl [id])

/-- In such a list nothing stands before something it needs, be it through others. -/
theorem Ordered.pairwise {g : Graph} (distinct : g.ids.Nodup) {order : List String}
    (h : Ordered g order) (nodup : order.Nodup) :
    order.Pairwise fun a b => ¬ Relation.TransGen g.Needs a b := by
  induction h with
  | nil => exact .nil
  | @snoc order last earlier behind ih =>
      obtain ⟨hnodup, _, happart⟩ := List.nodup_append.mp nodup
      refine List.pairwise_append.mpr ⟨ih hnodup, List.pairwise_singleton _ _, ?_⟩
      intro a ha b hb hreach
      -- Whatever an earlier plugin needs is earlier still.
      have hclosed : ∀ c, Relation.TransGen g.Needs a c → c ∈ order := by
        intro c hc
        have hstep : ∀ c ∈ order, ∀ d, g.Needs c d → d ∈ order := by
          rintro c hc d ⟨guest, n, hn, rfl, r, hr⟩
          rw [← Graph.dependenciesOf_of_mem distinct hn] at hr
          exact (earlier.sublist hc hr guest).subset (by simp)
        induction hc with
        | single hneeds => exact hstep a ha _ hneeds
        | tail _ hneeds ih => exact hstep _ ih _ hneeds
      exact happart b (hclosed b hreach) b hb rfl

namespace Memo

/-- Later decisions take none back. -/
def Grows (before after : Memo) : Prop :=
  ∀ id mark, before.mark? id = some mark → after.mark? id = some mark

theorem Grows.refl (memo : Memo) : memo.Grows memo := fun _ _ h => h

theorem Grows.trans {a b c : Memo} (hab : a.Grows b) (hbc : b.Grows c) : a.Grows c :=
  fun id mark h => hbc id mark (hab id mark h)

theorem Grows.undecided {before after : Memo} (h : before.Grows after) {id : String}
    (hafter : after.mark? id = none) : before.mark? id = none := by
  cases hbefore : before.mark? id with
  | none => rfl
  | some mark => exact absurd ((h id mark hbefore).symm.trans hafter) (by simp)

theorem grows_cons {memo : Memo} {id : String} (mark : Mark) (order : List String)
    (h : memo.mark? id = none) : memo.Grows ⟨(id, mark) :: memo.marks, order⟩ := by
  intro other old hold
  rw [mark?_cons]
  by_cases hother : other = id
  · rw [hother, h] at hold
    cases hold
  · rw [if_neg hother]
    exact hold

/-- All decisions are right. -/
structure Sound (g : Graph) (memo : Memo) : Prop where
  pass_mem : ∀ id, memo.mark? id = some .pass → id ≠ g.host.id → id ∈ memo.order
  mem_pass : ∀ id ∈ memo.order, memo.mark? id = some .pass
  nodup : memo.order.Nodup
  ordered : Ordered g memo.order
  runs : ∀ id ∈ memo.order, id ≠ g.host.id ∧ g.Runs id
  fails : ∀ id cause, memo.mark? id = some (.fail cause) → id ≠ g.host.id ∧ ¬ g.Runs id

theorem Sound.empty (g : Graph) : Memo.empty.Sound g where
  pass_mem := by simp [Memo.empty, mark?]
  mem_pass := by simp [Memo.empty]
  nodup := List.nodup_nil
  ordered := .nil
  runs := by simp [Memo.empty]
  fails := by simp [Memo.empty, mark?]

theorem Sound.add_host {g : Graph} {memo : Memo} (h : memo.Sound g)
    (mark : memo.mark? g.host.id = none) :
    Sound g ⟨(g.host.id, .pass) :: memo.marks, memo.order⟩ where
  pass_mem := by
    intro id hid guest
    rw [mark?_cons, if_neg guest] at hid
    exact h.pass_mem id hid guest
  mem_pass := fun id hid => grows_cons _ _ mark id _ (h.mem_pass id hid)
  nodup := h.nodup
  ordered := h.ordered
  runs := h.runs
  fails := by
    intro id cause hid
    rw [mark?_cons] at hid
    by_cases hhost : id = g.host.id
    · simp [hhost] at hid
    · rw [if_neg hhost] at hid
      exact h.fails id cause hid

theorem Sound.add_fail {g : Graph} {memo : Memo} (h : memo.Sound g) {id : String}
    (cause : Failure) (mark : memo.mark? id = none) (guest : id ≠ g.host.id)
    (stuck : ¬ g.Runs id) : Sound g ⟨(id, .fail cause) :: memo.marks, memo.order⟩ where
  pass_mem := by
    intro other hother
    rw [mark?_cons] at hother
    by_cases hsame : other = id
    · simp [hsame] at hother
    · rw [if_neg hsame] at hother
      exact h.pass_mem other hother
  mem_pass := fun other hother => grows_cons _ _ mark other _ (h.mem_pass other hother)
  nodup := h.nodup
  ordered := h.ordered
  runs := h.runs
  fails := by
    intro other why hother
    rw [mark?_cons] at hother
    by_cases hsame : other = id
    · exact hsame ▸ ⟨guest, stuck⟩
    · rw [if_neg hsame] at hother
      exact h.fails other why hother

theorem Sound.add_pass {g : Graph} {memo : Memo} (h : memo.Sound g) {id : String}
    (mark : memo.mark? id = none) (guest : id ≠ g.host.id) (runs : g.Runs id)
    (behind : ∀ d ∈ g.dependenciesOf id, d.1 ≠ g.host.id → d.1 ∈ memo.order) :
    Sound g ⟨(id, .pass) :: memo.marks, memo.order ++ [id]⟩ where
  pass_mem := by
    intro other hother hguest
    rw [mark?_cons] at hother
    by_cases hsame : other = id
    · simp [hsame]
    · rw [if_neg hsame] at hother
      exact List.mem_append_left _ (h.pass_mem other hother hguest)
  mem_pass := by
    intro other hother
    rcases List.mem_append.mp hother with hold | hnew
    · exact grows_cons _ _ mark other _ (h.mem_pass other hold)
    · rw [List.mem_singleton.mp hnew]
      simp
  nodup := by
    have hnew : id ∉ memo.order := by
      intro hmem
      rw [h.mem_pass id hmem] at mark
      cases mark
    exact List.nodup_append.mpr ⟨h.nodup, List.nodup_singleton id, by
      intro a ha b hb
      rw [List.mem_singleton.mp hb]
      exact fun hab => hnew (hab ▸ ha)⟩
  ordered := .snoc h.ordered behind
  runs := by
    intro other hother
    rcases List.mem_append.mp hother with hold | hnew
    · exact h.runs other hold
    · rw [List.mem_singleton.mp hnew]
      exact ⟨guest, runs⟩
  fails := by
    intro other why hother
    rw [mark?_cons] at hother
    by_cases hsame : other = id
    · simp [hsame] at hother
    · rw [if_neg hsame] at hother
      exact h.fails other why hother

/-- A need whose plugin passed, in an accepted version. -/
def Met (g : Graph) (memo : Memo) (d : String × Requirement) : Prop :=
  memo.mark? d.1 = some .pass ∧ g.checkVersion d.1 (some d.2) = .ok ()

theorem Met.grow {g : Graph} {before after : Memo} (h : before.Grows after)
    {d : String × Requirement} (hd : before.Met g d) : after.Met g d :=
  ⟨h d.1 .pass hd.1, hd.2⟩

theorem Sound.satisfied {g : Graph} (distinct : g.ids.Nodup) {memo : Memo} (h : memo.Sound g)
    {d : String × Requirement} (hd : memo.Met g d) : Satisfied g d := by
  obtain ⟨id, r⟩ := d
  obtain ⟨hpass, hversion⟩ := hd
  obtain ⟨v, hv, haccepts⟩ := Graph.checkVersion_eq_ok_iff.mp hversion
  have hr : r.accepts v = true := haccepts r rfl
  by_cases hhost : id = g.host.id
  · subst hhost
    rw [g.version?_host, Option.some.injEq] at hv
    exact .host (hv ▸ hr)
  · obtain ⟨guest, n, hn, rfl, hres⟩ := h.runs id (h.pass_mem id hpass hhost)
    rw [Graph.version?_of_mem distinct hn guest, Option.some.injEq] at hv
    exact .node guest (hv ▸ hr) hres

end Memo

end PluginHost.Dependency
