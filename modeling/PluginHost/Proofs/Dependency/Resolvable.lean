import Mathlib.Data.List.Nodup
import Mathlib.Data.List.Perm.Basic
import Mathlib.Logic.Relation
import PluginHost.Dependency.Graph
import PluginHost.Proofs.Fallible

/-!
Which plugins can run at all, said without any search: the least set of nodes
whose needs are all met by the host or by other nodes of the set. The module
shows that no such node is part of a cycle, and that the set does not depend
on the order in which nodes or their needs are listed.
-/
namespace PluginHost.Dependency

mutual

/-- A node is resolvable when everything it needs is satisfied. -/
inductive Resolvable (g : Graph) : Node → Prop
  | of_satisfied {n : Node} (mem : n ∈ g.nodes)
      (needs : ∀ d ∈ n.dependencies, Satisfied g d) : Resolvable g n

/-- A need is satisfied by the host, or by a resolvable node, in a version that is accepted. The id
of the host always means the host. -/
inductive Satisfied (g : Graph) : String × Requirement → Prop
  | host {r : Requirement} (accepts : r.accepts g.host.version = true) :
      Satisfied g (g.host.id, r)
  | node {m : Node} {r : Requirement} (guest : m.id ≠ g.host.id)
      (accepts : r.accepts m.version = true) (resolvable : Resolvable g m) :
      Satisfied g (m.id, r)

end

theorem Resolvable.mem {g : Graph} {n : Node} (h : Resolvable g n) : n ∈ g.nodes := by
  cases h with
  | of_satisfied mem _ => exact mem

theorem Resolvable.satisfied {g : Graph} {n : Node} (h : Resolvable g n) :
    ∀ d ∈ n.dependencies, Satisfied g d := by
  cases h with
  | of_satisfied _ needs => exact needs

/-! ### Cycles -/

/-- A node of the first id declares the second one, which is not the host's. -/
def Graph.Needs (g : Graph) (a b : String) : Prop :=
  b ≠ g.host.id ∧ ∃ n ∈ g.nodes, n.id = a ∧ ∃ r, (b, r) ∈ n.dependencies

mutual

/-- Going from a resolvable node to what it needs comes to an end. Ids have to tell nodes apart, so
that a need leads to the node that satisfies it. -/
theorem Resolvable.acc {g : Graph} (distinct : g.ids.Nodup) {n : Node} :
    Resolvable g n → Acc (Function.swap g.Needs) n.id
  | .of_satisfied mem needs => by
      constructor
      rintro b ⟨hhost, m, hm, hid, r, hdep⟩
      have hsame : m = n := List.inj_on_of_nodup_map distinct hm mem hid
      have hneed : (b, r) ∈ n.dependencies := hsame ▸ hdep
      exact Satisfied.acc distinct (needs (b, r) hneed) hhost

theorem Satisfied.acc {g : Graph} (distinct : g.ids.Nodup) {d : String × Requirement} :
    Satisfied g d → d.1 ≠ g.host.id → Acc (Function.swap g.Needs) d.1
  | .host _, hhost => absurd rfl hhost
  | .node _ _ resolvable, _ => Resolvable.acc distinct resolvable

end

theorem not_self_of_acc {α : Type} {r : α → α → Prop} {a : α} (h : Acc r a) : ¬ r a a := by
  induction h with
  | intro a _ ih => exact fun hself => ih a hself hself

/-- A resolvable node does not need itself, not even through others. -/
theorem Resolvable.not_needs_self {g : Graph} (distinct : g.ids.Nodup) {n : Node}
    (h : Resolvable g n) : ¬ Relation.TransGen g.Needs n.id n.id := by
  intro hcycle
  have hswap : Relation.TransGen (Function.swap g.Needs) n.id n.id :=
    Relation.transGen_swap.mpr hcycle
  exact not_self_of_acc (h.acc distinct).transGen hswap

/-! ### Order of nodes and needs -/

/-- Two nodes that differ at most in the order of what they need. -/
structure Node.Similar (m n : Node) : Prop where
  id : m.id = n.id
  version : m.version = n.version
  dependencies : m.dependencies.Perm n.dependencies

theorem Node.Similar.symm {m n : Node} (h : m.Similar n) : n.Similar m :=
  ⟨h.id.symm, h.version.symm, h.dependencies.symm⟩

/-- Two lists of nodes that differ at most in the order of the nodes and of what each needs. -/
def Reordered (ms ns : List Node) : Prop :=
  ∃ mid, ms.Perm mid ∧ List.Forall₂ Node.Similar mid ns

theorem Reordered.symm {ms ns : List Node} (h : Reordered ms ns) : Reordered ns ms := by
  obtain ⟨mid, hperm, hsimilar⟩ := h
  have hback : List.Forall₂ Node.Similar ns mid :=
    (hsimilar.imp fun _ _ hsim => hsim.symm).flip
  have hcomp : Relation.Comp (List.Forall₂ Node.Similar) List.Perm ns ms :=
    ⟨mid, hback, hperm.symm⟩
  rw [List.forall₂_comp_perm_eq_perm_comp_forall₂] at hcomp
  exact hcomp

theorem Reordered.exists_similar {ms ns : List Node} (h : Reordered ms ns) {m : Node}
    (hm : m ∈ ms) : ∃ n ∈ ns, m.Similar n := by
  obtain ⟨mid, hperm, hsimilar⟩ := h
  exact Fallible.exists_of_forall₂ hsimilar (hperm.mem_iff.mp hm)

theorem Reordered.ids_perm {ms ns : List Node} (h : Reordered ms ns) :
    (ms.map Node.id).Perm (ns.map Node.id) := by
  obtain ⟨mid, hperm, hsimilar⟩ := h
  have hids : mid.map Node.id = ns.map Node.id := by
    induction hsimilar generalizing ms with
    | nil => rfl
    | cons hsim _ ih => rw [List.map_cons, List.map_cons, hsim.id, ih (List.Perm.refl _)]
  exact hids ▸ hperm.map Node.id

mutual

theorem Resolvable.reorder {host : HostIdentity} {ms ns : List Node} (h : Reordered ms ns)
    {m : Node} : Resolvable ⟨host, ms⟩ m → ∀ {n : Node}, n ∈ ns → m.Similar n →
      Resolvable ⟨host, ns⟩ n
  | .of_satisfied _ needs, _, hn, hsim =>
      .of_satisfied hn fun d hd =>
        Satisfied.reorder h (needs d (hsim.dependencies.mem_iff.mpr hd))

theorem Satisfied.reorder {host : HostIdentity} {ms ns : List Node} (h : Reordered ms ns)
    {d : String × Requirement} : Satisfied ⟨host, ms⟩ d → Satisfied ⟨host, ns⟩ d
  | .host accepts => .host accepts
  | .node guest accepts resolvable => by
      obtain ⟨n, hn, hsim⟩ := h.exists_similar resolvable.mem
      have hother : n.id ≠ host.id := hsim.id ▸ guest
      rw [hsim.version] at accepts
      rw [hsim.id]
      exact .node hother accepts (resolvable.reorder h hn hsim)

end

/-! ### Parts of a graph -/

mutual

/-- Nodes that resolve still do so in another graph that has them, if it has all those of the part
they need as well. -/
theorem Resolvable.transfer {g g' : Graph} {P : Node → Prop} (host : g'.host = g.host)
    (keep : ∀ n, Resolvable g n → P n → n ∈ g'.nodes)
    (down : ∀ n m r, n ∈ g.nodes → P n → (m.id, r) ∈ n.dependencies → Resolvable g m → P m)
    {n : Node} : Resolvable g n → P n → Resolvable g' n
  | .of_satisfied mem needs, hpart =>
      .of_satisfied (keep n (.of_satisfied mem needs) hpart) fun d hd =>
        Satisfied.transfer host keep down
          (fun m hid hres => down n m d.2 mem hpart (hid ▸ hd) hres) (needs d hd)

theorem Satisfied.transfer {g g' : Graph} {P : Node → Prop} (host : g'.host = g.host)
    (keep : ∀ n, Resolvable g n → P n → n ∈ g'.nodes)
    (down : ∀ n m r, n ∈ g.nodes → P n → (m.id, r) ∈ n.dependencies → Resolvable g m → P m)
    {d : String × Requirement} (part : ∀ m : Node, m.id = d.1 → Resolvable g m → P m) :
    Satisfied g d → Satisfied g' d
  | .host accepts => by
      rw [← host] at accepts ⊢
      exact .host accepts
  | @Satisfied.node _ m r guest accepts resolvable =>
      .node (host ▸ guest) accepts
        (Resolvable.transfer host keep down resolvable (part m rfl resolvable))

end

end PluginHost.Dependency
