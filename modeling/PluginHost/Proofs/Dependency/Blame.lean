import Mathlib.Data.List.Chain
import Mathlib.Data.List.TakeWhile
import PluginHost.Proofs.Dependency.SearchSound

/-!
What a failure may say. It is about one need of the plugin that failed: there
is nothing under its id, or only a version that is refused, or something that
failed itself, or a way that leads back to where it started. However often a
failure was handed on, at its root is one of these that the plugin can reach.
-/
namespace PluginHost.Dependency

/-- A way along declared needs from a plugin back to it that meets no plugin twice in between. -/
structure Graph.Cycle (g : Graph) (id : String) (path : List String) : Prop where
  ends : ∃ inner, path = id :: inner ++ [id]
  nodup : path.dropLast.Nodup
  declared : path.IsChain g.Needs

/-- What the failure of a plugin may say about one of its needs, given what is reported about
others: the need is missing, its version is refused, it failed for a reason that is told or handed
on, or it closes a cycle through the plugin. -/
inductive Blames (g : Graph) (reported : String → Failure → Prop) (id : String)
    (need : String × Requirement) : Failure → Prop
  | missing (foreign : need.1 ≠ g.host.id) (unknown : need.1 ∉ g.ids) :
      Blames g reported id need (.notFound need.1)
  | version {v : Version} (found : g.version? need.1 = some v)
      (rejects : need.2.accepts v = false) : Blames g reported id need (.notMet need.1 need.2 v)
  | parent {cause : Failure} (failed : reported need.1 cause) :
      Blames g reported id need (.parentFailed need.1 cause)
  | handedOn {cause : Failure} (failed : reported need.1 cause) : Blames g reported id need cause
  | loop {path : List String} (cycle : g.Cycle need.1 path) (member : id ∈ path) :
      Blames g reported id need (.loop need.1 path)

/-- A root cause that is there, and that a plugin reaches along what is declared. -/
inductive Graph.RealCause (g : Graph) (id : String) : Failure → Prop
  | missing {n : Node} {need : String × Requirement} (mem : n ∈ g.nodes)
      (reach : Relation.ReflTransGen g.Needs id n.id) (declared : need ∈ n.dependencies)
      (foreign : need.1 ≠ g.host.id) (unknown : need.1 ∉ g.ids) :
      g.RealCause id (.notFound need.1)
  | version {n : Node} {need : String × Requirement} {v : Version} (mem : n ∈ g.nodes)
      (reach : Relation.ReflTransGen g.Needs id n.id) (declared : need ∈ n.dependencies)
      (found : g.version? need.1 = some v) (rejects : need.2.accepts v = false) :
      g.RealCause id (.notMet need.1 need.2 v)
  | loop {start : String} {path : List String} (reach : Relation.ReflTransGen g.Needs id start)
      (cycle : g.Cycle start path) : g.RealCause id (.loop start path)

namespace Graph

variable {g : Graph} {id : String} {path : List String}

theorem RealCause.before {a : String} {cause : Failure} (h : g.RealCause id cause)
    (needs : g.Needs a id) : g.RealCause a cause := by
  cases h with
  | missing mem reach declared foreign unknown =>
      exact .missing mem (.head needs reach) declared foreign unknown
  | version mem reach declared found rejects =>
      exact .version mem (.head needs reach) declared found rejects
  | loop reach cycle => exact .loop (.head needs reach) cycle

theorem RealCause.unknown {missing : String} (h : g.RealCause id (.notFound missing)) :
    missing ∉ g.ids := by
  cases h with
  | missing _ _ _ _ unknown => exact unknown

theorem Needs.mem_ids {a b : String} (h : g.Needs a b) : a ∈ g.ids := by
  obtain ⟨_, n, hn, rfl, _⟩ := h
  exact List.mem_map.mpr ⟨n, hn, rfl⟩

theorem transGen_of_isChain {a b : String} {inner : List String}
    (h : (a :: inner ++ [b]).IsChain g.Needs) : Relation.TransGen g.Needs a b := by
  induction inner generalizing a with
  | nil => exact .single (List.isChain_cons_cons.mp h).1
  | cons next rest ih =>
      rw [List.cons_append, List.cons_append, List.isChain_cons_cons] at h
      exact .head h.1 (ih h.2)

theorem Cycle.needs_self (h : g.Cycle id path) : Relation.TransGen g.Needs id id := by
  obtain ⟨⟨inner, rfl⟩, _, hchain⟩ := h
  exact transGen_of_isChain hchain

theorem Cycle.mem_ids (h : g.Cycle id path) : id ∈ g.ids := by
  obtain ⟨next, hnext, _⟩ := Relation.TransGen.head'_iff.mp h.needs_self
  exact hnext.mem_ids

theorem Cycle.guest (h : g.Cycle id path) : id ≠ g.host.id := by
  obtain ⟨last, _, hlast⟩ := Relation.TransGen.tail'_iff.mp h.needs_self
  exact hlast.1

theorem version?_eq_none_iff : g.version? id = none ↔ id ≠ g.host.id ∧ id ∉ g.ids := by
  by_cases hhost : id = g.host.id
  · simp [version?, hhost]
  · simp [version?, hhost, node?, ids]

/-- A version that is refused is missing, or one that the requirement does not accept. -/
theorem checkVersion_eq_error {r : Requirement} {cause : Failure}
    (h : g.checkVersion id (some r) = .error cause) :
    (id ≠ g.host.id ∧ id ∉ g.ids) ∧ cause = .notFound id ∨
      ∃ v, g.version? id = some v ∧ r.accepts v = false ∧ cause = .notMet id r v := by
  unfold checkVersion at h
  split at h
  · next hnone =>
      cases h
      exact .inl ⟨version?_eq_none_iff.mp hnone, rfl⟩
  · next v hv =>
      dsimp only at h
      split at h
      · cases h
      · next hrejects =>
          cases h
          exact .inr ⟨v, hv, Bool.eq_false_iff.mpr hrejects, rfl⟩

theorem blames_of_checkVersion {reported : String → Failure → Prop} {need : String × Requirement}
    {cause : Failure} (h : g.checkVersion need.1 (some need.2) = .error cause) :
    Blames g reported id need cause := by
  rcases checkVersion_eq_error h with ⟨⟨hforeign, hunknown⟩, rfl⟩ | ⟨v, hv, hrejects, rfl⟩
  · exact .missing hforeign hunknown
  · exact .version hv hrejects

theorem realCause_of_checkVersion {need : String × Requirement} {cause : Failure}
    (declared : need ∈ g.dependenciesOf id)
    (h : g.checkVersion need.1 (some need.2) = .error cause) : g.RealCause id cause.root := by
  cases hnode : g.node? id with
  | none => simp [dependenciesOf, hnode] at declared
  | some n =>
      obtain ⟨hn, rfl⟩ := node?_sound hnode
      simp only [dependenciesOf, hnode, Option.map_some, Option.getD_some] at declared
      rcases checkVersion_eq_error h with ⟨⟨hforeign, hunknown⟩, rfl⟩ | ⟨v, hv, hrejects, rfl⟩
      · exact .missing hn .refl declared hforeign hunknown
      · exact .version hn .refl declared hv hrejects

end Graph

theorem Blames.mono {g : Graph} {reported later : String → Failure → Prop} {id : String}
    {need : String × Requirement} {cause : Failure}
    (h : ∀ id cause, reported id cause → later id cause)
    (hblames : Blames g reported id need cause) : Blames g later id need cause := by
  cases hblames with
  | missing foreign unknown => exact .missing foreign unknown
  | version found rejects => exact .version found rejects
  | parent failed => exact .parent (h _ _ failed)
  | handedOn failed => exact .handedOn (h _ _ failed)
  | loop cycle member => exact .loop cycle member

/-! ### Cycles on a stack -/

variable {g : Graph} {root id : String} {memo : Memo} {stack : List Frame}

/-- A stack is a way along declared needs to what it waits for. -/
theorem Waits.isChain (hw : Waits g root memo stack id)
    (guests : ∀ f ∈ stack, f.id ≠ g.host.id) (guest : id ≠ g.host.id) :
    ((stack.map Frame.id).reverse ++ [id]).IsChain g.Needs := by
  induction hw with
  | root => exact .singleton _
  | @need top below id r done declared _ _ _ ih =>
      have hdeclared : (id, r) ∈ g.dependenciesOf top.id := by simp [declared]
      have htop : g.Needs top.id id := Graph.needs_of_mem_dependenciesOf hdeclared guest
      have hbelow := ih (fun f hf => guests f (List.mem_cons_of_mem top hf))
        (guests top List.mem_cons_self)
      rw [List.map_cons, List.reverse_cons, List.append_assoc, List.singleton_append,
        List.isChain_append_cons_cons]
      exact ⟨hbelow, htop, .singleton id⟩

/-- The upper part of a stack from a plugin on, closed by what the topmost one needs of that plugin,
is a cycle. -/
theorem cycle_of_stack {way : List String} {last : String} (nodup : (way ++ [last]).Nodup)
    (chain : (way ++ [last]).IsChain g.Needs) (visited : id ∈ way ++ [last])
    (needs : g.Needs last id) :
    g.Cycle id ((way ++ [last]).dropWhile (· != id) ++ [id]) ∧
      last ∈ (way ++ [last]).dropWhile (· != id) ++ [id] := by
  have hsuffix := List.dropWhile_suffix (l := way ++ [last]) (· != id)
  have hne : (way ++ [last]).dropWhile (· != id) ≠ [] := by
    intro hnil
    rw [List.dropWhile_eq_nil_iff] at hnil
    simpa using hnil id visited
  have hhead := List.head_dropWhile_not (· != id) hne
  have hlast := hsuffix.getLast hne
  rw [List.getLast_append_singleton] at hlast
  generalize (way ++ [last]).dropWhile (· != id) = tail at hsuffix hne hhead hlast
  obtain ⟨first, inner, rfl⟩ := List.exists_cons_of_ne_nil hne
  have hfirst : first = id := by simpa using hhead
  subst hfirst
  have hmem : last ∈ first :: inner := hlast ▸ List.getLast_mem hne
  refine ⟨⟨⟨inner, rfl⟩, ?_, ?_⟩, List.mem_append_left _ hmem⟩
  · rw [List.dropLast_concat]
    exact nodup.sublist hsuffix.sublist
  · rw [List.isChain_append]
    refine ⟨chain.suffix hsuffix, .singleton first, ?_⟩
    intro x hx y hy
    rw [List.getLast?_eq_getLast_of_ne_nil hne, hlast, Option.mem_some_iff] at hx
    rw [List.head?_cons, Option.mem_some_iff] at hy
    exact hx ▸ hy ▸ needs

end PluginHost.Dependency
