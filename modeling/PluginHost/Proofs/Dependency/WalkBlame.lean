import PluginHost.Proofs.Dependency.SearchBlame
import PluginHost.Proofs.Dependency.WalkSound

/-!
The failures a check reports are true. It reports for each plugin the cause
that was noted for it, so what one report says about another plugin is what
that plugin's own report says; and that cause blames the first need of the
plugin that is not satisfied.
-/
namespace PluginHost.Dependency

namespace Walk

/-- A check whose reports are what was noted, all of it explained. -/
structure Truthful (g : Graph) (w : Walk) : Prop where
  explains : w.memo.Explains g
  noted : ∀ f ∈ w.failures, w.memo.Reports f.1 f.2

namespace Truthful

variable {g : Graph} {seen : List Node} {w : Walk}

theorem visit (distinct : g.ids.Nodup) (hsound : w.Sound g seen) (h : w.Truthful g) {node : Node}
    (hnode : node ∈ g.nodes) : (w.visit g node).Truthful g := by
  have hid : node.id ∈ g.ids := List.mem_map.mpr ⟨node, hnode, rfl⟩
  by_cases hfail : ∃ cause, w.memo.Reports node.id cause
  · obtain ⟨cause, hcause⟩ := hfail
    have hmark : w.memo.mark? node.id = some (.fail cause) := hcause
    have hvisit : w.visit g node = { w with failures := w.failures ++ [(node.id, cause)] } := by
      simp [Walk.visit, hmark]
    rw [hvisit]
    refine ⟨h.explains, ?_⟩
    intro f hf
    rcases List.mem_append.mp hf with hold | hnew
    · exact h.noted f hold
    · rw [List.mem_singleton.mp hnew]
      exact hcause
  · have hopen : ∀ cause, ¬ w.memo.Reports node.id cause :=
      fun cause hcause => hfail ⟨cause, hcause⟩
    obtain ⟨hgrows, _, _⟩ := Graph.resolve_sound distinct hsound.memo hid
    obtain ⟨hexplains, hresult⟩ :=
      Graph.resolve_explains distinct hsound.memo h.explains hid hopen
    cases hresolve : g.resolve w.memo node.id with
    | mk result after =>
        rw [hresolve] at hgrows hexplains hresult
        cases result with
        | ok _ =>
            rw [visit_pass hopen hresolve]
            exact ⟨hexplains, fun f hf => hgrows f.1 _ (h.noted f hf)⟩
        | error cause =>
            rw [visit_fail hopen hresolve]
            refine ⟨hexplains, ?_⟩
            intro f hf
            rcases List.mem_append.mp hf with hold | hnew
            · exact hgrows f.1 _ (h.noted f hold)
            · rw [List.mem_singleton.mp hnew]
              exact hresult cause rfl

theorem foldl (distinct : g.ids.Nodup) (hsound : w.Sound g seen) (h : w.Truthful g)
    {rest : List Node} (hrest : ∀ n ∈ rest, n ∈ g.nodes) :
    (rest.foldl (Walk.visit g) w).Truthful g := by
  induction rest generalizing seen w with
  | nil => exact h
  | cons node rest ih =>
      have hnode := hrest node List.mem_cons_self
      exact ih (hsound.visit distinct hnode) (h.visit distinct hsound hnode)
        fun n hn => hrest n (List.mem_cons_of_mem node hn)

end Truthful

theorem again_truthful (w : Walk) {nodes : List Node} (distinct : (nodes.map Node.id).Nodup) :
    (w.again nodes).Truthful ⟨w.graph.host, nodes⟩ := by
  have hsound : Sound ⟨w.graph.host, nodes⟩ [] ⟨⟨w.graph.host, nodes⟩, [], .empty⟩ :=
    ⟨Memo.Sound.empty _, List.Sublist.refl [], by simp, by simp⟩
  have hstart : Truthful ⟨w.graph.host, nodes⟩ ⟨⟨w.graph.host, nodes⟩, [], .empty⟩ :=
    ⟨by simp [Memo.Explains, Memo.Reports, Memo.empty, Memo.mark?], by simp⟩
  have hdistinct : (Graph.ids ⟨w.graph.host, nodes⟩).Nodup := distinct
  exact hstart.foldl hdistinct hsound fun n hn => hn

/-! ### What is reported -/

theorem mem_results_error_iff {w : Walk} {id : String} {cause : Failure} :
    (id, .error cause) ∈ w.results ↔ (id, cause) ∈ w.failures := by
  simp [results]

/-- What was noted about a plugin is what is reported about it. -/
theorem Truthful.reports_iff {g : Graph} {w : Walk} (h : w.Truthful g) (hsound : w.Sound g g.nodes)
    {id : String} {cause : Failure} :
    w.memo.Reports id cause ↔ (id, .error cause) ∈ w.results := by
  rw [mem_results_error_iff]
  constructor
  · intro hreports
    obtain ⟨n, hn, rfl⟩ := List.mem_map.mp (h.explains id cause hreports).1
    obtain ⟨f, hf, hid⟩ := List.mem_map.mp ((hsound.failed_iff n hn).mpr ⟨cause, hreports⟩)
    have hnoted : w.memo.mark? f.1 = some (.fail f.2) := h.noted f hf
    have hmark : w.memo.mark? n.id = some (.fail cause) := hreports
    rw [hid, hmark, Option.some.injEq, Mark.fail.injEq] at hnoted
    rw [hnoted, ← hid]
    exact hf
  · exact fun hf => h.noted (id, cause) hf

/-- A need that is not satisfied: there is nothing under its id, or the version there is refused, or
it is reported as a failure itself. -/
def Unmet (g : Graph) (results : List (String × Except Failure Unit))
    (d : String × Requirement) : Prop :=
  (d.1 ≠ g.host.id ∧ d.1 ∉ g.ids) ∨
    (∃ v, g.version? d.1 = some v ∧ d.2.accepts v = false) ∨
    ∃ cause, (d.1, .error cause) ∈ results

/-- The first need of a node, in the order it declares them, that is not satisfied. -/
def FirstUnmet (g : Graph) (results : List (String × Except Failure Unit)) (n : Node)
    (d : String × Requirement) : Prop :=
  ∃ before behind, n.dependencies = before ++ d :: behind ∧
    (∀ b ∈ before, ¬ Unmet g results b) ∧ Unmet g results d

theorem FirstUnmet.unique {g : Graph} {results : List (String × Except Failure Unit)} {n : Node}
    {c d : String × Requirement} (hc : FirstUnmet g results n c) (hd : FirstUnmet g results n d) :
    c = d := by
  obtain ⟨before, behind, hsplit, hmet, hunmet⟩ := hc
  obtain ⟨before', behind', hsplit', hmet', hunmet'⟩ := hd
  rw [hsplit] at hsplit'
  rcases List.append_eq_append_iff.mp hsplit' with ⟨mid, rfl, hmid⟩ | ⟨mid, rfl, hmid⟩
  · cases mid with
    | nil => exact (List.cons.inj hmid).1
    | cons x rest =>
        obtain ⟨rfl, _⟩ := List.cons.inj hmid
        exact absurd hunmet (hmet' c (by simp))
  · cases mid with
    | nil => exact (List.cons.inj hmid).1.symm
    | cons x rest =>
        obtain ⟨rfl, _⟩ := List.cons.inj hmid
        exact absurd hunmet' (hmet d (by simp))

/-- A true report of a failure: it blames the first need that is not satisfied, calls it missing
exactly when it is, and has a real cause at its root. -/
structure Justifies (g : Graph) (results : List (String × Except Failure Unit)) (n : Node)
    (cause : Failure) : Prop where
  unmet : ∃ d, FirstUnmet g results n d
  blames : ∀ d, FirstUnmet g results n d →
    Blames g (fun id cause => (id, .error cause) ∈ results) n.id d cause
  missing_iff : ∀ d, FirstUnmet g results n d →
    (cause = .notFound d.1 ↔ d.1 ≠ g.host.id ∧ d.1 ∉ g.ids)
  real : g.RealCause n.id cause.root

section

variable {g : Graph} {w : Walk} {n : Node} {need : String × Requirement} {cause : Failure}

theorem not_unmet_of_met (h : w.Truthful g) (hsound : w.Sound g g.nodes)
    (hmet : w.memo.Met g need) : ¬ Unmet g w.results need := by
  obtain ⟨hpass, hversion⟩ := hmet
  obtain ⟨v, hv, haccepts⟩ := Graph.checkVersion_eq_ok_iff.mp hversion
  rintro (hmissing | ⟨v', hv', hrejects⟩ | ⟨cause, hfailed⟩)
  · rw [Graph.version?_eq_none_iff.mpr hmissing] at hv
    cases hv
  · rw [hv, Option.some.injEq] at hv'
    rw [← hv', haccepts need.2 rfl] at hrejects
    cases hrejects
  · have hmark : w.memo.mark? need.1 = some (.fail cause) := (h.reports_iff hsound).mpr hfailed
    rw [hpass] at hmark
    cases hmark

theorem unmet_of_blames (distinct : g.ids.Nodup) (hsound : w.Sound g g.nodes)
    (hblames : Blames g (fun id cause => (id, .error cause) ∈ w.results) n.id need cause) :
    Unmet g w.results need := by
  cases hblames with
  | missing foreign unknown => exact .inl ⟨foreign, unknown⟩
  | version found rejects => exact .inr (.inl ⟨_, found, rejects⟩)
  | parent failed => exact .inr (.inr ⟨_, failed⟩)
  | handedOn failed => exact .inr (.inr ⟨_, failed⟩)
  | loop cycle _ =>
      have hstuck : ¬ g.Runs need.1 := not_runs_of_needs_self distinct cycle.needs_self
      have hfailed := hsound.mem_failures_iff.mpr ⟨cycle.mem_ids, cycle.guest, hstuck⟩
      obtain ⟨f, hf, hid⟩ := List.mem_map.mp hfailed
      exact .inr (.inr ⟨f.2, mem_results_error_iff.mpr (hid ▸ hf)⟩)

/-- A failure says that a need is missing exactly when it is: what is reported about others is never
about a plugin that is not there. -/
theorem notFound_iff_of_blames (h : w.Truthful g) (hsound : w.Sound g g.nodes)
    (hblames : Blames g (fun id cause => (id, .error cause) ∈ w.results) n.id need cause) :
    cause = .notFound need.1 ↔ need.1 ≠ g.host.id ∧ need.1 ∉ g.ids := by
  have hthere : ∀ cause, (need.1, .error cause) ∈ w.results → need.1 ∈ g.ids :=
    fun cause hfailed => (h.explains _ cause ((h.reports_iff hsound).mpr hfailed)).1
  constructor
  · rintro rfl
    cases hblames with
    | missing foreign unknown => exact ⟨foreign, unknown⟩
    | handedOn failed =>
        have hreal := (h.explains _ _ ((h.reports_iff hsound).mpr failed)).2.real
        exact absurd (hthere _ failed) hreal.unknown
  · rintro ⟨hforeign, hunknown⟩
    cases hblames with
    | missing _ _ => rfl
    | version found _ =>
        rw [Graph.version?_eq_none_iff.mpr ⟨hforeign, hunknown⟩] at found
        cases found
    | parent failed => exact absurd (hthere _ failed) hunknown
    | handedOn failed => exact absurd (hthere _ failed) hunknown
    | loop cycle _ => exact absurd cycle.mem_ids hunknown

theorem Truthful.justifies (distinct : g.ids.Nodup) (h : w.Truthful g) (hsound : w.Sound g g.nodes)
    (hn : n ∈ g.nodes) (hfailed : (n.id, .error cause) ∈ w.results) :
    Justifies g w.results n cause := by
  obtain ⟨_, ⟨done, need, rest, hsplit, hmet, hblames⟩, hreal⟩ :=
    h.explains n.id cause ((h.reports_iff hsound).mpr hfailed)
  rw [Graph.dependenciesOf_of_mem distinct hn] at hsplit
  have hblames' : Blames g (fun id cause => (id, .error cause) ∈ w.results) n.id need cause :=
    hblames.mono fun _ _ => (h.reports_iff hsound).mp
  have hfirst : FirstUnmet g w.results n need :=
    ⟨done, rest, hsplit, fun b hb => not_unmet_of_met h hsound (hmet b hb),
      unmet_of_blames distinct hsound hblames'⟩
  refine ⟨⟨need, hfirst⟩, ?_, ?_, hreal⟩
  · intro d hd
    rw [hd.unique hfirst]
    exact hblames'
  · intro d hd
    rw [hd.unique hfirst]
    exact notFound_iff_of_blames h hsound hblames'

end

/-- Every failure that a check of distinct plugins reports is true, whatever the walker did before:
it blames the first need of the plugin that is not satisfied, and what is at its root is there. -/
theorem again_justifies (w : Walk) (nodes : List Node) (distinct : (nodes.map Node.id).Nodup) :
    ∀ n ∈ nodes, ∀ cause, (n.id, .error cause) ∈ (w.again nodes).results →
      Justifies ⟨w.graph.host, nodes⟩ (w.again nodes).results n cause := by
  intro n hn cause hfailed
  have hdistinct : (Graph.ids ⟨w.graph.host, nodes⟩).Nodup := distinct
  exact (w.again_truthful distinct).justifies hdistinct (w.again_sound distinct) hn hfailed

end Walk

namespace WalkWitness

/-- Two plugins that need each other, one that needs both, one whose need is not there, and one that
asks for a version that is not there before it asks for that plugin. -/
def quarrel : List Node :=
  [⟨"east", .zero, [("west", .any)]⟩,
   ⟨"west", .zero, [("host", .any), ("east", .any)]⟩,
   ⟨"both", .zero, [("east", .any), ("west", .any)]⟩,
   ⟨"lone", .zero, [("host", .any), ("gone", .any), ("east", .any)]⟩,
   ⟨"late", .zero, [("lone", ⟨[⟨.greater, .zero, false⟩]⟩), ("gone", .any)]⟩]

theorem quarrel_justifies : (quarrel.map Node.id).Nodup ∧
    Walk.Justifies ⟨host, quarrel⟩ (walker.again quarrel).results
      ⟨"both", .zero, [("east", .any), ("west", .any)]⟩
      (.parentFailed "east" (.loop "east" ["east", "west", "east"])) ∧
    Walk.Justifies ⟨host, quarrel⟩ (walker.again quarrel).results
      ⟨"lone", .zero, [("host", .any), ("gone", .any), ("east", .any)]⟩ (.notFound "gone") := by
  have hdistinct : (quarrel.map Node.id).Nodup := by decide
  have htrue := walker.again_justifies quarrel hdistinct
  exact ⟨hdistinct, htrue _ (by decide) _ (by decide), htrue _ (by decide) _ (by decide)⟩

end WalkWitness

end PluginHost.Dependency
