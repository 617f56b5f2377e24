import PluginHost.Proofs.Dependency.Decisions

/-!
A search decides rightly. The invariant ties its stack to its turn: each
plugin on the stack waits for the one above it, everything it declared before
that is met, and the turn is about the need the topmost one waits for. A need
that is on the stack already closes a cycle, so nothing on the way runs.
-/
namespace PluginHost.Dependency

/-- The topmost plugin of a stack waits for an id, and each one below for the one above it. The
versions they ask for are accepted. -/
inductive Waits (g : Graph) (root : String) (memo : Memo) : List Frame → String → Prop
  | root : Waits g root memo [] root
  | need {top : Frame} {below : List Frame} {id : String} {r : Requirement}
      {done : List (String × Requirement)}
      (declared : g.dependenciesOf top.id = done ++ (id, r) :: top.pending)
      (met : ∀ d ∈ done, memo.Met g d) (version : g.checkVersion id (some r) = .ok ())
      (rest : Waits g root memo below top.id) : Waits g root memo (top :: below) id

/-- A turn that fits the stack: it is about the plugin the search was started for, or about what the
topmost plugin needs next. -/
inductive Justified (g : Graph) (root : String) (memo : Memo) : List Frame → Turn → Prop
  | enterRoot : Justified g root memo [] (.enter root none)
  | enterNeed {top : Frame} {below : List Frame} {id : String} {r : Requirement}
      {done : List (String × Requirement)}
      (declared : g.dependenciesOf top.id = done ++ (id, r) :: top.pending)
      (met : ∀ d ∈ done, memo.Met g d) (rest : Waits g root memo below top.id) :
      Justified g root memo (top :: below) (.enter id (some r))
  | okRoot (mark : memo.mark? root = some .pass) : Justified g root memo [] (.leave (.ok ()))
  | okTop {top : Frame} {below : List Frame} {done : List (String × Requirement)}
      (declared : g.dependenciesOf top.id = done ++ top.pending)
      (met : ∀ d ∈ done, memo.Met g d) (rest : Waits g root memo below top.id) :
      Justified g root memo (top :: below) (.leave (.ok ()))
  | errorRoot {why cause : Failure} (mark : memo.mark? root = some (.fail why)) :
      Justified g root memo [] (.leave (.error cause))
  | errorTop {top : Frame} {below : List Frame} {d : String × Requirement} {cause : Failure}
      (declared : d ∈ g.dependenciesOf top.id) (unsatisfied : ¬ Satisfied g d)
      (rest : Waits g root memo below top.id) :
      Justified g root memo (top :: below) (.leave (.error cause))

section

variable {g : Graph} {root id : String} {memo after : Memo} {stack : List Frame}

theorem Waits.grow (h : memo.Grows after) (hw : Waits g root memo stack id) :
    Waits g root after stack id := by
  induction hw with
  | root => exact .root
  | need declared met version _ ih =>
      exact .need declared (fun d hd => (met d hd).grow h) version ih

/-- Every plugin of a stack needs what the stack waits for. -/
theorem Waits.needs (hw : Waits g root memo stack id)
    (guests : ∀ f ∈ stack, f.id ≠ g.host.id) (guest : id ≠ g.host.id) :
    ∀ f ∈ stack, Relation.TransGen g.Needs f.id id := by
  induction hw with
  | root => simp
  | @need top below id r done declared _ _ _ ih =>
      have hdeclared : (id, r) ∈ g.dependenciesOf top.id := by simp [declared]
      have htop : g.Needs top.id id := Graph.needs_of_mem_dependenciesOf hdeclared guest
      intro f hf
      rcases List.mem_cons.mp hf with rfl | hbelow
      · exact .single htop
      · have hguests : ∀ f ∈ below, f.id ≠ g.host.id :=
          fun f hf => guests f (List.mem_cons_of_mem top hf)
        exact (ih hguests (guests top List.mem_cons_self) f hbelow).tail htop

/-! ### What a settled need does to the stack -/

theorem Justified.accept {need : Option Requirement} (grows : memo.Grows after)
    (mark : after.mark? id = some .pass) (version : g.checkVersion id need = .ok ())
    (h : Justified g root memo stack (.enter id need)) :
    Justified g root after stack (.leave (.ok ())) := by
  cases h with
  | enterRoot => exact .okRoot mark
  | @enterNeed top below _ r done declared met rest =>
      refine .okTop (by rw [declared, List.append_cons]) ?_ (rest.grow grows)
      intro d hd
      rcases List.mem_append.mp hd with hdone | hlast
      · exact (met d hdone).grow grows
      · rw [List.mem_singleton.mp hlast]
        exact ⟨mark, version⟩

theorem Justified.reject {need : Option Requirement} {cause : Failure}
    (h : Justified g root memo stack (.enter id need))
    (atRoot : need = none → ∃ why, memo.mark? id = some (.fail why))
    (unsatisfied : ∀ r, need = some r → ¬ Satisfied g (id, r)) :
    Justified g root memo stack (.leave (.error cause)) := by
  cases h with
  | enterRoot =>
      obtain ⟨why, hwhy⟩ := atRoot rfl
      exact .errorRoot hwhy
  | @enterNeed top below _ r done declared met rest =>
      have hdeclared : (id, r) ∈ g.dependenciesOf top.id := by simp [declared]
      exact .errorTop hdeclared (unsatisfied r rfl) rest

theorem Waits.accept (grows : memo.Grows after) (mark : after.mark? id = some .pass)
    (h : Waits g root memo stack id) : Justified g root after stack (.leave (.ok ())) := by
  cases h with
  | root => exact .okRoot mark
  | need declared met version rest =>
      exact Justified.accept grows mark version (.enterNeed declared met rest)

theorem Waits.reject {why cause : Failure} (grows : memo.Grows after)
    (mark : after.mark? id = some (.fail why)) (guest : id ≠ g.host.id) (stuck : ¬ g.Runs id)
    (h : Waits g root memo stack id) : Justified g root after stack (.leave (.error cause)) := by
  cases h with
  | root => exact .errorRoot mark
  | @need top below _ r done declared met version rest =>
      have hdeclared : (id, r) ∈ g.dependenciesOf top.id := by simp [declared]
      refine .errorTop hdeclared (fun hsat => ?_) (rest.grow grows)
      rcases hsat.host_or_runs with hhost | hruns
      · exact guest hhost
      · exact stuck hruns

end

/-! ### The invariant of a search -/

/-- A search for a plugin that has decided rightly so far and took back nothing that was decided
before it. -/
structure Search.Sound (g : Graph) (before : Memo) (root : String) (s : Search) : Prop where
  grows : before.Grows s.memo
  memo : s.memo.Sound g
  undecided : ∀ f ∈ s.stack, s.memo.mark? f.id = none ∧ f.id ≠ g.host.id ∧ f.id ∈ g.ids
  nodup : (s.stack.map Frame.id).Nodup
  justified : Justified g root s.memo s.stack s.next

namespace Search.Sound

variable {g : Graph} {before : Memo} {root : String}

theorem start {memo : Memo} (h : memo.Sound g) : Sound g memo root (.start memo root none) where
  grows := Memo.Grows.refl memo
  memo := h
  undecided := by simp [Search.start]
  nodup := by simp [Search.start]
  justified := .enterRoot

/-- Only the turn changes. -/
theorem turn {memo : Memo} {stack : List Frame} {next next' : Turn}
    (h : Sound g before root ⟨memo, stack, next⟩) (j : Justified g root memo stack next') :
    Sound g before root ⟨memo, stack, next'⟩ :=
  ⟨h.grows, h.memo, h.undecided, h.nodup, j⟩

/-- A plugin that is on the stack and needed by the topmost one does not run. -/
theorem not_runs_of_visited (distinct : g.ids.Nodup) {memo : Memo} {stack : List Frame}
    {id : String} {need : Option Requirement}
    (h : Sound g before root ⟨memo, stack, .enter id need⟩) (visited : id ∈ stack.map Frame.id) :
    id ≠ g.host.id ∧ ¬ g.Runs id := by
  obtain ⟨f, hf, hid⟩ := List.mem_map.mp visited
  have guest : id ≠ g.host.id := hid ▸ (h.undecided f hf).2.1
  refine ⟨guest, ?_⟩
  have hjust := h.justified
  cases hjust with
  | enterRoot => simp at hf
  | @enterNeed top below _ r done declared met rest =>
      have hdeclared : (id, r) ∈ g.dependenciesOf top.id := by simp [declared]
      have htop : g.Needs top.id id := Graph.needs_of_mem_dependenciesOf hdeclared guest
      apply not_runs_of_needs_self distinct
      rcases List.mem_cons.mp hf with rfl | hbelow
      · exact .single (hid ▸ htop)
      · have hguests : ∀ e ∈ below, e.id ≠ g.host.id :=
          fun e he => (h.undecided e (List.mem_cons_of_mem top he)).2.1
        have hway := rest.needs hguests (h.undecided top List.mem_cons_self).2.1 f hbelow
        rw [hid] at hway
        exact hway.tail htop

/-- The topmost plugin is decided and taken off the stack. -/
theorem decide_top {memo : Memo} {id : String} {pending : List (String × Requirement)}
    {below : List Frame} {mark : Mark} {order : List String} {next next' : Turn}
    (h : Sound g before root ⟨memo, ⟨id, pending⟩ :: below, next⟩)
    (sound : Memo.Sound g ⟨(id, mark) :: memo.marks, order⟩)
    (j : Justified g root ⟨(id, mark) :: memo.marks, order⟩ below next') :
    Sound g before root ⟨⟨(id, mark) :: memo.marks, order⟩, below, next'⟩ where
  grows := h.grows.trans (Memo.grows_cons mark order (h.undecided _ List.mem_cons_self).1)
  memo := sound
  undecided := by
    intro f hf
    obtain ⟨hmark, hguest, hmem⟩ := h.undecided f (List.mem_cons_of_mem _ hf)
    have hne : f.id ≠ id := by
      intro heq
      have hnodup := h.nodup
      rw [List.map_cons, List.nodup_cons] at hnodup
      exact hnodup.1 (List.mem_map.mpr ⟨f, hf, heq⟩)
    refine ⟨?_, hguest, hmem⟩
    rw [Memo.mark?_cons, if_neg hne]
    exact hmark
  nodup := by
    have hnodup := h.nodup
    rw [List.map_cons, List.nodup_cons] at hnodup
    exact hnodup.2
  justified := j

/-- The plugin entered next is put on the stack. -/
theorem push {memo : Memo} {stack : List Frame} {id : String} {need : Option Requirement}
    (h : Sound g before root ⟨memo, stack, .enter id need⟩) (mark : memo.mark? id = none)
    (unvisited : id ∉ stack.map Frame.id) (version : g.checkVersion id need = .ok ())
    (guest : id ≠ g.host.id) :
    Sound g before root ⟨memo, ⟨id, g.dependenciesOf id⟩ :: stack, .leave (.ok ())⟩ where
  grows := h.grows
  memo := h.memo
  undecided := by
    intro f hf
    rcases List.mem_cons.mp hf with rfl | hold
    · obtain ⟨v, hv, _⟩ := Graph.checkVersion_eq_ok_iff.mp version
      rw [g.version?_guest guest] at hv
      obtain ⟨n, hn, _⟩ := Option.map_eq_some_iff.mp hv
      obtain ⟨hmem, hid⟩ := Graph.node?_sound hn
      exact ⟨mark, guest, List.mem_map.mpr ⟨n, hmem, hid⟩⟩
    · exact h.undecided f hold
  nodup := by
    rw [List.map_cons, List.nodup_cons]
    exact ⟨unvisited, h.nodup⟩
  justified := by
    have hwaits : Waits g root memo stack id := by
      have hjust := h.justified
      cases hjust with
      | enterRoot => exact .root
      | enterNeed declared met rest => exact .need declared met version rest
    exact .okTop (List.nil_append _).symm (by simp) hwaits

theorem checkVersion_root (distinct : g.ids.Nodup) {id : String} (hid : id ∈ g.ids) :
    g.checkVersion id none = .ok () := by
  rw [Graph.checkVersion_eq_ok_iff]
  by_cases hhost : id = g.host.id
  · exact ⟨g.host.version, hhost ▸ g.version?_host, by simp⟩
  · obtain ⟨n, hn, rfl⟩ := List.mem_map.mp hid
    exact ⟨n.version, Graph.version?_of_mem distinct hn hhost, by simp⟩

/-- A version that is refused leaves the need unsatisfied, and is never asked for at the root. -/
theorem refuse (distinct : g.ids.Nodup) (hroot : root ∈ g.ids) {memo : Memo}
    {stack : List Frame} {id : String} {need : Option Requirement} {cause : Failure}
    (h : Sound g before root ⟨memo, stack, .enter id need⟩)
    (version : g.checkVersion id need = .error cause) :
    Sound g before root ⟨memo, stack, .leave (.error cause)⟩ := by
  apply h.turn
  apply h.justified.reject
  · rintro rfl
    have hjust := h.justified
    cases hjust with
    | enterRoot =>
        rw [checkVersion_root distinct hroot] at version
        cases version
  · rintro r rfl hsat
    have hok : g.checkVersion id (some r) = .ok () := hsat.checkVersion distinct
    rw [hok] at version
    cases version

/-- Every move keeps the invariant. -/
theorem move (distinct : g.ids.Nodup) (hroot : root ∈ g.ids) {s t : Search}
    (h : Sound g before root s) (hmove : Search.Move g s t) : Sound g before root t := by
  cases hmove with
  | @passed memo stack id need mark =>
      cases hversion : g.checkVersion id need with
      | ok _ => exact h.turn (h.justified.accept (Memo.Grows.refl memo) mark hversion)
      | error cause => exact h.refuse distinct hroot hversion
  | @failed memo stack id need cause mark =>
      obtain ⟨hguest, hstuck⟩ := h.memo.fails id cause mark
      refine h.turn (h.justified.reject (fun _ => ⟨cause, mark⟩) fun r _ hsat => ?_)
      rcases hsat.host_or_runs with hhost | hruns
      · exact hguest hhost
      · exact hstuck hruns
  | @looped memo stack id need _ visited =>
      obtain ⟨hguest, hstuck⟩ := h.not_runs_of_visited distinct visited
      refine h.turn (h.justified.reject ?_ fun r _ hsat => ?_)
      · rintro rfl
        have hjust := h.justified
        cases hjust with
        | enterRoot => simp at visited
      · rcases hsat.host_or_runs with hhost | hruns
        · exact hguest hhost
        · exact hstuck hruns
  | refused _ _ version => exact h.refuse distinct hroot version
  | @host memo stack need mark unvisited version =>
      have hgrows : memo.Grows ⟨(g.host.id, .pass) :: memo.marks, memo.order⟩ :=
        Memo.grows_cons _ _ mark
      refine ⟨h.grows.trans hgrows, h.memo.add_host mark, ?_, h.nodup, ?_⟩
      · intro f hf
        obtain ⟨hmark, hguest, hmem⟩ := h.undecided f hf
        refine ⟨?_, hguest, hmem⟩
        rw [Memo.mark?_cons, if_neg hguest]
        exact hmark
      · exact h.justified.accept hgrows (by simp) version
  | opened mark unvisited version hguest => exact h.push mark unvisited version hguest
  | @gaveUp memo id pending below cause =>
      obtain ⟨hmark, hguest, hmem⟩ := h.undecided _ List.mem_cons_self
      have hjust := h.justified
      cases hjust with
      | @errorTop _ _ d _ declared unsatisfied rest =>
          have hstuck : ¬ g.Runs id := by
            rw [Graph.runs_iff_satisfied distinct hmem]
            exact fun hall => unsatisfied (hall d declared)
          have hfail : (⟨(id, .fail cause) :: memo.marks, memo.order⟩ : Memo).mark? id =
              some (.fail cause) := by simp
          exact h.decide_top (h.memo.add_fail cause hmark hguest hstuck)
            (rest.reject (Memo.grows_cons _ _ hmark) hfail hguest hstuck)
  | @turned memo id need pending below =>
      have hjust := h.justified
      cases hjust with
      | okTop declared met rest =>
          exact ⟨h.grows, h.memo,
            fun f hf => by
              rcases List.mem_cons.mp hf with rfl | hbelow
              · exact h.undecided ⟨id, need :: pending⟩ List.mem_cons_self
              · exact h.undecided f (List.mem_cons_of_mem _ hbelow),
            by simpa using h.nodup, .enterNeed declared met rest⟩
  | @closed memo id below =>
      obtain ⟨hmark, hguest, hmem⟩ := h.undecided _ List.mem_cons_self
      have hjust := h.justified
      cases hjust with
      | @okTop _ _ done declared met rest =>
          have hmet : ∀ d ∈ g.dependenciesOf id, memo.Met g d := by
            intro d hd
            have hdone : g.dependenciesOf id = done := by simpa using declared
            exact met d (hdone ▸ hd)
          have hruns : g.Runs id := by
            rw [Graph.runs_iff_satisfied distinct hmem]
            exact fun d hd => h.memo.satisfied distinct (hmet d hd)
          have hbehind : ∀ d ∈ g.dependenciesOf id, d.1 ≠ g.host.id → d.1 ∈ memo.order :=
            fun d hd hne => h.memo.pass_mem d.1 (hmet d hd).1 hne
          exact h.decide_top (h.memo.add_pass hmark hguest hruns hbehind)
            (rest.accept (Memo.grows_cons _ _ hmark) (by simp))

theorem reaches (distinct : g.ids.Nodup) (hroot : root ∈ g.ids) {s t : Search}
    (h : Sound g before root s) (hway : Relation.ReflTransGen (Search.Move g) s t) :
    Sound g before root t := by
  induction hway with
  | refl => exact h
  | tail _ hmove ih => exact ih.move distinct hroot hmove

end Search.Sound

/-- A search for a plugin keeps all decisions, adds right ones only, and decides that plugin. -/
theorem Graph.resolve_sound {g : Graph} (distinct : g.ids.Nodup) {memo : Memo}
    (h : memo.Sound g) {id : String} (hid : id ∈ g.ids) :
    memo.Grows (g.resolve memo id).2 ∧ (g.resolve memo id).2.Sound g ∧
      match (g.resolve memo id).1 with
      | .ok () => (g.resolve memo id).2.mark? id = some .pass
      | .error _ => ∃ why, (g.resolve memo id).2.mark? id = some (.fail why) := by
  have hend := (Search.Sound.start h).reaches distinct hid (g.resolve_reaches memo id)
  refine ⟨hend.grows, hend.memo, ?_⟩
  have hjust := hend.justified
  revert hjust
  cases (g.resolve memo id).1 with
  | ok _ =>
      intro hjust
      cases hjust with
      | okRoot mark => exact mark
  | error cause =>
      intro hjust
      cases hjust with
      | errorRoot mark => exact ⟨_, mark⟩

end PluginHost.Dependency
