import PluginHost.Proofs.Dependency.Blame

/-!
A search explains what fails. Besides deciding rightly it keeps two promises:
the cause it noted for a plugin is about the first need of it that is not met,
and the failure it is about to hand on is such a cause for the plugin that
hears it.
-/
namespace PluginHost.Dependency

/-- What is noted about a plugin that failed. -/
def Memo.Reports (memo : Memo) (id : String) (cause : Failure) : Prop :=
  memo.mark? id = some (.fail cause)

/-- A cause that is about the first need of a plugin that is not met, and real at its root. -/
structure Explained (g : Graph) (memo : Memo) (id : String) (cause : Failure) : Prop where
  first : ∃ done need rest, g.dependenciesOf id = done ++ need :: rest ∧
    (∀ d ∈ done, memo.Met g d) ∧ Blames g memo.Reports id need cause
  real : g.RealCause id cause.root

theorem Explained.grow {g : Graph} {memo after : Memo} {id : String} {cause : Failure}
    (h : memo.Grows after) (hwhy : Explained g memo id cause) : Explained g after id cause := by
  obtain ⟨⟨done, need, rest, hsplit, hmet, hblames⟩, hreal⟩ := hwhy
  have hgrow : ∀ id cause, memo.Reports id cause → after.Reports id cause :=
    fun id cause hreports => h id _ hreports
  exact ⟨⟨done, need, rest, hsplit, fun d hd => (hmet d hd).grow h, hblames.mono hgrow⟩, hreal⟩

/-- All causes that are noted are explained. -/
def Memo.Explains (g : Graph) (memo : Memo) : Prop :=
  ∀ id cause, memo.Reports id cause → id ∈ g.ids ∧ Explained g memo id cause

theorem Memo.Explains.grow {g : Graph} {memo after : Memo} (h : memo.Explains g)
    (grows : memo.Grows after)
    (new : ∀ id cause, after.Reports id cause → memo.Reports id cause ∨
      id ∈ g.ids ∧ Explained g memo id cause) : after.Explains g := by
  intro id cause hreports
  rcases new id cause hreports with hold | ⟨hid, hwhy⟩
  · obtain ⟨hid, hwhy⟩ := h id cause hold
    exact ⟨hid, hwhy.grow grows⟩
  · exact ⟨hid, hwhy.grow grows⟩

/-- What the topmost plugin of a stack hears: a failure explains why it fails in turn. With an empty
stack it is what is noted for the plugin the search was started for. -/
inductive ExplainsTop (g : Graph) (root : String) (memo : Memo) : List Frame → Turn → Prop
  | enterRoot (unreported : ∀ cause, ¬ memo.Reports root cause) :
      ExplainsTop g root memo [] (.enter root none)
  | enterNeed {top : Frame} {below : List Frame} {id : String} {need : Option Requirement} :
      ExplainsTop g root memo (top :: below) (.enter id need)
  | ok {stack : List Frame} : ExplainsTop g root memo stack (.leave (.ok ()))
  | errorRoot {cause : Failure} (noted : memo.Reports root cause) :
      ExplainsTop g root memo [] (.leave (.error cause))
  | errorTop {top : Frame} {below : List Frame} {cause : Failure}
      (why : Explained g memo top.id cause) :
      ExplainsTop g root memo (top :: below) (.leave (.error cause))

/-- A search that explains what failed so far, and what is about to fail. -/
structure Search.Truthful (g : Graph) (root : String) (s : Search) : Prop where
  explains : s.memo.Explains g
  heard : ExplainsTop g root s.memo s.stack s.next

namespace Search.Truthful

variable {g : Graph} {before : Memo} {root id : String} {memo : Memo} {stack : List Frame}
  {need : Option Requirement}

/-- A need that fails explains why the plugin that asked for it fails. -/
theorem fail_need (hsound : Sound g before root ⟨memo, stack, .enter id need⟩)
    (h : Truthful g root ⟨memo, stack, .enter id need⟩) {cause : Failure}
    (why : ∀ top below r, stack = top :: below → need = some r →
      (id, r) ∈ g.dependenciesOf top.id →
        Blames g memo.Reports top.id (id, r) cause ∧ g.RealCause top.id cause.root)
    (nonroot : stack ≠ []) : Truthful g root ⟨memo, stack, .leave (.error cause)⟩ := by
  refine ⟨h.explains, ?_⟩
  have hjust := hsound.justified
  cases hjust with
  | enterRoot => exact absurd rfl nonroot
  | @enterNeed top below _ r done declared met rest =>
      have hdeclared : (id, r) ∈ g.dependenciesOf top.id := by simp [declared]
      obtain ⟨hblames, hreal⟩ := why top below r rfl rfl hdeclared
      exact .errorTop ⟨⟨done, (id, r), top.pending, declared, met, hblames⟩, hreal⟩

theorem refuse (distinct : g.ids.Nodup) (hroot : root ∈ g.ids)
    (hsound : Sound g before root ⟨memo, stack, .enter id need⟩)
    (h : Truthful g root ⟨memo, stack, .enter id need⟩) {cause : Failure}
    (version : g.checkVersion id need = .error cause) :
    Truthful g root ⟨memo, stack, .leave (.error cause)⟩ := by
  apply h.fail_need hsound
  · rintro top below r rfl rfl hdeclared
    exact ⟨Graph.blames_of_checkVersion version,
      Graph.realCause_of_checkVersion hdeclared version⟩
  · rintro rfl
    have hjust := hsound.justified
    cases hjust with
    | enterRoot =>
        rw [Sound.checkVersion_root distinct hroot] at version
        cases version

theorem fail_again (hsound : Sound g before root ⟨memo, stack, .enter id need⟩)
    (h : Truthful g root ⟨memo, stack, .enter id need⟩) {cause : Failure}
    (mark : memo.Reports id cause) :
    Truthful g root ⟨memo, stack, .leave (.error (.parentFailed id cause))⟩ := by
  apply h.fail_need hsound
  · rintro top below r rfl rfl hdeclared
    have hguest : id ≠ g.host.id := (hsound.memo.fails id cause mark).1
    have hneeds : g.Needs top.id id := Graph.needs_of_mem_dependenciesOf hdeclared hguest
    exact ⟨.parent mark, (h.explains id cause mark).2.real.before hneeds⟩
  · rintro rfl
    have hheard := h.heard
    cases hheard with
    | enterRoot unreported => exact unreported cause mark

theorem close_loop (hsound : Sound g before root ⟨memo, stack, .enter id need⟩)
    (h : Truthful g root ⟨memo, stack, .enter id need⟩) (visited : id ∈ stack.map Frame.id) :
    Truthful g root ⟨memo, stack, .leave (.error (.loop id
      ((stack.map Frame.id).reverse.dropWhile (· != id) ++ [id])))⟩ := by
  apply h.fail_need hsound
  · rintro top below r rfl rfl hdeclared
    obtain ⟨f, hf, hid⟩ := List.mem_map.mp visited
    have hguest : id ≠ g.host.id := hid ▸ (hsound.undecided f hf).2.1
    have hneeds : g.Needs top.id id := Graph.needs_of_mem_dependenciesOf hdeclared hguest
    have hjust := hsound.justified
    cases hjust with
    | enterNeed _ _ rest =>
        have hchain := rest.isChain
          (fun f hf => (hsound.undecided f (List.mem_cons_of_mem top hf)).2.1)
          (hsound.undecided top List.mem_cons_self).2.1
        have hnodup : ((below.map Frame.id).reverse ++ [top.id]).Nodup := by
          rw [← List.reverse_cons]
          exact List.nodup_reverse.mpr hsound.nodup
        have hvisited : id ∈ (below.map Frame.id).reverse ++ [top.id] := by
          rw [← List.reverse_cons]
          exact List.mem_reverse.mpr visited
        obtain ⟨hcycle, hmember⟩ := cycle_of_stack hnodup hchain hvisited hneeds
        rw [List.map_cons, List.reverse_cons]
        exact ⟨.loop hcycle hmember, .loop (.single hneeds) hcycle⟩
  · rintro rfl
    simp at visited

/-- The plugin that fails with what it heard hands that on. -/
theorem give_up {pending : List (String × Requirement)} {below : List Frame} {cause : Failure}
    (hsound : Sound g before root ⟨memo, ⟨id, pending⟩ :: below, .leave (.error cause)⟩)
    (h : Truthful g root ⟨memo, ⟨id, pending⟩ :: below, .leave (.error cause)⟩) :
    Truthful g root ⟨⟨(id, .fail cause) :: memo.marks, memo.order⟩, below,
      .leave (.error cause)⟩ := by
  obtain ⟨hmark, hguest, hmem⟩ := hsound.undecided _ List.mem_cons_self
  have hheard := h.heard
  cases hheard with
  | errorTop why =>
      have hgrows : memo.Grows ⟨(id, .fail cause) :: memo.marks, memo.order⟩ :=
        Memo.grows_cons _ _ hmark
      have hnoted : Memo.Reports ⟨(id, .fail cause) :: memo.marks, memo.order⟩ id cause := by
        simp [Memo.Reports]
      refine ⟨h.explains.grow hgrows ?_, ?_⟩
      · intro other c hc
        rw [Memo.Reports, Memo.mark?_cons] at hc
        split at hc
        · next hsame =>
            obtain rfl : cause = c := by simpa using hc
            subst hsame
            exact .inr ⟨hmem, why⟩
        · exact .inl hc
      · have hjust := hsound.justified
        cases hjust with
        | errorTop _ _ rest =>
            dsimp only at rest
            cases rest with
            | root => exact .errorRoot hnoted
            | @need top rest _ r done declared met version waits =>
                have hdeclared : (id, r) ∈ g.dependenciesOf top.id := by simp [declared]
                have hneeds : g.Needs top.id id :=
                  Graph.needs_of_mem_dependenciesOf hdeclared hguest
                exact .errorTop ⟨⟨done, (id, r), top.pending, declared,
                  fun d hd => (met d hd).grow hgrows, .handedOn hnoted⟩, why.real.before hneeds⟩

/-- Letting a plugin pass explains no less. -/
theorem add_pass {order : List String} (mark : memo.mark? id = none)
    (h : memo.Explains g) : Memo.Explains g ⟨(id, .pass) :: memo.marks, order⟩ := by
  apply h.grow (Memo.grows_cons _ _ mark)
  intro other cause hcause
  rw [Memo.Reports, Memo.mark?_cons] at hcause
  split at hcause
  · cases hcause
  · exact .inl hcause

theorem move (distinct : g.ids.Nodup) (hroot : root ∈ g.ids) {s t : Search}
    (hsound : Sound g before root s) (h : Truthful g root s) (hmove : Search.Move g s t) :
    Truthful g root t := by
  cases hmove with
  | @passed memo stack id need mark =>
      cases hversion : g.checkVersion id need with
      | ok _ => exact ⟨h.explains, .ok⟩
      | error cause => exact h.refuse distinct hroot hsound hversion
  | failed mark => exact h.fail_again hsound mark
  | looped _ visited => exact h.close_loop hsound visited
  | refused _ _ version => exact h.refuse distinct hroot hsound version
  | host mark _ _ => exact ⟨add_pass mark h.explains, .ok⟩
  | opened _ _ _ _ => exact ⟨h.explains, .ok⟩
  | gaveUp => exact h.give_up hsound
  | turned => exact ⟨h.explains, .enterNeed⟩
  | closed => exact ⟨add_pass (hsound.undecided _ List.mem_cons_self).1 h.explains, .ok⟩

theorem reaches (distinct : g.ids.Nodup) (hroot : root ∈ g.ids) {s t : Search}
    (hsound : Sound g before root s) (h : Truthful g root s)
    (hway : Relation.ReflTransGen (Search.Move g) s t) : Truthful g root t := by
  induction hway with
  | refl => exact h
  | tail hbefore hmove ih =>
      exact ih.move distinct hroot (hsound.reaches distinct hroot hbefore) hmove

end Search.Truthful

/-- A search for a plugin that did not fail yet explains what it notes, and fails with what it noted
for that plugin. -/
theorem Graph.resolve_explains {g : Graph} (distinct : g.ids.Nodup) {memo : Memo}
    (hsound : memo.Sound g) (h : memo.Explains g) {id : String} (hid : id ∈ g.ids)
    (unreported : ∀ cause, ¬ memo.Reports id cause) :
    (g.resolve memo id).2.Explains g ∧ ∀ cause, (g.resolve memo id).1 = .error cause →
      (g.resolve memo id).2.Reports id cause := by
  have hstart : Search.Truthful g id (.start memo id none) := ⟨h, .enterRoot unreported⟩
  have hend := hstart.reaches distinct hid (.start hsound) (g.resolve_reaches memo id)
  refine ⟨hend.explains, ?_⟩
  intro cause hcause
  have hheard := hend.heard
  dsimp only at hheard
  rw [hcause] at hheard
  cases hheard with
  | errorRoot noted => exact noted

end PluginHost.Dependency
