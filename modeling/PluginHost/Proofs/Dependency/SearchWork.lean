import Mathlib.Data.List.Chain
import PluginHost.Dependency.Walk
import PluginHost.Proofs.Dependency.WalkSound

/-!
How a check keeps its work small. Each of its searches ends, never opens a
plugin it is in the middle of, gives its stack back as it found it, takes no
decision back, and goes through the needs of a plugin at most once in a whole
check.

Nothing is assumed of the nodes: they may need themselves, each other or one
plugin twice, share an id, or have the id of the host.
-/
namespace PluginHost.Dependency

/-- The plugin under an id declares a need. -/
def Graph.Lists (g : Graph) (id need : String) : Prop :=
  ∃ r, (need, r) ∈ g.dependenciesOf id

namespace Search

variable {g : Graph} {s t : Search}

/-- The plugins that are being looked at, the outermost first. One that is turned to is among them
from then on, before its version is asked for, unless it is decided or among them already. -/
def underway (s : Search) : List String :=
  match s.next with
  | .enter id _ => if untouched s.memo s.stack id then s.visiting ++ [id] else s.visiting
  | .leave _ => s.visiting

/-- The plugin whose needs the next step begins to go through. -/
def opens? (g : Graph) (s : Search) : Option String :=
  if s.stack.length < (s.step g).stack.length then (s.step g).stack.head?.map Frame.id else none

/-- There is more on the stack than there was. -/
def Above (base : List Frame) (s : Search) : Prop :=
  ∃ front ≠ [], s.stack = front ++ base

/-- What is looked at next is left again, however it turns out, with the stack as it is now; until
then there is more on it. -/
def Returns (g : Graph) (s : Search) : Prop :=
  ∃ (n : Nat) (memo : Memo) (result : Except Failure Unit),
    run g n (s.step g) = ⟨memo, s.stack, .leave result⟩ ∧
      ∀ k < n, (run g k (s.step g)).Above s.stack

theorem step_eq_or_move (g : Graph) (s : Search) : s.step g = s ∨ Move g s (s.step g) := by
  cases hresult : s.result? with
  | none => exact .inr (step_move g hresult)
  | some r => exact .inl (step_of_result hresult)

/-- Each moment of a search lies a number of steps from its beginning and from its end. -/
theorem exists_of_mem_moments {n : Nat} (h : t ∈ moments g n s) :
    ∃ j k, n = j + k ∧ t = run g j s := by
  induction n generalizing s with
  | zero => exact ⟨0, 0, rfl, List.mem_singleton.mp h⟩
  | succ n ih =>
      rcases List.mem_cons.mp h with rfl | hlater
      · exact ⟨0, n + 1, (Nat.zero_add _).symm, rfl⟩
      · obtain ⟨j, k, rfl, rfl⟩ := ih hlater
        exact ⟨j + 1, k, by omega, rfl⟩

/-! ### The stack -/

/-- A stack in order: undecided plugins, none of them twice, each needed by the one below it, with
some last needs of each still to be looked at. -/
structure StackInvariant (g : Graph) (s : Search) : Prop where
  undecided : ∀ id ∈ s.stack.map Frame.id, s.memo.mark? id = none
  nodup : (s.stack.map Frame.id).Nodup
  needed : (s.stack.map Frame.id).IsChain fun above below => g.Lists below above
  pending : ∀ f ∈ s.stack, f.pending <:+ g.dependenciesOf f.id
  entered : ∀ id need, s.next = .enter id need →
    ∀ below ∈ (s.stack.map Frame.id).head?, g.Lists below id

namespace StackInvariant

theorem start (g : Graph) (memo : Memo) (id : String) : StackInvariant g (.start memo id none) where
  undecided := by simp [Search.start]
  nodup := List.nodup_nil
  needed := .nil
  pending := by simp [Search.start]
  entered := by simp [Search.start]

theorem leave {memo : Memo} {stack : List Frame} {next : Turn}
    (h : StackInvariant g ⟨memo, stack, next⟩)
    (result : Except Failure Unit) : StackInvariant g ⟨memo, stack, .leave result⟩ :=
  ⟨h.undecided, h.nodup, h.needed, h.pending, by simp⟩

/-- A plugin that is not on the stack is decided. -/
theorem decide {memo : Memo} {stack : List Frame} {next : Turn}
    (h : StackInvariant g ⟨memo, stack, next⟩)
    {id : String} (unvisited : id ∉ stack.map Frame.id) (mark : Mark) (order : List String) :
    StackInvariant g ⟨⟨(id, mark) :: memo.marks, order⟩, stack, next⟩ where
  undecided := by
    intro other hother
    have hne : other ≠ id := fun heq => unvisited (heq ▸ hother)
    rw [Memo.mark?_cons, if_neg hne]
    exact h.undecided other hother
  nodup := h.nodup
  needed := h.needed
  pending := h.pending
  entered := h.entered

/-- The topmost plugin goes off the stack. -/
theorem pop {memo : Memo} {top : Frame} {below : List Frame} {next : Turn}
    (h : StackInvariant g ⟨memo, top :: below, next⟩) (result : Except Failure Unit) :
    StackInvariant g ⟨memo, below, .leave result⟩ where
  undecided := fun id hid => h.undecided id (List.mem_cons_of_mem _ hid)
  nodup := (List.nodup_cons.mp h.nodup).2
  needed := h.needed.tail
  pending := fun f hf => h.pending f (List.mem_cons_of_mem _ hf)
  entered := by simp

/-- The plugin turned to goes on the stack. -/
theorem push {memo : Memo} {stack : List Frame} {id : String} {need : Option Requirement}
    (h : StackInvariant g ⟨memo, stack, .enter id need⟩) (mark : memo.mark? id = none)
    (unvisited : id ∉ stack.map Frame.id) (result : Except Failure Unit) :
    StackInvariant g ⟨memo, ⟨id, g.dependenciesOf id⟩ :: stack, .leave result⟩ where
  undecided := List.forall_mem_cons.mpr ⟨mark, h.undecided⟩
  nodup := List.nodup_cons.mpr ⟨unvisited, h.nodup⟩
  needed := List.isChain_cons.mpr ⟨h.entered id need rfl, h.needed⟩
  pending := List.forall_mem_cons.mpr ⟨List.suffix_refl _, h.pending⟩
  entered := by simp

/-- The topmost plugin turns to its next need. -/
theorem turn {memo : Memo} {id : String} {need : String × Requirement}
    {pending : List (String × Requirement)} {below : List Frame} {next : Turn}
    (h : StackInvariant g ⟨memo, ⟨id, need :: pending⟩ :: below, next⟩) :
    StackInvariant g ⟨memo, ⟨id, pending⟩ :: below, .enter need.1 (some need.2)⟩ where
  undecided := h.undecided
  nodup := h.nodup
  needed := h.needed
  pending := by
    obtain ⟨htop, hbelow⟩ := List.forall_mem_cons.mp h.pending
    exact List.forall_mem_cons.mpr ⟨(List.suffix_cons need pending).trans htop, hbelow⟩
  entered := by
    intro other r hnext below hbelow
    obtain ⟨htop, _⟩ := List.forall_mem_cons.mp h.pending
    cases hnext
    cases hbelow
    exact ⟨need.2, htop.subset List.mem_cons_self⟩

theorem top_not_mem_below {memo : Memo} {top : Frame} {below : List Frame} {next : Turn}
    (h : StackInvariant g ⟨memo, top :: below, next⟩) : top.id ∉ below.map Frame.id :=
  (List.nodup_cons.mp h.nodup).1

/-- Every move leaves the stack in order. -/
theorem move (h : s.StackInvariant g) (hmove : Move g s t) : t.StackInvariant g := by
  cases hmove with
  | passed _ => exact h.leave _
  | failed _ => exact h.leave _
  | looped _ _ => exact h.leave _
  | refused _ _ _ => exact h.leave _
  | host _ unvisited _ => exact (h.decide unvisited _ _).leave _
  | opened mark unvisited _ _ => exact h.push mark unvisited _
  | gaveUp => exact (h.pop _).decide h.top_not_mem_below _ _
  | turned => exact h.turn
  | closed => exact (h.pop _).decide h.top_not_mem_below _ _

/-- Every move keeps what is decided. -/
theorem grows (h : s.StackInvariant g) (hmove : Move g s t) : s.memo.Grows t.memo := by
  cases hmove with
  | host mark _ _ => exact Memo.grows_cons _ _ mark
  | gaveUp => exact Memo.grows_cons _ _ (h.undecided _ List.mem_cons_self)
  | closed => exact Memo.grows_cons _ _ (h.undecided _ List.mem_cons_self)
  | _ => exact Memo.Grows.refl _

theorem step (h : s.StackInvariant g) : (s.step g).StackInvariant g := by
  rcases step_eq_or_move g s with hsame | hmove
  · rw [hsame]
    exact h
  · exact h.move hmove

theorem grows_step (h : s.StackInvariant g) : s.memo.Grows (s.step g).memo := by
  rcases step_eq_or_move g s with hsame | hmove
  · rw [hsame]
    exact Memo.Grows.refl _
  · exact h.grows hmove

theorem run (h : s.StackInvariant g) (n : Nat) : (run g n s).StackInvariant g := by
  induction n generalizing s with
  | zero => exact h
  | succ n ih => exact ih h.step

theorem grows_run (h : s.StackInvariant g) (n : Nat) : s.memo.Grows (Search.run g n s).memo := by
  induction n generalizing s with
  | zero => exact Memo.Grows.refl _
  | succ n ih => exact h.grows_step.trans (ih h.step)

theorem moments (h : s.StackInvariant g) {n : Nat} (ht : t ∈ Search.moments g n s) :
    t.StackInvariant g := by
  obtain ⟨j, k, rfl, rfl⟩ := exists_of_mem_moments ht
  exact h.run j

theorem grows_from (h : s.StackInvariant g) {n : Nat} (ht : t ∈ Search.moments g n s) :
    s.memo.Grows t.memo := by
  obtain ⟨j, k, rfl, rfl⟩ := exists_of_mem_moments ht
  exact h.grows_run j

theorem grows_to (h : s.StackInvariant g) {n : Nat} (ht : t ∈ Search.moments g n s) :
    t.memo.Grows (Search.run g n s).memo := by
  obtain ⟨j, k, rfl, rfl⟩ := exists_of_mem_moments ht
  rw [run_add]
  exact (h.run j).grows_run k

/-- Later moments of a search keep what is decided at earlier ones. -/
theorem pairwise_moments (h : s.StackInvariant g) (n : Nat) :
    (Search.moments g n s).Pairwise fun a b => a.memo.Grows b.memo := by
  induction n generalizing s with
  | zero => exact List.pairwise_singleton _ _
  | succ n ih =>
      exact List.pairwise_cons.mpr
        ⟨fun t ht => h.grows_step.trans (h.step.grows_from ht), ih h.step⟩

theorem visiting (h : s.StackInvariant g) : s.visiting.Nodup ∧ s.visiting.IsChain g.Lists :=
  ⟨List.nodup_reverse.mpr h.nodup, List.isChain_reverse.mpr h.needed⟩

/-- What is being looked at is a path of the graph. -/
theorem underway (h : s.StackInvariant g) : s.underway.Nodup ∧ s.underway.IsChain g.Lists := by
  obtain ⟨memo, stack, next⟩ := s
  cases next with
  | leave result => exact h.visiting
  | enter id need =>
      cases hnew : untouched memo stack id with
      | false => simpa [Search.underway, hnew] using h.visiting
      | true =>
          -- It is the stack there would be with the plugin on it.
          obtain ⟨hmark, hunvisited⟩ := untouched_iff.mp hnew
          have hpushed := (h.push hmark hunvisited (.ok ())).visiting
          simpa [Search.underway, Search.visiting, hnew] using hpushed

end StackInvariant

/-! ### What is looked at is left again -/

theorem above_cons_iff {base below : List Frame} {top : Frame} {memo : Memo} {next : Turn} :
    Above base ⟨memo, top :: below, next⟩ ↔ base <:+ below := by
  constructor
  · rintro ⟨front, hfront, hstack⟩
    obtain ⟨first, rest, rfl⟩ := List.exists_cons_of_ne_nil hfront
    exact ⟨rest, (List.cons.inj hstack).2.symm⟩
  · rintro ⟨rest, rfl⟩
    exact ⟨top :: rest, List.cons_ne_nil top rest, rfl⟩

/-- Below a plugin that is left there is still more than there was, or just that. -/
theorem above_or_back {base stack : List Frame} (h : base <:+ stack) (memo : Memo)
    (result : Except Failure Unit) : Above base ⟨memo, stack, .leave result⟩ ∨
      ∃ after given, (⟨memo, stack, .leave result⟩ : Search) = ⟨after, base, .leave given⟩ := by
  obtain ⟨front, rfl⟩ := h
  cases front with
  | nil => exact .inr ⟨memo, result, rfl⟩
  | cons first rest => exact .inl ⟨first :: rest, List.cons_ne_nil first rest, rfl⟩

theorem Above.move {base : List Frame} (h : s.Above base) (hmove : Move g s t) :
    t.Above base ∨ ∃ memo result, t = ⟨memo, base, .leave result⟩ := by
  cases hmove with
  | opened _ _ _ _ =>
      obtain ⟨front, _, hstack⟩ := h
      exact .inl (above_cons_iff.mpr ⟨front, hstack.symm⟩)
  | turned => exact .inl (above_cons_iff.mpr (above_cons_iff.mp h))
  | gaveUp => exact above_or_back (above_cons_iff.mp h) _ _
  | closed => exact above_or_back (above_cons_iff.mp h) _ _
  | _ => exact .inl h

/-- A search with more on its stack gets back to the stack there was. -/
theorem Above.run {base : List Frame} (h : s.Above base) :
    ∃ (n : Nat) (memo : Memo) (result : Except Failure Unit),
      run g n s = ⟨memo, base, .leave result⟩ ∧ ∀ k < n, (run g k s).Above base := by
  induction hwork : s.work g using Nat.strong_induction_on generalizing s with
  | _ work ih =>
      have hresult : s.result? = none := by
        obtain ⟨front, hfront, hstack⟩ := h
        rw [Option.eq_none_iff_forall_ne_some]
        intro r hr
        obtain ⟨_, hnil⟩ := result?_eq_some_iff.mp hr
        exact hfront (List.append_eq_nil_iff.mp (hstack.symm.trans hnil)).1
      have hmove : Move g s (s.step g) := step_move g hresult
      rcases h.move hmove with habove | ⟨memo, result, hback⟩
      · obtain ⟨n, memo, result, hrun, hbefore⟩ := ih _ (hwork ▸ work_lt hmove) habove rfl
        refine ⟨n + 1, memo, result, hrun, ?_⟩
        intro k hk
        cases k with
        | zero => exact h
        | succ k => exact hbefore k (by omega)
      · refine ⟨1, memo, result, hback, ?_⟩
        intro k hk
        rw [Nat.lt_one_iff.mp hk]
        exact h

/-- Looking at a plugin comes to an end at once or puts something on the stack first. -/
theorem returns_of_enter {id : String} {need : Option Requirement}
    (h : s.next = .enter id need) : s.Returns g := by
  obtain ⟨memo, stack, next⟩ := s
  subst h
  have hstep : Above stack (step g ⟨memo, stack, .enter id need⟩) ∨
      ∃ after result, step g ⟨memo, stack, .enter id need⟩ = ⟨after, stack, .leave result⟩ := by
    have hmove := enter_move g memo stack id need
    change Move g _ (step g ⟨memo, stack, .enter id need⟩) at hmove
    generalize step g ⟨memo, stack, .enter id need⟩ = t at hmove
    cases hmove with
    | opened _ _ _ _ => exact .inl ⟨[_], List.cons_ne_nil _ _, rfl⟩
    | _ => exact .inr ⟨_, _, rfl⟩
  rcases hstep with habove | ⟨after, result, hback⟩
  · exact habove.run
  · exact ⟨0, after, result, hback, fun k hk => absurd hk (Nat.not_lt_zero k)⟩

/-! ### Plugins are opened once -/

theorem untouched_of_step {id : String}
    (h : untouched (s.step g).memo (s.step g).stack id = true) :
    untouched s.memo s.stack id = true := by
  rcases step_eq_or_move g s with hsame | hmove
  · rwa [hsame] at h
  · exact untouched_of_move hmove h

theorem untouched_of_run (n : Nat) {id : String}
    (h : untouched (run g n s).memo (run g n s).stack id = true) :
    untouched s.memo s.stack id = true := by
  induction n generalizing s with
  | zero => exact h
  | succ n ih => exact untouched_of_step (ih h)

/-- Only a plugin no step was spent on is opened, and then it is on the stack. -/
theorem untouched_of_longer (hmove : Move g s t) (longer : s.stack.length < t.stack.length)
    {id : String} (top : t.stack.head?.map Frame.id = some id) :
    untouched s.memo s.stack id = true ∧ untouched t.memo t.stack id = false := by
  cases hmove with
  | opened mark unvisited _ _ =>
      cases top
      exact ⟨untouched_iff.mpr ⟨mark, unvisited⟩, by simp [untouched]⟩
  | _ => exact absurd longer (Nat.not_lt.mpr (by simp))

theorem untouched_of_opens {id : String} (h : s.opens? g = some id) :
    untouched s.memo s.stack id = true ∧
      untouched (s.step g).memo (s.step g).stack id = false := by
  rw [opens?] at h
  split at h
  · next longer =>
      rcases step_eq_or_move g s with hsame | hmove
      · rw [hsame] at longer
        exact absurd longer (Nat.lt_irrefl _)
      · exact untouched_of_longer hmove longer h
  · cases h

/-- What a search opens is a plugin no step was spent on before it. -/
theorem untouched_of_mem_moments {n : Nat} (ht : t ∈ moments g n s) {id : String}
    (h : t.opens? g = some id) : untouched s.memo s.stack id = true := by
  obtain ⟨j, k, rfl, rfl⟩ := exists_of_mem_moments ht
  exact untouched_of_run j (untouched_of_opens h).1

/-- What a search opens is decided when the search has its result. -/
theorem decided_of_mem_moments {n : Nat} (ht : t ∈ moments g n s) {id : String}
    (h : t.opens? g = some id) {r : Except Failure Unit} (hr : (run g n s).result? = some r) :
    (run g n s).memo.mark? id ≠ none := by
  obtain ⟨j, k, rfl, rfl⟩ := exists_of_mem_moments ht
  obtain ⟨_, hstack⟩ := result?_eq_some_iff.mp hr
  intro hmark
  have hend : untouched (run g (j + k) s).memo (run g (j + k) s).stack id = true :=
    untouched_iff.mpr ⟨hmark, by simp [hstack]⟩
  -- One more step changes nothing, and the one that opened the plugin is then behind.
  have hsame : run g k ((run g j s).step g) = run g (j + k) s :=
    calc run g k ((run g j s).step g) = run g (j + (k + 1)) s := (run_add g j (k + 1) s).symm
      _ = (run g (j + k) s).step g := run_add g (j + k) 1 s
      _ = run g (j + k) s := step_of_result hr
  rw [← hsame] at hend
  have htouched := (untouched_of_opens h).2
  rw [untouched_of_run k hend] at htouched
  cases htouched

/-- A search opens no plugin twice. -/
theorem nodup_opens (g : Graph) (n : Nat) (s : Search) :
    ((moments g n s).filterMap fun t => t.opens? g).Nodup := by
  induction n generalizing s with
  | zero => cases h : s.opens? g <;> simp [moments, h]
  | succ n ih =>
      cases hopens : s.opens? g with
      | none =>
          rw [moments, List.filterMap_cons_none hopens]
          exact ih _
      | some id =>
          rw [moments, List.filterMap_cons_some hopens]
          refine List.nodup_cons.mpr ⟨fun hagain => ?_, ih _⟩
          obtain ⟨t, ht, hid⟩ := List.mem_filterMap.mp hagain
          have htouched := (untouched_of_opens hopens).2
          rw [untouched_of_mem_moments ht hid] at htouched
          cases htouched

end Search

/-! ### A whole check -/

namespace Graph

/-- All moments of some searches. -/
def course (g : Graph) (searches : List Search) : List Search :=
  searches.flatMap (Search.moments g g.searchBound)

/-- The plugins whose needs some searches begin to go through, in order. -/
def opened (g : Graph) (searches : List Search) : List String :=
  (g.course searches).filterMap fun s => s.opens? g

/-- Searches that do no work twice, from what is decided before the first of them to what is decided
after the last. -/
structure NoRepeatedWork (g : Graph) (before : Memo) (searches : List Search) (after : Memo) :
    Prop where
  /-- The bound of searches cuts none of them off. -/
  ends : ∀ s ∈ searches, ∃ r, (Search.run g g.searchBound s).result? = some r
  /-- What is being looked at is a path of declared needs that comes by no plugin twice. -/
  path : ∀ s ∈ g.course searches, s.underway.Nodup ∧ s.underway.IsChain g.Lists
  returns : ∀ s ∈ g.course searches, ∀ id need, s.next = .enter id need → s.Returns g
  /-- What is decided stays decided, with its cause. -/
  keeps : (g.course searches).Pairwise fun s t => s.memo.Grows t.memo
  keeps_from : ∀ s ∈ g.course searches, before.Grows s.memo
  keeps_to : ∀ s ∈ g.course searches, s.memo.Grows after
  grows : before.Grows after
  /-- No needs are gone through twice. -/
  once : (g.opened searches).Nodup
  undecided : ∀ id ∈ g.opened searches, before.mark? id = none
  decided : ∀ id ∈ g.opened searches, after.mark? id ≠ none

theorem course_append (g : Graph) (first second : List Search) :
    g.course (first ++ second) = g.course first ++ g.course second :=
  List.flatMap_append

theorem course_singleton (g : Graph) (s : Search) :
    g.course [s] = s.moments g g.searchBound :=
  List.flatMap_singleton _ _

theorem opened_append (g : Graph) (first second : List Search) :
    g.opened (first ++ second) = g.opened first ++ g.opened second := by
  rw [opened, course_append, List.filterMap_append]
  rfl

namespace NoRepeatedWork

variable {g : Graph}

theorem nil (g : Graph) (memo : Memo) : g.NoRepeatedWork memo [] memo where
  ends := by simp
  path := by simp [course]
  returns := by simp [course]
  keeps := .nil
  keeps_from := by simp [course]
  keeps_to := by simp [course]
  grows := Memo.Grows.refl memo
  once := .nil
  undecided := by simp [opened, course]
  decided := by simp [opened, course]

theorem append {before between after : Memo} {first second : List Search}
    (h : g.NoRepeatedWork before first between) (h' : g.NoRepeatedWork between second after) :
    g.NoRepeatedWork before (first ++ second) after where
  ends := List.forall_mem_append.mpr ⟨h.ends, h'.ends⟩
  path := by
    rw [course_append]
    exact List.forall_mem_append.mpr ⟨h.path, h'.path⟩
  returns := by
    rw [course_append]
    exact List.forall_mem_append.mpr ⟨h.returns, h'.returns⟩
  keeps := by
    rw [course_append]
    exact List.pairwise_append.mpr
      ⟨h.keeps, h'.keeps, fun s hs t ht => (h.keeps_to s hs).trans (h'.keeps_from t ht)⟩
  keeps_from := by
    rw [course_append]
    exact List.forall_mem_append.mpr
      ⟨h.keeps_from, fun s hs => h.grows.trans (h'.keeps_from s hs)⟩
  keeps_to := by
    rw [course_append]
    exact List.forall_mem_append.mpr ⟨fun s hs => (h.keeps_to s hs).trans h'.grows, h'.keeps_to⟩
  grows := h.grows.trans h'.grows
  once := by
    rw [opened_append]
    -- What the first searches open is decided when the second ones begin.
    refine List.nodup_append.mpr ⟨h.once, h'.once, ?_⟩
    rintro id hfirst _ hsecond rfl
    exact h.decided id hfirst (h'.undecided id hsecond)
  undecided := by
    rw [opened_append]
    exact List.forall_mem_append.mpr
      ⟨h.undecided, fun id hid => h.grows.undecided (h'.undecided id hid)⟩
  decided := by
    rw [opened_append]
    exact List.forall_mem_append.mpr
      ⟨fun id hid hnone => h.decided id hid (h'.grows.undecided hnone), h'.decided⟩

/-- One search, from its start to its result. -/
theorem search (g : Graph) (memo : Memo) (id : String) :
    g.NoRepeatedWork memo [.start memo id none] (g.resolve memo id).2 := by
  have hinvariant : Search.StackInvariant g (.start memo id none) := .start g memo id
  obtain ⟨r, hr⟩ := Search.exists_result_run (Search.work_start_le g memo id none)
  exact {
    ends := List.forall_mem_singleton.mpr ⟨r, hr⟩
    path := by
      rw [course_singleton]
      exact fun s hs => (hinvariant.moments hs).underway
    returns := fun s _ id need hnext => Search.returns_of_enter hnext
    keeps := by
      rw [course_singleton]
      exact hinvariant.pairwise_moments g.searchBound
    keeps_from := by
      rw [course_singleton]
      exact fun s hs => hinvariant.grows_from hs
    keeps_to := by
      rw [course_singleton]
      exact fun s hs => hinvariant.grows_to hs
    grows := hinvariant.grows_run g.searchBound
    once := by
      rw [opened, course_singleton]
      exact Search.nodup_opens g g.searchBound _
    undecided := by
      intro other hother
      rw [opened, course_singleton] at hother
      obtain ⟨s, hs, hid⟩ := List.mem_filterMap.mp hother
      exact (Search.untouched_iff.mp (Search.untouched_of_mem_moments hs hid)).1
    decided := by
      intro other hother
      rw [opened, course_singleton] at hother
      obtain ⟨s, hs, hid⟩ := List.mem_filterMap.mp hother
      exact Search.decided_of_mem_moments hs hid hr }

end NoRepeatedWork

end Graph

namespace Walk

/-- The search that is made for a node, unless it has failed by then. -/
def searchesFor (w : Walk) (node : Node) : List Search :=
  match w.memo.mark? node.id with
  | some (.fail _) => []
  | _ => [.start w.memo node.id none]

/-- The searches of a check, in order. -/
def searches (g : Graph) (w : Walk) : List Node → List Search
  | [] => []
  | node :: rest => w.searchesFor node ++ searches g (w.visit g node) rest

/-- A walker when it begins to check nodes. -/
def cleared (w : Walk) (nodes : List Node) : Walk :=
  ⟨{ w.graph with nodes }, [], .empty⟩

theorem noRepeatedWork_visit (g : Graph) (w : Walk) (node : Node) :
    g.NoRepeatedWork w.memo (w.searchesFor node) (w.visit g node).memo := by
  have hsearch := Graph.NoRepeatedWork.search g w.memo node.id
  rw [searchesFor]
  split
  · next cause hcause =>
      have hsame : (w.visit g node).memo = w.memo := by simp [visit, hcause]
      rw [hsame]
      exact .nil g w.memo
  · next hopen =>
      cases hresolve : g.resolve w.memo node.id with
      | mk result after =>
          rw [hresolve] at hsearch
          cases result with
          | ok _ =>
              rw [visit_pass hopen hresolve]
              exact hsearch
          | error cause =>
              rw [visit_fail hopen hresolve]
              exact hsearch

theorem noRepeatedWork_foldl (g : Graph) (w : Walk) (nodes : List Node) :
    g.NoRepeatedWork w.memo (w.searches g nodes) (nodes.foldl (visit g) w).memo := by
  induction nodes generalizing w with
  | nil => exact .nil g w.memo
  | cons node rest ih => exact (noRepeatedWork_visit g w node).append (ih (w.visit g node))

/-- Whatever nodes a walker is given and whatever it did before, it comes to an end and does no work
twice. -/
theorem again_repeats_no_work (w : Walk) (nodes : List Node) :
    (w.cleared nodes).graph.NoRepeatedWork .empty
      ((w.cleared nodes).searches (w.cleared nodes).graph nodes) (w.again nodes).memo :=
  noRepeatedWork_foldl (w.cleared nodes).graph (w.cleared nodes) nodes

/-- A plugin that needs itself, two nodes with one id, a need declared twice, and a node with the id
of the host. -/
example :
    let host : HostIdentity := ⟨"host", .ofNumbers 2 0 0⟩
    let nodes : List Node :=
      [⟨"self", .zero, [("self", .any), ("core", .any)]⟩, ⟨"chat", .zero, []⟩,
       ⟨"chat", .zero, [("core", .any), ("core", .any), ("self", .any)]⟩,
       ⟨"host", .zero, [("chat", .any)]⟩, ⟨"core", .zero, [("host", .any)]⟩]
    let w := (unstarted host).cleared nodes
    w.graph.opened (w.searches w.graph nodes) = ["self", "chat", "core"] := by
  decide

end Walk

end PluginHost.Dependency
