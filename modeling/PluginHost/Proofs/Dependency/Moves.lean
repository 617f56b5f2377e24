import Mathlib.Algebra.GroupWithZero.Nat
import Mathlib.Logic.Relation
import PluginHost.Dependency.Search

/-!
What a search can do in one step, and why it ends: each plugin is opened at
most once, and each of its needs is turned to at most once. The bound a
search is run with is never reached.
-/
namespace PluginHost.Dependency

namespace Memo

@[simp] theorem mark?_cons (id other : String) (mark : Mark) (marks : List (String × Mark))
    (order : List String) :
    (⟨(id, mark) :: marks, order⟩ : Memo).mark? other =
      if other = id then some mark else (⟨marks, order⟩ : Memo).mark? other := by
  simp only [mark?, List.lookup_cons]
  by_cases h : other = id
  · simp [h]
  · rw [if_neg h, beq_false_of_ne h]

theorem mark?_cons_eq_none_iff {memo : Memo} {id other : String} {mark : Mark}
    {order : List String} :
    (⟨(id, mark) :: memo.marks, order⟩ : Memo).mark? other = none ↔
      other ≠ id ∧ memo.mark? other = none := by
  rw [mark?_cons]
  by_cases h : other = id
  · simp [h]
  · rw [if_neg h]
    exact (and_iff_right h).symm

end Memo

namespace Search

/-- The steps of a search that has no result yet. -/
inductive Move (g : Graph) : Search → Search → Prop
  /-- A plugin that passed is not looked at again, only its version. -/
  | passed {memo : Memo} {stack : List Frame} {id : String} {need : Option Requirement}
      (mark : memo.mark? id = some .pass) :
      Move g ⟨memo, stack, .enter id need⟩ ⟨memo, stack, .leave (g.checkVersion id need)⟩
  | failed {memo : Memo} {stack : List Frame} {id : String} {need : Option Requirement}
      {cause : Failure} (mark : memo.mark? id = some (.fail cause)) :
      Move g ⟨memo, stack, .enter id need⟩
        ⟨memo, stack, .leave (.error (.parentFailed id cause))⟩
  | looped {memo : Memo} {stack : List Frame} {id : String} {need : Option Requirement}
      (mark : memo.mark? id = none) (visited : id ∈ stack.map Frame.id) :
      Move g ⟨memo, stack, .enter id need⟩
        ⟨memo, stack, .leave (.error (.loop id
          ((stack.map Frame.id).reverse.dropWhile (· != id) ++ [id])))⟩
  | refused {memo : Memo} {stack : List Frame} {id : String} {need : Option Requirement}
      {cause : Failure} (mark : memo.mark? id = none) (unvisited : id ∉ stack.map Frame.id)
      (version : g.checkVersion id need = .error cause) :
      Move g ⟨memo, stack, .enter id need⟩ ⟨memo, stack, .leave (.error cause)⟩
  | host {memo : Memo} {stack : List Frame} {need : Option Requirement}
      (mark : memo.mark? g.host.id = none) (unvisited : g.host.id ∉ stack.map Frame.id)
      (version : g.checkVersion g.host.id need = .ok ()) :
      Move g ⟨memo, stack, .enter g.host.id need⟩
        ⟨⟨(g.host.id, .pass) :: memo.marks, memo.order⟩, stack, .leave (.ok ())⟩
  | opened {memo : Memo} {stack : List Frame} {id : String} {need : Option Requirement}
      (mark : memo.mark? id = none) (unvisited : id ∉ stack.map Frame.id)
      (version : g.checkVersion id need = .ok ()) (guest : id ≠ g.host.id) :
      Move g ⟨memo, stack, .enter id need⟩
        ⟨memo, ⟨id, g.dependenciesOf id⟩ :: stack, .leave (.ok ())⟩
  | gaveUp {memo : Memo} {id : String} {pending : List (String × Requirement)}
      {below : List Frame} {cause : Failure} :
      Move g ⟨memo, ⟨id, pending⟩ :: below, .leave (.error cause)⟩
        ⟨⟨(id, .fail cause) :: memo.marks, memo.order⟩, below, .leave (.error cause)⟩
  | turned {memo : Memo} {id : String} {need : String × Requirement}
      {pending : List (String × Requirement)} {below : List Frame} :
      Move g ⟨memo, ⟨id, need :: pending⟩ :: below, .leave (.ok ())⟩
        ⟨memo, ⟨id, pending⟩ :: below, .enter need.1 (some need.2)⟩
  | closed {memo : Memo} {id : String} {below : List Frame} :
      Move g ⟨memo, ⟨id, []⟩ :: below, .leave (.ok ())⟩
        ⟨⟨(id, .pass) :: memo.marks, memo.order ++ [id]⟩, below, .leave (.ok ())⟩

/-- Looking at a plugin is one of the moves. -/
theorem enter_move (g : Graph) (memo : Memo) (stack : List Frame) (id : String)
    (need : Option Requirement) :
    Move g ⟨memo, stack, .enter id need⟩ (enter g ⟨memo, stack, .enter id need⟩ id need) := by
  cases hmark : memo.mark? id with
  | some mark =>
      cases mark with
      | pass =>
          simp only [enter, hmark]
          exact .passed hmark
      | fail cause =>
          simp only [enter, hmark]
          exact .failed hmark
  | none =>
      simp only [enter, hmark, visiting, List.mem_reverse]
      by_cases hvisited : id ∈ stack.map Frame.id
      · rw [if_pos hvisited]
        exact .looped hmark hvisited
      · rw [if_neg hvisited]
        cases hversion : g.checkVersion id need with
        | error cause => exact .refused hmark hvisited hversion
        | ok _ =>
            by_cases hhost : id = g.host.id
            · subst hhost
              simp only [↓reduceIte]
              exact .host hmark hvisited hversion
            · simp only [hhost, ↓reduceIte]
              exact .opened hmark hvisited hversion hhost

theorem resume_move (g : Graph) (memo : Memo) (top : Frame) (below : List Frame)
    (result : Except Failure Unit) :
    Move g ⟨memo, top :: below, .leave result⟩
      (resume ⟨memo, top :: below, .leave result⟩ result top below) := by
  obtain ⟨id, pending⟩ := top
  cases result with
  | error cause => exact .gaveUp
  | ok _ =>
      cases pending with
      | nil => exact .closed
      | cons need pending => exact .turned

/-- A step of a search that has no result yet is one of the moves. -/
theorem step_move (g : Graph) {s : Search} (h : s.result? = none) : Move g s (s.step g) := by
  obtain ⟨memo, stack, next⟩ := s
  cases next with
  | enter id need => exact enter_move g memo stack id need
  | leave result =>
      cases stack with
      | nil => simp [result?] at h
      | cons top below => exact resume_move g memo top below result

theorem result?_eq_some_iff {s : Search} {r : Except Failure Unit} :
    s.result? = some r ↔ s.next = .leave r ∧ s.stack = [] := by
  obtain ⟨memo, stack, next⟩ := s
  cases next <;> cases stack <;> simp [result?]

theorem run_of_result {g : Graph} {s : Search} {r : Except Failure Unit}
    (h : s.result? = some r) (n : Nat) : run g n s = s := by
  induction n with
  | zero => rfl
  | succ n ih =>
      have hstep : run g (n + 1) s = run g n (s.step g) := rfl
      rw [hstep, step_of_result h, ih]

/-- A run makes moves only. -/
theorem run_reaches (g : Graph) (n : Nat) (s : Search) :
    Relation.ReflTransGen (Move g) s (run g n s) := by
  induction n generalizing s with
  | zero => exact .refl
  | succ n ih =>
      cases hresult : s.result? with
      | none => exact .head (step_move g hresult) (ih (s.step g))
      | some r =>
          rw [run_of_result hresult]

/-! ### The end of a search -/

/-- Whether a plugin is neither decided nor looked at yet. -/
def untouched (memo : Memo) (stack : List Frame) (id : String) : Bool :=
  (memo.mark? id).isNone && !(stack.map Frame.id).contains id

theorem untouched_iff {memo : Memo} {stack : List Frame} {id : String} :
    untouched memo stack id = true ↔ memo.mark? id = none ∧ id ∉ stack.map Frame.id := by
  simp [untouched]

/-- A plugin that is decided or on the stack stays one of these. -/
theorem untouched_of_move {g : Graph} {s t : Search} (hmove : Move g s t) {id : String}
    (h : untouched t.memo t.stack id = true) : untouched s.memo s.stack id = true := by
  rw [untouched_iff] at h ⊢
  obtain ⟨hmark, hunvisited⟩ := h
  cases hmove with
  | host _ _ _ => exact ⟨(Memo.mark?_cons_eq_none_iff.mp hmark).2, hunvisited⟩
  | opened _ _ _ _ => exact ⟨hmark, fun hmem => hunvisited (List.mem_cons_of_mem _ hmem)⟩
  | gaveUp =>
      obtain ⟨hne, hundecided⟩ := Memo.mark?_cons_eq_none_iff.mp hmark
      exact ⟨hundecided, List.not_mem_cons_of_ne_of_not_mem hne hunvisited⟩
  | closed =>
      obtain ⟨hne, hundecided⟩ := Memo.mark?_cons_eq_none_iff.mp hmark
      exact ⟨hundecided, List.not_mem_cons_of_ne_of_not_mem hne hunvisited⟩
  | _ => exact ⟨hmark, hunvisited⟩

/-- The steps that may still be spent on some needs of one plugin. -/
def effort (needs : List (String × Requirement)) : Nat :=
  2 * needs.length + 1

/-- The steps that may be spent on plugins no step was spent on yet. -/
def ahead (g : Graph) (memo : Memo) (stack : List Frame) : Nat :=
  ((g.nodes.filter fun n => untouched memo stack n.id).map fun n => effort n.dependencies).sum

/-- An upper bound of the steps a search still takes. -/
def work (g : Graph) (s : Search) : Nat :=
  ahead g s.memo s.stack + (s.stack.map fun f => effort f.pending).sum +
    match s.next with
    | .enter _ _ => 1
    | .leave _ => 0

theorem sum_filter_le (nodes : List Node) {p q : Node → Bool} (h : ∀ n, q n → p n)
    (weight : Node → Nat) :
    ((nodes.filter q).map weight).sum ≤ ((nodes.filter p).map weight).sum := by
  induction nodes with
  | nil => simp
  | cons n rest ih =>
      cases hq : q n with
      | true => simpa [List.filter_cons, hq, h n hq] using ih
      | false =>
          cases hp : p n with
          | true => simpa [List.filter_cons, hq, hp] using Nat.le_add_left_of_le ih
          | false => simpa [List.filter_cons, hq, hp] using ih

theorem sum_filter_add_le {nodes : List Node} {p q : Node → Bool} (h : ∀ n, q n → p n)
    (weight : Node → Nat) {n : Node} (hn : n ∈ nodes) (hp : p n) (hq : q n = false) :
    ((nodes.filter q).map weight).sum + weight n ≤ ((nodes.filter p).map weight).sum := by
  induction nodes with
  | nil => simp at hn
  | cons m rest ih =>
      rcases List.mem_cons.mp hn with rfl | hrest
      · have hle := sum_filter_le rest h weight
        simp only [List.filter_cons, hp, hq, ↓reduceIte, List.map_cons, List.sum_cons]
        simp only [Bool.false_eq_true, ↓reduceIte]
        omega
      · have hle := ih hrest
        cases hqm : q m with
        | true =>
            simp only [List.filter_cons, hqm, h m hqm, ↓reduceIte, List.map_cons, List.sum_cons]
            omega
        | false =>
            cases hpm : p m with
            | true =>
                simp only [List.filter_cons, hqm, hpm, ↓reduceIte, List.map_cons,
                  List.sum_cons, Bool.false_eq_true]
                omega
            | false =>
                simpa only [List.filter_cons, hqm, hpm, Bool.false_eq_true, ↓reduceIte] using hle

/-- Opening a plugin takes the effort it may cost out of what is ahead. -/
theorem ahead_opened {g : Graph} {memo : Memo} {stack : List Frame} {id : String}
    {need : Option Requirement} (mark : memo.mark? id = none)
    (unvisited : id ∉ stack.map Frame.id) (version : g.checkVersion id need = .ok ())
    (guest : id ≠ g.host.id) :
    ahead g memo (⟨id, g.dependenciesOf id⟩ :: stack) + effort (g.dependenciesOf id) ≤
      ahead g memo stack := by
  obtain ⟨v, hv, _⟩ := Graph.checkVersion_eq_ok_iff.mp version
  rw [g.version?_guest guest] at hv
  obtain ⟨n, hn, _⟩ := Option.map_eq_some_iff.mp hv
  obtain ⟨hmem, hid⟩ := Graph.node?_sound hn
  have hneeds : g.dependenciesOf id = n.dependencies := by simp [Graph.dependenciesOf, hn]
  rw [hneeds]
  apply sum_filter_add_le (fun m => untouched_of_move (.opened mark unvisited version guest))
    (fun m => effort m.dependencies) hmem
  · simp [untouched, hid, mark, unvisited]
  · simp [untouched, hid]

/-- Every move takes some of the work. -/
theorem work_lt {g : Graph} {s t : Search} (h : Move g s t) : t.work g < s.work g := by
  have hle : ahead g t.memo t.stack ≤ ahead g s.memo s.stack :=
    sum_filter_le g.nodes (fun _ => untouched_of_move h) _
  cases h with
  | passed _ => simp [work]
  | failed _ => simp [work]
  | looped _ _ => simp [work]
  | refused _ _ _ => simp [work]
  | host _ _ _ =>
      dsimp only [work] at hle ⊢
      omega
  | opened mark unvisited version guest =>
      have hopened := ahead_opened mark unvisited version guest
      simp only [work, List.map_cons, List.sum_cons]
      omega
  | gaveUp =>
      dsimp only [work] at hle ⊢
      simp only [List.map_cons, List.sum_cons, effort]
      omega
  | turned =>
      dsimp only [work] at hle ⊢
      simp only [List.map_cons, List.sum_cons, effort, List.length_cons]
      omega
  | closed =>
      dsimp only [work] at hle ⊢
      simp only [List.map_cons, List.sum_cons, effort]
      omega

/-- A run with enough steps has its result. -/
theorem exists_result_run {g : Graph} {n : Nat} {s : Search} (h : s.work g ≤ n) :
    ∃ r, (run g n s).result? = some r := by
  induction n generalizing s with
  | zero =>
      cases hresult : s.result? with
      | none =>
          have hlt := work_lt (step_move g hresult)
          omega
      | some r => exact ⟨r, hresult⟩
  | succ n ih =>
      cases hresult : s.result? with
      | none =>
          have hlt := work_lt (step_move g hresult)
          exact ih (by omega)
      | some r => exact ⟨r, by rw [run_of_result hresult, hresult]⟩

theorem sum_effort_le (nodes : List Node) (p : Node → Bool) :
    ((nodes.filter p).map fun n => effort n.dependencies).sum ≤
      2 * (nodes.length + (nodes.flatMap Node.dependencies).length) := by
  induction nodes with
  | nil => simp
  | cons n rest ih =>
      simp only [List.filter_cons, List.flatMap_cons, List.length_append, List.length_cons]
      cases p n with
      | true =>
          simp only [↓reduceIte, List.map_cons, List.sum_cons, effort] at ih ⊢
          omega
      | false =>
          simp only [Bool.false_eq_true, ↓reduceIte]
          omega

/-- The bound of searches is enough for each of them. -/
theorem work_start_le (g : Graph) (memo : Memo) (id : String) (need : Option Requirement) :
    (start memo id need).work g ≤ g.searchBound := by
  have hahead := sum_effort_le g.nodes fun n => untouched memo [] n.id
  simp only [work, start, ahead, List.map_nil, List.sum_nil, Graph.searchBound]
  omega

end Search

/-- The search for a plugin gets to the result that is given for it. -/
theorem Graph.resolve_reaches (g : Graph) (memo : Memo) (id : String) :
    Relation.ReflTransGen (Search.Move g) (.start memo id none)
      ⟨(g.resolve memo id).2, [], .leave (g.resolve memo id).1⟩ := by
  obtain ⟨r, hr⟩ := Search.exists_result_run (Search.work_start_le g memo id none)
  have hreaches := Search.run_reaches g g.searchBound (.start memo id none)
  obtain ⟨hnext, hstack⟩ := Search.result?_eq_some_iff.mp hr
  have hresult : (g.resolve memo id).1 = r := by simp [Graph.resolve, hr]
  have hend : (⟨(g.resolve memo id).2, [], .leave (g.resolve memo id).1⟩ : Search) =
      Search.run g g.searchBound (.start memo id none) := by
    rw [hresult, ← hnext, ← hstack]
    rfl
  rw [hend]
  exact hreaches

end PluginHost.Dependency
