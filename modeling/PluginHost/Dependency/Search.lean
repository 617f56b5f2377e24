import PluginHost.Dependency.Graph

/-!
The depth-first search behind the dependency check, one small step at a time.

A search has a stack of plugins whose needs are being looked at, and a record
of the plugins already decided. A plugin is decided once: it passes when all
it needs has passed with an accepted version, and fails with the first need
that does not. A need that is itself on the stack closes a loop. An accepted
version is asked for before a plugin is looked at, so a plugin that only has
the wrong version for one dependent stays undecided.
-/
namespace PluginHost.Dependency

/-- What is decided about a plugin. -/
inductive Mark where
  | pass
  | fail (cause : Failure)
  deriving DecidableEq, Repr

/-- What a check has decided so far. -/
structure Memo where
  /-- Decided plugins, the latest first. -/
  marks : List (String × Mark)
  /-- Plugins that passed, dependencies first. -/
  order : List String
  deriving DecidableEq, Repr, Inhabited

/-- Nothing is decided. -/
def Memo.empty : Memo := ⟨[], []⟩

/-- What is decided about an id. -/
def Memo.mark? (memo : Memo) (id : String) : Option Mark :=
  memo.marks.lookup id

/-- A plugin whose needs are being looked at, and those not looked at yet. -/
structure Frame where
  id : String
  pending : List (String × Requirement)
  deriving DecidableEq, Repr, Inhabited

/-- What a search does next. -/
inductive Turn where
  /-- Look at a plugin somebody needs, or at one to check for its own sake. -/
  | enter (id : String) (requirement : Option Requirement)
  /-- Go on with the topmost plugin, now that its latest need is settled. -/
  | leave (result : Except Failure Unit)

/-- A moment of a search. -/
structure Search where
  memo : Memo
  /-- The innermost plugin first. -/
  stack : List Frame
  next : Turn

namespace Search

def start (memo : Memo) (id : String) (requirement : Option Requirement) : Search :=
  ⟨memo, [], .enter id requirement⟩

/-- The ids on the stack, the outermost first. -/
def visiting (s : Search) : List String :=
  (s.stack.map Frame.id).reverse

/-- The result, once nothing is left to do. -/
def result? (s : Search) : Option (Except Failure Unit) :=
  match s.next, s.stack with
  | .leave result, [] => some result
  | _, _ => none

/-- Look at a plugin: it may be decided already, close a loop, have the wrong version, be the host,
or be a plugin whose needs come next. -/
def enter (g : Graph) (s : Search) (id : String) (requirement : Option Requirement) : Search :=
  match s.memo.mark? id with
  | some .pass => { s with next := .leave (g.checkVersion id requirement) }
  | some (.fail cause) => { s with next := .leave (.error (.parentFailed id cause)) }
  | none =>
    if id ∈ s.visiting then
      { s with next := .leave (.error (.loop id (s.visiting.dropWhile (· != id) ++ [id]))) }
    else
      match g.checkVersion id requirement with
      | .error e => { s with next := .leave (.error e) }
      | .ok () =>
        if id = g.host.id then
          { s with memo := { s.memo with marks := (id, .pass) :: s.memo.marks }, next := .leave (.ok ()) }
        else
          { s with stack := ⟨id, g.dependenciesOf id⟩ :: s.stack, next := .leave (.ok ()) }

/-- Go on with the topmost plugin: it fails with its latest need, turns to the next one, or
passes. -/
def resume (s : Search) (result : Except Failure Unit) (top : Frame) (below : List Frame) : Search :=
  match result, top.pending with
  | .error e, _ =>
    { memo := { s.memo with marks := (top.id, .fail e) :: s.memo.marks }, stack := below,
      next := .leave (.error e) }
  | .ok (), (id, requirement) :: pending =>
    { s with stack := { top with pending } :: below, next := .enter id (some requirement) }
  | .ok (), [] =>
    { memo := ⟨(top.id, .pass) :: s.memo.marks, s.memo.order ++ [top.id]⟩, stack := below,
      next := .leave (.ok ()) }

/-- One step; a search that has its result stays as it is. -/
def step (g : Graph) (s : Search) : Search :=
  match s.next, s.stack with
  | .enter id requirement, _ => s.enter g id requirement
  | .leave _, [] => s
  | .leave result, top :: below => s.resume result top below

/-- A number of steps. -/
def run (g : Graph) : Nat → Search → Search
  | 0, s => s
  | n + 1, s => run g n (s.step g)

/-- The moments of a search, from its start to a number of steps later. -/
def moments (g : Graph) : Nat → Search → List Search
  | 0, s => [s]
  | n + 1, s => s :: moments g n (s.step g)

end Search

/-- As many steps as a search can take: each plugin is put on the stack and taken off at most once,
and each of its needs is turned to and looked at at most once. -/
def Graph.searchBound (g : Graph) : Nat :=
  2 * (g.nodes.length + (g.nodes.flatMap Node.dependencies).length) + 2

/-- Search for one plugin to the end: the result and what is decided then. A search that could not
end in the bound would be a plugin that was not found. -/
def Graph.resolve (g : Graph) (memo : Memo) (id : String) : Except Failure Unit × Memo :=
  let s := Search.run g g.searchBound (Search.start memo id none)
  (s.result?.getD (.error (.notFound id)), s.memo)

theorem Search.run_add (g : Graph) (m n : Nat) (s : Search) :
    Search.run g (m + n) s = Search.run g n (Search.run g m s) := by
  induction m generalizing s with
  | zero => simp [Search.run]
  | succ m ih => rw [Nat.succ_add]; exact ih _

/-- A search that has its result stays as it is. -/
theorem Search.step_of_result {g : Graph} {s : Search} {r : Except Failure Unit}
    (h : s.result? = some r) : s.step g = s := by
  unfold Search.result? at h
  split at h
  · next hn hs => simp [Search.step, hn, hs]
  · exact absurd h (by simp)

end PluginHost.Dependency
