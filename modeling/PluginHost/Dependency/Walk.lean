import PluginHost.Dependency.Search
import PluginHost.Log.Category

/-!
The dependency check of a whole graph: which plugins can run and in which
order, why the others cannot, and who is affected when some of them go.
-/
namespace PluginHost.Dependency

/-- The outcome of a check. -/
structure Walk where
  graph : Graph
  /-- Failed plugins with their causes, in the order of the nodes. -/
  failures : List (String × Failure)
  memo : Memo

namespace Walk

/-- Check one node after others. A plugin that already failed as somebody's need keeps its cause. -/
def visit (g : Graph) (w : Walk) (node : Node) : Walk :=
  match w.memo.mark? node.id with
  | some (.fail cause) => { w with failures := w.failures ++ [(node.id, cause)] }
  | _ =>
    match g.resolve w.memo node.id with
    | (.ok (), memo) => { w with memo }
    | (.error e, memo) => { w with failures := w.failures ++ [(node.id, e)], memo }

/-- A walker that has checked nothing yet. -/
def unstarted (host : HostIdentity) : Walk := ⟨⟨host, []⟩, [], .empty⟩

/-- Check nodes, in order. What earlier checks with the same walker left is dropped. -/
def again (w : Walk) (nodes : List Node) : Walk :=
  let g : Graph := { w.graph with nodes }
  nodes.foldl (visit g) { w with graph := g, failures := [], memo := .empty }

end Walk

/-- Check every node, in order. -/
def Graph.walk (g : Graph) : Walk :=
  (Walk.unstarted g.host).again g.nodes

namespace Walk

/-- The plugins that passed, dependencies first. -/
def order (w : Walk) : List String :=
  w.memo.order

/-- All results: failures in the order of the nodes, then what passed, dependencies first. -/
def results (w : Walk) : List (String × Except Failure Unit) :=
  w.failures.map (fun f => (f.1, .error f.2)) ++ w.order.map (·, .ok ())

/-- The records of a check, for the category `plugin`: each plugin that failed in the order they
did, and the order of those that passed. -/
def log (w : Walk) (debug : DebugOptions) : List LogRecord :=
  if debug.shouldLog .plugin then
    (w.memo.marks.reverse.filterMap fun m =>
      match m.2 with
      | .fail cause => some (pluginLog .debug ("Set visiting state of " ++ m.1 ++
          " to FAIL due to \"" ++ cause.message ++ "\""))
      | .pass => none) ++
    [pluginLog .debug ("Dependency topological order: " ++ ", ".intercalate w.order)]
  else []

end Walk

/-! ### Who is affected -/

namespace Graph

/-- The ids of nodes outside a set that need something in it. -/
def dependentsOf (g : Graph) (set : List String) : List String :=
  (g.nodes.filter fun n => !set.contains n.id && n.dependencies.any fun d => set.contains d.1).map
    Node.id

/-- A set with the nodes that need something in it. -/
def withDependents (g : Graph) (set : List String) : List String :=
  set ++ g.dependentsOf set

/-- A set with all nodes that need something in it, directly or through others. -/
def closure (g : Graph) (set : List String) : List String :=
  Nat.repeat g.withDependents g.nodes.length set

end Graph

/-- Some nodes and everything that needs them, directly or not: first those that did not pass, by
id, then those that did, dependencies first. -/
def Walk.affected (w : Walk) (ids : List String) : List String :=
  let set := w.graph.closure ids
  ((w.graph.ids.eraseDups.filter fun id => set.contains id && !w.order.contains id).mergeSort
      fun a b => !decide (b < a)) ++
    w.order.filter fun id => set.contains id

end PluginHost.Dependency
