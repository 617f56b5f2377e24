import PluginHost.Version.Requirement

/-!
Dependency graphs: plugins with their versions and needs, and the host, which
every plugin may need and which needs nothing itself.
-/
namespace PluginHost

/-- The id and version the host has in dependency checks. -/
structure HostIdentity where
  id : String
  version : Version
  deriving DecidableEq, Repr, Inhabited

namespace Dependency

/-- What the check has to know about one plugin. -/
structure Node where
  id : String
  version : Version
  dependencies : List (String × Requirement)
  deriving DecidableEq, Repr, Inhabited

/-- Why a plugin fails the check. Each cause names the plugin it is about. -/
inductive Failure where
  | notFound (id : String)
  | notMet (id : String) (requirement : Requirement) (actual : Version)
  | parentFailed (id : String) (cause : Failure)
  | loop (id : String) (path : List String)
  deriving DecidableEq, Repr, Inhabited

namespace Failure

/-- The plugin a cause is about. -/
def id : Failure → String
  | .notFound id => id
  | .notMet id _ _ => id
  | .parentFailed id _ => id
  | .loop id _ => id

/-- The innermost cause. -/
def root : Failure → Failure
  | .parentFailed _ cause => cause.root
  | other => other

/-- The wording of a failure. -/
def message : Failure → String
  | .notFound id => "Dependency " ++ id ++ " not found"
  | .notMet id requirement actual => "Dependency " ++ id ++ " does not meet version requirement " ++
      requirement.text ++ " (found " ++ actual.text ++ ")"
  | .parentFailed id cause => "Parent dependency " ++ id ++ " failed to check dependency: " ++
      cause.message
  | .loop _ path => "Dependency loop: " ++ " -> ".intercalate path

end Failure

/-- The host and the plugins to check. -/
structure Graph where
  host : HostIdentity
  nodes : List Node
  deriving Inhabited

namespace Graph

/-- The node with an id; of several the last one counts. -/
def node? (g : Graph) (id : String) : Option Node :=
  g.nodes.reverse.find? fun n => n.id = id

/-- The version found under an id. -/
def version? (g : Graph) (id : String) : Option Version :=
  if id = g.host.id then some g.host.version else (g.node? id).map Node.version

/-- What the plugin with an id needs. -/
def dependenciesOf (g : Graph) (id : String) : List (String × Requirement) :=
  ((g.node? id).map Node.dependencies).getD []

/-- The ids of the nodes, in order. -/
def ids (g : Graph) : List String :=
  g.nodes.map Node.id

/-- Whether the version found under an id is one a requirement accepts. -/
def checkVersion (g : Graph) (id : String) (requirement : Option Requirement) :
    Except Failure Unit :=
  match g.version? id with
  | none => .error (.notFound id)
  | some version =>
    match requirement with
    | none => .ok ()
    | some r => if r.accepts version then .ok () else .error (.notMet id r version)

theorem version?_host (g : Graph) : g.version? g.host.id = some g.host.version := by
  simp [version?]

theorem version?_guest (g : Graph) {id : String} (guest : id ≠ g.host.id) :
    g.version? id = (g.node? id).map Node.version := by
  simp [version?, guest]

theorem node?_sound {g : Graph} {id : String} {n : Node} (h : g.node? id = some n) :
    n ∈ g.nodes ∧ n.id = id := by
  have hmem := List.mem_of_find?_eq_some h
  have hid := List.find?_some h
  exact ⟨List.mem_reverse.mp hmem, by simpa using hid⟩

/-- A version is accepted when there is one and no requirement speaks against it. -/
theorem checkVersion_eq_ok_iff {g : Graph} {id : String} {need : Option Requirement} :
    g.checkVersion id need = .ok () ↔
      ∃ v, g.version? id = some v ∧ ∀ r, need = some r → r.accepts v = true := by
  unfold checkVersion
  cases g.version? id with
  | none => simp
  | some v =>
    cases need with
    | none => simp
    | some r => by_cases h : r.accepts v <;> simp [h]

end Graph

end Dependency

end PluginHost
