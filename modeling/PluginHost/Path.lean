/-!
Paths as text, and the steps they take. Two spellings of a path are the same
when they take the same steps, whatever single dots, doubled or trailing
slashes stand between them; only a leading dot counts.
-/
namespace PluginHost

/-- A path as it was given. -/
structure Path where
  text : String
  deriving DecidableEq, Repr, Inhabited

namespace Path

inductive Step where
  | root
  | current
  | parent
  | name (value : String)
  deriving DecidableEq, Repr

/-- The texts between the slashes. -/
def segments (p : Path) : List String :=
  (p.text.toList.splitOn '/').map String.ofList

/-- Whether the path starts at the root. -/
def isAbsolute (p : Path) : Bool :=
  p.text.toList.head? == some '/'

/-- The step of a segment that is not the first one. -/
def Step.ofSegment? (segment : String) : Option Step :=
  if segment = "" ∨ segment = "." then none
  else if segment = ".." then some .parent
  else some (.name segment)

def steps (p : Path) : List Step :=
  let later := p.segments.filterMap Step.ofSegment?
  if p.isAbsolute then .root :: later
  else if p.segments.head? = some "." then .current :: later
  else later

/-- Whether two spellings are the same path. -/
def same (p q : Path) : Bool :=
  p.steps == q.steps

/-- Kinds of steps in ascending order. -/
def Step.rank : Step → Nat
  | .root => 0
  | .current => 1
  | .parent => 2
  | .name _ => 3

/-- Steps compare by kind, names by their characters. -/
def Step.compare (a b : Step) : Ordering :=
  match a, b with
  | .name x, .name y => Ord.compare x y
  | a, b => Ord.compare a.rank b.rank

/-- Paths compare step by step; a path comes before its extensions. -/
def compareSteps : List Step → List Step → Ordering
  | [], [] => .eq
  | [], _ :: _ => .lt
  | _ :: _, [] => .gt
  | a :: as, b :: bs => (a.compare b).then (compareSteps as bs)

/-- The order paths are listed in. -/
def le (p q : Path) : Bool :=
  (compareSteps p.steps q.steps).isLE

/-- A path continued by a relative one; an absolute one replaces it. -/
def join (dir : Path) (child : String) : Path :=
  if child.toList.head? = some '/' then ⟨child⟩
  else if dir.text = "" then ⟨child⟩
  else if dir.text.toList.getLast? = some '/' then ⟨dir.text ++ child⟩
  else ⟨dir.text ++ "/" ++ child⟩

/-- The last step, if it is a name. -/
def name? (p : Path) : Option String :=
  match p.steps.getLast? with
  | some (.name n) => some n
  | _ => none

/-- Segments without the single dots and slashes they end in. -/
def dropTrailingDots (segments : List String) : List String :=
  (segments.reverse.dropWhile fun s => s == "" || s == ".").reverse

/-- The directory a path lies in; the empty path if it is a single name. -/
def parent (p : Path) : Path :=
  match dropTrailingDots (dropTrailingDots p.segments).dropLast with
  | [] => ⟨if p.isAbsolute then "/" else ""⟩
  | segments => ⟨"/".intercalate segments⟩

/-- Whether a path ends in a single dot, whatever slashes are behind it. -/
def endsInDot (p : Path) : Bool :=
  (p.segments.reverse.dropWhile (· == "")).head? == some "."

/-- The name shown for a path: its last step, or all of it when that is not a name. -/
def shortName (p : Path) : String :=
  p.name?.getD p.text

/-- The text after the last dot of the name, unless that dot is the first character. -/
def extension? (p : Path) : Option String :=
  match p.name? with
  | none => none
  | some n =>
    let backwards := n.toList.reverse
    match backwards.dropWhile (· != '.') with
    | [] => none
    | [_] => none
    | _ :: _ :: _ => some (String.ofList (backwards.takeWhile (· != '.')).reverse)

/-- Whether two spellings are the same path is an equivalence: both take the same steps. -/
theorem same_iff {p q : Path} : p.same q = true ↔ p.steps = q.steps := by
  simp [same]

example : same ⟨"plugins//a/./b/"⟩ ⟨"plugins/a/b"⟩ = true := by decide +kernel
example : same ⟨"./a"⟩ ⟨"a"⟩ = false := by decide +kernel
example : parent ⟨"a/./b//"⟩ = ⟨"a"⟩ := by decide +kernel

end Path

/-- The text without a suffix it ends in. -/
def dropSuffix (text suffix : String) : String :=
  if suffix.toList.isSuffixOf text.toList then
    String.ofList (text.toList.take (text.toList.length - suffix.toList.length))
  else text

/-- Whether the text ends in the suffix. -/
def hasSuffix (text suffix : String) : Bool :=
  suffix.toList.isSuffixOf text.toList

end PluginHost
