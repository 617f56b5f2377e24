import PluginHost.Version.Basic

/-!
Requirements: criteria separated by spaces, all of which a version has to
meet. A criterion is an operator in front of a base version, or a base
version alone, which asks for equality.
-/
namespace PluginHost

/-- How a version has to relate to the base of a criterion. -/
inductive Operator where
  | lessEqual
  | greaterEqual
  | less
  | greater
  | equal
  /-- Not below the base, with the same first component. -/
  | caret
  /-- Not below the base, with the same first two components. -/
  | tilde
  deriving DecidableEq, Repr

/-- One condition on versions. -/
structure Criterion where
  operator : Operator
  base : Version
  /-- Written without an operator. -/
  implicit : Bool
  deriving DecidableEq, Repr

/-- A list of criteria; none accepts every version. -/
structure Requirement where
  criteria : List Criterion
  deriving DecidableEq, Repr, Inhabited

namespace Operator

/-- The ways to write operators, longer ones before their beginnings. -/
def spellings : List (List Char × Operator) :=
  [(['<', '='], .lessEqual), (['>', '='], .greaterEqual), (['<'], .less), (['>'], .greater),
   (['=', '='], .equal), (['='], .equal), (['^'], .caret), (['~'], .tilde)]

/-- The way an operator is shown. -/
def symbol : Operator → String
  | .lessEqual => "<="
  | .greaterEqual => ">="
  | .less => "<"
  | .greater => ">"
  | .equal => "=="
  | .caret => "^"
  | .tilde => "~"

/-- The operator a text starts with, and the text after it. -/
def strip? (cs : List Char) : Option (Operator × List Char) :=
  spellings.findSome? fun s =>
    if s.1.isPrefixOf cs then some (s.2, cs.drop s.1.length) else none

end Operator

namespace Criterion

/-- Read a criterion. -/
def parse (cs : List Char) : Except VersionError Criterion :=
  match Operator.strip? cs with
  | some (operator, rest) => do return ⟨operator, ← Version.parse true (String.ofList rest), false⟩
  | none => do return ⟨.equal, ← Version.parse true (String.ofList cs), true⟩

def text (c : Criterion) : String :=
  if c.implicit then c.base.text else c.operator.symbol ++ c.base.text

/-- Whether a version meets the criterion. -/
def test (c : Criterion) (v : Version) : Bool :=
  match c.operator with
  | .lessEqual => (v.compare c.base).isLE
  | .greaterEqual => (v.compare c.base).isGE
  | .less => v.compare c.base == .lt
  | .greater => v.compare c.base == .gt
  | .equal => v.compare c.base == .eq
  | .caret => (v.compare c.base).isGE && v.component 0 == c.base.component 0
  | .tilde => (v.compare c.base).isGE && v.component 0 == c.base.component 0 &&
      v.component 1 == c.base.component 1

end Criterion

namespace Requirement

/-- The requirement every version meets. -/
def any : Requirement := ⟨[]⟩

/-- Read a requirement; the first criterion that cannot be read is reported. -/
def parse (text : String) : Except VersionError Requirement := do
  return ⟨← ((text.toList.splitOn ' ').filter (!·.isEmpty)).mapM Criterion.parse⟩

def text (r : Requirement) : String :=
  " ".intercalate (r.criteria.map Criterion.text)

/-- Whether there is any condition. -/
def hasCriterion (r : Requirement) : Bool :=
  !r.criteria.isEmpty

/-- Whether a version meets every criterion. -/
def accepts (r : Requirement) (v : Version) : Bool :=
  r.criteria.all (·.test v)

example : (parse "  >=1.2   <2 =3").toOption.map text = some ">=1.2 <2 ==3" := by decide +kernel

end Requirement

end PluginHost
