import PluginHost.Text.Cut
import PluginHost.Text.Digits
import PluginHost.Version.Extra

/-!
Versions: any number of components separated by dots, where a component is a
number or a wildcard, then an optional pre-release and an optional build. A
version implies components past its end: wildcards if it ends in one, zeros
otherwise. A wildcard matches whatever stands at its place, so the order is
a preorder only among versions without wildcards.
-/
namespace PluginHost

inductive Component where
  | number (value : Nat)
  | wildcard
  deriving DecidableEq, Repr, Inhabited

structure Version where
  components : List Component
  /-- The text after `-`. -/
  pre : Option String
  /-- The text after `+`. -/
  build : Option String
  deriving DecidableEq, Repr, Inhabited

/-- Why a text is not a version. -/
inductive VersionError where
  | empty
  | invalidComponent (part : String)
  | wildcardNotAllowed (part : String)
  | invalidExtra (text : String)
  deriving DecidableEq, Repr

/-- The wording of a version error. -/
def VersionError.message : VersionError → String
  | .empty => "Version string is empty"
  | .invalidComponent part => "Invalid version number component: " ++ part
  | .wildcardNotAllowed part => "Wildcard " ++ part ++ " is not allowed"
  | .invalidExtra text => "Invalid pre-release or build string: " ++ text

namespace Component

/-- Whether a text is one of the three ways to write a wildcard. -/
def isWildcardText (part : List Char) : Bool :=
  part == ['*'] || part == ['x'] || part == ['X']

/-- Read one component. -/
def parse (allowWildcard : Bool) (part : List Char) : Except VersionError Component :=
  if isWildcardText part then
    if allowWildcard then .ok .wildcard else .error (.wildcardNotAllowed (String.ofList part))
  else
    match Text.word? part with
    | some n => .ok (.number n)
    | none => .error (.invalidComponent (String.ofList part))

def text : Component → String
  | .number n => Text.ofNat n
  | .wildcard => "*"

/-- Numbers compare by value; a wildcard equals everything. -/
def compare : Component → Component → Ordering
  | .number m, .number n => Ord.compare m n
  | _, _ => .eq

/-- Whether a component matches every number. -/
def isWildcard : Component → Bool
  | .wildcard => true
  | .number _ => false

end Component

namespace Version

/-- A version of three numbers. -/
def ofNumbers (major minor patch : Nat) : Version :=
  ⟨[.number major, .number minor, .number patch], none, none⟩

/-- The component every place past the end holds. -/
def implied (v : Version) : Component :=
  if v.components.getLast? = some .wildcard then .wildcard else .number 0

/-- The component at a place. -/
def component (v : Version) (i : Nat) : Component :=
  v.components[i]?.getD v.implied

/-- Whether a wildcard is written somewhere. -/
def hasWildcard (v : Version) : Bool :=
  v.components.any Component.isWildcard

/-! ### Reading and writing -/

/-- Refuse an extra text that is not allowed. -/
def checkExtra (allowed : String → Bool) (extra : Option (List Char)) :
    Except VersionError (Option String) :=
  match extra with
  | none => .ok none
  | some cs => if allowed (String.ofList cs) then .ok (some (String.ofList cs))
    else .error (.invalidExtra (String.ofList cs))

/-- Read a version. The build is cut off at the first plus sign, then the pre-release at the first
hyphen of what remains; the extras are checked in this order, before the numbers. -/
def parse (allowWildcard : Bool) (text : String) : Except VersionError Version := do
  let (head, buildText) := Text.cutAt '+' text.toList
  let build ← checkExtra Extra.isBuild buildText
  let (core, preText) := Text.cutAt '-' head
  let pre ← checkExtra Extra.isPre preText
  if core.isEmpty then throw .empty
  let components ← (core.splitOn '.').mapM (Component.parse allowWildcard)
  return ⟨components, pre, build⟩

def text (v : Version) : String :=
  ".".intercalate (v.components.map Component.text) ++
    (match v.pre with | some p => "-" ++ p | none => "") ++
    (match v.build with | some b => "+" ++ b | none => "")

/-! ### Order -/

/-- The first of `n` places where two versions have different numbers decides. -/
def compareUpTo (a b : Version) (n : Nat) : Ordering :=
  ((List.range n).map fun i => (a.component i).compare (b.component i)).foldr Ordering.then .eq

/-- A pre-release comes before the version itself, unless a wildcard of the other side covers it. -/
def comparePre (a b : Version) : Ordering :=
  match a.pre, b.pre with
  | some p, some q => Extra.comparePre p q
  | some _, none => if b.hasWildcard then .eq else .lt
  | none, some _ => if a.hasWildcard then .eq else .gt
  | none, none => .eq

/-- Builds count when both versions have one and neither has a wildcard. -/
def compareBuild (a b : Version) : Ordering :=
  match a.build, b.build with
  | some p, some q => if a.hasWildcard || b.hasWildcard then .eq else Extra.compareBuild p q
  | _, _ => .eq

/-- Components decide first, then pre-releases, then builds. -/
def compare (a b : Version) : Ordering :=
  (a.compareUpTo b (max a.components.length b.components.length)).then
    ((a.comparePre b).then (a.compareBuild b))

instance : Ord Version := ⟨compare⟩

/-- The version of three zeros. -/
def zero : Version := ofNumbers 0 0 0

example : (parse true "1.2.*-rc+7").toOption.map text = some "1.2.*-rc+7" := by decide +kernel
example : parse true "1..2-" = .error (.invalidComponent "") := by cbv
example : parse false "1.x+a_b" = .error (.invalidExtra "a_b") := by cbv

end Version

end PluginHost
