import PluginHost.Outside.Shell.Exit
import PluginHost.Outside.Shell.Pattern
import PluginHost.Outside.Shell.Sum

/-!
What a word stands for. Parameters, sums and the output of commands are put in
their places; then what was not quoted is cut into fields, and a field that is
a pattern is replaced by the names of the files that fit.
-/
namespace PluginHost.Shell

/-- How a character came into a word. -/
inductive Origin where
  | written
  /-- As part of a value, which may be cut. -/
  | value
  | quoted
  deriving DecidableEq, Repr

/-- A piece of an expanded word. -/
inductive Bit where
  | char (c : Char) (origin : Origin)
  /-- Quotes: a field is here even if it is empty. -/
  | kept
  /-- The end of an argument and the start of the next one. -/
  | border
  deriving DecidableEq, Repr

/-- An expanded word. -/
abbrev Expanded := List Bit

namespace Expanded

/-- The characters of a text. -/
def ofText (origin : Origin) (text : String) : Expanded :=
  text.toList.map fun c => .char c origin

def ofValue (quoted : Bool) (value : String) : Expanded :=
  if quoted then .kept :: ofText .quoted value else ofText .value value

/-- The text as a whole. -/
def text (e : Expanded) : String :=
  String.ofList (e.filterMap fun
    | .char c _ => some c
    | .kept => none
    | .border => some ' ')

/-- The text as a written pattern. -/
def written (e : Expanded) : Pattern.Written :=
  e.filterMap fun
    | .char c origin => some (c, origin == .quoted)
    | .kept => none
    | .border => some (' ', false)

/-- The word as a part of a value. -/
def asValue (e : Expanded) : Expanded :=
  e.map fun
    | .char c .written => .char c .value
    | bit => bit

/-! ### Fields -/

/-- Cut a word into fields at characters of values. A blank goes with the blanks around it and with
one other cutting character, which by itself ends a field, be it empty. -/
def cutFrom (isCut isBlank : Char → Bool) :
    (field : Option Expanded) → (blanks : Bool) → Expanded → List Expanded
  | field, _, [] => (field.map List.reverse).toList
  | field, _, .border :: rest =>
    (field.map List.reverse).toList ++ cutFrom isCut isBlank none false rest
  | field, blanks, .char c .value :: rest =>
    if !isCut c then cutFrom isCut isBlank (some (.char c .value :: field.getD [])) false rest
    else
      match field, isBlank c with
      | some field, blank => field.reverse :: cutFrom isCut isBlank none blank rest
      | none, true => cutFrom isCut isBlank none blanks rest
      | none, false =>
        if blanks then cutFrom isCut isBlank none false rest
        else [.kept] :: cutFrom isCut isBlank none false rest
  | field, _, bit :: rest => cutFrom isCut isBlank (some (bit :: field.getD [])) false rest

/-- The fields of a word, with the cutting characters given. -/
def fields (separators : String) (e : Expanded) : List Expanded :=
  let isCut (c : Char) : Bool := separators.toList.contains c
  cutFrom isCut (fun c => c == ' ' || c == '\t' || c == '\n') none false e

end Expanded

namespace State

/-- The characters at which values are cut. -/
def separators (s : State) : String :=
  (s.bindings.lookup "IFS").getD " \t\n"

/-- The values of a parameter, if it has any. -/
def values? (s : State) (name : String) : Option (List String) :=
  match name with
  | "@" | "*" => if s.arguments.isEmpty then none else some s.arguments
  | "#" => some [Text.ofNat s.arguments.length]
  | "?" => some [Text.ofNat s.status]
  | "$" => some [processNumber]
  | "!" => if s.jobs.isEmpty then none else some [Text.ofNat (s.jobs.length + 1)]
  | "-" => some [(if s.options.exitOnFailure then "e" else "") ++
      (if s.options.needsValues then "u" else "") ++ (if s.options.noFileNames then "f" else "")]
  | _ =>
    match Number.natural? name with
    | some 0 => some [s.title]
    | some (n + 1) => s.arguments[n]?.map ([·])
    | none => (s.bindings.lookup name).map ([·])

/-- The values of a parameter as a part of a word. -/
def shown (s : State) (name : String) (quoted : Bool) (values : List String) : Expanded :=
  if name = "*" && quoted then
    let joint := String.ofList (s.separators.toList.take 1)
    Expanded.ofValue true (joint.intercalate values)
  else [Bit.border].intercalate (values.map (Expanded.ofValue quoted))

/-! ### Names of files -/

/-- The names in a directory, with those it has for itself and the one above it. -/
def namesIn (s : State) (directory : String) : List String :=
  match s.files.locate (s.path directory) with
  | .ok place =>
    if s.files.isDirectory (s.path directory) then
      "." :: ".." :: (s.files.names place).map Octets.ofText
    else []
  | .error _ => []

/-- The names that fit a pattern after the start of a path. Names with a point in front fit only a
pattern with one. -/
def extend (s : State) (start : Option String) (segment : Pattern) : List (Option String) :=
  let under (name : String) : Option String := some ((start.map (· ++ "/")).getD "" ++ name)
  if segment.isOpen then
    let directory := match start with
      | none => "."
      | some start => start ++ "/"
    ((s.namesIn directory).filter fun name =>
      (name.toList.head? != some '.' || segment.head? == some (.char '.')) &&
        segment.fits name.toList).map under
  else
    [under (String.ofList (segment.filterMap fun
      | .char c => some c
      | _ => none))]

/-- The paths that fit a pattern, in order. -/
def fileNames (s : State) (pattern : Pattern.Written) : List String :=
  let segments := (pattern.splitOnP (·.1 == '/')).map Pattern.read
  let found := (segments.foldl (fun starts segment => starts.flatMap (s.extend · segment)) [none])
  (found.filterMap fun name => name.filter fun name => s.files.present (s.path name)).mergeSort
    fun a b => decide (a ≤ b)

/-- The texts a field stands for. -/
def replaced (s : State) (field : Expanded) : List String :=
  if s.options.noFileNames || !(Pattern.read field.written).isOpen then [field.text]
  else
    match s.fileNames field.written with
    | [] => [field.text]
    | names => names

end State

/-! ### Parts -/

/-- Work out a sum. -/
def workOut (expression : String) : Run String := do
  match (Sum.read? expression).bind (Sum.value? (← get).bindings) with
  | some (value, bindings) =>
    modify fun s => { s with bindings }
    return Text.ofInt value.toInt
  | none => refuse

/-- What a script prints, without the line ends it ends in. -/
def outputOf (run : Command → Run Unit) (script : String) : Run String := do
  let status := (← get).status
  let (output, stop?) ← catching (untilExit run (run (Command.read script)))
  if let some stop := stop? then throw stop
  modify fun s => { s with caughtStatus := some s.status, status }
  let kept := (output.toList.filter (· != '\x00')).reverse.dropWhile (· == '\n')
  return String.ofList kept.reverse

/-- What a parameter with a change stands for, given what its word stands for. -/
def changed (name : String) (change : Change) (quoted : Bool) (word : Run Expanded) :
    Run Expanded := do
  let s ← get
  let values? := s.values? name
  let isMissing (orEmpty : Bool) : Bool :=
    values?.all fun values => orEmpty && values.all (· == "")
  let needed : Run (List String) := do
    if values?.isNone && s.options.needsValues && name != "@" && name != "*" then refuse
    return values?.getD []
  let inPlace : Run Expanded := do
    let word ← word
    return if quoted then .kept :: word else word.asValue
  let own : Run Expanded := return s.shown name quoted (values?.getD [])
  match change with
  | .none =>
    let values ← needed
    if values?.isNone && name != "@" then return Expanded.ofValue quoted ""
    return s.shown name quoted values
  | .length =>
    let values ← needed
    let size := if name = "@" || name = "*" then values.length else (values.headD "").length
    return Expanded.ofValue quoted (Text.ofNat size)
  | .otherwise orEmpty => if isMissing orEmpty then inPlace else own
  | .assign orEmpty =>
    if !isMissing orEmpty then own
    else
      let value := (← word).text
      if !isName name then refuse
      assign name value
      return Expanded.ofValue quoted value
  | .require orEmpty => if isMissing orEmpty then refuse else own
  | .instead orEmpty => if isMissing orEmpty then return Expanded.ofValue quoted "" else inPlace
  | .cutFront longest =>
    let values ← needed
    let pattern := Pattern.read (← word).written
    return s.shown name quoted (values.map fun v => String.ofList (pattern.cutFront longest v.toList))
  | .cutBack longest =>
    let values ← needed
    let pattern := Pattern.read (← word).written
    return s.shown name quoted (values.map fun v => String.ofList (pattern.cutBack longest v.toList))
  | .unknown => refuse

mutual

/-- What a part of a word stands for, given how commands are run. -/
def expandPart (run : Command → Run Unit) : Part → Run Expanded
  | .text value quoted =>
    return if quoted then .kept :: Expanded.ofText .quoted value else Expanded.ofText .written value
  | .parameter name change word quoted => changed name change quoted (expandParts run word)
  | .sum expression quoted => do
    return Expanded.ofValue quoted (← workOut (← expandParts run expression).text)
  | .output script quoted => return Expanded.ofValue quoted (← outputOf run script)

/-- What parts stand for, one after the other. -/
def expandParts (run : Command → Run Unit) : List Part → Run Expanded
  | [] => return []
  | part :: rest => return (← expandPart run part) ++ (← expandParts run rest)

end

/-! ### Words -/

/-- The text a word stands for as a whole. -/
def Word.text (run : Command → Run Unit) (w : Word) : Run String :=
  return (← expandParts run w).text

/-- The pattern a word stands for. -/
def Word.pattern (run : Command → Run Unit) (w : Word) : Run Pattern :=
  return Pattern.read (← expandParts run w).written

/-- The texts a word stands for. -/
def Word.fields (run : Command → Run Unit) (w : Word) : Run (List String) := do
  let expanded ← expandParts run w
  let s ← get
  return (expanded.fields s.separators).flatMap s.replaced

/-- The texts some words stand for. -/
def fieldsOf (run : Command → Run Unit) : List Word → Run (List String)
  | [] => return []
  | w :: rest => return (← w.fields run) ++ (← fieldsOf run rest)

end PluginHost.Shell
