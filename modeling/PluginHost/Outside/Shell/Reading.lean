import PluginHost.Outside.Shell.State

/-!
How a script reads: a line at a time for its variables, or all that comes. A
script whose input is used up but not closed waits.
-/
namespace PluginHost.Shell

/-- A character of a line, and whether it never cuts the line. -/
abbrev LineChar := Char × Bool

/-- The characters of the first line, whether it ended, and what is left. A backslash takes the
meaning from what it stands in front of, and joins lines, unless the line is raw. -/
def firstLine (raw : Bool) : List Char → List LineChar × Bool × List Char
  | [] => ([], false, [])
  | '\n' :: rest => ([], true, rest)
  | c :: rest =>
    let keep (c : LineChar) (more : List LineChar × Bool × List Char) :
        List LineChar × Bool × List Char := (c :: more.1, more.2)
    if c == '\\' && !raw then
      match rest with
      | '\n' :: rest => firstLine raw rest
      | e :: rest => keep (e, true) (firstLine raw rest)
      | [] => ([], false, [])
    else if c == '\x00' then firstLine raw rest
    else keep (c, false) (firstLine raw rest)

/-- What cuts a line: separators, which are blanks or not. -/
structure Separators where
  all : List Char

namespace Separators

def cuts (s : Separators) (c : LineChar) : Bool := !c.2 && s.all.contains c.1

/-- Whether a character of a line cuts it and is a blank. -/
def isBlank (s : Separators) (c : LineChar) : Bool :=
  s.cuts c && (c.1 == ' ' || c.1 == '\t' || c.1 == '\n')

/-- The text that the last variable gets: all that is left but blanks at the end. If only separators
follow the first field, and of these at most one is not a blank, none of them is kept. A character
whose meaning was taken neither separates nor keeps what stands in front of it. -/
def remainder (s : Separators) (cs : List LineChar) : String :=
  let field := cs.takeWhile (!s.cuts ·)
  let behind := cs.dropWhile (!s.cuts ·)
  let isLoose (c : LineChar) : Bool := c.2 || s.isBlank c
  let kept :=
    if behind.all (fun c => c.2 || s.cuts c) && (behind.filter (!isLoose ·)).length ≤ 1 then field
    else
      let loose := (cs.reverse.takeWhile isLoose).reverse
      cs.take (cs.length - loose.length) ++ loose.takeWhile (!s.isBlank ·)
  String.ofList (kept.map Prod.fst)

/-- What is left behind a field: blanks around one separator that is not a blank go with it. -/
def behind (s : Separators) (cs : List LineChar) : List LineChar :=
  let rest := cs.dropWhile s.isBlank
  match rest with
  | c :: after => if s.cuts c then after.dropWhile s.isBlank else rest
  | [] => []

/-- The texts of a line for some variables. -/
def share (s : Separators) : List String → List LineChar → List (String × String)
  | [], _ => []
  | [name], cs => [(name, s.remainder cs)]
  | name :: names, cs =>
    let field := cs.takeWhile (!s.cuts ·)
    (name, String.ofList (field.map Prod.fst)) :: s.share names (s.behind (cs.drop field.length))

end Separators

/-- Read a line into variables. It fails if the input ends before the line does. -/
def readLine (raw : Bool) (names : List String) : Run Unit := do
  let s ← get
  let (line, ended, rest) := firstLine raw s.input
  if !ended && !s.closed then throw .waiting
  let separators : Separators := ⟨((s.bindings.lookup "IFS").getD " \t\n").toList⟩
  set { s with input := rest }
  test ended
  for (name, value) in separators.share names (line.dropWhile separators.isBlank) do
    if isName name then assign name value
    else
      answer mistaken
      break

/-- Take all that comes. The answer tells whether more may come. -/
def readAll : Run (String × Bool) := do
  let s ← get
  set { s with input := [] }
  return (String.ofList s.input, !s.closed)

end PluginHost.Shell
