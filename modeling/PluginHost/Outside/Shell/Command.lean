import PluginHost.Outside.Shell.Token

/-!
The commands of a script and how they are read. Words with a meaning of their
own count only where a command may start. A script is read line by line: a line
that cannot be read takes nothing from the lines in front of it.
-/
namespace PluginHost.Shell

/-- Where input or output is led while a command runs. -/
inductive Redirection where
  | file (descriptor : Nat) (way : Way) (target : Word)
  /-- The input is a text of the script. -/
  | document (text : Word)

inductive Command where
  | nothing
  /-- Variables to set and words to run. -/
  | simple (assignments : List (String × Word)) (words : List Word)
      (redirections : List Redirection)
  | sequence (first second : Command)
  /-- The second command runs if the first one succeeds, or if it fails. -/
  | conditional (onSuccess : Bool) (first second : Command)
  | negate (body : Command)
  /-- Run while the condition succeeds, or until it does. -/
  | loop (onSuccess : Bool) (condition body : Command)
  | choice (condition yes no : Command)
  /-- Run for each word, or for each argument if none are given. -/
  | each (name : String) (words : Option (List Word)) (body : Command)
  /-- Run the first branch with a pattern that the subject fits. -/
  | select (subject : Word) (branches : List (List Word × Command))
  /-- The output of the first command is the input of the second one. -/
  | pipe (first second : Command)
  /-- Run in a shell of its own. -/
  | subshell (body : Command)
  /-- Run beside what follows. -/
  | detached (body : Command)
  | redirected (body : Command) (redirections : List Redirection)
  /-- Give a command a name. -/
  | define (name : String) (body : Command)
  /-- A line that cannot be read. -/
  | broken
  deriving Inhabited

/-- A reader of a part of a script. -/
abbrev Parse (α : Type) := StateT (List Token) Option α

namespace Parse

def peek : Parse (Option Token) := do return (← get).head?

/-- The next token if it is a word without quotes that stands for itself. -/
def peekBare : Parse (Option String) := do
  match ← peek with
  | some (.word w) => return w.bare?
  | _ => return none

/-- The next token if it is an operator. -/
def peekOperator : Parse (Option String) := do
  match ← peek with
  | some (.operator symbol) => return some symbol
  | _ => return none

/-- Leave the next token behind. -/
def skip : Parse Unit := modify List.tail

/-- Leave the next token behind if it is the given operator. -/
def eatOperator (symbol : String) : Parse Bool := do
  if (← peekOperator) == some symbol then
    skip
    return true
  else return false

/-- Leave line ends behind. -/
def skipLineEnds : Parse Unit :=
  modify fun tokens => tokens.dropWhile (· matches .operator "\n")

/-- Leave a word behind if it is the given one. -/
def eat (keyword : String) : Parse Bool := do
  if (← peekBare) == some keyword then
    skip
    return true
  else return false

/-- Need a word with a meaning of its own. -/
def need (keyword : String) : Parse Unit := do
  if !(← eat keyword) then failure

def needOperator (symbol : String) : Parse Unit := do
  if !(← eatOperator symbol) then failure

def word : Parse Word := do
  match ← peek with
  | some (.word w) => skip; return w
  | _ => failure

/-- Words up to the next operator. Each round reads one. -/
def wordsFrom : (rounds : Nat) → Parse (List Word)
  | 0 => failure
  | n + 1 => do
    match ← peek with
    | some (.word w) => skip; return w :: (← wordsFrom n)
    | _ => return []

/-- A redirection, if one comes next. -/
def redirection? : Parse (Option Redirection) := do
  match ← peek with
  | some (.redirect descriptor way) => skip; return some (.file descriptor way (← word))
  | some (.document text) => skip; return some (.document text)
  | _ => return none

/-- Redirections behind a command. Each round reads one. -/
def redirectionsFrom : (rounds : Nat) → Parse (List Redirection)
  | 0 => failure
  | n + 1 => do
    match ← redirection? with
    | some r => return r :: (← redirectionsFrom n)
    | none => return []

/-- The assignment a word is: a name, an equals sign and a value. -/
def assignment? : Word → Option (String × Word)
  | .text s false :: rest =>
    let name := s.toList.takeWhile isNameChar
    match s.toList.drop name.length with
    | '=' :: value =>
      if isName (String.ofList name) then
        some (String.ofList name,
          if value.isEmpty then rest else .text (String.ofList value) false :: rest)
      else none
    | _ => none
  | _ => none

/-- The rest of a simple command. Each round reads a word or redirection. -/
def simpleFrom : (rounds : Nat) → List (String × Word) → List Word → List Redirection →
    Parse Command
  | 0, _, _, _ => failure
  | n + 1, assigned, words, redirections => do
    match ← redirection? with
    | some r => simpleFrom n assigned words (redirections ++ [r])
    | none =>
      match ← peek with
      | some (.word w) =>
        skip
        match words, assignment? w with
        | [], some a => simpleFrom n (assigned ++ [a]) [] redirections
        | _, _ => simpleFrom n assigned (words ++ [w]) redirections
      | _ =>
        if assigned.isEmpty && words.isEmpty && redirections.isEmpty then failure
        return .simple assigned words redirections

/-- Words that end a list of commands. -/
def closers : List String := ["do", "done", "then", "elif", "else", "fi", "esac", "\x7d"]

/-- Whether a list of commands ends here. -/
def atEnd : Parse Bool := do
  match ← peek with
  | none | some (.operator ")") | some (.operator ";;") => return true
  | some (.word w) => return w.bare?.any closers.contains
  | _ => return false

/-- Commands up to where a list of them ends, or up to the end of the line. -/
def listFrom (command : Parse Command) (oneLine : Bool) : (rounds : Nat) → Parse Command
  | 0 => failure
  | n + 1 => do
    if !oneLine then skipLineEnds
    if ← atEnd then return .nothing
    if oneLine && (← peekOperator) == some "\n" then return .nothing
    let first ← command
    match ← peekOperator with
    | some ";" => skip; return .sequence first (← listFrom command oneLine n)
    | some "&" => skip; return .sequence (.detached first) (← listFrom command oneLine n)
    | some "\n" =>
      if oneLine then return first
      return .sequence first (← listFrom command oneLine n)
    | _ => return first

/-- Commands of which there is one at least. -/
def filled (list : Parse Command) : Parse Command := do
  match ← list with
  | .nothing => failure
  | commands => return commands

/-- Commands joined by success or failure. -/
def joinedFrom (command : Parse Command) : (rounds : Nat) → Command → Parse Command
  | 0, _ => failure
  | n + 1, first => do
    if ← eatOperator "&&" then
      skipLineEnds
      joinedFrom command n (.conditional true first (← command))
    else if ← eatOperator "||" then
      skipLineEnds
      joinedFrom command n (.conditional false first (← command))
    else return first

/-- Commands of which each reads what the one in front of it prints. -/
def pipedFrom (command : Parse Command) : (rounds : Nat) → Command → Parse Command
  | 0, _ => failure
  | n + 1, first => do
    if ← eatOperator "|" then
      skipLineEnds
      return .pipe first (← pipedFrom command n (← command))
    else return first

/-- Commands joined in any way, with single ones given. -/
def joined (command : Parse Command) (rounds : Nat) : Parse Command :=
  let piped : Parse Command := do
    if ← eat "!" then return .negate (← pipedFrom command rounds (← command))
    else pipedFrom command rounds (← command)
  do joinedFrom piped rounds (← piped)

/-- Patterns of a branch, up to its bracket. -/
def patternsFrom : (rounds : Nat) → Parse (List Word)
  | 0 => failure
  | n + 1 => do
    let w ← word
    if ← eatOperator "|" then return w :: (← patternsFrom n)
    needOperator ")"
    return [w]

/-- Branches of a selection. -/
def branchesFrom (list : Parse Command) : (rounds : Nat) → Parse (List (List Word × Command))
  | 0 => failure
  | n + 1 => do
    skipLineEnds
    if ← eat "esac" then return []
    let _ ← eatOperator "("
    let patterns ← patternsFrom (n + 1)
    let body ← list
    if ← eatOperator ";;" then return (patterns, body) :: (← branchesFrom list n)
    need "esac"
    return [(patterns, body)]

/-- The rest of a choice, from its condition on. Each round reads one condition. -/
def choiceFrom (list : Parse Command) : (rounds : Nat) → Parse Command
  | 0 => failure
  | n + 1 => do
    let condition ← filled list
    need "then"
    let yes ← filled list
    if ← eat "elif" then return .choice condition yes (← choiceFrom list n)
    if ← eat "else" then
      let no ← filled list
      need "fi"
      return .choice condition yes no
    need "fi"
    return .choice condition yes .nothing

def loopBody (list : Parse Command) : Parse Command := do
  need "do"
  let body ← filled list
  need "done"
  return body

/-- The rest of a loop through words. -/
def eachFrom (list : Parse Command) (rounds : Nat) : Parse Command := do
  let some name := (← word).bare? | failure
  if !isName name then failure
  skipLineEnds
  let words ← if ← eat "in" then some <$> wordsFrom rounds else pure none
  if !(← eatOperator ";") && words.isSome then needOperator "\n"
  skipLineEnds
  return .each name words (← loopBody list)

/-- Whether a definition comes next: a name and two brackets. -/
def definition? : Parse (Option String) := do
  match ← get with
  | .word w :: .operator "(" :: .operator ")" :: rest =>
    match w.bare? with
    | some name =>
      if !isName name then failure
      set rest
      return some name
    | none => failure
  | _ => return none

/-- A single command with commands nested at most `depth` deep. -/
def command : (depth : Nat) → Parse Command
  | 0 => failure
  | depth + 1 => do
    let rounds := (← get).length + 1
    let list := listFrom (joined (command depth) rounds) false rounds
    let led (compound : Parse Command) : Parse Command := do
      let body ← compound
      match ← redirectionsFrom rounds with
      | [] => return body
      | redirections => return .redirected body redirections
    if ← eatOperator "(" then
      led do
        let body ← filled list
        needOperator ")"
        return .subshell body
    else if let some name ← definition? then
      skipLineEnds
      return .define name (← command depth)
    else
      match ← peekBare with
      | some "while" => skip; led do return .loop true (← filled list) (← loopBody list)
      | some "until" => skip; led do return .loop false (← filled list) (← loopBody list)
      | some "if" => skip; led (choiceFrom list rounds)
      | some "for" => skip; led (eachFrom list rounds)
      | some "case" =>
        skip
        led do
          let subject ← word
          skipLineEnds
          need "in"
          return .select subject (← branchesFrom list rounds)
      | some "\x7b" =>
        skip
        led do
          let body ← filled list
          need "\x7d"
          return body
      | some w =>
        if w = "!" || w = "in" || closers.contains w then failure else simpleFrom rounds [] [] []
      | none => simpleFrom rounds [] [] []

def line : Parse Command := do
  let rounds := (← get).length + 2
  let commands ← listFrom (joined (command rounds) rounds) true rounds
  match ← get with
  | [] => return commands
  | .operator "\n" :: rest => set rest; return commands
  | _ => failure

/-- The scripts in a token that are run for their output. -/
def outputs : Token → List String
  | .word w | .document w => w.flatMap Part.outputs
  | _ => []

/-- The lines of a script, as long as the scripts in them can be read. Each round reads one. -/
def linesFrom (isSound : String → Bool) : (rounds : Nat) → List Token → Command
  | 0, _ => .broken
  | _, [] => .nothing
  | n + 1, tokens =>
    match line.run tokens with
    | some (commands, rest) =>
      let taken := tokens.take (tokens.length - rest.length)
      if (taken.flatMap outputs).all isSound then .sequence commands (linesFrom isSound n rest)
      else .broken
    | none => .broken

end Parse

/-- Whether some line of a script cannot be read. -/
def Command.isBroken : Command → Bool
  | .broken => true
  | .sequence _ rest => rest.isBroken
  | _ => false

/-- Whether nothing is to be done. -/
def Command.isNothing : Command → Bool
  | .nothing => true
  | .sequence first rest => first.isNothing && rest.isNothing
  | _ => false

/-- The commands of a script with scripts nested at most `depth` deep. -/
def Command.readWithin : (depth : Nat) → String → Command
  | 0, _ => .broken
  | depth + 1, script =>
    let tokens := tokens script
    let isSound (inner : String) : Bool := !(readWithin depth inner).isBroken
    Parse.linesFrom isSound (tokens.length + 1) tokens

def Command.read (script : String) : Command :=
  readWithin (script.length + 1) script

end PluginHost.Shell
