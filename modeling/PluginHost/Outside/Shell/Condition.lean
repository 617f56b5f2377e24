import PluginHost.Outside.Shell.Number
import PluginHost.Outside.Shell.State

/-!
Conditions of a script: on texts, numbers and files, with the words that join
and deny them.
-/
namespace PluginHost.Shell.Condition

/-- The words that compare what stands around them. -/
def comparisons : List String :=
  ["=", "!=", "<", ">", "-eq", "-ne", "-lt", "-le", "-gt", "-ge", "-nt", "-ot", "-ef"]

/-- The words that ask something of the word behind them. -/
def questions : List String :=
  ["-n", "-z", "-e", "-f", "-d", "-r", "-w", "-x", "-s", "-h", "-L", "-p", "-S", "-b", "-c", "-u",
    "-g", "-k", "-t", "-O", "-G"]

/-- Whether a comparison holds, if the words can be compared. Files have no age. -/
def compare? (a operator b : String) : Option Bool :=
  let numbers (holds : Int64 → Int64 → Bool) : Option Bool := do
    return holds (← Number.decimal? a) (← Number.decimal? b)
  match operator with
  | "=" => some (a == b)
  | "!=" => some (a != b)
  | "<" => some (decide (a < b))
  | ">" => some (decide (b < a))
  | "-eq" => numbers (· == ·)
  | "-ne" => numbers (· != ·)
  | "-lt" => numbers fun x y => decide (x < y)
  | "-le" => numbers fun x y => decide (x ≤ y)
  | "-gt" => numbers fun x y => decide (y < x)
  | "-ge" => numbers fun x y => decide (y ≤ x)
  | _ => some false

/-- Whether a question is answered with yes. All files can be read and written, and directories
searched. -/
def ask (s : State) (question word : String) : Bool :=
  let entry := (s.find word).toOption
  match question with
  | "-n" => word != ""
  | "-z" => word == ""
  | "-e" | "-r" | "-w" | "-O" | "-G" => entry.isSome
  | "-d" | "-x" => (entry matches some .directory)
  | "-f" => (entry matches some (.file _))
  | "-s" =>
    match entry with
    | some (.file content) => content.size != 0
    | some .directory => true
    | none => false
  | _ => false

/-- A reader of a condition from the start of some words. -/
abbrev Reading := List String → Option (Bool × List String)

/-- Whether a word is a question, or else a word like any other: it is one if a word follows that is
not compared with another one. -/
def isQuestion (word : String) (rest : List String) : Bool :=
  questions.contains word &&
    match rest with
    | [] => false
    | [_] => true
    | operator :: _ :: _ => !comparisons.contains operator

/-- What a condition is read as, from the loosest to the tightest. -/
inductive Level where
  | either
  | both
  | denied
  | single

/-- Read a condition of a level. Each step goes to a tighter level or past a word. -/
def readAt? (s : State) : (steps : Nat) → Level → Reading
  | 0, _, _ => none
  | n + 1, .either, words => do
    match ← readAt? s n .both words with
    | (a, "-o" :: rest) => (readAt? s n .either rest).map fun (b, rest) => (a || b, rest)
    | other => some other
  | n + 1, .both, words => do
    match ← readAt? s n .denied words with
    | (a, "-a" :: rest) => (readAt? s n .both rest).map fun (b, rest) => (a && b, rest)
    | other => some other
  | n + 1, .denied, words =>
    match words with
    | "!" :: rest => (readAt? s n .denied rest).map fun (a, rest) => (!a, rest)
    | _ => readAt? s n .single words
  | _ + 1, .single, [] => some (false, [])
  | n + 1, .single, "(" :: next :: rest => do
    match ← readAt? s n .either (next :: rest) with
    | (a, ")" :: rest) => some (a, rest)
    | _ => none
  | _ + 1, .single, word :: rest =>
    match rest with
    | [] => some (word != "", [])
    | next :: more =>
      if isQuestion word rest then some (ask s word next, more)
      else if comparisons.contains next then
        match more with
        | b :: more => (compare? word next b).map (·, more)
        | [] => none
      else some (word != "", rest)

/-- Whether the condition holds that some words are, if they are one. -/
def holds? (s : State) (words : List String) : Option Bool :=
  let read : Option Bool := do
    match ← readAt? s (4 * (words.length + 1)) .either words with
    | (holds, []) => some holds
    | _ => none
  match words with
  | [] => some false
  | [a, operator, b] => if comparisons.contains operator then compare? a operator b else read
  | _ => read

end PluginHost.Shell.Condition
