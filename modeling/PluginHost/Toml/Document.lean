import PluginHost.Toml.Text

/-!
A TOML document: lines that open a table or give a key a value, read in order
into one table.
-/
namespace PluginHost.Toml

/-! ### Space -/

def skipBlanks (cs : List Char) : List Char :=
  cs.dropWhile fun c => c == ' ' || c == '\t'

/-- The rest from a line end on, after a comment. -/
def skipComment? (cs : List Char) : Option (List Char) :=
  match cs with
  | '#' :: body =>
    match body.dropWhile isPlainChar with
    | [] => some []
    | '\n' :: rest => some ('\n' :: rest)
    | '\r' :: '\n' :: rest => some ('\n' :: rest)
    | _ => none
  | _ => some cs

/-- The rest after the end of a line, which may have a comment. -/
def endLine? (cs : List Char) : Option (List Char) := do
  match ← skipComment? (skipBlanks cs) with
  | [] => some []
  | '\n' :: rest => some rest
  | '\r' :: '\n' :: rest => some rest
  | _ => none

/-- Skip blanks, comments and line ends. -/
def skipLines? : (lines : Nat) → List Char → Option (List Char)
  | 0, _ => none
  | n + 1, cs =>
    match skipBlanks cs with
    | '#' :: _ | '\n' :: _ | '\r' :: _ => do skipLines? n (← endLine? cs)
    | rest => some rest

/-- Skip all space and comments. -/
def skipGap? (cs : List Char) : Option (List Char) :=
  skipLines? (cs.length + 1) cs

/-! ### Keys -/

/-- Characters of a key without quotes. -/
def isKeyChar (c : Char) : Bool :=
  c.isAlphanum || c == '_' || c == '-'

def keyPart? (cs : List Char) : Option (String × List Char) :=
  match cs.takeWhile isKeyChar with
  | [] => shortText? cs
  | name => some (String.ofList name, cs.dropWhile isKeyChar)

/-- A key has fewer parts than this, and collections in braces or brackets nest less deep. -/
def depthLimit : Nat := 80

/-- The parts of a key between dots. -/
def keyParts? : (parts : Nat) → List Char → Option (List String × List Char)
  | 0, _ => none
  | n + 1, cs => do
    let (part, rest) ← keyPart? (skipBlanks cs)
    match skipBlanks rest with
    | '.' :: more => do
      let (parts, rest) ← keyParts? n more
      return (part :: parts, rest)
    | rest => some ([part], rest)

/-- A key: the path to its table and its last part. -/
def key? (cs : List Char) : Option ((List String × String) × List Char) := do
  let (parts, rest) ← keyParts? (depthLimit - 1) cs
  return ((parts.dropLast, ← parts.getLast?), rest)

/-! ### Values -/

/-- A reader of one thing from the start of a text. -/
abbrev Reader (α : Type) := List Char → Option (α × List Char)

/-- A key and its value. -/
def pair? (value : Reader Value) : Reader ((List String × String) × Value) := fun cs => do
  let (key, rest) ← key? cs
  match rest with
  | '=' :: rest => do
    let (x, rest) ← value (skipBlanks rest)
    return ((key, x), rest)
  | _ => none

/-- Items up to the closing bracket; a comma may follow the last one. -/
def itemsFrom? (value : Reader Value) : (items : Nat) → List Value → Reader Value
  | 0, _, _ => none
  | n + 1, seen, cs => do
    match ← skipGap? cs with
    | ']' :: rest => some (.list seen.reverse, rest)
    | cs =>
      let (x, rest) ← value cs
      match ← skipGap? rest with
      | ',' :: rest => itemsFrom? value n (x :: seen) rest
      | ']' :: rest => some (.list (x :: seen).reverse, rest)
      | _ => none

/-- Pairs up to the closing brace; a comma stands only between two. -/
def pairsFrom? (value : Reader Value) : (pairs : Nat) → Table → Reader Value
  | 0, _, _ => none
  | n + 1, t, cs => do
    let (((path, key), x), rest) ← pair? value cs
    let t ← t.assign? path key x
    match skipBlanks rest with
    | ',' :: rest => pairsFrom? value n t rest
    | '\x7d' :: rest => some (.table .braces t.members, rest)
    | _ => none

/-- A value with collections at most `depth` deep. -/
def value? : (depth : Nat) → Reader Value
  | _, '"' :: cs => do
    let (s, rest) ← text? ('"' :: cs)
    return (.text s, rest)
  | _, '\'' :: cs => do
    let (s, rest) ← text? ('\'' :: cs)
    return (.text s, rest)
  | depth + 1, '[' :: cs => itemsFrom? (value? depth) (cs.length + 1) [] cs
  | depth + 1, '{' :: cs =>
    match skipBlanks cs with
    | '}' :: rest => some (.table .braces [], rest)
    | _ => pairsFrom? (value? depth) (cs.length + 1) .root cs
  | _, cs => scalar? cs

/-! ### Lines -/

/-- A document in the making: its root, and the path of the table that lines go to. -/
structure Draft where
  root : Table
  current : List String

/-- Read one line; blanks in front of it are gone. -/
def line? (d : Draft) : List Char → Option (Draft × List Char)
  | '[' :: '[' :: cs => do
    let ((path, key), rest) ← key? cs
    match rest with
    | ']' :: ']' :: rest => do
      let root ← d.root.alter? .passed (Table.openElement? key) path
      return (⟨root, path ++ [key]⟩, ← endLine? rest)
    | _ => none
  | '[' :: cs => do
    let ((path, key), rest) ← key? cs
    match rest with
    | ']' :: rest => do
      let root ← d.root.alter? .passed (Table.openTable? key) path
      return (⟨root, path ++ [key]⟩, ← endLine? rest)
    | _ => none
  | cs => do
    let (((path, key), x), rest) ← pair? (value? (depthLimit - 1)) cs
    let root ← d.root.alter? .passed (Table.assign? path key x) d.current
    return ({ d with root }, ← endLine? rest)

/-- Read all lines. -/
def linesFrom? : (lines : Nat) → Draft → List Char → Option Table
  | 0, _, _ => none
  | n + 1, d, cs => do
    match ← skipGap? cs with
    | [] => some d.root
    | cs =>
      let (d, rest) ← line? d cs
      linesFrom? n d rest

/-- The table a document stands for. A byte order mark in front of it does not count. -/
def read? (text : String) : Option Value :=
  let cs := match text.toList with
    | '\ufeff' :: cs => cs
    | cs => cs
  (linesFrom? (cs.length + 1) ⟨.root, []⟩ cs).map Table.value

end PluginHost.Toml
