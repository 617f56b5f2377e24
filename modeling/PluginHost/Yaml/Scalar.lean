import PluginHost.Yaml.Cursor
import PluginHost.Text.Digits

/-!
YAML scalars: plain, quoted, and block scalars. The lines of the first two
kinds are folded; a literal block keeps its lines.
-/
namespace PluginHost.Yaml

/-- How a scalar is written. -/
inductive Style where
  | plain
  | singleQuoted
  | doubleQuoted
  | literal
  | folded
  deriving DecidableEq, Repr

/-! ### Plain scalars -/

/-- Characters that end a plain scalar in a flow collection. -/
def isFlowMark (c : Char) : Bool :=
  c == ',' || c == '[' || c == ']' || c == '{' || c == '}'

/-- The word of a plain scalar at the start of the text. A colon ends it before white space; in a
flow collection, a colon before a mark is refused. -/
def plainWord? (inFlow : Bool) : List Char → Option (List Char)
  | [] => some []
  | x :: rest =>
    if isBlank x || isBreak x || (x == ':' && endsWord rest) || (inFlow && isFlowMark x) then some []
    else if inFlow && x == ':' && (rest.head?.map fun y => isFlowMark y || y == '?') == some true then
      none
    else (plainWord? inFlow rest).map (x :: ·)

/-- A plain scalar: its text, whether it ends on a later line than its last word, and the place
behind it. -/
structure Plain where
  text : List Char
  turned : Bool
  next : Cursor

/-- The words of a plain scalar and what is between them. Outside flow collections, words on later
lines stand in column `limit` or behind it. -/
def plainFrom? (inFlow : Bool) (limit : Nat) : (words : Nat) → List Char → Gap → Cursor → Option Plain
  | 0, _, _, _ => none
  | n + 1, seen, gap, c =>
    if c.atDocumentMark || c.head? == some '#' then some ⟨seen, gap.turns, c⟩
    else do
      let word ← plainWord? inFlow c.rest
      if word.isEmpty then return ⟨seen, gap.turns, c⟩
      let seen := seen ++ gap.text ++ word
      let c := c.skip word.length
      if c.rest.isEmpty || !endsWord c.rest then return ⟨seen, false, c⟩
      let (gap, c) ← Gap.read? limit c
      if !inFlow && c.column < limit then return ⟨seen, gap.turns, c⟩
      plainFrom? inFlow limit n seen gap c

/-- The plain scalar here. -/
def plain? (inFlow : Bool) (limit : Nat) (c : Cursor) : Option Plain :=
  plainFrom? inFlow limit (c.rest.length + 1) [] .none c

/-! ### Quoted scalars -/

/-- The value of a hexadecimal digit, sixteen for any other character. -/
def hexValue (c : Char) : Nat :=
  if c.isDigit then c.toNat - '0'.toNat
  else if 'a' ≤ c ∧ c ≤ 'f' then c.toNat - 'a'.toNat + 10
  else if 'A' ≤ c ∧ c ≤ 'F' then c.toNat - 'A'.toNat + 10
  else 16

/-- The number written in hexadecimal digits. -/
def hex? (cs : List Char) : Option Nat :=
  if cs.all (hexValue · < 16) then some (cs.foldl (fun n c => n * 16 + hexValue c) 0) else none

/-- The character of a one-letter escape. -/
def escaped? : Char → Option Char
  | '0' => some '\x00'
  | 'a' => some '\x07'
  | 'b' => some '\x08'
  | 't' | '\t' => some '\t'
  | 'n' => some '\n'
  | 'v' => some '\x0b'
  | 'f' => some '\x0c'
  | 'r' => some '\r'
  | 'e' => some '\x1b'
  | ' ' => some ' '
  | '"' => some '"'
  | '/' => some '/'
  | '\\' => some '\\'
  | 'N' => some '\x85'
  | '_' => some '\xa0'
  | 'L' => some '\u2028'
  | 'P' => some '\u2029'
  | _ => none

/-- How many hexadecimal digits an escape takes. -/
def escapeWidth? : Char → Option Nat
  | 'x' => some 2
  | 'u' => some 4
  | 'U' => some 8
  | _ => none

/-- The character of the escape after a backslash, and how long the escape is. -/
def escape? : List Char → Option (Char × Nat)
  | [] => none
  | e :: rest =>
    match escapeWidth? e with
    | none => (escaped? e).map (·, 1)
    | some width => do
      let code ← hex? (rest.take width)
      if rest.length < width ∨ ¬ code.isValidChar then none else some (Char.ofNat code, width + 1)

/-- The characters of a quoted scalar after its opening quote, and the place behind it. Each round
reads at least one character. -/
def quotedFrom? (double : Bool) : (rounds : Nat) → List Char → Cursor → Option (List Char × Cursor)
  | 0, _, _ => none
  | n + 1, seen, c =>
    if c.atDocumentMark then none
    else
      match c.rest with
      | [] => none
      | x :: rest =>
        if isBlank x || isBreak x then do
          let (gap, c) ← Gap.read? 0 c
          quotedFrom? double n (seen ++ gap.text) c
        else if !double && x == '\'' then
          if rest.head? == some '\'' then quotedFrom? double n (seen ++ ['\'']) (c.skip 2)
          else some (seen, c.skip 1)
        else if double && x == '"' then some (seen, c.skip 1)
        else if double && x == '\\' then
          if !rest.isEmpty && endsLine rest then do
            let (gap, c) ← Gap.read? 0 (c.skip 1).lineEnd.2
            quotedFrom? double n (seen ++ gap.breaks) c
          else do
            let (e, width) ← escape? rest
            quotedFrom? double n (seen ++ [e]) (c.skip (width + 1))
        else quotedFrom? double n (seen ++ [x]) (c.skip 1)

/-- The quoted scalar here. -/
def quoted? (double : Bool) (c : Cursor) : Option (List Char × Cursor) :=
  quotedFrom? double c.rest.length [] (c.skip 1)

/-! ### Block scalars -/

/-- What is kept of the line ends behind a block scalar. -/
inductive Chomp where
  | strip
  | clip
  | keep
  deriving DecidableEq, Repr

/-- The header of a block scalar after its mark: chomping and a number of columns in either
order. -/
structure BlockHeader where
  chomp : Chomp
  columns : Option Nat

/-- The chomping a sign stands for. -/
def Chomp.ofSign? : Char → Option Chomp
  | '+' => some .keep
  | '-' => some .strip
  | _ => none

/-- Read a header; no number of columns is zero. -/
def BlockHeader.read? (c : Cursor) : Option (BlockHeader × Cursor) :=
  let digit? (c : Cursor) : Option Nat := (c.head?.filter Char.isDigit).map (hexValue ·)
  let sign? (c : Cursor) : Option Chomp := c.head?.bind Chomp.ofSign?
  match sign? c, digit? c with
  | some chomp, _ =>
    match digit? (c.skip 1) with
    | some 0 => none
    | some n => some (⟨chomp, some n⟩, c.skip 2)
    | none => some (⟨chomp, none⟩, c.skip 1)
  | none, some 0 => none
  | none, some n =>
    match sign? (c.skip 1) with
    | some chomp => some (⟨chomp, some n⟩, c.skip 2)
    | none => some (⟨.clip, some n⟩, c.skip 1)
  | none, none => some (⟨.clip, none⟩, c)

/-- Empty lines in front of a line of a block scalar, and the deepest column blanks lead to. Without
an indent all leading spaces are skipped, with one only those in front of it. -/
def emptyLines? (indent : Option Nat) : (lines : Nat) → (deepest : Nat) → List Char → Cursor →
    Option (Nat × List Char × Cursor)
  | 0, deepest, breaks, c => some (deepest, breaks, c)
  | n + 1, deepest, breaks, c =>
    let spaces := (c.rest.takeWhile (· == ' ')).length
    let c := c.skip (match indent with
      | none => spaces
      | some i => min spaces (i - c.column))
    let deepest := max deepest c.column
    if c.head? == some '\t' && (indent.all (c.column < ·)) then none
    else if c.rest.isEmpty || !endsLine c.rest then some (deepest, breaks, c)
    else emptyLines? indent n deepest (breaks ++ c.lineEnd.1) c.lineEnd.2

/-- A block scalar under way: its text, the end of the line before, whether that line starts with a
blank, and the ends of the empty lines after it. -/
structure Block where
  text : List Char
  lineEnd : List Char
  indented : Bool
  empties : List Char

/-- What stands between the line before and the next one. In a folded scalar a line end between two
lines that do not start with a blank becomes a space, or goes if empty lines follow. -/
def Block.joint (b : Block) (literal indented : Bool) : List Char :=
  if !literal && b.lineEnd == ['\n'] && !b.indented && !indented then
    if b.empties.isEmpty then [' '] else b.empties
  else b.lineEnd ++ b.empties

/-- The lines of a block scalar that stand in a column. -/
def blockFrom? (literal : Bool) (indent : Nat) : (lines : Nat) → Block → Cursor → Option (Block × Cursor)
  | 0, _, _ => none
  | n + 1, b, c =>
    if c.column == indent && !c.rest.isEmpty then do
      let indented := (c.head?.map isBlank) == some true
      let (line, c) := c.span (!isBreak ·)
      let (lineEnd, c) := c.lineEnd
      let (_, empties, c) ← emptyLines? (some indent) (c.rest.length + 1) 0 [] c
      blockFrom? literal indent n
        ⟨b.text ++ b.joint literal indented ++ line, lineEnd, indented, empties⟩ c
    else some (b, c)

/-- The block scalar here, inside a block whose content starts at column `limit` or behind it. -/
def block? (literal : Bool) (limit : Nat) (c : Cursor) : Option (List Char × Cursor) := do
  let (header, c) ← BlockHeader.read? (c.skip 1)
  let c ← c.endOfLine?
  let given := header.columns.map fun n => limit - 1 + n
  let (deepest, empties, c) ← emptyLines? given (c.rest.length + 1) 0 [] c
  let indent := given.getD (max (max deepest limit) 1)
  let (b, c) ← blockFrom? literal indent (c.rest.length + 1) ⟨[], [], false, empties⟩ c
  return (b.text ++ (match header.chomp with
    | .strip => []
    | .clip => b.lineEnd
    | .keep => b.lineEnd ++ b.empties), c)

/-! ### Numbers -/

/-- Digits in a base, in front of which nothing stands. -/
def digitsIn? (base : Nat) (cs : List Char) : Option Nat :=
  if !cs.isEmpty && cs.all (hexValue · < base) then
    some (cs.foldl (fun n c => n * base + hexValue c) 0)
  else none

/-- The natural number a scalar reads as: decimal without leading zeros, or in a base told by what
stands in front. -/
def natural? (text : String) : Option Nat :=
  match Text.dropPlus text.toList with
  | '0' :: 'x' :: cs => digitsIn? 16 cs
  | '0' :: 'o' :: cs => digitsIn? 8 cs
  | '0' :: 'b' :: cs => digitsIn? 2 cs
  | ['0'] => some 0
  | '0' :: _ => none
  | cs => digitsIn? 10 cs

/-- The truth value a scalar reads as. -/
def bool? (text : String) : Option Bool :=
  if text = "true" ∨ text = "True" ∨ text = "TRUE" then some true
  else if text = "false" ∨ text = "False" ∨ text = "FALSE" then some false
  else none

end PluginHost.Yaml
