import PluginHost.Yaml.Token

/-!
From a YAML text to its tokens. Columns open and close block collections, and
a colon turns what was read before it on the line into a key: the place of
every token that may yet become a key is remembered, one for each level of
flow collections.
-/
namespace PluginHost.Yaml

/-- A place where a key may have started. -/
structure KeyPlace where
  /-- The number of tokens in front of it. -/
  position : Nat
  line : Nat
  column : Nat
  index : Nat
  /-- Nothing but a key may stand here. -/
  required : Bool

/-- A text read up to a cursor. -/
structure Layout where
  cursor : Cursor
  tokens : Array Token
  /-- Columns of the open block collections, the innermost first. -/
  indents : List Nat
  /-- Possible keys of the enclosing flow collections, the innermost first. -/
  outer : List (Option KeyPlace)
  possible : Option KeyPlace
  /-- Whether a key may start here. -/
  keyAllowed : Bool

namespace Layout

/-- The start of a text. -/
def start (cs : List Char) : Layout := ⟨.start cs, #[], [], [], none, true⟩

/-- Whether the cursor is in a flow collection. -/
def inFlow (s : Layout) : Bool := !s.outer.isEmpty

/-- The column that content of the innermost block collection starts at, at least. -/
def limit (s : Layout) : Nat := (s.indents.head?.map (· + 1)).getD 0

/-- Add a token. -/
def emit (s : Layout) (token : Token) : Layout := { s with tokens := s.tokens.push token }

/-- Go on by some characters. -/
def skip (s : Layout) (n : Nat) : Layout := { s with cursor := s.cursor.skip n }

/-- Close the block collections whose column is behind the given one, or all of them. -/
def closeBlocks (s : Layout) (column : Option Nat) : Layout :=
  if s.inFlow then s
  else
    let stays (i : Nat) : Bool := match column with
      | some c => i ≤ c
      | none => false
    let closed := s.indents.takeWhile fun i => !stays i
    { s with
      indents := s.indents.drop closed.length
      tokens := s.tokens ++ Array.replicate closed.length Token.closeBlock }

/-- Open a block collection in a column, unless one of that column or a deeper one is open. Its
token goes to the given position. -/
def openBlock (s : Layout) (column : Nat) (token : Token) (position : Nat) : Layout :=
  if s.inFlow || column < s.limit then s
  else
    { s with
      indents := column :: s.indents
      tokens := s.tokens.insertIdxIfInBounds position token }

/-! ### Possible keys -/

/-- Give up a possible key; a required one is missed. -/
def giveUp? : Option KeyPlace → Option Unit
  | some k => if k.required then none else some ()
  | none => some ()

/-- Forget the possible key of this level. -/
def dropKey? (s : Layout) : Option Layout := do
  giveUp? s.possible
  return { s with possible := none }

/-- Remember a place where a key may start. -/
def markKey? (s : Layout) : Option Layout :=
  if s.keyAllowed then do
    let s ← s.dropKey?
    let c := s.cursor
    let required := !s.inFlow && s.indents.head? == some c.column
    return { s with possible := some ⟨s.tokens.size, c.line, c.column, c.index, required⟩ }
  else some s

/-- A key ends on its line and within a thousand and some bytes. -/
def isStale (c : Cursor) (k : KeyPlace) : Bool :=
  k.line < c.line || k.index + 1024 < c.index

/-- Forget the possible keys that can no longer be one. -/
def dropStale? (s : Layout) : Option Layout := do
  let fresh? (k : Option KeyPlace) : Option (Option KeyPlace) :=
    match k with
    | some place => if isStale s.cursor place then (giveUp? k).map fun _ => none else some k
    | none => some none
  return { s with possible := ← fresh? s.possible, outer := ← s.outer.mapM fresh? }

/-! ### Between tokens -/

/-- Skip blanks, comments, line ends, and marks of byte order. Tabs are no blanks where a key may
start in a block. -/
def skipSpace : (lines : Nat) → Layout → Layout
  | 0, s => s
  | n + 1, s =>
    let tabs := s.inFlow || !s.keyAllowed
    let isSpace (x : Char) : Bool := x == ' ' || (tabs && x == '\t')
    let c := (s.cursor.skipOrderMark.skipWhile isSpace).skipComment
    if c.rest.isEmpty || !endsLine c.rest then { s with cursor := c }
    else skipSpace n { s with cursor := c.lineEnd.2, keyAllowed := !s.inFlow || s.keyAllowed }

/-! ### Tokens -/

/-- A token of some characters before which no key can be under way. -/
def mark? (s : Layout) (token : Token) (width : Nat) (keyAllowed : Bool) : Option Layout := do
  return { (← s.dropKey?).emit token with keyAllowed, cursor := s.cursor.skip width }

/-- A mark of a document closes all blocks. -/
def documentMark? (s : Layout) (token : Token) : Option Layout :=
  (s.closeBlocks none).mark? token 3 false

def directiveLine? (s : Layout) : Option Layout := do
  let s ← (s.closeBlocks none).dropKey?
  let (token, cursor) ← directive? s.cursor
  return { s.emit token with cursor, keyAllowed := false }

/-- The start of a flow collection, which may itself be a key. -/
def enterFlow? (s : Layout) (token : Token) : Option Layout := do
  let s ← s.markKey?
  return { (s.emit token).skip 1 with
    outer := s.possible :: s.outer, possible := none, keyAllowed := true }

/-- The end of a flow collection. -/
def leaveFlow? (s : Layout) (token : Token) : Option Layout := do
  let s ← s.mark? token 1 false
  match s.outer with
  | [] => return s
  | k :: outer => return { s with outer, possible := k }

/-- A dash or question mark that opens a block collection if need be. -/
def blockMark? (s : Layout) (token opener : Token) (keyAllowed : Bool) : Option Layout :=
  if !s.inFlow && !s.keyAllowed then none
  else (s.openBlock s.cursor.column opener s.tokens.size).mark? token 1 keyAllowed

/-- A colon: what was marked as a possible key is one, or the key was written in full. -/
def colon? (s : Layout) : Option Layout :=
  match s.possible with
  | some k =>
    let s := { s with tokens := s.tokens.insertIdxIfInBounds k.position .key }
    let s := (s.openBlock k.column .openBlockMapping k.position).emit .value
    some { s.skip 1 with possible := none, keyAllowed := false }
  | none =>
    if !s.inFlow && !s.keyAllowed then none
    else
      let s := (s.openBlock s.cursor.column .openBlockMapping s.tokens.size).emit .value
      some { s.skip 1 with keyAllowed := !s.inFlow }

/-- A token that may start a key. -/
def keyStart? (s : Layout) (token : Token) (next : Cursor) : Option Layout := do
  return { (← s.markKey?).emit token with cursor := next, keyAllowed := false }

/-- Whether a plain scalar may start here. -/
def startsPlain (inFlow : Bool) : List Char → Bool
  | [] => false
  | x :: rest =>
    (!isBlank x && !isBreak x && !"-?:,[]\x7b\x7d#&*!|>\x27\x22%@\x60".toList.contains x) ||
    (x == '-' && (rest.head?.map isBlank) != some true) ||
    (!inFlow && (x == '?' || x == ':') && !endsWord rest)

/-- Read one token. -/
def token? (s : Layout) : Option Layout :=
  let c := s.cursor
  let flow := s.inFlow
  let wordOver := endsWord (c.rest.drop 1)
  match c.rest with
  | [] => none
  | x :: rest =>
    if c.column == 0 && x == '%' then s.directiveLine?
    else if c.atMark '-' then s.documentMark? .documentStart
    else if c.atMark '.' then s.documentMark? .documentEnd
    else if x == '[' then s.enterFlow? .openSequence
    else if x == '{' then s.enterFlow? .openMapping
    else if x == ']' then s.leaveFlow? .closeSequence
    else if x == '}' then s.leaveFlow? .closeMapping
    else if x == ',' then s.mark? .comma 1 true
    else if x == '-' && wordOver then s.blockMark? .item .openBlockSequence true
    else if x == '?' && (flow || wordOver) then s.blockMark? .key .openBlockMapping (!flow)
    else if x == ':' && (flow || wordOver) then s.colon?
    else if x == '*' then do
      let (name, next) ← anchorName? c
      s.keyStart? (.alias name) next
    else if x == '&' then do
      let (name, next) ← anchorName? c
      s.keyStart? (.anchor name) next
    else if x == '!' then do
      let (token, next) ← tag? flow c
      s.keyStart? token next
    else if (x == '|' || x == '>') && !flow then do
      let s ← s.dropKey?
      let (text, next) ← block? (x == '|') s.limit c
      let style := if x == '|' then Style.literal else .folded
      return { s.emit (.scalar style (String.ofList text)) with cursor := next, keyAllowed := true }
    else if x == '\'' || x == '"' then do
      let (text, next) ← quoted? (x == '"') c
      let style := if x == '"' then Style.doubleQuoted else .singleQuoted
      s.keyStart? (.scalar style (String.ofList text)) next
    else if startsPlain flow (x :: rest) then do
      let p ← plain? flow s.limit c
      let s ← s.keyStart? (.scalar .plain (String.ofList p.text)) p.next
      return { s with keyAllowed := p.turned }
    else none

/-- Read all tokens. -/
def finish? : (tokens : Nat) → Layout → Option (List Token)
  | 0, _ => none
  | n + 1, s => do
    let s ← (skipSpace (s.cursor.rest.length + 1) s).dropStale?
    let s := s.closeBlocks (some s.cursor.column)
    if s.cursor.rest.isEmpty then
      return (← (s.closeBlocks none).dropKey?).tokens.toList
    finish? n (← s.token?)

end Layout

def tokens? (text : String) : Option (List Token) :=
  let cs := text.toList
  if cs.all isAllowed then Layout.finish? (cs.length + 1) (.start cs) else none

end PluginHost.Yaml
