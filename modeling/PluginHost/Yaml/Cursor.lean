/-!
A place in a YAML text, with the classes of characters that layout depends
on. Lines end in any of five ways; all but two kinds of line end read as a
line feed.
-/
namespace PluginHost.Yaml

def isBlank (c : Char) : Bool :=
  c == ' ' || c == '\t'

def isBreak (c : Char) : Bool :=
  c == '\n' || c == '\r' || c == '\x85' || c == '\u2028' || c == '\u2029'

/-- Characters of names: letters, digits, dash and underscore. -/
def isNameChar (c : Char) : Bool :=
  c.isAlphanum || c == '-' || c == '_'

/-- Characters a text may hold at all. -/
def isAllowed (c : Char) : Bool :=
  let n := c.toNat
  n == 9 || n == 10 || n == 13 || (0x20 ≤ n && n ≤ 0x7e) || n == 0x85 ||
    (0xa0 ≤ n && n != 0xfffe && n != 0xffff)

/-- Whether a word is over here: at a blank, a line end, or the end of the text. -/
def endsWord : List Char → Bool
  | [] => true
  | c :: _ => isBlank c || isBreak c

/-- Whether a line is over here. -/
def endsLine : List Char → Bool
  | [] => true
  | c :: _ => isBreak c

/-- The mark of byte order, which is skipped at the start of a line between tokens. -/
def orderMark : Char := '\ufeff'

/-- The number of bytes some characters take. -/
def bytes (cs : List Char) : Nat :=
  cs.foldl (fun size c => size + c.utf8Size) 0

/-- A place in a text. Lines and columns count from zero, and the index counts bytes. -/
structure Cursor where
  rest : List Char
  line : Nat
  column : Nat
  index : Nat
  deriving Repr

namespace Cursor

/-- The start of a text. -/
def start (cs : List Char) : Cursor := ⟨cs, 0, 0, 0⟩

/-- The character here. -/
def head? (c : Cursor) : Option Char := c.rest.head?

/-- Go on by some characters of the line. -/
def skip (c : Cursor) (n : Nat) : Cursor :=
  { c with rest := c.rest.drop n, column := c.column + n,
           index := c.index + bytes (c.rest.take n) }

/-- The characters here that satisfy a test, and the place behind them. -/
def span (c : Cursor) (test : Char → Bool) : List Char × Cursor :=
  let run := c.rest.takeWhile test
  (run, c.skip run.length)

/-- Go on while a test holds. -/
def skipWhile (c : Cursor) (test : Char → Bool) : Cursor := (c.span test).2

/-- Read a line end: the characters it stands for, and the next line. -/
def lineEnd (c : Cursor) : List Char × Cursor :=
  match c.rest with
  | '\r' :: '\n' :: rest => (['\n'], ⟨rest, c.line + 1, 0, c.index + 2⟩)
  | b :: rest =>
    if isBreak b then
      ([if b == '\u2028' || b == '\u2029' then b else '\n'],
        ⟨rest, c.line + 1, 0, c.index + b.utf8Size⟩)
    else ([], c)
  | [] => ([], c)

/-- Whether three equal characters stand alone at the start of a line. -/
def atMark (c : Cursor) (mark : Char) : Bool :=
  c.column == 0 && c.rest.take 3 == [mark, mark, mark] && endsWord (c.rest.drop 3)

/-- Whether a document starts or ends here by a mark. -/
def atDocumentMark (c : Cursor) : Bool :=
  c.atMark '-' || c.atMark '.'

def skipComment (c : Cursor) : Cursor :=
  if c.head? == some '#' then c.skipWhile (!isBreak ·) else c

/-- Skip a mark of byte order at the start of a line; it takes a column. -/
def skipOrderMark (c : Cursor) : Cursor :=
  if c.column == 0 && c.head? == some orderMark then c.skip 1 else c

/-- The place after the end of a line on which nothing but a comment follows. -/
def endOfLine? (c : Cursor) : Option Cursor :=
  let c := (c.skipWhile isBlank).skipComment
  if endsLine c.rest then some c.lineEnd.2 else none

end Cursor

/-- White space between two words: the blanks, if it stays on a line, or the line ends. -/
structure Gap where
  blanks : List Char
  breaks : List Char

namespace Gap

/-- No space at all. -/
def none : Gap := ⟨[], []⟩

/-- What a gap stands for in a text: a single line end is folded to a space, and of several the
first one is dropped. -/
def text (g : Gap) : List Char :=
  match g.breaks with
  | [] => g.blanks
  | ['\n'] => [' ']
  | '\n' :: more => more
  | breaks => breaks

/-- Whether the gap leads to another line. -/
def turns (g : Gap) : Bool := !g.breaks.isEmpty

/-- Read a gap. On a new line a tab in a column before `limit` is refused. Each round reads one
character. -/
def from? (limit : Nat) : (rounds : Nat) → Gap → Cursor → Option (Gap × Cursor)
  | 0, g, c => some (g, c)
  | n + 1, g, c =>
    match c.head? with
    | .none => some (g, c)
    | some x =>
      if isBreak x then from? limit n ⟨[], g.breaks ++ c.lineEnd.1⟩ c.lineEnd.2
      else if !isBlank x then some (g, c)
      else if !g.turns then from? limit n { g with blanks := g.blanks ++ [x] } (c.skip 1)
      else if x == '\t' && c.column < limit then .none
      else from? limit n g (c.skip 1)

/-- The gap here, and the place behind it. -/
def read? (limit : Nat) (c : Cursor) : Option (Gap × Cursor) :=
  from? limit c.rest.length .none c

end Gap

end PluginHost.Yaml
