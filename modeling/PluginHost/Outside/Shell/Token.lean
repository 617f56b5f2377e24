import PluginHost.Outside.Shell.Number
import PluginHost.Outside.Shell.Word

/-!
The tokens of a script: words, operators, and what leads input and output
elsewhere. Where the script cannot be cut any further stands a token of its
own, so that the lines in front of it can still be run.
-/
namespace PluginHost.Shell

/-- Where a redirection leads. -/
inductive Way where
  | read
  | write
  /-- After what the file holds. -/
  | append
  /-- Where another descriptor leads. -/
  | like
  deriving DecidableEq, Repr

inductive Token where
  | word (word : Word)
  /-- An operator; a line end is one. -/
  | operator (symbol : String)
  /-- A descriptor is led elsewhere; a word that says where follows. -/
  | redirect (descriptor : Nat) (way : Way)
  /-- The input is a text of the script. -/
  | document (text : Word)
  /-- The rest is no script. -/
  | broken
  deriving Repr

/-- A reader of one thing from the start of a text. -/
abbrev Reader (α : Type) := List Char → Option (α × List Char)

/-- Characters that end a word. -/
def isMeta (c : Char) : Bool :=
  c == ' ' || c == '\t' || c == '\n' || c == ';' || c == '&' || c == '|' || c == '(' || c == ')' ||
    c == '<' || c == '>'

/-! ### Texts within brackets and quotes -/

/-- The characters up to the one that closes the last of the open brackets and quotes, which are
given by what closes them, the innermost first. -/
def enclosed? : (closers : List Char) → Reader (List Char)
  | [], rest => some ([], rest)
  | _ :: _, [] => none
  | closer :: outer, c :: rest =>
    let keep (cs : List Char) : Option (List Char × List Char) → Option (List Char × List Char) :=
      Option.map fun (body, rest) => (cs ++ body, rest)
    if c == closer then
      if outer.isEmpty then some ([], rest) else keep [c] (enclosed? outer rest)
    else if closer == '\'' then keep [c] (enclosed? (closer :: outer) rest)
    else if c == '\\' || (c == '$' && rest.head? == some '(') then
      let closers := if c == '$' then ')' :: closer :: outer else closer :: outer
      match rest with
      | e :: rest => keep [c, e] (enclosed? closers rest)
      | [] => none
    else if c == '"' then keep [c] (enclosed? ('"' :: closer :: outer) rest)
    else if closer == ')' && c == '\'' then keep [c] (enclosed? ('\'' :: closer :: outer) rest)
    else if closer == ')' && c == '(' then keep [c] (enclosed? (')' :: closer :: outer) rest)
    else keep [c] (enclosed? (closer :: outer) rest)

/-- The characters up to a back quote. A backslash goes with what it stands in front of if that has
a meaning. -/
def backQuoted? (quoted : Bool) : Reader (List Char)
  | [] => none
  | '\x60' :: rest => some ([], rest)
  | '\\' :: e :: rest =>
    let special := e == '$' || e == '\x60' || e == '\\' || (quoted && e == '"')
    (backQuoted? quoted rest).map fun (body, rest) =>
      (if special then e :: body else '\\' :: e :: body, rest)
  | c :: rest => (backQuoted? quoted rest).map fun (body, rest) => (c :: body, rest)

/-! ### Words -/

/-- Where parts are read, which tells where they end and what is special there. -/
inductive Setting where
  /-- Outside of quotes, up to a character that ends words. -/
  | bare
  /-- In double quotes. -/
  | quoted
  /-- In the braces of a parameter, which may stand in double quotes. -/
  | braced (quoted : Bool)
  /-- A text of its own. -/
  | document
  deriving DecidableEq

/-- Whether parts that are read there are quoted. -/
def Setting.isQuoted : Setting → Bool
  | .bare | .braced false => false
  | _ => true

/-- Whether a backslash takes the meaning from a character. -/
def Setting.escapes (setting : Setting) (c : Char) : Bool :=
  match setting with
  | .bare | .braced false => true
  | .quoted => c == '$' || c == '\x60' || c == '\\' || c == '"'
  | .braced true => c == '$' || c == '\x60' || c == '\\' || c == '"' || c == '}'
  | .document => c == '$' || c == '\x60' || c == '\\'

/-- The change of a parameter that is written in its braces, and whether a word follows. -/
def change? : Reader (Change × Bool)
  | '}' :: rest => some ((.none, false), rest)
  | ':' :: '-' :: rest => some ((.otherwise true, true), rest)
  | '-' :: rest => some ((.otherwise false, true), rest)
  | ':' :: '=' :: rest => some ((.assign true, true), rest)
  | '=' :: rest => some ((.assign false, true), rest)
  | ':' :: '?' :: rest => some ((.require true, true), rest)
  | '?' :: rest => some ((.require false, true), rest)
  | ':' :: '+' :: rest => some ((.instead true, true), rest)
  | '+' :: rest => some ((.instead false, true), rest)
  | '#' :: '#' :: rest => some ((.cutFront true, true), rest)
  | '#' :: rest => some ((.cutFront false, true), rest)
  | '%' :: '%' :: rest => some ((.cutBack true, true), rest)
  | '%' :: rest => some ((.cutBack false, true), rest)
  | rest => some ((.unknown, true), rest)

/-- The name of a parameter: that of a variable, a number, or a single sign. -/
def parameterName? (cs : List Char) : Option (String × List Char) :=
  match cs with
  | [] => none
  | c :: rest =>
    if isNameStart c then some (String.ofList (cs.takeWhile isNameChar), cs.dropWhile isNameChar)
    else if c.isDigit then some (String.ofList (cs.takeWhile Char.isDigit), cs.dropWhile Char.isDigit)
    else if "?$#@*!-".toList.contains c then some (String.ofList [c], rest)
    else none

/-- A parameter in braces, after the opening one. -/
def bracedParameter? (quoted : Bool) (parts? : Setting → Reader Word) (cs : List Char) :
    Option (Part × List Char) :=
  let changed (cs : List Char) : Option (Part × List Char) := do
    let (name, rest) := (parameterName? cs).getD ("", cs)
    let ((change, more), rest) ← change? rest
    if !more then
      return (.parameter name (if name = "" then .unknown else change) [] quoted, rest)
    let setting := match change with
      | .cutFront _ | .cutBack _ => .braced false
      | _ => .braced quoted
    let (word, rest) ← parts? setting rest
    return (.parameter name (if name = "" then .unknown else change) word quoted, rest)
  match cs with
  | '#' :: rest =>
    match parameterName? rest with
    | some (name, '}' :: rest) => some (.parameter name .length [] quoted, rest)
    | _ => changed cs
  | _ => changed cs

/-- What stands behind a dollar sign; a lone dollar sign is text. -/
def reference? (quoted : Bool) (parts? : Setting → Reader Word) : Reader Part
  | '{' :: rest => bracedParameter? quoted parts? rest
  | '(' :: '(' :: rest => do
    match ← enclosed? [')'] rest with
    | (body, ')' :: rest) => return (.sum (← parts? .document body).1 quoted, rest)
    | _ => none
  | '(' :: rest =>
    (enclosed? [')'] rest).map fun (body, rest) => (.output (String.ofList body) quoted, rest)
  | cs =>
    match cs with
    | c :: rest =>
      if c.isDigit then some (.parameter (String.ofList [c]) .none [] quoted, rest)
      else
        match parameterName? cs with
        | some (name, rest) => some (.parameter name .none [] quoted, rest)
        | none => some (.text "$" quoted, cs)
    | [] => some (.text "$" quoted, [])

/-- Add a character to the parts of a word, which are backwards. -/
def addChar (quoted : Bool) (c : Char) : List Part → List Part
  | .text s q :: parts =>
    if q = quoted then .text (s.push c) q :: parts
    else .text (String.ofList [c]) quoted :: .text s q :: parts
  | parts => .text (String.ofList [c]) quoted :: parts

/-- The rest of some parts. Each round reads at least one character. -/
def partsFrom? : (rounds : Nat) → Setting → List Part → Reader Word
  | 0, _, _, _ => none
  | _ + 1, setting, seen, [] =>
    if setting = .bare || setting = .document then some (seen.reverse, []) else none
  | n + 1, setting, seen, c :: rest =>
    let quoted := setting.isQuoted
    let add (part : Part) (rest : List Char) : Option (Word × List Char) :=
      partsFrom? n setting (part :: seen) rest
    if setting = .bare && isMeta c then some (seen.reverse, c :: rest)
    else if (setting = .quoted && c == '"') || (setting matches .braced _ && c == '}') then
      some (seen.reverse, rest)
    else if c == '\'' && !quoted then do
      let (body, rest) ← enclosed? ['\''] rest
      add (.text (String.ofList body) true) rest
    else if c == '"' && setting ≠ .document then do
      let (inner, rest) ← partsFrom? n .quoted [] rest
      let inner := if inner.isEmpty then [.text "" true] else inner
      partsFrom? n setting (inner.reverse ++ seen) rest
    else if c == '\x60' then do
      let (body, rest) ← backQuoted? quoted rest
      add (.output (String.ofList body) quoted) rest
    else if c == '$' then do
      let (part, rest) ← reference? quoted (fun setting => partsFrom? n setting []) rest
      match part with
      | .text _ _ => partsFrom? n setting (addChar quoted '$' seen) rest
      | _ => add part rest
    else if c == '\\' then
      match rest with
      | '\n' :: rest => partsFrom? n setting seen rest
      | e :: rest =>
        if setting.escapes e then partsFrom? n setting (addChar true e seen) rest
        else partsFrom? n setting (addChar true e (addChar true '\\' seen)) rest
      | [] => partsFrom? n setting (addChar quoted '\\' seen) []
    else partsFrom? n setting (addChar quoted c seen) rest

/-- The word at the start of a text. -/
def word? (cs : List Char) : Option (Word × List Char) :=
  partsFrom? (2 * cs.length + 2) .bare [] cs

/-- The parts of a text of its own. -/
def documentParts? (cs : List Char) : Option Word :=
  (partsFrom? (2 * cs.length + 2) .document [] cs).map Prod.fst

/-! ### Texts that follow a line -/

/-- A text that follows the line: its last line, whether it stands for itself, and whether tabs are
taken from the start of its lines. -/
structure Document where
  last : String
  plain : Bool
  indented : Bool

/-- The lines of a text up to its last one, and what follows. Each round reads a line. -/
def Document.body (d : Document) : (rounds : Nat) → List Char → List Char × List Char
  | 0, cs => ([], cs)
  | _, [] => ([], [])
  | n + 1, cs =>
    let line := cs.takeWhile (· != '\n')
    let ending := (cs.drop line.length).take 1
    let rest := cs.drop (line.length + 1)
    let line := if d.indented then line.dropWhile (· == '\t') else line
    if String.ofList line = d.last then ([], rest)
    else
      let (more, rest) := d.body n rest
      (line ++ ending ++ more, rest)

/-- The texts that follow a line, in their order, and the rest of the script. -/
def documents? : List Document → Reader (List Word)
  | [], cs => some ([], cs)
  | d :: ds, cs => do
    let (body, rest) := d.body (cs.length + 1) cs
    let word ← if d.plain then some [.text (String.ofList body) true] else documentParts? body
    let (words, rest) ← documents? ds rest
    return (word :: words, rest)

/-- Put the texts that follow in their places. -/
def fillDocuments : List Token → List Word → List Token
  | .document _ :: tokens, word :: words => .document word :: fillDocuments tokens words
  | token :: tokens, words => token :: fillDocuments tokens words
  | [], _ => []

/-! ### Tokens -/

/-- The operators, longer ones first. -/
def operators : List String := ["&&", "||", ";;", ";", "&", "|", "(", ")"]

/-- What a redirection does, by its sign; the longer ones come first. -/
def redirections : List (String × Nat × Way) :=
  [(">>", 1, .append), (">|", 1, .write), (">&", 1, .like), ("<>", 0, .read), ("<&", 0, .like),
    (">", 1, .write), ("<", 0, .read)]

/-- The tokens of a script and the texts that follow its lines. Some are still to come after the
line. Each round reads a blank, a comment or a token. -/
def tokensFrom : (rounds : Nat) → (coming : List Document) → List Char → List Token × List Word
  | 0, _, _ => ([.broken], [])
  | _ + 1, _, [] => ([], [])
  | n + 1, coming, c :: rest =>
    let first (token : Token) (following : List Token × List Word) : List Token × List Word :=
      (token :: following.1, following.2)
    let cs := c :: rest
    let digits := cs.takeWhile Char.isDigit
    let behind := cs.drop digits.length
    if c == ' ' || c == '\t' then tokensFrom n coming rest
    else if ['\\', '\n'].isPrefixOf cs then tokensFrom n coming rest.tail
    else if c == '#' then tokensFrom n coming (rest.dropWhile (· != '\n'))
    else if c == '\n' then
      match documents? coming rest with
      | none => ([.broken], [])
      | some (words, rest) =>
        let (tokens, more) := tokensFrom n [] rest
        (.operator "\n" :: tokens, words ++ more)
    else if ['<', '<'].isPrefixOf behind then
      let sign := behind.drop 2
      let indented := sign.head? == some '-'
      let after := (if indented then sign.tail else sign).dropWhile fun c => c == ' ' || c == '\t'
      match word? after with
      | some (word, rest) =>
        let last := (Word.text? word).getD ""
        first (.document [])
          (tokensFrom n (coming ++ [⟨last, word.any Part.isQuoted, indented⟩]) rest)
      | none => ([.broken], [])
    else
      match redirections.find? fun r => r.1.toList.isPrefixOf behind with
      | some (sign, descriptor, way) =>
        let descriptor := ((Number.digits? 10 digits).map Prod.fst).getD descriptor
        first (.redirect descriptor way) (tokensFrom n coming (behind.drop sign.length))
      | none =>
        match operators.find? fun o => o.toList.isPrefixOf cs with
        | some o => first (.operator o) (tokensFrom n coming (cs.drop o.length))
        | none =>
          match word? cs with
          | some (word, rest) => first (.word word) (tokensFrom n coming rest)
          | none => ([.broken], [])

def tokens (script : String) : List Token :=
  let cs := script.toList
  let (tokens, words) := tokensFrom (cs.length + 1) [] cs
  fillDocuments tokens words

end PluginHost.Shell
