/-!
The outline of a JSON text: its values nested as written, with numbers and
strings still in their written form. A draft fixes the grammar; what a
number or an escape stands for is decided later, and only where somebody
asks for it.
-/
namespace PluginHost.Json

/-- A JSON text by its structure. -/
inductive Draft where
  | null
  | bool (value : Bool)
  /-- A number as written. -/
  | number (literal : List Char)
  /-- A string as written, without its quotes. -/
  | text (raw : List Char)
  | list (items : List Draft)
  /-- Members in the order they are written, keys as written. -/
  | object (members : List (List Char × Draft))
  deriving Inhabited

/-- The tokens of a JSON text. -/
inductive Token where
  | openList | closeList | openObject | closeObject | colon | comma
  | null
  | bool (value : Bool)
  | number (literal : List Char)
  | text (raw : List Char)
  deriving DecidableEq, Repr

/-! ### Literals -/

def isSpace (c : Char) : Bool :=
  c == ' ' || c == '\t' || c == '\n' || c == '\r'

/-- Characters a number can be written with. -/
def isNumberChar (c : Char) : Bool :=
  c.isDigit || c == '-' || c == '+' || c == '.' || c == 'e' || c == 'E'

def isHexDigit (c : Char) : Bool :=
  c.isDigit || ('a' ≤ c && c ≤ 'f') || ('A' ≤ c && c ≤ 'F')

/-- An integer part: a zero alone, or digits that do not start with zero. -/
def isIntegerPart : List Char → Bool
  | ['0'] => true
  | c :: rest => c.isDigit && c != '0' && rest.all Char.isDigit
  | [] => false

/-- A non-empty run of digits. -/
def isDigitRun (cs : List Char) : Bool :=
  !cs.isEmpty && cs.all Char.isDigit

/-- The three parts of a number as written. -/
structure NumberParts where
  negative : Bool
  whole : List Char
  /-- Digits after the point, none if there is no point. -/
  fraction : Option (List Char)
  /-- Sign and digits of the exponent. -/
  exponent : Option (Bool × List Char)
  deriving DecidableEq, Repr

/-- Cut a number at its sign, point and exponent mark; none if it is not well formed. -/
def NumberParts.of? (cs : List Char) : Option NumberParts := do
  let (negative, cs) := match cs with
    | '-' :: rest => (true, rest)
    | _ => (false, cs)
  let isMark (c : Char) : Bool := c == 'e' || c == 'E'
  let base := cs.takeWhile (!isMark ·)
  let exponent ← match cs.dropWhile (!isMark ·) with
    | [] => some none
    | _ :: '-' :: ds => if isDigitRun ds then some (some (true, ds)) else none
    | _ :: '+' :: ds => if isDigitRun ds then some (some (false, ds)) else none
    | _ :: ds => if isDigitRun ds then some (some (false, ds)) else none
  let whole := base.takeWhile (· != '.')
  let fraction ← match base.dropWhile (· != '.') with
    | [] => some none
    | _ :: ds => if isDigitRun ds then some (some ds) else none
  if isIntegerPart whole then some ⟨negative, whole, fraction, exponent⟩ else none

/-- Whether the escapes of a string as written are well formed and it holds no control character. -/
def isRawText : List Char → Bool
  | [] => true
  | '\\' :: 'u' :: a :: b :: c :: d :: rest =>
    isHexDigit a && isHexDigit b && isHexDigit c && isHexDigit d && isRawText rest
  | '\\' :: c :: rest => "\"\\/bfnrt".toList.contains c && isRawText rest
  | c :: rest => c != '\\' && 0x20 ≤ c.toNat && isRawText rest

/-! ### Tokens -/

/-- What the reader of tokens is in the middle of. The text so far is backwards. -/
inductive Mode where
  | between
  | word (seen : List Char)
  | number (seen : List Char)
  | text (seen : List Char) (escaped : Bool)

/-- The token a bare word stands for. -/
def Token.ofWord? (word : List Char) : Option Token :=
  if word = "null".toList then some .null
  else if word = "true".toList then some (.bool true)
  else if word = "false".toList then some (.bool false)
  else none

/-- The token of one punctuation mark. -/
def Token.ofMark? : Char → Option Token
  | '[' => some .openList
  | ']' => some .closeList
  | '{' => some .openObject
  | '}' => some .closeObject
  | ':' => some .colon
  | ',' => some .comma
  | _ => none

/-- The token that ends where the current mode ends, if one is under way. -/
def Mode.finish? : Mode → Option (List Token)
  | .between => some []
  | .word seen => (Token.ofWord? seen.reverse).map ([·])
  | .number seen =>
    if (NumberParts.of? seen.reverse).isSome then some [.number seen.reverse] else none
  | .text _ _ => none

/-- Read one character between tokens: the mode it leads to and the mark it is. -/
def Mode.open? (c : Char) : Option (Mode × List Token) :=
  if isSpace c then some (.between, [])
  else if c == '"' then some (.text [] false, [])
  else if c.isDigit || c == '-' then some (.number [c], [])
  else if c.isAlpha then some (.word [c], [])
  else (Token.ofMark? c).map fun t => (.between, [t])

/-- The tokens of a text, from the given mode on. -/
def tokensFrom : Mode → List Char → Option (List Token)
  | mode, [] => mode.finish?
  | .text seen true, c :: rest => tokensFrom (.text (c :: seen) false) rest
  | .text seen false, c :: rest =>
    if c == '"' then
      if isRawText seen.reverse then (.text seen.reverse :: ·) <$> tokensFrom .between rest else none
    else tokensFrom (.text (c :: seen) (c == '\\')) rest
  | .word seen, c :: rest =>
    if c.isAlpha then tokensFrom (.word (c :: seen)) rest
    else do
      let done ← Mode.finish? (.word seen)
      let (mode, marks) ← Mode.open? c
      (done ++ marks ++ ·) <$> tokensFrom mode rest
  | .number seen, c :: rest =>
    if isNumberChar c then tokensFrom (.number (c :: seen)) rest
    else do
      let done ← Mode.finish? (.number seen)
      let (mode, marks) ← Mode.open? c
      (done ++ marks ++ ·) <$> tokensFrom mode rest
  | .between, c :: rest => do
    let (mode, marks) ← Mode.open? c
    (marks ++ ·) <$> tokensFrom mode rest

/-! ### Nesting -/

/-- A container that is still open; contents are backwards. -/
inductive Frame where
  | list (items : List Draft)
  | object (members : List (List Char × Draft)) (key : List Char)

/-- What may come next. -/
inductive Expect where
  /-- A value, or the end of the list just opened. -/
  | firstItem
  /-- A value. -/
  | value
  /-- A key, or the end of the object just opened. -/
  | firstKey
  /-- A key. -/
  | key
  /-- The colon after a key. -/
  | colon
  /-- A comma or the end of the innermost container. -/
  | separator
  /-- Nothing: the document is complete. -/
  | done (document : Draft)

/-- A partly read document. -/
structure Reading where
  frames : List Frame
  expect : Expect

/-- A value is complete: it goes into the innermost open container, or is the document. -/
def Reading.put (frames : List Frame) (value : Draft) : Reading :=
  match frames with
  | [] => ⟨[], .done value⟩
  | .list items :: outer => ⟨.list (value :: items) :: outer, .separator⟩
  | .object members key :: outer => ⟨.object ((key, value) :: members) [] :: outer, .separator⟩

/-- The value a token is by itself. -/
def Token.value? : Token → Option Draft
  | .null => some .null
  | .bool b => some (.bool b)
  | .number literal => some (.number literal)
  | .text raw => some (.text raw)
  | _ => none

/-- Read a value, or open a container. -/
def Reading.begin? (frames : List Frame) : Token → Option Reading
  | .openList => some ⟨.list [] :: frames, .firstItem⟩
  | .openObject => some ⟨.object [] [] :: frames, .firstKey⟩
  | t => t.value?.map (Reading.put frames)

def Reading.step? (p : Reading) (t : Token) : Option Reading :=
  match p.expect, t, p.frames with
  | .firstItem, .closeList, .list items :: outer => some (Reading.put outer (.list items.reverse))
  | .firstItem, t, frames => Reading.begin? frames t
  | .value, t, frames => Reading.begin? frames t
  | .firstKey, .closeObject, .object members _ :: outer =>
    some (Reading.put outer (.object members.reverse))
  | .firstKey, .text raw, .object members _ :: outer =>
    some ⟨.object members raw :: outer, .colon⟩
  | .key, .text raw, .object members _ :: outer => some ⟨.object members raw :: outer, .colon⟩
  | .colon, .colon, frames => some ⟨frames, .value⟩
  | .separator, .comma, .list items :: outer => some ⟨.list items :: outer, .value⟩
  | .separator, .comma, .object members key :: outer =>
    some ⟨.object members key :: outer, .key⟩
  | .separator, .closeList, .list items :: outer => some (Reading.put outer (.list items.reverse))
  | .separator, .closeObject, .object members _ :: outer =>
    some (Reading.put outer (.object members.reverse))
  | _, _, _ => none

/-- The document a text is, if it is well formed. -/
def Draft.read? (text : String) : Option Draft := do
  let tokens ← tokensFrom .between text.toList
  let p ← tokens.foldlM Reading.step? ⟨[], .value⟩
  match p.expect with
  | .done document => some document
  | _ => none

end PluginHost.Json
