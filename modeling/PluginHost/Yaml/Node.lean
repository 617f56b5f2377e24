import PluginHost.Yaml.Layout

/-!
The nodes of a YAML document, read from its tokens. An anchor names a node
and an alias stands for the node its name was last given to, which may be one
that is still open. A name gets the number of names known before; a name that
is given again counts once, so that it may share its number with a later one.
Then both stand for the node that starts last.
-/
namespace PluginHost.Yaml

/-- Whether a token stands in front of a document. -/
def Token.precedesDocument : Token → Bool
  | .documentStart | .version _ _ | .handle _ _ => true
  | _ => false

/-- A node. Tags are written out in full; a node without one has the empty tag. -/
inductive Node where
  | scalar (style : Style) (tag : String) (text : String)
  | sequence (items : List Node)
  | mapping (pairs : List (Node × Node))
  /-- The node that the names with a number stand for. -/
  | alias (number : Nat)
  deriving Inhabited

/-- The node where nothing is written. -/
def Node.empty : Node := .scalar .plain "" ""

/-- A document: its root, and its nodes with anchors by the order in which they start. -/
structure Document where
  root : Node
  /-- Which node the names with a number stand for, the latest first. -/
  owners : List (Nat × Nat)
  anchored : List (Nat × Node)

/-- What a node stands for. -/
def Document.resolve (d : Document) : Node → Node
  | .alias number => ((d.owners.lookup number).bind fun start => d.anchored.lookup start).getD .empty
  | node => node

/-- A document under way. -/
structure Reading where
  tokens : List Token
  /-- Names and their numbers, each name once. -/
  names : List (String × Nat)
  owners : List (Nat × Nat)
  anchored : List (Nat × Node)
  /-- Handles of tags and what they stand for. -/
  handles : List (String × String)

/-- A step of reading nodes. -/
abbrev Read (α : Type) := StateT Reading Option α

namespace Read

/-- The next token, none at the end. -/
def peek : Read (Option Token) := do return (← get).tokens.head?

/-- Leave the next token behind. -/
def skip : Read Unit := modify fun r => { r with tokens := r.tokens.tail }

/-- Whether the next token is one of some; the end of the text is none of them. -/
def sees (tokens : List Token) : Read Bool := do
  return (← peek).any fun t => tokens.contains t

/-- The next token if it is the given one. -/
def eat (token : Token) : Read Bool := do
  let here ← sees [token]
  if here then skip
  return here

/-- Fail unless the next token is the given one. -/
def need (token : Token) : Read Unit := do
  if !(← eat token) then failure

/-- A node, or nothing if the next token is one of those that may follow a node. -/
def orEmpty (followers : List Token) (node : Read Node) : Read Node := do
  if ← sees followers then return .empty else node

/-! ### Properties -/

/-- The tag a handle and a suffix stand for. -/
def tag (handle suffix : String) : Read String := do
  if handle.isEmpty then return suffix
  match (← get).handles.lookup handle with
  | some expansion => return expansion ++ suffix
  | none => failure

/-- Give a name to the node that follows, and tell which node with an anchor it is. -/
def anchor (name : String) : Read Nat := do
  let r ← get
  let number := r.names.length
  let start := r.owners.length
  set { r with
    names := (name, number) :: r.names.filter (·.1 != name)
    owners := (number, start) :: r.owners }
  return start

/-- An anchor and a tag in either order. -/
def properties : Read (Option String × Option String) := do
  match ← peek with
  | some (.anchor name) =>
    skip
    match ← peek with
    | some (.tag handle suffix) => skip; return (some name, some (← tag handle suffix))
    | _ => return (some name, none)
  | some (.tag handle suffix) =>
    skip
    let tag ← tag handle suffix
    match ← peek with
    | some (.anchor name) => skip; return (some name, some tag)
    | _ => return (none, some tag)
  | _ => return (none, none)

/-! ### Collections

Each reads its items by the given readers; the first argument bounds their number. -/

/-- Items of a block sequence after its opening. -/
def blockItems (item : Read Node) : Nat → List Node → Read Node
  | 0, _ => failure
  | n + 1, seen => do
    if ← eat .item then
      blockItems item n ((← orEmpty [.item, .closeBlock] item) :: seen)
    else
      need .closeBlock
      return .sequence seen.reverse

/-- Items of a sequence that stands in the column of the mapping around it. -/
def bareItems (item : Read Node) : Nat → List Node → Read Node
  | 0, _ => failure
  | n + 1, seen => do
    if ← eat .item then
      bareItems item n ((← orEmpty [.item, .key, .value, .closeBlock] item) :: seen)
    else return .sequence seen.reverse

/-- Pairs of a block mapping after its opening. -/
def blockPairs (content : Read Node) : Nat → List (Node × Node) → Read Node
  | 0, _ => failure
  | n + 1, seen => do
    if ← eat .key then
      let part := orEmpty [.key, .value, .closeBlock] content
      let key ← part
      let value ← if ← eat .value then part else pure .empty
      blockPairs content n ((key, value) :: seen)
    else
      need .closeBlock
      return .mapping seen.reverse

/-- A pair inside a flow sequence, after its key mark. Where no key follows the mark, the next token
is lost. -/
def flowPair (content : Read Node) : Read Node := do
  let followers := [Token.comma, .closeSequence]
  let key ← if ← sees (.value :: followers) then do skip; pure .empty else content
  let value ← if ← eat .value then orEmpty followers content else pure .empty
  return .mapping [(key, value)]

/-- Items of a flow sequence, from after its opening or after an item. -/
def flowItems (content : Read Node) : Nat → List Node → Read Node
  | 0, _ => failure
  | n + 1, seen => do
    if ← eat .closeSequence then return .sequence seen.reverse
    if !seen.isEmpty then
      need .comma
      if ← eat .closeSequence then return .sequence seen.reverse
    let item ← if ← eat .key then flowPair content else content
    flowItems content n (item :: seen)

/-- Pairs of a flow mapping, from after its opening or after a pair. -/
def flowPairs (content : Read Node) : Nat → List (Node × Node) → Read Node
  | 0, _ => failure
  | n + 1, seen => do
    if ← eat .closeMapping then return .mapping seen.reverse
    if !seen.isEmpty then
      need .comma
      if ← eat .closeMapping then return .mapping seen.reverse
    let followers := [Token.comma, .closeMapping]
    if ← eat .key then
      let key ← orEmpty (.value :: followers) content
      let value ← if ← eat .value then orEmpty followers content else pure .empty
      flowPairs content n ((key, value) :: seen)
    else flowPairs content n ((← content, .empty) :: seen)

/-! ### Nodes -/

/-- Where a node stands. -/
inductive Place where
  /-- In a block, where a sequence needs a column of its own. -/
  | block
  /-- In a block mapping, where it does not. -/
  | pair
  | flow
  deriving DecidableEq

/-- A node with collections at most `depth` deep. -/
def node : (depth : Nat) → Place → Read Node
  | 0, _ => failure
  | depth + 1, place => do
    match ← peek with
    | some (.alias name) =>
      skip
      match (← get).names.lookup name with
      | some number => return .alias number
      | none => failure
    | _ =>
      let (name, tag) ← properties
      let start ← name.mapM anchor
      let many := (← get).tokens.length + 1
      let inBlock := place != .flow
      let made : Node ← match ← peek with
        | some .item =>
          if place = .pair then bareItems (node depth .block) many []
          else if name.isSome || tag.isSome then pure (.scalar .plain (tag.getD "") "")
          else failure
        | some (.scalar style text) => skip; pure (.scalar style (tag.getD "") text)
        | some .openSequence => skip; flowItems (node depth .flow) many []
        | some .openMapping => skip; flowPairs (node depth .flow) many []
        | some .openBlockSequence =>
          if !inBlock then failure
          skip
          blockItems (node depth .block) many []
        | some .openBlockMapping =>
          if !inBlock then failure
          skip
          blockPairs (node depth .pair) many []
        | _ =>
          if name.isSome || tag.isSome then pure (.scalar .plain (tag.getD "") "") else failure
      match start with
      | some i => modify fun r => { r with anchored := (i, made) :: r.anchored }
      | none => pure ()
      return made

/-! ### Documents -/

/-- The directives in front of a document: at most one version, one or two of the first language
generation, and handles for tags, each once. -/
def directives : Nat → (versioned : Bool) → List (String × String) → Read (List (String × String))
  | 0, _, _ => failure
  | n + 1, versioned, handles => do
    match ← peek with
    | some (.version major minor) =>
      if versioned || major != 1 || (minor != 1 && minor != 2) then failure
      skip
      directives n true handles
    | some (.handle name expansion) =>
      if (handles.lookup name).isSome then failure
      skip
      directives n versioned ((name, expansion) :: handles)
    | _ => return handles

/-- Handles that always stand for something. -/
def commonHandles : List (String × String) :=
  [("!", "!"), ("!!", "tag:yaml.org,2002:")]

/-- The only document of a text. -/
def document : Read Node := do
  let depth := (← get).tokens.length + 1
  let explicit := (← peek).any Token.precedesDocument
  let given ← directives depth false []
  modify fun r => { r with handles := given ++ commonHandles }
  let root ←
    if !explicit then (if (← peek).isNone then pure .empty else node depth .block)
    else do
      need .documentStart
      let next ← peek
      if next.all fun t => t.precedesDocument || t = .documentEnd then pure .empty
      else node depth .block
  if ((← get).tokens.any (· != .documentEnd)) then failure
  return root

end Read

/-- The document of a text, if the text is well formed and holds no other. -/
def read? (text : String) : Option Document := do
  let tokens ← tokens? text
  let (root, r) ← Read.document.run ⟨tokens, [], [], [], []⟩
  return ⟨root, r.owners, r.anchored⟩

end PluginHost.Yaml
