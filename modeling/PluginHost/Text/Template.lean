import PluginHost.Text.Digits

/-!
Message templates. A placeholder is an empty pair of braces for the next
argument, or a number in braces for the argument at that position. A
placeholder without an argument stays as it is, and so does a brace that
is never closed.
-/
namespace PluginHost.Text.Template

/-- One part of a template. -/
inductive Piece where
  /-- Text that stands for itself. -/
  | plain (text : List Char)
  /-- Braces around the given text. -/
  | hole (inner : List Char)
  deriving DecidableEq, Repr

/-- Cut a template at its placeholders. `seen` is the plain text since the last placeholder and
`opened` the text since a brace that is still open, both backwards. The inner text of a
placeholder ends at the first closing brace. -/
def cut (seen : List Char) : (opened : Option (List Char)) → List Char → List Piece
  | none, [] => [.plain seen.reverse]
  | none, c :: rest => if c = '{' then cut seen (some []) rest else cut (c :: seen) none rest
  | some inner, [] => [.plain (seen.reverse ++ '{' :: inner.reverse)]
  | some inner, c :: rest =>
    if c = '}' then .plain seen.reverse :: .hole inner.reverse :: cut [] none rest
    else cut seen (some (c :: inner)) rest

/-- The pieces of a template, in order. -/
def pieces (template : List Char) : List Piece :=
  cut [] none template

/-- The position a placeholder asks for, given how many bare placeholders came before it. -/
def position? (inner : List Char) (bare : Nat) : Option Nat :=
  if inner.isEmpty then some bare else word? inner

/-- Put the pieces together. `bare` counts the bare placeholders passed so far. -/
def fill (args : List String) (bare : Nat) : List Piece → List Char
  | [] => []
  | .plain text :: rest => text ++ fill args bare rest
  | .hole inner :: rest =>
    let shown := match (position? inner bare).bind (args[·]?) with
      | some arg => arg.toList
      | none => '{' :: inner ++ ['}']
    shown ++ fill args (if inner.isEmpty then bare + 1 else bare) rest

/-- The template with its placeholders replaced by the arguments. -/
def format (template : String) (args : List String) : String :=
  String.ofList (fill args 0 (pieces template.toList))

example : format "{1} before {0}, {} and {}; {} stays" ["a", "b"] =
    "b before a, a and b; {} stays" := by decide +kernel

end PluginHost.Text.Template
