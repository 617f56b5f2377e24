/-!
The arguments of the command line.
-/
namespace PluginHost

/-- What the command line asks for. -/
inductive Request where
  /-- Run a session. -/
  | run (config : String) (withServer : Bool)
  /-- Show a sign of life. -/
  | ping
  | help
  | version
  deriving DecidableEq, Repr

namespace Request

/-- The file that is read if none is named. -/
def defaultConfig : String := "config.toml"

/-- The options given so far. -/
structure Options where
  config : Option String
  ping : Bool
  noServer : Bool

/-- Whether a text may be the value of an option that stands before it: an option may not. -/
def isValue (text : String) : Bool :=
  text != "" && (text == "-" || text.toList.head? != some '-')

/-- What a cluster of short options asks for: its first letter decides. -/
def cluster? (text : String) : Option Request :=
  match text.toList with
  | '-' :: 'h' :: _ => some .help
  | '-' :: 'V' :: _ => some .version
  | _ => none

/-- The text after `--config=`. -/
def inlineConfig? (text : String) : Option String :=
  let name := "--config=".toList
  if name.isPrefixOf text.toList then some (String.ofList (text.toList.drop name.length)) else none

/-- What the options ask for: a sign of life before all else. -/
def ofOptions (o : Options) : Request :=
  if o.ping then .ping else .run (o.config.getD defaultConfig) (!o.noServer)

/-- Read arguments in order. Every option is given at most once, a path is not empty, and there is
nothing but options. Help and the version are shown as soon as they are met. -/
def read? (o : Options) : List String → Option Request
  | [] => some (ofOptions o)
  | ["--"] => some (ofOptions o)
  | "--ping" :: rest => if o.ping then none else read? { o with ping := true } rest
  | "--no-server" :: rest => if o.noServer then none else read? { o with noServer := true } rest
  | "--help" :: _ => some .help
  | "--version" :: _ => some .version
  | "--config" :: path :: rest =>
    if o.config.isSome || !isValue path then none else read? { o with config := some path } rest
  | argument :: rest =>
    match inlineConfig? argument with
    | some path => if o.config.isSome || path == "" then none else read? { o with config := some path } rest
    | none => cluster? argument

/-- The request of a command line, none if it is not well formed. -/
def ofArguments? (arguments : List String) : Option Request :=
  read? ⟨none, false, false⟩ arguments

example : ofArguments? ["--config=c.json", "--no-server"] = some (.run "c.json" false) := by
  decide +kernel
example : ofArguments? ["--ping", "--ping"] = none := by decide +kernel
example : ofArguments? ["--config", "--ping"] = none := by decide +kernel
example : ofArguments? ["-Vh"] = some .version := by decide +kernel

end Request

end PluginHost
