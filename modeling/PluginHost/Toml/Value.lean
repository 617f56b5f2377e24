/-!
Values of a TOML document. A table remembers how it came to be, because that
decides who may still add to it: a table written in braces is closed, a table
with a header of its own is filled below that header, a table that headers
only pass through may still get one, and a table made by a dotted key is
filled by further dotted keys.
-/
namespace PluginHost.Toml

/-- How a table came to be. -/
inductive Origin where
  | braces
  | header
  | passed
  | dotted
  deriving DecidableEq, Repr

inductive Value where
  | text (value : String)
  | integer (value : Int)
  | real
  | bool (value : Bool)
  /-- A date, a time, or both. -/
  | moment
  | list (items : List Value)
  | table (origin : Origin) (members : List (String × Value))
  /-- An array of tables with headers, the last one first. -/
  | tables (elements : List (List (String × Value)))
  deriving Inhabited

/-- The members of a table in the order they were written. -/
abbrev Members := List (String × Value)

/-- A table under construction. -/
structure Table where
  origin : Origin
  members : Members

namespace Table

/-- The table at the root of a document. -/
def root : Table := ⟨.header, []⟩

def get? (t : Table) (key : String) : Option Value :=
  t.members.lookup key

/-- Give a key a value in the place where it stands, or behind all others. -/
def put (t : Table) (key : String) (value : Value) : Table :=
  if (t.get? key).isSome then
    { t with members := t.members.map fun m => if m.1 = key then (key, value) else m }
  else { t with members := t.members ++ [(key, value)] }

def value (t : Table) : Value := .table t.origin t.members

/-- Whether keys of the given origin may add to a table: braces are closed to all, and a header
closes a table to the dotted keys from outside. -/
def isOpenTo (t : Table) (origin : Origin) : Bool :=
  match t.origin with
  | .braces => false
  | .header => origin != .dotted
  | .passed | .dotted => true

/-- Change the table a path leads to. Tables missing on the way are made with the given origin; an
array of tables leads to its last table. -/
def alter? (origin : Origin) (change : Table → Option Table) : List String → Table → Option Table
  | [], t => change t
  | key :: path, t =>
    match t.get? key with
    | none => do return t.put key (← alter? origin change path ⟨origin, []⟩).value
    | some (.table o members) =>
      if isOpenTo ⟨o, members⟩ origin then do
        return t.put key (← alter? origin change path ⟨o, members⟩).value
      else none
    | some (.tables (last :: earlier)) => do
      let changed ← alter? origin change path ⟨.header, last⟩
      return t.put key (.tables (changed.members :: earlier))
    | some _ => none

/-- Give a new key a value. A dotted key may only end in a table made by dotted keys, and a plain
key only in one that was not. -/
def assign? (path : List String) (key : String) (value : Value) (t : Table) : Option Table :=
  t.alter? .dotted (fun t =>
    if (t.origin == .dotted) == path.isEmpty || (t.get? key).isSome then none
    else some (t.put key value)) path

/-- Give a table a header of its own, once. -/
def openTable? (key : String) (t : Table) : Option Table :=
  match t.get? key with
  | none => some (t.put key (.table .header []))
  | some (.table .passed members) => some (t.put key (.table .header members))
  | some _ => none

/-- Add a table to an array of tables. -/
def openElement? (key : String) (t : Table) : Option Table :=
  match t.get? key with
  | none => some (t.put key (.tables [[]]))
  | some (.tables elements) => some (t.put key (.tables ([] :: elements)))
  | some _ => none

end Table

end PluginHost.Toml
