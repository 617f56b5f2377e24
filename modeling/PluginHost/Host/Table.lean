import PluginHost.Plugin.Unit

/-!
The table of tracked units, with two ways in: by id, in the order of ids,
and by path, where two spellings of a path are one.
-/
namespace PluginHost

/-- The tracked units. -/
structure UnitTable where
  /-- Units under their ids, in ascending order of ids. -/
  byId : List (String × PluginUnit)
  /-- Which id the unit of a file is under. -/
  idByPath : List (Path × String)

namespace UnitTable

def empty : UnitTable := ⟨[], []⟩

def unit? (t : UnitTable) (id : String) : Option PluginUnit := t.byId.lookup id

/-- The units in the order of their ids. -/
def units (t : UnitTable) : List PluginUnit := t.byId.map Prod.snd

/-- The ids in ascending order. -/
def ids (t : UnitTable) : List String := t.byId.map Prod.fst

/-- How many units there are. -/
def size (t : UnitTable) : Nat := t.byId.length

def containsId (t : UnitTable) (id : String) : Bool := (t.unit? id).isSome

/-- The id a file is tracked under. -/
def idOf? (t : UnitTable) (path : Path) : Option String :=
  (t.idByPath.find? fun e => e.1.same path).map Prod.snd

/-- Whether a file is tracked. -/
def containsPath (t : UnitTable) (path : Path) : Bool := (t.idOf? path).isSome

/-- The file of the unit under an id. -/
def pathOf? (t : UnitTable) (id : String) : Option Path := (t.unit? id).map PluginUnit.path

/-- Note which id a file is tracked under. -/
def putPath (path : Path) (id : String) (entries : List (Path × String)) : List (Path × String) :=
  if entries.any fun e => e.1.same path then
    entries.map fun e => if e.1.same path then (e.1, id) else e
  else entries ++ [(path, id)]

/-- Track a unit. -/
def insert (t : UnitTable) (id : String) (path : Path) (unit : PluginUnit) : UnitTable :=
  ⟨Json.put id unit t.byId, putPath path id t.idByPath⟩

/-- Let the unit under an id be another one; an id without a unit gets none. -/
def update (t : UnitTable) (id : String) (unit : PluginUnit) : UnitTable :=
  { t with byId := t.byId.map fun e => if e.1 = id then (id, unit) else e }

/-- No longer track the unit under an id. -/
def erase (t : UnitTable) (id : String) : UnitTable :=
  ⟨t.byId.filter (·.1 != id), t.idByPath.filter (·.2 != id)⟩

/-- Track the unit under an id under another one. -/
def rename (t : UnitTable) (old new : String) : UnitTable :=
  match t.unit? old with
  | none => t
  | some unit =>
    ⟨Json.put new unit (t.byId.filter (·.1 != old)),
     t.idByPath.map fun e => if e.2 = old then (e.1, new) else e⟩

end UnitTable

end PluginHost
