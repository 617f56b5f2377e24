import PluginHost.Path
import PluginHost.Digest.Sha256

/-!
A file system as a value: which places hold a directory or a file with which
bytes. A place is named from the working directory down. Paths are followed
name by name, so that a name below a file or below nothing is an error of
its own.
-/
namespace PluginHost

/-- Why an operation on files failed. -/
inductive FileError where
  | notFound
  | notDirectory
  | isDirectory
  | notEmpty
  | invalidArgument
  | busy
  | nameTooLong
  | nulInName
  | invalidText
  /-- Any other cause, by its text. -/
  | other (text : String)
  deriving DecidableEq, Repr

/-- The wording of a file error. -/
def FileError.message : FileError → String
  | .notFound => "No such file or directory (os error 2)"
  | .notDirectory => "Not a directory (os error 20)"
  | .isDirectory => "Is a directory (os error 21)"
  | .notEmpty => "Directory not empty (os error 39)"
  | .invalidArgument => "Invalid argument (os error 22)"
  | .busy => "Device or resource busy (os error 16)"
  | .nameTooLong => "File name too long (os error 36)"
  | .nulInName => "file name contained an unexpected NUL byte"
  | .invalidText => "stream did not contain valid UTF-8"
  | .other text => text

/-- What a place can hold. -/
inductive Entry where
  | file (content : ByteArray)
  | directory

/-- A place: names from the working directory down. The root of all files is the name `/`, and the
directories the working directory lies in are reached by the name `..`. -/
abbrev Place := List String

/-- Whether a place is the working directory, one above it, or the root of all files. -/
def Place.isGiven (place : Place) : Bool :=
  place.all (· == "..") || place == ["/"]

/-- Whether the way from a place to another one only goes down. -/
def Place.isAbove (place other : Place) : Bool :=
  place.isPrefixOf other &&
    match other.drop place.length with
    | [] => false
    | name :: _ => name != ".." && name != "/"

/-- The entries of a file system below its working directory. -/
structure FileSystem where
  entries : List (Place × Entry)
  deriving Inhabited

namespace FileSystem

/-- Nothing but the working directory. -/
def empty : FileSystem := ⟨[]⟩

/-- What a place holds. The given directories always exist. -/
def holding? (fs : FileSystem) (place : Place) : Option Entry :=
  if place.isGiven then some .directory else fs.entries.lookup place

/-- Take an entry away. -/
def erase (fs : FileSystem) (place : Place) : FileSystem :=
  ⟨fs.entries.filter (·.1 != place)⟩

/-- Let a place hold an entry. -/
def put (fs : FileSystem) (place : Place) (entry : Entry) : FileSystem :=
  ⟨(place, entry) :: (fs.erase place).entries⟩

/-! ### Following paths -/

/-- Whether a directory can be entered at a place. -/
def enter (fs : FileSystem) (place : Place) : Except FileError Unit :=
  match fs.holding? place with
  | some .directory => .ok ()
  | some (.file _) => .error .notDirectory
  | none => .error .notFound

def follow (fs : FileSystem) (place : Place) (segment : String) : Except FileError Place := do
  fs.enter place
  if segment = "" ∨ segment = "." then return place
  else if segment = ".." then
    if place = ["/"] then return place
    else if place.isGiven then return place ++ [".."]
    else return place.dropLast
  else if 255 < segment.utf8ByteSize then throw .nameTooLong
  else return place ++ [segment]

/-- The place a path leads to; all but its last name exist. -/
def locate (fs : FileSystem) (path : Path) : Except FileError Place :=
  if path.text.toList.contains '\x00' then .error .nulInName
  else if path.text = "" then .error .notFound
  else if 4096 ≤ path.text.utf8ByteSize then .error .nameTooLong
  else path.segments.foldlM fs.follow (if path.isAbsolute then ["/"] else [])

/-- What a path leads to. -/
def lookup (fs : FileSystem) (path : Path) : Except FileError Entry := do
  match fs.holding? (← fs.locate path) with
  | some entry => .ok entry
  | none => .error .notFound

/-- Whether a path leads to a file. -/
def isFile (fs : FileSystem) (path : Path) : Bool :=
  match fs.lookup path with
  | .ok (.file _) => true
  | _ => false

/-- Whether a path leads to a directory. -/
def isDirectory (fs : FileSystem) (path : Path) : Bool :=
  match fs.lookup path with
  | .ok .directory => true
  | _ => false

/-- Whether a path leads anywhere. -/
def present (fs : FileSystem) (path : Path) : Bool :=
  (fs.lookup path).toOption.isSome

/-! ### Reading -/

def read (fs : FileSystem) (path : Path) : Except FileError ByteArray := do
  match ← fs.lookup path with
  | .file content => .ok content
  | .directory => .error .isDirectory

def readText (fs : FileSystem) (path : Path) : Except FileError String := do
  match String.fromUTF8? (← fs.read path) with
  | some text => .ok text
  | none => .error .invalidText

/-- The fingerprint of a file's content, none if it cannot be read. -/
def fingerprint? (fs : FileSystem) (path : Path) : Option String :=
  (fs.read path).toOption.map Digest.Sha256.hex

/-- The names directly below a place. -/
def names (fs : FileSystem) (place : Place) : List String :=
  fs.entries.filterMap fun e =>
    match e.1.getLast? with
    | some n => if e.1 = place ++ [n] then some n else none
    | none => none

/-- The regular files directly in a directory whose name ends in `suffix`, in the order of paths.
No directory, no files. -/
def list (fs : FileSystem) (dir : Path) (suffix : String) : List Path :=
  match fs.locate dir with
  | .error _ => []
  | .ok place =>
    if fs.isDirectory dir then
      (((fs.names place).map dir.join).filter fun p =>
        fs.isFile p && (p.name?.map (hasSuffix · suffix)).getD false).mergeSort Path.le
    else []

/-! ### Changing -/

/-- What is left by a change that may break off half way, and why it did. -/
abbrev Attempt := FileSystem × Except FileError Unit

/-- Go down from a directory by segments and create the directories that are missing. -/
def descend (fs : FileSystem) (place : Place) : List String → Attempt
  | [] => (fs, .ok ())
  | segment :: rest =>
    match fs.follow place segment with
    | .error e => (fs, .error e)
    | .ok next =>
      match fs.holding? next with
      | some .directory => descend fs next rest
      | some (.file _) => (fs, .error .notDirectory)
      | none => descend (fs.put next .directory) next rest

/-- Create a directory and those it lies in; those in front of a mistake stay. A name with a dot
behind it is not created. -/
def createDirectories (fs : FileSystem) (path : Path) : Attempt :=
  let start : Place := if path.isAbsolute then ["/"] else []
  if path.text = "" then (fs, .ok ())
  else if path.text.toList.contains '\x00' then (fs, .error .nulInName)
  else if 4096 ≤ path.text.utf8ByteSize then (fs, .error .nameTooLong)
  else if path.endsInDot then
    match fs.descend start path.parent.segments with
    | (fs, .ok ()) => (fs, (fs.lookup path).map fun _ => ())
    | broken => broken
  else fs.descend start path.segments

/-- Write a file, replacing what it held. -/
def write (fs : FileSystem) (path : Path) (content : ByteArray) : Except FileError FileSystem := do
  let place ← fs.locate path
  match fs.holding? place with
  | some .directory => throw .isDirectory
  | _ => return fs.put place (.file content)

/-- A change that is made as a whole or not at all. -/
def whole (fs : FileSystem) : Except FileError FileSystem → Attempt
  | .ok changed => (changed, .ok ())
  | .error e => (fs, .error e)

/-- Write a file after creating the directories it lies in. -/
def writeDeep (fs : FileSystem) (path : Path) (content : ByteArray) : Attempt :=
  match fs.createDirectories path.parent with
  | (fs, .ok ()) => fs.whole (fs.write path content)
  | broken => broken

/-- Take a file away. -/
def delete (fs : FileSystem) (path : Path) : Except FileError FileSystem := do
  let place ← fs.locate path
  match fs.holding? place with
  | some (.file _) => return fs.erase place
  | some .directory => throw .isDirectory
  | none => throw .notFound

/-- Take away all that lies below a place. -/
def clear (fs : FileSystem) (place : Place) : FileSystem :=
  ⟨fs.entries.filter fun e => !place.isAbove e.1⟩

/-- Take a directory away with all it holds. What it holds goes first; then its path is followed
again, and a path that leads nowhere any more is no mistake. -/
def deleteDirectory (fs : FileSystem) (path : Path) : Attempt :=
  match fs.locate path with
  | .error e => (fs, .error e)
  | .ok place =>
    match fs.holding? place with
    | none => (fs, .error .notFound)
    | some (.file _) => (fs, .error .notDirectory)
    | some .directory =>
      let cleared := fs.clear place
      if path.endsInDot then (cleared, .error .invalidArgument)
      else
        match cleared.locate path with
        | .error .notFound => (cleared, .ok ())
        | .error e => (cleared, .error e)
        | .ok place =>
          if place.isGiven || path.steps.getLast? == some .parent then (cleared, .error .notEmpty)
          else (cleared.erase place, .ok ())

/-- Whether a path insists on a directory by how it ends. -/
def wantsDirectory (path : Path) : Bool :=
  path.segments.getLast? == some ""

/-- The path without the slashes it ends in. -/
def withoutTrailingSlash (path : Path) : Path :=
  ⟨String.ofList (path.text.toList.reverse.dropWhile (· == '/')).reverse⟩

/-- The place a path would lead to, for creating or replacing its last name. -/
def target (fs : FileSystem) (path : Path) : Except FileError Place := do
  let place ← fs.locate (withoutTrailingSlash path)
  match (withoutTrailingSlash path).segments.getLast? with
  | some "." | some ".." => throw .busy
  | _ => return place

/-- Move all entries at and below a place. -/
def move (fs : FileSystem) (source dest : Place) : FileSystem :=
  let kept := fs.entries.filter fun e => !source.isPrefixOf e.1 && e.1 != dest
  let moved := fs.entries.filterMap fun e =>
    if source.isPrefixOf e.1 then some (dest ++ e.1.drop source.length, e.2) else none
  ⟨moved ++ kept⟩

/-- Rename a file or directory. A file replaces a file and a directory an empty directory; a kind
never replaces the other kind, and nothing replaces a directory it lies in. -/
def rename (fs : FileSystem) (source dest : Path) : Except FileError FileSystem := do
  let old ← fs.target source
  let new ← fs.target dest
  match fs.holding? old, fs.holding? new with
  | none, _ => throw .notFound
  | some (.file content), found =>
    if wantsDirectory source || wantsDirectory dest then throw .notDirectory
    else if new != old && new.isPrefixOf old then throw .notEmpty
    else
      match found with
      | some .directory => throw .isDirectory
      | _ => if old = new then return fs else return (fs.erase old).put new (.file content)
  | some .directory, found =>
    if old = new then return fs
    else if old.isPrefixOf new then throw .invalidArgument
    else
      match found with
      | some (.file _) => throw .notDirectory
      | some .directory => if (fs.names new).isEmpty then return fs.move old new else throw .notEmpty
      | none => return fs.move old new

/-! ### Entries after a change -/

theorem holding?_erase_of_ne {fs : FileSystem} {p q : Place} (h : q ≠ p) :
    (fs.erase p).holding? q = fs.holding? q := by
  have hl : (fs.entries.filter (·.1 != p)).lookup q = fs.entries.lookup q := by
    induction fs.entries with
    | nil => rfl
    | cons e rest ih =>
      obtain ⟨place, entry⟩ := e
      by_cases hp : place = p
      · subst hp
        have : (q == place) = false := by simpa using h
        simp [List.lookup_cons, this, ih]
      · by_cases hq : q = place
        · subst hq
          simp [hp]
        · have : (q == place) = false := by simpa using hq
          simp [hp, List.lookup_cons, this, ih]
  simp only [holding?, erase]
  split <;> simp_all

theorem holding?_put_self {fs : FileSystem} {p : Place} {e : Entry} (h : p.isGiven = false) :
    (fs.put p e).holding? p = some e := by
  simp [holding?, put, h]

theorem holding?_put_of_ne {fs : FileSystem} {p q : Place} {e : Entry} (h : q ≠ p) :
    (fs.put p e).holding? q = fs.holding? q := by
  have hq : (q == p) = false := by simpa using h
  rw [show fs.holding? q = (fs.erase p).holding? q from (holding?_erase_of_ne h).symm]
  simp [holding?, put, List.lookup_cons, hq]

end FileSystem

end PluginHost
