import PluginHost.Outside.Shell.Printing
import PluginHost.Outside.Shell.Reading

/-!
The programs a script can run besides the commands of its own. Their messages
about mistakes are not part of what they print.
-/
namespace PluginHost.Shell.Tool

/-- The letters of the options in front, and the words behind them. -/
def options : List String → List Char × List String
  | [] => ([], [])
  | "--" :: words => ([], words)
  | word :: words =>
    match word.toList with
    | '-' :: c :: letters =>
      let (more, words) := options words
      (c :: letters ++ more, words)
    | _ => ([], word :: words)

/-- The lines of a text. The last one may have no end. -/
def linesOf (text : String) : List String :=
  match (text.toList.splitOnP (· == '\n')).map String.ofList with
  | [] => []
  | lines => if lines.getLast? == some "" then lines.dropLast else lines

/-- Lines as a text. -/
def unlines (lines : List String) : String :=
  String.join (lines.map (· ++ "\n"))

/-- Print what a program makes of the contents of files, or of all that comes. -/
def onContents (names : List String) (use : String → String) : Run Unit := do
  if names.isEmpty then
    let (text, isOpen) ← readAll
    print (use text)
    if isOpen then throw .waiting
  else
    let mut contents := ""
    let mut failed := false
    for name in names do
      if name == "-" then
        contents := contents ++ (← readAll).1
      else
        match (← get).find name with
        | .ok (.file content) => contents := contents ++ Octets.ofBytes content
        | _ => failed := true
    if !failed || contents != "" then print (use contents)
    if failed then answer 1

/-- The microseconds of a time that is written with a unit, which are seconds if none is. -/
def duration? (text : String) : Option Nat := do
  let cs := text.toList
  let whole := cs.takeWhile Char.isDigit
  let rest := cs.dropWhile Char.isDigit
  let places := if rest.head? == some '.' then rest.tail.takeWhile Char.isDigit else []
  let rest := if rest.head? == some '.' then rest.drop (places.length + 1) else rest
  if whole.isEmpty && places.isEmpty then none
  let (amount, _) ← Number.digits? 10 (whole ++ (places ++ List.replicate 6 '0').take 6)
  match rest with
  | [] | ['s'] => some amount
  | ['m'] => some (60 * amount)
  | ['h'] => some (3600 * amount)
  | ['d'] => some (86400 * amount)
  | _ => none

/-- Let time pass. -/
def sleep (words : List String) : Run Unit := do
  if words.contains "infinity" then throw .endless
  match words.mapM duration? with
  | some (time :: times) =>
    waitUntil (times.foldl (· + ·) ((← get).clock + time))
    answer 0
  | _ => answer 1

/-- Print words as they are. With the option for it, backslashes stand for characters. -/
def echo (words : List String) : Run Unit :=
  let isOption (word : String) : Bool :=
    match word.toList with
    | '-' :: c :: cs => (c :: cs).all fun c => c == 'n' || c == 'e' || c == 'E'
    | _ => false
  let letters := (words.takeWhile isOption).flatMap String.toList
  let text := " ".intercalate (words.dropWhile isOption)
  let ending := if letters.contains 'n' then "" else "\n"
  if (letters.filter fun c => c == 'e' || c == 'E').getLast? == some 'e' then
    let (cs, stops) := unescaped text
    print (String.ofList cs ++ if stops then "" else ending)
  else print (text ++ ending)

/-- List the names in directories, those with a point in front only if that is wanted. -/
def list (words : List String) : Run Unit := do
  let (letters, names) := options words
  let s ← get
  let visible (name : String) : Bool := letters.contains 'a' || letters.contains 'A' ||
    name.toList.head? != some '.'
  let sorted (names : List String) : List String := names.mergeSort fun a b => decide (a ≤ b)
  let names := if names.isEmpty then ["."] else sorted names
  let isDirectory (name : String) : Bool := s.files.isDirectory (s.path name)
  let files := names.filter fun name => s.files.present (s.path name) && !isDirectory name
  let directories := names.filter isDirectory
  let blocks := directories.map fun name =>
    let inside := match s.files.locate (s.path name) with
      | .ok place => (s.files.names place).map Octets.ofText
      | .error _ => []
    let inside := if letters.contains 'a' then "." :: ".." :: inside else inside
    let lines := unlines (sorted (inside.filter visible))
    if names.length = 1 then lines else name ++ ":\n" ++ lines
  let top := if files.isEmpty then [] else [unlines files]
  print ("\n".intercalate (top ++ blocks))
  answer (if files.length + directories.length = names.length then 0 else 2)

/-- Count from one number to another. -/
def sequence (words : List String) : Run Unit :=
  let count (first step last : Int) : Run Unit :=
    if step = 0 then answer 1
    else
      let n := ((last - first) / step + 1).toNat
      print (unlines ((List.range n).map fun (i : Nat) => Text.ofInt (first + step * i)))
  match words.mapM fun word => (Number.decimal? word).map Int64.toInt with
  | some [last] => count 1 1 last
  | some [first, last] => count first 1 last
  | some [first, step, last] => count first step last
  | _ => answer 1

/-- How often a text is repeated that is repeated for ever. -/
def manyTimes : Nat := 10000

/-- Repeat a text for ever. -/
def repeated (words : List String) : Run Unit := do
  let line := if words.isEmpty then "y" else " ".intercalate words
  print (unlines (List.replicate manyTimes line))
  throw .endless

/-- The number of lines that is asked for, ten if none is, and the names of files. -/
def lineCount : List String → Int × List String
  | "-n" :: count :: names => (((Number.decimal? count).map Int64.toInt).getD 10, names)
  | word :: names =>
    match word.toList with
    | '-' :: 'n' :: count => (((Number.decimal? (String.ofList count)).map Int64.toInt).getD 10, names)
    | '-' :: count => (((Number.natural? (String.ofList count)).map Int.ofNat).getD 10, names)
    | _ => (10, word :: names)
  | [] => (10, [])

/-- The lines of a text with their ends. -/
def wholeLines (text : String) : List String :=
  let lines := linesOf text
  if text.toList.getLast? == some '\n' then lines.map (· ++ "\n")
  else lines.dropLast.map (· ++ "\n") ++ lines.getLast?.toList

/-- Print the first lines. It needs no more input than these, and takes all there is. -/
def head (words : List String) : Run Unit := do
  let (count, names) := lineCount words
  let first (text : String) : String :=
    let lines := wholeLines text
    String.join (lines.take (if count < 0 then lines.length - count.natAbs else count.toNat))
  let s ← get
  let enough := (s.input.filter (· == '\n')).length ≥ count.natAbs
  if names.isEmpty && enough then
    let (text, _) ← readAll
    print (first text)
  else onContents names first

/-- Print the last lines. -/
def tail (words : List String) : Run Unit :=
  let (count, names) := lineCount words
  onContents names fun text =>
    let lines := wholeLines text
    String.join (lines.drop (lines.length - count.natAbs))

/-- Count lines, words or bytes. -/
def count (words : List String) : Run Unit := do
  let (letters, names) := options words
  let amount (text : String) (letter : Char) : Nat :=
    match letter with
    | 'l' => (text.toList.filter (· == '\n')).length
    | 'w' => ((text.toList.splitOnP Number.isBlank).filter (!·.isEmpty)).length
    | _ => text.length
  let letters := if letters.isEmpty then ['l', 'w', 'c'] else ['l', 'w', 'c'].filter letters.contains
  let shown (name : String) (text : String) : String :=
    let numbers := letters.map fun letter => Text.ofNat (amount text letter)
    let width := if letters.length = 1 then 0
      else if names.isEmpty then 7 else (Text.ofNat text.length).length
    let filled := numbers.map fun n => "".pushn ' ' (width - n.length) ++ n
    " ".intercalate (filled ++ if name = "" then [] else [name]) ++ "\n"
  onContents names (shown (names.headD ""))

/-- Print lines in order. -/
def sort (words : List String) : Run Unit :=
  let (letters, names) := options words
  onContents names fun text =>
    let key (line : String) : Int := match Number.signed? false line.toList with
      | some (n, _) => n
      | none => 0
    let before (a b : String) : Bool :=
      if letters.contains 'n' && key a != key b then decide (key a < key b) else decide (a ≤ b)
    let lines := (linesOf text).mergeSort before
    let lines := if letters.contains 'u' then lines.eraseReps else lines
    unlines (if letters.contains 'r' then lines.reverse else lines)

/-- The characters of a set that is written with ranges and backslashes. Each round reads one. -/
def setFrom : (rounds : Nat) → List Char → List Char
  | 0, _ => []
  | _, [] => []
  | n + 1, cs =>
    let (c, rest) := match cs with
      | '\\' :: rest => escape rest
      | c :: rest => (c, rest)
      | [] => ('\x00', [])
    match rest with
    | '-' :: last :: rest =>
      let size := last.toNat + 1 - c.toNat
      ((List.range size).map fun i => Char.ofNat (c.toNat + i)) ++ setFrom n rest
    | _ => c :: setFrom n rest

/-- Keep one of equal characters of a set that follow each other. -/
def squeeze (set : List Char) : List Char → List Char
  | c :: d :: rest =>
    if c == d && set.contains c then squeeze set (d :: rest) else c :: squeeze set (d :: rest)
  | cs => cs

/-- Replace characters, take them away, or keep one of many. -/
def exchange (words : List String) : Run Unit :=
  let (letters, sets) := options words
  let sets := sets.map fun set => setFrom (set.length + 1) set.toList
  let squeezed (set cs : List Char) : String :=
    String.ofList (if letters.contains 's' then squeeze set cs else cs)
  match sets with
  | set :: more =>
    if letters.contains 'd' then
      onContents [] fun text => squeezed (more.headD []) (text.toList.filter (!set.contains ·))
    else
      match more with
      | [] =>
        if letters.contains 's' then onContents [] fun text => squeezed set text.toList
        else answer 1
      | target :: _ =>
        let replaced (c : Char) : Char :=
          match set.reverse.idxOf? c with
          | some i => (target[set.length - 1 - i]?).getD (target.getLast?.getD c)
          | none => c
        onContents [] fun text => squeezed target (text.toList.map replaced)
  | [] => answer 1

/-- Change files for each of some names. -/
def onFiles (names : List String) (change : State → Path → Except FileError FileSystem) :
    Run Unit := do
  answer 0
  for name in names do
    let s ← get
    match change s (s.path name) with
    | .ok files => set { s with files }
    | .error _ => answer 1

def createDirectories (words : List String) : Run Unit :=
  let (letters, names) := options words
  onFiles names fun s path =>
    if letters.contains 'p' then
      match s.files.createDirectories path with
      | (files, .ok ()) => .ok files
      | (_, .error e) => .error e
    else if s.files.present path then .error .isDirectory
    else do
      let place ← s.files.locate path
      return s.files.put place .directory

/-- Take files away, and directories if that is wanted. -/
def remove (words : List String) : Run Unit :=
  let (letters, names) := options words
  onFiles names fun s path =>
    match s.files.delete path with
    | .ok files => .ok files
    | .error .notFound => if letters.contains 'f' then .ok s.files else .error .notFound
    | .error e =>
      if letters.contains 'r' || letters.contains 'R' then
        match s.files.deleteDirectory path with
        | (files, .ok ()) => .ok files
        | (_, .error e) => .error e
      else .error e

/-- Create empty files. -/
def touch (names : List String) : Run Unit :=
  onFiles names fun s path =>
    if s.files.present path then .ok s.files else s.files.write path .empty

/-- Print what comes and write it to files. -/
def split (words : List String) : Run Unit := do
  let (letters, names) := options words
  let (text, isOpen) ← readAll
  onFiles names fun s path => do
    let before := if letters.contains 'a' then (s.files.read path).toOption.getD .empty else .empty
    s.files.write path (before ++ Octets.toBytes text)
  let status := (← get).status
  print text
  if isOpen then throw .waiting
  answer status

/-- The last name of a path, without an ending. -/
def lastName (words : List String) : Run Unit :=
  match words with
  | path :: rest =>
    let segments := (path.toList.splitOnP (· == '/')).filter (!·.isEmpty)
    let name := String.ofList (segments.getLast?.getD ['/'])
    let ending := rest.headD ""
    print ((if name != ending then dropSuffix name ending else name) ++ "\n")
  | [] => answer 1

/-- The programs by their names. -/
def byName? (name : String) (words : List String) : Option (Run Unit) :=
  match name with
  | "cat" => some (onContents (options words).2 id)
  | "sleep" => some (sleep words)
  | "ls" => some (list words)
  | "seq" => some (sequence words)
  | "yes" => some (repeated words)
  | "head" => some (head words)
  | "tail" => some (tail words)
  | "wc" => some (count words)
  | "sort" => some (sort words)
  | "tr" => some (exchange words)
  | "mkdir" => some (createDirectories words)
  | "rm" => some (remove words)
  | "touch" => some (touch (options words).2)
  | "tee" => some (split words)
  | "basename" => some (lastName words)
  | _ => none

end PluginHost.Shell.Tool
