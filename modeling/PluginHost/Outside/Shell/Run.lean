import PluginHost.Outside.Shell.Builtin
import PluginHost.Outside.Shell.Expansion
import PluginHost.Outside.Shell.Tool

/-!
Running a script: it reads lines, prints, and ends with a code, by a signal,
or not at all while it waits for a line that has not come yet. What runs beside
the script is run before what follows, in a time of its own.
-/
namespace PluginHost.Shell

/-! ### Redirections -/

/-- Lead a descriptor to a sink, or close it. -/
def leadTo (descriptor : Nat) (sink? : Option Sink) : Run Unit :=
  modify fun s => { s with
    sinks := (sink?.map fun sink => (descriptor, sink)).toList ++ s.sinks.filter (·.1 != descriptor) }

def readFrom (text : String) : Run Unit :=
  modify fun s => { s with input := text.toList, closed := true }

/-- Lead a descriptor where another one leads, which is named by a digit, or close it. The answer
tells whether it leads anywhere. -/
def leadLike (descriptor : Nat) (name : String) : Run Bool := do
  match name.toList with
  | ['-'] =>
    if descriptor = 0 then readFrom "" else leadTo descriptor none
    return true
  | [c] =>
    if !c.isDigit then refuse
    let other := c.toNat - '0'.toNat
    if other = 0 then return descriptor = 0
    match (← get).sinks.lookup other with
    | some sink => leadTo descriptor (some sink); return true
    | none => return false
  | _ => refuse

/-- Lead a descriptor to a file. The answer tells whether that can be done. -/
def leadToFile (descriptor : Nat) (way : Way) (name : String) : Run Bool := do
  let s ← get
  let path := s.path name
  match way, name with
  | .read, "/dev/null" => readFrom ""; return true
  | _, "/dev/null" => leadTo descriptor (some .lost); return true
  | _, "/dev/stdout" => leadLike descriptor "1"
  | _, "/dev/stderr" => leadLike descriptor "2"
  | .like, _ => leadLike descriptor name
  | .read, _ =>
    match s.files.lookup path with
    | .ok (.file content) => readFrom (Octets.ofBytes content); return true
    | .ok .directory => readFrom ""; return true
    | .error _ => return false
  | _, _ =>
    let content := if way = .append then (s.files.read path).toOption.getD .empty else .empty
    match s.files.write path content with
    | .ok files =>
      set { s with files }
      leadTo descriptor (some (.file path))
      return true
    | .error _ => return false

/-- Lead input or output elsewhere. The answer tells whether that can be done. -/
def Redirection.apply (run : Command → Run Unit) : Redirection → Run Bool
  | .document text => do
    readFrom (← text.text run)
    return true
  | .file descriptor way target => do leadToFile descriptor way (← target.text run)

/-- Lead input or output elsewhere, one after the other, as long as that can be done. -/
def applyAll (run : Command → Run Unit) : List Redirection → Run Bool
  | [] => return true
  | r :: rest => do if ← r.apply run then applyAll run rest else return false

/-- Whether a redirection leads the input. -/
def Redirection.isInput : Redirection → Bool
  | .document _ => true
  | .file descriptor way _ => descriptor = 0 || (way = .read)

/-- Run while input and output are led elsewhere. -/
def withRedirections (run : Command → Run Unit) (redirections : List Redirection)
    (onMistake body : Run Unit) : Run Unit := do
  let before ← get
  let back : Run Unit := modify fun s =>
    let s := { s with sinks := before.sinks }
    if redirections.any Redirection.isInput then
      { s with input := before.input, closed := before.closed }
    else s
  let done ← tryCatch (applyAll run redirections) fun stop => do back; throw stop
  if done then
    tryCatch body fun stop => do back; throw stop
    back
  else
    back
    onMistake

/-! ### Simple commands -/

/-- Run with some variables set, which are as before afterwards. -/
def withVariables (values : List (String × String)) (body : Run Unit) : Run Unit := do
  let before := (← get).bindings
  for (name, value) in values do assign name value
  let back : Run Unit := modify fun s =>
    { s with bindings := values.foldl (fun vs v =>
        match before.lookup v.1 with
        | some value => vs.set v.1 value
        | none => vs.unset v.1) s.bindings }
  tryCatch body fun stop => do back; throw stop
  back

/-- How many functions can run within each other. -/
def deepest : Nat := 1000

/-- Run a function: its arguments and the variables of its own end with it. -/
def call (run : Command → Run Unit) (body : Command) (arguments : List String) : Run Unit := do
  tire
  let before ← get
  if before.depth ≥ deepest then refuse
  set { before with arguments, locals := [], depth := before.depth + 1, loops := 0 }
  let back : Run Unit := modify fun s => { s with
    arguments := before.arguments
    locals := before.locals
    depth := before.depth
    loops := before.loops
    bindings := s.locals.foldl (fun vs v =>
      match v.2 with
      | some value => vs.set v.1 value
      | none => vs.unset v.1) s.bindings }
  tryCatch (run body) fun
    | .returned => pure ()
    | stop => do back; throw stop
  back

/-- Run what the words of a shell say: a text with commands, a file of them, or what comes. -/
def shell (run : Command → Run Unit) : List String → Run Unit
  | [] => do
    let (script, isOpen) ← readAll
    run (Command.read script)
    if isOpen then throw .waiting
  | word :: words =>
    match word.toList with
    | '-' :: c :: letters => do
      for letter in (c :: letters).filter (· != 'c') do Builtin.setOption true letter
      if !(c :: letters).contains 'c' then shell run words
      else
        match words with
        | script :: rest =>
          modify fun s => { s with title := rest.headD s.title, arguments := rest.tail }
          run (Command.read script)
        | [] => refuse
    | _ => do
      modify fun s => { s with title := word, arguments := words }
      match (← get).find word with
      | .ok (.file content) => run (Command.read (Octets.ofBytes content))
      | _ => refuse

/-- Run a shell of its own, which shares nothing but input, output, files and the directory. -/
def another (run : Command → Run Unit) (name : String) (words : List String) : Run Unit := do
  let before ← get
  let fresh := State.start name "" before.closed before.files before.directory
  set { fresh with
    input := before.input, sinks := before.sinks, clock := before.clock, patience := before.patience
    printed := before.printed, caught := before.caught }
  let stop? ← tryCatch (do untilExit run (shell run words); pure none) fun stop => pure (some stop)
  modify before.rejoined
  match stop? with
  | some (.exited code) => answer code
  | some (.killed signal) => answer (128 + signal)
  | some stop => throw stop
  | none => pure ()

/-- The status of a command that does not exist. -/
def missing : Nat := 127

/-- The status of a file that is no program. -/
def noProgram : Nat := 126

def programDirectories : List String := ["/bin/", "/usr/bin/"]

/-- The name of a program without the directory of programs in front. -/
def shortName (name : String) : String :=
  match programDirectories.find? fun d => d.toList.isPrefixOf name.toList with
  | some d => String.ofList (name.toList.drop d.length)
  | none => name

def shellNames : List String := ["sh", "dash"]

/-- The program of a name, with or without its directory. -/
def program? (run : Command → Run Unit) (name : String) (words : List String) : Option (Run Unit) :=
  let short := shortName name
  if shellNames.contains short then some (another run name words)
  else
    match short with
    | "echo" => some (Tool.echo words)
    | "true" | "false" | "printf" | "test" | "[" => Builtin.plain? run short words
    | _ => Tool.byName? short words

/-- Run some words as a command: one that works on the script, a function, or a program. -/
def perform (run : Command → Run Unit) (withFunctions : Bool) (name : String)
    (words : List String) : Run Unit := do
  let s ← get
  let function? := if withFunctions then s.functions.lookup name else none
  match Builtin.special? run name words, function? with
  | some special, _ => special
  | none, some body => call run body words
  | none, none =>
    match (Builtin.plain? run name words).or (program? run name words) with
    | some command => command
    | none =>
      let isFile := name.toList.contains '/' && s.files.present (s.path name)
      answer (if isFile then noProgram else missing)

def isSpecial (run : Command → Run Unit) (name : String) : Bool :=
  name = "exec" || (Builtin.special? run name []).isSome

/-- Print what a name stands for. -/
def describe (run : Command → Run Unit) (name : String) : Run Unit := do
  if isSpecial run name || (Builtin.plain? run name []).isSome ||
      ((← get).functions.lookup name).isSome then print (name ++ "\n")
  else if (program? run name []).isSome then print ("/usr/bin/" ++ name ++ "\n")
  else answer missing

/-- Run the words of a command, of which there is one at least. -/
def performAll (run : Command → Run Unit) : List String → Run Unit
  | [] => answer 0
  | "exec" :: words => do
    match words with
    | [] => answer 0
    | name :: words =>
      (program? run name words).getD (answer missing)
      modify fun s => { s with traps := [] }
      throw (.exited (← get).status)
  | "command" :: words => do
    match words with
    | [] => answer 0
    | "-v" :: names => for name in names do describe run name
    | name :: words => perform run false name words
  | name :: words => perform run true name words

/-- The values of assignments, each set as soon as it is known. -/
def assignAll (run : Command → Run Unit) (assignments : List (String × Word)) : Run Unit := do
  for (name, word) in assignments do assign name (← word.text run)

def simple (run : Command → Run Unit) (assignments : List (String × Word)) (words : List Word)
    (redirections : List Redirection) : Run Unit := do
  modify fun s => { s with caughtStatus := none }
  match ← fieldsOf run words with
  | [] =>
    withRedirections run redirections (answer mistaken) do
      assignAll run assignments
      answer ((← get).caughtStatus.getD 0)
  | name :: words =>
    if name = "exec" && words.isEmpty then
      if !(← applyAll run redirections) then refuse
      assignAll run assignments
      answer 0
    else if isSpecial run name then
      withRedirections run redirections refuse do
        assignAll run assignments
        performAll run (name :: words)
    else
      withRedirections run redirections (answer mistaken) do
        let mut values := []
        for (name, word) in assignments do values := values ++ [(name, ← word.text run)]
        withVariables values (performAll run (name :: words))

/-! ### Commands -/

/-- Stop where a command failed, if that is wanted and nobody asked. -/
def check : Run Unit := do
  let s ← get
  if s.options.exitOnFailure && !s.asked && s.status ≠ 0 then throw (.exited s.status)

/-- Run as a part of a loop. -/
def inLoop (body : Run Unit) : Run Unit := do
  modify fun s => { s with loops := s.loops + 1 }
  let back : Run Unit := modify fun s => { s with loops := s.loops - 1 }
  tryCatch body fun stop => do back; throw stop
  back

/-- What a loop does with why its body stopped: go on, or end in some way. -/
def afterRound : Except Stop Unit → Option (Except Stop Unit)
  | .ok () => none
  | .error (.leave (n + 2)) => some (.error (.leave (n + 1)))
  | .error (.leave _) => some (.ok ())
  | .error (.again (n + 2)) => some (.error (.again (n + 1)))
  | .error (.again _) => none
  | .error stop => some (.error stop)

/-- Run while a condition goes one way, for at most some rounds. The status is that of the last
round. -/
def rounds (condition body : Run Unit) (onSuccess : Bool) :
    (rounds : Nat) → (status : Nat) → State → Except Stop Unit × State
  | 0, _, s => (.error .endless, s)
  | n + 1, status, s =>
    match (do tire; withAsked true condition : Run Unit).run.run s with
    | (.ok (), s) =>
      if (s.status == 0) == onSuccess then
        match body.run.run s with
        | (result, s) =>
          match afterRound result with
          | none => rounds condition body onSuccess n s.status s
          | some result => (result, s)
      else (.ok (), { s with status })
    | (result, s) =>
      match afterRound result with
      | none => rounds condition body onSuccess n s.status s
      | some result => (result, s)

/-- Run once for each value of a variable. -/
def forEach (name : String) (body : Run Unit) : List String → Run Unit
  | [] => pure ()
  | value :: rest => do
    tire
    assign name value
    let result ← tryCatch (do body; pure (.ok ())) fun stop => pure (.error stop)
    match afterRound result with
    | none => forEach name body rest
    | some (.ok ()) => pure ()
    | some (.error stop) => throw stop

/-- Run two commands of which the second one reads what the first one prints. A first one that goes
on for too long is ended by the end of the second one. -/
def piped (run : Command → Run Unit) (first second : Command) : Run Unit := do
  let status := (← get).status
  let (text, stop?) ← catching (untilExit run (run first))
  if let some (.killed signal) := stop? then throw (.killed signal)
  let before ← get
  modify fun s => { s with input := text.toList, closed := stop?.isNone, status }
  let back : Run Unit := modify fun s => { s with input := before.input, closed := before.closed }
  tryCatch (alone (untilExit run (run second))) fun stop => do
    back
    throw (if stop = .waiting then stop?.getD stop else stop)
  back
  if stop? = some .waiting then throw .waiting

/-- How long it takes until what runs beside the script has started. -/
def startingTime : Nat := 1

/-- Run beside the script, without input. -/
def beside (body : Run Unit) : Run Unit := do
  let before ← get
  modify fun s => { s with input := [], closed := true, clock := s.clock + startingTime }
  tryCatch (alone body) fun
    | .killed signal => throw (.killed signal)
    | _ => pure ()
  modify fun s => { s with
    input := before.input
    closed := before.closed
    clock := before.clock
    jobs := (s.status, s.clock) :: s.jobs
    status := 0 }

/-- The first body of some branches with a pattern that a text fits. -/
def chosen (run : Command → Run Unit) (text : String) :
    List (List Word × Command) → Run (Option Command)
  | [] => return none
  | (patterns, body) :: rest => do
    for pattern in patterns do
      if (← pattern.pattern run).fits text.toList then return some body
    chosen run text rest

/-- Run a command in at most some steps. -/
def run : (steps : Nat) → Command → Run Unit
  | 0, _ => throw .endless
  | n + 1, command =>
    match command with
    | .nothing => pure ()
    | .broken => refuse
    | .simple assignments words redirections => do
      simple (run n) assignments words redirections
      check
    | .sequence first second => do
      run n first
      run n second
    | .conditional onSuccess first second => do
      withAsked true (run n first)
      if ((← get).status == 0) == onSuccess then run n second
    | .negate body => do
      withAsked true (run n body)
      test ((← get).status != 0)
    | .choice condition yes no => do
      withAsked true (run n condition)
      if (← get).status == 0 then run n yes
      else
        match no with
        | .nothing => answer 0
        | _ => run n no
    | .loop onSuccess condition body =>
      inLoop (rounds (run n condition) (run n body) onSuccess n 0)
    | .each name words body => do
      let values ← match words with
        | some words => fieldsOf (run n) words
        | none => State.arguments <$> get
      if values.isEmpty then answer 0
      inLoop (forEach name (run n body) values)
    | .select subject branches => do
      match ← chosen (run n) (← subject.text (run n)) branches with
      | none | some .nothing => answer 0
      | some body => run n body
    | .pipe first second => do
      piped (run n) first second
      check
    | .subshell body => do
      alone (untilExit (run n) (run n body))
      check
    | .detached body => beside (untilExit (run n) (run n body))
    | .redirected body redirections =>
      withRedirections (run n) redirections (answer mistaken) (run n body)
    | .define name body => do
      modify fun s => { s with functions := (name, body) :: s.functions.filter (·.1 != name) }
      answer 0

def isProgram (name : String) : Bool :=
  (program? (fun _ => pure ()) name []).isSome

/-- Run a program, a shell in place and not beside another one. -/
def launch (run : Command → Run Unit) (name : String) (words : List String) : Run Unit :=
  if shellNames.contains (shortName name) then shell run words
  else (program? run name words).getD (answer missing)

/-- A program that has come as far as it can: why it stopped, and what it left. -/
def outcome (steps : Nat) (name : String) (words : List String) (s : State) : Stop × State :=
  let run := run steps
  match (untilExit run (launch run name words)).run.run s with
  | (.error stop, s) => (stop, s)
  | (.ok (), s) => (.exited s.status, s)

end PluginHost.Shell
