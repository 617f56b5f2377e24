import PluginHost.Toml.Scalar

/-!
TOML texts: in double quotes with escapes or in single quotes as they are, on
one line or, between tripled quotes, on several.
-/
namespace PluginHost.Toml

/-- Characters that may stand in a comment or a text: no control character but the tab. -/
def isPlainChar (c : Char) : Bool :=
  c == '\t' || (0x20 ≤ c.toNat && c.toNat != 0x7f)

/-- The character with a code written in hexadecimal digits. -/
def character? (digits : List Char) : Option Char :=
  let code := ofDigits 16 digits
  if digits.all (digitValue · < 16) ∧ code.isValidChar then some (Char.ofNat code) else none

/-- The character of a one-letter escape. -/
def escaped? : Char → Option Char
  | 'b' => some '\x08'
  | 't' => some '\t'
  | 'n' => some '\n'
  | 'f' => some '\x0c'
  | 'r' => some '\r'
  | '"' => some '"'
  | '\\' => some '\\'
  | _ => none

/-- Skip blanks and line ends. -/
def skipSpace : List Char → List Char
  | '\r' :: '\n' :: cs => skipSpace cs
  | c :: cs => if c == ' ' || c == '\t' || c == '\n' then skipSpace cs else c :: cs
  | [] => []

/-- The rest after a backslash at the end of a line: blanks, a line end, and all space after it. -/
def afterJoint? (cs : List Char) : Option (List Char) :=
  match cs.dropWhile fun c => c == ' ' || c == '\t' with
  | '\n' :: rest => some (skipSpace rest)
  | '\r' :: '\n' :: rest => some (skipSpace rest)
  | _ => none

structure TextKind where
  quote : Char
  /-- Whether the quotes are tripled. -/
  tripled : Bool

/-- Whether backslashes escape. -/
def TextKind.escapes (k : TextKind) : Bool := k.quote == '"'

/-- The characters of a text after its opening quotes, and what follows the closing ones. Each round
reads at least one character. -/
def textFrom? (k : TextKind) : (rounds : Nat) → List Char → List Char → Option (String × List Char)
  | 0, _, _ => none
  | n + 1, seen, cs =>
    match cs with
    | [] => none
    | '\r' :: '\n' :: rest => if k.tripled then textFrom? k n ('\n' :: seen) rest else none
    | '\n' :: rest => if k.tripled then textFrom? k n ('\n' :: seen) rest else none
    | '\\' :: rest =>
      if !k.escapes then textFrom? k n ('\\' :: seen) rest
      else
        match k.tripled, afterJoint? rest, rest with
        | true, some after, _ => textFrom? k n seen after
        | _, _, 'u' :: more => do
          if more.length < 4 then none
          else textFrom? k n ((← character? (more.take 4)) :: seen) (more.drop 4)
        | _, _, 'U' :: more => do
          if more.length < 8 then none
          else textFrom? k n ((← character? (more.take 8)) :: seen) (more.drop 8)
        | _, _, e :: more => do textFrom? k n ((← escaped? e) :: seen) more
        | _, _, [] => none
    | c :: rest =>
      if c == k.quote then
        let run := cs.takeWhile (· == k.quote)
        if !k.tripled then some (String.ofList seen.reverse, rest)
        else if run.length < 3 then textFrom? k n (run ++ seen) (cs.drop run.length)
        else
          let kept := min (run.length - 3) 2
          some (String.ofList (List.replicate kept k.quote ++ seen).reverse, cs.drop (kept + 3))
      else if isPlainChar c then textFrom? k n (c :: seen) rest
      else none

/-- A text on one line. -/
def shortText? : List Char → Option (String × List Char)
  | '"' :: cs => textFrom? ⟨'"', false⟩ (cs.length + 1) [] cs
  | '\'' :: cs => textFrom? ⟨'\'', false⟩ (cs.length + 1) [] cs
  | _ => none

/-- A text between tripled quotes; a line end right after the opening quotes does not count. -/
def longText? (quote : Char) (cs : List Char) : Option (String × List Char) :=
  let body := match cs with
    | '\n' :: rest => rest
    | '\r' :: '\n' :: rest => rest
    | _ => cs
  textFrom? ⟨quote, true⟩ (body.length + 1) [] body

/-- A text of any kind. -/
def text? : List Char → Option (String × List Char)
  | '"' :: '"' :: '"' :: cs => longText? '"' cs
  | '\'' :: '\'' :: '\'' :: cs => longText? '\'' cs
  | cs => shortText? cs

end PluginHost.Toml
