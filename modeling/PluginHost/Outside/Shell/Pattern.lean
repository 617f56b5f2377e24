/-!
Patterns of a script: a star stands for any text, a question mark for any
character, and characters in square brackets for one of them. A character that
is quoted stands for itself.
-/
namespace PluginHost.Shell

/-- A member of a set of characters. -/
inductive Member where
  | range (first last : Char)
  /-- A class by its name. -/
  | named (name : String)
  deriving DecidableEq, Repr

/-- Whether a character is in a class. There are no classes of other names. -/
def isInClass (c : Char) (name : String) : Bool :=
  let visible := '!' ≤ c && c ≤ '~'
  match name with
  | "alnum" => c.isAlphanum
  | "alpha" => c.isAlpha
  | "blank" => c == ' ' || c == '\t'
  | "cntrl" => c < ' ' || c == '\x7f'
  | "digit" => c.isDigit
  | "graph" => visible
  | "lower" => c.isLower
  | "print" => c == ' ' || visible
  | "punct" => visible && !c.isAlphanum
  | "space" => c == ' ' || ('\t' ≤ c && c ≤ '\r')
  | "upper" => c.isUpper
  | "xdigit" => c.isDigit || ('a' ≤ c && c ≤ 'f') || ('A' ≤ c && c ≤ 'F')
  | _ => false

def Member.takes (c : Char) : Member → Bool
  | .range first last => first ≤ c && c ≤ last
  | .named name => isInClass c name

/-- A part of a pattern. -/
inductive Atom where
  | char (c : Char)
  | any
  | star
  | set (negated : Bool) (members : List Member)
  deriving DecidableEq, Repr

abbrev Pattern := List Atom

namespace Pattern

/-- A character of a written pattern, and whether it is quoted. -/
abbrev Written := List (Char × Bool)

/-- The name of a class after its opening bracket and colon, and what follows it. -/
def className? (written : Written) : Option (String × Written) :=
  let name := written.takeWhile (·.1.isAlpha)
  match written.drop name.length with
  | (':', _) :: (']', _) :: rest => some (String.ofList (name.map Prod.fst), rest)
  | _ => none

/-- The members of a set up to its closing bracket, which is a member if it comes first. Each round
reads one. -/
def membersFrom? : (rounds : Nat) → (first : Bool) → Written → Option (List Member × Written)
  | 0, _, _ => none
  | _, _, [] => none
  | n + 1, first, (c, quoted) :: rest =>
    let more (member : Member) (rest : Written) : Option (List Member × Written) :=
      (membersFrom? n false rest).map fun (members, rest) => (member :: members, rest)
    if c == ']' && !quoted && !first then some ([], rest)
    else
      let named := match rest with
        | (':', _) :: rest => if c == '[' && !quoted then className? rest else none
        | _ => none
      match named, rest with
      | some (name, rest), _ => more (.named name) rest
      | none, ('-', false) :: (last, lastQuoted) :: after =>
        if last == ']' && !lastQuoted then more (.range c c) rest else more (.range c last) after
      | none, _ => more (.range c c) rest

/-- The pattern of its written form. A set without an end is a bracket and what follows it. Each
round reads an atom. -/
def readFrom : (rounds : Nat) → Written → Pattern
  | 0, _ => []
  | _, [] => []
  | n + 1, (c, true) :: rest => .char c :: readFrom n rest
  | n + 1, ('*', _) :: rest => .star :: readFrom n rest
  | n + 1, ('?', _) :: rest => .any :: readFrom n rest
  | n + 1, ('\\', _) :: (c, _) :: rest => .char c :: readFrom n rest
  | n + 1, ('[', _) :: rest =>
    let (negated, body) := match rest with
      | ('!', false) :: body => (true, body)
      | _ => (false, rest)
    match membersFrom? (body.length + 1) true body with
    | some (members, rest) => .set negated members :: readFrom n rest
    | none => .char '[' :: readFrom n rest
  | n + 1, (c, _) :: rest => .char c :: readFrom n rest

/-- The pattern of its written form. -/
def read (written : Written) : Pattern :=
  readFrom (written.length + 1) written

/-- Whether a pattern may stand for more than one text. -/
def isOpen (p : Pattern) : Bool :=
  p.any fun
    | .char _ => false
    | _ => true

/-- Whether a text fits a pattern. -/
def fits : Pattern → List Char → Bool
  | [], cs => cs.isEmpty
  | .star :: p, cs => (List.range (cs.length + 1)).any fun n => fits p (cs.drop n)
  | .any :: p, cs => !cs.isEmpty && fits p cs.tail
  | .char x :: p, cs => cs.head? == some x && fits p cs.tail
  | .set negated members :: p, cs =>
    cs.head?.any (fun c => members.any (·.takes c) != negated) && fits p cs.tail

/-- The text without a start that fits: the shortest or the longest one. -/
def cutFront (p : Pattern) (longest : Bool) (text : List Char) : List Char :=
  let lengths := List.range (text.length + 1)
  match (if longest then lengths.reverse else lengths).find? fun n => p.fits (text.take n) with
  | some n => text.drop n
  | none => text

/-- The text without an end that fits: the shortest or the longest one. -/
def cutBack (p : Pattern) (longest : Bool) (text : List Char) : List Char :=
  let lengths := List.range (text.length + 1)
  match (if longest then lengths else lengths.reverse).find? fun n => p.fits (text.drop n) with
  | some n => text.take n
  | none => text

end Pattern

end PluginHost.Shell
