/-!
Whole numbers as scripts write them. A number that does not fit into 64 bits
is the nearest one that does.
-/
namespace PluginHost.Shell.Number

def isBlank (c : Char) : Bool :=
  c == ' ' || ('\t' ≤ c && c ≤ '\r')

/-- The value of a digit; letters go on after nine. -/
def digit? (c : Char) : Option Nat :=
  if c.isDigit then some (c.toNat - '0'.toNat)
  else if 'a' ≤ c && c ≤ 'z' then some (c.toNat - 'a'.toNat + 10)
  else if 'A' ≤ c && c ≤ 'Z' then some (c.toNat - 'A'.toNat + 10)
  else none

/-- The value of the digits of a base at the start of a text, if there is one, and the rest. -/
def digits? (base : Nat) (cs : List Char) : Option (Nat × List Char) :=
  let isDigit (c : Char) : Bool := (digit? c).any (· < base)
  match cs.takeWhile isDigit with
  | [] => none
  | ds => some (ds.foldl (fun n c => n * base + (digit? c).getD 0) 0, cs.dropWhile isDigit)

/-- The number without a sign at the start of a text. If its form tells the base, `0x` is in front
of sixteen's digits and `0` in front of eight's. -/
def magnitude? (formed : Bool) (cs : List Char) : Option (Nat × List Char) :=
  if formed then
    match cs with
    | '0' :: x :: rest =>
      if x == 'x' || x == 'X' then (digits? 16 rest).or (some (0, x :: rest))
      else digits? 8 cs
    | _ => digits? 10 cs
  else digits? 10 cs

/-- The number with a sign and blanks in front at the start of a text. -/
def signed? (formed : Bool) (cs : List Char) : Option (Int × List Char) :=
  match cs.dropWhile isBlank with
  | '-' :: rest => (magnitude? formed rest).map fun (n, rest) => (-(n : Int), rest)
  | '+' :: rest => (magnitude? formed rest).map fun (n, rest) => ((n : Int), rest)
  | rest => (magnitude? formed rest).map fun (n, rest) => ((n : Int), rest)

/-- The nearest number of 64 bits. -/
def clamp (n : Int) : Int64 :=
  Int64.ofInt (max Int64.minValue.toInt (min Int64.maxValue.toInt n))

/-- The number a text is, with blanks around it. -/
def ofText? (formed : Bool) (text : String) : Option Int64 := do
  let (n, rest) ← signed? formed text.toList
  if rest.all isBlank then return clamp n else none

def decimal? (text : String) : Option Int64 := ofText? false text

/-- The number a text of digits alone is. -/
def natural? (text : String) : Option Nat :=
  match digits? 10 text.toList with
  | some (n, []) => some n
  | _ => none

end PluginHost.Shell.Number
