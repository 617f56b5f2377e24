import PluginHost.Outside.Shell.Number
import PluginHost.Text.Digits

/-!
What `echo` and `printf` print: backslashes that stand for a character, and
formats with words put in their places.
-/
namespace PluginHost.Shell

/-! ### Backslashes -/

/-- The character of a letter behind a backslash. -/
def escaped? : Char → Option Char
  | 'a' => some '\x07'
  | 'b' => some '\x08'
  | 'e' => some '\x1b'
  | 't' => some '\t'
  | 'n' => some '\n'
  | 'v' => some '\x0b'
  | 'f' => some '\x0c'
  | 'r' => some '\r'
  | '\\' => some '\\'
  | _ => none

def isOctal (c : Char) : Bool := '0' ≤ c && c ≤ '7'

/-- The character behind a backslash, in at most three octal digits or a letter. Before anything
else the backslash stands for itself. -/
def escape (cs : List Char) : Char × List Char :=
  match (cs.take 3).takeWhile isOctal with
  | [] =>
    match cs with
    | c :: rest =>
      match escaped? c with
      | some e => (e, rest)
      | none => ('\\', cs)
    | [] => ('\\', [])
  | digits =>
    let value := digits.foldl (fun n c => n * 8 + (c.toNat - '0'.toNat)) 0
    (Char.ofNat (value % 256), cs.drop digits.length)

/-- A text with what its backslashes stand for, and whether printing stops in it. A zero may stand
in front of octal digits. Each round reads at least one character. -/
def unescape : (rounds : Nat) → List Char → List Char × Bool
  | 0, _ => ([], false)
  | _, [] => ([], false)
  | _ + 1, '\\' :: 'c' :: _ => ([], true)
  | n + 1, '\\' :: rest =>
    let rest := match rest with
      | '0' :: d :: more => if isOctal d then d :: more else rest
      | _ => rest
    let (c, rest) := escape rest
    let (more, stops) := unescape n rest
    (c :: more, stops)
  | n + 1, c :: rest =>
    let (more, stops) := unescape n rest
    (c :: more, stops)

/-- A text with what its backslashes stand for, and whether printing stops in it. -/
def unescaped (text : String) : List Char × Bool :=
  unescape (text.length + 1) text.toList

def echoed (words : List String) : String :=
  let (ending, words) := match words with
    | "-n" :: rest => ("", rest)
    | _ => ("\n", words)
  let (cs, stops) := unescaped (" ".intercalate words)
  String.ofList cs ++ (if stops then "" else ending)

/-! ### Formats -/

/-- How a word is put into a format. -/
structure Layout where
  flags : List Char
  width : Nat
  places : Option Nat

/-- A text at least as wide as the layout wants it. -/
def Layout.fill (l : Layout) (text : String) : String :=
  let blanks := "".pushn ' ' (l.width - text.length)
  if l.flags.contains '-' then text ++ blanks else blanks ++ text

/-- A number of a sign and digits. Zeros fill it up to its places, or to its width if the layout
wants that. -/
def Layout.number (l : Layout) (sign digits : String) : String :=
  let zeros (n : Nat) : String := "".pushn '0' (n - digits.length)
  match l.places with
  | some places =>
    l.fill (sign ++ if places = 0 && digits = "0" then "" else zeros places ++ digits)
  | none =>
    if l.flags.contains '0' && !l.flags.contains '-' then
      sign ++ zeros (l.width - sign.length) ++ digits
    else l.fill (sign ++ digits)

/-- A number with its sign. -/
def Layout.signed (l : Layout) (n : Int) : String :=
  let sign := if n < 0 then "-" else if l.flags.contains '+' then "+"
    else if l.flags.contains ' ' then " " else ""
  l.number sign (Text.ofNat n.natAbs)

/-- A number without a sign in the digits of some base. -/
def Layout.unsigned (l : Layout) (directive : Char) (n : Nat) : String :=
  let form := l.flags.contains '#' && n != 0
  match directive with
  | 'o' => l.number "" ((if form then "0" else "") ++ String.ofList (Nat.toDigits 8 n))
  | 'x' => l.number (if form then "0x" else "") (String.ofList (Nat.toDigits 16 n))
  | 'X' => l.number (if form then "0X" else "") (String.ofList (Nat.toDigits 16 n)).toUpper
  | _ => l.number "" (Text.ofNat n)

/-- A format half used up. -/
structure Printout where
  printed : String
  words : List String
  /-- One if a word was not the number it was taken for, and two if the format is none. -/
  status : Nat
  /-- Whether nothing more is printed. -/
  ended : Bool

namespace Printout

/-- The next word. -/
def next (p : Printout) : Option String × Printout :=
  (p.words.head?, { p with words := p.words.tail })

/-- The next word as a number. A word with a quote in front is the number of the character behind
it, and of a word that is none only its start counts. -/
def nextNumber (p : Printout) : Int × Printout :=
  match p.next with
  | (none, p) => (0, p)
  | (some word, p) =>
    match word.toList with
    | '\'' :: cs | '"' :: cs => (((cs.headD '\x00').toNat : Int), p)
    | cs =>
      match Number.signed? true cs with
      | some (n, rest) => (n, if rest.isEmpty then p else { p with status := 1 })
      | none => (0, if cs.isEmpty then p else { p with status := 1 })

def add (p : Printout) (text : String) : Printout :=
  { p with printed := p.printed ++ text }

/-- Note whether a number is one of those that can be put. -/
def within (p : Printout) (n least most : Int) : Printout :=
  if least ≤ n && n ≤ most then p else { p with status := 1 }

/-- The next word as a number of 64 bits. -/
def nextWord (p : Printout) : Int × Printout :=
  let (n, p) := p.nextNumber
  ((Number.clamp n).toInt, p.within n Int64.minValue.toInt Int64.maxValue.toInt)

/-- The largest size of what is put into a format. -/
def largest : Int := 65536

/-- A width or a number of places: written in the format, or the next word in 32 bits. -/
def size (p : Printout) (cs : List Char) : Int × List Char × Printout :=
  match cs with
  | '*' :: rest =>
    let (n, p) := p.nextWord
    (max (-largest) (min largest (n.bmod (Nat.pow 2 32))), rest, p)
  | _ => (min largest (((Number.digits? 10 cs).map (·.1)).getD 0), cs.dropWhile Char.isDigit, p)

/-- Put a word into its place. There is no other directive. -/
def put? (p : Printout) (l : Layout) (directive : Char) : Option Printout :=
  let cut (cs : List Char) : String :=
    String.ofList (match l.places with
      | some n => cs.take n
      | none => cs)
  match directive with
  | 's' =>
    let (word, p) := p.next
    some (p.add (l.fill (cut (word.getD "").toList)))
  | 'b' =>
    let (word, p) := p.next
    let (cs, stops) := unescaped (word.getD "")
    some { p.add (l.fill (cut cs)) with ended := stops }
  | 'c' =>
    let (word, p) := p.next
    some (p.add (l.fill (String.ofList [((word.getD "").toList.headD '\x00')])))
  | 'd' | 'i' =>
    let (n, p) := p.nextWord
    some (p.add (l.signed n))
  | 'o' | 'u' | 'x' | 'X' =>
    let (n, p) := p.nextNumber
    let most : Int := Text.wordBound - 1
    let p := p.within n (-most) most
    let n := if n < -most || most < n then most else n % (most + 1)
    some (p.add (l.unsigned directive n.toNat))
  | _ => none

/-- The directive behind a percent sign. -/
def directive? (p : Printout) (cs : List Char) : Option (Printout × List Char) :=
  let isFlag (c : Char) : Bool := "#-+ 0".toList.contains c
  let flags := cs.takeWhile isFlag
  let (width, cs, p) := p.size (cs.dropWhile isFlag)
  let flags := if width < 0 then '-' :: flags else flags
  let (places, cs, p) := match cs with
    | '.' :: cs =>
      let (n, cs, p) := p.size cs
      (if n < 0 then none else some n.toNat, cs, p)
    | _ => (none, cs, p)
  match cs with
  | c :: rest => (p.put? ⟨flags, width.natAbs, places⟩ c).map (·, rest)
  | [] => none

/-- Go through a format once. Each round reads at least one character. -/
def pass : (rounds : Nat) → List Char → Printout → Printout
  | 0, _, p => p
  | _, [], p => p
  | n + 1, '%' :: '%' :: rest, p => pass n rest (p.add "%")
  | n + 1, '%' :: rest, p =>
    match p.directive? rest with
    | some (p, rest) => if p.ended then p else pass n rest p
    | none => { p with status := 2, ended := true }
  | n + 1, '\\' :: rest, p =>
    let (c, rest) := escape rest
    pass n rest (p.add (String.ofList [c]))
  | n + 1, c :: rest, p => pass n rest (p.add (String.ofList [c]))

/-- Go through a format as long as it uses words up. -/
def passes : (rounds : Nat) → List Char → Printout → Printout
  | 0, _, p => p
  | n + 1, format, p =>
    let after := p.pass (format.length + 1) format
    if after.ended || after.words.isEmpty || after.words.length = p.words.length then after
    else passes n format after

end Printout

/-- What `printf` prints, and its status. -/
def formatted (format : String) (words : List String) : String × Nat :=
  let p := Printout.passes (words.length + 1) format.toList ⟨"", words, 0, false⟩
  (p.printed, p.status)

end PluginHost.Shell
