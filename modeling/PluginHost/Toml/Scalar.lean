import PluginHost.Toml.Value

/-!
TOML values that are single words: numbers, booleans, dates and times. A word
is recognised by all of its characters.
-/
namespace PluginHost.Toml

/-- Characters a word can be written with. -/
def isWordChar (c : Char) : Bool :=
  c.isAlphanum || c == '_' || c == '-' || c == '+' || c == '.' || c == ':'

/-! ### Numbers -/

/-- Digits, with single underscores between them. -/
def isGrouped (isDigit : Char → Bool) : List Char → Bool
  | [] => false
  | [c] => isDigit c
  | c :: '_' :: rest => isDigit c && isGrouped isDigit rest
  | c :: rest => isDigit c && isGrouped isDigit rest

/-- The digits of a grouped number. -/
def ungroup (cs : List Char) : List Char :=
  cs.filter (· != '_')

/-- Grouped decimal digits without a leading zero, or a zero. -/
def isWhole (cs : List Char) : Bool :=
  cs == ['0'] || (cs.head? != some '0' && isGrouped Char.isDigit cs)

/-- The value of a digit in bases up to sixteen; no digit has more than fifteen. -/
def digitValue (c : Char) : Nat :=
  if c.isDigit then c.toNat - '0'.toNat
  else if 'a' ≤ c ∧ c ≤ 'f' then c.toNat - 'a'.toNat + 10
  else if 'A' ≤ c ∧ c ≤ 'F' then c.toNat - 'A'.toNat + 10
  else 16

/-- The number some digits stand for. -/
def ofDigits (base : Nat) (cs : List Char) : Nat :=
  (ungroup cs).foldl (fun n c => n * base + digitValue c) 0

/-- The sign in front of a number, and the rest. -/
def signed : List Char → Bool × List Char
  | '-' :: cs => (true, cs)
  | '+' :: cs => (false, cs)
  | cs => (false, cs)

/-- An integer of sixty-four bits. -/
def inRange (i : Int) : Option Int :=
  if -(Nat.pow 2 63 : Int) ≤ i ∧ i < Nat.pow 2 63 then some i else none

/-- An integer in a base other than ten. -/
def based? (base : Nat) (cs : List Char) : Option Int :=
  if isGrouped (digitValue · < base) cs then inRange (ofDigits base cs) else none

/-- The integer a word stands for. -/
def integer? : List Char → Option Int
  | '0' :: 'x' :: cs => based? 16 cs
  | '0' :: 'o' :: cs => based? 8 cs
  | '0' :: 'b' :: cs => based? 2 cs
  | cs =>
    let (negative, digits) := signed cs
    if isWhole digits then
      let n : Int := ofDigits 10 digits
      inRange (if negative then -n else n)
    else none

/-- Whether `significand * 10 ^ exponent` is too large for a double. -/
def overflows (significand : Nat) (exponent : Int) : Bool :=
  let bound := Nat.pow 2 1024 - Nat.pow 2 970
  let digits : Int := (Nat.toDigits 10 significand).length
  if significand = 0 ∨ exponent + digits < 300 then false
  else if 400 ≤ exponent then true
  else if 0 ≤ exponent then bound ≤ significand * Nat.pow 10 exponent.toNat
  else bound * Nat.pow 10 (-exponent).toNat ≤ significand

/-- Whether a word is a floating point number. One above all doubles is refused; one below all
doubles is not. -/
def isReal (word : List Char) : Bool :=
  let (negative, cs) := signed word
  let isMark (c : Char) : Bool := c == 'e' || c == 'E'
  let base := cs.takeWhile (!isMark ·)
  let whole := base.takeWhile (· != '.')
  let fraction := (base.dropWhile (· != '.')).drop 1
  let (down, power) := signed ((cs.dropWhile (!isMark ·)).drop 1)
  let hasPoint := base.contains '.'
  let hasPower := cs.any isMark
  if cs == ['i', 'n', 'f'] || cs == ['n', 'a', 'n'] then true
  else
    isWhole whole && (hasPoint || hasPower) &&
    (!hasPoint || isGrouped Char.isDigit fraction) &&
    (!hasPower || isGrouped Char.isDigit power) &&
    (negative ||
      let size : Int := ofDigits 10 power
      !overflows (ofDigits 10 (whole ++ fraction))
        ((if down then -size else size) - (ungroup fraction).length))

/-! ### Dates and times -/

/-- A number of exactly `width` digits within bounds. -/
def isNumber (width low high : Nat) (cs : List Char) : Bool :=
  cs.length == width && cs.all Char.isDigit && low ≤ ofDigits 10 cs && ofDigits 10 cs ≤ high

/-- The number of days of a month. -/
def daysIn (year month : Nat) : Nat :=
  if month = 2 then
    if year % 4 = 0 ∧ (year % 100 ≠ 0 ∨ year % 400 = 0) then 29 else 28
  else if month = 4 ∨ month = 6 ∨ month = 9 ∨ month = 11 then 30
  else 31

/-- Whether a word is a date. -/
def isDate (cs : List Char) : Bool :=
  match cs.splitOn '-' with
  | [year, month, day] =>
    isNumber 4 0 9999 year && isNumber 2 1 12 month &&
      isNumber 2 1 (daysIn (ofDigits 10 year) (ofDigits 10 month)) day
  | _ => false

/-- Whether a word is a time of the day. -/
def isTime (cs : List Char) : Bool :=
  match (cs.takeWhile (· != '.')).splitOn ':' with
  | [hour, minute, second] =>
    isNumber 2 0 23 hour && isNumber 2 0 59 minute && isNumber 2 0 60 second &&
      match cs.dropWhile (· != '.') with
      | [] => true
      | _ :: fraction => !fraction.isEmpty && fraction.all Char.isDigit
  | _ => false

/-- Whether a word is a distance from universal time. -/
def isOffset : List Char → Bool
  | ['Z'] | ['z'] => true
  | sign :: cs =>
    (sign == '+' || sign == '-') &&
      match cs.splitOn ':' with
      | [hour, minute] => isNumber 2 0 23 hour && isNumber 2 0 59 minute
      | _ => false
  | [] => false

/-- Whether a word is a time of the day, with or without an offset. -/
def isClock (cs : List Char) : Bool :=
  let isTimeChar (c : Char) : Bool := c.isDigit || c == ':' || c == '.'
  let offset := cs.dropWhile isTimeChar
  isTime (cs.takeWhile isTimeChar) && (offset.isEmpty || isOffset offset)

/-- Whether a word is a date, a time, or both. -/
def isMoment (cs : List Char) : Bool :=
  isTime cs || isDate cs ||
    (isDate (cs.take 10) &&
      match cs.drop 10 with
      | mark :: clock => (mark == 'T' || mark == 't' || mark == ' ') && isClock clock
      | [] => false)

/-! ### Words -/

def word? (cs : List Char) : Option Value :=
  if cs = "true".toList then some (.bool true)
  else if cs = "false".toList then some (.bool false)
  else if isMoment cs then some .moment
  else if isReal cs then some .real
  else (integer? cs).map .integer

/-- The value of the word at the start of the text, and the rest. A date may be followed by a blank
and a time. -/
def scalar? (cs : List Char) : Option (Value × List Char) :=
  let word := cs.takeWhile isWordChar
  let rest := cs.dropWhile isWordChar
  match isDate word, rest with
  | true, ' ' :: c :: more =>
    if c.isDigit then do
      let clock := (c :: more).takeWhile isWordChar
      return (← word? (word ++ ' ' :: clock), (c :: more).dropWhile isWordChar)
    else some (.moment, rest)
  | _, _ => do return (← word? word, rest)

example : integer? "0x_1".toList = none := by decide +kernel
example : integer? "-1_000".toList = some (-1000) := by decide +kernel
example : isReal "6.02e+23".toList = true := by decide +kernel
example : isReal "1.".toList = false := by decide +kernel
example : isMoment "1979-05-27T07:32:00Z".toList = true := by decide +kernel
example : isMoment "2023-02-29".toList = false := by decide +kernel

end PluginHost.Toml
