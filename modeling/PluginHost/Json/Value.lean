import PluginHost.Json.Draft
import PluginHost.Text.Digits

/-!
JSON values. Objects keep their members in the order of their keys, each key
once. Whole numbers that fit a machine word stay exact; every other number
is a double.
-/
namespace PluginHost

inductive Json.Number where
  | natural (value : Nat)
  /-- A whole number below zero. -/
  | negative (magnitude : Nat)
  /-- The bits of a finite double. -/
  | double (bits : UInt64)
  deriving DecidableEq, Repr

inductive Json where
  | null
  | bool (value : Bool)
  | number (value : Json.Number)
  | text (value : String)
  | list (items : List Json)
  /-- Members in ascending order of their keys. -/
  | object (members : List (String × Json))
  deriving Inhabited

namespace Json

/-! ### Members -/

/-- Give a key a value in an ordered list of members; an older value of the key is replaced. -/
def put {α : Type} (key : String) (value : α) : List (String × α) → List (String × α)
  | [] => [(key, value)]
  | (k, v) :: rest =>
    if key < k then (key, value) :: (k, v) :: rest
    else if key = k then (key, value) :: rest
    else (k, v) :: put key value rest

/-- Members in ascending order of keys; of several with one key the last one counts. -/
def ordered {α : Type} (members : List (String × α)) : List (String × α) :=
  members.foldl (fun acc m => put m.1 m.2 acc) []

theorem lookup_cons_eq_ite {α : Type} (key : String) (value : α) (members : List (String × α))
    (other : String) : ((key, value) :: members).lookup other =
      if other = key then some value else members.lookup other := by
  rw [List.lookup_cons]
  by_cases h : other = key
  · simp [h]
  · simp [beq_eq_false_iff_ne.mpr h, h]

theorem lookup_put {α : Type} (key : String) (value : α) (members : List (String × α))
    (other : String) : (put key value members).lookup other =
      if other = key then some value else members.lookup other := by
  induction members with
  | nil => exact lookup_cons_eq_ite key value [] other
  | cons m rest ih =>
      obtain ⟨k, v⟩ := m
      unfold put
      split
      · exact lookup_cons_eq_ite key value _ other
      · split
        · next hkey =>
            subst hkey
            simp only [lookup_cons_eq_ite]
            split <;> rfl
        · next hne =>
            rw [lookup_cons_eq_ite, lookup_cons_eq_ite, ih]
            by_cases h : other = key
            · subst h
              simp [hne]
            · simp [h]

/-- A new key is added, wherever that is. -/
theorem put_perm {α : Type} {key : String} (value : α) {members : List (String × α)}
    (new : key ∉ members.map Prod.fst) : (put key value members).Perm ((key, value) :: members) := by
  induction members with
  | nil => exact List.Perm.refl _
  | cons m rest ih =>
      obtain ⟨k, v⟩ := m
      rw [List.map_cons, List.mem_cons, not_or] at new
      unfold put
      rw [if_neg new.1]
      split
      · exact List.Perm.refl _
      · exact ((ih new.2).cons (k, v)).trans (List.Perm.swap (key, value) (k, v) rest)

def member? (members : List (String × Json)) (key : String) : Option Json :=
  members.lookup key

/-- The text, if the value is a text. -/
def text? : Json → Option String
  | .text s => some s
  | _ => none

/-! ### Strings -/

/-- The value of one hexadecimal digit. -/
def hexValue (c : Char) : Nat :=
  if c.isDigit then c.toNat - '0'.toNat
  else if 'a' ≤ c ∧ c ≤ 'f' then c.toNat - 'a'.toNat + 10
  else c.toNat - 'A'.toNat + 10

/-- The sixteen-bit unit written with four hexadecimal digits. -/
def unit (a b c d : Char) : Nat :=
  ((hexValue a * 16 + hexValue b) * 16 + hexValue c) * 16 + hexValue d

/-- The character of a one-letter escape. -/
def escaped? : Char → Option Char
  | '"' => some '"'
  | '\\' => some '\\'
  | '/' => some '/'
  | 'b' => some '\x08'
  | 'f' => some '\x0c'
  | 'n' => some '\n'
  | 'r' => some '\r'
  | 't' => some '\t'
  | _ => none

/-- The text a written string stands for. A high surrogate has to be followed by a low one, and a
low surrogate stands nowhere else. -/
def unescape : List Char → Option (List Char)
  | [] => some []
  | '\\' :: 'u' :: a :: b :: c :: d :: rest =>
    let high := unit a b c d
    if 0xDC00 ≤ high ∧ high ≤ 0xDFFF then none
    else if 0xD800 ≤ high ∧ high ≤ 0xDBFF then
      match rest with
      | '\\' :: 'u' :: e :: f :: g :: h :: rest =>
        let low := unit e f g h
        if 0xDC00 ≤ low ∧ low ≤ 0xDFFF then
          (Char.ofNat (0x10000 + (high - 0xD800) * 0x400 + (low - 0xDC00)) :: ·) <$> unescape rest
        else none
      | _ => none
    else (Char.ofNat high :: ·) <$> unescape rest
  | '\\' :: c :: rest => do
    let e ← escaped? c
    (e :: ·) <$> unescape rest
  | c :: rest => (c :: ·) <$> unescape rest

/-! ### Numbers -/

/-- Read digits into a significand that has to stay a machine word; the digits after the first one
that does not fit are left over. -/
def accumulate (significand : Nat) : List Char → Nat × List Char
  | [] => (significand, [])
  | c :: rest =>
    let next := significand * 10 + (c.toNat - '0'.toNat)
    if next < Text.wordBound then accumulate next rest else (significand, c :: rest)

/-- `significand * 10 ^ exponent` by one conversion and one or more multiplications or divisions in
double arithmetic, each rounded; none if the result would be infinite. -/
def scaleDouble (f : Float) (exponent : Int) : (steps : Nat) → Option Float
  | 0 => none
  | steps + 1 =>
    let size := exponent.natAbs
    if size ≤ 308 then
      let power := Float.ofScientific 1 false size
      if 0 ≤ exponent then
        let r := f * power
        if r.isInf then none else some r
      else some (f / power)
    else if f == 0 then some f
    else if 0 ≤ exponent then none
    else scaleDouble (f / Float.ofScientific 1 false 308) (exponent + 308) steps

/-- The double with a sign, a significand and a decimal exponent. -/
def double? (negative : Bool) (significand : Nat) (exponent : Int) : Option Number :=
  (scaleDouble significand.toUInt64.toFloat exponent (exponent.natAbs / 308 + 2)).map fun f =>
    .double (if negative then -f else f).toBits

/-- The largest exponent that is read digit by digit. -/
def maxExponent : Nat := Nat.pow 2 31 - 1

/-- The number some digits stand for. -/
def Number.ofParts? (p : NumberParts) : Option Number :=
  let (significand, dropped) := accumulate 0 p.whole
  let base : Int := dropped.length
  if p.fraction.isNone && p.exponent.isNone && dropped.isEmpty then
    if !p.negative then some (.natural significand)
    else if significand = 0 ∨ Nat.pow 2 63 < significand then double? true significand 0
    else some (.negative significand)
  else
    let fraction := p.fraction.getD []
    let (significand, unread) := accumulate significand fraction
    let base := base - ((fraction.length - unread.length : Nat) : Int)
    match p.exponent with
    | none => double? p.negative significand base
    | some (below, digits) =>
      let size := Nat.ofDigitChars 10 digits 0
      if maxExponent < size then
        if significand != 0 && !below then none
        else some (.double (if p.negative then -0.0 else 0.0 : Float).toBits)
      else double? p.negative significand (if below then base - size else base + size)

/-! ### Values -/

/-- How deep lists and objects may be nested in each other. -/
def maxDepth : Nat := 127

mutual
/-- The value a draft stands for, with at most `depth` containers inside each other. -/
def ofDraft? (depth : Nat) : Draft → Option Json
  | .null => some .null
  | .bool b => some (.bool b)
  | .number literal => do
    let parts ← NumberParts.of? literal
    .number <$> Number.ofParts? parts
  | .text raw => (fun cs => .text (String.ofList cs)) <$> unescape raw
  | .list items => if depth = 0 then none else .list <$> ofDrafts? (depth - 1) items
  | .object members =>
    if depth = 0 then none else (fun ms => .object (ordered ms)) <$> ofMembers? (depth - 1) members

/-- The values of the items of a list. -/
def ofDrafts? (depth : Nat) : List Draft → Option (List Json)
  | [] => some []
  | d :: rest => do
    let v ← ofDraft? depth d
    (v :: ·) <$> ofDrafts? depth rest

/-- The members of an object, in the order they are written. -/
def ofMembers? (depth : Nat) : List (List Char × Draft) → Option (List (String × Json))
  | [] => some []
  | (raw, d) :: rest => do
    let key ← unescape raw
    let v ← ofDraft? depth d
    ((String.ofList key, v) :: ·) <$> ofMembers? depth rest
end

def parse? (text : String) : Option Json := do
  ofDraft? maxDepth (← Draft.read? text)

end Json

end PluginHost
