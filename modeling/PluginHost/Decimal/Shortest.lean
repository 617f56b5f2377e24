import PluginHost.Text.Digits

/-!
Binary floating-point numbers in decimal. A number is written with the
fewest digits that still lie nearest to it among all doubles; which
exponents are written out in full is a decision of the format.
-/
namespace PluginHost.Decimal

/-- A finite double other than zero: `mantissa * 2 ^ exponent`. `atPowerOfTwo` says that the gap to
the next smaller double is half the gap to the next larger one. -/
structure Binary where
  mantissa : Nat
  exponent : Int
  atPowerOfTwo : Bool
  deriving DecidableEq, Repr

/-- The parts of a double with the given bits, sign aside. -/
def Binary.ofBits (bits : UInt64) : Binary :=
  let fraction := bits.toNat % Nat.pow 2 52
  let biased : Nat := bits.toNat / Nat.pow 2 52 % Nat.pow 2 11
  if biased = 0 then ⟨fraction, -1074, false⟩
  else ⟨Nat.pow 2 52 + fraction, Int.ofNat biased - 1075, fraction == 0 && biased != 1⟩

/-- A positive decimal number `digits * 10 ^ exponent`. -/
structure Scaled where
  digits : Nat
  exponent : Int
  deriving DecidableEq, Repr

/-- Four times a value, and the two ends of the interval that reads back as it, over one
denominator. -/
structure Interval where
  value : Nat
  low : Nat
  high : Nat
  denominator : Nat
  closed : Bool

/-- The interval of numbers that read back as `b`. Its ends belong to it when the mantissa is
even. -/
def Binary.interval (b : Binary) : Interval :=
  let up := Nat.pow 2 (b.exponent - 2).toNat
  let down := Nat.pow 2 (2 - b.exponent).toNat
  let value := 4 * b.mantissa
  ⟨value * up, (value - (if b.atPowerOfTwo then 1 else 2)) * up, (value + 2) * up, down,
    b.mantissa % 2 = 0⟩

/-- Whether `n / denominator` lies in the interval. -/
def Interval.contains (i : Interval) (n : Nat) : Bool :=
  if i.closed then i.low ≤ n && n ≤ i.high else i.low < n && n < i.high

/-- A multiple of `10 ^ exponent` in the interval: the nearer of the two neighbours of the value,
and the even one if both are equally near. -/
def Interval.onGrid? (i : Interval) (exponent : Int) : Option Scaled :=
  let grow := Nat.pow 10 (-exponent).toNat
  let unit := i.denominator * Nat.pow 10 exponent.toNat
  let wide : Interval := ⟨i.value * grow, i.low * grow, i.high * grow, unit, i.closed⟩
  let below := wide.value / unit
  let above := below + 1
  let lowHit := below != 0 && wide.contains (below * unit)
  let highHit := wide.contains (above * unit)
  let middle := (below + above) * unit
  let isLower := 2 * wide.value < middle || (2 * wide.value == middle && below % 2 == 0)
  if lowHit && (!highHit || isLower) then some ⟨below, exponent⟩
  else if highHit then some ⟨above, exponent⟩
  else none

/-- The decimal with the fewest digits that reads back as `b`: the first hit on grids from coarse to
fine. -/
def Binary.shortest (b : Binary) : Scaled :=
  ((List.range 680).findSome? fun k : Nat => b.interval.onGrid? (310 - Int.ofNat k)).getD ⟨0, 0⟩

/-- How a format writes a decimal: the range of places in which it writes all digits out. -/
structure Layout where
  /-- Numbers of at most this many integer digits are written out. -/
  maxPlaces : Int
  /-- Numbers with at most this many zeros after the point are written out. -/
  maxZeros : Int

def signed (exponent : Int) : List Char :=
  (if exponent < 0 then "" else "+").toList ++ (Text.ofInt exponent).toList

/-- The digits of `x`, with a point, zeros or an exponent as the layout says. -/
def Layout.write (layout : Layout) (x : Scaled) : List Char :=
  let digits := Nat.toDigits 10 x.digits
  let places := (digits.length : Int) + x.exponent
  if 0 ≤ x.exponent ∧ places ≤ layout.maxPlaces then
    digits ++ List.replicate x.exponent.toNat '0' ++ ['.', '0']
  else if 0 < places ∧ places ≤ layout.maxPlaces then
    digits.take places.toNat ++ '.' :: digits.drop places.toNat
  else if -layout.maxZeros ≤ places ∧ places ≤ 0 then
    ['0', '.'] ++ List.replicate (-places).toNat '0' ++ digits
  else
    let point := match digits with
      | [] => []
      | [d] => [d]
      | d :: rest => d :: '.' :: rest
    point ++ 'e' :: signed (places - 1)

/-- The text of a finite double. -/
def Layout.double (layout : Layout) (bits : UInt64) : List Char :=
  let sign := if bits.toNat / Nat.pow 2 63 = 0 then [] else ['-']
  if bits.toNat % Nat.pow 2 63 = 0 then sign ++ ['0', '.', '0']
  else sign ++ layout.write (Binary.ofBits bits).shortest

end PluginHost.Decimal
