/-!
Decimal numbers as text: one optional plus sign, then digits, with an upper
bound on the value; and back.
-/
namespace PluginHost.Text

/-- The numbers below this bound fit one machine word. -/
def wordBound : Nat := 0x10000000000000000

/-- Whether the text is a non-empty run of ASCII digits. -/
def isDigits (cs : List Char) : Bool :=
  !cs.isEmpty && cs.all Char.isDigit

/-- The value of a non-empty run of ASCII digits. -/
def digits? (cs : List Char) : Option Nat :=
  if isDigits cs then some (Nat.ofDigitChars 10 cs 0) else none

/-- The text after one leading plus sign, if there is one. -/
def dropPlus : List Char → List Char
  | '+' :: rest => rest
  | cs => cs

/-- A machine word in decimal: leading zeros and one leading plus sign are allowed, and the value
is below `wordBound`. -/
def word? (cs : List Char) : Option Nat :=
  (digits? (dropPlus cs)).filter (· < wordBound)

/-- The shortest decimal text of a number. -/
def ofNat (n : Nat) : String :=
  String.ofList (Nat.toDigits 10 n)

/-- The shortest decimal text of an integer. -/
def ofInt : Int → String
  | .ofNat n => ofNat n
  | .negSucc n => "-" ++ ofNat (n + 1)

theorem digits?_eq_some_iff {cs : List Char} {n : Nat} :
    digits? cs = some n ↔ isDigits cs = true ∧ Nat.ofDigitChars 10 cs 0 = n := by
  unfold digits?
  split <;> simp_all

theorem isDigits_toDigits (n : Nat) : isDigits (Nat.toDigits 10 n) = true := by
  simp only [isDigits, Bool.and_eq_true, List.all_eq_true, Bool.not_eq_true',
    List.isEmpty_eq_false_iff]
  exact ⟨Nat.toDigits_ne_nil, fun c hc => Nat.isDigit_of_mem_toDigits (by decide) (by decide) hc⟩

/-- Reading back what was written gives the number. -/
theorem digits?_toDigits (n : Nat) : digits? (Nat.toDigits 10 n) = some n :=
  digits?_eq_some_iff.2
    ⟨isDigits_toDigits n, Nat.ofDigitChars_toDigits (by decide) (by decide)⟩

example : word? "+007".toList = some 7 := by decide +kernel
example : word? "18446744073709551616".toList = none := by decide +kernel
example : word? "+".toList = none := by decide +kernel

end PluginHost.Text
