import PluginHost.Outside.Shell.Number

/-!
Signals by number and name. The exit of a script counts as signal zero.
-/
namespace PluginHost.Shell.Signal

/-- The names of the signals from zero on. -/
def names : List String :=
  ["EXIT", "HUP", "INT", "QUIT", "ILL", "TRAP", "ABRT", "BUS", "FPE", "KILL", "USR1", "SEGV", "USR2",
    "PIPE", "ALRM", "TERM", "STKFLT", "CHLD", "CONT", "STOP", "TSTP", "TTIN", "TTOU", "URG", "XCPU",
    "XFSZ", "VTALRM", "PROF", "WINCH", "IO", "PWR", "SYS"]

/-- The number of a signal given by its number or its name, in letters of any size. -/
def ofText? (text : String) : Option Nat :=
  match Number.natural? text with
  | some n => if n < names.length then some n else none
  | none => names.idxOf? text.toUpper

def name (n : Nat) : String := names.getD n ""

def exit : Nat := 0

/-- The signal that asks a program to end. -/
def terminate : Nat := 15

/-- Whether a signal cannot be kept from having its effect. -/
def isFinal (n : Nat) : Bool := n == 9 || n == 19

/-- Whether a signal has no effect if nothing is set for it. -/
def isHarmless (n : Nat) : Bool := n == 0 || n == 17 || n == 18 || n == 23 || n == 28

/-- Whether a signal makes a program wait if nothing is set for it. -/
def isHolding (n : Nat) : Bool := 19 ≤ n && n ≤ 22

end PluginHost.Shell.Signal
