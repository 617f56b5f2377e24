/-!
What is printed in the course of time. Texts are taken down with the moment at
which they are printed, in any order, and read in the order of the moments.
-/
namespace PluginHost.Shell

/-- Texts with their moments, the last one first. -/
structure Transcript where
  entries : List (Nat × String)

namespace Transcript

/-- A transcript without texts. -/
def empty : Transcript := ⟨[]⟩

/-- Take down a text. -/
def add (t : Transcript) (moment : Nat) (text : String) : Transcript :=
  ⟨(moment, text) :: t.entries⟩

/-- What has been printed up to a moment. Texts of one moment stay in the order in which they were
taken down. -/
def textUntil (t : Transcript) (moment : Nat) : String :=
  let entries := (t.entries.filter (·.1 ≤ moment)).reverse
  String.join ((entries.mergeSort fun a b => decide (a.1 ≤ b.1)).map Prod.snd)

/-- The last moment at which something is printed. -/
def last (t : Transcript) : Nat :=
  t.entries.foldl (fun n e => max n e.1) 0

/-- All that is printed. -/
def text (t : Transcript) : String := t.textUntil t.last

end Transcript

end PluginHost.Shell
