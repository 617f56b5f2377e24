import Mathlib.Data.List.Perm.Subperm
import PluginHost.Proofs.Plugin.Calls

/-!
Accounts of sub-units. Calls of the loader are accounted for when all that was
handed out went back or is still held by someone, and nothing went back that was
not out. What operations on units call keeps the account.
-/
namespace PluginHost

namespace Custody

/-- All sub-units some calls handed out. -/
def handedOut (calls : List LoaderCall) : List SubUnit :=
  calls.flatMap LoaderCall.handedOut

/-- All sub-units that went back in some calls. -/
def handedBack (calls : List LoaderCall) : List SubUnit :=
  calls.flatMap LoaderCall.handedBack

/-- Calls after which some sub-units are still out: all others that were handed out went back, and
at no time had more gone back than was out. -/
structure Accounted (calls : List LoaderCall) (held : List SubUnit) : Prop where
  balance : (handedOut calls).Perm (handedBack calls ++ held)
  in_time : ∀ before, before <+: calls → (handedBack before).Subperm (handedOut before)

variable {calls : List LoaderCall} {held rest : List SubUnit} {path : Path}

theorem handedOut_concat (calls : List LoaderCall) (call : LoaderCall) :
    handedOut (calls ++ [call]) = handedOut calls ++ call.handedOut := by
  simp [handedOut]

theorem handedBack_concat (calls : List LoaderCall) (call : LoaderCall) :
    handedBack (calls ++ [call]) = handedBack calls ++ call.handedBack := by
  simp [handedBack]

namespace Accounted

theorem empty : Accounted [] [] where
  balance := List.Perm.refl []
  in_time := by
    intro before hbefore
    rw [List.prefix_nil.mp hbefore]
    exact List.Subperm.refl []

theorem perm (h : Accounted calls held) (hperm : held.Perm rest) : Accounted calls rest :=
  ⟨h.balance.trans (hperm.append_left _), h.in_time⟩

/-- One more call, after which the balance is right, was in time. -/
theorem concat (h : Accounted calls held) {call : LoaderCall}
    (balance : (handedOut (calls ++ [call])).Perm (handedBack (calls ++ [call]) ++ rest)) :
    Accounted (calls ++ [call]) rest where
  balance := balance
  in_time := by
    intro before hbefore
    rcases List.prefix_concat_iff.mp hbefore with rfl | hearlier
    · exact (List.sublist_append_left _ rest).subperm.trans balance.symm.subperm
    · exact h.in_time before hearlier

theorem refuse (h : Accounted calls held) (path : Path) (cause : PluginError) :
    Accounted (calls ++ [.load path (.error cause)]) held := by
  apply h.concat
  rw [handedOut_concat, handedBack_concat]
  simpa [LoaderCall.handedOut, LoaderCall.handedBack] using h.balance

theorem load (h : Accounted calls held) (path : Path) (loaded : LoadedCode) :
    Accounted (calls ++ [.load path (.ok loaded)]) (loaded.subUnits ++ held) := by
  apply h.concat
  rw [handedOut_concat, handedBack_concat]
  simp only [LoaderCall.handedOut, LoaderCall.handedBack, List.append_nil]
  calc (handedOut calls ++ loaded.subUnits).Perm (handedBack calls ++ held ++ loaded.subUnits) :=
        h.balance.append_right _
    _ = handedBack calls ++ (held ++ loaded.subUnits) := List.append_assoc _ _ _
    (handedBack calls ++ (held ++ loaded.subUnits)).Perm
        (handedBack calls ++ (loaded.subUnits ++ held)) := List.perm_append_comm.append_left _

/-- What goes back has to be out. -/
theorem unload {back : List SubUnit} (h : Accounted calls (back ++ rest))
    (result : Except PluginError Unit) : Accounted (calls ++ [.unload back result]) rest := by
  apply h.concat
  rw [handedOut_concat, handedBack_concat]
  simpa [LoaderCall.handedOut, LoaderCall.handedBack, List.append_assoc] using h.balance

theorem failedLoad (h : Accounted calls held) {piece : List LoaderCall}
    (failedLoad : FailedLoad path piece) :
    Accounted (calls ++ piece) held := by
  cases failedLoad with
  | refused cause => exact h.refuse path cause
  | returned loaded result =>
      have hboth := (h.load path loaded).unload result
      rwa [List.append_assoc] at hboth

theorem failedReload {u : PluginUnit} (h : Accounted calls (u.subUnits ++ rest))
    {piece : List LoaderCall}
    (failedReload : u.FailedReload piece) : Accounted (calls ++ piece) rest := by
  cases failedReload with
  | stuck cause => exact h.unload (.error cause)
  | failedLoad failedLoad =>
      have hboth := (h.unload (.ok ())).failedLoad failedLoad
      rwa [List.append_assoc] at hboth

theorem again {u : PluginUnit} (h : Accounted calls (u.subUnits ++ rest)) (loaded : LoadedCode) :
    Accounted (calls ++ u.again loaded) (loaded.subUnits ++ rest) := by
  have hboth := (h.unload (.ok ())).load u.path loaded
  rwa [List.append_assoc] at hboth

end Accounted

end Custody

end PluginHost
