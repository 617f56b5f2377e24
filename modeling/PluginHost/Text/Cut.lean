/-!
Cutting a text at the first place where a character stands.
-/
namespace PluginHost.Text

/-- What stands before the first `c`, and what stands after it if there is one. -/
def cutAt (c : Char) : List Char → List Char × Option (List Char)
  | [] => ([], none)
  | x :: rest =>
    if x = c then ([], some rest)
    else let (head, tail) := cutAt c rest; (x :: head, tail)

/-- Nothing is cut when the character does not occur. -/
theorem cutAt_eq_self {c : Char} {cs : List Char} (h : c ∉ cs) : cutAt c cs = (cs, none) := by
  induction cs with
  | nil => rfl
  | cons x rest ih =>
    simp only [List.mem_cons, not_or] at h
    simp [cutAt, ih h.2, Ne.symm h.1]

/-- The first occurrence is where the cut is made. -/
theorem cutAt_append {c : Char} {head tail : List Char} (h : c ∉ head) :
    cutAt c (head ++ c :: tail) = (head, some tail) := by
  induction head with
  | nil => simp [cutAt]
  | cons x rest ih =>
    simp only [List.mem_cons, not_or] at h
    simp [cutAt, ih h.2, Ne.symm h.1]

end PluginHost.Text
