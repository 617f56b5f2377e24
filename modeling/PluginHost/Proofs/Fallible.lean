import Mathlib.Data.List.Forall2

/-!
Computations that may fail, one for each member of a list. All of them go well
together, or the first that fails is what the whole comes to.
-/
namespace PluginHost.Fallible

variable {α β ε : Type} {f : α → Except ε β} {x : α} {xs before behind : List α} {ys : List β} {e : ε}

theorem mapM_ok_iff :
    xs.mapM f = .ok ys ↔ List.Forall₂ (fun x y => f x = .ok y) xs ys := by
  induction xs generalizing ys with
  | nil => cases ys <;> simp [pure, Except.pure]
  | cons x rest ih =>
      rw [List.mapM_cons, List.forall₂_cons_left_iff]
      simp only [← ih]
      cases hx : f x with
      | error e => simp [bind, Except.bind]
      | ok y => cases hrest : rest.mapM f <;> simp [bind, Except.bind, pure, Except.pure, eq_comm]

/-- What fails first is reported, whatever stands behind it. -/
theorem mapM_of_first_error (good : ∀ x ∈ before, ∃ y, f x = .ok y) (bad : f x = .error e) :
    (before ++ x :: behind).mapM f = .error e := by
  induction before with
  | nil => rw [List.nil_append, List.mapM_cons, bad]; rfl
  | cons first rest ih =>
      obtain ⟨y, hy⟩ := good first List.mem_cons_self
      rw [List.cons_append, List.mapM_cons, hy, ih fun x hx => good x (List.mem_cons_of_mem first hx)]
      rfl

/-- If each of some things goes well or has a reason to fail, all of them go well, or there is a
first that fails. -/
theorem all_or_first {good : α → β → Prop} {bad : α → ε → Prop}
    (either : ∀ x, (∃ y, good x y) ∨ ∃ e, bad x e) (xs : List α) :
    (∃ ys, List.Forall₂ good xs ys) ∨ ∃ before x behind e, xs = before ++ x :: behind ∧
      (∀ x ∈ before, ∃ y, good x y) ∧ bad x e := by
  induction xs with
  | nil => exact .inl ⟨[], .nil⟩
  | cons first rest ih =>
      rcases either first with ⟨y, hy⟩ | ⟨e, he⟩
      · rcases ih with ⟨ys, hys⟩ | ⟨before, x, behind, e, rfl, hgood, hbad⟩
        · exact .inl ⟨y :: ys, .cons hy hys⟩
        · refine .inr ⟨first :: before, x, behind, e, rfl, ?_, hbad⟩
          exact List.forall_mem_cons.mpr ⟨⟨y, hy⟩, hgood⟩
      · exact .inr ⟨[], first, rest, e, rfl, List.forall_mem_nil _, he⟩

theorem exists_of_forall₂ {good : α → β → Prop} (h : List.Forall₂ good xs ys) (hx : x ∈ xs) :
    ∃ y ∈ ys, good x y := by
  induction h with
  | nil => cases hx
  | cons hfirst _ ih =>
      rcases List.mem_cons.mp hx with rfl | hrest
      · exact ⟨_, List.mem_cons_self, hfirst⟩
      · obtain ⟨y, hy, hgood⟩ := ih hrest
        exact ⟨y, List.mem_cons_of_mem _ hy, hgood⟩

end PluginHost.Fallible
