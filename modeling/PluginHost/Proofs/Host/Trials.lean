import Mathlib.Data.List.Induction
import PluginHost.Proofs.Host.Table

/-!
Which files are tried beside a table of units, as far as that is about paths and
ids alone: every file is tried that is not tracked and was not taken, and taken
if it loads under an id that is free. When all spellings of a path load alike,
the first file under each free id is taken.
-/
namespace PluginHost.UnitTable

variable {t : UnitTable} {id? : Path → Option String} {front files : List Path}
  {tried : List (Path × Option String)} {path : Path} {id : String}

theorem containsPath_eq_any (t : UnitTable) (path : Path) :
    t.containsPath path = t.idByPath.any fun e => e.1.same path := by
  rw [containsPath, idOf?, Option.isSome_map, List.isSome_find?]

theorem containsId_iff : t.containsId id = true ↔ id ∈ t.ids := by
  rw [containsId, Option.isSome_iff_ne_none, ne_eq, unit?_eq_none_iff, not_not]

theorem byId_insert_perm (path : Path) (u : PluginUnit) (free : t.unit? id = none) :
    (t.insert id path u).byId.Perm ((id, u) :: t.byId) :=
  Json.put_perm u (unit?_eq_none_iff.mp free)

theorem idByPath_insert (id : String) (u : PluginUnit) (free : t.containsPath path = false) :
    (t.insert id path u).idByPath = t.idByPath ++ [(path, id)] := by
  rw [containsPath_eq_any] at free
  rw [insert, putPath, if_neg (ne_true_of_eq_false free)]

/-- Whether a file was taken, under this spelling or another one. -/
def took (tried : List (Path × Option String)) (path : Path) : Bool :=
  tried.any fun e => e.2.isSome && e.1.same path

/-- Whether an id is free. -/
def frees (t : UnitTable) (tried : List (Path × Option String)) (id : String) : Bool :=
  !t.containsId id && !tried.any fun e => e.2 == some id

/-- What becomes of a file behind those that were tried. It is passed over if it is tracked or was
taken, and tried otherwise; then it is taken if it loads and its id is free. -/
def trial (t : UnitTable) (id? : Path → Option String) (tried : List (Path × Option String))
    (path : Path) : List (Path × Option String) :=
  if t.containsPath path || took tried path then tried
  else tried ++ [(path, (id? path).filter (t.frees tried))]

/-- The files that are tried, in order, each with the id it is taken under, if it is. -/
def trials (t : UnitTable) (id? : Path → Option String) (files : List Path) :
    List (Path × Option String) :=
  files.foldl (t.trial id?) []

theorem trials_concat (t : UnitTable) (id? : Path → Option String) (files : List Path)
    (path : Path) : t.trials id? (files ++ [path]) = t.trial id? (t.trials id? files) path := by
  rw [trials, List.foldl_append]
  rfl

/-- The first file under an id that is free: it is not tracked, it loads under that id, and none of
those in front of it does that is not tracked. -/
structure First (t : UnitTable) (id? : Path → Option String) (front : List Path) (path : Path)
    (id : String) : Prop where
  untracked : t.containsPath path = false
  loads : id? path = some id
  free : t.containsId id = false
  first : ∀ other ∈ front, t.containsPath other = false → id? other ≠ some id

theorem took_iff : took tried path = true ↔
    ∃ e ∈ tried, ∃ id, e.2 = some id ∧ e.1.same path = true := by
  simp [took, Option.isSome_iff_exists]

theorem frees_iff : t.frees tried id = true ↔
    t.containsId id = false ∧ ∀ e ∈ tried, e.2 ≠ some id := by
  simp [frees]

/-- What was tried stays. -/
theorem trials_subset (t : UnitTable) (id? : Path → Option String) (front rest : List Path) :
    t.trials id? front ⊆ t.trials id? (front ++ rest) := by
  induction rest using List.reverseRecOn with
  | nil => simp
  | append_singleton rest last ih =>
      rw [← List.append_assoc, trials_concat, trial]
      split
      · exact ih
      · exact List.Subset.trans ih (List.subset_append_left _ _)

/-- Every file that was tried was tried at its place, behind some others. -/
theorem exists_trial {e : Path × Option String} (h : e ∈ t.trials id? files) :
    ∃ front, front ++ [e.1] <+: files ∧ t.containsPath e.1 = false ∧
      took (t.trials id? front) e.1 = false ∧
      e.2 = (id? e.1).filter (t.frees (t.trials id? front)) := by
  induction files using List.reverseRecOn with
  | nil => cases h
  | append_singleton front last ih =>
      have hbefore : e ∈ t.trials id? front → ∃ earlier, earlier ++ [e.1] <+: front ++ [last] ∧
          t.containsPath e.1 = false ∧ took (t.trials id? earlier) e.1 = false ∧
          e.2 = (id? e.1).filter (t.frees (t.trials id? earlier)) := by
        intro h
        obtain ⟨earlier, hplace, hrest⟩ := ih h
        exact ⟨earlier, hplace.trans (List.prefix_append _ _), hrest⟩
      rw [trials_concat, trial] at h
      split at h
      · exact hbefore h
      · next hfree =>
          rcases List.mem_append.mp h with hearlier | hlast
          · exact hbefore hearlier
          · obtain rfl := List.mem_singleton.mp hlast
            rw [Bool.or_eq_true, not_or, Bool.not_eq_true, Bool.not_eq_true] at hfree
            exact ⟨front, List.prefix_rfl, hfree.1, hfree.2, rfl⟩

/-- What is tried is not tracked, and what is taken loads under an id that was free. -/
theorem mem_trials {e : Path × Option String} (h : e ∈ t.trials id? files) :
    e.1 ∈ files ∧ t.containsPath e.1 = false ∧
      ∀ id, e.2 = some id → id? e.1 = some id ∧ t.containsId id = false := by
  obtain ⟨front, hplace, huntracked, _, hverdict⟩ := exists_trial h
  refine ⟨hplace.subset (by simp), huntracked, ?_⟩
  intro id hid
  obtain ⟨hloads, hfrees⟩ := Option.filter_eq_some_iff.mp (hverdict.symm.trans hid)
  exact ⟨hloads, (frees_iff.mp hfrees).1⟩

/-- A file that loads and is not taken has an id that is tracked, or that another file was taken
under. -/
theorem taken_of_refused (refused : (path, none) ∈ t.trials id? files)
    (loads : id? path = some id) : t.containsId id = true ∨
      ∃ e ∈ t.trials id? files, e.2 = some id ∧ e.1.same path = false := by
  obtain ⟨front, ⟨rest, hsplit⟩, _, htook, hnone⟩ := exists_trial refused
  have htaken : ¬ (t.containsId id = false ∧ ∀ e ∈ t.trials id? front, e.2 ≠ some id) := by
    rw [← frees_iff]
    exact Option.filter_eq_none_iff.mp hnone.symm id loads
  by_cases htracked : t.containsId id = true
  · exact .inl htracked
  · have hused : ∃ e ∈ t.trials id? front, e.2 = some id := by
      simpa [htracked] using htaken
    obtain ⟨e, he, hid⟩ := hused
    have hstays : e ∈ t.trials id? files := by
      rw [← hsplit, List.append_assoc]
      exact t.trials_subset id? front _ he
    refine .inr ⟨e, hstays, hid, ?_⟩
    rw [← Bool.not_eq_true]
    intro hsame
    cases htook.symm.trans (took_iff.mpr ⟨e, he, id, hid, hsame⟩)

section

variable (spelled : ∀ p q : Path, p.same q = true → id? p = id? q)
include spelled

/-- What was taken under another spelling was taken under the same id. -/
theorem mem_trials_of_took (htook : took (t.trials id? front) path = true) :
    ∃ e ∈ t.trials id? front, e.2 = id? path := by
  obtain ⟨e, he, id, hid, hsame⟩ := took_iff.mp htook
  refine ⟨e, he, ?_⟩
  rw [← spelled _ _ hsame, hid, ((mem_trials he).2.2 id hid).1]

/-- A free id is taken when a file that is not tracked loads under it, no matter which. -/
theorem taken_trials_iff (free : t.containsId id = false) :
    (∃ e ∈ t.trials id? files, e.2 = some id) ↔
      ∃ other ∈ files, t.containsPath other = false ∧ id? other = some id := by
  constructor
  · rintro ⟨e, he, hid⟩
    obtain ⟨hfound, huntracked, hrest⟩ := mem_trials he
    exact ⟨e.1, hfound, huntracked, (hrest id hid).1⟩
  · rintro ⟨other, hfound, huntracked, hloads⟩
    obtain ⟨front, rest, rfl⟩ := List.append_of_mem hfound
    by_cases htaken : ∃ e ∈ t.trials id? front, e.2 = some id
    · obtain ⟨e, he, hid⟩ := htaken
      exact ⟨e, t.trials_subset id? front _ he, hid⟩
    · have htook : took (t.trials id? front) other = false := by
        rw [← Bool.not_eq_true]
        intro htook
        exact htaken (hloads ▸ mem_trials_of_took spelled htook)
      have hfrees : t.frees (t.trials id? front) id = true :=
        frees_iff.mpr ⟨free, fun e he hid => htaken ⟨e, he, hid⟩⟩
      have hlast : (other, some id) ∈ t.trials id? (front ++ [other]) := by
        rw [trials_concat, trial, huntracked, htook, Option.filter_eq_some_iff.mpr ⟨hloads, hfrees⟩]
        exact List.mem_append_right _ (List.mem_singleton.mpr rfl)
      refine ⟨(other, some id), ?_, rfl⟩
      rw [List.append_cons]
      exact t.trials_subset id? _ rest hlast

/-- A file is taken at its place if it is the first one under an id that is free. -/
theorem trial_takes_iff : t.trial id? (t.trials id? front) path =
    t.trials id? front ++ [(path, some id)] ↔ t.First id? front path id := by
  constructor
  · intro htakes
    rw [trial] at htakes
    split at htakes
    · simp at htakes
    · next hfree =>
        rw [Bool.or_eq_true, not_or, Bool.not_eq_true] at hfree
        have hlast : (id? path).filter (t.frees (t.trials id? front)) = some id := by
          simpa using htakes
        obtain ⟨hloads, hfrees⟩ := Option.filter_eq_some_iff.mp hlast
        obtain ⟨hnew, hnone⟩ := frees_iff.mp hfrees
        refine ⟨hfree.1, hloads, hnew, ?_⟩
        intro other hother huntracked hsame
        obtain ⟨e, he, hid⟩ :=
          (taken_trials_iff spelled hnew).mpr ⟨other, hother, huntracked, hsame⟩
        exact hnone e he hid
  · rintro ⟨huntracked, hloads, hfree, hfirst⟩
    have hnone : ∀ e ∈ t.trials id? front, e.2 ≠ some id := by
      intro e he hid
      obtain ⟨hfound, hother, hrest⟩ := mem_trials he
      exact hfirst e.1 hfound hother (hrest id hid).1
    have htook : took (t.trials id? front) path = false := by
      rw [← Bool.not_eq_true]
      intro htook
      obtain ⟨e, he, hid⟩ := mem_trials_of_took spelled htook
      exact hnone e he (hid.trans hloads)
    have hlast : (id? path).filter (t.frees (t.trials id? front)) = some id :=
      Option.filter_eq_some_iff.mpr ⟨hloads, frees_iff.mpr ⟨hfree, hnone⟩⟩
    rw [trial, huntracked, htook, hlast]
    rfl

end

end PluginHost.UnitTable
