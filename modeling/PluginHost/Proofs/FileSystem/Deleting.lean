import PluginHost.Proofs.FileSystem.Directories

/-!
What a file system is without one of its files. A path leads where it led, but
what led to the file finds nothing there. All other files and all directories
are found and read as before, and directories list what they did but for the
file.
-/
namespace PluginHost.FileSystem

variable {fs without : FileSystem} {place next : Place} {path : Path}

/-- A file system and what it is without the file at a place. -/
structure Lacks (fs : FileSystem) (place : Place) (without : FileSystem) : Prop where
  named : place.Named
  held : ∃ content, fs.holding? place = some (.file content)
  erased : without = fs.erase place

theorem lacks_of_delete (hplace : fs.locate path = .ok place) (h : fs.delete path = .ok without) :
    fs.Lacks place without := by
  unfold delete at h
  rw [hplace] at h
  dsimp only [bind, Except.bind, pure, Except.pure, throw, throwThe, MonadExceptOf.throw] at h
  split at h
  · next content hheld =>
      cases h
      exact ⟨named_of_locate hplace, ⟨content, hheld⟩, rfl⟩
  · cases h
  · cases h

namespace Lacks

variable (h : fs.Lacks place without)
include h

/-! ### Where paths lead -/

theorem not_given : place.isGiven = false := by
  obtain ⟨content, hheld⟩ := h.held
  exact not_given_of_file hheld

theorem holding?_self : without.holding? place = none := by
  rw [h.erased]
  exact holding?_erase_self h.not_given

theorem holding?_of_ne (hother : next ≠ place) : without.holding? next = fs.holding? next := by
  rw [h.erased]
  exact holding?_erase_of_ne hother

theorem sameDirectories : fs.SameDirectories without := by
  intro other
  by_cases hother : other = place
  · obtain ⟨content, hheld⟩ := h.held
    rw [hother, h.holding?_self, hheld]
    exact ⟨nofun, nofun⟩
  · rw [h.holding?_of_ne hother]

/-- A path leads where it led before. -/
theorem locate_iff : without.locate path = .ok next ↔ fs.locate path = .ok next :=
  h.sameDirectories.locate_iff

/-! ### What is found and read -/

theorem lookup_ok_iff {entry : Entry} : without.lookup path = .ok entry ↔
    fs.lookup path = .ok entry ∧ fs.leads place path = false := by
  rw [lookup_iff, lookup_iff, ← Bool.not_eq_true, leads_iff]
  constructor
  · rintro ⟨there, hnow, hentry⟩
    have hother : there ≠ place := by
      rintro rfl
      cases h.holding?_self.symm.trans hentry
    have hbefore := h.locate_iff.mp hnow
    refine ⟨⟨there, hbefore, h.holding?_of_ne hother ▸ hentry⟩, ?_⟩
    intro hplace
    cases hbefore.symm.trans hplace
    exact hother rfl
  · rintro ⟨⟨there, hbefore, hentry⟩, hapart⟩
    have hother : there ≠ place := by
      rintro rfl
      exact hapart hbefore
    exact ⟨there, h.locate_iff.mpr hbefore, (h.holding?_of_ne hother).trans hentry⟩

/-- The file is not there any more, and all others are. -/
theorem isFile_eq (path : Path) :
    without.isFile path = (fs.isFile path && !fs.leads place path) := by
  rw [Bool.eq_iff_iff, Bool.and_eq_true, Bool.not_eq_true', isFile_iff, isFile_iff]
  simp only [h.lookup_ok_iff, exists_and_right]

/-- Directories are what they were. -/
theorem isDirectory_eq (path : Path) : without.isDirectory path = fs.isDirectory path :=
  h.sameDirectories.isDirectory_eq path

/-- What other files hold is read as before. -/
theorem read_eq (hfile : fs.isFile path = true) (hapart : fs.leads place path = false) :
    without.read path = fs.read path := by
  obtain ⟨content, hbefore⟩ := isFile_iff.mp hfile
  have hnow : without.lookup path = .ok (.file content) := h.lookup_ok_iff.mpr ⟨hbefore, hapart⟩
  rw [read, read, hbefore, hnow]

/-! ### What directories list -/

/-- A name that a directory has no more leads to no file. -/
theorem not_isFile_join {dir : Path} {name : String} (hdir : fs.locate dir = .ok next)
    (hplace : next ++ [name] = place) : without.isFile (dir.join name) = false := by
  rw [h.isFile_eq, Bool.and_eq_false_iff, Bool.not_eq_false']
  cases hjoin : fs.locate (dir.join name) with
  | error cause =>
      refine .inl ?_
      simp [isFile, lookup, hjoin, bind, Except.bind]
  | ok there =>
      refine .inr (leads_iff.mpr ?_)
      -- The place was reached by a path, so the last name on the way to it is an ordinary one.
      have hordinary : Ordinary name := by
        have hgiven := h.not_given
        rcases h.named with given | @⟨above, last, _, hlast⟩
        · rw [given] at hgiven
          cases hgiven
        · obtain ⟨_, hname⟩ := List.append_inj' hplace rfl
          cases hname
          exact hlast
      rw [hjoin, ← hplace, locate_join hdir hordinary hjoin]

/-- A directory has the names it had, but for the file's. -/
theorem filter_names {good : String → Bool}
    (hgone : ∀ name, next ++ [name] = place → good name = false) :
    (without.names next).filter good = (fs.names next).filter good := by
  simp only [names, h.erased, erase]
  induction fs.entries with
  | nil => rfl
  | cons e rest ih =>
      by_cases hplace : e.1 = place
      · rw [List.filter_cons_of_neg (by simp [hplace]), ih, List.filterMap_cons]
        split
        · rfl
        · next name hname =>
            have hgood : good name = false := by
              split at hname
              · split at hname
                · next hjoined =>
                    cases hname
                    exact hgone name (hjoined.symm.trans hplace)
                · cases hname
              · cases hname
            rw [List.filter_cons_of_neg (by simp [hgood])]
      · rw [List.filter_cons_of_pos (by simpa using hplace), List.filterMap_cons,
          List.filterMap_cons]
        split
        · exact ih
        · rw [List.filter_cons, List.filter_cons, ih]

/-- A directory lists what it did, but for the file. -/
theorem list_eq (dir : Path) (suffix : String) :
    without.list dir suffix = (fs.list dir suffix).filter fun path => !fs.leads place path := by
  unfold list
  cases hdir : fs.locate dir with
  | error cause =>
      cases hnow : without.locate dir with
      | error _ => rfl
      | ok there => cases hdir.symm.trans (h.locate_iff.mp hnow)
  | ok there =>
      -- Once both pick by what is left, it does not matter that one starts from fewer names.
      have hpick : (fun path => !fs.leads place path &&
            (fs.isFile path && (path.name?.map (hasSuffix · suffix)).getD false)) =
          fun path => without.isFile path && (path.name?.map (hasSuffix · suffix)).getD false := by
        funext path
        rw [h.isFile_eq, ← Bool.and_assoc, Bool.and_comm (!fs.leads place path)]
      rw [h.locate_iff.mpr hdir]
      dsimp only
      rw [h.isDirectory_eq]
      split
      · rw [Path.filter_mergeSort, List.filter_filter, hpick,
          List.filter_map, List.filter_map, h.filter_names]
        intro name hname
        rw [Function.comp_apply, h.not_isFile_join hdir hname, Bool.false_and]
      · rfl

end Lacks

end PluginHost.FileSystem
