import PluginHost.Proofs.FileSystem.Directories

/-!
What a file system is once one of its files was renamed. What the file held is
read under its new path, and all files but the one that was found there are read
as before: that one is replaced.
-/
namespace PluginHost.FileSystem

variable {fs after : FileSystem} {place old new : Place} {path source dest : Path}
  {content : ByteArray}

/-! ### Paths of files -/

/-- A path that does not end in a slash is followed as it is. -/
theorem withoutTrailingSlash_eq (h : wantsDirectory path = false) :
    withoutTrailingSlash path = path := by
  have hkept : path.text.toList.reverse.dropWhile (· == '/') = path.text.toList.reverse := by
    cases hchars : path.text.toList.reverse with
    | nil => rfl
    | cons last front =>
        refine List.dropWhile_cons_of_neg ?_
        intro hslash
        have htext : path.text.toList = front.reverse ++ '/' :: [] := by
          rw [← List.reverse_reverse path.text.toList, hchars, beq_iff_eq.mp hslash]
          simp
        have hwants : wantsDirectory path = true := by
          rw [wantsDirectory, Path.segments, htext, List.splitOn_append_cons_self, List.map_append]
          simp
        rw [h] at hwants
        cases hwants
  rw [withoutTrailingSlash, hkept, List.reverse_reverse, String.ofList_toList]

/-- Behind a slash there has to be a directory. -/
theorem directory_of_follow (h : fs.follow place "" = .ok next) :
    fs.holding? next = some .directory := by
  obtain ⟨_, henter, hstay⟩ := exists_of_bind_ok h
  cases hstay
  exact enter_ok_iff.mp henter

/-- A file is not found under a path that insists on a directory. -/
theorem wantsDirectory_of_file (hplace : fs.locate path = .ok place)
    (hfile : fs.holding? place = some (.file content)) : wantsDirectory path = false := by
  rw [← Bool.not_eq_true]
  intro hwants
  obtain ⟨front, hsegments⟩ := List.getLast?_eq_some_iff.mp (beq_iff_eq.mp hwants)
  obtain ⟨start, hfold⟩ : ∃ start, path.segments.foldlM fs.follow start = .ok place := by
    unfold locate at hplace
    (repeat' split at hplace) <;> first | cases hplace | exact ⟨_, hplace⟩
  rw [hsegments, List.foldlM_append] at hfold
  obtain ⟨there, _, hlast⟩ := exists_of_bind_ok hfold
  rw [List.foldlM_cons] at hlast
  obtain ⟨next, hfollow, hend⟩ := exists_of_bind_ok hlast
  cases hend
  cases (directory_of_follow hfollow).symm.trans hfile

theorem locate_of_target (h : fs.target path = .ok place) :
    fs.locate (withoutTrailingSlash path) = .ok place := by
  obtain ⟨there, hthere, hkept⟩ := exists_of_bind_ok h
  split at hkept <;> cases hkept
  exact hthere

/-! ### One file in the place of another -/

/-- A file is taken from its place and put into another one. -/
structure Shifted (fs : FileSystem) (old new : Place) (content : ByteArray) (after : FileSystem) :
    Prop where
  file : fs.holding? old = some (.file content)
  free : fs.holding? new ≠ some .directory
  held : after.holding? new = some (.file content)
  others : ∀ place, place ≠ old → place ≠ new → after.holding? place = fs.holding? place
  left : old ≠ new → after.holding? old = none

/-- What a renaming does if the old path leads to a file. -/
theorem rename_of_file (hrename : fs.rename source dest = .ok after)
    (hold : fs.target source = .ok old) (hfile : fs.holding? old = some (.file content)) :
    ∃ new, fs.target dest = .ok new ∧ wantsDirectory dest = false ∧
      fs.holding? new ≠ some .directory ∧
      after = if old = new then fs else (fs.erase old).put new (.file content) := by
  obtain ⟨there, hthere, hrest⟩ := exists_of_bind_ok hrename
  cases hold.symm.trans hthere
  obtain ⟨new, hnew, hdone⟩ := exists_of_bind_ok hrest
  refine ⟨new, hnew, ?_⟩
  rw [hfile] at hdone
  dsimp only [pure, Except.pure, throw, throwThe, MonadExceptOf.throw] at hdone
  split at hdone
  · cases hdone
  · next hwants =>
      split at hdone
      · cases hdone
      · split at hdone
        · cases hdone
        · next hfree =>
            refine ⟨?_, hfree, ?_⟩
            · rw [← Bool.not_eq_true]
              exact fun hdest => hwants (by rw [hdest, Bool.or_true])
            · split at hdone <;> cases hdone <;> simp [*]

theorem shifted_of_rename (hrename : fs.rename source dest = .ok after)
    (hold : fs.locate source = .ok old) (hfile : fs.holding? old = some (.file content)) :
    ∃ new, fs.locate dest = .ok new ∧ fs.Shifted old new content after := by
  obtain ⟨there, htarget, _⟩ := exists_of_bind_ok hrename
  have hsame := locate_of_target htarget
  rw [withoutTrailingSlash_eq (wantsDirectory_of_file hold hfile), hold] at hsame
  cases hsame
  obtain ⟨new, hnew, hwants, hfree, rfl⟩ := rename_of_file hrename htarget hfile
  have hdest := locate_of_target hnew
  rw [withoutTrailingSlash_eq hwants] at hdest
  refine ⟨new, hdest, ?_⟩
  split
  · next hsame =>
      subst hsame
      exact ⟨hfile, hfree, hfile, fun _ _ _ => rfl, fun hother => absurd rfl hother⟩
  · next hother =>
      have hgiven : new.isGiven = false := by
        rw [← Bool.not_eq_true]
        exact fun hgiven => hfree (by rw [holding?, if_pos hgiven])
      refine ⟨hfile, hfree, holding?_put_self hgiven, ?_, ?_⟩
      · intro place hold hnew
        rw [holding?_put_of_ne hnew, holding?_erase_of_ne hold]
      · intro _
        rw [holding?_put_of_ne hother, holding?_erase_self (not_given_of_file hfile)]

namespace Shifted

variable (h : fs.Shifted old new content after)
include h

theorem sameDirectories : fs.SameDirectories after := by
  intro place
  by_cases hnew : place = new
  · rw [hnew, h.held]
    exact ⟨nofun, fun hfree => absurd hfree h.free⟩
  · by_cases hold : place = old
    · subst hold
      rw [h.left hnew, h.file]
      exact ⟨nofun, nofun⟩
    · rw [h.others place hold hnew]

end Shifted

/-- A file that was renamed: it is read under its new path, and all files are read as before but the
one that was found there. -/
structure Renamed (fs : FileSystem) (source dest : Path) (after : FileSystem) : Prop where
  read_dest : after.read dest = fs.read source
  others : ∀ other, fs.isFile other = true → fs.locate other ≠ fs.locate source →
    fs.locate other ≠ fs.locate dest →
      after.locate other = fs.locate other ∧ after.read other = fs.read other

/-- Nothing is lost: all other files are where they were and read as before, and what a file held is
read under its old or its new path. -/
structure Lossless (fs : FileSystem) (source dest : Path) (after : FileSystem) : Prop where
  kept : ∀ other, fs.isFile other = true → fs.locate other ≠ fs.locate source →
    after.locate other = fs.locate other ∧ after.read other = fs.read other
  found : after.read source = fs.read source ∨ after.read dest = fs.read source

/-- Another file than the one at a path has the new name already. -/
def Taken (fs : FileSystem) (source dest : Path) : Prop :=
  fs.isFile dest = true ∧ fs.locate dest ≠ fs.locate source

theorem isFile_congr {other : Path} (h : fs.locate other = fs.locate path) :
    fs.isFile other = fs.isFile path := by
  rw [isFile, isFile, lookup, lookup, h]

/-- Where no other file has the new name nothing is lost. -/
theorem Renamed.lossless (h : fs.Renamed source dest after) (free : ¬ fs.Taken source dest) :
    fs.Lossless source dest after where
  kept := by
    intro other hother hapart
    refine h.others other hother hapart ?_
    intro hsame
    exact free ⟨isFile_congr hsame ▸ hother, hsame ▸ hapart⟩
  found := .inr h.read_dest

theorem renamed_of_rename (hrename : fs.rename source dest = .ok after)
    (hsource : fs.isFile source = true) : fs.Renamed source dest after := by
  obtain ⟨content, hlookup⟩ := isFile_iff.mp hsource
  obtain ⟨old, hold, hfile⟩ := lookup_iff.mp hlookup
  obtain ⟨new, hnew, hshifted⟩ := shifted_of_rename hrename hold hfile
  have hsame := hshifted.sameDirectories
  constructor
  · have hfound : after.lookup dest = .ok (.file content) :=
      lookup_iff.mpr ⟨new, hsame.locate_iff.mpr hnew, hshifted.held⟩
    rw [read, read, hfound, hlookup]
  · intro other hother hapart hfree
    obtain ⟨content', hlookup'⟩ := isFile_iff.mp hother
    obtain ⟨place, hplace, hheld⟩ := lookup_iff.mp hlookup'
    rw [hplace, hold, Ne, Except.ok.injEq] at hapart
    rw [hplace, hnew, Ne, Except.ok.injEq] at hfree
    have hstill := hshifted.others place hapart hfree
    have hfound : after.lookup other = .ok (.file content') :=
      lookup_iff.mpr ⟨place, hsame.locate_iff.mpr hplace, hstill.trans hheld⟩
    refine ⟨?_, ?_⟩
    · rw [hsame.locate_iff.mpr hplace, hplace]
    · rw [read, read, hfound, hlookup']

end PluginHost.FileSystem
