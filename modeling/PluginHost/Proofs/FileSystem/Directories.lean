import PluginHost.Proofs.FileSystem.Paths

/-!
Where paths lead in a file system depends on its directories only. Files may
come and go: a path leads where it led, and directories are found as before.
-/
namespace PluginHost.FileSystem

variable {fs after : FileSystem} {place next : Place} {path : Path}

/-- A computation that ends well did so in both its parts. -/
theorem exists_of_bind_ok {α β : Type} {first : Except FileError α} {rest : α → Except FileError β}
    {last : β} (h : first >>= rest = .ok last) : ∃ found, first = .ok found ∧ rest found = .ok last := by
  cases first with
  | error cause => cases h
  | ok found => exact ⟨found, rfl, h⟩

/-- Whether a path leads to a place. -/
def leads (fs : FileSystem) (place : Place) (path : Path) : Bool :=
  (fs.locate path).toOption == some place

theorem leads_iff : fs.leads place path = true ↔ fs.locate path = .ok place := by
  unfold leads
  cases fs.locate path <;> simp [Except.toOption]

theorem lookup_iff {entry : Entry} : fs.lookup path = .ok entry ↔
    ∃ there, fs.locate path = .ok there ∧ fs.holding? there = some entry := by
  unfold lookup
  cases fs.locate path with
  | error cause => exact ⟨nofun, nofun⟩
  | ok there => cases hheld : fs.holding? there <;> simp [bind, Except.bind, hheld]

theorem isFile_iff : fs.isFile path = true ↔ ∃ content, fs.lookup path = .ok (.file content) := by
  unfold isFile
  split <;> simp_all

theorem isDirectory_iff : fs.isDirectory path = true ↔ fs.lookup path = .ok .directory := by
  unfold isDirectory
  split <;> simp_all

/-! ### The same directories -/

/-- Two file systems with the same directories. -/
def SameDirectories (fs after : FileSystem) : Prop :=
  ∀ place, after.holding? place = some .directory ↔ fs.holding? place = some .directory

theorem enter_ok_iff : fs.enter place = .ok () ↔ fs.holding? place = some .directory := by
  unfold enter
  split <;> simp_all

namespace SameDirectories

variable (h : fs.SameDirectories after)
include h

theorem follow_iff (place : Place) (segment : String) :
    after.follow place segment = .ok next ↔ fs.follow place segment = .ok next := by
  have henter : after.enter place = .ok () ↔ fs.enter place = .ok () := by
    rw [enter_ok_iff, enter_ok_iff]
    exact h place
  unfold follow
  cases hnow : after.enter place with
  | ok _ => rw [henter.mp hnow]
  | error cause =>
      cases hbefore : fs.enter place with
      | ok _ => cases (henter.mpr hbefore).symm.trans hnow
      | error cause' => exact ⟨nofun, nofun⟩

theorem foldlM_follow_iff (segments : List String) (start : Place) :
    segments.foldlM after.follow start = .ok next ↔ segments.foldlM fs.follow start = .ok next := by
  induction segments generalizing start with
  | nil => rfl
  | cons segment rest ih =>
      rw [List.foldlM_cons, List.foldlM_cons]
      cases hnow : after.follow start segment with
      | ok there =>
          rw [(h.follow_iff start segment).mp hnow]
          exact ih there
      | error cause =>
          cases hbefore : fs.follow start segment with
          | ok there => cases ((h.follow_iff start segment).mpr hbefore).symm.trans hnow
          | error cause' => exact ⟨nofun, nofun⟩

/-- A path leads where it led before. -/
theorem locate_iff : after.locate path = .ok next ↔ fs.locate path = .ok next := by
  unfold locate
  split
  · rfl
  · split
    · rfl
    · split
      · rfl
      · exact h.foldlM_follow_iff _ _

/-- Directories are what they were. -/
theorem isDirectory_eq (path : Path) : after.isDirectory path = fs.isDirectory path := by
  rw [Bool.eq_iff_iff, isDirectory_iff, isDirectory_iff, lookup_iff, lookup_iff]
  simp only [h.locate_iff, h _]

end SameDirectories

/-! ### What is left without an entry -/

theorem not_given_of_file {content : ByteArray} (h : fs.holding? place = some (.file content)) :
    place.isGiven = false := by
  rw [← Bool.not_eq_true]
  intro hgiven
  rw [holding?, if_pos hgiven] at h
  cases h

theorem holding?_erase_self (h : place.isGiven = false) : (fs.erase place).holding? place = none := by
  rw [holding?, if_neg (by simp [h]), erase, List.lookup_eq_none_iff]
  intro e he
  have hother : e.1 ≠ place := by simpa using (List.mem_filter.mp he).2
  exact bne_iff_ne.mpr hother.symm

end PluginHost.FileSystem
