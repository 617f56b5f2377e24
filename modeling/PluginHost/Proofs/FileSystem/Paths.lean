import PluginHost.FileSystem
import PluginHost.Proofs.Text.Parts

/-!
Where paths lead and how they are listed. A path leads where its steps lead,
however it is spelled, so two spellings of a path never lead to two places. A
file in a directory is reached by the directory's path and its name. Paths have
an order, in which what is picked of a listing is listed as by itself.
-/
namespace PluginHost

/-! ### The order of paths -/

namespace Path

/-- What tells steps of one kind apart. -/
def Step.key : Step → String
  | .name value => value
  | _ => ""

theorem compare_eq_lex :
    Step.compare = compareLex (compareOn Step.rank) (compareOn Step.key) := by
  funext a b
  cases a <;> cases b <;> rfl

theorem compareSteps_eq : compareSteps = List.compareLex Step.compare := by
  funext as bs
  induction as generalizing bs with
  | nil => cases bs <;> rfl
  | cons a as ih =>
      cases bs with
      | nil => rfl
      | cons b bs =>
          rw [compareSteps, List.compareLex_cons_cons, ih]

instance : Std.TransCmp compareSteps := by
  rw [compareSteps_eq, compare_eq_lex]
  infer_instance

theorem le_trans {p q r : Path} (hpq : p.le q = true) (hqr : q.le r = true) : p.le r = true :=
  Std.TransCmp.isLE_trans hpq hqr

theorem le_total (p q : Path) : (p.le q || q.le p) = true := by
  have hswap : compareSteps q.steps p.steps = (compareSteps p.steps q.steps).swap :=
    Std.OrientedCmp.eq_swap
  rw [le, le, hswap]
  cases compareSteps p.steps q.steps <;> rfl

end Path

/-! ### Sorting what is left -/

section

variable {α : Type} {le : α → α → Bool}
  (trans : ∀ a b c, le a b = true → le b c = true → le a c = true)
  (total : ∀ a b, (le a b || le b a) = true)
include trans total

/-- One more in front goes behind all that must stand before it, and in front of the rest. -/
theorem mergeSort_cons_eq (a : α) (l : List α) :
    (a :: l).mergeSort le =
        (l.mergeSort le).filter (fun b => !le a b) ++ a :: (l.mergeSort le).filter (le a) ∧
      l.mergeSort le =
        (l.mergeSort le).filter (fun b => !le a b) ++ (l.mergeSort le).filter (le a) := by
  obtain ⟨before, behind, hsorted, hrest, hbefore⟩ := List.mergeSort_cons trans total a l
  have hpairs := List.pairwise_mergeSort trans total (a :: l)
  rw [hsorted] at hpairs
  have hbehind : ∀ b ∈ behind, le a b = true :=
    (List.pairwise_cons.mp (List.pairwise_append.mp hpairs).2.1).1
  have hnone : before.filter (le a) = [] := by
    apply List.filter_eq_nil_iff.mpr
    intro b hb
    simpa using hbefore b hb
  have hall : behind.filter (fun b => !le a b) = [] := by
    apply List.filter_eq_nil_iff.mpr
    intro b hb
    simp [hbehind b hb]
  have hfront : (l.mergeSort le).filter (fun b => !le a b) = before := by
    rw [hrest, List.filter_append, List.filter_eq_self.mpr hbefore, hall, List.append_nil]
  have hback : (l.mergeSort le).filter (le a) = behind := by
    rw [hrest, List.filter_append, hnone, List.filter_eq_self.mpr hbehind, List.nil_append]
  rw [hfront, hback]
  exact ⟨hsorted, hrest⟩

/-- What a condition picks of a sorted list is what it picks, sorted. -/
theorem filter_mergeSort (p : α → Bool) (l : List α) :
    (l.mergeSort le).filter p = (l.filter p).mergeSort le := by
  induction l with
  | nil => simp
  | cons a rest ih =>
      obtain ⟨hsorted, hsplit⟩ := mergeSort_cons_eq trans total a rest
      rw [hsorted, List.filter_append, List.filter_cons, List.filter_cons]
      split
      · rw [(mergeSort_cons_eq trans total a (rest.filter p)).1, ← ih]
        simp only [List.filter_filter, Bool.and_comm]
      · rw [← List.filter_append, ← hsplit, ih]

end

theorem Path.filter_mergeSort (pick : Path → Bool) (paths : List Path) :
    (paths.mergeSort le).filter pick = (paths.filter pick).mergeSort le := by
  apply PluginHost.filter_mergeSort
  · intro p q r hpq hqr
    exact le_trans hpq hqr
  · exact le_total

/-! ### Names in directories -/

/-- A name that leads to what it names: it is not a dot or two, and has no slash. -/
structure Ordinary (name : String) : Prop where
  whole : '/' ∉ name.toList
  named : Path.Step.ofSegment? name = some (.name name)

namespace Path

variable {dir : Path} {name : String}

/-- The segments of a name in a directory are those of the directory, but for an empty one at their
end, and the name. -/
theorem segments_join (hdir : dir.text ≠ "") (whole : '/' ∉ name.toList) :
    ∃ front rest, front ≠ [] ∧ (rest = [] ∨ rest = [""]) ∧ dir.segments = front ++ rest ∧
      (dir.join name).segments = front ++ [name] := by
  have hname : name.toList.splitOn '/' = [name.toList] := List.splitOn_eq_singleton whole
  have hhead : name.toList.head? ≠ some '/' := fun h => whole (List.mem_of_head? h)
  have hsplit : ∀ cs : List Char, (cs.splitOn '/').map String.ofList ≠ [] := by
    intro cs
    simp [List.splitOn_ne_nil]
  rw [join, if_neg hhead, if_neg hdir]
  split
  · next hlast =>
      obtain ⟨init, hinit⟩ := List.getLast?_eq_some_iff.mp hlast
      refine ⟨(init.splitOn '/').map String.ofList, [""], hsplit init, .inr rfl, ?_, ?_⟩
      · rw [segments, hinit, List.splitOn_append_cons_self, List.map_append]
        rfl
      · rw [segments, String.toList_append, hinit, List.append_assoc, List.singleton_append,
          List.splitOn_append_cons_self, hname, List.map_append]
        simp
  · refine ⟨dir.segments, [], hsplit _, .inl rfl, (List.append_nil _).symm, ?_⟩
    have htext : (dir.text ++ "/" ++ name).toList = dir.text.toList ++ '/' :: name.toList := by
      simp [String.toList_append]
    rw [segments, htext, List.splitOn_append_cons_self, hname, List.map_append]
    simp [segments]

theorem isAbsolute_join (hdir : dir.text ≠ "") (whole : '/' ∉ name.toList) :
    (dir.join name).isAbsolute = dir.isAbsolute := by
  have hhead : name.toList.head? ≠ some '/' := fun h => whole (List.mem_of_head? h)
  have hchars : dir.text.toList ≠ [] := by simpa using hdir
  obtain ⟨first, rest, hfirst⟩ := List.exists_cons_of_ne_nil hchars
  rw [join, if_neg hhead, if_neg hdir]
  split <;> simp [isAbsolute, String.toList_append, hfirst]

/-- The steps to a name in a directory are those to the directory, and one more. -/
theorem steps_join (hdir : dir.text ≠ "") (h : Ordinary name) :
    (dir.join name).steps = dir.steps ++ [.name name] := by
  obtain ⟨front, rest, hfront, hrest, hsegments, hjoined⟩ := segments_join hdir h.whole
  have hnone : rest.filterMap Step.ofSegment? = [] := by
    rcases hrest with rfl | rfl <;> rfl
  have hlater : (dir.join name).segments.filterMap Step.ofSegment? =
      dir.segments.filterMap Step.ofSegment? ++ [.name name] := by
    rw [hjoined, hsegments, List.filterMap_append, List.filterMap_append, hnone, List.append_nil,
      List.filterMap_cons_some h.named, List.filterMap_nil]
  have hhead : (dir.join name).segments.head? = dir.segments.head? := by
    obtain ⟨first, others, rfl⟩ := List.exists_cons_of_ne_nil hfront
    rw [hjoined, hsegments]
    rfl
  unfold steps
  rw [hlater, hhead, isAbsolute_join hdir h.whole]
  split
  · rfl
  · split <;> rfl

/-- A segment that names something is a name. -/
theorem ordinary_of_mem_steps {path : Path} (h : .name name ∈ path.steps) : Ordinary name := by
  have hlater : .name name ∈ path.segments.filterMap Step.ofSegment? := by
    unfold steps at h
    split at h
    · exact (List.mem_cons.mp h).resolve_left nofun
    · split at h
      · exact (List.mem_cons.mp h).resolve_left nofun
      · exact h
  obtain ⟨segment, hsegment, hstep⟩ := List.mem_filterMap.mp hlater
  have hsame : segment = name := by
    unfold Step.ofSegment? at hstep
    (repeat' split at hstep) <;> simp_all
  subst hsame
  refine ⟨?_, hstep⟩
  obtain ⟨cs, hcs, rfl⟩ := List.mem_map.mp hsegment
  rw [String.toList_ofList]
  exact Text.not_mem_of_mem_splitOn hcs

end Path

/-! ### Where steps lead -/

/-- The place a step leads to. -/
def Place.follow (place : Place) : Path.Step → Place
  | .root => ["/"]
  | .current => place
  | .parent =>
    if place = ["/"] then place
    else if place.isGiven then place ++ [".."]
    else place.dropLast
  | .name value => place ++ [value]

/-- A place that is given, or is named in one that is. -/
inductive Place.Named : Place → Prop
  | given {place : Place} (given : place.isGiven = true) : Named place
  | under {place : Place} {name : String} (above : Named place) (ordinary : Ordinary name) :
      Named (place ++ [name])

theorem Place.Named.follow {place : Place} (h : place.Named) {step : Path.Step}
    (ordinary : ∀ name, step = .name name → Ordinary name) : (place.follow step).Named := by
  cases step with
  | root => exact .given (rfl : Place.isGiven ["/"] = true)
  | current => exact h
  | name name => exact .under h (ordinary name rfl)
  | parent =>
      simp only [Place.follow]
      split
      · exact h
      · next hroot =>
          split
          · next hgiven =>
              have hup : place.all (· == "..") = true := by simpa [isGiven, hroot] using hgiven
              exact .given (by simp only [isGiven, List.all_append, hup]; rfl)
          · next hdown =>
              cases h with
              | given given => exact absurd given hdown
              | under above _ =>
                  rw [List.dropLast_concat]
                  exact above

theorem Place.Named.foldl {place : Place} (h : place.Named) {steps : List Path.Step}
    (ordinary : ∀ name, .name name ∈ steps → Ordinary name) :
    (steps.foldl Place.follow place).Named := by
  induction steps generalizing place with
  | nil => exact h
  | cons step rest ih =>
      refine ih (h.follow ?_) fun name hname => ordinary name (List.mem_cons_of_mem step hname)
      rintro name rfl
      exact ordinary name List.mem_cons_self

namespace FileSystem

variable {fs : FileSystem} {path other : Path} {place next : Place}

theorem follow_of_segment {segment : String} (h : fs.follow place segment = .ok next) :
    next = (Path.Step.ofSegment? segment).elim place place.follow := by
  unfold follow at h
  cases henter : fs.enter place with
  | error e =>
      rw [henter] at h
      cases h
  | ok _ =>
      rw [henter] at h
      dsimp only [bind, Except.bind, pure, Except.pure, throw, throwThe, MonadExceptOf.throw] at h
      (repeat' split at h) <;> simp_all [Path.Step.ofSegment?, Place.follow]

theorem foldlM_follow {segments : List String} (h : segments.foldlM fs.follow place = .ok next) :
    next = (segments.filterMap Path.Step.ofSegment?).foldl Place.follow place := by
  induction segments generalizing place with
  | nil =>
      cases h
      rfl
  | cons segment rest ih =>
      rw [List.foldlM_cons] at h
      cases hfirst : fs.follow place segment with
      | error e =>
          rw [hfirst] at h
          cases h
      | ok there =>
          rw [hfirst] at h
          rw [ih h, follow_of_segment hfirst]
          cases hstep : Path.Step.ofSegment? segment with
          | none => rw [List.filterMap_cons_none hstep]; rfl
          | some step => rw [List.filterMap_cons_some hstep]; rfl

/-- A path that leads somewhere leads where its steps do. -/
theorem locate_eq (h : fs.locate path = .ok place) :
    place = path.steps.foldl Place.follow [] := by
  unfold locate at h
  split at h
  · cases h
  · split at h
    · cases h
    · split at h
      · cases h
      · rw [foldlM_follow h, Path.steps]
        split
        · rfl
        · split <;> rfl

/-- Two spellings of a path do not lead to two places. -/
theorem locate_of_same {place' : Place} (h : fs.locate path = .ok place)
    (h' : fs.locate other = .ok place') (same : path.same other = true) : place = place' := by
  rw [locate_eq h, locate_eq h', Path.same_iff.mp same]

theorem named_of_locate (h : fs.locate path = .ok place) : place.Named := by
  have hnowhere : Place.Named [] := .given rfl
  rw [locate_eq h]
  exact hnowhere.foldl fun name hname => Path.ordinary_of_mem_steps hname

/-- What a directory's path and a name in it lead to, if anywhere, is what the directory holds under
that name. -/
theorem locate_join {dir : Path} {name : String} (hdir : fs.locate dir = .ok place)
    (h : Ordinary name) (hjoin : fs.locate (dir.join name) = .ok next) : next = place ++ [name] := by
  have htext : dir.text ≠ "" := by
    intro hempty
    simp [locate, hempty] at hdir
  rw [locate_eq hjoin, locate_eq hdir, Path.steps_join htext h, List.foldl_append]
  rfl

end FileSystem

end PluginHost
