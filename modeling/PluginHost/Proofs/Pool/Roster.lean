import PluginHost.Proofs.Pool.Overflow

/-!
The staff of an open pool whose number of workers is set now and then. Whatever
was going on when the number was set, as many persistent workers as there should
be are not told to stop, and they are the ones that were made first. The counter
of busy workers tells how many persistent workers are at a task, those that are
to go included, so that a task finds out whether a worker is free for it.
-/
namespace PluginHost

namespace Worker

variable {α : Type} {v w : Worker α}

/-- A persistent worker that was not told to stop. -/
def kept (w : Worker α) : Bool := !w.temporary && !w.stopping

/-- A persistent worker at a task. -/
def engaged (w : Worker α) : Bool := !w.temporary && w.running.isSome

/-- A persistent worker that took a task and is not counted as busy yet. -/
def starting (w : Worker α) : Bool := w.engaged && !w.counted

/-- A persistent worker that is through with its task and still counted as busy. -/
def finishing (w : Worker α) : Bool := w.executing && w.running.isNone

/-- A persistent worker that is counted just while it is at a task is not in between. -/
theorem not_between (settled : w.temporary = false → w.counted = w.running.isSome) :
    w.starting = false ∧ w.finishing = false := by
  rw [starting, finishing, engaged, executing]
  cases hkind : w.temporary with
  | true => simp
  | false =>
      rw [settled hkind]
      cases w.running <;> simp

/-- What a worker is known by as long as it is there. -/
def identity (w : Worker α) : Nat × Bool := (w.number, w.temporary)

/-- A name tells the number. -/
theorem number_eq_of_name (h : v.name = w.name) : v.number = w.number := by
  have hread : ∀ u : Worker α, Text.digits? (u.name.toList.drop 2) = some u.number := by
    intro u
    have hdigits : u.name.toList.drop 2 = Nat.toDigits 10 u.number := by
      rw [name, String.toList_append, Text.ofNat, String.toList_ofList]
      split <;> rfl
    rw [hdigits, Text.digits?_toDigits]
  exact Option.some.inj ((hread v).symm.trans (h ▸ hread w))

end Worker

namespace Pool

variable {α : Type} {p q : Pool α} {hired : List (Worker α)} {w : Worker α} {task : PoolTask α}

/-- The persistent workers that were not told to stop, the longest-living first. -/
def staff (p : Pool α) : List (Worker α) := p.workers.filter Worker.kept

/-! ### Runs -/

/-- A run of a pool that stays open, with all workers that were made for it as they were made. A
submission goes by a number of busy workers that it read before, so that it may have seen any. -/
inductive Managed : List (Worker α) → Pool α → Prop
  | create (size : Nat) (overflow : Overflow) (debug : DebugOptions) :
      Managed (create size overflow debug).workers (create size overflow debug)
  | submit {hired : List (Worker α)} {p q : Pool α} (seen : Nat) {task : PoolTask α} {force : Bool}
      {worker : Option (Worker α)} (before : Managed hired p)
      (step : p.submitSeeing seen task force = .ok (q, worker)) : Managed (hired ++ worker.toList) q
  | work {hired : List (Worker α)} {p q : Pool α} (before : Managed hired p) (step : p.Works q) :
      Managed hired q
  | resize {hired : List (Worker α)} {p : Pool α} (before : Managed hired p) (size : Nat) :
      Managed (hired ++ (p.resize size).workers.drop p.workers.length) (p.resize size)

/-- What is true of an open pool and the workers that were made for it. -/
structure StaffInvariant (hired : List (Worker α)) (p : Pool α) : Prop where
  opened : p.shutDown = false
  home : p.leaving = []
  ascending : (hired.map Worker.number).Pairwise (· < ·)
  numbered : ∀ w ∈ hired, w.number < p.nextWorker
  listed : (p.workers.map Worker.identity).Sublist (hired.map Worker.identity)
  counted : p.busy = p.executing
  complete : p.workers.countP Worker.kept = p.size

namespace StaffInvariant

variable (h : StaffInvariant hired p)
include h

theorem present_eq : p.present = p.workers := by
  rw [present, h.home, List.append_nil]

theorem distinct : (p.present.map Worker.number).Nodup := by
  have hsublist := h.listed.map Prod.fst
  rw [List.map_map, List.map_map] at hsublist
  rw [h.present_eq]
  exact (h.ascending.sublist hsublist).imp Nat.ne_of_lt

end StaffInvariant

/-! ### New workers -/

/-- Workers that are made get the next numbers. -/
theorem StaffInvariant.listed_append (h : StaffInvariant hired p) (more : List (Worker α))
    (next : more.map Worker.number = List.range' p.nextWorker more.length) :
    ((hired ++ more).map Worker.number).Pairwise (· < ·) ∧
      (∀ w ∈ hired ++ more, w.number < p.nextWorker + more.length) ∧
      ((p.workers ++ more).map Worker.identity).Sublist ((hired ++ more).map Worker.identity) := by
  have hnew : ∀ w ∈ more, p.nextWorker ≤ w.number ∧ w.number < p.nextWorker + more.length := by
    intro w hw
    have hmem := List.mem_map_of_mem (f := Worker.number) hw
    rw [next] at hmem
    exact List.mem_range'_1.mp hmem
  refine ⟨?_, ?_, ?_⟩
  · rw [List.map_append, List.pairwise_append]
    refine ⟨h.ascending, next ▸ List.pairwise_lt_range', ?_⟩
    intro old hold new hnumber
    obtain ⟨v, hv, rfl⟩ := List.mem_map.mp hold
    obtain ⟨w, hw, rfl⟩ := List.mem_map.mp hnumber
    exact Nat.lt_of_lt_of_le (h.numbered v hv) (hnew w hw).1
  · intro w hw
    rcases List.mem_append.mp hw with hold | hlater
    · have hless := h.numbered w hold
      omega
    · exact (hnew w hlater).2
  · rw [List.map_append, List.map_append]
    exact h.listed.append (.refl _)

theorem StaffInvariant.hire (h : StaffInvariant hired p) (count : Nat) :
    StaffInvariant (hired ++ p.recruits count)
      { p.spawnPersistent count with size := p.size + count } := by
  have hlength : (p.recruits count).length = count := by simp [recruits]
  have hnext : (p.recruits count).map Worker.number =
      List.range' p.nextWorker (p.recruits count).length := by
    rw [hlength, recruits, List.map_map]
    exact List.map_id _
  have hexecuting : (p.recruits count).countP Worker.executing = 0 := by
    simp [recruits, List.countP_map, Function.comp_def, Worker.executing]
  have hkept : (p.recruits count).countP Worker.kept = count := by
    simp [recruits, List.countP_map, Function.comp_def, Worker.kept]
  obtain ⟨hascending, hnumbered, hlisted⟩ := h.listed_append (p.recruits count) hnext
  rw [hlength] at hnumbered
  rw [spawnPersistent_eq]
  refine ⟨h.opened, h.home, hascending, hnumbered, hlisted, ?_, ?_⟩
  · have hcount := h.counted
    rw [executing, h.present_eq] at hcount
    simp only [executing, present, h.home, List.append_nil, List.countP_append, hexecuting, hcount,
      Nat.add_zero]
  · simp only [List.countP_append, hkept, h.complete]

theorem staffInvariant_create (size : Nat) (overflow : Overflow) (debug : DebugOptions) :
    StaffInvariant (create size overflow debug).workers (create size overflow debug : Pool α) := by
  have hnobody : StaffInvariant [] (unstaffed 0 overflow debug : Pool α) :=
    ⟨rfl, rfl, .nil, nofun, .refl _, rfl, rfl⟩
  have hhired := hnobody.hire size
  rw [create_eq]
  simpa [spawnPersistent_eq, unstaffed, recruits] using hhired

theorem StaffInvariant.submit {seen : Nat} {force : Bool} {worker : Option (Worker α)}
    (h : StaffInvariant hired p) (step : p.submitSeeing seen task force = .ok (q, worker)) :
    StaffInvariant (hired ++ worker.toList) q := by
  obtain ⟨htakes, haccepted⟩ := submit_accepted step
  have hcounted : q.busy = q.executing := by
    rw [htakes.busy, h.counted]
    exact (haccepted.countP_eq htakes fun w htemporary => by
      simp [Worker.executing, htemporary]).symm
  have hopened := htakes.shutDown.trans h.opened
  have hhome := htakes.leaving.trans h.home
  cases haccepted with
  | queued _ _ workers _ nextWorker =>
      rw [Option.toList_none, List.append_nil]
      exact ⟨hopened, hhome, h.ascending, nextWorker ▸ h.numbered, workers ▸ h.listed, hcounted,
        workers ▸ htakes.size ▸ h.complete⟩
  | spawned _ _ workers _ nextWorker =>
      obtain ⟨hascending, hnumbered, hlisted⟩ := h.listed_append
        [p.temporaryFor { task with sequence := p.nextSequence }] rfl
      refine ⟨hopened, hhome, hascending, nextWorker ▸ hnumbered, workers ▸ hlisted, hcounted, ?_⟩
      rw [workers, htakes.size, List.countP_append, h.complete]
      rfl

/-! ### Fewer workers -/

/-- Those that may stay are the first ones. -/
theorem filter_kept_stopSurplus (keep : Nat) (ws : List (Worker α)) :
    (stopSurplus keep ws).filter Worker.kept = (ws.filter Worker.kept).take keep := by
  induction ws generalizing keep with
  | nil => simp [stopSurplus]
  | cons w rest ih =>
      unfold stopSurplus
      split
      · next hout =>
          have hnot : w.kept = false := by
            rcases Bool.or_eq_true_iff.mp hout with htemporary | hstopping
            · simp [Worker.kept, htemporary]
            · simp [Worker.kept, hstopping]
          rw [List.filter_cons_of_neg (by simp [hnot]), List.filter_cons_of_neg (by simp [hnot]), ih]
      · next hin =>
          have hkept : w.kept = true := by simpa [Worker.kept] using hin
          cases keep with
          | zero =>
              have hnot : ({ w with stopping := true } : Worker α).kept = false := by
                simp [Worker.kept]
              rw [List.filter_cons_of_neg (by simp [hnot]), ih, List.take_zero, List.take_zero]
          | succ keep =>
              rw [List.filter_cons_of_pos hkept, List.filter_cons_of_pos hkept, ih,
                List.take_succ_cons]

theorem staff_resize_of_le {size : Nat} (h : size ≤ p.size) :
    (p.resize size).staff = p.staff.take size := by
  rw [resize, if_neg (Nat.not_lt.mpr h)]
  exact filter_kept_stopSurplus size p.workers

theorem workers_resize_of_lt {size : Nat} (h : p.size < size) :
    (p.resize size).workers = p.workers ++ p.recruits (size - p.size) := by
  rw [resize, if_pos h, spawnPersistent_eq]
  rfl

theorem StaffInvariant.resize (h : StaffInvariant hired p) (size : Nat) :
    StaffInvariant (hired ++ (p.resize size).workers.drop p.workers.length) (p.resize size) := by
  by_cases hmore : p.size < size
  · have hgrown : p.resize size =
        { p.spawnPersistent (size - p.size) with size := p.size + (size - p.size) } := by
      rw [Pool.resize, if_pos hmore, spawnPersistent_eq, spawnPersistent_eq,
        Nat.add_sub_cancel' (Nat.le_of_lt hmore)]
      rfl
    rw [workers_resize_of_lt hmore, List.drop_left, hgrown]
    exact h.hire (size - p.size)
  · have hfewer : size ≤ p.size := Nat.not_lt.mp hmore
    have hsame : p.resize size = { p with size, workers := stopSurplus size p.workers } := by
      rw [Pool.resize, if_neg hmore]
    have hidentities :
        (stopSurplus size p.workers).map Worker.identity = p.workers.map Worker.identity :=
      map_stopSurplus (fun _ _ => rfl) size p.workers
    have hlength : (stopSurplus size p.workers).length = p.workers.length := by
      have hmapped := congrArg List.length hidentities
      rwa [List.length_map, List.length_map] at hmapped
    have hexecuting : (stopSurplus size p.workers).countP Worker.executing =
        p.workers.countP Worker.executing := by
      have hpicked : (stopSurplus size p.workers).map Worker.executing =
          p.workers.map Worker.executing := map_stopSurplus (fun _ _ => rfl) size p.workers
      have hcounts := congrArg (List.countP id) hpicked
      rwa [List.countP_map, List.countP_map] at hcounts
    rw [hsame, List.drop_of_length_le (Nat.le_of_eq hlength), List.append_nil]
    refine ⟨h.opened, h.home, h.ascending, h.numbered, ?_, ?_, ?_⟩
    · exact hidentities ▸ h.listed
    · have hcount := h.counted
      rw [executing, h.present_eq] at hcount
      simp only [executing, present, h.home, List.append_nil, hexecuting, hcount]
    · have hstaff := staff_resize_of_le hfewer
      rw [hsame] at hstaff
      have hcomplete := h.complete
      rw [List.countP_eq_length_filter] at hcomplete ⊢
      rw [staff, staff] at hstaff
      rw [hstaff, List.length_take, hcomplete]
      exact Nat.min_eq_left hfewer

/-! ### Work -/

theorem StaffInvariant.works (h : StaffInvariant hired p) (step : p.Works q) :
    StaffInvariant hired q := by
  obtain ⟨hsteady, hworked⟩ := step.worked h.distinct
  have hhome := hsteady.home h.home
  have hpresent : q.present = q.workers := by rw [present, hhome, List.append_nil]
  refine ⟨hsteady.shutDown.trans h.opened, hhome, h.ascending, hsteady.nextWorker ▸ h.numbered, ?_,
    hworked.counted h.counted, ?_⟩
  · have hstay := hworked.map_sublist (f := Worker.identity) fun _ _ _ => rfl
    rw [hpresent, h.present_eq] at hstay
    exact hstay.trans h.listed
  · have hkept : q.present.countP Worker.kept = p.present.countP Worker.kept :=
      hworked.countP_eq (fun _ _ _ => rfl) (fun w htemporary => by simp [Worker.kept, htemporary])
        fun w _ hstopping => by simp [Worker.kept, hstopping]
    rw [← hpresent, hkept, h.present_eq, hsteady.size]
    exact h.complete

theorem Managed.staffInvariant (h : Managed hired p) : StaffInvariant hired p := by
  induction h with
  | create size overflow debug => exact staffInvariant_create size overflow debug
  | submit _ _ step ih => exact ih.submit step
  | work _ step ih => exact ih.works step
  | resize _ size ih => exact ih.resize size

/-! ### At every moment -/

/-- How an open pool accounts for the workers that were made for it. -/
structure Accounted (hired : List (Worker α)) (p : Pool α) : Prop where
  /-- As many persistent workers as there should be are not told to stop. -/
  complete : p.staff.length = p.size
  /-- No two workers were ever made with the same name. -/
  unique : (hired.map Worker.name).Nodup
  /-- Those that are still there are listed in the order they were made in. -/
  aged : (p.workers.map Worker.name).Sublist (hired.map Worker.name)
  /-- Where fewer should be there the longest-living ones are kept. -/
  shrinks : ∀ size ≤ p.size, (p.resize size).staff = p.staff.take size
  /-- Where more should be there all are kept. -/
  grows : ∀ size, p.size ≤ size → p.staff <+: (p.resize size).staff
  /-- Busy are the persistent workers that are executing a task, told to stop or not. -/
  executing : p.busy = (p.workers.filter Worker.executing).length
  /-- These are the ones at a task, but for those that took it just now, and with those that are
  just through with it. -/
  counted : p.busy + (p.workers.filter Worker.starting).length =
    (p.workers.filter Worker.engaged).length + (p.workers.filter Worker.finishing).length
  /-- Where nobody is on the way into a task or out of it, busy are the persistent workers at a
  task. -/
  settled : (∀ w ∈ p.workers, w.temporary = false → w.counted = w.running.isSome) →
    p.busy = (p.workers.filter Worker.engaged).length
  /-- No task waits for workers that are all executing one if temporary ones can be made. -/
  overflows : p.overflow = .spawn → (∀ w ∈ p.staff, w.executing = true) → ∀ task force, ∃ q w,
    p.submit task force = .ok (q, some w) ∧ w ∈ q.workers ∧ w.temporary = true ∧
      w.running = some { task with sequence := p.nextSequence } ∧ q.queue = p.queue

theorem staff_resize_of_lt {size : Nat} (h : p.size < size) :
    (p.resize size).staff = p.staff ++ p.recruits (size - p.size) := by
  have hfit : ∀ w ∈ p.recruits (size - p.size), w.kept = true := by
    intro w hw
    obtain ⟨number, _, rfl⟩ := List.mem_map.mp hw
    rfl
  rw [staff, workers_resize_of_lt h, List.filter_append, List.filter_eq_self.mpr hfit, staff]

/-- Executing are the workers at a task, but for those on the way into one, and with those on the
way out of one. -/
theorem countP_executing (ws : List (Worker α)) :
    ws.countP Worker.executing + ws.countP Worker.starting =
      ws.countP Worker.engaged + ws.countP Worker.finishing := by
  induction ws with
  | nil => rfl
  | cons w ws ih =>
      obtain ⟨_, temporary, _, running, counted⟩ := w
      simp only [List.countP_cons]
      cases temporary <;> cases running <;> cases counted <;>
        simp [Worker.starting, Worker.finishing, Worker.engaged, Worker.executing] <;> omega

namespace StaffInvariant

variable (h : StaffInvariant hired p)
include h

theorem names_nodup : (hired.map Worker.name).Nodup := by
  rw [List.Nodup, List.pairwise_map]
  refine (List.pairwise_map.mp h.ascending).imp fun {v w} hless hname => ?_
  exact Nat.ne_of_lt hless (Worker.number_eq_of_name hname)

theorem names_sublist : (p.workers.map Worker.name).Sublist (hired.map Worker.name) := by
  have hnames := h.listed.map fun identity : Nat × Bool =>
    (if identity.2 then "PT" else "PW") ++ Text.ofNat identity.1
  rwa [List.map_map, List.map_map] at hnames

theorem busy_eq : p.busy = p.workers.countP Worker.executing := by
  rw [h.counted, executing, h.present_eq]

theorem busy_add_starting : p.busy + (p.workers.filter Worker.starting).length =
    (p.workers.filter Worker.engaged).length + (p.workers.filter Worker.finishing).length := by
  simp only [← List.countP_eq_length_filter]
  rw [h.busy_eq, countP_executing]

/-- With all that are to stay executing a task no worker is free. -/
theorem overflows_of_busy (spawns : p.overflow = .spawn)
    (busy : ∀ w ∈ p.staff, w.executing = true) : p.overflows p.busy = true := by
  have hfull : p.workers.countP Worker.kept ≤ p.workers.countP Worker.executing :=
    List.countP_mono_left fun w hw hkept => busy w (List.mem_filter.mpr ⟨hw, hkept⟩)
  rw [h.complete, ← h.busy_eq] at hfull
  simp [Pool.overflows, spawns, hfull]

end StaffInvariant

/-- All along a run of an open pool whose number of workers is set now and then, its workers are
accounted for. -/
theorem Managed.accounts_for_staff (h : Managed hired p) : Accounted hired p where
  complete := List.countP_eq_length_filter.symm.trans h.staffInvariant.complete
  unique := h.staffInvariant.names_nodup
  aged := h.staffInvariant.names_sublist
  shrinks := fun _ => staff_resize_of_le
  grows := fun size hsize => by
    rcases Nat.eq_or_lt_of_le hsize with rfl | hmore
    · rw [staff_resize_of_le hsize, ← h.staffInvariant.complete, List.countP_eq_length_filter]
      exact List.take_length.symm ▸ List.prefix_rfl
    · exact staff_resize_of_lt hmore ▸ List.prefix_append _ _
  executing := h.staffInvariant.busy_eq.trans List.countP_eq_length_filter
  counted := h.staffInvariant.busy_add_starting
  settled := fun hsettled => by
    have hcount := h.staffInvariant.busy_add_starting
    have hstarting : p.workers.filter Worker.starting = [] :=
      List.filter_eq_nil_iff.mpr fun w hw => by simp [(Worker.not_between (hsettled w hw)).1]
    have hfinishing : p.workers.filter Worker.finishing = [] :=
      List.filter_eq_nil_iff.mpr fun w hw => by simp [(Worker.not_between (hsettled w hw)).2]
    rwa [hstarting, hfinishing] at hcount
  overflows := fun spawns busy =>
    submitSeeing_of_overflows h.staffInvariant.opened
      (h.staffInvariant.overflows_of_busy spawns busy)

namespace RosterWitness

/-- Some work. -/
def watch (name : String) : PoolTask Unit := ⟨0, .regular, none, name, ()⟩

/-- One of two guards is to go while both are on watch, and another one comes before that one is
gone. -/
theorem relief_accounted : ∃ (hired : List (Worker Unit)) (p : Pool Unit), Managed hired p ∧
    hired.map Worker.name = ["PW0", "PW1", "PW2"] ∧ p.staff.map Worker.name = ["PW0", "PW2"] ∧
    p.busy = 2 ∧ Accounted hired p ∧ ∃ q w, p.submit (watch "noon") false = .ok (q, some w) ∧
      w.name = "PT3" := by
  have hdusk := @Managed.submit Unit _ _ _ 0 (watch "dusk") false none (.create 2 .spawn .none) rfl
  have hfirst := ((@Managed.submit Unit _ _ _ 0 (watch "midnight") false none hdusk rfl).work
    (.takes (w := ⟨0, false, false, none, false⟩) List.mem_cons_self rfl)).work
      (.countsIn (w := ⟨0, false, false, some (watch "dusk"), false⟩) List.mem_cons_self rfl)
  have hwatch := (hfirst.work
    (.takes (w := ⟨1, false, false, none, false⟩) (.tail _ List.mem_cons_self) rfl)).work
      (.countsIn (w := ⟨1, false, false, some { watch "midnight" with sequence := 1 }, false⟩)
        (.tail _ List.mem_cons_self) rfl)
  have hrelief := (((hwatch.resize 1).resize 2).work
    (.ends (w := ⟨1, false, true, some { watch "midnight" with sequence := 1 }, true⟩)
      (.tail _ List.mem_cons_self) (finish?_eq rfl (.inr rfl) (.ok ())))).work
    (.countsOut (w := ⟨1, false, true, none, true⟩) (.tail _ List.mem_cons_self) rfl)
  have hmorning := ((@Managed.submit Unit _ _ _ 1 (watch "dawn") false none hrelief rfl).work
    (.takes (w := ⟨2, false, false, none, false⟩) (.tail _ (.tail _ List.mem_cons_self)) rfl)).work
      (.countsIn (w := ⟨2, false, false, some { watch "dawn" with sequence := 2 }, false⟩)
        (.tail _ (.tail _ List.mem_cons_self)) rfl)
  exact ⟨_, _, hmorning, rfl, rfl, rfl, hmorning.accounts_for_staff, _, _, rfl, rfl⟩

end RosterWitness

end Pool

end PluginHost
