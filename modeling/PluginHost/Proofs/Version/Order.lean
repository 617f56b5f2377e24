import PluginHost.Version.Requirement

/-!
The order of versions. A comparison the other way round is the reverse, and a
version may write down what it implies behind its end without being another one
to any comparison or requirement. Versions without wildcards compare like lists
of numbers with the pre-release behind them, which is a total order of the
fields they have; builds then tell apart only versions that both have one.
-/
namespace PluginHost

open Std

/-! ### Extras -/

namespace Version.Extra

/-- Things compare like what stands for them. -/
theorem transCmp_on {α β : Type} {cmp : β → β → Ordering} [TransCmp cmp] (f : α → β) :
    TransCmp fun a b => cmp (f a) (f b) where
  eq_swap := OrientedCmp.eq_swap
  isLE_trans := TransCmp.isLE_trans

instance : TransCmp compareField :=
  inferInstanceAs <| TransCmp (compareLex _ (compareLex _ _))

instance : TransCmp compareBuildField :=
  inferInstanceAs <| TransCmp (compareLex _ (compareLex _ (compareLex _ _)))

instance : TransCmp comparePre :=
  have : TransCmp fun a b => List.compareLex compareField (fields a) (fields b) := transCmp_on fields
  inferInstanceAs <| TransCmp (compareLex _ _)

instance : TransCmp compareBuild :=
  transCmp_on fields

end Version.Extra

namespace Component

theorem compare_swap (c d : Component) : d.compare c = (c.compare d).swap := by
  cases c <;> cases d
  case number.number m n => exact OrientedOrd.eq_swap
  all_goals rfl

end Component

namespace Version

variable {a b c v w : Version} {n : Nat}

/-! ### Places -/

theorem component_of_le {i : Nat} (h : v.components.length ≤ i) : v.component i = v.implied := by
  rw [component, List.getElem?_eq_none h, Option.getD_none]

/-- Past the ends of two versions nothing tells them apart. -/
theorem implied_compare_implied (a b : Version) : a.implied.compare b.implied = .eq := by
  unfold implied
  split <;> split <;> rfl

theorem foldr_then_append (xs : List Ordering) (x : Ordering) :
    (xs ++ [x]).foldr Ordering.then .eq = (xs.foldr Ordering.then .eq).then x := by
  induction xs with
  | nil => cases x <;> rfl
  | cons y rest ih => rw [List.cons_append, List.foldr_cons, ih, List.foldr_cons, Ordering.then_assoc]

theorem compareUpTo_succ (a b : Version) (n : Nat) : a.compareUpTo b (n + 1) =
    (a.compareUpTo b n).then ((a.component n).compare (b.component n)) := by
  rw [compareUpTo, List.range_succ, List.map_append, List.map_singleton, foldr_then_append]
  rfl

theorem compareUpTo_swap (a b : Version) (n : Nat) : b.compareUpTo a n = (a.compareUpTo b n).swap := by
  induction n with
  | zero => rfl
  | succ n ih => rw [compareUpTo_succ, compareUpTo_succ, ih, Component.compare_swap, Ordering.swap_then]

theorem compareUpTo_of_le (h : max a.components.length b.components.length ≤ n) :
    a.compareUpTo b n = a.compareUpTo b (max a.components.length b.components.length) := by
  induction h with
  | refl => rfl
  | @step n h ih =>
      have ha : a.component n = a.implied := component_of_le (Nat.le_trans (Nat.le_max_left _ _) h)
      have hb : b.component n = b.implied := component_of_le (Nat.le_trans (Nat.le_max_right _ _) h)
      rw [compareUpTo_succ, ha, hb, implied_compare_implied, Ordering.then_eq, ih]

/-- It does not matter how far past the ends two versions are compared. -/
theorem compare_of_le (ha : a.components.length ≤ n) (hb : b.components.length ≤ n) :
    a.compare b = (a.compareUpTo b n).then ((a.comparePre b).then (a.compareBuild b)) := by
  rw [compareUpTo_of_le (Nat.max_le.mpr ⟨ha, hb⟩), compare]

theorem exists_length_le (a b c : Version) : ∃ n, a.components.length ≤ n ∧
    b.components.length ≤ n ∧ c.components.length ≤ n :=
  ⟨a.components.length + b.components.length + c.components.length, by omega, by omega, by omega⟩

/-! ### The other way round -/

theorem comparePre_swap (a b : Version) : b.comparePre a = (a.comparePre b).swap := by
  unfold comparePre
  cases a.pre with
  | none =>
      cases b.pre with
      | none => rfl
      | some q => dsimp only; split <;> rfl
  | some p =>
      cases b.pre with
      | none => dsimp only; split <;> rfl
      | some q =>
          dsimp only
          exact OrientedCmp.eq_swap

theorem compareBuild_swap (a b : Version) : b.compareBuild a = (a.compareBuild b).swap := by
  unfold compareBuild
  cases a.build with
  | none => cases b.build <;> rfl
  | some p =>
      cases b.build with
      | none => rfl
      | some q =>
          dsimp only
          rw [Bool.or_comm]
          split
          · rfl
          · exact OrientedCmp.eq_swap

theorem compare_swap (a b : Version) : b.compare a = (a.compare b).swap := by
  rw [compare, compare, Nat.max_comm, compareUpTo_swap a b, comparePre_swap a b, compareBuild_swap a b,
    Ordering.swap_then, Ordering.swap_then]

theorem compare_self (a : Version) : a.compare a = .eq := by
  have hswap := compare_swap a a
  cases h : a.compare a with
  | eq => rfl
  | lt => rw [h] at hswap; cases hswap
  | gt => rw [h] at hswap; cases hswap

/-- Of two versions, one is not above the other. -/
theorem compare_total (a b : Version) : (a.compare b).isLE ∨ (b.compare a).isLE := by
  rw [compare_swap a b]
  cases a.compare b <;> decide

/-! ### What a version implies -/

/-- A version with the first component that it implies behind its end written down. -/
def extended (v : Version) : Version :=
  { v with components := v.components ++ [v.implied] }

theorem implied_extended (v : Version) : v.extended.implied = v.implied := by
  rw [implied, extended, List.getLast?_concat, implied]
  split <;> simp

theorem component_extended (v : Version) (i : Nat) : v.extended.component i = v.component i := by
  rw [component, component, implied_extended]
  rcases Nat.lt_trichotomy i v.components.length with hlt | heq | hgt
  · rw [extended, List.getElem?_append_left hlt]
  · rw [extended, heq, List.getElem?_concat_length, List.getElem?_eq_none (Nat.le_refl _)]
    rfl
  · rw [extended, List.getElem?_eq_none (by simp; omega), List.getElem?_eq_none (Nat.le_of_lt hgt)]

theorem hasWildcard_extended (v : Version) : v.extended.hasWildcard = v.hasWildcard := by
  rw [hasWildcard, hasWildcard, extended, List.any_append, List.any_cons, List.any_nil, Bool.or_false]
  by_cases hlast : v.components.getLast? = some .wildcard
  · have hwild : v.components.any Component.isWildcard = true :=
      List.any_eq_true.mpr ⟨.wildcard, List.mem_of_getLast? hlast, rfl⟩
    rw [hwild, Bool.true_or]
  · rw [implied, if_neg hlast]
    exact Bool.or_false _

theorem compare_extended_left (v w : Version) : v.extended.compare w = v.compare w := by
  have hlength : v.components.length ≤ v.extended.components.length := by simp [extended]
  have hpre : v.extended.comparePre w = v.comparePre w := by
    rw [comparePre, comparePre, hasWildcard_extended]
    rfl
  have hbuild : v.extended.compareBuild w = v.compareBuild w := by
    rw [compareBuild, compareBuild, hasWildcard_extended]
    rfl
  have hplaces : ∀ n, v.extended.compareUpTo w n = v.compareUpTo w n := by
    intro n
    simp only [compareUpTo, component_extended]
  rw [compare_of_le (Nat.le_max_left _ _) (Nat.le_max_right _ _), hplaces, hpre, hbuild, ← compare_of_le]
  · exact Nat.le_trans hlength (Nat.le_max_left _ _)
  · exact Nat.le_max_right _ _

theorem compare_extended_right (v w : Version) : w.compare v.extended = w.compare v := by
  rw [compare_swap, compare_extended_left, ← compare_swap]

/-! ### Versions without wildcards -/

/-- The number at a place, if there is one. -/
def number (v : Version) (i : Nat) : Nat :=
  match v.component i with
  | .number n => n
  | .wildcard => 0

/-- The numbers at the first places. -/
def numbers (n : Nat) (v : Version) : List Nat := (List.range n).map v.number

theorem component_eq_number (exact : v.hasWildcard = false) (i : Nat) :
    v.component i = .number (v.number i) := by
  have hnone : .wildcard ∉ v.components := fun hmem => by
    rw [hasWildcard, List.any_eq_false] at exact
    exact absurd rfl (exact .wildcard hmem)
  cases hi : v.component i with
  | number n => rw [number, hi]
  | wildcard =>
      rw [component] at hi
      cases hget : v.components[i]? with
      | some c =>
          rw [hget, Option.getD_some] at hi
          exact absurd (hi ▸ List.mem_of_getElem? hget) hnone
      | none =>
          rw [hget, Option.getD_none, implied] at hi
          split at hi
          · next hlast => exact absurd (List.mem_of_getLast? hlast) hnone
          · cases hi

/-- Pre-releases come before the absence of one. -/
def preRank : Option String → Nat
  | some _ => 0
  | none => 1

/-- How pre-releases compare that no wildcard covers. -/
def compareBarePre : Option String → Option String → Ordering :=
  compareLex (compareOn preRank) fun p q => Extra.comparePre (p.getD "") (q.getD "")

/-- How versions without wildcards compare as far as their first places and their pre-releases
go. -/
def compareFront (n : Nat) : Version → Version → Ordering :=
  compareLex (compareOn (numbers n)) fun a b => compareBarePre a.pre b.pre

instance : TransCmp compareBarePre :=
  have : TransCmp fun p q : Option String => Extra.comparePre (p.getD "") (q.getD "") :=
    Extra.transCmp_on fun p : Option String => p.getD ""
  inferInstanceAs <| TransCmp (compareLex _ _)

instance : TransCmp (compareFront n) :=
  have : TransCmp fun a b : Version => compareBarePre a.pre b.pre := Extra.transCmp_on Version.pre
  inferInstanceAs <| TransCmp (compareLex _ _)

theorem compareUpTo_of_exact (ha : a.hasWildcard = false) (hb : b.hasWildcard = false) (n : Nat) :
    a.compareUpTo b n = Ord.compare (numbers n a) (numbers n b) := by
  have hplace : ∀ i, (a.component i).compare (b.component i) = Ord.compare (a.number i) (b.number i) := by
    intro i
    rw [component_eq_number ha, component_eq_number hb]
    rfl
  simp only [compareUpTo, hplace, numbers]
  induction List.range n with
  | nil => rfl
  | cons i rest ih =>
      rw [List.map_cons, List.foldr_cons, ih, List.map_cons, List.map_cons, List.compare_cons_cons]

theorem comparePre_of_exact (ha : a.hasWildcard = false) (hb : b.hasWildcard = false) :
    a.comparePre b = compareBarePre a.pre b.pre := by
  unfold comparePre
  rw [ha, hb]
  cases a.pre with
  | none =>
      cases b.pre with
      | none => exact ReflCmp.compare_self.symm
      | some q => rfl
  | some p => cases b.pre <;> rfl

/-- Builds decide between versions without wildcards that are the same in front of them. -/
theorem compare_of_exact (ha : a.hasWildcard = false) (hb : b.hasWildcard = false)
    (han : a.components.length ≤ n) (hbn : b.components.length ≤ n) :
    a.compare b = (compareFront n a b).then (a.compareBuild b) := by
  rw [compare_of_le han hbn, ← Ordering.then_assoc, compareUpTo_of_exact ha hb, comparePre_of_exact ha hb]
  rfl

/-- A build makes a version lower only if both versions have one. -/
theorem compareBuild_eq_lt_iff (ha : a.hasWildcard = false) (hb : b.hasWildcard = false) :
    a.compareBuild b = .lt ↔
      ∃ p q, a.build = some p ∧ b.build = some q ∧ Extra.compareBuild p q = .lt := by
  unfold compareBuild
  rw [ha, hb]
  cases a.build <;> cases b.build <;> simp

/-- If both versions have a build, or neither has one, builds compare as texts. -/
theorem compareBuild_of_alike (ha : a.hasWildcard = false) (hb : b.hasWildcard = false)
    (alike : a.build.isSome = b.build.isSome) :
    a.compareBuild b = Extra.compareBuild (a.build.getD "") (b.build.getD "") := by
  unfold compareBuild
  rw [ha, hb]
  cases hp : a.build with
  | none =>
      cases hq : b.build with
      | none => exact ReflCmp.compare_self.symm
      | some q => simp [hp, hq] at alike
  | some p =>
      cases hq : b.build with
      | none => simp [hp, hq] at alike
      | some q => rfl

theorem compare_lt_trans (ha : a.hasWildcard = false) (hb : b.hasWildcard = false)
    (hc : c.hasWildcard = false) (hab : a.compare b = .lt) (hbc : b.compare c = .lt) :
    a.compare c = .lt := by
  obtain ⟨n, han, hbn, hcn⟩ := exists_length_le a b c
  rw [compare_of_exact ha hb han hbn, Ordering.then_eq_lt,
    compareBuild_eq_lt_iff ha hb] at hab
  rw [compare_of_exact hb hc hbn hcn, Ordering.then_eq_lt,
    compareBuild_eq_lt_iff hb hc] at hbc
  rw [compare_of_exact ha hc han hcn, Ordering.then_eq_lt, compareBuild_eq_lt_iff ha hc]
  rcases hab with hab | ⟨hab, p, q, hp, hq, hpq⟩
  · left
    rcases hbc with hbc | ⟨hbc, -⟩
    · exact TransCmp.lt_trans hab hbc
    · exact TransCmp.lt_of_lt_of_eq hab hbc
  · rcases hbc with hbc | ⟨hbc, q', r, hq', hr, hqr⟩
    · exact .inl (TransCmp.lt_of_eq_of_lt hab hbc)
    · cases hq.symm.trans hq'
      exact .inr ⟨TransCmp.eq_trans hab hbc, p, r, hp, hr, TransCmp.lt_trans hpq hqr⟩

/-- A version without wildcards that has a build, or one that has none. -/
structure Exact (built : Bool) (v : Version) : Prop where
  numbers : v.hasWildcard = false
  build : v.build.isSome = built

/-- How versions of one such kind compare. -/
def compareExact (n : Nat) : Version → Version → Ordering :=
  compareLex (compareFront n) fun a b => Extra.compareBuild (a.build.getD "") (b.build.getD "")

instance : TransCmp (compareExact n) :=
  have : TransCmp fun a b : Version => Extra.compareBuild (a.build.getD "") (b.build.getD "") :=
    Extra.transCmp_on fun v : Version => v.build.getD ""
  inferInstanceAs <| TransCmp (compareLex _ _)

theorem Exact.compare_eq {built : Bool} (ha : a.Exact built) (hb : b.Exact built)
    (han : a.components.length ≤ n) (hbn : b.components.length ≤ n) :
    a.compare b = compareExact n a b := by
  rw [compare_of_exact ha.numbers hb.numbers han hbn,
    compareBuild_of_alike ha.numbers hb.numbers (ha.build.trans hb.build.symm)]
  rfl

theorem Exact.le_trans {built : Bool} (ha : a.Exact built) (hb : b.Exact built) (hc : c.Exact built)
    (hab : (a.compare b).isLE) (hbc : (b.compare c).isLE) : (a.compare c).isLE := by
  obtain ⟨n, han, hbn, hcn⟩ := exists_length_le a b c
  rw [ha.compare_eq hb han hbn] at hab
  rw [hb.compare_eq hc hbn hcn] at hbc
  rw [ha.compare_eq hc han hcn]
  exact TransCmp.isLE_trans hab hbc

end Version

/-! ### Requirements -/

namespace Criterion

theorem test_caret_iff (base v : Version) (implicit : Bool) :
    (⟨.caret, base, implicit⟩ : Criterion).test v = true ↔
      (v.compare base).isGE = true ∧ ∀ i < 1, v.component i = base.component i := by
  simp [test]

theorem test_tilde_iff (base v : Version) (implicit : Bool) :
    (⟨.tilde, base, implicit⟩ : Criterion).test v = true ↔
      (v.compare base).isGE = true ∧ ∀ i < 2, v.component i = base.component i := by
  have hboth : (∀ i < 2, v.component i = base.component i) ↔
      v.component 0 = base.component 0 ∧ v.component 1 = base.component 1 := by
    constructor
    · exact fun h => ⟨h 0 (by decide), h 1 (by decide)⟩
    · rintro ⟨hfirst, hsecond⟩ i hi
      obtain rfl | rfl : i = 0 ∨ i = 1 := by omega
      · exact hfirst
      · exact hsecond
  rw [hboth]
  simp [test, and_assoc]

/-- A criterion whose base writes down the first component that it implies. -/
def extended (c : Criterion) : Criterion := { c with base := c.base.extended }

theorem test_extended (c : Criterion) (v : Version) : c.test v.extended = c.test v := by
  simp only [test, Version.compare_extended_left, Version.component_extended]

theorem extended_test (c : Criterion) (v : Version) : c.extended.test v = c.test v := by
  simp only [test, extended, Version.compare_extended_right, Version.component_extended]

end Criterion

namespace Version

/-- The laws of the order of versions. -/
structure OrderLaws : Prop where
  /-- The other way round, a comparison is reversed. -/
  swap : ∀ a b : Version, b.compare a = (a.compare b).swap
  /-- A component that is implied may be written down: no comparison changes, on either side. -/
  extended : ∀ v w : Version, v.extended.compare w = v.compare w ∧ w.compare v.extended = w.compare v
  /-- A version that writes it down meets the same requirements. -/
  candidate : ∀ (r : Requirement) (v : Version), r.accepts v.extended = r.accepts v
  /-- A requirement whose base writes it down is met by the same versions. -/
  base : ∀ (before behind : List Criterion) (c : Criterion) (v : Version),
    Requirement.accepts ⟨before ++ { c with base := c.base.extended } :: behind⟩ v =
      Requirement.accepts ⟨before ++ c :: behind⟩ v
  /-- Nothing is below itself. -/
  irrefl : ∀ a : Version, a.compare a ≠ .lt
  /-- Without wildcards, what is below something is below all that is above it. -/
  trans : ∀ a b c : Version, a.hasWildcard = false → b.hasWildcard = false → c.hasWildcard = false →
    a.compare b = .lt → b.compare c = .lt → a.compare c = .lt
  /-- Without wildcards, and with a build in all versions or in none, the order is a total
  preorder. -/
  preorder : ∀ (built : Bool) (a b c : Version), a.Exact built → b.Exact built → c.Exact built →
    (a.compare a).isLE ∧ ((a.compare b).isLE ∨ (b.compare a).isLE) ∧
      ((a.compare b).isLE → (b.compare c).isLE → (a.compare c).isLE)

theorem compare_lawful : OrderLaws where
  swap := compare_swap
  extended v w := ⟨compare_extended_left v w, compare_extended_right v w⟩
  candidate r v := by simp only [Requirement.accepts, Criterion.test_extended]
  base before behind c v := by
    have htest : Criterion.test { c with base := c.base.extended } v = c.test v := c.extended_test v
    simp only [Requirement.accepts, List.all_append, List.all_cons, htest]
  irrefl a := by
    rw [compare_self]
    decide
  trans _ _ _ := compare_lt_trans
  preorder built a b c ha hb hc := by
    refine ⟨?_, compare_total a b, ha.le_trans hb hc⟩
    rw [compare_self]
    decide

namespace OrderWitness

/-- Three versions of different lengths, each below the next: the first by its pre-release, the
second by its build. -/
theorem candidate_below_builds :
    compare ⟨[.number 1, .number 0, .number 0], some "rc.1", none⟩ ⟨[.number 1], none, some "7"⟩ = .lt ∧
    compare ⟨[.number 1], none, some "7"⟩ ⟨[.number 1, .number 0], none, some "007"⟩ = .lt ∧
    compare ⟨[.number 1, .number 0, .number 0], some "rc.1", none⟩
      ⟨[.number 1, .number 0], none, some "007"⟩ = .lt := by
  have hfirst : compare ⟨[.number 1, .number 0, .number 0], some "rc.1", none⟩
      ⟨[.number 1], none, some "7"⟩ = .lt := by decide +kernel
  have hsecond : compare ⟨[.number 1], none, some "7"⟩
      ⟨[.number 1, .number 0], none, some "007"⟩ = .lt := by decide +kernel
  exact ⟨hfirst, hsecond, compare_lawful.trans _ _ _ rfl rfl rfl hfirst hsecond⟩

end OrderWitness

end Version

end PluginHost
