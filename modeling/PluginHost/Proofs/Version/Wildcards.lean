import PluginHost.Proofs.Version.Order

/-!
Bases with wildcards. To the order of versions a wildcard is any number: a
version without wildcards is not below a base if it has the greater number
where both first differ in numbers, or if they differ in none and nothing else
speaks against it. The operators `^` and `~` also look at the first components
by themselves, and there a wildcard is only itself, so that a base with a
wildcard among them is met by no version without wildcards. The module says
what both operators accept, and that wildcards there are the only bases for
which this is not "not below the base, and the first components match".
-/
namespace PluginHost

namespace Component

/-- A wildcard matches every number, and a number itself. -/
def Matches (c : Component) (n : Nat) : Prop := c = .wildcard ∨ c = .number n

/-- The least component without a wildcard that a component matches. -/
def filled : Component → Component
  | .number n => .number n
  | .wildcard => .number 0

variable {c : Component} {n : Nat}

theorem compare_number_eq_iff : (number n).compare c = .eq ↔ c.Matches n := by
  cases c with
  | number m =>
      have hequal : Ord.compare n m = .eq ↔ n = m := Nat.compare_eq_eq
      simp [compare, Matches, hequal, eq_comm]
  | wildcard => simp [compare, Matches]

theorem compare_number_eq_gt_iff : (number n).compare c = .gt ↔ ∃ m < n, c = .number m := by
  cases c with
  | number m =>
      have hgreater : Ord.compare n m = .gt ↔ m < n := Nat.compare_eq_gt
      simp [compare, hgreater]
  | wildcard => simp [compare]

theorem compare_filled (c : Component) : c.filled.compare c = .eq := by
  cases c with
  | number n => exact compare_number_eq_iff.mpr (.inr rfl)
  | wildcard => rfl

end Component

namespace Version

variable {base v : Version} {width n : Nat}

/-! ### The order -/

/-- The first components of a base match those of a version. -/
def Fits (base v : Version) (width : Nat) : Prop :=
  ∀ i < width, (base.component i).Matches (v.number i)

/-- Where a base first has another number than a version, it has the smaller one. -/
def Exceeded (base v : Version) : Prop :=
  ∃ i, base.Fits v i ∧ ∃ m < v.number i, base.component i = .number m

theorem fits_succ_iff : base.Fits v (width + 1) ↔
    base.Fits v width ∧ (base.component width).Matches (v.number width) := by
  constructor
  · exact fun h => ⟨fun i hi => h i (Nat.lt_succ_of_lt hi), h width (Nat.lt_succ_self width)⟩
  · rintro ⟨hfront, hlast⟩ i hi
    rcases Nat.lt_succ_iff_lt_or_eq.mp hi with hless | rfl
    · exact hfront i hless
    · exact hlast

theorem compareUpTo_eq_eq_iff (exact : v.hasWildcard = false) :
    v.compareUpTo base n = .eq ↔ base.Fits v n := by
  induction n with
  | zero => exact ⟨fun _ i hi => absurd hi (Nat.not_lt_zero i), fun _ => rfl⟩
  | succ n ih =>
      rw [compareUpTo_succ, Ordering.then_eq_eq, ih, fits_succ_iff, component_eq_number exact,
        Component.compare_number_eq_iff]

theorem compareUpTo_eq_gt_iff (exact : v.hasWildcard = false) : v.compareUpTo base n = .gt ↔
    ∃ i < n, base.Fits v i ∧ ∃ m < v.number i, base.component i = .number m := by
  induction n with
  | zero => exact ⟨nofun, fun ⟨i, hi, _⟩ => absurd hi (Nat.not_lt_zero i)⟩
  | succ n ih =>
      rw [compareUpTo_succ, Ordering.then_eq_gt, ih, compareUpTo_eq_eq_iff exact,
        component_eq_number exact, Component.compare_number_eq_gt_iff]
      constructor
      · rintro (⟨i, hi, hfits, hgreater⟩ | ⟨hfits, hgreater⟩)
        · exact ⟨i, Nat.lt_succ_of_lt hi, hfits, hgreater⟩
        · exact ⟨n, Nat.lt_succ_self n, hfits, hgreater⟩
      · rintro ⟨i, hi, hfits, hgreater⟩
        rcases Nat.lt_succ_iff_lt_or_eq.mp hi with hless | rfl
        · exact .inl ⟨i, hless, hfits, hgreater⟩
        · exact .inr ⟨hfits, hgreater⟩

theorem isGE_then (a b : Ordering) : (a.then b).isGE = true ↔ a = .gt ∨ a = .eq ∧ b.isGE = true := by
  cases a <;> simp

/-- A version without wildcards is not below a base that it exceeds, and not below one that it fits
unless its extras make it so. -/
theorem isGE_compare_iff (exact : v.hasWildcard = false) : (v.compare base).isGE = true ↔
    base.Exceeded v ∨ (∀ width, base.Fits v width) ∧
      ((v.comparePre base).then (v.compareBuild base)).isGE = true := by
  -- Places may be compared as far as one likes past both ends.
  have hcompare : ∀ n, max v.components.length base.components.length ≤ n →
      ((v.compare base).isGE = true ↔ v.compareUpTo base n = .gt ∨ v.compareUpTo base n = .eq ∧
        ((v.comparePre base).then (v.compareBuild base)).isGE = true) := by
    intro n hn
    rw [compare_of_le (Nat.max_le.mp hn).1 (Nat.max_le.mp hn).2, isGE_then]
  constructor
  · intro h
    rcases (hcompare _ (Nat.le_refl _)).mp h with hgreater | ⟨hequal, hextra⟩
    · obtain ⟨i, _, hexceeds⟩ := (compareUpTo_eq_gt_iff exact).mp hgreater
      exact .inl ⟨i, hexceeds⟩
    · refine .inr ⟨fun width i hi => ?_, hextra⟩
      have hfar : v.compareUpTo base
          (max v.components.length base.components.length + (i + 1)) = .eq := by
        rw [compareUpTo_of_le (Nat.le_add_right _ _), hequal]
      exact (compareUpTo_eq_eq_iff exact).mp hfar i (by omega)
  · rintro (⟨i, hexceeds⟩ | ⟨hfits, hextra⟩)
    · refine (hcompare _ (Nat.le_add_right _ (i + 1))).mpr (.inl ?_)
      exact (compareUpTo_eq_gt_iff exact).mpr ⟨i, by omega, hexceeds⟩
    · exact (hcompare _ (Nat.le_refl _)).mpr
        (.inr ⟨(compareUpTo_eq_eq_iff exact).mpr (hfits _), hextra⟩)

/-! ### A version every base matches -/

/-- A base with zeros in place of its wildcards. -/
def filled (base : Version) : Version :=
  { base with components := base.components.map Component.filled }

theorem hasWildcard_filled (base : Version) : base.filled.hasWildcard = false := by
  rw [hasWildcard, List.any_eq_false]
  intro c hc
  obtain ⟨d, _, rfl⟩ := List.mem_map.mp hc
  cases d <;> exact Bool.false_ne_true

theorem implied_filled (base : Version) : base.filled.implied = base.implied.filled := by
  have hlast : base.filled.components.getLast? ≠ some .wildcard := by
    intro hwild
    have hmem : Component.wildcard ∈ base.filled.components := List.mem_of_getLast? hwild
    have hnone := hasWildcard_filled base
    rw [hasWildcard, List.any_eq_false] at hnone
    exact hnone .wildcard hmem rfl
  rw [implied, if_neg hlast, implied]
  split <;> rfl

theorem component_filled (base : Version) (i : Nat) :
    base.filled.component i = (base.component i).filled := by
  rw [component, component, implied_filled, filled, List.getElem?_map, Option.getD_map]

theorem compare_filled (base : Version) : base.filled.compare base = .eq := by
  have hplaces : ∀ n, base.filled.compareUpTo base n = .eq := by
    intro n
    induction n with
    | zero => rfl
    | succ n ih => rw [compareUpTo_succ, ih, component_filled, Component.compare_filled]; rfl
  have hpre : base.filled.comparePre base = .eq := by
    rw [comparePre, show base.filled.pre = base.pre from rfl]
    cases base.pre with
    | none => rfl
    | some p =>
        have hself : Extra.comparePre p p = .eq := Std.ReflCmp.compare_self
        exact hself
  have hbuild : base.filled.compareBuild base = .eq := by
    rw [compareBuild, show base.filled.build = base.build from rfl]
    cases base.build with
    | none => rfl
    | some p =>
        dsimp only
        split
        · rfl
        · exact Std.ReflCmp.compare_self
  rw [compare, hplaces, hpre, hbuild]
  rfl

theorem fits_filled (base : Version) (width : Nat) : base.Fits base.filled width := by
  intro i _
  rw [← Component.compare_number_eq_iff, ← component_eq_number (hasWildcard_filled base),
    component_filled, Component.compare_filled]

/-! ### Ranges -/

/-- The first components of a base are numbers. -/
def Definite (base : Version) (width : Nat) : Prop :=
  ∀ i < width, base.component i ≠ .wildcard

/-- A base has the same components as a version exactly where it has numbers that match. -/
theorem components_eq_iff (exact : v.hasWildcard = false) :
    (∀ i < width, v.component i = base.component i) ↔ base.Fits v width ∧ base.Definite width := by
  simp only [component_eq_number exact, Fits, Definite, ← forall_and, Component.Matches]
  refine forall_congr' fun i => forall_congr' fun _ => ?_
  cases base.component i <;> simp [eq_comm]

end Version

namespace Criterion

/-- What a criterion makes of the first components, up to a width, of a base with wildcards. -/
structure RangeLaws (c : Criterion) (width : Nat) : Prop where
  /-- A version without wildcards is accepted if it is not below the base and the base has matching
  numbers for first components. -/
  accepts : ∀ v : Version, v.hasWildcard = false → (c.test v = true ↔
    (v.compare c.base).isGE = true ∧ c.base.Fits v width ∧ c.base.Definite width)
  /-- Only if the base has a wildcard among them it is not enough that the first components
  match. -/
  matched : c.base.Definite width ↔ ∀ v : Version, v.hasWildcard = false →
    (c.test v = true ↔ (v.compare c.base).isGE = true ∧ c.base.Fits v width)

theorem rangeLaws_of_test {c : Criterion} {width : Nat}
    (test : ∀ v : Version, c.test v = true ↔
      (v.compare c.base).isGE = true ∧ ∀ i < width, v.component i = c.base.component i) :
    c.RangeLaws width where
  accepts v exact := by rw [test, Version.components_eq_iff exact]
  matched := by
    constructor
    · intro definite v exact
      rw [test, Version.components_eq_iff exact, and_iff_left definite]
    · -- The base itself, with zeros for wildcards, matches and is not below it.
      intro claimed
      have hexact := c.base.hasWildcard_filled
      have hequal : (c.base.filled.compare c.base).isGE = true := by
        rw [c.base.compare_filled]
        rfl
      have haccepted := (claimed c.base.filled hexact).mpr ⟨hequal, c.base.fits_filled width⟩
      exact ((Version.components_eq_iff hexact).mp ((test c.base.filled).mp haccepted).2).2

/-- To the order a wildcard of a base is any number, wherever it stands or is implied. To `^`, which
looks at the first component, and to `~`, which looks at the first two, it is none. -/
theorem ranges_with_wildcards (base : Version) (implicit : Bool) :
    (∀ v : Version, v.hasWildcard = false → ((v.compare base).isGE = true ↔
      base.Exceeded v ∨ (∀ width, base.Fits v width) ∧
        ((v.comparePre base).then (v.compareBuild base)).isGE = true)) ∧
    RangeLaws ⟨.caret, base, implicit⟩ 1 ∧ RangeLaws ⟨.tilde, base, implicit⟩ 2 :=
  ⟨fun _ exact => Version.isGE_compare_iff exact,
    rangeLaws_of_test fun v => test_caret_iff base v implicit,
    rangeLaws_of_test fun v => test_tilde_iff base v implicit⟩

end Criterion

namespace RangeWitness

/-- The base `1.*`. -/
def loose : Version := ⟨[.number 1, .wildcard], none, none⟩

/-- Version 1.5.2 is not below `1.*` and matches it; `^1.*` accepts it and `~1.*` does not. -/
theorem tilde_misses_wildcard :
    (Version.compare (.ofNumbers 1 5 2) loose).isGE = true ∧ loose.Fits (.ofNumbers 1 5 2) 2 ∧
    (⟨.caret, loose, false⟩ : Criterion).test (.ofNumbers 1 5 2) = true ∧
    (⟨.tilde, loose, false⟩ : Criterion).test (.ofNumbers 1 5 2) = false := by
  have hexact : (Version.ofNumbers 1 5 2).hasWildcard = false := by decide
  have hnotBelow : (Version.compare (.ofNumbers 1 5 2) loose).isGE = true := by decide
  have hfits : loose.Fits (.ofNumbers 1 5 2) 2 := by
    intro i hi
    obtain rfl | rfl : i = 0 ∨ i = 1 := by omega
    · exact .inr rfl
    · exact .inl rfl
  obtain ⟨-, hcaret, htilde⟩ := Criterion.ranges_with_wildcards loose false
  refine ⟨hnotBelow, hfits, (hcaret.accepts _ hexact).mpr ⟨hnotBelow, ?_, ?_⟩, ?_⟩
  · exact fun i hi => hfits i (Nat.lt_succ_of_lt hi)
  · intro i hi
    rw [Nat.lt_one_iff.mp hi]
    decide
  · rw [Bool.eq_false_iff]
    intro haccepted
    exact ((htilde.accepts _ hexact).mp haccepted).2.2 1 (by decide) rfl

end RangeWitness

end PluginHost
