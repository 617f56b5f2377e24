import PluginHost.Proofs.Version.Order

/-!
Between two versions that a requirement accepts there is none that it refuses,
as long as no wildcards are about. Below, above, not below and not above a base
pass on along the order because it is transitive, and what is neither below nor
above a base is what is not below it and not above it. The first components of
a version never grow smaller along the order, so that two versions with the
same ones have only such versions between them.
-/
namespace PluginHost

namespace Version

variable {a b base u v w : Version} {k n : Nat}

/-- What holds of two versions without wildcards holds of every one between them. -/
def Convex (P : Version → Prop) : Prop :=
  ∀ ⦃u v w : Version⦄, u.hasWildcard = false → v.hasWildcard = false → w.hasWildcard = false →
    u.compare v = .lt → v.compare w = .lt → P u → P w → P v

theorem convex_of_upward {P : Version → Prop} (up : ∀ ⦃u v : Version⦄, u.hasWildcard = false →
    v.hasWildcard = false → u.compare v = .lt → P u → P v) : Convex P :=
  fun _ _ _ hu hv _ huv _ hP _ => up hu hv huv hP

theorem convex_of_downward {P : Version → Prop} (down : ∀ ⦃v w : Version⦄, v.hasWildcard = false →
    w.hasWildcard = false → v.compare w = .lt → P w → P v) : Convex P :=
  fun _ _ _ _ hv hw _ hvw _ hP => down hv hw hvw hP

theorem Convex.and {P Q : Version → Prop} (hP : Convex P) (hQ : Convex Q) :
    Convex fun v => P v ∧ Q v :=
  fun _ _ _ hu hv hw huv hvw h h' => ⟨hP hu hv hw huv hvw h.1 h'.1, hQ hu hv hw huv hvw h.2 h'.2⟩

/-! ### The order against a base -/

theorem isLE_compare_iff : (a.compare b).isLE = true ↔ b.compare a ≠ .lt := by
  rw [compare_swap a b]
  cases a.compare b <;> decide

theorem isGE_compare_iff_not_lt : (a.compare b).isGE = true ↔ a.compare b ≠ .lt := by
  cases a.compare b <;> decide

theorem compare_eq_gt_iff : a.compare b = .gt ↔ b.compare a = .lt := by
  rw [compare_swap a b]
  cases a.compare b <;> decide

theorem compare_eq_eq_iff :
    a.compare b = .eq ↔ (a.compare b).isLE = true ∧ (a.compare b).isGE = true := by
  cases a.compare b <;> decide

section Base

variable (exact : base.hasWildcard = false)
include exact

theorem convex_less : Convex fun v => v.compare base = .lt :=
  convex_of_downward fun _ _ hv hw hvw hbelow => compare_lt_trans hv hw exact hvw hbelow

theorem convex_greater : Convex fun v => v.compare base = .gt :=
  convex_of_upward fun _ _ hu hv huv habove =>
    compare_eq_gt_iff.mpr (compare_lt_trans exact hu hv (compare_eq_gt_iff.mp habove) huv)

theorem convex_lessEqual : Convex fun v => (v.compare base).isLE = true :=
  convex_of_downward fun _ _ hv hw hvw hle => isLE_compare_iff.mpr fun hbase =>
    isLE_compare_iff.mp hle (compare_lt_trans exact hv hw hbase hvw)

theorem convex_greaterEqual : Convex fun v => (v.compare base).isGE = true :=
  convex_of_upward fun _ _ hu hv huv hge => isGE_compare_iff_not_lt.mpr fun hbelow =>
    isGE_compare_iff_not_lt.mp hge (compare_lt_trans hu hv exact huv hbelow)

theorem convex_equal : Convex fun v => v.compare base = .eq := by
  simp only [compare_eq_eq_iff]
  exact (convex_lessEqual exact).and (convex_greaterEqual exact)

end Base

/-! ### The first components -/

theorem compareUpTo_eq_gt_of_le (h : a.compareUpTo b k = .gt) (hk : k ≤ n) :
    a.compareUpTo b n = .gt := by
  induction hk with
  | refl => exact h
  | step _ ih =>
      rw [compareUpTo_succ, ih]
      rfl

/-- In no number of first components is a version greater than one above it. -/
theorem isLE_compareUpTo_of_lt (h : a.compare b = .lt) (k : Nat) :
    (a.compareUpTo b k).isLE = true := by
  have hlengths : max a.components.length b.components.length ≤
      max a.components.length b.components.length + k := Nat.le_add_right _ k
  cases hplaces : a.compareUpTo b k with
  | lt => rfl
  | eq => rfl
  | gt =>
      rw [compare_of_le (Nat.max_le.mp hlengths).1 (Nat.max_le.mp hlengths).2,
        compareUpTo_eq_gt_of_le hplaces (Nat.le_add_left k _)] at h
      cases h

theorem numbers_eq_iff (ha : a.hasWildcard = false) (hb : b.hasWildcard = false) :
    numbers k a = numbers k b ↔ ∀ i < k, a.component i = b.component i := by
  simp only [numbers, List.map_inj_left, List.mem_range, component_eq_number ha,
    component_eq_number hb, Component.number.injEq]

theorem convex_components (exact : base.hasWildcard = false) (k : Nat) :
    Convex fun v => ∀ i < k, v.component i = base.component i := by
  intro u v w hu hv hw huv hvw hfirst hlast
  rw [← numbers_eq_iff hu exact] at hfirst
  rw [← numbers_eq_iff hw exact] at hlast
  rw [← numbers_eq_iff hv exact]
  have hbelow : (Ord.compare (numbers k base) (numbers k v)).isLE = true := by
    rw [← hfirst, ← compareUpTo_of_exact hu hv]
    exact isLE_compareUpTo_of_lt huv k
  have habove : (Ord.compare (numbers k v) (numbers k base)).isLE = true := by
    rw [← hlast, ← compareUpTo_of_exact hv hw]
    exact isLE_compareUpTo_of_lt hvw k
  exact Std.LawfulEqOrd.eq_of_compare (Std.OrientedCmp.isLE_antisymm habove hbelow)

end Version

namespace Criterion

open Version

/-- What an operator accepts is convex, whichever it is. -/
theorem convex_test (c : Criterion) (exact : c.base.hasWildcard = false) :
    Convex fun v => c.test v = true := by
  obtain ⟨operator, base, implicit⟩ := c
  cases operator with
  | lessEqual => exact convex_lessEqual exact
  | greaterEqual => exact convex_greaterEqual exact
  | less => simpa [test] using convex_less exact
  | greater => simpa [test] using convex_greater exact
  | equal => simpa [test] using convex_equal exact
  | caret =>
      simp only [test_caret_iff]
      exact (convex_greaterEqual exact).and (convex_components exact 1)
  | tilde =>
      simp only [test_tilde_iff]
      exact (convex_greaterEqual exact).and (convex_components exact 2)

end Criterion

namespace Requirement

open Version

/-- A requirement whose bases have no wildcards accepts every version between two that it accepts,
wildcards apart. -/
theorem accepts_between {r : Requirement} {u v w : Version}
    (bases : ∀ c ∈ r.criteria, c.base.hasWildcard = false) (hu : u.hasWildcard = false)
    (hv : v.hasWildcard = false) (hw : w.hasWildcard = false) (huv : u.compare v = .lt)
    (hvw : v.compare w = .lt) (first : r.accepts u = true) (last : r.accepts w = true) :
    r.accepts v = true := by
  rw [accepts, List.all_eq_true] at first last ⊢
  intro c hc
  exact c.convex_test (bases c hc) hu hv hw huv hvw (first c hc) (last c hc)

namespace BetweenWitness

/-- The requirement `^1.2-rc.1 <2 ==1.2`. -/
def narrow : Requirement :=
  ⟨[⟨.caret, ⟨[.number 1, .number 2], some "rc.1", none⟩, false⟩,
    ⟨.less, ⟨[.number 2], none, none⟩, false⟩, ⟨.equal, ⟨[.number 1, .number 2], none, none⟩, false⟩]⟩

/-- Three versions of different lengths that only their builds tell apart. -/
theorem narrow_accepts_between :
    narrow.accepts ⟨[.number 1, .number 2], none, some "7"⟩ = true ∧
    narrow.accepts ⟨[.number 1, .number 2, .number 0, .number 0], none, some "a"⟩ = true ∧
    narrow.accepts ⟨[.number 1, .number 2, .number 0], none, some "007"⟩ = true := by
  have hfirst : narrow.accepts ⟨[.number 1, .number 2], none, some "7"⟩ = true := by decide +kernel
  have hlast : narrow.accepts ⟨[.number 1, .number 2, .number 0, .number 0], none, some "a"⟩ = true := by
    decide +kernel
  exact ⟨hfirst, hlast, accepts_between (by decide) (by decide) (by decide) (by decide)
    (by decide +kernel) (by decide +kernel) hfirst hlast⟩

end BetweenWitness

end Requirement

end PluginHost
