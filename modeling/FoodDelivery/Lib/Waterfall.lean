import Mathlib.Algebra.Order.Group.Defs
import Mathlib.Algebra.Order.Group.MinMax
import Mathlib.Algebra.Order.BigOperators.Group.List
import Mathlib.Tactic.Abel

/-!
# Taking from an amount in turn

Claimants take from one amount, one after the other, each as much as its cap and what is left allow.

* `sum_takes_add_left`: nothing is lost.
* `full_of_later`: whoever comes before one that takes something takes its whole cap.
* `left_eq_max`: what is left is what the caps do not cover.
-/

namespace Waterfall

universe u v

variable {ι : Type u} {K : Type v} [AddCommGroup K] [LinearOrder K]

/-- The claimants, each with what it takes. -/
def takes (cap : ι → K) : K → List ι → List (ι × K)
  | _, [] => []
  | amount, x :: xs => (x, min amount (cap x)) :: takes cap (amount - min amount (cap x)) xs

/-- What is left in the end. -/
def left (cap : ι → K) : K → List ι → K
  | amount, [] => amount
  | amount, x :: xs => left cap (amount - min amount (cap x)) xs

variable {cap : ι → K} {amount : K} {xs : List ι} {x y : ι} {t : K}

theorem map_fst_takes : (takes cap amount xs).map (·.1) = xs := by
  induction xs generalizing amount with
  | nil => rfl
  | cons x xs ih => rw [takes, List.map_cons, ih]

/-- **Nothing is lost.** -/
theorem sum_takes_add_left :
    ((takes cap amount xs).map (·.2)).sum + left cap amount xs = amount := by
  induction xs generalizing amount with
  | nil => simp [takes, left]
  | cons x xs ih =>
    rw [takes, left, List.map_cons, List.sum_cons, add_assoc, ih]
    abel

/-- From nothing, nothing is taken. -/
theorem takes_zero (hcap : ∀ x ∈ xs, 0 ≤ cap x) (h : (x, t) ∈ takes cap 0 xs) : t = 0 := by
  induction xs with
  | nil => cases h
  | cons y ys ih =>
    have hmin : min 0 (cap y) = 0 := min_eq_left (hcap y List.mem_cons_self)
    rw [takes, hmin, sub_zero] at h
    rcases List.mem_cons.mp h with h | h
    · exact (Prod.mk.inj h).2
    · exact ih (fun z hz => hcap z (List.mem_cons_of_mem _ hz)) h

theorem left_zero (hcap : ∀ x ∈ xs, 0 ≤ cap x) : left cap 0 xs = 0 := by
  induction xs with
  | nil => rfl
  | cons y ys ih =>
    have hmin : min 0 (cap y) = 0 := min_eq_left (hcap y List.mem_cons_self)
    rw [left, hmin, sub_zero]
    exact ih fun z hz => hcap z (List.mem_cons_of_mem _ hz)

/-- **Whoever comes before one that takes something takes its whole cap.** -/
theorem full_of_later (hcap : ∀ x ∈ xs, 0 ≤ cap x) (hnodup : xs.Nodup) (hxy : [x, y].Sublist xs)
    (h : (y, t) ∈ takes cap amount xs) (ht : t ≠ 0) : (x, cap x) ∈ takes cap amount xs := by
  induction xs generalizing amount with
  | nil => cases h
  | cons z zs ih =>
    have hzs : ∀ z ∈ zs, 0 ≤ cap z := fun z hz => hcap z (List.mem_cons_of_mem _ hz)
    rw [List.nodup_cons] at hnodup
    have hlater : y ∈ zs → (y, t) ∈ takes cap (amount - min amount (cap z)) zs := by
      intro hy
      rcases List.mem_cons.mp h with h | h
      · exact absurd ((Prod.mk.inj h).1 ▸ hy) hnodup.1
      · exact h
    rw [takes]
    cases hxy with
    | cons _ hxy =>
      have hy : y ∈ zs := hxy.subset (List.mem_cons_of_mem _ (List.mem_singleton.mpr rfl))
      exact List.mem_cons_of_mem _ (ih hzs hnodup.2 hxy (hlater hy))
    | cons_cons _ hy =>
      have htaken := hlater (List.singleton_sublist.mp hy)
      rcases le_total amount (cap x) with hle | hle
      · rw [min_eq_left hle, sub_self] at htaken
        exact absurd (takes_zero hzs htaken) ht
      · rw [min_eq_right hle]
        exact List.mem_cons_self

variable [IsOrderedAddMonoid K]

/-- Each takes something between nothing and its cap. -/
theorem take_bounds (hamount : 0 ≤ amount) (hcap : ∀ x ∈ xs, 0 ≤ cap x)
    (h : (x, t) ∈ takes cap amount xs) : 0 ≤ t ∧ t ≤ cap x := by
  induction xs generalizing amount with
  | nil => cases h
  | cons y ys ih =>
    rcases List.mem_cons.mp h with h | h
    · obtain ⟨rfl, rfl⟩ := Prod.mk.inj h
      exact ⟨le_min hamount (hcap x List.mem_cons_self), min_le_right _ _⟩
    · exact ih (sub_nonneg.mpr (min_le_left _ _)) (fun z hz => hcap z (List.mem_cons_of_mem _ hz)) h

/-- **What is left is what the caps do not cover.** -/
theorem left_eq_max (hamount : 0 ≤ amount) (hcap : ∀ x ∈ xs, 0 ≤ cap x) :
    left cap amount xs = max 0 (amount - (xs.map cap).sum) := by
  induction xs generalizing amount with
  | nil => simp [left, hamount]
  | cons y ys ih =>
    have hys : ∀ z ∈ ys, 0 ≤ cap z := fun z hz => hcap z (List.mem_cons_of_mem _ hz)
    have hsum : 0 ≤ (ys.map cap).sum := List.sum_nonneg fun c hc => by
      obtain ⟨z, hz, rfl⟩ := List.mem_map.mp hc
      exact hys z hz
    rw [left, ih (sub_nonneg.mpr (min_le_left _ _)) hys, List.map_cons, List.sum_cons]
    rcases le_total amount (cap y) with h | h
    · have hnone : amount - (cap y + (ys.map cap).sum) ≤ 0 :=
        sub_nonpos.mpr (h.trans (le_add_of_nonneg_right hsum))
      rw [min_eq_left h, sub_self, zero_sub, max_eq_left (neg_nonpos.mpr hsum), max_eq_left hnone]
    · rw [min_eq_right h, sub_sub]

end Waterfall
