import Mathlib.Data.Int.Order.Basic
import Mathlib.Data.List.MinMax
import Mathlib.Order.Bounds.Basic
import Mathlib.Tactic.Ring

/-!
# Windows that recur

A window opens at some instant and stays open for a while, and does so again after every period.
Instants are integers, so that no occurrence is the first or the last.

* `covers_iff`: whether a window is open at an instant.
* `isLeast_next`, `exists_first`: the first opening after an instant, of one window and of several.
* `first_iff_of_covers`: some of the windows that cover all the others open first as well.
-/

namespace Recurring

/-- One occurrence of a window. -/
structure Window where
  start : ℤ
  length : ℤ
  deriving DecidableEq

variable (P : ℤ)

/-- The window opens at this instant. -/
def Opens (w : Window) (T : ℤ) : Prop := ∃ k, T = w.start + P * k

/-- The window is open at this instant. -/
def Covers (w : Window) (t : ℤ) : Prop := ∃ T, Opens P w T ∧ T ≤ t ∧ t < T + w.length

/-- The first opening after an instant. -/
def next (w : Window) (t : ℤ) : ℤ := t + 1 + (w.start - (t + 1)) % P

/-- One of the windows is open at this instant. -/
def OpenAt (ws : List Window) (t : ℤ) : Prop := ∃ w ∈ ws, Covers P w t

/-- The openings of the windows after an instant. -/
def After (ws : List Window) (t : ℤ) : Set ℤ := {T | t < T ∧ ∃ w ∈ ws, Opens P w T}

variable {P} {w : Window} {ws ws' : List Window} {t T : ℤ}

section One

variable (hP : 0 < P)

theorem emod_of_opens (h : Opens P w T) (t : ℤ) : (t - w.start) % P = (t - T) % P := by
  obtain ⟨k, rfl⟩ := h
  have heq : t - w.start = t - (w.start + P * k) + P * k := by ring
  rw [heq, Int.add_mul_emod_self_left]

include hP in
theorem covers_iff (hlength : w.length ≤ P) : Covers P w t ↔ (t - w.start) % P < w.length := by
  constructor
  · rintro ⟨T, hopens, hle, hlt⟩
    rw [emod_of_opens hopens, Int.emod_eq_of_lt (by omega) (by omega)]
    omega
  · intro h
    have hnonneg := Int.emod_nonneg (t - w.start) (Int.ne_of_gt hP)
    have hdiv := Int.emod_add_mul_ediv (t - w.start) P
    exact ⟨t - (t - w.start) % P, ⟨(t - w.start) / P, by omega⟩, by omega, by omega⟩

include hP in
/-- **The first opening** of a window after an instant. -/
theorem isLeast_next : IsLeast {T | t < T ∧ Opens P w T} (next P w t) := by
  have hnonneg := Int.emod_nonneg (w.start - (t + 1)) (Int.ne_of_gt hP)
  constructor
  · refine ⟨by rw [next]; omega, -((w.start - (t + 1)) / P), ?_⟩
    have hdiv := Int.emod_add_mul_ediv (w.start - (t + 1)) P
    rw [next, mul_neg]
    omega
  · rintro T ⟨hlt, k, rfl⟩
    have heq : w.start - (t + 1) = w.start + P * k - (t + 1) + P * -k := by ring
    rw [next, heq, Int.add_mul_emod_self_left]
    have hle : (w.start + P * k - (t + 1)) % P ≤ w.start + P * k - (t + 1) := by
      have hdiv := Int.emod_add_mul_ediv (w.start + P * k - (t + 1)) P
      have hquot : 0 ≤ P * ((w.start + P * k - (t + 1)) / P) :=
        Int.mul_nonneg hP.le (Int.ediv_nonneg (by omega) hP.le)
      omega
    omega

include hP in
theorem next_le : next P w t ≤ t + P := by
  have hlt := Int.emod_lt_of_pos (w.start - (t + 1)) hP
  rw [next]
  omega

theorem covers_of_opens (h : Opens P w T) (hpos : 0 < w.length) : Covers P w T :=
  ⟨T, h, le_rfl, by omega⟩

end One

/-! ## Several windows -/

section Several

variable (hP : 0 < P)

include hP in
/-- **Some window opens first.** -/
theorem exists_first (hne : ws ≠ []) (t : ℤ) :
    ∃ w ∈ ws, IsLeast (After P ws t) (next P w t) := by
  obtain ⟨w, hw⟩ : ∃ w, ws.argmin (fun w => next P w t) = some w :=
    Option.ne_none_iff_exists'.mp fun hnone => hne (List.argmin_eq_none.mp hnone)
  have hmem := List.argmin_mem hw
  obtain ⟨hlt, hopens⟩ := (isLeast_next hP (w := w) (t := t)).1
  refine ⟨w, hmem, ⟨hlt, w, hmem, hopens⟩, ?_⟩
  rintro T ⟨hT, w', hw', hopens'⟩
  exact (List.le_of_mem_argmin hw' hw).trans ((isLeast_next hP).2 ⟨hT, hopens'⟩)

theorem After.mono (hsub : ws ⊆ ws') : After P ws t ⊆ After P ws' t := by
  rintro T ⟨hlt, w, hw, hopens⟩
  exact ⟨hlt, w, hsub hw, hopens⟩

/-- **Windows that cover all the others open first**: an instant at which they are closed is
followed by the same opening. -/
theorem first_of_covers (hsub : ws ⊆ ws') (hpos : ∀ w ∈ ws', 0 < w.length)
    (hcover : ∀ t, OpenAt P ws' t → OpenAt P ws t) (hclosed : ¬ OpenAt P ws t)
    (h : IsLeast (After P ws' t) T) : IsLeast (After P ws t) T := by
  obtain ⟨⟨hlt, w', hw', hopens'⟩, hleast⟩ := h
  obtain ⟨w, hw, U, hopens, hle, hend⟩ :=
    hcover T ⟨w', hw', covers_of_opens hopens' (hpos w' hw')⟩
  -- the window that is open then has opened since, so it is one of the openings that follow
  have hafter : t < U := by
    by_contra hnot
    exact hclosed ⟨w, hw, U, hopens, by omega, by omega⟩
  have heq : U = T := le_antisymm hle (hleast ⟨hafter, w, hsub hw, hopens⟩)
  subst heq
  exact ⟨⟨hafter, w, hw, hopens⟩, fun V hV => hleast (After.mono hsub hV)⟩

theorem opens_add_period (k : ℤ) (h : Opens P w T) : Opens P w (T + P * k) := by
  obtain ⟨j, rfl⟩ := h
  exact ⟨j + k, by ring⟩

/-- What is open now is open after every period. -/
theorem OpenAt.add_period (k : ℤ) (h : OpenAt P ws t) : OpenAt P ws (t + P * k) := by
  obtain ⟨w, hw, T, hopens, hle, hlt⟩ := h
  exact ⟨w, hw, T + P * k, opens_add_period k hopens, by omega, by omega⟩

end Several

end Recurring
