import Mathlib.Algebra.Order.Round
import Mathlib.Data.Int.Log
import Mathlib.Data.Rat.Floor
import Mathlib.Tactic.FieldSimp
import Mathlib.Tactic.Linarith
import Mathlib.Tactic.Ring

/-!
# Rounding to floating-point numbers

`roundTo p emin` rounds to the nearest of the numbers that have a mantissa of `p` bits and are
multiples of `2 ^ emin`, ties to even.  Exponents are not bounded from above.

* `Nearest.monotone`, `Nearest.eq_self`: what any rounding to the nearest does.
* `nearest_roundTo`: this one is such a rounding.
-/

namespace Rounding

universe u

/-! ## The nearest of a set -/

section Nearest

variable {K : Type u} [Field K] [LinearOrder K] [IsStrictOrderedRing K]

/-- `f` gives each number one of `S` that no other of `S` is nearer to. -/
structure Nearest (S : Set K) (f : K → K) : Prop where
  mem : ∀ x, f x ∈ S
  nearest : ∀ x, ∀ y ∈ S, |f x - x| ≤ |y - x|

namespace Nearest

variable {S : Set K} {f : K → K} {x y : K}

/-- What is in the set stays as it is. -/
theorem eq_self (h : Nearest S f) (hx : x ∈ S) : f x = x := by
  have hzero : |f x - x| ≤ 0 := by simpa using h.nearest x x hx
  exact sub_eq_zero.mp (abs_nonpos_iff.mp hzero)

/-- **Rounding keeps the order**: of two results the wrong way round, one would be nearer to both
numbers. -/
theorem monotone (h : Nearest S f) : Monotone f := by
  intro x y hxy
  by_contra hlt
  have hx := sq_le_sq.mpr (h.nearest x (f y) (h.mem y))
  have hy := sq_le_sq.mpr (h.nearest y (f x) (h.mem x))
  have hne : x ≠ y := by
    rintro rfl
    exact hlt le_rfl
  have hgap : 0 < (f x - f y) * (y - x) :=
    mul_pos (sub_pos.mpr (not_le.mp hlt)) (sub_pos.mpr (lt_of_le_of_ne hxy hne))
  linarith

theorem le_of_le (h : Nearest S f) (hy : y ∈ S) (hxy : x ≤ y) : f x ≤ y :=
  (h.monotone hxy).trans_eq (h.eq_self hy)

theorem ge_of_ge (h : Nearest S f) (hx : x ∈ S) (hxy : x ≤ y) : x ≤ f y :=
  (h.eq_self hx).symm.trans_le (h.monotone hxy)

end Nearest

end Nearest

/-! ## Integers -/

/-- To the nearest integer, halves to the even one. -/
def roundEven (x : ℚ) : ℤ := if Int.fract x = 1 / 2 ∧ Even ⌊x⌋ then ⌊x⌋ else round x

theorem abs_roundEven_sub (x : ℚ) (z : ℤ) : |(roundEven x : ℚ) - x| ≤ |z - x| := by
  have hround : |(round x : ℚ) - x| ≤ |z - x| := by
    rw [abs_sub_comm, abs_sub_comm (z : ℚ)]
    exact round_le x z
  rw [roundEven]
  split
  · -- the floor is as near as `round` is
    rename_i htie
    have hfloor : |(⌊x⌋ : ℚ) - x| = |(round x : ℚ) - x| := by
      rw [abs_sub_comm, Int.self_sub_floor, Int.abs_fract, abs_sub_comm, abs_sub_round_eq_min,
        htie.1]
      norm_num
    exact hfloor.trans_le hround
  · exact hround

theorem nearest_roundEven : Nearest (Set.range ((↑) : ℤ → ℚ)) fun x => (roundEven x : ℚ) where
  mem x := ⟨_, rfl⟩
  nearest x := by
    rintro y ⟨z, rfl⟩
    exact abs_roundEven_sub x z

/-! ## Floating-point numbers -/

/-- The numbers with a mantissa of `p` bits that are multiples of `2 ^ emin`. -/
def floats (p : ℕ) (emin : ℤ) : Set ℚ :=
  {x | ∃ m e : ℤ, |m| ≤ 2 ^ p ∧ emin ≤ e ∧ x = m * 2 ^ e}

/-- The exponent of the last place of a number. -/
def exponent (p : ℕ) (emin : ℤ) (x : ℚ) : ℤ := max (Int.log 2 |x| + 1 - p) emin

def roundTo (p : ℕ) (emin : ℤ) (x : ℚ) : ℚ :=
  roundEven (x / 2 ^ exponent p emin x) * 2 ^ exponent p emin x

variable {p : ℕ} {emin e : ℤ} {x y : ℚ}

theorem two_zpow_pos (e : ℤ) : (0 : ℚ) < 2 ^ e := zpow_pos two_pos e

/-- A number has no more than `p` bits before its last place. -/
theorem abs_div_le : |x / 2 ^ exponent p emin x| ≤ 2 ^ p := by
  rw [abs_div, abs_of_pos (two_zpow_pos _), div_le_iff₀ (two_zpow_pos _)]
  have hlog : |x| < 2 ^ (Int.log 2 |x| + 1) := Int.lt_zpow_succ_log_self one_lt_two _
  have hexp : Int.log 2 |x| + 1 ≤ p + exponent p emin x := by
    rw [exponent]
    omega
  calc |x| ≤ (2 : ℚ) ^ (Int.log 2 |x| + 1) := hlog.le
    _ ≤ 2 ^ (p + exponent p emin x) := zpow_le_zpow_right₀ one_le_two hexp
    _ = 2 ^ p * 2 ^ exponent p emin x := by rw [zpow_add₀ two_ne_zero, zpow_natCast]

/-- Rounding goes to no multiple of the last place that is further away. -/
theorem roundTo_nearest_multiple (z : ℤ) :
    |roundTo p emin x - x| ≤ |z * 2 ^ exponent p emin x - x| := by
  have hpos := two_zpow_pos (exponent p emin x)
  have hscale : ∀ z : ℤ, |z * 2 ^ exponent p emin x - x| =
      |(z : ℚ) - x / 2 ^ exponent p emin x| * 2 ^ exponent p emin x := by
    intro z
    rw [← abs_of_pos hpos, ← abs_mul, abs_of_pos hpos, sub_mul, div_mul_cancel₀ _ hpos.ne']
  rw [roundTo, hscale, hscale]
  exact mul_le_mul_of_nonneg_right (abs_roundEven_sub _ z) hpos.le

/-- A number of a finer grid lies within the leading power of two. -/
theorem abs_le_of_exponent_lt (hp : 0 < p) (hy : ∃ m : ℤ, |m| ≤ 2 ^ p ∧ y = m * 2 ^ e)
    (hlt : e < exponent p emin x) : |y| ≤ 2 ^ (p - 1) * 2 ^ exponent p emin x := by
  obtain ⟨m, hm, rfl⟩ := hy
  obtain ⟨k, rfl⟩ : ∃ k, p = k + 1 := ⟨p - 1, by omega⟩
  have hm' : |(m : ℚ)| ≤ 2 ^ (k + 1) := by exact_mod_cast hm
  have hstep : (2 : ℚ) ^ (e + 1) ≤ 2 ^ exponent (k + 1) emin x :=
    zpow_le_zpow_right₀ one_le_two (by omega)
  rw [abs_mul, abs_of_pos (two_zpow_pos e)]
  calc |(m : ℚ)| * 2 ^ e ≤ 2 ^ (k + 1) * 2 ^ e :=
        mul_le_mul_of_nonneg_right hm' (two_zpow_pos e).le
    _ = 2 ^ k * 2 ^ (e + 1) := by rw [zpow_add_one₀ two_ne_zero]; ring
    _ ≤ 2 ^ k * 2 ^ exponent (k + 1) emin x := mul_le_mul_of_nonneg_left hstep (by positivity)

/-- Above the least exponent the leading power of two is within the number. -/
theorem leading_le_abs (hp : 0 < p) (hx : x ≠ 0) (hlt : emin < exponent p emin x) :
    2 ^ (p - 1) * 2 ^ exponent p emin x ≤ |x| := by
  have hexp : exponent p emin x = Int.log 2 |x| + 1 - p := by
    rw [exponent] at hlt ⊢
    omega
  have hlead : (2 : ℚ) ^ (p - 1) * 2 ^ exponent p emin x = 2 ^ Int.log 2 |x| := by
    rw [← zpow_natCast, ← zpow_add₀ two_ne_zero, hexp]
    congr 1
    omega
  rw [hlead]
  exact Int.zpow_log_le_self one_lt_two (abs_pos.mpr hx)

/-- Nor to a number of a coarser grid: that is a multiple of the last place. -/
theorem roundTo_nearest_coarser (m : ℤ) (hle : exponent p emin x ≤ e) :
    |roundTo p emin x - x| ≤ |m * 2 ^ e - x| := by
  obtain ⟨k, hk⟩ := Int.le.dest hle
  have hmultiple : (m : ℚ) * 2 ^ e = (m * 2 ^ k : ℤ) * 2 ^ exponent p emin x := by
    rw [← hk, zpow_add₀ two_ne_zero, zpow_natCast]
    push_cast
    ring
  rw [hmultiple]
  exact roundTo_nearest_multiple _

/-- Nor to what lies on the other side of the leading power of two. -/
theorem roundTo_nearest_beyond (hfine : |y| ≤ 2 ^ (p - 1) * 2 ^ exponent p emin x)
    (hlead : 2 ^ (p - 1) * 2 ^ exponent p emin x ≤ |x|) :
    |roundTo p emin x - x| ≤ |y - x| := by
  obtain ⟨hlow, hhigh⟩ := abs_le.mp hfine
  rcases le_total x 0 with hneg | hpos
  · have hnear := @roundTo_nearest_multiple p emin x (-2 ^ (p - 1))
    rw [abs_of_nonpos hneg] at hlead
    push_cast at hnear
    refine hnear.trans ?_
    rw [abs_of_nonneg (by linarith)]
    exact le_trans (by linarith) (le_abs_self _)
  · have hnear := @roundTo_nearest_multiple p emin x (2 ^ (p - 1))
    rw [abs_of_nonneg hpos] at hlead
    push_cast at hnear
    refine hnear.trans ?_
    rw [abs_of_nonpos (by linarith)]
    exact le_trans (by linarith) (neg_le_abs _)

/-- **It rounds to the nearest.** -/
theorem nearest_roundTo (hp : 0 < p) (emin : ℤ) : Nearest (floats p emin) (roundTo p emin) where
  mem x := by
    refine ⟨roundEven (x / 2 ^ exponent p emin x), exponent p emin x, ?_, le_max_right _ _, rfl⟩
    have hbits : |x / 2 ^ exponent p emin x| ≤ 2 ^ p := abs_div_le
    obtain ⟨hlow, hhigh⟩ := abs_le.mp hbits
    have hle := nearest_roundEven.le_of_le ⟨2 ^ p, by push_cast; rfl⟩ hhigh
    have hge := nearest_roundEven.ge_of_ge ⟨-2 ^ p, by push_cast; rfl⟩ hlow
    exact abs_le.mpr ⟨by exact_mod_cast hge, by exact_mod_cast hle⟩
  nearest x y hy := by
    obtain ⟨m, e, hm, he, rfl⟩ := hy
    rcases eq_or_ne x 0 with rfl | hx
    · have hzero : roundTo p emin 0 = 0 := by simp [roundTo, roundEven]
      rw [hzero, sub_self, abs_zero]
      exact abs_nonneg _
    rcases le_or_gt (exponent p emin x) e with hle | hlt
    · exact roundTo_nearest_coarser m hle
    · exact roundTo_nearest_beyond (abs_le_of_exponent_lt hp ⟨m, hm, rfl⟩ hlt)
        (leading_le_abs hp hx (he.trans_lt hlt))

end Rounding
