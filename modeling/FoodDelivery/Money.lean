import FoodDelivery.Lib.Rounding
import Mathlib.Data.Rat.Floor
import Mathlib.Tactic.Linarith
import Mathlib.Tactic.NormNum
import Mathlib.Tactic.Positivity
import Mathlib.Tactic.FieldSimp
import Mathlib.Tactic.Ring

/-!
# Amounts of money

Amounts are exact rationals in major currency units, rounded the way the
services round them: `round2` is `OrdersService`'s and `PayoutsService`'s helper
and `mathRound` is `Math.round`.  `round2_of_isCents` says rounding leaves whole
cents alone, so sums, differences and minima of stored amounts are never
changed by it.  A `Price` is an amount an order document can hold.

Where the code compares sums that need not be whole cents of its own, `toNumber` is the number that
it holds for an exact value.
-/

namespace FoodDelivery

/-- `Number.EPSILON`. -/
def EPSILON : ℚ := 1 / 2 ^ 52

/-- `Math.round`: to the nearest integer, halves up. -/
def mathRound (x : ℚ) : ℤ := ⌊x + 1 / 2⌋

def round2 (value : ℚ) : ℚ := mathRound ((value + EPSILON) * 100) / 100

/-- A whole number of cents. -/
def IsCents (x : ℚ) : Prop := ∃ n : ℤ, x = n / 100

theorem isCents_intDiv (n : ℤ) : IsCents (n / 100) := ⟨n, rfl⟩

theorem IsCents.add {x y : ℚ} (hx : IsCents x) (hy : IsCents y) : IsCents (x + y) := by
  obtain ⟨n, rfl⟩ := hx
  obtain ⟨m, rfl⟩ := hy
  exact ⟨n + m, by push_cast; ring⟩

theorem IsCents.sub {x y : ℚ} (hx : IsCents x) (hy : IsCents y) : IsCents (x - y) := by
  obtain ⟨n, rfl⟩ := hx
  obtain ⟨m, rfl⟩ := hy
  exact ⟨n - m, by push_cast; ring⟩

theorem IsCents.min {x y : ℚ} (hx : IsCents x) (hy : IsCents y) : IsCents (min x y) := by
  rcases min_choice x y with h | h <;> rw [h] <;> assumption

theorem isCents_round2 (x : ℚ) : IsCents (round2 x) := ⟨_, rfl⟩

theorem mathRound_intCast (n : ℤ) : mathRound n = n := by
  rw [mathRound, Int.floor_eq_iff]
  constructor <;> norm_num

/-- **Rounding leaves whole cents alone.** -/
theorem round2_of_isCents {x : ℚ} (h : IsCents x) : round2 x = x := by
  obtain ⟨n, rfl⟩ := h
  have hround : mathRound (((n : ℚ) / 100 + EPSILON) * 100) = n := by
    rw [mathRound, Int.floor_eq_iff, EPSILON]
    constructor <;> ring_nf <;> linarith
  rw [round2, hround]

theorem round2_mono {x y : ℚ} (h : x ≤ y) : round2 x ≤ round2 y := by
  have hfloor : mathRound ((x + EPSILON) * 100) ≤ mathRound ((y + EPSILON) * 100) :=
    Int.floor_le_floor (by linarith)
  rw [round2, round2]
  have hcast : (mathRound ((x + EPSILON) * 100) : ℚ) ≤ mathRound ((y + EPSILON) * 100) := by
    exact_mod_cast hfloor
  linarith

theorem round2_nonneg {x : ℚ} (h : 0 ≤ x) : 0 ≤ round2 x := by
  have hzero : round2 0 = 0 := round2_of_isCents ⟨0, by norm_num⟩
  rw [← hzero]
  exact round2_mono h

/-- **Whole cents may be added before rounding or after.** -/
theorem round2_add_of_isCents (x : ℚ) {y : ℚ} (hy : IsCents y) :
    round2 (x + y) = round2 x + y := by
  obtain ⟨n, rfl⟩ := hy
  have hround : mathRound ((x + n / 100 + EPSILON) * 100) =
      mathRound ((x + EPSILON) * 100) + n := by
    rw [mathRound, mathRound, ← Int.floor_add_intCast]
    congr 1
    ring
  rw [round2, round2, hround]
  push_cast
  ring

/-- `Math.round(x * 100) / 100` on whole cents. -/
theorem mathRound_mul_100 {x : ℚ} (h : IsCents x) : (mathRound (x * 100) : ℚ) / 100 = x := by
  obtain ⟨n, rfl⟩ := h
  rw [div_mul_cancel₀ _ (by norm_num : (100 : ℚ) ≠ 0), mathRound_intCast]

/-- The JavaScript number nearest to a value: 53 bits, in multiples of `2 ^ -1074`.  Nothing that
overflows is meant. -/
def toNumber (x : ℚ) : ℚ := Rounding.roundTo 53 (-1074) x

theorem nearest_toNumber : Rounding.Nearest (Rounding.floats 53 (-1074)) toNumber :=
  Rounding.nearest_roundTo (by norm_num) _

theorem toNumber_mono {x y : ℚ} (h : x ≤ y) : toNumber x ≤ toNumber y := nearest_toNumber.monotone h

/-- **Taking a positive number away makes none greater**, in the numbers of the code. -/
theorem toNumber_sub_le {x y : ℚ} (h : 0 ≤ y) :
    toNumber (toNumber x - toNumber y) ≤ toNumber x := by
  have hzero : (0 : ℚ) ∈ Rounding.floats 53 (-1074) := ⟨0, 0, by norm_num, by norm_num, by norm_num⟩
  refine nearest_toNumber.le_of_le (nearest_toNumber.mem x) ?_
  exact sub_le_self _ (nearest_toNumber.ge_of_ge hzero h)

/-- What a money field of an order holds: the schema's `min: 0`, and a value
`createRestaurantOrder`/`createStoreOrder` rounded with `round2`. -/
structure Price where
  val : ℚ
  nonneg : 0 ≤ val
  cents : IsCents val

instance : DecidableEq Price := fun a b =>
  decidable_of_iff (a.val = b.val) ⟨fun h => by cases a; cases b; cases h; rfl, fun h => h ▸ rfl⟩

/-- A price given in cents. -/
def Price.ofCents (n : ℕ) : Price where
  val := (n : ℤ) / 100
  nonneg := by positivity
  cents := isCents_intDiv n

end FoodDelivery
