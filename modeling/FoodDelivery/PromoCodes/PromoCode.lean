import FoodDelivery.Orders.Order
import Mathlib.Data.NNRat.Defs

/-!
# Promo codes

`promo-codes/schemas/promo-code.schema.ts`, the two DTOs, and what `PromoCodesService` makes of
one document.  The paths `restaurantId` and `storeId` hold whatever was written; the service reads
them through `toString()`, so the model keeps the id.

* `assign_eq_some`, `assign_eq_self_iff`: what an update leaves of a code.
* `discountAmount_bounds`: what a code may take off.
-/

namespace FoodDelivery

abbrev PromoCodeId := Nat

/-- `DISCOUNT_TYPES`. -/
inductive DiscountType
  | percentage
  | fixed
  deriving DecidableEq, Repr

@[ext] structure PromoCode where
  code : String
  discountType : DiscountType
  discountValue : ℚ≥0
  minOrderAmount : Option ℚ≥0
  maxDiscountAmount : Option ℚ≥0
  restaurantId : Option VendorId
  storeId : Option VendorId
  expiresAt : Option Time
  isActive : Option Bool
  usageLimit : Option Nat
  usedCount : Nat
  deriving DecidableEq

/-- `CreatePromoCodeDto`.  `code` is what the schema's setters, `trim` and `uppercase`, make of
it. -/
structure CreatePromoCodeDto where
  code : String
  discountType : DiscountType
  discountValue : ℚ≥0
  minOrderAmount : Given ℚ≥0
  maxDiscountAmount : Given ℚ≥0
  restaurantId : Given VendorId
  storeId : Given VendorId
  expiresAt : Given Time
  isActive : Given Bool
  usageLimit : Given Nat
  deriving DecidableEq

/-- `UpdatePromoCodeDto`, a `PartialType`: every field is optional. -/
structure UpdatePromoCodeDto where
  code : Given String
  discountType : Given DiscountType
  discountValue : Given ℚ≥0
  minOrderAmount : Given ℚ≥0
  maxDiscountAmount : Given ℚ≥0
  restaurantId : Given VendorId
  storeId : Given VendorId
  expiresAt : Given Time
  isActive : Given Bool
  usageLimit : Given Nat
  deriving DecidableEq

/-- `PromoCodeValidation`. -/
inductive PromoCodeValidation
  | valid (promoCodeId : PromoCodeId) (discountAmount : ℚ)
  | invalid (reason : String) (minOrderAmount : Option ℚ≥0)
  deriving DecidableEq

/-- Nothing given. -/
def UpdatePromoCodeDto.empty : UpdatePromoCodeDto :=
  ⟨.absent, .absent, .absent, .absent, .absent, .absent, .absent, .absent, .absent, .absent⟩

namespace PromoCode

/-- Neither a restaurant's code nor a store's. -/
def platformWide (p : PromoCode) : Bool := p.restaurantId.isNone && p.storeId.isNone

/-- What `create` inserts. -/
def created (dto : CreatePromoCodeDto) : PromoCode where
  code := dto.code
  discountType := dto.discountType
  discountValue := dto.discountValue
  minOrderAmount := dto.minOrderAmount.orDefault (some 0)
  maxDiscountAmount := dto.maxDiscountAmount.orDefault none
  restaurantId := dto.restaurantId.orDefault none
  storeId := dto.storeId.orDefault none
  expiresAt := dto.expiresAt.orDefault none
  isActive := dto.isActive.orDefault (some true)
  usageLimit := dto.usageLimit.orDefault none
  usedCount := 0

/-- `Object.assign(promo, dto)` and the validators of `save()`: `code`, `discountType` and
`discountValue` are required. -/
def assign (p : PromoCode) (dto : UpdatePromoCodeDto) : Option PromoCode := do
  let code ← (dto.code.onto (some p.code)).filter (· ≠ "")
  let discountType ← dto.discountType.onto (some p.discountType)
  let discountValue ← dto.discountValue.onto (some p.discountValue)
  return {
    code := code
    discountType := discountType
    discountValue := discountValue
    minOrderAmount := dto.minOrderAmount.onto p.minOrderAmount
    maxDiscountAmount := dto.maxDiscountAmount.onto p.maxDiscountAmount
    restaurantId := dto.restaurantId.onto p.restaurantId
    storeId := dto.storeId.onto p.storeId
    expiresAt := dto.expiresAt.onto p.expiresAt
    isActive := dto.isActive.onto p.isActive
    usageLimit := dto.usageLimit.onto p.usageLimit
    usedCount := p.usedCount }

/-- The update of `redeem`. -/
def redeem (p : PromoCode) : PromoCode :=
  if p.usageLimit.all (p.usedCount < ·) then { p with usedCount := p.usedCount + 1 } else p

/-- The checks of `validate` on the code's seller. -/
def validFor (p : PromoCode) (seller : Seller) : Option String :=
  if p.restaurantId.any (Seller.restaurant · ≠ seller) then
    some "This promo code is not valid for this restaurant"
  else if p.storeId.any (Seller.store · ≠ seller) then
    some "This promo code is not valid for this store"
  else none

def rawDiscount (p : PromoCode) (subtotal : ℚ) : ℚ :=
  match p.discountType with
  | .percentage => subtotal * p.discountValue / 100
  | .fixed => p.discountValue

def discountAmount (p : PromoCode) (subtotal : ℚ) : ℚ :=
  let raw := p.rawDiscount subtotal
  min (min raw ((p.maxDiscountAmount.map (↑)).getD raw)) subtotal

/-- `validate`, on the code that was found. -/
def validate (p : PromoCode) (id : PromoCodeId) (now : Time) (seller : Seller) (subtotal : ℚ) :
    PromoCodeValidation :=
  if p.isActive ≠ some true then .invalid "This promo code is no longer active" none
  else if p.expiresAt.any (· < now) then .invalid "This promo code has expired" none
  else
    match p.validFor seller with
    | some reason => .invalid reason none
    | none =>
      if subtotal < (p.minOrderAmount.getD 0 : ℚ≥0) then
        .invalid "This promo code requires a higher minimum order" p.minOrderAmount
      else if p.usageLimit.any (· ≤ p.usedCount) then
        .invalid "This promo code has reached its usage limit" none
      else .valid id (p.discountAmount subtotal)

end PromoCode

namespace UpdatePromoCodeDto

/-- The validators of `save()` accept what the body assigns. -/
def accepted (dto : UpdatePromoCodeDto) (p : PromoCode) : Bool :=
  (dto.code.onto (some p.code)).any (· ≠ "") && (dto.discountType ≠ .null &&
    dto.discountValue ≠ .null)

/-- Every field that is given is as the code has it. -/
def leaves (dto : UpdatePromoCodeDto) (p : PromoCode) : Bool :=
  dto.code.leaves (some p.code) && (dto.discountType.leaves (some p.discountType) &&
  (dto.discountValue.leaves (some p.discountValue) &&
  (dto.minOrderAmount.leaves p.minOrderAmount &&
  (dto.maxDiscountAmount.leaves p.maxDiscountAmount && (dto.restaurantId.leaves p.restaurantId &&
  (dto.storeId.leaves p.storeId && (dto.expiresAt.leaves p.expiresAt &&
  (dto.isActive.leaves p.isActive && dto.usageLimit.leaves p.usageLimit))))))))

end UpdatePromoCodeDto

namespace PromoCode

variable {p p' : PromoCode} {dto : UpdatePromoCodeDto}

/-- **What an update leaves of a code.** -/
theorem assign_eq_some (h : p.assign dto = some p') :
    dto.code.onto (some p.code) = some p'.code ∧
    dto.discountType.onto (some p.discountType) = some p'.discountType ∧
    dto.discountValue.onto (some p.discountValue) = some p'.discountValue ∧
    p' = ⟨p'.code, p'.discountType, p'.discountValue, dto.minOrderAmount.onto p.minOrderAmount,
      dto.maxDiscountAmount.onto p.maxDiscountAmount, dto.restaurantId.onto p.restaurantId,
      dto.storeId.onto p.storeId, dto.expiresAt.onto p.expiresAt, dto.isActive.onto p.isActive,
      dto.usageLimit.onto p.usageLimit, p.usedCount⟩ := by
  simp only [assign, Option.bind_eq_bind, Option.bind_eq_some_iff, Option.pure_def,
    Option.some.injEq] at h
  obtain ⟨code, hcode, discountType, htype, discountValue, hvalue, rfl⟩ := h
  exact ⟨(Option.filter_eq_some_iff.mp hcode).1, htype, hvalue, rfl⟩

theorem isSome_assign (p : PromoCode) (dto : UpdatePromoCodeDto) :
    (p.assign dto).isSome = dto.accepted p := by
  unfold assign UpdatePromoCodeDto.accepted
  cases dto.code <;> cases dto.discountType <;> cases dto.discountValue <;>
    simp [Given.onto, Option.filter] <;> split <;> simp_all

/-- **An update leaves the code as it is exactly when every field given is as the code has
it.** -/
theorem assign_eq_self_iff (h : p.assign dto = some p') : p' = p ↔ dto.leaves p = true := by
  obtain ⟨hcode, htype, hvalue, hp'⟩ := assign_eq_some h
  simp only [UpdatePromoCodeDto.leaves, Given.leaves, Bool.and_eq_true, decide_eq_true_eq, hcode,
    htype, hvalue, Option.some.injEq]
  constructor
  · intro he
    rw [PromoCode.ext_iff] at hp'
    simp only [he] at hp' ⊢
    tauto
  · rintro ⟨hc, ht, hv, hmin, hmax, hr, hst, hexp, hact, hlim⟩
    rw [hp', hc, ht, hv, hmin, hmax, hr, hst, hexp, hact, hlim]

/-! ## Discounts -/

theorem rawDiscount_nonneg (p : PromoCode) {subtotal : ℚ} (h : 0 ≤ subtotal) :
    0 ≤ p.rawDiscount subtotal := by
  unfold rawDiscount
  split
  · positivity
  · exact p.discountValue.2

/-- **A discount is no less than nothing, and no more than the subtotal.** -/
theorem discountAmount_bounds (p : PromoCode) {subtotal : ℚ} (h : 0 ≤ subtotal) :
    0 ≤ p.discountAmount subtotal ∧ p.discountAmount subtotal ≤ subtotal := by
  have hraw := p.rawDiscount_nonneg h
  have hcap : 0 ≤ (p.maxDiscountAmount.map (↑)).getD (p.rawDiscount subtotal) := by
    cases p.maxDiscountAmount with
    | none => exact hraw
    | some cap => exact cap.2
  exact ⟨le_min (le_min hraw hcap) h, min_le_right _ _⟩

theorem discountAmount_of_validate {p : PromoCode} {id id' : PromoCodeId} {now : Time}
    {seller : Seller} {subtotal amount : ℚ}
    (h : p.validate id now seller subtotal = .valid id' amount) :
    amount = p.discountAmount subtotal := by
  unfold validate at h
  repeat' split at h
  all_goals cases h
  rfl

end PromoCode

end FoodDelivery
