import FoodDelivery.Orders.Order

/-!
# Payout and clawback documents

`payouts/schemas/payout.schema.ts`, `payouts/schemas/payout-clawback.schema.ts`
and `common/schemas/payout-account.schema.ts`, with the writes the payout
services make to one document.  `Payout.retryCount` is written by nobody and
left out.
-/

namespace FoodDelivery

/-- `PAYOUT_VENDOR_TYPES`. -/
inductive PayoutVendorType
  | restaurant
  | store
  | rider
  deriving DecidableEq, Repr

def PayoutVendorType.name : PayoutVendorType → String
  | .restaurant => "restaurant"
  | .store => "store"
  | .rider => "rider"

def SellerType.payoutVendorType : SellerType → PayoutVendorType
  | .restaurant => .restaurant
  | .store => .store

/-- `PAYOUT_STATUSES`. -/
inductive PayoutStatus
  | pending
  | processing
  | succeeded
  | failed
  deriving DecidableEq, Repr

/-- The order field in which a payout claims an order. -/
inductive ClaimField
  | vendorPayoutId
  | riderPayoutId
  deriving DecidableEq, Repr

/-- The field a payout of this type claims orders in, as `processVendor`,
`processRider` and `resolveReconciliation` choose it. -/
def PayoutVendorType.claimField : PayoutVendorType → ClaimField
  | .rider => .riderPayoutId
  | _ => .vendorPayoutId

namespace Order

def claim (o : Order) : ClaimField → Option PayoutId
  | .vendorPayoutId => o.vendorPayoutId
  | .riderPayoutId => o.riderPayoutId

def setClaim (o : Order) (f : ClaimField) (p : Option PayoutId) : Order :=
  match f with
  | .vendorPayoutId => { o with vendorPayoutId := p }
  | .riderPayoutId => { o with riderPayoutId := p }

@[simp] theorem claim_setClaim_self (o : Order) (f : ClaimField) (p : Option PayoutId) :
    (o.setClaim f p).claim f = p := by cases f <;> rfl

theorem claim_setClaim_ne (o : Order) {f g : ClaimField} (p : Option PayoutId) (h : f ≠ g) :
    (o.setClaim f p).claim g = o.claim g := by
  cases f <;> cases g <;> first | rfl | exact absurd rfl h

/-- What is left of an order when its claims are struck out. -/
def withoutClaims (o : Order) : Order := { o with vendorPayoutId := none, riderPayoutId := none }

theorem withoutClaims_setClaim (o : Order) (f : ClaimField) (p : Option PayoutId) :
    (o.setClaim f p).withoutClaims = o.withoutClaims := by cases f <;> rfl

theorem fields_of_withoutClaims {o o' : Order} (h : o'.withoutClaims = o.withoutClaims) :
    o'.status = o.status ∧ o'.paymentStatus = o.paymentStatus ∧
      o'.refundReconciliationRequired = o.refundReconciliationRequired ∧
      o'.restaurantPayoutAmount = o.restaurantPayoutAmount := by
  cases o
  cases o'
  simp only [withoutClaims, mk.injEq] at h
  grind

end Order

/-- One entry of `clawbackConsumption`. -/
structure Consumption where
  clawbackId : ClawbackId
  amountConsumed : ℚ
  deriving DecidableEq

/-- `PAYOUT_ACCOUNT_STATUSES`. -/
inductive PayoutAccountStatus
  | pending
  | active
  deriving DecidableEq, Repr

structure PayoutAccount where
  provider : PaymentProvider
  status : PayoutAccountStatus
  reference : Option String
  bankCode : Option String
  accountNumber : Option String
  deriving DecidableEq, Repr

structure Payout where
  vendorType : PayoutVendorType
  vendorId : VendorId
  orderIds : List OrderId
  grossAmount : ℚ
  clawbackDeducted : ℚ
  clawbackConsumption : List Consumption
  currency : String
  provider : PaymentProvider
  payoutAccountReference : String
  status : PayoutStatus
  providerTransferReference : Option String
  failureReason : Option String
  reconciliationRequired : Bool
  reconciledAt : Option Time
  reconciledBy : Option UserId
  deriving DecidableEq

namespace Payout

def claimField (p : Payout) : ClaimField := p.vendorType.claimField

/-- The schema's validators that a value the services build could fail: a
`required` string may not be empty, and the amounts have `min: 0`. -/
def validates (p : Payout) : Bool :=
  p.payoutAccountReference != "" && decide (0 ≤ p.grossAmount) && decide (0 ≤ p.clawbackDeducted)

/-- How much of a clawback this payout's consumption names. -/
def consumes (p : Payout) (c : ClawbackId) : ℚ :=
  ((p.clawbackConsumption.filter fun e => e.clawbackId = c).map (·.amountConsumed)).sum

/-- The `save()` of `resolveReconciliation`.  `read` is the document as the call
found it: a path that was assigned the value it had is not written. -/
def saveResolved (stored read : Payout) (succeeded : Bool) (adminUserId : UserId) (now : Time) :
    Payout :=
  let status := if succeeded then .succeeded else .failed
  { stored with
    reconciliationRequired := false
    reconciledAt := some now
    reconciledBy := some adminUserId
    status := if read.status = status then stored.status else status }

end Payout

/-- `PAYOUT_CLAWBACK_STATUSES`. -/
inductive PayoutClawbackStatus
  | pending
  | fullyApplied
  deriving DecidableEq, Repr

structure PayoutClawback where
  vendorType : SellerType
  vendorId : VendorId
  orderId : OrderId
  originalPayoutId : PayoutId
  provider : PaymentProvider
  currency : String
  amount : ℚ
  remainingAmount : ℚ
  status : PayoutClawbackStatus
  deriving DecidableEq

namespace PayoutClawback

/-- What `recordVendorClawbackIfNeeded` inserts for a refunded order that
`payoutId` has claimed.  The schema's `uppercase` on `currency` changes nothing:
an order copies its currency from a restaurant or store, where it is uppercase
already. -/
def ofOrder (id : OrderId) (o : Order) (payoutId : PayoutId) : PayoutClawback where
  vendorType := o.seller.sellerType
  vendorId := o.seller.vendorId
  orderId := id
  originalPayoutId := payoutId
  provider := o.paymentProvider
  currency := o.currency
  amount := o.restaurantPayoutAmount.val
  remainingAmount := o.restaurantPayoutAmount.val
  status := .pending

/-- A clawback as it was recorded. -/
def recorded (c : PayoutClawback) : PayoutClawback :=
  { c with remainingAmount := c.amount, status := .pending }

theorem fields_of_recorded {c c' : PayoutClawback} (h : c'.recorded = c.recorded) :
    c'.orderId = c.orderId ∧ c'.amount = c.amount := by
  cases c
  cases c'
  simp only [recorded, mk.injEq] at h
  grind

/-- The remaining amount `applyClawbackConsumption` computes from the document
it read. -/
def remainingAfter (c : PayoutClawback) (amountConsumed : ℚ) : ℚ :=
  max 0 (mathRound ((c.remainingAmount - amountConsumed) * 100) / 100)

/-- The `save()` of `applyClawbackConsumption`. -/
def saveRemaining (stored : PayoutClawback) (remainingAmount : ℚ) : PayoutClawback :=
  { stored with
    remainingAmount := remainingAmount
    status := if remainingAmount ≤ 0 then .fullyApplied else stored.status }

/-- What is left of a clawback that still has the consumed amount. -/
theorem remainingAfter_eq {c : PayoutClawback} {a : ℚ} (hc : IsCents c.remainingAmount)
    (ha : IsCents a) (h : a ≤ c.remainingAmount) : c.remainingAfter a = c.remainingAmount - a := by
  rw [remainingAfter, mathRound_mul_100 (hc.sub ha), max_eq_right (sub_nonneg.mpr h)]

end PayoutClawback

end FoodDelivery
