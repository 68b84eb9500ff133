import FoodDelivery.Common
import FoodDelivery.Money
import FoodDelivery.Orders.StateMachine

/-!
# Order documents

`orders/schemas/order.schema.ts`, and the writes `OrdersService` makes to one
order.  A write that is a single `findOneAndUpdate` is a function to `Option`:
`none` when its filter does not match.  A write that is a `save()` is a function
of the stored document that changes only the paths the service modified.

Of the schema's fields those are kept that some operation here, the payout batch
or the refund flow reads.
-/

namespace FoodDelivery

/-- Who caused a status change: a user, `'system'` or `'admin'`. -/
inductive Actor
  | user (id : UserId)
  | system
  | admin
  deriving DecidableEq, Repr

/-- `StatusHistoryEntry`; `time` and `actor` are its `at` and `by`. -/
structure StatusHistoryEntry where
  status : OrderStatus
  time : Time
  actor : Actor
  deriving DecidableEq, Repr

inductive SellerType
  | restaurant
  | store
  deriving DecidableEq, Repr

/-- `sellerType` with the one of `restaurantId`/`storeId` that matches it: the
schema's "exactly one of restaurantId/storeId is set, matching this value". -/
inductive Seller
  | restaurant (restaurantId : VendorId)
  | store (storeId : VendorId)
  deriving DecidableEq, Repr

def Seller.sellerType : Seller → SellerType
  | .restaurant _ => .restaurant
  | .store _ => .store

def Seller.vendorId : Seller → VendorId
  | .restaurant id => id
  | .store id => id

structure Order where
  seller : Seller
  riderId : Option UserId
  deliveryFee : Price
  total : Price
  restaurantPayoutAmount : Price
  vendorPayoutId : Option PayoutId
  riderPayoutId : Option PayoutId
  settledViaInstantSplit : Bool
  currency : String
  status : OrderStatus
  statusHistory : List StatusHistoryEntry
  paymentProvider : PaymentProvider
  paymentStatus : OrderPaymentStatus
  paymentRef : Option String
  paymentRefs : List String
  readyForPickupAt : Option Time
  deliveredAt : Option Time
  refundReconciliationRequired : Bool
  refundFailureReason : Option String
  disputeFlagged : Bool
  deriving DecidableEq

namespace Order

/-- What `createRestaurantOrder`/`createStoreOrder` insert: everything not given
is the schema's default. -/
def created (seller : Seller) (customer : UserId) (now : Time) (currency : String)
    (paymentProvider : PaymentProvider) (deliveryFee total restaurantPayoutAmount : Price) :
    Order where
  seller := seller
  riderId := none
  deliveryFee := deliveryFee
  total := total
  restaurantPayoutAmount := restaurantPayoutAmount
  vendorPayoutId := none
  riderPayoutId := none
  settledViaInstantSplit := false
  currency := currency
  status := .pendingPayment
  statusHistory := [⟨.pendingPayment, now, .user customer⟩]
  paymentProvider := paymentProvider
  paymentStatus := .pending
  paymentRef := none
  paymentRefs := []
  readyForPickupAt := none
  deliveredAt := none
  refundReconciliationRequired := false
  refundFailureReason := none
  disputeFlagged := false

/-- The statuses of the history, oldest first. -/
def statuses (o : Order) : List OrderStatus := o.statusHistory.map (·.status)

/-- `order.statusHistory.push(..)`. -/
def pushHistory (o : Order) (status : OrderStatus) (now : Time) (actor : Actor) : Order :=
  { o with statusHistory := o.statusHistory ++ [⟨status, now, actor⟩] }

/-! ## Payment -/

/-- The `save()` of `setPaymentRef`. -/
def setPaymentRef (o : Order) (provider : PaymentProvider) (paymentRef : String)
    (settledViaInstantSplit : Bool) : Order :=
  { o with
    paymentProvider := provider
    paymentRef := some paymentRef
    paymentRefs := o.paymentRefs ++ [paymentRef]
    settledViaInstantSplit := settledViaInstantSplit }

/-- The filter of `findByPaymentRef`. -/
def matchesPaymentRef (o : Order) (reference : String) : Bool :=
  o.paymentRefs.contains reference || o.paymentRef == some reference

/-- The `findOneAndUpdate` of `markPaidFromWebhook`. -/
def markPaidFromWebhook (o : Order) (now : Time) : Option Order :=
  if o.status = .pendingPayment then
    some ({ o with paymentStatus := .succeeded, status := .placed }.pushHistory .placed now .system)
  else none

/-- `markPaymentFailed` stops at a payment that is already final. -/
def paymentIsFinal (o : Order) : Bool :=
  o.paymentStatus = .succeeded || o.paymentStatus = .refunded

/-- The `save()` of `markPaymentFailed`. -/
def savePaymentFailed (o : Order) : Order := { o with paymentStatus := .failed }

/-! ## Seller and rider progress -/

/-- The `save()` of `applyOwnerTransition`. -/
def saveOwnerTransition (o : Order) (targetStatus : OrderStatus) (requester : UserId)
    (now : Time) : Order :=
  let o := { o with status := targetStatus }.pushHistory targetStatus now (.user requester)
  if targetStatus = .readyForPickup then { o with readyForPickupAt := some now } else o

/-- The `save()` of `updateStatusByRider`. -/
def saveRiderTransition (o : Order) (targetStatus : OrderStatus) (riderUserId : UserId)
    (now : Time) : Order :=
  let o := { o with status := targetStatus }.pushHistory targetStatus now (.user riderUserId)
  if targetStatus = .delivered then { o with deliveredAt := some now } else o

/-- The `findOneAndUpdate` of `assignToRider`. -/
def assignToRider (o : Order) (riderUserId : UserId) (now : Time) : Option Order :=
  if o.status = .readyForPickup ∧ o.riderId = none then
    some ({ o with riderId := some riderUserId, status := .assignedToRider }.pushHistory
      .assignedToRider now (.user riderUserId))
  else none

/-- The `findOneAndUpdate` with which `assignRiderByOwner` moves an assigned
order to another rider. -/
def reassignRider (o : Order) (riderUserId requester : UserId) (now : Time) : Option Order :=
  if o.status = .assignedToRider then
    some ({ o with riderId := some riderUserId }.pushHistory .assignedToRider now (.user requester))
  else none

/-! ## Refunds and disputes -/

/-- The `findOneAndUpdate` of `claimForRefund`.  The caller gets the document as
it was before. -/
def claimForRefund (o : Order) : Option Order :=
  if o.status ∈ refundableStatuses ∧ o.paymentStatus = .succeeded ∧
      o.refundReconciliationRequired = false then
    some { o with status := .refunded }
  else none

/-- The `save()` of `finalizeRefund`. -/
def saveFinalizedRefund (o : Order) (now : Time) : Order :=
  { o with paymentStatus := .refunded }.pushHistory .refunded now .admin

/-- The `updateOne` of `revertFailedRefundClaim`. -/
def revertFailedRefundClaim (o : Order) (previousStatus : OrderStatus) : Option Order :=
  if o.status = .refunded ∧ o.paymentStatus = .succeeded then
    some { o with status := previousStatus }
  else none

/-- The `findOneAndUpdate` of `flagAmbiguousRefund`. -/
def flagAmbiguousRefund (o : Order) (previousStatus : OrderStatus) (reason : String) :
    Option Order :=
  if o.status = .refunded ∧ o.paymentStatus = .succeeded then
    some { o with
      status := previousStatus
      refundReconciliationRequired := true
      refundFailureReason := some reason }
  else none

/-- The `save()` with which `resolveRefundReconciliation(false)` clears the flag. -/
def saveRefundFlagCleared (o : Order) : Order :=
  { o with refundReconciliationRequired := false, refundFailureReason := none }

/-- The `findOneAndUpdate` with which `resolveRefundReconciliation(true)` claims
the order. -/
def claimReconciledRefund (o : Order) : Option Order :=
  if o.refundReconciliationRequired = true then
    some { o with
      status := .refunded
      refundReconciliationRequired := false
      refundFailureReason := none }
  else none

/-- The `findOneAndUpdate` of `flagDispute`. -/
def flagDispute (o : Order) : Order := { o with disputeFlagged := true }

/-- The filter of `findNeedingRefundAttention`. -/
def needsRefundAttention (o : Order) : Bool :=
  (o.status = .cancelled && o.paymentStatus = .succeeded) || o.refundReconciliationRequired

/-! ## When the guarded writes go through -/

section Guards

variable {o o' : Order}

theorem claimForRefund_eq_some :
    o.claimForRefund = some o' ↔
      (o.status ∈ refundableStatuses ∧ o.paymentStatus = .succeeded ∧
        o.refundReconciliationRequired = false) ∧ o' = { o with status := .refunded } := by
  rw [claimForRefund, Option.ite_none_right_eq_some, Option.some.injEq, eq_comm (b := o')]

theorem revertFailedRefundClaim_eq_some {prev : OrderStatus} :
    o.revertFailedRefundClaim prev = some o' ↔
      (o.status = .refunded ∧ o.paymentStatus = .succeeded) ∧ o' = { o with status := prev } := by
  rw [revertFailedRefundClaim, Option.ite_none_right_eq_some, Option.some.injEq, eq_comm (b := o')]

theorem flagAmbiguousRefund_eq_some {prev : OrderStatus} {reason : String} :
    o.flagAmbiguousRefund prev reason = some o' ↔
      (o.status = .refunded ∧ o.paymentStatus = .succeeded) ∧
        o' = { o with
          status := prev
          refundReconciliationRequired := true
          refundFailureReason := some reason } := by
  rw [flagAmbiguousRefund, Option.ite_none_right_eq_some, Option.some.injEq, eq_comm (b := o')]

theorem claimReconciledRefund_eq_some :
    o.claimReconciledRefund = some o' ↔
      o.refundReconciliationRequired = true ∧
        o' = { o with
          status := .refunded
          refundReconciliationRequired := false
          refundFailureReason := none } := by
  rw [claimReconciledRefund, Option.ite_none_right_eq_some, Option.some.injEq, eq_comm (b := o')]

end Guards

end Order

end FoodDelivery
