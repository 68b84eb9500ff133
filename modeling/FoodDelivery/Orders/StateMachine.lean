import Mathlib.Data.List.Basic
import Mathlib.Data.Fintype.Basic

/-!
# The order state machine

`orders/order-state-machine.ts` and `orders/schemas/order-status.ts`: the
lifecycle graph of an order, and the parts of it that a seller and a rider can
trigger.  `canTransition_of_canOwnerTransition` and
`canTransition_of_canRiderTransition` say both are parts of the graph.
-/

namespace FoodDelivery

inductive OrderStatus
  | pendingPayment
  | placed
  | acceptedByRestaurant
  | preparing
  | readyForPickup
  | assignedToRider
  | pickedUp
  | outForDelivery
  | delivered
  | cancelled
  | refunded
  deriving DecidableEq, Repr

/-- The stored value, as error messages print it. -/
def OrderStatus.name : OrderStatus → String
  | .pendingPayment => "PENDING_PAYMENT"
  | .placed => "PLACED"
  | .acceptedByRestaurant => "ACCEPTED_BY_RESTAURANT"
  | .preparing => "PREPARING"
  | .readyForPickup => "READY_FOR_PICKUP"
  | .assignedToRider => "ASSIGNED_TO_RIDER"
  | .pickedUp => "PICKED_UP"
  | .outForDelivery => "OUT_FOR_DELIVERY"
  | .delivered => "DELIVERED"
  | .cancelled => "CANCELLED"
  | .refunded => "REFUNDED"

/-- `ORDER_STATUSES`. -/
def orderStatuses : List OrderStatus :=
  [.pendingPayment, .placed, .acceptedByRestaurant, .preparing, .readyForPickup, .assignedToRider,
    .pickedUp, .outForDelivery, .delivered, .cancelled, .refunded]

instance : Fintype OrderStatus := Fintype.ofList orderStatuses fun s => by cases s <;> decide

inductive OrderPaymentStatus
  | pending
  | succeeded
  | failed
  | refunded
  deriving DecidableEq, Repr

open OrderStatus

/-- `ORDER_TRANSITIONS`. -/
def orderTransitions : OrderStatus → List OrderStatus
  | pendingPayment => [placed, cancelled]
  | placed => [acceptedByRestaurant, cancelled]
  | acceptedByRestaurant => [preparing, cancelled]
  | preparing => [readyForPickup, cancelled]
  | readyForPickup => [assignedToRider, cancelled]
  | assignedToRider => [pickedUp, cancelled]
  | pickedUp => [outForDelivery]
  | outForDelivery => [delivered]
  | delivered => [refunded]
  | cancelled => [refunded]
  | refunded => []

/-- `OWNER_TRIGGERABLE_TRANSITIONS`. -/
def ownerTriggerableTransitions : OrderStatus → List OrderStatus
  | placed => [acceptedByRestaurant, cancelled]
  | acceptedByRestaurant => [preparing, cancelled]
  | preparing => [readyForPickup, cancelled]
  | _ => []

/-- `RIDER_TRIGGERABLE_TRANSITIONS`. -/
def riderTriggerableTransitions : OrderStatus → List OrderStatus
  | assignedToRider => [pickedUp]
  | pickedUp => [outForDelivery]
  | outForDelivery => [delivered]
  | _ => []

def canTransition (src tgt : OrderStatus) : Bool := (orderTransitions src).contains tgt

def canOwnerTransition (src tgt : OrderStatus) : Bool :=
  (ownerTriggerableTransitions src).contains tgt

def canRiderTransition (src tgt : OrderStatus) : Bool :=
  (riderTriggerableTransitions src).contains tgt

/-- `REFUNDABLE_STATUSES`. -/
def refundableStatuses : List OrderStatus := [delivered, cancelled]

theorem canTransition_of_canOwnerTransition :
    ∀ s t, canOwnerTransition s t = true → canTransition s t = true := by decide

theorem canTransition_of_canRiderTransition :
    ∀ s t, canRiderTransition s t = true → canTransition s t = true := by decide

/-- Nothing leaves `REFUNDED`. -/
theorem canTransition_refunded (t : OrderStatus) : canTransition refunded t = false := by
  cases t <;> rfl

theorem canTransition_to_refunded :
    ∀ s ∈ refundableStatuses, canTransition s refunded = true := by decide

/-- What follows a refundable status is `REFUNDED`. -/
theorem eq_refunded_of_canTransition :
    ∀ s ∈ refundableStatuses, ∀ t, canTransition s t = true → t = refunded := by decide

theorem canOwnerTransition_tgt :
    ∀ s t, canOwnerTransition s t = true →
      t = acceptedByRestaurant ∨ t = preparing ∨ t = readyForPickup ∨ t = cancelled := by decide

theorem canRiderTransition_tgt :
    ∀ s t, canRiderTransition s t = true →
      t = pickedUp ∨ t = outForDelivery ∨ t = delivered := by decide

end FoodDelivery
