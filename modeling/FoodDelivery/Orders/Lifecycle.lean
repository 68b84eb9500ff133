import FoodDelivery.Orders.Order

/-!
# Order operations outside the refund flow

The calls of `OrdersService` that move an order along, each run to its end on
the order it reads: the document it leaves, or the exception it throws.  What a
call reads beside the order (who owns the seller, whether a rider is verified)
is its `Directory`.

* `OrderCall.write_of_run`: a call makes one of a few writes, each where its
  checks allow it.
* `OrderWrite.progress`: none of them touches the claims or the amounts, moves an
  order that is delivered, cancelled or refunded, or takes a payment back.
-/

namespace FoodDelivery

inductive UserRole
  | customer
  | restaurantOwner
  | rider
  | admin
  deriving DecidableEq, Repr

structure AccessTokenPayload where
  sub : UserId
  role : UserRole
  deriving DecidableEq, Repr

/-- The restaurants', stores' and riders' collections as far as the order
operations read them; `none` when there is no such document. -/
structure Directory where
  ownerId : Seller → Option UserId
  riderIsVerified : UserId → Option Bool

def SellerType.name : SellerType → String
  | .restaurant => "restaurant"
  | .store => "store"

def SellerType.title : SellerType → String
  | .restaurant => "Restaurant"
  | .store => "Store"

/-- `assertOwnerOrAdmin` of `RestaurantsService` and of `StoresService`. -/
def assertOwnerOrAdmin (sellerType : SellerType) (ownerId : UserId)
    (requester : AccessTokenPayload) : Except HttpError Unit :=
  if requester.role = .admin ∨ ownerId = requester.sub then .ok ()
  else .error (.forbidden s!"You do not have permission to modify this {sellerType.name}")

namespace OrdersService

variable (dir : Directory) (now : Time)

/-- `assertOwnerAccessToOrder`, with `findByIdOrThrow` and `assertOwnerOrAdmin`
of `RestaurantsService` or `StoresService`. -/
def assertOwnerAccessToOrder (requester : AccessTokenPayload) (order : Order) :
    Except HttpError Unit :=
  match dir.ownerId order.seller with
  | none => .error (.notFound s!"{order.seller.sellerType.title} not found")
  | some ownerId =>
    if requester.role = .admin ∨ ownerId = requester.sub then .ok ()
    else .error
      (.forbidden s!"You do not have permission to modify this {order.seller.sellerType.name}")

def cannotMove (order : Order) (targetStatus : OrderStatus) : HttpError :=
  .badRequest s!"Cannot move an order from {order.status.name} to {targetStatus.name}"

/-- The checks of `updateStatusByOwner` and `applyOwnerTransition`. -/
def checkOwnerTransition (requester : AccessTokenPayload) (targetStatus : OrderStatus)
    (order : Order) : Except HttpError Unit := do
  assertOwnerAccessToOrder dir requester order
  if canOwnerTransition order.status targetStatus then .ok ()
  else .error (cannotMove order targetStatus)

def updateStatusByOwner (requester : AccessTokenPayload) (targetStatus : OrderStatus)
    (order : Order) : Except HttpError Order := do
  checkOwnerTransition dir requester targetStatus order
  return order.saveOwnerTransition targetStatus requester.sub now

/-- The checks of `updateStatusByRider`. -/
def checkRiderTransition (riderUserId : UserId) (targetStatus : OrderStatus) (order : Order) :
    Except HttpError Unit :=
  if order.riderId ≠ some riderUserId then
    .error (.forbidden "You are not the rider assigned to this order")
  else if canRiderTransition order.status targetStatus then .ok ()
  else .error (cannotMove order targetStatus)

def updateStatusByRider (riderUserId : UserId) (targetStatus : OrderStatus) (order : Order) :
    Except HttpError Order := do
  checkRiderTransition riderUserId targetStatus order
  return order.saveRiderTransition targetStatus riderUserId now

def assignToRider (riderUserId : UserId) (order : Order) : Except HttpError Order :=
  match order.assignToRider riderUserId now with
  | some updated => .ok updated
  | none => .error (.badRequest
      "This order was already picked up by another rider, or is no longer ready for pickup")

/-- What `assignRiderByOwner` decides on the order it read: a first assignment,
or a reassignment. -/
inductive RiderChoice
  | assign
  | reassign
  deriving DecidableEq, Repr

def chooseRider (requester : AccessTokenPayload) (riderUserId : UserId) (order : Order) :
    Except HttpError RiderChoice := do
  assertOwnerAccessToOrder dir requester order
  match dir.riderIsVerified riderUserId with
  | none => .error (.notFound "Rider not found")
  | some false =>
    .error (.badRequest "This rider is not verified yet and cannot be assigned an order")
  | some true =>
    if order.status = .readyForPickup ∧ order.riderId = none then .ok .assign
    else if order.status = .assignedToRider ∧ order.riderId ≠ none then
      if order.riderId = some riderUserId then
        .error (.badRequest "This rider is already assigned to this order")
      else .ok .reassign
    else .error (.badRequest "This order is not at a stage where a rider can be assigned")

/-- The write of `assignRiderByOwner` after its decision. -/
def applyRiderChoice (requester : AccessTokenPayload) (riderUserId : UserId) (order : Order) :
    RiderChoice → Except HttpError Order
  | .assign => assignToRider now riderUserId order
  | .reassign =>
    match order.reassignRider riderUserId requester.sub now with
    | some updated => .ok updated
    | none => .error (.badRequest "This order has moved on and can no longer be reassigned")

def assignRiderByOwner (requester : AccessTokenPayload) (riderUserId : UserId) (order : Order) :
    Except HttpError Order := do
  let choice ← chooseRider dir requester riderUserId order
  applyRiderChoice now requester riderUserId order choice

/-- A second delivery leaves the order as it is. -/
def markPaidFromWebhook (order : Order) : Order := (order.markPaidFromWebhook now).getD order

def markPaymentFailed (order : Order) : Order :=
  if order.paymentIsFinal then order else order.savePaymentFailed

end OrdersService

/-- The calls that move an order along outside the refund flow. -/
inductive OrderCall
  | setPaymentRef (provider : PaymentProvider) (paymentRef : String)
      (settledViaInstantSplit : Bool)
  | markPaidFromWebhook
  | markPaymentFailed
  | updateStatusByOwner (requester : AccessTokenPayload) (targetStatus : OrderStatus)
  | updateStatusByRider (riderUserId : UserId) (targetStatus : OrderStatus)
  | assignToRider (riderUserId : UserId)
  | assignRiderByOwner (requester : AccessTokenPayload) (riderUserId : UserId)
  | flagDispute
  deriving DecidableEq, Repr

namespace OrderCall

open OrdersService

/-- A call from its read to its write. -/
def run (dir : Directory) (now : Time) (o : Order) : OrderCall → Except HttpError Order
  | .setPaymentRef provider paymentRef split => .ok (o.setPaymentRef provider paymentRef split)
  | .markPaidFromWebhook => .ok (OrdersService.markPaidFromWebhook now o)
  | .markPaymentFailed => .ok (OrdersService.markPaymentFailed o)
  | .updateStatusByOwner requester targetStatus =>
    OrdersService.updateStatusByOwner dir now requester targetStatus o
  | .updateStatusByRider riderUserId targetStatus =>
    OrdersService.updateStatusByRider now riderUserId targetStatus o
  | .assignToRider riderUserId => OrdersService.assignToRider now riderUserId o
  | .assignRiderByOwner requester riderUserId =>
    OrdersService.assignRiderByOwner dir now requester riderUserId o
  | .flagDispute => .ok o.flagDispute

end OrderCall

/-! ## What a call may do -/

/-- A write that changed an order without touching what the payouts and the
refunds rest on. -/
structure Progress (o o' : Order) : Prop where
  seller : o'.seller = o.seller
  amount : o'.restaurantPayoutAmount = o.restaurantPayoutAmount
  vendorClaim : o'.vendorPayoutId = o.vendorPayoutId
  riderClaim : o'.riderPayoutId = o.riderPayoutId
  flag : o'.refundReconciliationRequired = o.refundReconciliationRequired
  settled : o.status ∈ refundableStatuses ∨ o.status = .refunded → o'.status = o.status
  unrefunded : o'.status = .refunded → o.status = .refunded
  paid : o.paymentStatus = .succeeded → o'.paymentStatus = .succeeded
  refunded : o.paymentStatus = .refunded → o.status = .refunded → o'.paymentStatus = .refunded
  notRefunded : o'.paymentStatus = .refunded → o.paymentStatus = .refunded

theorem Progress.refl (o : Order) : Progress o o :=
  ⟨rfl, rfl, rfl, rfl, rfl, fun _ => rfl, id, id, fun h _ => h, id⟩

namespace OrdersService

variable {dir : Directory} {now : Time} {o o' : Order}

theorem updateStatusByOwner_eq_ok {requester : AccessTokenPayload} {t : OrderStatus} :
    updateStatusByOwner dir now requester t o = .ok o' ↔
      checkOwnerTransition dir requester t o = .ok () ∧
        o' = o.saveOwnerTransition t requester.sub now := by
  rw [updateStatusByOwner]
  cases h : checkOwnerTransition dir requester t o with
  | error e => simp [bind, Except.bind]
  | ok u => simp [bind, Except.bind, pure, Except.pure, eq_comm]

theorem updateStatusByRider_eq_ok {riderUserId : UserId} {t : OrderStatus} :
    updateStatusByRider now riderUserId t o = .ok o' ↔
      checkRiderTransition riderUserId t o = .ok () ∧
        o' = o.saveRiderTransition t riderUserId now := by
  rw [updateStatusByRider]
  cases h : checkRiderTransition riderUserId t o with
  | error e => simp [bind, Except.bind]
  | ok u => simp [bind, Except.bind, pure, Except.pure, eq_comm]

theorem canOwnerTransition_of_check {requester : AccessTokenPayload} {t : OrderStatus}
    (h : checkOwnerTransition dir requester t o = .ok ()) :
    canOwnerTransition o.status t = true := by
  rw [checkOwnerTransition] at h
  cases ha : assertOwnerAccessToOrder dir requester o with
  | error e => simp [ha, bind, Except.bind] at h
  | ok u =>
    by_contra hc
    simp [ha, hc, bind, Except.bind] at h

theorem checkRiderTransition_eq_ok {riderUserId : UserId} {t : OrderStatus} :
    checkRiderTransition riderUserId t o = .ok () ↔
      o.riderId = some riderUserId ∧ canRiderTransition o.status t = true := by
  rw [checkRiderTransition]
  split
  · rename_i h
    simp [h]
  · rename_i h
    rw [not_not] at h
    simp [h]

theorem assignToRider_eq_ok {riderUserId : UserId} :
    OrdersService.assignToRider now riderUserId o = .ok o' ↔
      o.assignToRider riderUserId now = some o' := by
  rw [OrdersService.assignToRider]
  cases o.assignToRider riderUserId now <;> simp

theorem assignRiderByOwner_ok {requester : AccessTokenPayload} {riderUserId : UserId}
    (h : assignRiderByOwner dir now requester riderUserId o = .ok o') :
    o.assignToRider riderUserId now = some o' ∨
      o.reassignRider riderUserId requester.sub now = some o' := by
  rw [assignRiderByOwner] at h
  cases hc : chooseRider dir requester riderUserId o with
  | error e => simp [hc, bind, Except.bind] at h
  | ok choice =>
    simp only [hc, bind, Except.bind] at h
    cases choice with
    | assign => exact Or.inl (assignToRider_eq_ok.mp h)
    | reassign =>
      simp only [applyRiderChoice] at h
      split at h
      · rename_i updated hu
        cases h
        exact Or.inr hu
      · cases h

end OrdersService

/-- The writes behind the calls, each with what was checked before it. -/
inductive OrderWrite (now : Time) (o : Order) : Order → Prop
  | unchanged : OrderWrite now o o
  | paymentRef (provider : PaymentProvider) (paymentRef : String) (split : Bool) :
    OrderWrite now o (o.setPaymentRef provider paymentRef split)
  | paid {o' : Order} (h : o.markPaidFromWebhook now = some o') : OrderWrite now o o'
  | paymentFailed (h : o.paymentIsFinal = false) : OrderWrite now o o.savePaymentFailed
  | owner (requester : UserId) {t : OrderStatus} (h : canOwnerTransition o.status t = true) :
    OrderWrite now o (o.saveOwnerTransition t requester now)
  | rider {riderUserId : UserId} {t : OrderStatus} (hr : o.riderId = some riderUserId)
    (h : canRiderTransition o.status t = true) :
    OrderWrite now o (o.saveRiderTransition t riderUserId now)
  | assigned {riderUserId : UserId} {o' : Order} (h : o.assignToRider riderUserId now = some o') :
    OrderWrite now o o'
  | reassigned {riderUserId requester : UserId} {o' : Order}
    (h : o.reassignRider riderUserId requester now = some o') : OrderWrite now o o'
  | disputed : OrderWrite now o o.flagDispute

open OrdersService in
/-- **What a call does**: one of the writes, made where its checks allow it. -/
theorem OrderCall.write_of_run {dir : Directory} {now : Time} {o o' : Order} {call : OrderCall}
    (h : call.run dir now o = .ok o') : OrderWrite now o o' := by
  cases call with
  | setPaymentRef provider paymentRef split =>
    cases h
    exact .paymentRef provider paymentRef split
  | markPaidFromWebhook =>
    simp only [OrderCall.run, OrdersService.markPaidFromWebhook, Except.ok.injEq] at h
    cases hp : o.markPaidFromWebhook now with
    | none =>
      rw [hp] at h
      exact h ▸ .unchanged
    | some updated =>
      rw [hp] at h
      exact .paid (h ▸ hp)
  | markPaymentFailed =>
    simp only [OrderCall.run, OrdersService.markPaymentFailed, Except.ok.injEq] at h
    split at h
    · exact h ▸ .unchanged
    · rename_i hf
      exact h ▸ .paymentFailed (Bool.not_eq_true _ ▸ hf)
  | updateStatusByOwner requester t =>
    obtain ⟨hc, rfl⟩ := updateStatusByOwner_eq_ok.mp h
    exact .owner _ (canOwnerTransition_of_check hc)
  | updateStatusByRider riderUserId t =>
    obtain ⟨hc, rfl⟩ := updateStatusByRider_eq_ok.mp h
    obtain ⟨hr, ht⟩ := checkRiderTransition_eq_ok.mp hc
    exact .rider hr ht
  | assignToRider riderUserId => exact .assigned (assignToRider_eq_ok.mp h)
  | assignRiderByOwner requester riderUserId =>
    rcases assignRiderByOwner_ok h with h | h
    · exact .assigned h
    · exact .reassigned h
  | flagDispute =>
    cases h
    exact .disputed

section Writes

variable {now : Time} {o o' : Order}

theorem Order.markPaidFromWebhook_eq_some (h : o.markPaidFromWebhook now = some o') :
    o.status = .pendingPayment ∧
      o' = { o with paymentStatus := .succeeded, status := .placed }.pushHistory .placed now
        .system := by
  rw [Order.markPaidFromWebhook, Option.ite_none_right_eq_some, Option.some.injEq] at h
  exact ⟨h.1, h.2.symm⟩

theorem Order.assignToRider_eq_some {riderUserId : UserId}
    (h : o.assignToRider riderUserId now = some o') :
    (o.status = .readyForPickup ∧ o.riderId = none) ∧
      o' = { o with riderId := some riderUserId, status := .assignedToRider }.pushHistory
        .assignedToRider now (.user riderUserId) := by
  rw [Order.assignToRider, Option.ite_none_right_eq_some, Option.some.injEq] at h
  exact ⟨h.1, h.2.symm⟩

theorem Order.reassignRider_eq_some {riderUserId requester : UserId}
    (h : o.reassignRider riderUserId requester now = some o') :
    o.status = .assignedToRider ∧
      o' = { o with riderId := some riderUserId }.pushHistory .assignedToRider now
        (.user requester) := by
  rw [Order.reassignRider, Option.ite_none_right_eq_some, Option.some.injEq] at h
  exact ⟨h.1, h.2.symm⟩

/-- The `readyForPickupAt` an owner transition may set is all it adds. -/
theorem Order.saveOwnerTransition_eq (o : Order) (now : Time) (t : OrderStatus)
    (requester : UserId) :
    ∃ ready, o.saveOwnerTransition t requester now =
      { o with
        status := t
        statusHistory := o.statusHistory ++ [⟨t, now, .user requester⟩]
        readyForPickupAt := ready } := by
  simp only [Order.saveOwnerTransition]
  split
  · exact ⟨some now, rfl⟩
  · exact ⟨o.readyForPickupAt, rfl⟩

theorem Order.saveRiderTransition_eq (t : OrderStatus) (riderUserId : UserId) :
    o.saveRiderTransition t riderUserId now =
      { o with
        status := t
        statusHistory := o.statusHistory ++ [⟨t, now, .user riderUserId⟩]
        deliveredAt := if t = .delivered then some now else o.deliveredAt } := by
  simp only [Order.saveRiderTransition]
  split <;> rfl

/-- A status is entered, and recorded. -/
structure Order.Enters (o o' : Order) (t : OrderStatus) : Prop where
  status : o'.status = t
  statuses : o'.statuses = o.statuses ++ [t]

theorem Order.Enters.mem_statuses {t s : OrderStatus} (h : o.Enters o' t) :
    s ∈ o'.statuses ↔ s ∈ o.statuses ∨ s = t := by
  rw [h.statuses, List.mem_append, List.mem_singleton]

theorem enters_saveOwnerTransition (o : Order) (t : OrderStatus) (requester : UserId) (now : Time) :
    o.Enters (o.saveOwnerTransition t requester now) t := by
  obtain ⟨ready, he⟩ := Order.saveOwnerTransition_eq o now t requester
  rw [he]
  exact ⟨rfl, List.map_append⟩

theorem enters_saveRiderTransition (o : Order) (t : OrderStatus) (riderUserId : UserId)
    (now : Time) : o.Enters (o.saveRiderTransition t riderUserId now) t := by
  rw [Order.saveRiderTransition_eq]
  exact ⟨rfl, List.map_append⟩

/-- The guarded writes follow the graph, or move an assigned order to another rider. -/
theorem enters_assignToRider {riderUserId : UserId} {now : Time}
    (h : o.assignToRider riderUserId now = some o') :
    canTransition o.status .assignedToRider = true ∧ o.Enters o' .assignedToRider := by
  obtain ⟨⟨hs, _⟩, rfl⟩ := Order.assignToRider_eq_some h
  exact ⟨by rw [hs]; rfl, rfl, List.map_append⟩

theorem enters_reassignRider {riderUserId requester : UserId} {now : Time}
    (h : o.reassignRider riderUserId requester now = some o') :
    o.status = .assignedToRider ∧ o.Enters o' .assignedToRider := by
  obtain ⟨hs, rfl⟩ := Order.reassignRider_eq_some h
  exact ⟨hs, hs, List.map_append⟩

theorem enters_markPaidFromWebhook {now : Time} (h : o.markPaidFromWebhook now = some o') :
    canTransition o.status .placed = true ∧ o.Enters o' .placed := by
  obtain ⟨hs, rfl⟩ := Order.markPaidFromWebhook_eq_some h
  exact ⟨by rw [hs]; rfl, rfl, List.map_append⟩

theorem enters_saveFinalizedRefund (h : o.status = .refunded) (now : Time) :
    o.Enters (o.saveFinalizedRefund now) .refunded := ⟨h, List.map_append⟩

/-- A change of `status` between the stages before delivery. -/
theorem Progress.of_status (o₁ : Order) (hs : o.seller = o₁.seller)
    (ha : o.restaurantPayoutAmount = o₁.restaurantPayoutAmount)
    (hv : o.vendorPayoutId = o₁.vendorPayoutId) (hr : o.riderPayoutId = o₁.riderPayoutId)
    (hf : o.refundReconciliationRequired = o₁.refundReconciliationRequired)
    (hp : o.paymentStatus = o₁.paymentStatus) (hne : o₁.status ≠ .refunded)
    (hsrc : o.status ∉ refundableStatuses ∧ o.status ≠ .refunded) : Progress o o₁ where
  seller := hs.symm
  amount := ha.symm
  vendorClaim := hv.symm
  riderClaim := hr.symm
  flag := hf.symm
  settled h := (not_or.mpr hsrc h).elim
  unrefunded h := absurd h hne
  paid h := hp ▸ h
  refunded _ h := absurd h hsrc.2
  notRefunded h := hp ▸ h

theorem canOwnerTransition_early :
    ∀ s t, canOwnerTransition s t = true →
      (s ∉ refundableStatuses ∧ s ≠ .refunded) ∧ t ≠ .refunded := by decide

theorem canRiderTransition_early :
    ∀ s t, canRiderTransition s t = true →
      (s ∉ refundableStatuses ∧ s ≠ .refunded) ∧ t ≠ .refunded := by decide

/-- **None of the calls touches what payouts and refunds rest on.** -/
theorem OrderWrite.progress (h : OrderWrite now o o') : Progress o o' := by
  cases h with
  | unchanged => exact .refl o
  | paymentRef provider paymentRef split =>
    exact ⟨rfl, rfl, rfl, rfl, rfl, fun _ => rfl, id, id, fun h _ => h, id⟩
  | paid h =>
    obtain ⟨hs, rfl⟩ := Order.markPaidFromWebhook_eq_some h
    refine ⟨rfl, rfl, rfl, rfl, rfl, ?_, ?_, fun _ => rfl, ?_, ?_⟩
    · intro hd
      rw [hs] at hd
      exact absurd hd (by decide)
    · intro hr
      cases hr
    · intro _ hr
      rw [hs] at hr
      cases hr
    · intro hr
      cases hr
  | paymentFailed h =>
    simp only [Order.paymentIsFinal, Bool.or_eq_false_iff, decide_eq_false_iff_not] at h
    exact ⟨rfl, rfl, rfl, rfl, rfl, fun _ => rfl, id, fun hp => absurd hp h.1,
      fun hp _ => absurd hp h.2, fun hp => by cases hp⟩
  | owner requester h =>
    obtain ⟨ready, he⟩ := Order.saveOwnerTransition_eq o now _ requester
    rw [he]
    obtain ⟨hsrc, hne⟩ := canOwnerTransition_early _ _ h
    exact .of_status _ rfl rfl rfl rfl rfl rfl hne hsrc
  | rider hr h =>
    rw [Order.saveRiderTransition_eq]
    obtain ⟨hsrc, hne⟩ := canRiderTransition_early _ _ h
    exact .of_status _ rfl rfl rfl rfl rfl rfl hne hsrc
  | assigned h =>
    obtain ⟨⟨hs, _⟩, rfl⟩ := Order.assignToRider_eq_some h
    exact .of_status _ rfl rfl rfl rfl rfl rfl (fun he => by cases he) (by rw [hs]; decide)
  | reassigned h =>
    obtain ⟨hs, rfl⟩ := Order.reassignRider_eq_some h
    exact .of_status _ rfl rfl rfl rfl rfl rfl (fun he => by cases hs.symm.trans he)
      (by rw [hs]; decide)
  | disputed => exact ⟨rfl, rfl, rfl, rfl, rfl, fun _ => rfl, id, id, fun h _ => h, id⟩

end Writes

end FoodDelivery
