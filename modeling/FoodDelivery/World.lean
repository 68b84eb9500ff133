import FoodDelivery.Lib.Collection
import FoodDelivery.Payouts.Schema

/-!
# The database and the outside world

What the payout batch, the refund flow and the admins' resolutions share: the
`orders`, `payouts` and `payoutclawbacks` collections, the payout accounts of
restaurants, stores and riders, the clock, and two things outside the database,
which the code cannot read: for which payouts the provider moved money (`sent`),
and the history of refund calls and of their reconciliation (`refundLog`).
-/

namespace FoodDelivery

open Store

/-- How `callAdapterTransfer` settles.  `moved` says whether the money went out
although the call failed. -/
inductive TransferReply
  | transferred (transferReference : String)
  | unknown (moved : Bool) (message : String)
  | failed (moved : Bool) (message : String)
  deriving DecidableEq, Repr

/-- How `adapter.refund` settles: it resolves, it throws
`RefundOutcomeUnknownError`, or it throws another error. -/
inductive RefundReply
  | resolved
  | unknown (message : String)
  | failed (message : String)
  deriving DecidableEq, Repr

/-- What an awaited call answers. -/
inductive Reply
  | db (r : DbReply)
  | transfer (r : TransferReply)
  | refund (r : RefundReply)
  deriving DecidableEq, Repr

/-- No database failure. -/
def Reply.faultless : Reply → Bool
  | .db r => r = .ok
  | _ => true

/-- What happened to the refund of an order.  `called` is a call of
`adapter.refund` and how it settled; `cleared` ends a
`resolveRefundReconciliation(false)`, with the length the history had when that
call was issued. -/
inductive RefundEvent
  | called (orderId : OrderId) (provider : PaymentProvider) (paymentRef : String)
      (reply : RefundReply)
  | flagged (orderId : OrderId)
  | cleared (orderId : OrderId) (issued : Nat)
  deriving DecidableEq, Repr

/-- A restaurant, store or rider as far as `runWeeklyBatch` reads it; `userId` is
the rider's own user, by which earnings are looked up. -/
structure PayoutVendor where
  vendorType : PayoutVendorType
  vendorId : VendorId
  userId : UserId
  payoutAccounts : List PayoutAccount
  deriving DecidableEq, Repr

structure World where
  orders : Collection Order
  payouts : Collection Payout
  clawbacks : Collection PayoutClawback
  vendors : List PayoutVendor
  now : Time
  sent : List PayoutId
  refundLog : List RefundEvent
  deriving DecidableEq

namespace World

/-- No order, payout or clawback yet. -/
def empty (vendors : List PayoutVendor) : World := ⟨.empty, .empty, .empty, vendors, 0, [], []⟩

/-- The payout that claims an order's cut, if any. -/
def claimOf (w : World) (f : ClaimField) (o : OrderId) : Option PayoutId :=
  (w.orders.get o).bind (·.claim f)

/-- Whether the claim's filter matches an order. -/
def unclaimed (w : World) (f : ClaimField) (o : OrderId) : Bool :=
  match w.orders.get o with
  | some d => d.claim f = none
  | none => false

/-- What the claiming `updateMany` does to one order. -/
def claimOrder (w : World) (f : ClaimField) (o : OrderId) (p : PayoutId) : World :=
  { w with orders := w.orders.modify o fun d =>
      if d.claim f = none then d.setClaim f (some p) else d }

/-- What a releasing `updateMany` does to one order. -/
def releaseOrder (w : World) (f : ClaimField) (o : OrderId) (p : PayoutId) : World :=
  { w with orders := w.orders.modify o fun d =>
      if d.claim f = some p then d.setClaim f none else d }

def createOrder (w : World) (o : Order) : World := { w with orders := w.orders.create o }

def modifyOrder (w : World) (o : OrderId) (g : Order → Order) : World :=
  { w with orders := w.orders.modify o g }

def createPayout (w : World) (p : Payout) : World := { w with payouts := w.payouts.create p }

def modifyPayout (w : World) (id : PayoutId) (g : Payout → Payout) : World :=
  { w with payouts := w.payouts.modify id g }

def createClawback (w : World) (c : PayoutClawback) : World :=
  { w with clawbacks := w.clawbacks.create c }

/-- The `save()` of `applyClawbackConsumption`. -/
def saveRemaining (w : World) (id : ClawbackId) (remainingAmount : ℚ) : World :=
  { w with clawbacks := w.clawbacks.modify id fun c => c.saveRemaining remainingAmount }

/-- The provider moved a payout's money, or it did not. -/
def send (w : World) (id : PayoutId) (moved : Bool) : World :=
  if moved then { w with sent := id :: w.sent } else w

@[simp] theorem payouts_send {w : World} {id : PayoutId} {moved : Bool} :
    (w.send id moved).payouts = w.payouts := by
  rw [send]
  split <;> rfl

theorem get_payouts_send (w : World) (id : PayoutId) (moved : Bool) {i : PayoutId} (d : Payout)
    (h : w.payouts.get i = some d) : (w.send id moved).payouts.get i = some d := by
  rw [payouts_send, h]

@[simp] theorem orders_send {w : World} {id : PayoutId} {moved : Bool} :
    (w.send id moved).orders = w.orders := by
  rw [send]
  split <;> rfl

@[simp] theorem clawbacks_send {w : World} {id : PayoutId} {moved : Bool} :
    (w.send id moved).clawbacks = w.clawbacks := by
  rw [send]
  split <;> rfl

/-- Add to the refund history. -/
def log (w : World) (e : RefundEvent) : World := { w with refundLog := w.refundLog ++ [e] }

variable {w w' : World} {f g : ClaimField} {o o' : OrderId} {p : PayoutId}

/-! ## Claims -/

theorem claimOf_of_get {d : Order} (h : w.orders.get o = some d) : w.claimOf f o = d.claim f := by
  rw [claimOf, h, Option.bind_some]

theorem unclaimed_iff :
    w.unclaimed f o = true ↔ ∃ d, w.orders.get o = some d ∧ d.claim f = none := by
  rw [unclaimed]
  cases w.orders.get o with
  | none => simp
  | some d => simp

theorem claimOf_of_unclaimed (h : w.unclaimed f o = true) : w.claimOf f o = none := by
  obtain ⟨d, hd, hc⟩ := unclaimed_iff.mp h
  rw [claimOf_of_get hd, hc]

theorem lt_nextId_of_claimOf (h : w.claimOf f o = some p) : o < w.orders.nextId := by
  rw [claimOf, Option.bind_eq_some_iff] at h
  obtain ⟨d, hd, _⟩ := h
  exact Collection.lt_nextId_of_get hd

/-- A visit of the claiming `updateMany` takes an unclaimed order and nothing
else. -/
theorem claimOf_claimOrder :
    (w.claimOrder f o p).claimOf g o' =
      if w.unclaimed f o = true ∧ g = f ∧ o' = o then some p else w.claimOf g o' := by
  by_cases ho : o' = o
  · subst ho
    rcases hd : w.orders.get o' with _ | d
    · simp [claimOf, claimOrder, unclaimed, hd]
    · by_cases hc : d.claim f = none
      · by_cases hg : g = f
        · subst hg
          simp [claimOf, claimOrder, unclaimed, hd, hc]
        · simp [claimOf, claimOrder, unclaimed, hd, hc, hg,
            Order.claim_setClaim_ne d (some p) (Ne.symm hg)]
      · simp [claimOf, claimOrder, unclaimed, hd, hc]
  · simp [claimOf, claimOrder, Collection.get_modify_ne (Ne.symm ho), ho]

/-- A visit of a releasing `updateMany` frees an order the payout has claimed and
nothing else. -/
theorem claimOf_releaseOrder :
    (w.releaseOrder f o p).claimOf g o' =
      if w.claimOf f o = some p ∧ g = f ∧ o' = o then none else w.claimOf g o' := by
  by_cases ho : o' = o
  · subst ho
    rcases hd : w.orders.get o' with _ | d
    · simp [claimOf, releaseOrder, hd]
    · by_cases hc : d.claim f = some p
      · by_cases hg : g = f
        · subst hg
          simp [claimOf, releaseOrder, hd, hc]
        · simp [claimOf, releaseOrder, hd, hc, hg,
            Order.claim_setClaim_ne d none (Ne.symm hg)]
      · simp [claimOf, releaseOrder, hd, hc]
  · simp [claimOf, releaseOrder, Collection.get_modify_ne (Ne.symm ho), ho]

/-! ## What each side leaves alone -/

/-- `w'` agrees with `w` on what payouts and claims rest on. -/
structure SamePayouts (w w' : World) : Prop where
  payouts : w'.payouts = w.payouts
  sent : w'.sent = w.sent
  claims : ∀ f o, w'.claimOf f o = w.claimOf f o

/-- `w'` agrees with `w` on what refunds rest on: the orders but for their claims,
the clawbacks but for what is left of them, and the refund history. -/
structure SameRefunds (w w' : World) : Prop where
  orders : ∀ o, (w'.orders.get o).map Order.withoutClaims =
    (w.orders.get o).map Order.withoutClaims
  clawbacks : ∀ c, (w'.clawbacks.get c).map PayoutClawback.recorded =
    (w.clawbacks.get c).map PayoutClawback.recorded
  log : w'.refundLog = w.refundLog

theorem SamePayouts.refl (w : World) : SamePayouts w w := ⟨rfl, rfl, fun _ _ => rfl⟩

theorem SameRefunds.refl (w : World) : SameRefunds w w := ⟨fun _ => rfl, fun _ => rfl, rfl⟩

theorem SamePayouts.log (h : SamePayouts w w') {e : RefundEvent} : SamePayouts w (w'.log e) :=
  ⟨h.payouts, h.sent, h.claims⟩

theorem SameRefunds.symm (h : SameRefunds w w') : SameRefunds w' w :=
  ⟨fun o => (h.orders o).symm, fun c => (h.clawbacks c).symm, h.log.symm⟩

/-- An order is where it was, up to its claims. -/
theorem SameRefunds.order (h : SameRefunds w w') {d : Order} (hd : w.orders.get o = some d) :
    ∃ d', w'.orders.get o = some d' ∧ d'.withoutClaims = d.withoutClaims := by
  have := h.orders o
  rw [hd, Option.map_some, Option.map_eq_some_iff] at this
  exact this

/-- A clawback is where it was, up to what is left of it. -/
theorem SameRefunds.clawback (h : SameRefunds w w') {i : ClawbackId} {c : PayoutClawback}
    (hc : w.clawbacks.get i = some c) :
    ∃ c', w'.clawbacks.get i = some c' ∧ c'.recorded = c.recorded := by
  have := h.clawbacks i
  rw [hc, Option.map_some, Option.map_eq_some_iff] at this
  exact this

theorem sameRefunds_modify {h : Order → Order} (hh : ∀ d, (h d).withoutClaims = d.withoutClaims) :
    SameRefunds w { w with orders := w.orders.modify o h } := by
  refine ⟨fun o' => ?_, fun _ => rfl, rfl⟩
  simp only [Collection.get_modify]
  split
  · rw [Option.map_map]
    exact congrArg (fun k => Option.map k _) (funext hh)
  · rfl

theorem sameRefunds_claimOrder : SameRefunds w (w.claimOrder f o p) := by
  refine sameRefunds_modify fun d => ?_
  split
  · exact Order.withoutClaims_setClaim d f _
  · rfl

theorem sameRefunds_releaseOrder : SameRefunds w (w.releaseOrder f o p) := by
  refine sameRefunds_modify fun d => ?_
  split
  · exact Order.withoutClaims_setClaim d f _
  · rfl

theorem sameRefunds_saveRemaining {c : ClawbackId} {x : ℚ} :
    SameRefunds w (w.saveRemaining c x) := by
  refine ⟨fun _ => rfl, fun c' => ?_, rfl⟩
  simp only [saveRemaining, Collection.get_modify]
  split
  · rw [Option.map_map]
    exact congrArg (fun k => Option.map k _) (funext fun d => rfl)
  · rfl

theorem sameRefunds_createPayout {d : Payout} : SameRefunds w (w.createPayout d) :=
  ⟨fun _ => rfl, fun _ => rfl, rfl⟩

theorem sameRefunds_modifyPayout {h : Payout → Payout} : SameRefunds w (w.modifyPayout p h) :=
  ⟨fun _ => rfl, fun _ => rfl, rfl⟩

theorem sameRefunds_send {moved : Bool} : SameRefunds w (w.send p moved) := by
  rw [send]
  split
  · exact ⟨fun _ => rfl, fun _ => rfl, rfl⟩
  · exact .refl w

theorem samePayouts_modifyOrder {h : Order → Order}
    (hh : ∀ d, w.orders.get o = some d → ∀ f, (h d).claim f = d.claim f) :
    SamePayouts w (w.modifyOrder o h) := by
  refine ⟨rfl, rfl, fun f o' => ?_⟩
  simp only [claimOf, modifyOrder, Collection.get_modify]
  split
  · rename_i ho
    subst ho
    cases hd : w.orders.get o with
    | none => rfl
    | some d => exact hh d hd f
  · rfl

theorem samePayouts_createOrder {d : Order} (hd : ∀ f, d.claim f = none) :
    SamePayouts w (w.createOrder d) := by
  refine ⟨rfl, rfl, fun f o' => ?_⟩
  simp only [claimOf, createOrder, Collection.get_create]
  split
  · rename_i ho
    rw [ho, Collection.get_nextId]
    exact hd f
  · rfl

end World

end FoodDelivery
