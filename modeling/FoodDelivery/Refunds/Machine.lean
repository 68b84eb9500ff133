import FoodDelivery.World
import FoodDelivery.Payouts.Execute

/-!
# The refund flow

`refundOrder` and `handleRefundWebhook` of `payments/payments.service.ts` and
`resolveRefundReconciliation` of `orders/orders.service.ts`, down to
`claimForRefund`, `finalizeRefund`, `revertFailedRefundClaim`,
`flagAmbiguousRefund` and `recordVendorClawbackIfNeeded`, as a small-step
machine: a `RefundPc` is where a call stands with its local variables and
`refundStep` takes it through one awaited call.

`handleRefundWebhook` is modelled from the point where an adapter has verified
and parsed the event.  Notifications are caught where they are sent and are no
step here.
-/

namespace FoodDelivery

open Store

/-- `kind` of a parsed refund or dispute event. -/
inductive RefundNoticeKind
  | refunded
  | disputeCreated
  deriving DecidableEq, Repr

/-- A verified event, as the adapters' parsers return it.  The code holds the number nearest to
`amountRefunded`. -/
structure RefundNotice where
  reference : String
  kind : RefundNoticeKind
  amountRefunded : Option ℚ
  deriving DecidableEq

/-- The calls of the refund flow. -/
inductive RefundRequest
  | refundOrder (orderId : OrderId)
  | refundWebhook (provider : PaymentProvider) (notice : RefundNotice)
  | resolveRefundReconciliation (orderId : OrderId) (refundActuallySucceeded : Bool)
  deriving DecidableEq

/-- Where a call of the refund flow stands. -/
inductive RefundPc
  | read (id : OrderId)
  | claim (id : OrderId) (order : Order) (paymentRef : String)
  | adapter (id : OrderId) (order : Order) (paymentRef : String) (previousStatus : OrderStatus)
  | flag (id : OrderId) (order : Order) (previousStatus : OrderStatus) (reason : String)
  | revert (id : OrderId) (order : Order) (previousStatus : OrderStatus) (message : String)
  | webhookFind (provider : PaymentProvider) (notice : RefundNotice)
  | webhookDispute (id : OrderId)
  | webhookClaim (id : OrderId)
  | resolveFind (id : OrderId) (refundActuallySucceeded : Bool) (issued : Nat)
  | resolveSave (id : OrderId) (issued : Nat)
  | resolveClaim (id : OrderId)
  | finalizeRead (id : OrderId)
  | finalizeSave (id : OrderId) (order : Order)
  | recordClawback (id : OrderId) (order : Order) (payoutId : PayoutId)
  | returned
  | rejected (error : HttpError)
  | threw
  deriving DecidableEq

namespace RefundPc

/-- A call as it is issued. -/
def start (w : World) : RefundRequest → RefundPc
  | .refundOrder id => .read id
  | .refundWebhook provider notice => .webhookFind provider notice
  | .resolveRefundReconciliation id answer => .resolveFind id answer w.refundLog.length

/-- The checks of `refundOrder` on the order it read. -/
def afterRead (id : OrderId) (order : Order) : RefundPc :=
  if ¬ (order.status ∈ refundableStatuses ∧ order.paymentStatus = .succeeded) then
    .rejected (.badRequest
      "Only a delivered or cancelled order with a successful payment can be refunded")
  else if order.refundReconciliationRequired then
    .rejected (.badRequest
      "This order has a refund attempt pending manual reconciliation — resolve that first")
  else if isBlank order.paymentRef then
    .rejected (.badRequest "This order has no payment reference to refund")
  else .claim id order (order.paymentRef.getD "")

/-- How `refundOrder` goes on when `adapter.refund` has settled. -/
def afterRefund (id : OrderId) (order : Order) (previousStatus : OrderStatus) :
    RefundReply → RefundPc
  | .resolved => .finalizeRead id
  | .unknown message => .flag id order previousStatus message
  | .failed message => .revert id order previousStatus message

/-- Whether `handleRefundWebhook` takes a refund for a partial one; the comparison is one of
JavaScript numbers. -/
def isPartial (order : Order) (notice : RefundNotice) : Bool :=
  match notice.amountRefunded with
  | none => false
  | some amount => toNumber amount < toNumber (toNumber order.total.val - toNumber (1 / 100))

/-- The checks of `handleRefundWebhook` on the order it found. -/
def afterWebhookFind (provider : PaymentProvider) (notice : RefundNotice) (id : OrderId)
    (order : Order) : RefundPc :=
  if order.paymentProvider ≠ provider then .returned
  else if notice.kind = .disputeCreated then
    if order.disputeFlagged then .returned else .webhookDispute id
  else if order.status = .refunded then .returned
  else if isPartial order notice then .returned
  else .webhookClaim id

/-- The checks of `resolveRefundReconciliation` on the order it read. -/
def afterResolveFind (id : OrderId) (refundActuallySucceeded : Bool) (issued : Nat)
    (order : Order) : RefundPc :=
  if ¬ order.refundReconciliationRequired then
    .rejected (.badRequest "This order is not flagged for refund reconciliation")
  else if refundActuallySucceeded then .resolveClaim id
  else .resolveSave id issued

/-- `recordVendorClawbackIfNeeded` on the document `finalizeRefund` read. -/
def afterFinalize (id : OrderId) (order : Order) : RefundPc :=
  match order.vendorPayoutId with
  | none => .returned
  | some payoutId => .recordClawback id order payoutId

/-- The claim of `refundOrder` did not match. -/
def notClaimed : HttpError :=
  .badRequest ("This order cannot be refunded — it may already be refunded, or was just " ++
    "changed by someone else")

def unconfirmed (provider : PaymentProvider) : HttpError :=
  .badRequest (s!"Couldn't confirm the refund via {provider.name} — it has been flagged for " ++
    "manual reconciliation rather than retried automatically")

def refused (provider : PaymentProvider) (message : String) : HttpError :=
  .badRequest s!"Couldn't refund via {provider.name}: {message}"

end RefundPc

open RefundPc

/-- `findByPaymentRef`. -/
def World.findByPaymentRef (w : World) (reference : String) : Option (OrderId × Order) :=
  (w.orders.find fun _ o => o.matchesPaymentRef reference).head?

/-- `findNeedingRefundAttention`; the newest first. -/
def World.findNeedingRefundAttention (w : World) : List (OrderId × Order) :=
  (w.orders.find fun _ o => o.needsRefundAttention).reverse

/-- A guarded write to one order: what its filter says of the stored document,
and the collection afterwards. -/
def World.updateOrder (w : World) (id : OrderId) (update : Order → Option Order) : World :=
  w.modifyOrder id fun o => (update o).getD o

def World.updates (w : World) (id : OrderId) (update : Order → Option Order) : Bool :=
  ((w.orders.get id).bind update).isSome

/-- One awaited call of the refund flow. -/
def refundStep (w : World) : RefundPc → Reply → Option (World × RefundPc)
  | .read id, .db r =>
    match w.orders.get id with
    | none => some (r.settle w w (.rejected (.notFound "Order not found")) fun _ => .threw)
    | some order => some (r.settle w w (afterRead id order) fun _ => .threw)
  | .claim id order paymentRef, .db r =>
    match w.orders.get id with
    | none =>
      some (r.settle w w (.rejected notClaimed) fun _ => .threw)
    | some claimed =>
      if w.updates id Order.claimForRefund then
        some (r.settle w (w.updateOrder id Order.claimForRefund)
          (.adapter id order paymentRef claimed.status) fun _ => .threw)
      else
        some (r.settle w w (.rejected notClaimed) fun _ => .threw)
  | .adapter id order paymentRef previousStatus, .refund r =>
    some (w.log (.called id order.paymentProvider paymentRef r),
      afterRefund id order previousStatus r)
  | .flag id order previousStatus reason, .db r =>
    if w.updates id (Order.flagAmbiguousRefund · previousStatus reason) then
      some (r.settle w
        ((w.updateOrder id (Order.flagAmbiguousRefund · previousStatus reason)).log (.flagged id))
        (.rejected (unconfirmed order.paymentProvider)) fun _ => .threw)
    else some (r.settle w w (.rejected (unconfirmed order.paymentProvider)) fun _ => .threw)
  | .revert id order previousStatus message, .db r =>
    some (r.settle w (w.updateOrder id (Order.revertFailedRefundClaim · previousStatus))
      (.rejected (refused order.paymentProvider message)) fun _ => .threw)
  | .webhookFind provider notice, .db r =>
    match w.findByPaymentRef notice.reference with
    | none => some (r.settle w w .returned fun _ => .threw)
    | some (id, order) =>
      some (r.settle w w (afterWebhookFind provider notice id order) fun _ => .threw)
  | .webhookDispute id, .db r =>
    some (r.settle w (w.modifyOrder id Order.flagDispute) .returned fun _ => .threw)
  | .webhookClaim id, .db r =>
    if w.updates id Order.claimForRefund then
      some (r.settle w (w.updateOrder id Order.claimForRefund) (.finalizeRead id) fun _ => .threw)
    else some (r.settle w w .returned fun _ => .threw)
  | .resolveFind id refundActuallySucceeded issued, .db r =>
    match w.orders.get id with
    | none => some (r.settle w w (.rejected (.notFound "Order not found")) fun _ => .threw)
    | some order =>
      some (r.settle w w (afterResolveFind id refundActuallySucceeded issued order) fun _ => .threw)
  | .resolveSave id issued, .db r =>
    some (r.settle w ((w.modifyOrder id Order.saveRefundFlagCleared).log (.cleared id issued))
      .returned fun _ => .threw)
  | .resolveClaim id, .db r =>
    if w.updates id Order.claimReconciledRefund then
      some (r.settle w (w.updateOrder id Order.claimReconciledRefund) (.finalizeRead id)
        fun _ => .threw)
    else some (r.settle w w (.rejected (.notFound "Order not found")) fun _ => .threw)
  | .finalizeRead id, .db r =>
    match w.orders.get id with
    | none => some (r.settle w w (.rejected (.notFound "Order not found")) fun _ => .threw)
    | some order => some (r.settle w w (.finalizeSave id order) fun _ => .threw)
  | .finalizeSave id order, .db r =>
    some (r.settle w (w.modifyOrder id (·.saveFinalizedRefund w.now)) (afterFinalize id order)
      fun _ => .threw)
  | .recordClawback id order payoutId, .db r =>
    some (r.settle w (w.createClawback (.ofOrder id order payoutId)) .returned fun _ => .threw)
  | _, _ => none

/-! ## The moves of the refund flow -/

/-- The order whose refund claim a call holds. -/
def RefundPc.holds : RefundPc → Option OrderId
  | .adapter id _ _ _ => some id
  | .flag id _ _ _ => some id
  | .revert id _ _ _ => some id
  | .finalizeRead id => some id
  | .finalizeSave id _ => some id
  | .recordClawback id _ _ => some id
  | _ => none

/-- The moves: from where, on which answer, what is in the world afterwards, and
where to.  A write that is made and then throws ends the call. -/
inductive RefundMove (w : World) : RefundPc → Reply → World → RefundPc → Prop
  | idle {pc pc' : RefundPc} {r : Reply} (h : pc.holds = none) (h' : pc'.holds = none) :
    RefundMove w pc r w pc'
  | lost {pc : RefundPc} (written : Bool) (message : String) :
    RefundMove w pc (.db (.threw written message)) w .threw
  | claimed {id : OrderId} {order d d' : Order} {paymentRef : String} {r : Reply} {pc' : RefundPc}
    (hd : w.orders.get id = some d) (hc : d.claimForRefund = some d')
    (hpc : pc' = .adapter id order paymentRef d.status ∨ (r.faultless = false ∧ pc' = .threw)) :
    RefundMove w (.claim id order paymentRef) r (w.updateOrder id Order.claimForRefund) pc'
  | called (id : OrderId) (order : Order) (paymentRef : String) (previousStatus : OrderStatus)
    (r : RefundReply) :
    RefundMove w (.adapter id order paymentRef previousStatus) (.refund r)
      (w.log (.called id order.paymentProvider paymentRef r))
      (afterRefund id order previousStatus r)
  | flagged {id : OrderId} {order d d' : Order} {previousStatus : OrderStatus} {reason : String}
    {r : Reply} {pc' : RefundPc} (hd : w.orders.get id = some d)
    (hc : d.flagAmbiguousRefund previousStatus reason = some d') (hpc : pc'.holds = none) :
    RefundMove w (.flag id order previousStatus reason) r
      ((w.updateOrder id (Order.flagAmbiguousRefund · previousStatus reason)).log (.flagged id)) pc'
  | unflagged {id : OrderId} {order : Order} {previousStatus : OrderStatus} {reason : String}
    {r : Reply} {pc' : RefundPc}
    (h : ∀ d, w.orders.get id = some d → d.flagAmbiguousRefund previousStatus reason = none)
    (hpc : pc'.holds = none) : RefundMove w (.flag id order previousStatus reason) r w pc'
  | reverted {id : OrderId} {order : Order} {previousStatus : OrderStatus} {message : String}
    {r : Reply} {pc' : RefundPc} (hpc : pc'.holds = none) :
    RefundMove w (.revert id order previousStatus message) r
      (w.updateOrder id (Order.revertFailedRefundClaim · previousStatus)) pc'
  | disputed {id : OrderId} {r : Reply} {pc' : RefundPc} (hpc : pc'.holds = none) :
    RefundMove w (.webhookDispute id) r (w.modifyOrder id Order.flagDispute) pc'
  | webhookClaimed {id : OrderId} {d d' : Order} {r : Reply} {pc' : RefundPc}
    (hd : w.orders.get id = some d) (hc : d.claimForRefund = some d')
    (hpc : pc' = .finalizeRead id ∨ (r.faultless = false ∧ pc' = .threw)) :
    RefundMove w (.webhookClaim id) r (w.updateOrder id Order.claimForRefund) pc'
  | cleared {id : OrderId} {issued : Nat} {db : DbReply} {pc' : RefundPc} (hw : db.wrote = true)
    (hpc : pc'.holds = none) :
    RefundMove w (.resolveSave id issued) (.db db)
      ((w.modifyOrder id Order.saveRefundFlagCleared).log (.cleared id issued)) pc'
  | reconciled {id : OrderId} {d d' : Order} {r : Reply} {pc' : RefundPc}
    (hd : w.orders.get id = some d) (hc : d.claimReconciledRefund = some d')
    (hpc : pc' = .finalizeRead id ∨ (r.faultless = false ∧ pc' = .threw)) :
    RefundMove w (.resolveClaim id) r (w.updateOrder id Order.claimReconciledRefund) pc'
  | gone {id : OrderId} {r : Reply} {pc' : RefundPc} (h : w.orders.get id = none)
    (hpc : pc'.holds = none) : RefundMove w (.finalizeRead id) r w pc'
  | readBack {id : OrderId} {d : Order} (hd : w.orders.get id = some d) :
    RefundMove w (.finalizeRead id) (.db .ok) w (.finalizeSave id d)
  | finalized {id : OrderId} {order : Order} {r : Reply} {pc' : RefundPc}
    (hpc : pc' = afterFinalize id order ∨ (r.faultless = false ∧ pc' = .threw)) :
    RefundMove w (.finalizeSave id order) r (w.modifyOrder id (·.saveFinalizedRefund w.now)) pc'
  | recorded {id : OrderId} {order : Order} {payoutId : PayoutId} {r : Reply} {pc' : RefundPc}
    (hpc : pc'.holds = none) :
    RefundMove w (.recordClawback id order payoutId) r
      (w.createClawback (.ofOrder id order payoutId)) pc'

theorem updates_iff {w : World} {id : OrderId} {f : Order → Option Order} :
    w.updates id f = true ↔ ∃ d d', w.orders.get id = some d ∧ f d = some d' := by
  rw [World.updates]
  cases h : w.orders.get id with
  | none => simp
  | some d => simp [Option.isSome_iff_exists]

/-- An order after a guarded write that goes through. -/
theorem get_updateOrder {w : World} {id : OrderId} {f : Order → Option Order} {d d' : Order}
    (hd : w.orders.get id = some d) (hf : f d = some d') :
    (w.updateOrder id f).orders.get id = some d' := by
  rw [World.updateOrder, World.modifyOrder, Collection.get_modify_self, hd, Option.map_some, hf,
    Option.getD_some]

/-- A write comes back, or throws before or after it was made. -/
theorem DbReply.settle_write {α : Type} {db : DbReply} {before after w' : World} {next p thrown : α}
    (h : db.settle before after next (fun _ => thrown) = (w', p)) :
    (w' = after ∧ db.wrote = true ∧ (p = next ∨ (db ≠ .ok ∧ p = thrown))) ∨
      (w' = before ∧ p = thrown ∧ ∃ m, db = .threw false m) := by
  cases db with
  | ok =>
    cases h
    exact Or.inl ⟨rfl, rfl, Or.inl rfl⟩
  | threw written message =>
    cases written <;> cases h
    · exact Or.inr ⟨rfl, rfl, message, rfl⟩
    · exact Or.inl ⟨rfl, rfl, Or.inr ⟨by simp, rfl⟩⟩

theorem holds_afterRead (id : OrderId) (order : Order) : (afterRead id order).holds = none := by
  rw [afterRead]
  split
  · rfl
  · split
    · rfl
    · split <;> rfl

theorem holds_afterWebhookFind (provider : PaymentProvider) (notice : RefundNotice) (id : OrderId)
    (order : Order) : (afterWebhookFind provider notice id order).holds = none := by
  rw [afterWebhookFind]
  split
  · rfl
  · split
    · split <;> rfl
    · split
      · rfl
      · split <;> rfl

theorem holds_afterResolveFind (id : OrderId) (answer : Bool) (issued : Nat) (order : Order) :
    (afterResolveFind id answer issued order).holds = none := by
  rw [afterResolveFind]
  split
  · rfl
  · split <;> rfl

theorem DbReply.not_faultless {db : DbReply} (h : db ≠ .ok) : (Reply.db db).faultless = false := by
  simpa [Reply.faultless] using h

section Moves

variable {w w' : World} {pc pc' next : RefundPc} {db : DbReply}

/-- A call that holds no claim reads. -/
theorem RefundMove.of_read (hpc : pc.holds = none) (hnext : next.holds = none)
    (h : some (db.settle w w next fun _ => .threw) = some (w', pc')) :
    RefundMove w pc (.db db) w' pc' := by
  obtain ⟨rfl, rfl | ⟨_, rfl⟩⟩ := DbReply.settle_read (Option.some.inj h)
  · exact .idle hpc hnext
  · exact .idle hpc rfl

/-- A call writes, or its write throws before it was made. -/
theorem RefundMove.of_write {after : World} (hmove : db.wrote = true → ∀ pc', pc' = next ∨
      ((Reply.db db).faultless = false ∧ pc' = .threw) → RefundMove w pc (.db db) after pc')
    (h : some (db.settle w after next fun _ => .threw) = some (w', pc')) :
    RefundMove w pc (.db db) w' pc' := by
  rcases DbReply.settle_write (Option.some.inj h) with ⟨rfl, hw, hp⟩ | ⟨rfl, rfl, m, rfl⟩
  · exact hmove hw pc' (hp.imp_right fun hf => ⟨DbReply.not_faultless hf.1, hf.2⟩)
  · exact .lost false m

/-- Where a write ends the call either way. -/
theorem holds_of_write (hnext : next.holds = none)
    (h : pc' = next ∨ ((Reply.db db).faultless = false ∧ pc' = .threw)) : pc'.holds = none := by
  rcases h with rfl | ⟨_, rfl⟩
  · exact hnext
  · rfl

/-- **Every step of the refund flow is one of the moves.** -/
theorem refund_move {r : Reply} (h : refundStep w pc r = some (w', pc')) :
    RefundMove w pc r w' pc' := by
  cases r with
  | transfer reply => cases pc <;> simp [refundStep] at h
  | refund reply =>
    cases pc with
    | adapter id order paymentRef previousStatus =>
      cases h
      exact .called id order paymentRef previousStatus reply
    | _ => simp [refundStep] at h
  | db db =>
    cases pc with
    | read id =>
      simp only [refundStep] at h
      split at h
      · exact .of_read rfl rfl h
      · exact .of_read rfl (holds_afterRead id _) h
    | claim id order paymentRef =>
      simp only [refundStep] at h
      split at h
      · exact .of_read rfl rfl h
      · rename_i claimed hd
        split at h
        · rename_i hu
          obtain ⟨d, d', hd', hc⟩ := updates_iff.mp hu
          obtain rfl : claimed = d := Option.some.inj (hd.symm.trans hd')
          exact .of_write (fun _ _ hp => .claimed hd hc hp) h
        · exact .of_read rfl rfl h
    | adapter id order paymentRef previousStatus => simp [refundStep] at h
    | flag id order previousStatus reason =>
      simp only [refundStep] at h
      split at h
      · rename_i hu
        obtain ⟨d, d', hd, hc⟩ := updates_iff.mp hu
        exact .of_write (fun _ _ hp => .flagged hd hc (holds_of_write rfl hp)) h
      · rename_i hu
        have hnone : ∀ d, w.orders.get id = some d →
            d.flagAmbiguousRefund previousStatus reason = none := by
          intro d hd
          rw [Bool.not_eq_true, ← Bool.not_eq_true, updates_iff] at hu
          exact Option.eq_none_iff_forall_not_mem.mpr fun d' hd' => hu ⟨d, d', hd, hd'⟩
        obtain ⟨rfl, rfl | ⟨_, rfl⟩⟩ := DbReply.settle_read (Option.some.inj h)
        · exact .unflagged hnone rfl
        · exact .unflagged hnone rfl
    | revert id order previousStatus message =>
      exact .of_write (fun _ _ hp => .reverted (holds_of_write rfl hp)) h
    | webhookFind provider notice =>
      simp only [refundStep] at h
      split at h
      · exact .of_read rfl rfl h
      · exact .of_read rfl (holds_afterWebhookFind provider notice _ _) h
    | webhookDispute id => exact .of_write (fun _ _ hp => .disputed (holds_of_write rfl hp)) h
    | webhookClaim id =>
      simp only [refundStep] at h
      split at h
      · rename_i hu
        obtain ⟨d, d', hd, hc⟩ := updates_iff.mp hu
        exact .of_write (fun _ _ hp => .webhookClaimed hd hc hp) h
      · exact .of_read rfl rfl h
    | resolveFind id answer issued =>
      simp only [refundStep] at h
      split at h
      · exact .of_read rfl rfl h
      · exact .of_read rfl (holds_afterResolveFind id answer issued _) h
    | resolveSave id issued =>
      exact .of_write (fun hw _ hp => .cleared hw (holds_of_write rfl hp)) h
    | resolveClaim id =>
      simp only [refundStep] at h
      split at h
      · rename_i hu
        obtain ⟨d, d', hd, hc⟩ := updates_iff.mp hu
        exact .of_write (fun _ _ hp => .reconciled hd hc hp) h
      · exact .of_read rfl rfl h
    | finalizeRead id =>
      simp only [refundStep] at h
      split at h
      · rename_i hnone
        obtain ⟨rfl, rfl | ⟨_, rfl⟩⟩ := DbReply.settle_read (Option.some.inj h)
        · exact .gone hnone rfl
        · exact .gone hnone rfl
      · rename_i d hd
        cases db with
        | ok =>
          cases h
          exact .readBack hd
        | threw written message => cases written <;> cases h <;> exact .lost _ _
    | finalizeSave id order => exact .of_write (fun _ _ hp => .finalized hp) h
    | recordClawback id order payoutId =>
      exact .of_write (fun _ _ hp => .recorded (holds_of_write rfl hp)) h
    | returned => simp [refundStep] at h
    | rejected e => simp [refundStep] at h
    | threw => simp [refundStep] at h

end Moves

end FoodDelivery
