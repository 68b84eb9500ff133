import FoodDelivery.Lib.Trace
import FoodDelivery.Refunds.Exclusive

/-!
# What the fields of an order say of each other

Operations run to their end one after another: the calls that move an order along,
and whole refunds, resolutions, batches.

* `Order.Coherent`: how status, payment status, rider, delivery time and the flag of a
  doubtful refund go together.
* `OrderWrite.coherent`: a call outside the refund flow keeps it.
* `refund_coherent`: so does each step of a refund, which remembers what the status it may
  go back to went together with.
* `coherent_of_operations`: so every order of the platform has it.
-/

namespace FoodDelivery

open Store Interleave

/-- The statuses of an order that a rider has. -/
def riderStatuses : List OrderStatus := [.assignedToRider, .pickedUp, .outForDelivery, .delivered]

namespace Order

/-- The fields of an order go together. -/
structure Coherent (o : Order) : Prop where
  unpaid : o.status = .pendingPayment ↔ o.paymentStatus = .pending ∨ o.paymentStatus = .failed
  refunded : o.paymentStatus = .refunded → o.status = .refunded
  rider : o.riderId ≠ none ↔ .assignedToRider ∈ o.statuses
  carried : o.status ∈ riderStatuses → o.riderId ≠ none
  delivered : o.deliveredAt ≠ none ↔ .delivered ∈ o.statuses
  flagged : o.refundReconciliationRequired = true →
    o.paymentStatus = .succeeded ∧ (o.status = .delivered ∨ o.status = .cancelled)

theorem mem_refundableStatuses {s : OrderStatus} :
    s ∈ refundableStatuses ↔ s = .delivered ∨ s = .cancelled := by
  simp [refundableStatuses]

variable {o o' : Order} {now : Time} {t : OrderStatus}

theorem coherent_created (seller : Seller) (customer : UserId) (now : Time) (currency : String)
    (provider : PaymentProvider) (fee total amount : Price) :
    (created seller customer now currency provider fee total amount).Coherent where
  unpaid := ⟨fun _ => Or.inl rfl, fun _ => rfl⟩
  refunded h := by cases h
  rider := by simp [created, statuses]
  carried h := absurd (show OrderStatus.pendingPayment ∈ riderStatuses from h) (by decide)
  delivered := by simp [created, statuses]
  flagged h := by cases h

/-- The claims of payouts are none of these fields. -/
theorem Coherent.of_withoutClaims (h : o.Coherent) (he : o'.withoutClaims = o.withoutClaims) :
    o'.Coherent := by
  have hc : o'.withoutClaims.Coherent := by
    rw [he]
    exact ⟨h.unpaid, h.refunded, h.rider, h.carried, h.delivered, h.flagged⟩
  exact ⟨hc.unpaid, hc.refunded, hc.rider, hc.carried, hc.delivered, hc.flagged⟩

/-- A flagged order is refundable, so a status before delivery comes with no flag. -/
theorem Coherent.unflagged (h : o.Coherent) (hs : o.status ∉ refundableStatuses) :
    o.refundReconciliationRequired ≠ true :=
  fun hf => hs (mem_refundableStatuses.mpr (h.flagged hf).2)

/-- The payment of an order in progress has succeeded. -/
theorem Coherent.paid (h : o.Coherent) (hp : o.status ≠ .pendingPayment)
    (hr : o.status ≠ .refunded) : o.paymentStatus = .succeeded := by
  cases he : o.paymentStatus with
  | pending => exact absurd (h.unpaid.mpr (Or.inl he)) hp
  | succeeded => rfl
  | failed => exact absurd (h.unpaid.mpr (Or.inr he)) hp
  | refunded => exact absurd (h.refunded he) hr

/-- **An order in progress enters its next status**: the rider and the delivery time go
with the history. -/
theorem Coherent.enters (h : o.Coherent) (he : o.Enters o' t) (hp : o'.paymentStatus = .succeeded)
    (ht : t ≠ .pendingPayment) (hsrc : o.status ∉ refundableStatuses)
    (hf : o'.refundReconciliationRequired = o.refundReconciliationRequired)
    (hr : o'.riderId ≠ none ↔ o.riderId ≠ none ∨ t = .assignedToRider)
    (hc : t ∈ riderStatuses → o'.riderId ≠ none)
    (hd : o'.deliveredAt ≠ none ↔ o.deliveredAt ≠ none ∨ t = .delivered) : o'.Coherent where
  unpaid := by
    rw [he.status, hp]
    exact ⟨fun h => absurd h ht, fun h => h.elim (by simp) (by simp)⟩
  refunded h := by cases hp.symm.trans h
  rider := by rw [hr, h.rider, he.mem_statuses, eq_comm (a := t)]
  carried hs := hc (he.status ▸ hs)
  delivered := by rw [hd, h.delivered, he.mem_statuses, eq_comm (a := t)]
  flagged hfl := absurd (hf ▸ hfl) (h.unflagged hsrc)

/-! ## The calls outside the refund flow -/

theorem Coherent.markPaidFromWebhook (h : o.Coherent) (hw : o.markPaidFromWebhook now = some o') :
    o'.Coherent := by
  obtain ⟨_, he⟩ := enters_markPaidFromWebhook hw
  obtain ⟨hs, rfl⟩ := markPaidFromWebhook_eq_some hw
  have hsrc : o.status ∉ refundableStatuses := by
    rw [hs]
    decide
  refine h.enters he rfl (by decide) hsrc rfl ?_ (fun hm => absurd hm (by decide)) ?_
  · exact ⟨Or.inl, fun hr => hr.resolve_right (by decide)⟩
  · exact ⟨Or.inl, fun hd => hd.resolve_right (by decide)⟩

theorem Coherent.savePaymentFailed (h : o.Coherent) (hf : o.paymentIsFinal = false) :
    o.savePaymentFailed.Coherent := by
  simp only [paymentIsFinal, Bool.or_eq_false_iff, decide_eq_false_iff_not] at hf
  have hs : o.status = .pendingPayment := by
    rw [h.unpaid]
    cases hp : o.paymentStatus with
    | pending => exact Or.inl rfl
    | succeeded => exact absurd hp hf.1
    | failed => exact Or.inr rfl
    | refunded => exact absurd hp hf.2
  exact ⟨⟨fun _ => Or.inr rfl, fun _ => hs⟩, by rintro ⟨⟩, h.rider, h.carried, h.delivered,
    fun hfl => absurd hfl (h.unflagged (by rw [hs]; decide))⟩

/-- Where an owner's transition starts and ends. -/
theorem owner_ends : ∀ s t, canOwnerTransition s t = true →
    (s ∉ refundableStatuses ∧ s ≠ .pendingPayment ∧ s ≠ .refunded) ∧
      t ∉ riderStatuses ∧ t ≠ .pendingPayment := by decide

theorem Coherent.saveOwnerTransition (h : o.Coherent) (requester : UserId)
    (ht : canOwnerTransition o.status t = true) :
    (o.saveOwnerTransition t requester now).Coherent := by
  obtain ⟨⟨hsrc, hp, hr⟩, htgt, hne⟩ := owner_ends _ _ ht
  have he := enters_saveOwnerTransition o t requester now
  obtain ⟨ready, hready⟩ := saveOwnerTransition_eq o now t requester
  have hfree : ∀ s ∈ riderStatuses, t ≠ s := fun s hs heq => htgt (heq ▸ hs)
  rw [hready] at he ⊢
  refine h.enters he (h.paid hp hr) hne hsrc rfl ?_ (fun hm => absurd hm htgt) ?_
  · exact ⟨Or.inl, fun hr => hr.resolve_right (hfree _ (by decide))⟩
  · exact ⟨Or.inl, fun hd => hd.resolve_right (hfree _ (by decide))⟩

/-- Where a rider's transition starts and ends. -/
theorem rider_ends : ∀ s t, canRiderTransition s t = true →
    (s ∉ refundableStatuses ∧ s ≠ .pendingPayment ∧ s ≠ .refunded) ∧
      t ≠ .pendingPayment ∧ t ≠ .assignedToRider := by decide

theorem Coherent.saveRiderTransition (h : o.Coherent) {riderUserId : UserId}
    (hr : o.riderId = some riderUserId) (ht : canRiderTransition o.status t = true) :
    (o.saveRiderTransition t riderUserId now).Coherent := by
  obtain ⟨⟨hsrc, hp, href⟩, hne, hassigned⟩ := rider_ends _ _ ht
  have he := enters_saveRiderTransition o t riderUserId now
  have hrider : o.riderId ≠ none := by
    rw [hr]
    exact (by simp)
  rw [saveRiderTransition_eq] at he ⊢
  refine h.enters he (h.paid hp href) hne hsrc rfl ?_ (fun _ => hrider) ?_
  · exact ⟨Or.inl, fun hr => hr.resolve_right hassigned⟩
  · by_cases hd : t = .delivered
    · simp [hd]
    · simp [hd]

/-- A rider gets the order. -/
theorem Coherent.assigned (h : o.Coherent) (he : o.Enters o' .assignedToRider)
    (hsrc : o.status = .readyForPickup ∨ o.status = .assignedToRider)
    (hp : o'.paymentStatus = o.paymentStatus)
    (hf : o'.refundReconciliationRequired = o.refundReconciliationRequired)
    (hr : o'.riderId ≠ none) (hd : o'.deliveredAt = o.deliveredAt) : o'.Coherent := by
  have hs : o.status ∉ refundableStatuses ∧ o.status ≠ .pendingPayment ∧ o.status ≠ .refunded := by
    rcases hsrc with hs | hs <;> rw [hs] <;> decide
  refine h.enters he (hp.trans (h.paid hs.2.1 hs.2.2)) (by decide) hs.1 hf ?_ (fun _ => hr) ?_
  · exact ⟨fun _ => Or.inr rfl, fun _ => hr⟩
  · rw [hd]
    exact ⟨Or.inl, fun hd => hd.resolve_right (by decide)⟩

/-- **A call outside the refund flow keeps the fields together.** -/
theorem Coherent.write (h : o.Coherent) (hw : OrderWrite now o o') : o'.Coherent := by
  cases hw with
  | unchanged => exact h
  | paymentRef => exact ⟨h.unpaid, h.refunded, h.rider, h.carried, h.delivered, h.flagged⟩
  | paid hw => exact h.markPaidFromWebhook hw
  | paymentFailed hf => exact h.savePaymentFailed hf
  | owner requester ht => exact h.saveOwnerTransition requester ht
  | rider hr ht => exact h.saveRiderTransition hr ht
  | assigned hw =>
    have he := (enters_assignToRider hw).2
    obtain ⟨⟨hs, _⟩, rfl⟩ := assignToRider_eq_some hw
    exact h.assigned he (Or.inl hs) rfl rfl (by rintro ⟨⟩) rfl
  | reassigned hw =>
    have he := (enters_reassignRider hw).2
    obtain ⟨hs, rfl⟩ := reassignRider_eq_some hw
    exact h.assigned he (Or.inr hs) rfl rfl (by rintro ⟨⟩) rfl
  | disputed => exact ⟨h.unpaid, h.refunded, h.rider, h.carried, h.delivered, h.flagged⟩

/-! ## The writes of a refund -/

/-- A claimed order keeps its fields together. -/
theorem Coherent.claimed (h : o.Coherent) (hc : o'.Claimed) (hr : o'.riderId = o.riderId)
    (hd : o'.deliveredAt = o.deliveredAt) (hh : o'.statuses = o.statuses) : o'.Coherent where
  unpaid := by
    rw [hc.status, hc.paid]
    exact ⟨by decide, fun h => h.elim (by decide) (by decide)⟩
  refunded _ := hc.status
  rider := by rw [hr, hh, h.rider]
  carried hs := absurd (hc.status ▸ hs) (by decide)
  delivered := by rw [hd, hh, h.delivered]
  flagged hf := by cases hc.unflagged.symm.trans hf

/-- The status before a claim, and that the order was coherent with it. -/
structure GoesBack (d : Order) (prev : OrderStatus) : Prop where
  refundable : prev ∈ refundableStatuses
  coherent : ({ d with status := prev } : Order).Coherent

theorem Coherent.claimForRefund (h : o.Coherent) (hw : o.claimForRefund = some o') :
    o'.Coherent ∧ o'.Claimed ∧ o'.GoesBack o.status := by
  obtain ⟨⟨hs, hp, hf⟩, rfl⟩ := claimForRefund_eq_some.mp hw
  have hc : Claimed { o with status := .refunded } := ⟨rfl, hp, hf⟩
  exact ⟨h.claimed hc rfl rfl rfl, hc, hs, h⟩

theorem Coherent.claimReconciledRefund (h : o.Coherent) (hw : o.claimReconciledRefund = some o') :
    o'.Coherent ∧ o'.Claimed := by
  obtain ⟨hf, rfl⟩ := claimReconciledRefund_eq_some.mp hw
  have hc : Claimed { o with
      status := .refunded, refundReconciliationRequired := false, refundFailureReason := none } :=
    ⟨rfl, (h.flagged hf).1, rfl⟩
  exact ⟨h.claimed hc rfl rfl rfl, hc⟩

theorem coherent_flagAmbiguousRefund {reason : String} (hb : o.GoesBack t)
    (hw : o.flagAmbiguousRefund t reason = some o') : o'.Coherent := by
  obtain ⟨⟨_, hp⟩, rfl⟩ := flagAmbiguousRefund_eq_some.mp hw
  have h := hb.coherent
  exact ⟨h.unpaid, h.refunded, h.rider, h.carried, h.delivered,
    fun _ => ⟨hp, mem_refundableStatuses.mp hb.refundable⟩⟩

theorem coherent_revertFailedRefundClaim (hc : o.Claimed) (hb : o.GoesBack t) :
    ((o.revertFailedRefundClaim t).getD o).Coherent := by
  rw [revertFailedRefundClaim_eq_some.mpr ⟨⟨hc.status, hc.paid⟩, rfl⟩]
  exact hb.coherent

theorem Coherent.saveRefundFlagCleared (h : o.Coherent) : o.saveRefundFlagCleared.Coherent :=
  ⟨h.unpaid, h.refunded, h.rider, h.carried, h.delivered, by rintro ⟨⟩⟩

theorem Coherent.saveFinalizedRefund (h : o.Coherent) (hc : o.Claimed) (now : Time) :
    (o.saveFinalizedRefund now).Coherent := by
  have he := enters_saveFinalizedRefund hc.status now
  refine ⟨?_, fun _ => hc.status, ?_, fun hs => ?_, ?_, fun hf => ?_⟩
  · rw [he.status]
    exact ⟨by simp, fun hp => hp.elim (by rintro ⟨⟩) (by rintro ⟨⟩)⟩
  · rw [he.mem_statuses]
    exact h.rider.trans ⟨Or.inl, fun hm => hm.resolve_right (by decide)⟩
  · exact absurd (he.status ▸ hs) (by decide)
  · rw [he.mem_statuses]
    exact h.delivered.trans ⟨Or.inl, fun hm => hm.resolve_right (by decide)⟩
  · cases hc.unflagged.symm.trans hf

end Order

/-- Every stored order is coherent. -/
def World.Coherent (w : World) : Prop := ∀ id d, w.orders.get id = some d → d.Coherent

/-- A call that has claimed an order knows that it can put it back. -/
structure OrdersCoherent (w : World) (p : Proc) : Prop where
  orders : w.Coherent
  claimed : ∀ pc id, p.refunding = some pc → pc.claiming = some id →
    ∃ d, w.orders.get id = some d ∧ d.Claimed ∧
      ∀ prev, pc.previousStatus = some prev → d.GoesBack prev

section Steps

variable {w w' : World} {p p' : Proc} {pc pc' : RefundPc} {r : Reply} {id : OrderId}

/-- A call that has claimed no order. -/
theorem OrdersCoherent.of_unclaimed (h : w.Coherent)
    (hp : ∀ pc, p.refunding = some pc → pc.claiming = none) : OrdersCoherent w p :=
  ⟨h, fun pc _ hpc hid => by cases (hp pc hpc).symm.trans hid⟩

theorem RefundPc.claiming_of_holds (h : pc.holds = none) : pc.claiming = none := by
  cases hc : pc.claiming with
  | none => rfl
  | some id => cases h.symm.trans (RefundPc.holds_of_claiming hc)

theorem coherent_modifyOrder {g : Order → Order}
    (h : w.Coherent) (hg : ∀ d, w.orders.get id = some d → (g d).Coherent) :
    (w.modifyOrder id g).Coherent := by
  intro i d hd
  rcases Collection.get_modify_cases hd with ⟨rfl, d₀, hd₀, rfl⟩ | ⟨_, hd⟩
  · exact hg d₀ hd₀
  · exact h i d hd

/-- A guarded write. -/
theorem coherent_updateOrder {f : Order → Option Order}
    (h : w.Coherent) (hf : ∀ d d', w.orders.get id = some d → f d = some d' → d'.Coherent) :
    (w.updateOrder id f).Coherent := by
  refine coherent_modifyOrder h fun d hd => ?_
  cases hfd : f d with
  | none => exact h id d hd
  | some d' => exact hf d d' hd hfd

/-- An order that was just claimed. -/
theorem OrdersCoherent.of_claimed {f : Order → Option Order} {d d' : Order}
    (h : w.Coherent) (hd : w.orders.get id = some d)
    (hf : f d = some d') (hd' : d'.Coherent) (hc : d'.Claimed)
    (hpc : pc.claiming = none ∨ (pc.claiming = some id ∧
      ∀ prev, pc.previousStatus = some prev → d'.GoesBack prev)) :
    OrdersCoherent (w.updateOrder id f) (.refund pc) := by
  refine ⟨coherent_updateOrder h fun d₁ d₁' hd₁ hf₁ => ?_, fun q i hq hi => ?_⟩
  · obtain rfl := Option.some.inj (hd.symm.trans hd₁)
    exact Option.some.inj (hf.symm.trans hf₁) ▸ hd'
  · obtain rfl : pc = q := Option.some.inj hq
    rcases hpc with hnone | ⟨hid, hprev⟩
    · cases hnone.symm.trans hi
    · obtain rfl := Option.some.inj (hid.symm.trans hi)
      exact ⟨d', get_updateOrder hd hf, hc, hprev⟩

/-- **Every step of a refund keeps the orders coherent.** -/
theorem refund_coherent (h : OrdersCoherent w (.refund pc)) (hm : RefundMove w pc r w' pc') :
    OrdersCoherent w' (.refund pc') := by
  have hown := fun id => h.claimed pc id rfl
  have idle : ∀ {v : World} {q : RefundPc}, v.Coherent →
      q.holds = none → OrdersCoherent v (.refund q) := fun hv hq =>
    .of_unclaimed hv fun pc hpc => Option.some.inj hpc ▸ RefundPc.claiming_of_holds hq
  cases hm with
  | idle _ h' => exact idle h.orders h'
  | lost => exact idle h.orders rfl
  | claimed hd hc hpc =>
    obtain ⟨hcoh, hclaimed, hback⟩ := (h.orders _ _ hd).claimForRefund hc
    refine .of_claimed h.orders hd hc hcoh hclaimed ?_
    rcases hpc with rfl | ⟨_, rfl⟩
    · exact Or.inr ⟨rfl, fun prev hp => Option.some.inj hp ▸ hback⟩
    · exact Or.inl rfl
  | called id order paymentRef previousStatus reply =>
    obtain ⟨d, hd, hc, hback⟩ := hown id rfl
    refine ⟨h.orders, fun q i hq hi => ?_⟩
    obtain rfl := Option.some.inj hq
    cases reply with
    | resolved =>
      cases hi
      exact ⟨d, hd, hc, by rintro _ ⟨⟩⟩
    | unknown message =>
      cases hi
      exact ⟨d, hd, hc, hback⟩
    | failed message =>
      cases hi
      exact ⟨d, hd, hc, hback⟩
  | @flagged id order d d' previousStatus reason r pc' hd hc hpc =>
    refine idle (coherent_updateOrder h.orders fun d₁ d₁' hd₁ hw => ?_) hpc
    obtain ⟨d₂, hd₂, _, hback⟩ := hown id rfl
    obtain rfl := Option.some.inj (hd₁.symm.trans hd₂)
    exact Order.coherent_flagAmbiguousRefund (hback previousStatus rfl) hw
  | unflagged _ hpc => exact idle h.orders hpc
  | @reverted id order previousStatus message r pc' hpc =>
    refine idle (coherent_modifyOrder h.orders fun d hd => ?_) hpc
    obtain ⟨d₂, hd₂, hc, hback⟩ := hown id rfl
    obtain rfl := Option.some.inj (hd.symm.trans hd₂)
    exact Order.coherent_revertFailedRefundClaim hc (hback previousStatus rfl)
  | disputed hpc =>
    refine idle (coherent_modifyOrder h.orders fun d hd => ?_) hpc
    have hwrite : OrderWrite w.now d d.flagDispute := .disputed
    exact (h.orders _ d hd).write hwrite
  | webhookClaimed hd hc hpc =>
    obtain ⟨hcoh, hclaimed, _⟩ := (h.orders _ _ hd).claimForRefund hc
    refine .of_claimed h.orders hd hc hcoh hclaimed ?_
    rcases hpc with rfl | ⟨_, rfl⟩
    · exact Or.inr ⟨rfl, by rintro _ ⟨⟩⟩
    · exact Or.inl rfl
  | cleared _ hpc =>
    exact idle (coherent_modifyOrder h.orders fun d hd => (h.orders _ d hd).saveRefundFlagCleared)
      hpc
  | reconciled hd hc hpc =>
    obtain ⟨hcoh, hclaimed⟩ := (h.orders _ _ hd).claimReconciledRefund hc
    refine .of_claimed h.orders hd hc hcoh hclaimed ?_
    rcases hpc with rfl | ⟨_, rfl⟩
    · exact Or.inr ⟨rfl, by rintro _ ⟨⟩⟩
    · exact Or.inl rfl
  | gone _ hpc => exact idle h.orders hpc
  | @readBack id d hd =>
    refine ⟨h.orders, fun q i hq hi => ?_⟩
    obtain rfl := Option.some.inj hq
    cases hi
    obtain ⟨d₁, hd₁, hc, _⟩ := hown id rfl
    exact ⟨d₁, hd₁, hc, by rintro _ ⟨⟩⟩
  | @finalized id order r pc' hpc =>
    refine .of_unclaimed (coherent_modifyOrder h.orders fun d hd => ?_) fun q hq => ?_
    · obtain ⟨d₁, hd₁, hc, _⟩ := hown id rfl
      obtain rfl := Option.some.inj (hd.symm.trans hd₁)
      exact (h.orders id d hd).saveFinalizedRefund hc w.now
    · obtain rfl := Option.some.inj hq
      rcases hpc with rfl | ⟨_, rfl⟩
      · rw [RefundPc.afterFinalize]
        split <;> rfl
      · rfl
  | recorded hpc => exact idle h.orders hpc

/-- So does each step of any other call. -/
theorem call_coherent (h : OrdersCoherent w p) (hs : stepCall w p r = some (w', p')) :
    OrdersCoherent w' p' := by
  have kept : ∀ {v : World}, w.SameRefunds v → v.Coherent := by
    intro v hv i d hd
    obtain ⟨d₀, hd₀, he⟩ := hv.symm.order hd
    exact (h.orders i d₀ hd₀).of_withoutClaims he.symm
  cases p with
  | batch pc =>
    obtain ⟨pc', hcall, rfl⟩ := step_batch hs
    exact .of_unclaimed (kept (batch_sameRefunds hcall)) fun _ hq => by cases hq
  | refund pc =>
    obtain ⟨pc', hcall, rfl⟩ := step_refund hs
    exact refund_coherent h (refund_move hcall)
  | resolve pc =>
    obtain ⟨pc', hcall, rfl⟩ := step_resolve hs
    exact .of_unclaimed (kept (resolve_sameRefunds hcall)) fun _ hq => by cases hq

theorem start_coherent (h : w.Coherent) (k : Request) :
    OrdersCoherent w (startCall w k) := by
  refine .of_unclaimed h fun pc hpc => ?_
  cases k with
  | runWeeklyBatch => cases hpc
  | refund request => cases request <;> cases hpc <;> rfl
  | resolveReconciliation id admin answer => cases hpc

theorem env_coherent {dir : Directory} {e : EnvEvent}
    (h : w.Coherent) (he : envStep dir w e = some w') : w'.Coherent := by
  cases e with
  | place seller customer currency provider fee total amount =>
    cases he
    intro id d hd
    rcases Collection.get_create_cases hd with ⟨_, rfl⟩ | ⟨_, hd⟩
    · exact Order.coherent_created seller customer w.now currency provider fee total amount
    · exact h id d hd
  | order id call =>
    simp only [envStep] at he
    split at he
    · cases he
    · rename_i d hd
      split at he
      · rename_i d' hrun
        cases he
        exact coherent_modifyOrder h fun _ _ => (h id d hd).write (OrderCall.write_of_run hrun)
      · cases he
        exact h
  | vendors vs =>
    cases he
    exact h
  | tick =>
    cases he
    exact h

end Steps

/-! ## Operations one after another -/

/-- An operation that is carried through before the next begins: what the environment does,
or a call with the answers it gets. -/
inductive Operation
  | env (e : EnvEvent)
  | call (request : Request) (replies : List Reply)

/-- The collections after an operation, if its call ends. -/
def Operation.run (dir : Directory) (w : World) : Operation → Option World
  | .env e => envStep dir w e
  | .call request replies =>
    (play stepCall [] w (startCall w request) replies).bind fun o =>
      if o.2.2.ended then some o.2.1 else none

/-- Operations one after another. -/
def runOperations (dir : Directory) (w : World) (ops : List Operation) : Option World :=
  ops.foldlM (Operation.run dir) w

section Runs

variable {dir : Directory} {w w' : World}

/-- **An operation keeps the orders coherent.** -/
theorem operation_coherent {op : Operation} (h : w.Coherent)
    (hr : op.run dir w = some w') : w'.Coherent := by
  cases op with
  | env e => exact env_coherent h hr
  | call request replies =>
    simp only [Operation.run, Option.bind_eq_some_iff, Option.ite_none_right_eq_some] at hr
    obtain ⟨⟨tr, w₁, p⟩, hplay, _, heq⟩ := hr
    obtain rfl := Option.some.inj heq
    have htrace : Trace stepCall (fun _ _ _ => False) w (startCall w request) tr w₁ p :=
      trace_of_play .start hplay
    exact (htrace.invariant (I := fun _ v q => OrdersCoherent v q) (start_coherent h request)
      (fun _ _ _ _ _ _ hv hs => call_coherent hv hs) (fun _ _ _ _ _ hr => hr.elim)).orders

theorem operations_coherent (ops : List Operation)
    (h : w.Coherent) (hr : runOperations dir w ops = some w') : w'.Coherent := by
  induction ops generalizing w with
  | nil =>
    cases hr
    exact h
  | cons op ops ih =>
    rw [runOperations, List.foldlM_cons, Option.bind_eq_bind, Option.bind_eq_some_iff] at hr
    obtain ⟨w₁, hop, hrest⟩ := hr
    exact ih (operation_coherent h hop) hrest

/-- **The fields of every order go together**, whatever operations have been carried through
one after another on a platform that began empty. -/
theorem coherent_of_operations {vendors : List PayoutVendor} (ops : List Operation)
    (hr : runOperations dir (.empty vendors) ops = some w) {id : OrderId} {d : Order}
    (hd : w.orders.get id = some d) : d.Coherent :=
  operations_coherent ops (fun _ _ h => absurd h (by simp [World.empty])) hr id d hd

/-- An order is delivered; a refund of it fails, another has an unknown outcome, and an admin
confirms that one. -/
def confirmedRefund : List Operation :=
  (deliveredOrder 0).filterMap (fun
    | .env e => some (.env e)
    | _ => none) ++
  [.call (.refund (.refundOrder 0)) [.db .ok, .db .ok, .refund (.failed "declined"), .db .ok],
    .call (.refund (.refundOrder 0)) [.db .ok, .db .ok, .refund (.unknown "timeout"), .db .ok],
    .call (.refund (.resolveRefundReconciliation 0 true)) [.db .ok, .db .ok, .db .ok, .db .ok]]

theorem coherent_of_confirmedRefund :
    ∃ w d, runOperations soleOwner (.empty soleRestaurant) confirmedRefund = some w ∧
      w.orders.get 0 = some d ∧ d.paymentStatus = .refunded ∧ d.Coherent := by
  have hrun : (runOperations soleOwner (.empty soleRestaurant) confirmedRefund).any (fun w =>
      (w.orders.get 0).any fun d => decide (d.paymentStatus = .refunded)) = true := by
    decide +kernel
  obtain ⟨w, hw, hd⟩ := (Option.any_eq_true _ _).mp hrun
  obtain ⟨d, hd, hp⟩ := (Option.any_eq_true _ _).mp hd
  exact ⟨w, d, hw, hd, of_decide_eq_true hp, coherent_of_operations confirmedRefund hw hd⟩

end Runs

end FoodDelivery
