import FoodDelivery.System

/-!
# One refund at a time

`claimForRefund` moves an order to `REFUNDED` before anybody asks the provider,
and the call that made the move holds the order until it finalizes, reverts or
flags it.

* `RefundsOk`: what the stored orders and clawbacks satisfy in between.
* `refunds_kept`: no two calls ever hold one order, whatever the order of their
  steps and whichever database calls fail.
-/

namespace FoodDelivery

open Store Interleave

namespace Order

/-- Claimed for a refund whose outcome is not recorded. -/
structure Claimed (d : Order) : Prop where
  status : d.status = .refunded
  paid : d.paymentStatus = .succeeded
  unflagged : d.refundReconciliationRequired = false

/-- Refunded for good. -/
structure Refunded (d : Order) : Prop where
  status : d.status = .refunded
  refunded : d.paymentStatus = .refunded

/-- A flagged order is refundable again but for its flag, and only a refunded
order has its payment refunded. -/
structure Settled (d : Order) : Prop where
  flagged : d.refundReconciliationRequired = true →
    d.status ∈ refundableStatuses ∧ d.paymentStatus = .succeeded
  refunded : d.paymentStatus = .refunded → d.status = .refunded

/-- A write that a refund in progress does not notice. -/
structure Calm (d d' : Order) : Prop where
  amount : d'.restaurantPayoutAmount = d.restaurantPayoutAmount
  claimed : d.Claimed → d'.Claimed
  refunded : d.Refunded → d'.Refunded

theorem Calm.of_withoutClaims {d d' : Order} (h : d'.withoutClaims = d.withoutClaims) :
    Calm d d' := by
  obtain ⟨hs, hp, hf, ha⟩ := fields_of_withoutClaims h
  exact ⟨ha, fun hc => ⟨hs ▸ hc.1, hp ▸ hc.2, hf ▸ hc.3⟩, fun hr => ⟨hs ▸ hr.1, hp ▸ hr.2⟩⟩

theorem Settled.of_withoutClaims {d d' : Order} (h : d'.withoutClaims = d.withoutClaims)
    (hd : d.Settled) : d'.Settled := by
  obtain ⟨hs, hp, hf, _⟩ := fields_of_withoutClaims h
  exact ⟨fun hfl => by rw [hs, hp]; exact hd.flagged (hf ▸ hfl), fun hr => by
    rw [hs]; exact hd.refunded (hp ▸ hr)⟩

/-- A claim needs a status that no refund in progress leaves. -/
theorem Calm.of_refundable {d d' : Order} (hs : d.status ∈ refundableStatuses)
    (ha : d'.restaurantPayoutAmount = d.restaurantPayoutAmount) : Calm d d' := by
  have hne : d.status ≠ .refunded := fun h => by rw [h] at hs; revert hs; decide
  exact ⟨ha, fun hc => absurd hc.status hne, fun hr => absurd hr.status hne⟩

end Order

theorem Progress.calm {d d' : Order} (h : Progress d d') : d.Calm d' where
  amount := h.amount
  claimed hc := ⟨(h.settled (Or.inr hc.status)).trans hc.status, h.paid hc.paid,
    h.flag.trans hc.unflagged⟩
  refunded hr := ⟨(h.settled (Or.inr hr.status)).trans hr.status, h.refunded hr.refunded hr.status⟩

theorem Progress.keepsSettled {d d' : Order} (h : Progress d d') (hd : d.Settled) : d'.Settled where
  flagged hf := by
    obtain ⟨hs, hp⟩ := hd.flagged (h.flag ▸ hf)
    rw [h.settled (Or.inl hs)]
    exact ⟨hs, h.paid hp⟩
  refunded hr := by
    have hs := hd.refunded (h.notRefunded hr)
    exact (h.settled (Or.inr hs)).trans hs

/-- What the stored orders and clawbacks satisfy at any time. -/
structure RefundsOk (w : World) : Prop where
  settled : ∀ o d, w.orders.get o = some d → d.Settled
  clawback : ∀ i c, w.clawbacks.get i = some c → ∃ d, w.orders.get c.orderId = some d ∧
    d.Refunded ∧ c.amount = d.restaurantPayoutAmount.val
  unique : ∀ i j c c', w.clawbacks.get i = some c → w.clawbacks.get j = some c' →
    c.orderId = c'.orderId → i = j

namespace RefundPc

/-- The order a call has claimed and neither finalized nor given back. -/
def claiming : RefundPc → Option OrderId
  | .adapter id _ _ _ => some id
  | .flag id _ _ _ => some id
  | .revert id _ _ _ => some id
  | .finalizeRead id => some id
  | .finalizeSave id _ => some id
  | _ => none

/-- The status a call may put an order back to. -/
def previousStatus : RefundPc → Option OrderStatus
  | .adapter _ _ _ prev => some prev
  | .flag _ _ prev _ => some prev
  | .revert _ _ prev _ => some prev
  | _ => none

/-- The document `finalizeRefund` read. -/
def snapshot : RefundPc → Option (OrderId × Order)
  | .finalizeSave id order => some (id, order)
  | .recordClawback id order _ => some (id, order)
  | _ => none

theorem holds_of_claiming {pc : RefundPc} {id : OrderId} (h : pc.claiming = some id) :
    pc.holds = some id := by cases pc <;> first | exact h | cases h

theorem holds_of_snapshot {pc : RefundPc} {id : OrderId} {order : Order}
    (h : pc.snapshot = some (id, order)) : pc.holds = some id := by cases pc <;> cases h <;> rfl

end RefundPc

/-- What a call of the refund flow knows of the order it holds. -/
structure RefundKnows (w : World) (pc : RefundPc) : Prop where
  claimed : ∀ id, pc.claiming = some id → ∃ d, w.orders.get id = some d ∧ d.Claimed
  previous : ∀ prev, pc.previousStatus = some prev → prev ∈ refundableStatuses
  snapshot : ∀ id order, pc.snapshot = some (id, order) → ∃ d, w.orders.get id = some d ∧
    order.restaurantPayoutAmount = d.restaurantPayoutAmount
  recording : ∀ id order payoutId, pc = .recordClawback id order payoutId →
    order.vendorPayoutId = some payoutId ∧ (∃ d, w.orders.get id = some d ∧ d.Refunded) ∧
      ∀ i c, w.clawbacks.get i = some c → c.orderId ≠ id

namespace Proc

/-- The order whose refund claim a call holds. -/
def holds (p : Proc) : Option OrderId := p.refunding.bind RefundPc.holds

end Proc

def refunds : Outline World Proc where
  shared := RefundsOk
  proc w p := ∀ pc, p.refunding = some pc → RefundKnows w pc
  compat p q := ∀ id, p.holds = some id → q.holds ≠ some id
  symm _ _ h id hq hp := h id hp hq

section Writes

variable {w w' : World} {pc : RefundPc} {id : OrderId}

/-- A step that no refund in progress notices. -/
structure Calms (w w' : World) : Prop where
  orders : ∀ o d, w.orders.get o = some d → ∃ d', w'.orders.get o = some d' ∧ d.Calm d'
  clawbacks : ∀ i c', w'.clawbacks.get i = some c' →
    ∃ c, w.clawbacks.get i = some c ∧ c'.orderId = c.orderId ∧ c'.amount = c.amount

/-- A step that touches one order and its clawbacks. -/
structure Aside (id : OrderId) (w w' : World) : Prop where
  orders : ∀ o, o ≠ id → w'.orders.get o = w.orders.get o
  clawbacks : ∀ i c, w'.clawbacks.get i = some c → c.orderId ≠ id → w.clawbacks.get i = some c

theorem RefundKnows.of_idle (h : pc.holds = none) : RefundKnows w pc where
  claimed id hid := by cases h.symm.trans (RefundPc.holds_of_claiming hid)
  previous prev hp := by cases pc <;> cases hp <;> cases h
  snapshot id order hs := by cases h.symm.trans (RefundPc.holds_of_snapshot hs)
  recording id order payoutId he := by subst he; cases h

theorem RefundKnows.calms (h : RefundKnows w pc) (hw : Calms w w') : RefundKnows w' pc where
  claimed id hid := by
    obtain ⟨d, hd, hc⟩ := h.claimed id hid
    obtain ⟨d', hd', hcalm⟩ := hw.orders id d hd
    exact ⟨d', hd', hcalm.claimed hc⟩
  previous := h.previous
  snapshot id order hs := by
    obtain ⟨d, hd, ha⟩ := h.snapshot id order hs
    obtain ⟨d', hd', hcalm⟩ := hw.orders id d hd
    exact ⟨d', hd', ha.trans hcalm.amount.symm⟩
  recording id order payoutId he := by
    obtain ⟨hp, ⟨d, hd, hr⟩, hno⟩ := h.recording id order payoutId he
    obtain ⟨d', hd', hcalm⟩ := hw.orders id d hd
    refine ⟨hp, ⟨d', hd', hcalm.refunded hr⟩, fun i c' hc' => ?_⟩
    obtain ⟨c, hc, ho, _⟩ := hw.clawbacks i c' hc'
    exact ho ▸ hno i c hc

theorem RefundKnows.aside (h : RefundKnows w pc) (hw : Aside id w w') (hne : pc.holds ≠ some id) :
    RefundKnows w' pc where
  claimed id' hid := by
    have hid' : id' ≠ id := fun he => hne (he ▸ RefundPc.holds_of_claiming hid)
    rw [hw.orders id' hid']
    exact h.claimed id' hid
  previous := h.previous
  snapshot id' order hs := by
    have hid' : id' ≠ id := fun he => hne (he ▸ RefundPc.holds_of_snapshot hs)
    rw [hw.orders id' hid']
    exact h.snapshot id' order hs
  recording id' order payoutId he := by
    have hid' : id' ≠ id := fun hi => hne (by subst he; exact congrArg some hi)
    obtain ⟨hp, hd, hno⟩ := h.recording id' order payoutId he
    refine ⟨hp, by rw [hw.orders id' hid']; exact hd, fun i c hc ho => ?_⟩
    exact hno i c (hw.clawbacks i c hc (ho ▸ hid')) ho

theorem Calms.of_sameRefunds (h : w.SameRefunds w') : Calms w w' where
  orders o d hd := by
    obtain ⟨d', hd', he⟩ := h.order hd
    exact ⟨d', hd', .of_withoutClaims he⟩
  clawbacks i c' hc' := by
    obtain ⟨c, hc, he⟩ := h.symm.clawback hc'
    obtain ⟨ho, ha⟩ := PayoutClawback.fields_of_recorded he
    exact ⟨c, hc, ho.symm, ha.symm⟩

theorem calms_modifyOrder {g : Order → Order}
    (hg : ∀ d, w.orders.get id = some d → d.Calm (g d)) : Calms w (w.modifyOrder id g) where
  orders o d hd := by
    by_cases ho : id = o
    · subst ho
      exact ⟨g d, by rw [World.modifyOrder, Collection.get_modify_self, hd, Option.map_some],
        hg d hd⟩
    · exact ⟨d, (Collection.get_modify_ne ho).trans hd, ⟨rfl, fun h => h, fun h => h⟩⟩
  clawbacks i c' hc' := ⟨c', hc', rfl, rfl⟩

theorem aside_modifyOrder {g : Order → Order} : Aside id w (w.modifyOrder id g) :=
  ⟨fun _ ho => Collection.get_modify_ne ho.symm, fun _ _ hc _ => hc⟩

theorem aside_createClawback {order : Order} {payoutId : PayoutId} :
    Aside id w (w.createClawback (.ofOrder id order payoutId)) := by
  refine ⟨fun _ _ => rfl, fun i c hc hne => ?_⟩
  rcases Collection.get_create_cases hc with ⟨_, rfl⟩ | ⟨_, hc⟩
  · exact absurd rfl hne
  · exact hc

/-- Writes that leave the refunded orders refunded. -/
theorem RefundsOk.of_orders (h : RefundsOk w)
    (hs : ∀ o d', w'.orders.get o = some d' → d'.Settled)
    (hr : ∀ o d, w.orders.get o = some d → d.Refunded → ∃ d', w'.orders.get o = some d' ∧
      d'.Refunded ∧ d'.restaurantPayoutAmount = d.restaurantPayoutAmount)
    (hc : ∀ i c', w'.clawbacks.get i = some c' →
      ∃ c, w.clawbacks.get i = some c ∧ c'.orderId = c.orderId ∧ c'.amount = c.amount) :
    RefundsOk w' where
  settled := hs
  clawback i c' hc' := by
    obtain ⟨c, hc, ho, ha⟩ := hc i c' hc'
    obtain ⟨d, hd, href, hamount⟩ := h.clawback i c hc
    obtain ⟨d', hd', href', hsame⟩ := hr _ d hd href
    exact ⟨d', ho ▸ hd', href', by rw [ha, hamount, hsame]⟩
  unique i j c c' hi hj he := by
    obtain ⟨b, hb, ho, _⟩ := hc i c hi
    obtain ⟨b', hb', ho', _⟩ := hc j c' hj
    exact h.unique i j b b' hb hb' (by rw [← ho, he, ho'])

theorem RefundsOk.sameRefunds (h : RefundsOk w) (hw : w.SameRefunds w') : RefundsOk w' := by
  have hcalm := Calms.of_sameRefunds hw
  refine h.of_orders (fun o d' hd' => ?_) (fun o d hd hr => ?_) hcalm.clawbacks
  · obtain ⟨d, hd, he⟩ := hw.symm.order hd'
    exact (h.settled o d hd).of_withoutClaims he.symm
  · obtain ⟨d', hd', hc⟩ := hcalm.orders o d hd
    exact ⟨d', hd', hc.refunded hr, hc.amount⟩

theorem RefundsOk.modifyOrder (h : RefundsOk w) {g : Order → Order}
    (hs : ∀ d, w.orders.get id = some d → (g d).Settled)
    (hr : ∀ d, w.orders.get id = some d → d.Refunded → (g d).Refunded ∧
      (g d).restaurantPayoutAmount = d.restaurantPayoutAmount) :
    RefundsOk (w.modifyOrder id g) := by
  refine h.of_orders (fun o d' hd' => ?_) (fun o d hd href => ?_)
    fun i c' hc' => ⟨c', hc', rfl, rfl⟩
  · rcases Collection.get_modify_cases hd' with ⟨rfl, d, hd, rfl⟩ | ⟨_, hd⟩
    · exact hs d hd
    · exact h.settled o d' hd
  · by_cases ho : id = o
    · subst ho
      exact ⟨g d, by rw [World.modifyOrder, Collection.get_modify_self, hd, Option.map_some],
        hr d hd href⟩
    · exact ⟨d, (Collection.get_modify_ne ho).trans hd, href, rfl⟩

end Writes

section Step

variable {w w' : World} {pc pc' : RefundPc} {r : Reply}

/-- A held order reads `REFUNDED`. -/
theorem RefundKnows.status_of_holds (h : RefundKnows w pc) {id : OrderId}
    (hid : pc.holds = some id) : ∃ d, w.orders.get id = some d ∧ d.status = .refunded := by
  by_cases hc : pc.claiming = some id
  · obtain ⟨d, hd, hclaimed⟩ := h.claimed id hc
    exact ⟨d, hd, hclaimed.status⟩
  · cases pc <;> cases hid <;> first | exact absurd rfl hc | skip
    obtain ⟨_, ⟨d, hd, hr⟩, _⟩ := h.recording _ _ _ rfl
    exact ⟨d, hd, hr.status⟩

/-- What a move of one call must leave true for the others. -/
structure RefundKept (w : World) (pc : RefundPc) (w' : World) (pc' : RefundPc) : Prop where
  shared : RefundsOk w'
  own : RefundKnows w' pc'
  others : ∀ q, RefundKnows w q → (∀ id, pc.holds = some id → q.holds ≠ some id) →
    RefundKnows w' q
  holds : ∀ id, pc'.holds = some id → pc.holds = some id ∨
    ∃ d, w.orders.get id = some d ∧ d.status ∈ refundableStatuses

theorem RefundKept.idle (hok : RefundsOk w) (hpc : pc'.holds = none) : RefundKept w pc w pc' :=
  ⟨hok, .of_idle hpc, fun _ hq _ => hq, fun _ hid => by cases hpc.symm.trans hid⟩

/-- A successful claim: nobody held the order before. -/
theorem refund_claims {id : OrderId} {f : Order → Option Order} {d d' : Order}
    (hok : RefundsOk w) (hd : w.orders.get id = some d) (hf : f d = some d')
    (hs : d.status ∈ refundableStatuses) (hc : d'.Claimed)
    (ha : d'.restaurantPayoutAmount = d.restaurantPayoutAmount)
    (hpc : pc'.holds = none ∨ (pc'.claiming = some id ∧ pc'.snapshot = none ∧
      ∀ prev, pc'.previousStatus = some prev → prev = d.status)) :
    RefundKept w pc (w.updateOrder id f) pc' := by
  have hget : ∀ d₁, w.orders.get id = some d₁ → (f d₁).getD d₁ = d' := by
    intro d₁ hd₁
    obtain rfl := Option.some.inj (hd.symm.trans hd₁)
    rw [hf, Option.getD_some]
  have hcalm : Calms w (w.updateOrder id f) := calms_modifyOrder fun d₁ hd₁ => by
    rw [hget d₁ hd₁]
    obtain rfl := Option.some.inj (hd.symm.trans hd₁)
    exact .of_refundable hs ha
  refine ⟨hok.modifyOrder (fun d₁ hd₁ => ?_) (fun d₁ hd₁ hr => ?_), ?_,
    fun q hq _ => hq.calms hcalm, fun id' hid => ?_⟩
  · rw [hget d₁ hd₁]
    exact ⟨fun hfl => (by cases hc.unflagged.symm.trans hfl), fun _ => hc.status⟩
  · obtain rfl := Option.some.inj (hd.symm.trans hd₁)
    rw [hr.status] at hs
    exact absurd hs (by decide)
  · rcases hpc with hpc | ⟨hpc, hsnap, hprev⟩
    · exact .of_idle hpc
    · refine ⟨fun id' hid => ?_, fun prev hp => hprev prev hp ▸ hs, fun id' order hsn => ?_,
        fun id' order payoutId he => ?_⟩
      · obtain rfl := Option.some.inj (hpc.symm.trans hid)
        exact ⟨d', get_updateOrder hd hf, hc⟩
      · cases hsnap.symm.trans hsn
      · subst he
        cases hpc
  · rcases hpc with hpc | ⟨hpc, _⟩
    · cases hpc.symm.trans hid
    · rw [RefundPc.holds_of_claiming hpc] at hid
      obtain rfl := Option.some.inj hid
      exact Or.inr ⟨d, hd, hs⟩

/-- A write by the call that holds the order, and that gives it up. -/
theorem refund_gives_up {id : OrderId} {g : Order → Order} (hok : RefundsOk w)
    (hid : pc.holds = some id) (hs : ∀ d, w.orders.get id = some d → (g d).Settled)
    (hr : ∀ d, w.orders.get id = some d → d.Refunded → g d = d) (hpc : pc'.holds = none) :
    RefundKept w pc (w.modifyOrder id g) pc' :=
  ⟨hok.modifyOrder hs fun d hd href => by rw [hr d hd href]; exact ⟨href, rfl⟩, .of_idle hpc,
    fun _ hq hne => hq.aside aside_modifyOrder (hne id hid),
    fun _ hid' => by cases hpc.symm.trans hid'⟩

/-- A write that no refund in progress notices, by a call that holds nothing. -/
theorem refund_calm {id : OrderId} {g : Order → Order} (hok : RefundsOk w)
    (hs : ∀ d, w.orders.get id = some d → (g d).Settled)
    (hg : ∀ d, w.orders.get id = some d → d.Calm (g d)) (hpc : pc'.holds = none) :
    RefundKept w pc (w.modifyOrder id g) pc' :=
  ⟨hok.modifyOrder hs fun d hd href => ⟨(hg d hd).refunded href, (hg d hd).amount⟩,
    .of_idle hpc, fun _ hq _ => hq.calms (calms_modifyOrder hg),
    fun _ hid' => by cases hpc.symm.trans hid'⟩

/-- The refund history is no part of what anybody knows. -/
theorem RefundKept.log (h : RefundKept w pc w' pc') {e : RefundEvent} :
    RefundKept w pc (w'.log e) pc' :=
  ⟨⟨h.shared.settled, h.shared.clawback, h.shared.unique⟩,
    ⟨h.own.claimed, h.own.previous, h.own.snapshot, h.own.recording⟩,
    fun q hq hne => ⟨(h.others q hq hne).claimed, (h.others q hq hne).previous,
      (h.others q hq hne).snapshot, (h.others q hq hne).recording⟩, h.holds⟩

/-- **A move of the refund flow** keeps what the stored documents satisfy and what
every call knows. -/
theorem refund_kept (hm : RefundMove w pc r w' pc') (hok : RefundsOk w) (h : RefundKnows w pc) :
    RefundKept w pc w' pc' := by
  cases hm with
  | idle hpc hpc' => exact .idle hok hpc'
  | lost written message => exact .idle hok rfl
  | @claimed id order d d' ref r pc' hd hc hpc =>
    obtain ⟨⟨hs, hp, hf⟩, rfl⟩ := Order.claimForRefund_eq_some.mp hc
    refine refund_claims hok hd hc hs ⟨rfl, hp, hf⟩ rfl ?_
    rcases hpc with rfl | ⟨_, rfl⟩
    · exact Or.inr ⟨rfl, rfl, fun prev hprev => (Option.some.inj hprev).symm⟩
    · exact Or.inl rfl
  | called id order ref prev reply =>
    refine RefundKept.log ⟨hok, ?_, fun _ hq _ => hq, fun id' hid => ?_⟩
    · cases reply with
      | resolved =>
        exact ⟨h.claimed, fun _ hp => (by cases hp), fun _ _ hs => (by cases hs),
          fun _ _ _ he => by cases he⟩
      | unknown m =>
        exact ⟨h.claimed, h.previous, fun _ _ hs => (by cases hs), fun _ _ _ he => by cases he⟩
      | failed m =>
        exact ⟨h.claimed, h.previous, fun _ _ hs => (by cases hs), fun _ _ _ he => by cases he⟩
    · cases reply <;> exact Or.inl hid
  | @flagged id order d d' prev reason r pc' hd hc hpc =>
    obtain ⟨⟨hs, hp⟩, rfl⟩ := Order.flagAmbiguousRefund_eq_some.mp hc
    refine RefundKept.log (refund_gives_up hok rfl (fun d₁ hd₁ => ?_) (fun d₁ hd₁ hr => ?_) hpc)
    · obtain rfl := Option.some.inj (hd.symm.trans hd₁)
      simp only [hc, Option.getD_some]
      exact ⟨fun _ => ⟨h.previous prev rfl, hp⟩, fun hr => by cases hp.symm.trans hr⟩
    · obtain rfl := Option.some.inj (hd.symm.trans hd₁)
      cases hp.symm.trans hr.refunded
  | unflagged hnone hpc => exact .idle hok hpc
  | @reverted id order prev message r pc' hpc =>
    refine refund_gives_up hok rfl (fun d hd => ?_) (fun d hd hr => ?_) hpc
    · obtain ⟨d₁, hd₁, hc⟩ := h.claimed id rfl
      obtain rfl := Option.some.inj (hd.symm.trans hd₁)
      simp only [Order.revertFailedRefundClaim, if_pos (And.intro hc.status hc.paid),
        Option.getD_some]
      exact ⟨fun hf => (by cases hc.unflagged.symm.trans hf),
        fun hr => by cases hc.paid.symm.trans hr⟩
    · have hno : ¬ (d.status = .refunded ∧ d.paymentStatus = .succeeded) :=
        fun hg => by cases hg.2.symm.trans hr.refunded
      simp only [Order.revertFailedRefundClaim, if_neg hno, Option.getD_none]
  | disputed hpc =>
    refine refund_calm hok (fun d hd => ?_)
      (fun d _ => ⟨rfl, fun hc => ⟨hc.1, hc.2, hc.3⟩, fun hr => ⟨hr.1, hr.2⟩⟩) hpc
    exact ⟨(hok.settled _ d hd).flagged, (hok.settled _ d hd).refunded⟩
  | @webhookClaimed id d d' r pc' hd hc hpc =>
    obtain ⟨⟨hs, hp, hf⟩, rfl⟩ := Order.claimForRefund_eq_some.mp hc
    refine refund_claims hok hd hc hs ⟨rfl, hp, hf⟩ rfl ?_
    rcases hpc with rfl | ⟨_, rfl⟩
    · exact Or.inr ⟨rfl, rfl, fun _ hprev => by cases hprev⟩
    · exact Or.inl rfl
  | cleared _ hpc =>
    refine RefundKept.log (refund_calm hok (fun d hd => ?_) (fun d _ => ?_) hpc)
    · exact ⟨fun hf => (by cases hf), (hok.settled _ d hd).refunded⟩
    · exact ⟨rfl, fun hc => ⟨hc.1, hc.2, rfl⟩, fun hr => ⟨hr.1, hr.2⟩⟩
  | @reconciled id d d' r pc' hd hc hpc =>
    obtain ⟨hf, rfl⟩ := Order.claimReconciledRefund_eq_some.mp hc
    obtain ⟨hs, hp⟩ := (hok.settled id d hd).flagged hf
    refine refund_claims hok hd hc hs ⟨rfl, hp, rfl⟩ rfl ?_
    rcases hpc with rfl | ⟨_, rfl⟩
    · exact Or.inr ⟨rfl, rfl, fun _ hprev => by cases hprev⟩
    · exact Or.inl rfl
  | gone hnone hpc => exact .idle hok hpc
  | @readBack id d hd =>
    refine ⟨hok, ⟨h.claimed, fun _ hp => (by cases hp), fun id' order hs => ?_,
      fun _ _ _ he => by cases he⟩, fun _ hq _ => hq, fun _ hid => Or.inl hid⟩
    cases hs
    exact ⟨d, hd, rfl⟩
  | @finalized id order r pc' hpc =>
    obtain ⟨d, hd, hc⟩ := h.claimed id rfl
    obtain ⟨d₁, hd₁, hamount⟩ := h.snapshot id order rfl
    obtain rfl := Option.some.inj (hd.symm.trans hd₁)
    have hget : (w.modifyOrder id (·.saveFinalizedRefund w.now)).orders.get id =
        some (d.saveFinalizedRefund w.now) := by
      rw [World.modifyOrder, Collection.get_modify_self, hd, Option.map_some]
    refine ⟨hok.modifyOrder (fun d₁ hd₁ => ?_) (fun d₁ hd₁ hr => ?_), ?_,
      fun _ hq hne => hq.aside aside_modifyOrder (hne id rfl), fun id' hid => ?_⟩
    · obtain rfl := Option.some.inj (hd.symm.trans hd₁)
      exact ⟨fun hf => (by cases hc.unflagged.symm.trans hf), fun _ => hc.status⟩
    · exact ⟨⟨hr.status, rfl⟩, rfl⟩
    · rcases hpc with rfl | ⟨_, rfl⟩
      · cases hp : order.vendorPayoutId with
        | none => exact .of_idle (by rw [RefundPc.afterFinalize, hp]; rfl)
        | some payoutId =>
          rw [RefundPc.afterFinalize, hp]
          refine ⟨fun _ hid => (by cases hid), fun _ hprev => (by cases hprev), fun id' o hs => ?_,
            fun id' o p he => ?_⟩
          · cases hs
            exact ⟨_, hget, hamount⟩
          · cases he
            refine ⟨hp, ⟨_, hget, hc.status, rfl⟩, fun i c hi ho => ?_⟩
            obtain ⟨d₁, hd₁, hr, _⟩ := hok.clawback i c hi
            rw [ho, hd] at hd₁
            obtain rfl := Option.some.inj hd₁
            cases hc.paid.symm.trans hr.refunded
      · exact .of_idle rfl
    · rcases hpc with rfl | ⟨_, rfl⟩
      · rw [RefundPc.afterFinalize] at hid
        split at hid
        · cases hid
        · exact Or.inl hid
      · cases hid
  | @recorded id order payoutId r pc' hpc =>
    obtain ⟨_, ⟨d, hd, hr⟩, hno⟩ := h.recording id order payoutId rfl
    obtain ⟨d₁, hd₁, hamount⟩ := h.snapshot id order rfl
    obtain rfl := Option.some.inj (hd.symm.trans hd₁)
    refine ⟨⟨hok.settled, fun i c hi => ?_, fun i j c c' hi hj he => ?_⟩, .of_idle hpc,
      fun _ hq hne => hq.aside aside_createClawback (hne id rfl),
      fun _ hid => by cases hpc.symm.trans hid⟩
    · rcases Collection.get_create_cases hi with ⟨_, rfl⟩ | ⟨_, hi⟩
      · exact ⟨d, hd, hr, congrArg Price.val hamount⟩
      · exact hok.clawback i c hi
    · rcases Collection.get_create_cases hi with ⟨hi', rfl⟩ | ⟨_, hi⟩ <;>
        rcases Collection.get_create_cases hj with ⟨hj', rfl⟩ | ⟨_, hj⟩
      · rw [hi', hj']
      · exact absurd he.symm (hno j c' hj)
      · exact absurd he (hno i c hi)
      · exact hok.unique i j c c' hi hj he

end Step

/-! ## Runs -/

/-- A step of the payout side keeps what refunds know. -/
theorem refunds_payout_step {s : Sys} {w : World} {p' : Proc} (h : refunds.Holds s)
    (hw : s.shared.SameRefunds w) (hp : p'.refunding = none) :
    refunds.shared w ∧ refunds.proc w p' ∧
      ∀ q, refunds.proc s.shared q → refunds.proc w q ∧ refunds.compat p' q := by
  have hnone : p'.holds = none := by rw [Proc.holds, hp, Option.bind_none]
  exact ⟨RefundsOk.sameRefunds h.shared hw, fun pc hpc => (by cases hp.symm.trans hpc),
    fun q hq => ⟨fun pc hpc => (hq pc hpc).calms (.of_sameRefunds hw),
      fun id hid => by cases hnone.symm.trans hid⟩⟩

/-- **No two calls hold one order**, whatever the order of their steps and
whichever database calls fail. -/
theorem refunds_kept (dir : Directory) :
    refunds.Kept (system dir) (fun _ _ => True) fun _ => True where
  spawn s k _ _ _ := by
    have hidle : ∀ pc, (startCall s.shared k).refunding = some pc → pc.holds = none := by
      intro pc hpc
      cases k with
      | runWeeklyBatch => cases hpc
      | resolveReconciliation id admin answer => cases hpc
      | refund request => cases request <;> cases hpc <;> rfl
    refine ⟨fun pc hpc => .of_idle (hidle pc hpc), fun q _ id hid => ?_⟩
    obtain ⟨pc, hpc, hh⟩ := Option.bind_eq_some_iff.mp hid
    cases (hidle pc hpc).symm.trans hh
  env s e w _ _ h hw := by
    rcases env_cases hw with ⟨d, _, hs, hp, hf, rfl⟩ | ⟨id, d, d', hd, hprog, rfl⟩ |
      ⟨ho, _, hc, _, _⟩
    · have hget : ∀ o d₁, s.shared.orders.get o = some d₁ →
          (s.shared.createOrder d).orders.get o = some d₁ :=
        fun o d₁ hd₁ => Collection.get_create_of_get hd₁
      have hcalm : Calms s.shared (s.shared.createOrder d) :=
        ⟨fun o d₁ hd₁ => ⟨d₁, hget o d₁ hd₁, rfl, fun h => h, fun h => h⟩,
          fun i c' hc' => ⟨c', hc', rfl, rfl⟩⟩
      refine ⟨RefundsOk.of_orders h.shared (fun o d' hd' => ?_)
        (fun o d₁ hd₁ hr => ⟨d₁, hget o d₁ hd₁, hr, rfl⟩) hcalm.clawbacks,
        fun q hq pc hpc => (h.procs q hq pc hpc).calms hcalm⟩
      rcases Collection.get_create_cases hd' with ⟨_, rfl⟩ | ⟨_, hd'⟩
      · exact ⟨fun hfl => (by cases hf.symm.trans hfl), fun hr => by cases hp.symm.trans hr⟩
      · exact h.shared.settled o d' hd'
    · have hcalm : Calms s.shared (s.shared.modifyOrder id fun _ => d') :=
        calms_modifyOrder fun d₁ hd₁ => by
          obtain rfl := Option.some.inj (hd.symm.trans hd₁)
          exact hprog.calm
      refine ⟨RefundsOk.modifyOrder h.shared (fun d₁ hd₁ => ?_) (fun d₁ hd₁ hr => ?_),
        fun q hq pc hpc => (h.procs q hq pc hpc).calms hcalm⟩
      · obtain rfl := Option.some.inj (hd.symm.trans hd₁)
        exact hprog.keepsSettled (h.shared.settled id d hd)
      · obtain rfl := Option.some.inj (hd.symm.trans hd₁)
        exact ⟨hprog.calm.refunded hr, hprog.amount⟩
    · have hcalm : Calms s.shared w :=
        ⟨fun o d hd => ⟨d, ho ▸ hd, rfl, fun h => h, fun h => h⟩,
          fun i c' hc' => ⟨c', hc ▸ hc', rfl, rfl⟩⟩
      exact ⟨⟨fun o d hd => h.shared.settled o d (ho ▸ hd),
        fun i c hi => by rw [ho]; exact h.shared.clawback i c (hc ▸ hi),
        fun i j c c' hi hj => h.shared.unique i j c c' (hc ▸ hi) (hc ▸ hj)⟩,
        fun q hq pc hpc => (h.procs q hq pc hpc).calms hcalm⟩
  run s i r p w p' _ _ h hp hstep := by
    cases p with
    | batch pc =>
      obtain ⟨pc', hs, rfl⟩ := step_batch hstep
      obtain ⟨hw, hown, hothers⟩ :=
        refunds_payout_step h (batch_sameRefunds hs) (rfl : (Proc.batch pc').refunding = none)
      exact ⟨hw, hown, fun j q _ _ hq _ => hothers q hq⟩
    | resolve pc =>
      obtain ⟨pc', hs, rfl⟩ := step_resolve hstep
      obtain ⟨hw, hown, hothers⟩ :=
        refunds_payout_step h (resolve_sameRefunds hs) (rfl : (Proc.resolve pc').refunding = none)
      exact ⟨hw, hown, fun j q _ _ hq _ => hothers q hq⟩
    | refund pc =>
      obtain ⟨pc', hs, rfl⟩ := step_refund hstep
      have hkept := refund_kept (refund_move hs) h.shared (h.at hp pc rfl)
      refine ⟨hkept.shared, fun pc₁ hpc₁ => Option.some.inj hpc₁ ▸ hkept.own,
        fun j q _ _ hq hcompat => ⟨fun pcq hpcq => ?_, fun id hid hq' => ?_⟩⟩
      · refine hkept.others pcq (hq pcq hpcq) fun id hid hq' => hcompat id hid ?_
        rw [Proc.holds, hpcq, Option.bind_some, hq']
      · rcases hkept.holds id hid with hold | ⟨d, hd, hs⟩
        · exact hcompat id hold hq'
        · obtain ⟨pcq, hpcq, hh⟩ := Option.bind_eq_some_iff.mp hq'
          obtain ⟨d₁, hd₁, hs₁⟩ := (hq pcq hpcq).status_of_holds hh
          obtain rfl := Option.some.inj (hd.symm.trans hd₁)
          rw [hs₁] at hs
          exact absurd hs (by decide)

theorem refunds_initial (vendors : List PayoutVendor) : refunds.Holds (Sys.initial vendors) :=
  Outline.holds_nil ⟨fun _ _ hd => by simp [World.empty] at hd,
    fun _ _ hc => by simp [World.empty] at hc, fun _ _ _ _ hc => by simp [World.empty] at hc⟩

/-- In every run the refunds are apart. -/
theorem refunds_reach {dir : Directory} {vendors : List PayoutVendor} {s : Sys}
    {ok : Sys → SysEvent → Prop} (h : (system dir).Reach ok (Sys.initial vendors) s) :
    refunds.Holds s :=
  Outline.holds_of_reach (refunds_kept dir) (fun _ _ => trivial) (refunds_initial vendors)
    (h.mono fun _ _ _ => trivial)

end FoodDelivery
