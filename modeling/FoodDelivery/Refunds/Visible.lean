import FoodDelivery.Lib.Trace
import FoodDelivery.Refunds.Exclusive

/-!
# Refunds that are lost

Once the provider has refunded an order, `finalizeRefund` records it with a read, a
`save()` and, when a payout has claimed the vendor's cut, the insert of a clawback.

* `finalizing_step`: each step either goes through, or leaves the order lost.
* `lost_forever`: a lost order stays lost whatever calls of the refund flow follow.
* `refund_visible_iff`: so a refund is completed or visible exactly when every step of
  `finalizeRefund` went through.
-/

namespace FoodDelivery

open Store Interleave

/-- Some clawback is about the order. -/
def World.HasClawback (w : World) (id : OrderId) : Prop :=
  ∃ i c, w.clawbacks.get i = some c ∧ c.orderId = id

/-- The refund is recorded in full. -/
def World.Finalized (w : World) (id : OrderId) : Prop :=
  ∃ d, w.orders.get id = some d ∧ d.Refunded ∧ (d.vendorPayoutId ≠ none → w.HasClawback id)

/-- The fields of an order that its refund rests on. -/
structure Order.SameRefund (d d' : Order) : Prop where
  status : d'.status = d.status
  paymentStatus : d'.paymentStatus = d.paymentStatus
  flag : d'.refundReconciliationRequired = d.refundReconciliationRequired
  vendorClaim : d'.vendorPayoutId = d.vendorPayoutId

theorem Order.SameRefund.claimed {d d' : Order} (h : d.SameRefund d') (hc : d.Claimed) :
    d'.Claimed :=
  ⟨h.status.trans hc.status, h.paymentStatus.trans hc.paid, h.flag.trans hc.unflagged⟩

theorem Order.SameRefund.refunded {d d' : Order} (h : d.SameRefund d') (hr : d.Refunded) :
    d'.Refunded := ⟨h.status.trans hr.status, h.paymentStatus.trans hr.refunded⟩

/-- The refund of an order is left alone. -/
structure World.SparesRefund (id : OrderId) (w w' : World) : Prop where
  order : ∀ d, w.orders.get id = some d → ∃ d', w'.orders.get id = some d' ∧ d.SameRefund d'
  clawback : w'.HasClawback id ↔ w.HasClawback id

/-- A call of the refund flow, while others leave the refund of the order alone. -/
abbrev RefundRun (id : OrderId) :=
  Trace refundStep fun (w : World) (_ : RefundPc) w' => w.SparesRefund id w'

/-- A refund of the order that happened, from the claim up to the call of `finalizeRefund`:
`refundOrder` claims it and `adapter.refund` resolves, a webhook claims it, or
`resolveRefundReconciliation(true)` does. -/
inductive RefundHappened (id : OrderId) (w : World) : World → Prop
  | resolved {w₁ w₂ w' : World} {order : Order} {paymentRef : String} {prev : OrderStatus}
    (hclaim : refundStep w (.claim id order paymentRef) (.db .ok) =
      some (w₁, .adapter id order paymentRef prev))
    (hothers : w₁.SparesRefund id w₂)
    (hrefund : refundStep w₂ (.adapter id order paymentRef prev) (.refund .resolved) =
      some (w', .finalizeRead id)) : RefundHappened id w w'
  | webhook {w' : World}
    (h : refundStep w (.webhookClaim id) (.db .ok) = some (w', .finalizeRead id)) :
    RefundHappened id w w'
  | reconciled {w' : World}
    (h : refundStep w (.resolveClaim id) (.db .ok) = some (w', .finalizeRead id)) :
    RefundHappened id w w'

/-- A refund is completed, on an admin's list, or found and completed by a further call. -/
inductive World.Visible (w : World) (id : OrderId) : Prop
  | finalized (h : w.Finalized id)
  | attention {d : Order} (h : (id, d) ∈ w.findNeedingRefundAttention)
  | retried {request : RefundRequest} {tr : List (Taken World RefundPc Reply)} {w' : World}
    {pc' : RefundPc} (h : RefundRun id w (.start w request) tr w' pc') (h' : w'.Finalized id)

/-- The steps of `finalizeRefund` that go through: a read or a save that comes back, a save
that throws only once it was made when there is no clawback to record, an insert that was
made. -/
def GoesThrough (x : Taken World RefundPc Reply) : Prop :=
  match x.pc, x.reply with
  | .finalizeRead _, .db r => r = .ok
  | .finalizeSave _ order, .db r => r = .ok ∨ (r.wrote = true ∧ order.vendorPayoutId = none)
  | .recordClawback _ _ _, .db r => r.wrote = true
  | _, _ => True

/-- The order shows as refunded, and no clawback was recorded: its payment does not, or it
owes one. -/
structure Order.LostRefund (d : Order) : Prop where
  status : d.status = .refunded
  unflagged : d.refundReconciliationRequired = false
  lost : d.paymentStatus = .succeeded ∨ d.vendorPayoutId ≠ none

def World.Lost (w : World) (id : OrderId) : Prop :=
  (∃ d, w.orders.get id = some d ∧ d.LostRefund) ∧ ¬ w.HasClawback id

/-- Where `finalizeRefund` stands when every step so far went through. -/
inductive Finalizing (id : OrderId) (w : World) : RefundPc → Prop
  | read {d : Order} (hd : w.orders.get id = some d) (hc : d.Claimed) (hno : ¬ w.HasClawback id) :
    Finalizing id w (.finalizeRead id)
  | save {d order : Order} (hd : w.orders.get id = some d) (hc : d.Claimed)
    (hno : ¬ w.HasClawback id) (hv : order.vendorPayoutId = d.vendorPayoutId) :
    Finalizing id w (.finalizeSave id order)
  | record {d order : Order} {payoutId : PayoutId} (hd : w.orders.get id = some d)
    (hr : d.Refunded) (hf : d.refundReconciliationRequired = false) (hno : ¬ w.HasClawback id)
    (hv : d.vendorPayoutId ≠ none) : Finalizing id w (.recordClawback id order payoutId)
  | ended {pc : RefundPc} (hpc : pc = .returned ∨ pc = .threw) (h : w.Finalized id) :
    Finalizing id w pc

section Others

variable {w w' : World} {id i : OrderId} {pc pc' : RefundPc} {r : Reply}

theorem Order.SameRefund.refl (d : Order) : d.SameRefund d := ⟨rfl, rfl, rfl, rfl⟩

theorem World.SparesRefund.refl (w : World) : w.SparesRefund id w :=
  ⟨fun d hd => ⟨d, hd, .refl d⟩, Iff.rfl⟩

theorem World.Lost.spares (h : w.Lost id) (hs : w.SparesRefund id w') : w'.Lost id := by
  obtain ⟨⟨d, hd, hl⟩, hno⟩ := h
  obtain ⟨d', hd', hsame⟩ := hs.order d hd
  exact ⟨⟨d', hd', hsame.status.trans hl.status, hsame.flag.trans hl.unflagged, by
    rw [hsame.paymentStatus, hsame.vendorClaim]; exact hl.lost⟩, fun hc => hno (hs.clawback.mp hc)⟩

theorem Finalizing.spares (h : Finalizing id w pc) (hs : w.SparesRefund id w') :
    Finalizing id w' pc := by
  cases h with
  | read hd hc hno =>
    obtain ⟨d', hd', hsame⟩ := hs.order _ hd
    exact .read hd' (hsame.claimed hc) fun h => hno (hs.clawback.mp h)
  | save hd hc hno hv =>
    obtain ⟨d', hd', hsame⟩ := hs.order _ hd
    exact .save hd' (hsame.claimed hc) (fun h => hno (hs.clawback.mp h))
      (hv.trans hsame.vendorClaim.symm)
  | record hd hr hf hno hv =>
    obtain ⟨d', hd', hsame⟩ := hs.order _ hd
    exact .record hd' (hsame.refunded hr) (hsame.flag.trans hf) (fun h => hno (hs.clawback.mp h))
      (hsame.vendorClaim ▸ hv)
  | ended hpc h =>
    obtain ⟨d, hd, hr, hc⟩ := h
    obtain ⟨d', hd', hsame⟩ := hs.order d hd
    exact .ended hpc ⟨d', hd', hsame.refunded hr, fun hv =>
      hs.clawback.mpr (hc (hsame.vendorClaim ▸ hv))⟩

theorem sparesRefund_modifyOrder {g : Order → Order}
    (hg : i = id → ∀ d, w.orders.get id = some d → d.SameRefund (g d)) :
    w.SparesRefund id (w.modifyOrder i g) := by
  refine ⟨fun d hd => ?_, Iff.rfl⟩
  by_cases hi : i = id
  · subst hi
    exact ⟨g d, by rw [World.modifyOrder, Collection.get_modify_self, hd, Option.map_some],
      hg rfl d hd⟩
  · exact ⟨d, (Collection.get_modify_ne hi).trans hd, .refl d⟩

theorem World.SparesRefund.log (h : w.SparesRefund id w') {e : RefundEvent} :
    w.SparesRefund id (w'.log e) := ⟨h.order, h.clawback⟩

theorem hasClawback_createClawback {c : PayoutClawback} :
    (w.createClawback c).HasClawback id ↔ w.HasClawback id ∨ c.orderId = id := by
  constructor
  · rintro ⟨k, c', hc', ho⟩
    rcases Collection.get_create_cases hc' with ⟨_, rfl⟩ | ⟨_, hc'⟩
    · exact Or.inr ho
    · exact Or.inl ⟨k, c', hc', ho⟩
  · rintro (⟨k, c', hc', ho⟩ | ho)
    · exact ⟨k, c', Collection.get_create_of_get hc', ho⟩
    · exact ⟨_, c, Collection.get_create_self, ho⟩

end Others

section Lost

variable {w w' : World} {id i : OrderId} {pc pc' : RefundPc} {r : Reply}

theorem not_finalized_of_lost (h : w.Lost id) : ¬ w.Finalized id := by
  obtain ⟨⟨d, hd, hl⟩, hno⟩ := h
  rintro ⟨d₁, hd₁, hr, hc⟩
  obtain rfl := Option.some.inj (hd.symm.trans hd₁)
  rcases hl.lost with hp | hv
  · cases hp.symm.trans hr.refunded
  · exact hno (hc hv)

theorem not_listed_of_lost (h : w.Lost id) {d : Order} :
    (id, d) ∉ w.findNeedingRefundAttention := by
  obtain ⟨⟨d₁, hd₁, hl⟩, _⟩ := h
  intro hmem
  rw [World.findNeedingRefundAttention, List.mem_reverse, Collection.mem_find] at hmem
  obtain ⟨hd, hn⟩ := hmem
  obtain rfl := Option.some.inj (hd₁.symm.trans hd)
  simp [Order.needsRefundAttention, hl.status, hl.unflagged] at hn

/-- None of the claims takes it. -/
theorem Order.LostRefund.not_claimed {d d' : Order} (h : d.LostRefund) :
    d.claimForRefund ≠ some d' ∧ d.claimReconciledRefund ≠ some d' := by
  constructor <;> intro hc
  · obtain ⟨⟨hs, _⟩, _⟩ := claimForRefund_eq_some.mp hc
    rw [h.status] at hs
    exact absurd hs (by decide)
  · cases h.unflagged.symm.trans (claimReconciledRefund_eq_some.mp hc).1

/-- A claim of an order that is not lost. -/
theorem sparesRefund_claim {f : Order → Option Order} {d d' : Order} (h : w.Lost id)
    (hd : w.orders.get i = some d) (hf : f d = some d')
    (hno : ∀ d₁ d₁', d₁.LostRefund → f d₁ ≠ some d₁') :
    i ≠ id ∧ w.SparesRefund id (w.updateOrder i f) := by
  have hi : i ≠ id := by
    rintro rfl
    obtain ⟨⟨d₁, hd₁, hl⟩, _⟩ := h
    obtain rfl := Option.some.inj (hd.symm.trans hd₁)
    exact hno d d' hl hf
  exact ⟨hi, sparesRefund_modifyOrder fun he => absurd he hi⟩

/-- **A call that does not hold a lost order leaves it lost**, and never comes to hold it. -/
theorem lost_step (h : w.Lost id) (hpc : pc.holds ≠ some id) (hm : RefundMove w pc r w' pc') :
    w'.Lost id ∧ pc'.holds ≠ some id := by
  have apart : ∀ {q : RefundPc}, q.holds = none → q.holds ≠ some id := fun hq he =>
    by cases hq.symm.trans he
  have elsewhere : ∀ {j : OrderId} {g : Order → Order}, some j ≠ some id →
      w.SparesRefund id (w.modifyOrder j g) := fun hj =>
    sparesRefund_modifyOrder fun he => absurd (congrArg some he) hj
  suffices hs : w.SparesRefund id w' ∧ pc'.holds ≠ some id from ⟨h.spares hs.1, hs.2⟩
  cases hm with
  | idle _ h' => exact ⟨.refl w, apart h'⟩
  | lost => exact ⟨.refl w, by rintro ⟨⟩⟩
  | claimed hd hc hnext =>
    obtain ⟨hi, hs⟩ := sparesRefund_claim h hd hc fun _ _ hl => hl.not_claimed.1
    refine ⟨hs, ?_⟩
    rcases hnext with rfl | ⟨_, rfl⟩
    · exact fun he => hi (Option.some.inj he)
    · exact (by rintro ⟨⟩)
  | called j order paymentRef prev reply =>
    refine ⟨(World.SparesRefund.refl w).log, ?_⟩
    cases reply <;> exact hpc
  | flagged _ _ hnext => exact ⟨(elsewhere hpc).log, apart hnext⟩
  | unflagged _ hnext => exact ⟨.refl w, apart hnext⟩
  | reverted hnext => exact ⟨elsewhere hpc, apart hnext⟩
  | disputed hnext =>
    exact ⟨sparesRefund_modifyOrder fun _ _ _ => ⟨rfl, rfl, rfl, rfl⟩, apart hnext⟩
  | webhookClaimed hd hc hnext =>
    obtain ⟨hi, hs⟩ := sparesRefund_claim h hd hc fun _ _ hl => hl.not_claimed.1
    refine ⟨hs, ?_⟩
    rcases hnext with rfl | ⟨_, rfl⟩
    · exact fun he => hi (Option.some.inj he)
    · exact (by rintro ⟨⟩)
  | cleared _ hnext =>
    refine ⟨(sparesRefund_modifyOrder fun _ d hd => ?_).log, apart hnext⟩
    obtain ⟨⟨d₁, hd₁, hl⟩, _⟩ := h
    obtain rfl := Option.some.inj (hd₁.symm.trans hd)
    exact ⟨rfl, rfl, hl.unflagged.symm, rfl⟩
  | reconciled hd hc hnext =>
    obtain ⟨hi, hs⟩ := sparesRefund_claim h hd hc fun _ _ hl => hl.not_claimed.2
    refine ⟨hs, ?_⟩
    rcases hnext with rfl | ⟨_, rfl⟩
    · exact fun he => hi (Option.some.inj he)
    · exact (by rintro ⟨⟩)
  | gone _ hnext => exact ⟨.refl w, apart hnext⟩
  | readBack => exact ⟨.refl w, hpc⟩
  | @finalized j order r pc' hnext =>
    refine ⟨elsewhere hpc, ?_⟩
    rcases hnext with rfl | ⟨_, rfl⟩
    · rw [RefundPc.afterFinalize]
      split
      · exact (by rintro ⟨⟩)
      · exact hpc
    · exact (by rintro ⟨⟩)
  | @recorded j order payoutId r pc' hnext =>
    refine ⟨⟨fun d hd => ⟨d, hd, .refl d⟩, ?_⟩, apart hnext⟩
    rw [hasClawback_createClawback]
    exact or_iff_left fun he => hpc (congrArg some he)

/-- **A lost order stays lost**, whatever calls of the refund flow follow. -/
theorem lost_forever (h : w.Lost id) {request : RefundRequest}
    {tr : List (Taken World RefundPc Reply)}
    (hrun : RefundRun id w (.start w request) tr w' pc') : w'.Lost id := by
  refine (hrun.invariant (I := fun _ (v : World) (q : RefundPc) => v.Lost id ∧ q.holds ≠ some id)
    ⟨h, ?_⟩ (fun _ _ _ _ _ _ hl hs => lost_step hl.1 hl.2 (refund_move hs))
    fun _ v q _ hl hs => ⟨World.Lost.spares hl.1 hs, hl.2⟩).1
  cases request <;> exact (by rintro ⟨⟩ _)

theorem not_visible_of_lost (h : w.Lost id) : ¬ w.Visible id := by
  intro hv
  cases hv with
  | finalized hf => exact not_finalized_of_lost h hf
  | attention hmem => exact not_listed_of_lost h hmem
  | retried hrun hf => exact not_finalized_of_lost (lost_forever h hrun) hf

end Lost

section Finalize

variable {w w' : World} {id : OrderId} {pc pc' : RefundPc} {r : Reply}

theorem lost_of_claimed {d : Order} (hd : w.orders.get id = some d) (hc : d.Claimed)
    (hno : ¬ w.HasClawback id) : w.Lost id :=
  ⟨⟨d, hd, hc.status, hc.unflagged, Or.inl hc.paid⟩, hno⟩

/-- The order after the `save()` of `finalizeRefund`. -/
theorem get_finalized {d : Order} (hd : w.orders.get id = some d) (now : Time) :
    (w.modifyOrder id (·.saveFinalizedRefund now)).orders.get id =
      some (d.saveFinalizedRefund now) := by
  rw [World.modifyOrder, Collection.get_modify_self, hd, Option.map_some]

/-- The save was made, and there is no clawback to record. -/
theorem finalized_of_save {d : Order} (hd : w.orders.get id = some d) (hc : d.Claimed)
    (hv : d.vendorPayoutId = none) (now : Time) :
    (w.modifyOrder id (·.saveFinalizedRefund now)).Finalized id :=
  ⟨_, get_finalized hd now, ⟨hc.status, rfl⟩, fun hne => absurd hv hne⟩

/-- The clawback was inserted. -/
theorem finalized_of_clawback {d order : Order} {payoutId : PayoutId}
    (hd : w.orders.get id = some d) (hr : d.Refunded) :
    (w.createClawback (.ofOrder id order payoutId)).Finalized id :=
  ⟨d, hd, hr, fun _ => hasClawback_createClawback.mpr (Or.inr rfl)⟩

/-- **A step of `finalizeRefund` goes through, or leaves the order lost.** -/
theorem finalizing_step (h : Finalizing id w pc) (hs : refundStep w pc r = some (w', pc')) :
    (GoesThrough ⟨w, pc, r⟩ ∧ Finalizing id w' pc') ∨
      (¬ GoesThrough ⟨w, pc, r⟩ ∧ w'.Lost id ∧ pc'.holds ≠ some id) := by
  cases h with
  | read hd hc hno =>
    cases r with
    | transfer reply => simp [refundStep] at hs
    | refund reply => simp [refundStep] at hs
    | db db =>
      simp only [refundStep, hd] at hs
      cases db with
      | ok =>
        cases hs
        exact Or.inl ⟨rfl, .save hd hc hno rfl⟩
      | threw written message =>
        cases written <;> cases hs <;>
          exact Or.inr ⟨by rintro ⟨⟩, lost_of_claimed hd hc hno, by rintro ⟨⟩⟩
  | @save d order hd hc hno hv =>
    cases r with
    | transfer reply => simp [refundStep] at hs
    | refund reply => simp [refundStep] at hs
    | db db =>
      have hunclaimed : order.vendorPayoutId = none → (w.modifyOrder id
          (·.saveFinalizedRefund w.now)).Finalized id := fun hn =>
        finalized_of_save hd hc (hv.symm.trans hn) w.now
      cases db with
      | ok =>
        cases hs
        refine Or.inl ⟨Or.inl rfl, ?_⟩
        rw [RefundPc.afterFinalize]
        split
        · rename_i hn
          exact .ended (Or.inl rfl) (hunclaimed hn)
        · rename_i payoutId hp
          exact .record (get_finalized hd w.now) ⟨hc.status, rfl⟩ hc.unflagged hno fun hn =>
            by cases hp.symm.trans (hv.trans hn)
      | threw written message =>
        cases written <;> cases hs
        · exact Or.inr ⟨fun hg => hg.elim (by simp) fun hg => (by cases hg.1),
            lost_of_claimed hd hc hno, by rintro ⟨⟩⟩
        · by_cases hn : order.vendorPayoutId = none
          · exact Or.inl ⟨Or.inr ⟨rfl, hn⟩, .ended (Or.inr rfl) (hunclaimed hn)⟩
          · have hlost : (w.modifyOrder id (·.saveFinalizedRefund w.now)).Lost id :=
              ⟨⟨_, get_finalized hd w.now, hc.status, hc.unflagged, Or.inr (hv ▸ hn)⟩, hno⟩
            exact Or.inr ⟨fun hg => hg.elim (by simp) fun hg => hn hg.2, hlost, by rintro ⟨⟩⟩
  | record hd hr hf hno hv =>
    cases r with
    | transfer reply => simp [refundStep] at hs
    | refund reply => simp [refundStep] at hs
    | db db =>
      cases db with
      | ok =>
        cases hs
        exact Or.inl ⟨rfl, .ended (Or.inl rfl) (finalized_of_clawback hd hr)⟩
      | threw written message =>
        cases written <;> cases hs
        · exact Or.inr ⟨by rintro ⟨⟩, ⟨⟨_, hd, hr.status, hf, Or.inr hv⟩, hno⟩, by rintro ⟨⟩⟩
        · exact Or.inl ⟨rfl, .ended (Or.inr rfl) (finalized_of_clawback hd hr)⟩
  | ended hpc =>
    rcases hpc with rfl | rfl <;> cases r <;> simp [refundStep] at hs

/-- What a claim by one of the refund calls leaves. -/
theorem finalizing_of_happened (hok : RefundsOk w) (h : RefundHappened id w w') :
    Finalizing id w' (.finalizeRead id) := by
  have hno : ∀ {d : Order}, w.orders.get id = some d → d.paymentStatus = .succeeded →
      ¬ w.HasClawback id := by
    rintro d hd hp ⟨i, c, hc, rfl⟩
    obtain ⟨d₁, hd₁, hr, _⟩ := hok.clawback i c hc
    obtain rfl := Option.some.inj (hd.symm.trans hd₁)
    cases hp.symm.trans hr.refunded
  have claimed : ∀ {d d' : Order}, w.orders.get id = some d → d.claimForRefund = some d' →
      Finalizing id (w.updateOrder id Order.claimForRefund) (.finalizeRead id) := by
    intro d d' hd hc
    have hget := get_updateOrder hd hc
    obtain ⟨⟨_, hp, hf⟩, rfl⟩ := Order.claimForRefund_eq_some.mp hc
    exact .read hget ⟨rfl, hp, hf⟩ (hno hd hp)
  cases h with
  | resolved hclaim hothers hrefund =>
    cases refund_move hclaim with
    | idle _ h' => cases h'
    | claimed hd hc _ =>
      cases hrefund
      cases claimed hd hc with
      | read hd hc hno =>
        cases Finalizing.spares (.read hd hc hno) hothers with
        | read hd hc hno => exact .read hd hc hno
        | ended hpc => rcases hpc with h | h <;> cases h
      | ended hpc => rcases hpc with h | h <;> cases h
  | webhook h =>
    cases refund_move h with
    | idle _ h' => cases h'
    | webhookClaimed hd hc _ => exact claimed hd hc
  | reconciled h =>
    cases refund_move h with
    | idle _ h' => cases h'
    | reconciled hd hc _ =>
      have hget := get_updateOrder hd hc
      obtain ⟨hf, rfl⟩ := Order.claimReconciledRefund_eq_some.mp hc
      have hp := ((hok.settled id _ hd).flagged hf).2
      exact .read hget ⟨rfl, hp, rfl⟩ (hno hd hp)

/-- **A refund that happened is completed or visible if and only if every step of
`finalizeRefund` goes through**: from any state of the platform, by any of the three ways a
refund happens, and whatever others do meanwhile, as long as they leave it alone. -/
theorem refund_visible_iff {dir : Directory} {vendors : List PayoutVendor}
    {ok : Sys → SysEvent → Prop} {s : Sys}
    (hs : (system dir).Reach ok (Sys.initial vendors) s) (hh : RefundHappened id s.shared w)
    {tr : List (Taken World RefundPc Reply)} (h : RefundRun id w (.finalizeRead id) tr w' pc')
    (hend : (Proc.refund pc').ended = true) : w'.Visible id ↔ ∀ x ∈ tr, GoesThrough x := by
  have hstart := finalizing_of_happened (refunds_reach hs).shared hh
  have hrun := h.intact_or_broken (I := fun (v : World) q => Finalizing id v q)
    (B := fun v q => v.Lost id ∧ q.holds ≠ some id) (S := GoesThrough) hstart
    (fun v q r v' q' hI hstep hgo => ?_) (fun v q r v' q' hI hstep hgo => ?_)
    (fun v q r v' q' hB hstep => lost_step hB.1 hB.2 (refund_move hstep))
    fun v q v' hothers => ⟨fun hI => hI.spares hothers, fun hB => ⟨hB.1.spares hothers, hB.2⟩⟩
  · rcases hrun with ⟨hfin, hall⟩ | ⟨⟨hlost, _⟩, x, hx, hno⟩
    · refine ⟨fun _ => hall, fun _ => .finalized ?_⟩
      cases hfin with
      | ended _ hdone => exact hdone
      | read => cases hend
      | save => cases hend
      | record => cases hend
    · exact ⟨fun hv => absurd hv (not_visible_of_lost hlost), fun hall => absurd (hall x hx) hno⟩
  · exact ((finalizing_step hI hstep).resolve_right fun hbad => hbad.1 hgo).2
  · exact ((finalizing_step hI hstep).resolve_left fun hgood => hgo hgood.1).2

end Finalize

section Runs

/-- Nothing throws. -/
theorem goesThrough_of_ok {x : Taken World RefundPc Reply} (h : x.reply = .db .ok) :
    GoesThrough x := by
  rw [GoesThrough, h]
  split
  · rename_i heq
    exact (Reply.db.inj heq).symm
  · rename_i heq
    exact Or.inl (Reply.db.inj heq).symm
  · rename_i heq
    exact (Reply.db.inj heq) ▸ rfl
  · trivial

/-- A webhook reports the refund of order 0 after the run `es`: what `finalizeRefund` does
with the answers `rs`, when it ends as wanted. -/
theorem exists_refundRun (es : List SysEvent) (rs : List Reply)
    (P : List (Taken World RefundPc Reply) × World → Bool)
    (h : ((system soleOwner).play (fun _ _ => true) (Sys.initial soleRestaurant) es).any (fun s =>
      (refundStep s.shared (.webhookClaim 0) (.db .ok)).any fun x =>
        decide (x.2 = .finalizeRead 0) && (play refundStep [] x.1 (.finalizeRead 0) rs).any fun y =>
          (Proc.refund y.2.2).ended && P (y.1, y.2.1)) = true) :
    ∃ s w tr w' pc', (system soleOwner).Reach (fun _ _ => True)
        (Sys.initial soleRestaurant) s ∧ RefundHappened 0 s.shared w ∧
      RefundRun 0 w (.finalizeRead 0) tr w' pc' ∧ (Proc.refund pc').ended = true ∧
        P (tr, w') = true := by
  obtain ⟨s, hs, h⟩ := exists_run _ _ es h
  obtain ⟨⟨w, pc⟩, hclaim, h⟩ := (Option.any_eq_true ..).mp h
  rw [Bool.and_eq_true, decide_eq_true_eq] at h
  obtain ⟨rfl, h⟩ := h
  obtain ⟨tr, w', pc', hrun, h⟩ := exists_trace_of_play rs h
  rw [Bool.and_eq_true] at h
  exact ⟨s, w, tr, w', pc', hs.mono fun _ _ _ => trivial, .webhook hclaim, hrun, h.1, h.2⟩

/-- Order 0 is delivered, and a batch pays its vendor. -/
def paidOutRun : List SysEvent :=
  deliveredOrder 0 ++ .spawn .runWeeklyBatch :: databaseCalls 0 7 ++
    .run 0 (.transfer (.transferred "tr_1")) :: databaseCalls 0 3

theorem refund_visible_paid_out : ∃ w : World, w.clawbacks.nextId = 1 ∧ w.Visible 0 := by
  obtain ⟨s, w, tr, w', pc', hs, hh, hrun, hend, hp⟩ := exists_refundRun paidOutRun
    [.db .ok, .db .ok, .db .ok]
    (fun x => decide (x.2.clawbacks.nextId = 1) && x.1.all fun y => y.reply = .db .ok)
    (by decide +kernel)
  simp only [Bool.and_eq_true, decide_eq_true_eq, List.all_eq_true] at hp
  exact ⟨w', hp.1, (refund_visible_iff hs hh hrun hend).mpr fun x hx =>
    goesThrough_of_ok (hp.2 x hx)⟩

/-- **A refund whose `save()` throws is lost**: the order shows as refunded, its payment
does not, and nothing finds it again. -/
theorem refund_lost :
    ¬ ∀ (dir : Directory) (vendors : List PayoutVendor) (s : Sys) (id : OrderId) (w w' : World)
      (tr : List (Taken World RefundPc Reply)) (pc' : RefundPc),
      (system dir).Reach (fun _ _ => True) (Sys.initial vendors) s →
        RefundHappened id s.shared w → RefundRun id w (.finalizeRead id) tr w' pc' →
          (Proc.refund pc').ended = true → w'.Visible id := by
  intro hall
  obtain ⟨s, w, tr, w', pc', hs, hh, hrun, hend, hp⟩ := exists_refundRun (deliveredOrder 0)
    [.db .ok, .db (.threw false "down")]
    (fun x => decide (x.2.clawbacks.nextId = 0) && (x.2.orders.get 0).any fun (d : Order) =>
      decide (d.status = .refunded ∧ d.refundReconciliationRequired = false ∧
        d.paymentStatus = .succeeded))
    (by decide +kernel)
  rw [Bool.and_eq_true, decide_eq_true_eq, Option.any_eq_true] at hp
  obtain ⟨hno, d, hd, hstored⟩ := hp
  obtain ⟨hst, hf, hpay⟩ := of_decide_eq_true hstored
  refine not_visible_of_lost ⟨⟨d, hd, hst, hf, Or.inl hpay⟩, ?_⟩
    (hall _ _ s 0 w w' tr pc' hs hh hrun hend)
  rintro ⟨i, c, hc, _⟩
  have := Collection.lt_nextId_of_get hc
  omega

end Runs

end FoodDelivery
