import FoodDelivery.Refunds.Writes

/-!
# Refunds made outside the platform

`handleRefundWebhook` learns of a refund that the provider has already made.  It claims
the order the way an admin's `refundOrder` does, so it can meet a claim that an admin's
call already holds, or an order whose status no claim accepts.

* `claimed_borne`: as long as no refund call is answered with a failure, every claimed
  order is held by a call.
* `outOfBand_refund_kept`: such a refund ends recorded or on the admins' list, if it is not
  claimed at a stage before delivery and nobody gives the order back as delivered later.
* `outOfBand_refund_lost`: a refund of an order that is still under way is forgotten.
-/

namespace FoodDelivery

open Store Interleave

/-! ## Claims are held -/

/-- No database call of a refund fails. -/
def RefundsAnswered (s : Sys) (e : SysEvent) : Prop :=
  ∀ i r pc, e = .run i r → s.procs[i]? = some (.refund pc) → r.faultless = true

/-- A claimed order, and the calls that hold its claim. -/
def claimHeld : Duty World Proc OrderId where
  due w id := ∃ d, w.orders.get id = some d ∧ d.Claimed
  bearer p id := ∃ pc, p.refunding = some pc ∧ pc.claiming = some id

/-- What is claimed after a step: the caller holds it now, or it was claimed before and the
caller did not hold it. -/
def ClaimPassed (w : World) (pc : RefundPc) (w' : World) (pc' : RefundPc) : Prop :=
  ∀ x d', w'.orders.get x = some d' → d'.Claimed →
    pc'.claiming = some x ∨ ∃ d, w.orders.get x = some d ∧ d.Claimed ∧ pc.claiming ≠ some x

section Claims

variable {w w' : World} {pc pc' : RefundPc} {r : Reply} {i : OrderId}

theorem ClaimPassed.of_orders (ho : w'.orders = w.orders)
    (hpc : ∀ x d, w.orders.get x = some d → d.Claimed → pc.claiming = some x →
      pc'.claiming = some x) : ClaimPassed w pc w' pc' := by
  intro x d hd hc
  rw [ho] at hd
  by_cases hx : pc.claiming = some x
  · exact Or.inl (hpc x d hd hc hx)
  · exact Or.inr ⟨d, hd, hc, hx⟩

theorem ClaimPassed.of_modify {g : Order → Order}
    (hpc : ∀ x, pc.claiming = some x → x = i)
    (hself : ∀ d, w.orders.get i = some d → (g d).Claimed →
      pc'.claiming = some i ∨ (d.Claimed ∧ pc.claiming ≠ some i)) :
    ClaimPassed w pc (w.modifyOrder i g) pc' := by
  intro x d' hd hc
  rcases Collection.get_modify_cases hd with ⟨rfl, d, hstored, rfl⟩ | ⟨hne, hd⟩
  · rcases hself d hstored hc with hnow | ⟨hbefore, hno⟩
    · exact Or.inl hnow
    · exact Or.inr ⟨d, hstored, hbefore, hno⟩
  · exact Or.inr ⟨d', hd, hc, fun hx => hne (hpc x hx).symm⟩

/-- A claim that went through is held. -/
theorem ClaimPassed.of_claim {f : Order → Option Order} (hpc : pc.claiming = none)
    (hpc' : pc'.claiming = some i) : ClaimPassed w pc (w.updateOrder i f) pc' :=
  .of_modify (fun x hx => by cases hpc.symm.trans hx) fun _ _ _ => Or.inl hpc'

theorem claimPassed_of_move (hm : RefundMove w pc r w' pc') (hr : r.faultless = true)
    (hok : RefundsOk w) (hk : RefundKnows w pc) : ClaimPassed w pc w' pc' := by
  have answered : ∀ {q : RefundPc}, pc' = q ∨ (r.faultless = false ∧ pc' = .threw) → pc' = q := by
    rintro q (h | ⟨h, _⟩)
    · exact h
    · cases hr.symm.trans h
  cases hm with
  | idle h h' =>
    refine .of_orders rfl fun x d _ _ hx => ?_
    cases h.symm.trans (RefundPc.holds_of_claiming hx)
  | lost written message => cases hr
  | claimed _ _ hpc => exact .of_claim rfl (by rw [answered hpc]; rfl)
  | called id order ref prev reply =>
    refine .of_orders rfl fun x d _ _ hx => ?_
    cases reply <;> exact hx
  | @flagged id order d d' prev reason r pc' hd hc hpc =>
    refine .of_modify (fun x hx => (Option.some.inj hx).symm) fun d₁ hd₁ hclaimed => ?_
    obtain rfl := Option.some.inj (hd.symm.trans hd₁)
    obtain ⟨_, rfl⟩ := Order.flagAmbiguousRefund_eq_some.mp hc
    simp only [hc, Option.getD_some] at hclaimed
    cases hclaimed.unflagged
  | @unflagged id order prev reason r pc' hnone hpc =>
    refine .of_orders rfl fun x d hd hc hx => ?_
    obtain rfl := Option.some.inj hx
    have hno := hnone d hd
    rw [Order.flagAmbiguousRefund, if_pos ⟨hc.status, hc.paid⟩] at hno
    cases hno
  | @reverted id order prev message r pc' hpc =>
    refine .of_modify (fun x hx => (Option.some.inj hx).symm) fun d hd hclaimed => ?_
    obtain ⟨d₁, hd₁, hc⟩ := hk.claimed id rfl
    obtain rfl := Option.some.inj (hd.symm.trans hd₁)
    simp only [Order.revertFailedRefundClaim, if_pos (And.intro hc.status hc.paid),
      Option.getD_some] at hclaimed
    have hprev : prev ∈ refundableStatuses := hk.previous prev rfl
    rw [show prev = .refunded from hclaimed.status] at hprev
    exact absurd hprev (by decide)
  | disputed hpc =>
    refine .of_modify (fun x hx => by cases hx) fun d hd hclaimed => ?_
    exact Or.inr ⟨⟨hclaimed.status, hclaimed.paid, hclaimed.unflagged⟩, by rintro ⟨⟩⟩
  | webhookClaimed _ _ hpc => exact .of_claim rfl (by rw [answered hpc]; rfl)
  | @cleared id issued db pc' _ hpc =>
    refine .of_modify (fun x hx => by cases hx) fun d hd hclaimed => ?_
    refine Or.inr ⟨⟨hclaimed.status, hclaimed.paid, ?_⟩, by rintro ⟨⟩⟩
    rw [← Bool.not_eq_true]
    intro hflag
    have hstatus := ((hok.settled id d hd).flagged hflag).1
    rw [show d.status = .refunded from hclaimed.status] at hstatus
    exact absurd hstatus (by decide)
  | reconciled _ _ hpc => exact .of_claim rfl (by rw [answered hpc]; rfl)
  | @gone id r pc' hnone hpc =>
    refine .of_orders rfl fun x d hd _ hx => ?_
    obtain rfl := Option.some.inj hx
    cases hnone.symm.trans hd
  | readBack hd => exact .of_orders rfl fun x d _ _ hx => hx
  | @finalized id order r pc' hpc =>
    refine .of_modify (fun x hx => (Option.some.inj hx).symm) fun d hd hclaimed => ?_
    cases hclaimed.paid
  | recorded hpc => exact .of_orders rfl fun x d _ _ hx => by cases hx

/-- Nothing outside the refund flow claims an order. -/
theorem OrderWrite.claimed_before {now : Time} {d d' : Order} (h : OrderWrite now d d')
    (hc : d'.Claimed) : d.Claimed := by
  cases h with
  | unchanged => exact hc
  | paymentRef provider paymentRef split => exact ⟨hc.status, hc.paid, hc.unflagged⟩
  | paid h =>
    obtain ⟨_, rfl⟩ := Order.markPaidFromWebhook_eq_some h
    cases hc.status
  | paymentFailed h => cases hc.paid
  | owner requester h =>
    obtain ⟨ready, he⟩ := Order.saveOwnerTransition_eq d now _ requester
    rw [he] at hc
    exact absurd hc.status (canOwnerTransition_early _ _ h).2
  | rider hr h =>
    rw [Order.saveRiderTransition_eq] at hc
    exact absurd hc.status (canRiderTransition_early _ _ h).2
  | assigned h =>
    obtain ⟨_, rfl⟩ := Order.assignToRider_eq_some h
    cases hc.status
  | reassigned h =>
    obtain ⟨hs, rfl⟩ := Order.reassignRider_eq_some h
    cases hs.symm.trans hc.status
  | disputed => exact ⟨hc.status, hc.paid, hc.unflagged⟩

theorem due_before_env {dir : Directory} {e : EnvEvent} {x : OrderId}
    (hw : envStep dir w e = some w') (hdue : claimHeld.due w' x) : claimHeld.due w x := by
  obtain ⟨d', hd', hc⟩ := hdue
  cases e with
  | place seller customer currency provider fee total amount =>
    cases hw
    rcases Collection.get_create_cases hd' with ⟨_, rfl⟩ | ⟨_, hd⟩
    · cases hc.status
    · exact ⟨d', hd, hc⟩
  | order id call =>
    simp only [envStep] at hw
    split at hw
    · cases hw
    · rename_i d hd
      split at hw
      · rename_i d₁ hrun
        cases hw
        rcases Collection.get_modify_cases hd' with ⟨rfl, d₂, hd₂, rfl⟩ | ⟨_, hd'⟩
        · exact ⟨d, hd, (OrderCall.write_of_run hrun).claimed_before hc⟩
        · exact ⟨d', hd', hc⟩
      · cases hw
        exact ⟨d', hd', hc⟩
  | vendors vs =>
    cases hw
    exact ⟨d', hd', hc⟩
  | tick =>
    cases hw
    exact ⟨d', hd', hc⟩

/-- A step of the payout side claims no order. -/
theorem due_before_payout {x : OrderId} (hw : w.SameRefunds w') (hdue : claimHeld.due w' x) :
    claimHeld.due w x := by
  obtain ⟨d', hd', hc⟩ := hdue
  obtain ⟨d, hd, hsame⟩ := hw.symm.order hd'
  exact ⟨d, hd, (Order.Calm.of_withoutClaims hsame).claimed hc⟩

/-- **A claimed order is held by a call**, when no database call of a refund fails. -/
theorem claimHeld_kept (dir : Directory) :
    claimHeld.Kept (system dir) RefundsAnswered refunds.Holds where
  env s e w _ _ hw x hdue := due_before_env hw hdue
  run s i r p w p' h hb hr hp hstep x hdue := by
    cases p with
    | batch pc =>
      obtain ⟨pc', hs, rfl⟩ := step_batch hstep
      refine Or.inr (hb.elsewhere hp (due_before_payout (batch_sameRefunds hs) hdue) ?_)
      rintro ⟨_, ⟨⟩, _⟩
    | resolve pc =>
      obtain ⟨pc', hs, rfl⟩ := step_resolve hstep
      refine Or.inr (hb.elsewhere hp (due_before_payout (resolve_sameRefunds hs) hdue) ?_)
      rintro ⟨_, ⟨⟩, _⟩
    | refund pc =>
      obtain ⟨pc', hs, rfl⟩ := step_refund hstep
      obtain ⟨d', hd', hc⟩ := hdue
      have hpassed := claimPassed_of_move (refund_move hs) (hr i r pc rfl hp) h.shared
        (h.at hp pc rfl)
      rcases hpassed x d' hd' hc with hnow | ⟨d, hd, hbefore, hno⟩
      · exact Or.inl ⟨pc', rfl, hnow⟩
      · refine Or.inr (hb.elsewhere hp ⟨d, hd, hbefore⟩ ?_)
        rintro ⟨_, ⟨⟩, hx⟩
        exact hno hx

theorem claimed_borne {dir : Directory} {vendors : List PayoutVendor} {s : Sys}
    (h : (system dir).Reach RefundsAnswered (Sys.initial vendors) s) : claimHeld.Borne s := by
  refine Duty.borne_of_reach (claimHeld_kept dir) (fun t ht => refunds_reach ht) ?_ h
  rintro x ⟨d, hd, _⟩
  simp [Sys.initial, World.empty] at hd

/-- Once every call has ended no order is left claimed. -/
theorem not_claimed_of_quiescent {s : Sys} (hb : claimHeld.Borne s) (hq : s.Quiescent)
    {d : Order} (hd : s.shared.orders.get i = some d) : ¬ d.Claimed := by
  intro hc
  obtain ⟨p, hp, pc, hpc, hheld⟩ := hb i ⟨d, hd, hc⟩
  have hend := hq p hp
  cases p with
  | batch pc => cases hpc
  | resolve pc => cases hpc
  | refund pc =>
    cases hpc
    cases pc <;> cases hheld <;> cases hend

end Claims

/-! ## What keeps a refund from being lost -/

namespace Order

/-- The customer's money was collected, and perhaps given back since. -/
def Paid (d : Order) : Prop := d.paymentStatus = .succeeded ∨ d.Refunded

/-- The refund is recorded, the order is on the admins' list, or a call of the refund flow
is at work on it. -/
def Spared (d : Order) : Prop := d.Refunded ∨ d.needsRefundAttention = true ∨ d.Claimed

variable {d d' : Order}

theorem needsRefundAttention_iff : d.needsRefundAttention = true ↔
    (d.status = .cancelled ∧ d.paymentStatus = .succeeded) ∨
      d.refundReconciliationRequired = true := by
  simp [needsRefundAttention]

theorem Spared.of_flag (h : d.refundReconciliationRequired = true) : d.Spared :=
  Or.inr (Or.inl (needsRefundAttention_iff.mpr (Or.inr h)))

theorem Spared.of_cancelled (h : d.status = .cancelled) (hp : d.paymentStatus = .succeeded) :
    d.Spared := Or.inr (Or.inl (needsRefundAttention_iff.mpr (Or.inl ⟨h, hp⟩)))

/-- A paid order that reads `REFUNDED` is not lost. -/
theorem Paid.spared_of_refunded (h : d.Paid) (hs : d.status = .refunded) : d.Spared := by
  rcases h with hp | hr
  · cases hf : d.refundReconciliationRequired with
    | true => exact .of_flag hf
    | false => exact Or.inr (Or.inr ⟨hs, hp, hf⟩)
  · exact Or.inl hr

/-- What neither a claim nor its end may touch. -/
theorem Spared.congr (h : d.Spared) (hs : d'.status = d.status)
    (hp : d'.paymentStatus = d.paymentStatus)
    (hf : d'.refundReconciliationRequired = d.refundReconciliationRequired) : d'.Spared := by
  rcases h with hr | hn | hc
  · exact Or.inl ⟨hs.trans hr.status, hp.trans hr.refunded⟩
  · rcases needsRefundAttention_iff.mp hn with ⟨hst, hpd⟩ | hfl
    · exact .of_cancelled (hs.trans hst) (hp.trans hpd)
    · exact .of_flag (hf.trans hfl)
  · exact Or.inr (Or.inr ⟨hs.trans hc.status, hp.trans hc.paid, hf.trans hc.unflagged⟩)

theorem Paid.congr (h : d.Paid) (hs : d'.status = d.status)
    (hp : d'.paymentStatus = d.paymentStatus) : d'.Paid := by
  rcases h with hpd | hr
  · exact Or.inl (hp.trans hpd)
  · exact Or.inr ⟨hs.trans hr.status, hp.trans hr.refunded⟩

end Order

section Kept

variable {w w' : World} {pc pc' : RefundPc} {r : Reply} {id : OrderId} {d d' : Order}

theorem Progress.paid_kept (h : Progress d d') (hp : d.Paid) : d'.Paid := by
  rcases hp with hp | hr
  · exact Or.inl (h.paid hp)
  · exact Or.inr (h.calm.refunded hr)

theorem Progress.spared_kept (h : Progress d d') (hs : d.Spared) : d'.Spared := by
  rcases hs with hr | hn | hc
  · exact Or.inl (h.calm.refunded hr)
  · rcases Order.needsRefundAttention_iff.mp hn with ⟨hst, hp⟩ | hf
    · refine .of_cancelled ?_ (h.paid hp)
      rw [h.settled (Or.inl (by rw [hst]; decide)), hst]
    · exact .of_flag (h.flag.trans hf)
  · exact Or.inr (Or.inr (h.calm.claimed hc))

theorem RefundWrite.paid_kept (h : RefundWrite id pc d d')
    (hk : ∀ order, pc = .finalizeSave id order → d.Claimed) (hp : d.Paid) : d'.Paid := by
  cases h with
  | unchanged => exact hp
  | claimed hc =>
    obtain ⟨⟨_, hpd, _⟩, rfl⟩ := Order.claimForRefund_eq_some.mp hc
    exact Or.inl hpd
  | flagged hpc hc =>
    obtain ⟨⟨_, hpd⟩, rfl⟩ := Order.flagAmbiguousRefund_eq_some.mp hc
    exact Or.inl hpd
  | reverted hpc hc =>
    obtain ⟨⟨_, hpd⟩, rfl⟩ := Order.revertFailedRefundClaim_eq_some.mp hc
    exact Or.inl hpd
  | disputed => exact hp.congr rfl rfl
  | cleared hpc => exact hp.congr rfl rfl
  | reconciled hc =>
    obtain ⟨_, rfl⟩ := Order.claimReconciledRefund_eq_some.mp hc
    rcases hp with hpd | hr
    · exact Or.inl hpd
    · exact Or.inr ⟨rfl, hr.refunded⟩
  | finalized hpc now => exact Or.inr ⟨(hk _ hpc).status, rfl⟩

/-- **What loses a refund**: giving the order back as delivered, or clearing its flag. -/
theorem RefundWrite.spared_kept (h : RefundWrite id pc d d')
    (hk : ∀ order, pc = .finalizeSave id order → d.Claimed) (hset : d.Settled)
    (hback : ∀ order prev message, pc = .revert id order prev message → prev = .cancelled)
    (hopen : ∀ issued, pc ≠ .resolveSave id issued) (hs : d.Spared) : d'.Spared := by
  cases h with
  | unchanged => exact hs
  | claimed hc =>
    obtain ⟨⟨_, hp, hf⟩, rfl⟩ := Order.claimForRefund_eq_some.mp hc
    exact Or.inr (Or.inr ⟨rfl, hp, hf⟩)
  | flagged hpc hc =>
    obtain ⟨_, rfl⟩ := Order.flagAmbiguousRefund_eq_some.mp hc
    exact .of_flag rfl
  | reverted hpc hc =>
    obtain ⟨⟨_, hp⟩, rfl⟩ := Order.revertFailedRefundClaim_eq_some.mp hc
    exact .of_cancelled (hback _ _ _ hpc) hp
  | disputed => exact hs.congr rfl rfl rfl
  | cleared hpc => exact absurd hpc (hopen _)
  | reconciled hc =>
    obtain ⟨hf, rfl⟩ := Order.claimReconciledRefund_eq_some.mp hc
    exact Or.inr (Or.inr ⟨rfl, (hset.flagged hf).2, rfl⟩)
  | finalized hpc now => exact Or.inl ⟨(hk _ hpc).status, rfl⟩

end Kept

/-! ## The webhook -/

/-- Where `handleRefundWebhook` stands after it has looked up the order. -/
def RefundPc.completes (id : OrderId) : RefundPc → Prop
  | .webhookClaim o => o = id
  | .finalizeRead o => o = id
  | .finalizeSave o _ => o = id
  | .recordClawback o _ _ => o = id
  | .returned => True
  | _ => False

section Webhook

variable {w w' : World} {pc pc' : RefundPc} {r : Reply} {id : OrderId} {d : Order}

/-- A stage at which the webhook's claim goes through, or the order is seen to otherwise. -/
def Order.ReachesRefund (d : Order) : Prop :=
  d.refundReconciliationRequired = true ∨ d.status ∈ refundableStatuses ∨ d.status = .refunded

theorem Order.Paid.spared_of_unclaimed (hp : d.Paid) (hstage : d.ReachesRefund)
    (hc : d.claimForRefund = none) : d.Spared := by
  rcases hstage with hf | hs | hs
  · exact .of_flag hf
  · rcases hp with hpd | hr
    · cases hf : d.refundReconciliationRequired with
      | true => exact .of_flag hf
      | false =>
        rw [Order.claimForRefund, if_pos ⟨hs, hpd, hf⟩] at hc
        cases hc
    · exact Or.inl hr
  · exact hp.spared_of_refunded hs

/-- A step of the webhook's own. -/
theorem webhook_step (hstep : refundStep w pc r = some (w', pc')) (hr : r.faultless = true)
    (hpc : pc.completes id) (hk : RefundKnows w pc) (hd : w.orders.get id = some d)
    (hp : d.Paid) (hstage : pc = .webhookClaim id → d.ReachesRefund) :
    pc'.completes id ∧ ∃ d', w'.orders.get id = some d' ∧ (pc' = .returned → d'.Spared) := by
  have hok : ∀ db, r = .db db → db = .ok := by
    rintro db rfl
    exact of_decide_eq_true hr
  cases r with
  | transfer reply => cases pc <;> simp [refundStep] at hstep
  | refund reply =>
    cases pc with
    | adapter o order paymentRef prev => cases hpc
    | _ => simp [refundStep] at hstep
  | db db =>
    obtain rfl := hok db rfl
    cases pc with
    | webhookClaim o =>
      obtain rfl : o = id := hpc
      simp only [refundStep] at hstep
      split at hstep
      · rename_i hup
        cases hstep
        obtain ⟨d₁, d', hd₁, hc⟩ := updates_iff.mp hup
        exact ⟨rfl, d', get_updateOrder hd₁ hc, by rintro ⟨⟩⟩
      · rename_i hup
        cases hstep
        refine ⟨trivial, d, hd, fun _ => hp.spared_of_unclaimed (hstage rfl) ?_⟩
        cases hc : d.claimForRefund with
        | none => rfl
        | some d' => exact absurd (updates_iff.mpr ⟨d, d', hd, hc⟩) hup
    | finalizeRead o =>
      obtain rfl : o = id := hpc
      simp only [refundStep, hd] at hstep
      cases hstep
      exact ⟨rfl, d, hd, by rintro ⟨⟩⟩
    | finalizeSave o order =>
      obtain rfl : o = id := hpc
      cases hstep
      obtain ⟨d₁, hd₁, hc⟩ := hk.claimed o rfl
      obtain rfl := Option.some.inj (hd.symm.trans hd₁)
      refine ⟨?_, d.saveFinalizedRefund w.now, ?_, fun _ => Or.inl ⟨hc.status, rfl⟩⟩
      · rw [RefundPc.afterFinalize]
        split
        · trivial
        · exact rfl
      · show (w.modifyOrder o (·.saveFinalizedRefund w.now)).orders.get o = _
        rw [World.modifyOrder, Collection.get_modify_self, hd, Option.map_some]
    | recordClawback o order payoutId =>
      obtain rfl : o = id := hpc
      cases hstep
      obtain ⟨_, ⟨d₁, hd₁, hrefunded⟩, _⟩ := hk.recording o order payoutId rfl
      obtain rfl := Option.some.inj (hd.symm.trans hd₁)
      exact ⟨trivial, d, hd, fun _ => Or.inl hrefunded⟩
    | returned => simp [refundStep] at hstep
    | _ => cases hpc

end Webhook

/-! ## Runs -/

/-- What happens from the webhook's look-up of the order on, when its refund is to be kept:
no database call of a refund fails; the webhook does not try its claim at a stage before
delivery; once it has returned, no failed refund gives the order back as delivered and no
admin clears the order's flag. -/
structure Undisturbed (i : Nat) (id : OrderId) (s : Sys) (e : SysEvent) : Prop where
  answered : RefundsAnswered s e
  stage : ∀ r d, e = .run i r → s.procs[i]? = some (.refund (.webhookClaim id)) →
    s.shared.orders.get id = some d → d.ReachesRefund
  givenBack : s.procs[i]? = some (.refund .returned) → ∀ j r order prev message, e = .run j r →
    s.procs[j]? = some (.refund (.revert id order prev message)) → prev ≠ .delivered
  flagKept : s.procs[i]? = some (.refund .returned) → ∀ j r issued, e = .run j r →
    s.procs[j]? ≠ some (.refund (.resolveSave id issued))

/-- The webhook `i` works on the refund of the order. -/
def Handling (i : Nat) (id : OrderId) (s : Sys) : Prop :=
  ∃ pc d, s.procs[i]? = some (.refund pc) ∧ pc.completes id ∧ s.shared.orders.get id = some d ∧
    d.Paid ∧ (pc = .returned → d.Spared)

section Runs

variable {dir : Directory} {vendors : List PayoutVendor} {s s' : Sys} {e : SysEvent} {i : Nat}
  {id : OrderId} {d d' : Order}

theorem OrderEvent.paid_kept (h : OrderEvent s e id d d') (hr : refunds.Holds s)
    (hd : s.shared.orders.get id = some d) (hp : d.Paid) : d'.Paid := by
  cases h with
  | progress h => exact h.paid_kept hp
  | claims h =>
    obtain ⟨hs, hpd, _⟩ := Order.fields_of_withoutClaims h
    exact hp.congr hs hpd
  | refund he hq h =>
    refine h.paid_kept (fun order hpc => ?_) hp
    obtain ⟨d₁, hd₁, hc⟩ := (hr.at hq _ rfl).claimed id (by rw [hpc]; rfl)
    exact Option.some.inj (hd.symm.trans hd₁) ▸ hc

theorem OrderEvent.spared_kept (h : OrderEvent s e id d d') (hr : refunds.Holds s)
    (hd : s.shared.orders.get id = some d) (hu : Undisturbed i id s e)
    (hret : s.procs[i]? = some (.refund .returned)) (hs : d.Spared) : d'.Spared := by
  cases h with
  | progress h => exact h.spared_kept hs
  | claims h =>
    obtain ⟨hst, hp, hf, _⟩ := Order.fields_of_withoutClaims h
    exact hs.congr hst hp hf
  | @refund j r pc d' he hq h =>
    have hk := hr.at hq pc rfl
    refine h.spared_kept (fun order hpc => ?_) (hr.shared.settled id d hd)
      (fun order prev message hpc => ?_) (fun issued hpc => ?_) hs
    · obtain ⟨d₁, hd₁, hc⟩ := hk.claimed id (by rw [hpc]; rfl)
      exact Option.some.inj (hd.symm.trans hd₁) ▸ hc
    · have hprev : prev ∈ refundableStatuses := hk.previous prev (by rw [hpc]; rfl)
      have hne := hu.givenBack hret j r order prev message he (hpc ▸ hq)
      rcases List.mem_cons.mp hprev with hdel | hcan
      · exact absurd hdel hne
      · exact List.mem_singleton.mp hcan
    · exact hu.flagKept hret j r issued he (hpc ▸ hq)

/-- Every event keeps the webhook on its way. -/
theorem handling_next (h : Handling i id s) (hr : refunds.Holds s) (hu : Undisturbed i id s e)
    (hs : (system dir).next s e = some s') : Handling i id s' := by
  obtain ⟨pc, d, hpc, hcomp, hd, hp, hspared⟩ := h
  obtain ⟨d', hd', hevent⟩ := order_of_next hs hd
  have hp' : d'.Paid := hevent.paid_kept hr hd hp
  -- an event of another process leaves the webhook where it is
  have aside : s'.procs[i]? = some (.refund pc) → Handling i id s' := by
    intro hpc'
    refine ⟨pc, d', hpc', hcomp, hd', hp', ?_⟩
    intro hret
    exact hevent.spared_kept hr hd hu (hret ▸ hpc) (hspared hret)
  cases e with
  | spawn k =>
    cases hs
    exact aside (by rw [List.getElem?_append_left (List.getElem?_eq_some_iff.mp hpc).1]; exact hpc)
  | env a =>
    obtain ⟨w, _, rfl⟩ := Machine.next_env hs
    exact aside hpc
  | run j r =>
    obtain ⟨p, w, p', hq, hstep, rfl⟩ := Machine.next_run hs
    by_cases hj : j = i
    · subst hj
      obtain rfl := Option.some.inj (hpc.symm.trans hq)
      obtain ⟨pc', hcall, rfl⟩ := step_refund hstep
      obtain ⟨hcomp', d₁, hd₁, hspared'⟩ := webhook_step hcall (hu.answered j r pc rfl hpc) hcomp
        (hr.at hpc pc rfl) hd hp fun hc => hu.stage r d rfl (hc ▸ hpc) hd
      obtain rfl := Option.some.inj (hd'.symm.trans hd₁)
      exact ⟨pc', d', List.getElem?_set_self (List.getElem?_eq_some_iff.mp hpc).1, hcomp', hd', hp',
        hspared'⟩
    · exact aside (by rw [List.getElem?_set_ne hj]; exact hpc)

/-- A full refund of an order of the right provider. -/
theorem afterWebhookFind_full {provider : PaymentProvider} {notice : RefundNotice}
    (hkind : notice.kind = .refunded) (hprovider : d.paymentProvider = provider)
    (hfull : ∀ a, notice.amountRefunded = some a → d.total.val ≤ a) :
    RefundPc.afterWebhookFind provider notice id d =
      if d.status = .refunded then .returned else .webhookClaim id := by
  have hwhole : RefundPc.isPartial d notice = false := by
    rw [RefundPc.isPartial]
    split
    · rfl
    · rename_i a ha
      have hcent : toNumber (toNumber d.total.val - toNumber (1 / 100)) ≤ toNumber d.total.val :=
        toNumber_sub_le (by norm_num)
      exact decide_eq_false (not_lt.mpr (hcent.trans (toNumber_mono (hfull a ha))))
  rw [RefundPc.afterWebhookFind, if_neg (not_not.mpr hprovider), if_neg (by rw [hkind]; decide),
    hwhole]
  rfl

/-- The webhook looks the order up. -/
theorem handling_of_lookup {provider : PaymentProvider} {notice : RefundNotice}
    (hpc : s.procs[i]? = some (.refund (.webhookFind provider notice)))
    (hkind : notice.kind = .refunded)
    (hfind : s.shared.findByPaymentRef notice.reference = some (id, d))
    (hprovider : d.paymentProvider = provider) (hpaid : d.paymentStatus = .succeeded)
    (hfull : ∀ a, notice.amountRefunded = some a → d.total.val ≤ a)
    (hs : (system dir).next s (.run i (.db .ok)) = some s') : Handling i id s' := by
  have hd : s.shared.orders.get id = some d := by
    have hmem : (id, d) ∈ s.shared.orders.find fun _ o => o.matchesPaymentRef notice.reference :=
      List.mem_of_mem_head? hfind
    exact (Collection.mem_find.mp hmem).1
  obtain ⟨p, w, p', hq, hstep, rfl⟩ := Machine.next_run hs
  obtain rfl := Option.some.inj (hpc.symm.trans hq)
  simp only [system, stepCall, refundStep, hfind, Option.map_eq_some_iff] at hstep
  obtain ⟨⟨w₁, pc'⟩, hstep, heq⟩ := hstep
  cases heq
  cases hstep
  refine ⟨_, d, List.getElem?_set_self (List.getElem?_eq_some_iff.mp hpc).1, ?_, hd, Or.inl hpaid,
    fun hret => ?_⟩
  · show (RefundPc.afterWebhookFind provider notice id d).completes id
    rw [afterWebhookFind_full hkind hprovider hfull]
    split
    · trivial
    · exact rfl
  · refine Order.Paid.spared_of_refunded (Or.inl hpaid) ?_
    by_contra hne
    rw [show RefundPc.afterWebhookFind provider notice id d = .webhookClaim id by
      rw [afterWebhookFind_full hkind hprovider hfull, if_neg hne]] at hret
    cases hret

/-- **An out-of-band refund is recorded or shown to the admins**, in every run in which
nothing that loses it happens. -/
theorem outOfBand_refund_kept {s₀ s₁ s : Sys} {provider : PaymentProvider} {notice : RefundNotice}
    (hs : (system dir).Reach RefundsAnswered (Sys.initial vendors) s₀)
    (hpc : s₀.procs[i]? = some (.refund (.webhookFind provider notice)))
    (hkind : notice.kind = .refunded)
    (hfind : s₀.shared.findByPaymentRef notice.reference = some (id, d))
    (hprovider : d.paymentProvider = provider) (hpaid : d.paymentStatus = .succeeded)
    (hfull : ∀ a, notice.amountRefunded = some a → d.total.val ≤ a)
    (hlook : (system dir).next s₀ (.run i (.db .ok)) = some s₁)
    (hrun : (system dir).Reach (Undisturbed i id) s₁ s) (hend : s.Quiescent) :
    ∃ d', s.shared.orders.get id = some d' ∧
      (d'.Refunded ∨ (id, d') ∈ s.shared.findNeedingRefundAttention) := by
  have hs₁ : (system dir).Reach RefundsAnswered (Sys.initial vendors) s₁ := by
    refine .tail hs ?_ hlook
    intro j r pc he _
    cases he
    rfl
  have hreach : (system dir).Reach RefundsAnswered (Sys.initial vendors) s :=
    hs₁.trans (hrun.mono fun _ _ hu => hu.answered)
  have hhandled : Handling i id s := by
    refine Machine.Reach.invariant (I := Handling i id)
      (handling_of_lookup hpc hkind hfind hprovider hpaid hfull hlook) ?_ hrun
    intro t e t' ht h hu hnext
    exact handling_next h (refunds_reach (hs₁.trans (ht.mono fun _ _ hu => hu.answered))) hu hnext
  obtain ⟨pc, d', hp, hcomp, hd', _, hspared⟩ := hhandled
  have hret : pc = .returned := by
    have hended := hend _ (List.mem_of_getElem? hp)
    cases pc with
    | returned => rfl
    | rejected error => exact hcomp.elim
    | threw => exact hcomp.elim
    | _ => cases hended
  refine ⟨d', hd', ?_⟩
  rcases hspared hret with hr | hn | hc
  · exact Or.inl hr
  · refine Or.inr (List.mem_reverse.mpr (Collection.mem_find.mpr ⟨hd', hn⟩))
  · exact absurd hc (not_claimed_of_quiescent (claimed_borne hreach) hend hd')

end Runs

section Examples

/-- Stripe reports that the payment `cs_1` was refunded. -/
def stripeRefunded : RefundNotice := ⟨"cs_1", .refunded, none⟩

/-- Only the webhook `i` goes on, and its claim comes at a stage it reaches. -/
def webhookAlone (i : Nat) (id : OrderId) (s : Sys) : SysEvent → Bool
  | .run j (.db .ok) => j = i && (s.shared.orders.get id).all fun (d : Order) =>
      d.refundReconciliationRequired || decide (d.status ∈ refundableStatuses) ||
        decide (d.status = .refunded)
  | _ => false

theorem undisturbed_of_webhookAlone {i : Nat} {id : OrderId} {s : Sys} {e : SysEvent}
    (h : webhookAlone i id s e = true) : Undisturbed i id s e := by
  simp only [webhookAlone] at h
  split at h
  · rename_i j
    rw [Bool.and_eq_true, decide_eq_true_eq] at h
    obtain ⟨rfl, h⟩ := h
    refine ⟨?_, ?_, ?_, ?_⟩
    · intro i' r pc he _
      cases he
      rfl
    · intro r d _ _ hd
      rw [hd, Option.all_some, Bool.or_eq_true, Bool.or_eq_true, decide_eq_true_eq,
        decide_eq_true_eq, or_assoc] at h
      exact h
    · intro hret i' r order prev message he hq
      cases he
      cases hret.symm.trans hq
    · intro hret i' r issued he hq
      cases he
      cases hret.symm.trans hq
  · cases h

/-- The webhook `0` reports the refund of order 0 after the run `es₀`; the run `es` follows
its look-up. -/
theorem exists_outOfBand (okb : Sys → SysEvent → Bool) (P : Sys → Bool) (es₀ es : List SysEvent)
    (h : ((system soleOwner).play (fun _ e => Faultless e) (Sys.initial soleRestaurant) es₀).any
      (fun s₀ => decide (s₀.procs[0]? = some (.refund (.webhookFind .stripe stripeRefunded))) &&
        (s₀.shared.findByPaymentRef "cs_1").any (fun (x : OrderId × Order) => decide (x.1 = 0) &&
          decide (x.2.paymentProvider = .stripe ∧ x.2.paymentStatus = .succeeded)) &&
        ((system soleOwner).next s₀ (.run 0 (.db .ok))).any fun s₁ =>
          ((system soleOwner).play okb s₁ es).any P) = true) :
    ∃ s₀ s₁ s d, (system soleOwner).Reach (fun _ e => Faultless e = true)
        (Sys.initial soleRestaurant) s₀ ∧
      s₀.procs[0]? = some (.refund (.webhookFind .stripe stripeRefunded)) ∧
      s₀.shared.findByPaymentRef "cs_1" = some (0, d) ∧ d.paymentProvider = .stripe ∧
      d.paymentStatus = .succeeded ∧
      (system soleOwner).next s₀ (.run 0 (.db .ok)) = some s₁ ∧
      (system soleOwner).Reach (fun s e => okb s e = true) s₁ s ∧ P s = true := by
  obtain ⟨s₀, hs₀, h⟩ := exists_run _ _ es₀ h
  rw [Bool.and_eq_true, Bool.and_eq_true, decide_eq_true_eq, Option.any_eq_true,
    Option.any_eq_true] at h
  obtain ⟨⟨hp, ⟨o, d⟩, hfind, hd⟩, s₁, hlook, h⟩ := h
  rw [Bool.and_eq_true, decide_eq_true_eq, decide_eq_true_eq] at hd
  obtain ⟨ho, hprovider, hpaid⟩ := hd
  obtain ⟨s, hs, hP⟩ := Machine.exists_reach_of_play (fun _ _ h => h) es h
  exact ⟨s₀, s₁, s, d, hs₀, hp, ho ▸ hfind, hprovider, hpaid, hlook, hs, hP⟩

def refundedWebhook : SysEvent := .spawn (.refund (.refundWebhook .stripe stripeRefunded))

theorem outOfBand_refund_kept_delivered : ∃ s : Sys, ∃ d, s.shared.orders.get 0 = some d ∧
    (d.Refunded ∨ (0, d) ∈ s.shared.findNeedingRefundAttention) := by
  obtain ⟨s₀, s₁, s, d, hs₀, hp, hfind, hprovider, hpaid, hlook, hs, hP⟩ := exists_outOfBand
    (webhookAlone 0 0) (fun s => s.procs.all Proc.ended) (deliveredOrder 0 ++ [refundedWebhook])
    (databaseCalls 0 3) (by decide +kernel)
  refine ⟨s, outOfBand_refund_kept (hs₀.mono fun t e he => ?_) hp rfl hfind hprovider hpaid
    (by rintro a ⟨⟩) hlook (hs.mono fun t e he => undisturbed_of_webhookAlone he) ?_⟩
  · rintro j r pc rfl _
    exact he
  · exact List.all_eq_true.mp hP

/-- **A refund made while the order is under way is lost**: the webhook gives up on a placed
order, which is then delivered, and its vendor paid, as if nothing had happened. -/
theorem outOfBand_refund_lost :
    ¬ ∀ (dir : Directory) (vendors : List PayoutVendor) (s₀ s₁ s : Sys) (i : Nat) (id : OrderId)
      (d : Order) (provider : PaymentProvider) (notice : RefundNotice),
      (system dir).Reach (fun _ e => Faultless e = true) (Sys.initial vendors) s₀ →
      s₀.procs[i]? = some (.refund (.webhookFind provider notice)) → notice.kind = .refunded →
      s₀.shared.findByPaymentRef notice.reference = some (id, d) → d.paymentProvider = provider →
      d.paymentStatus = .succeeded → (∀ a, notice.amountRefunded = some a → d.total.val ≤ a) →
      (system dir).next s₀ (.run i (.db .ok)) = some s₁ →
      (system dir).Reach (fun _ e => Faultless e = true) s₁ s → s.Quiescent →
        ∃ d', s.shared.orders.get id = some d' ∧
          (d'.Refunded ∨ (id, d') ∈ s.shared.findNeedingRefundAttention) := by
  intro hall
  obtain ⟨s₀, s₁, s, d, hs₀, hp, hfind, hprovider, hpaid, hlook, hs, hP⟩ := exists_outOfBand
    (fun _ e => Faultless e)
    (fun s => s.procs.all Proc.ended && decide (s.shared.sent = [0]) &&
      (s.shared.orders.get 0).any fun (d : Order) =>
        decide (d.status = .delivered) && !d.needsRefundAttention)
    ((deliveredOrder 0).take 3 ++ [refundedWebhook])
    (databaseCalls 0 1 ++ (deliveredOrder 0).drop 3 ++ .spawn .runWeeklyBatch ::
      databaseCalls 1 7 ++ .run 1 (.transfer (.transferred "tr_1")) :: databaseCalls 1 3)
    (by decide +kernel)
  rw [Bool.and_eq_true, Bool.and_eq_true, decide_eq_true_eq, Option.any_eq_true] at hP
  obtain ⟨⟨hend, _⟩, d', hd', hP⟩ := hP
  rw [Bool.and_eq_true, decide_eq_true_eq, Bool.not_eq_true'] at hP
  obtain ⟨hstatus, hno⟩ := hP
  obtain ⟨d₁, hd₁, hkept⟩ := hall soleOwner soleRestaurant s₀ s₁ s 0 0 d .stripe stripeRefunded hs₀
    hp rfl hfind hprovider hpaid (by rintro a ⟨⟩) hlook hs (List.all_eq_true.mp hend)
  obtain rfl := Option.some.inj (hd'.symm.trans hd₁)
  rcases hkept with hr | hlisted
  · cases hstatus.symm.trans hr.status
  · have hn := (Collection.mem_find.mp (List.mem_reverse.mp hlisted)).2
    cases hno.symm.trans hn

end Examples

end FoodDelivery
