import FoodDelivery.Payouts.Holding
import FoodDelivery.Refunds.Exclusive

/-!
# Refunded orders that were paid out

A batch looks at an order's status when it collects the earnings, and claims the
order later by its payout field alone; a refund decides about the clawback from
the document it read before it saved.

* `recovering_kept`: a refunded order that a payout has claimed has its clawback, or
  a call that is about to record it, as long as no order is claimed that a refund has
  read as free and saved, or is about to save.
* `refunded_was_recovered`: the runs in which none is; `refunded_unrecovered` is one in
  which the refund comes between the batch's query and its claim.
-/

namespace FoodDelivery

open Store Interleave

/-- A refunded order that a payout was made for has exactly one clawback, of the
amount that was paid. -/
def World.RefundedWasRecovered (w : World) : Prop :=
  ∀ o d id, w.orders.get o = some d → d.Refunded → w.Covers .vendorPayoutId o id →
    w.Succeeded id → ∃ i c, w.clawbacks.get i = some c ∧ c.orderId = o ∧
      c.amount = d.restaurantPayoutAmount.val ∧
      ∀ j c', w.clawbacks.get j = some c' → c'.orderId = o → j = i

/-- The order whose vendor cut a call claims in its next step, if it is free. -/
def Proc.claims : Proc → Option OrderId
  | .batch pc => pc.executing.bind fun
    | (a, .claim _ _ (o :: _) _) => if a.claimField = .vendorPayoutId then some o else none
    | _ => none
  | _ => none

/-- A call is about to record the clawback of an order. -/
def Proc.records (p : Proc) (o : OrderId) : Bool :=
  match p with
  | .refund (.recordClawback id _ _) => id == o
  | _ => false

/-- A call is about to save the refund of an order that it read as free. -/
def Proc.readFree (p : Proc) (o : OrderId) : Bool :=
  match p with
  | .refund (.finalizeSave id order) => id == o && order.vendorPayoutId.isNone
  | _ => false

/-- A free order whose refund records no clawback: it was saved without one, or is
about to be. -/
def Sys.missed (s : Sys) (o : OrderId) : Bool :=
  (s.shared.orders.get o).any (fun d => d.vendorPayoutId.isNone &&
    (s.procs.any (·.readFree o) ||
      (d.status = .refunded && d.paymentStatus = .refunded &&
        s.shared.clawbacks.docs.all (·.orderId != o) && !s.procs.any (·.records o))))

/-- No order is claimed whose refund records no clawback. -/
def ClaimsInTime (s : Sys) : SysEvent → Bool
  | .run i _ =>
    match s.procs[i]? with
    | some p => p.claims.all fun o => !s.missed o
    | none => true
  | _ => true

/-- An order that a refund read as free is free until the refund is saved. -/
def readFree : Outline World Proc where
  shared _ := True
  proc w p := ∀ o, p.readFree o = true → w.claimOf .vendorPayoutId o = none
  compat _ _ := True
  symm _ _ h := h

/-- A refunded order that a payout has claimed is charged back. -/
def recovering : Duty World Proc OrderId where
  due w o := ∃ d, w.orders.get o = some d ∧ d.Refunded ∧ d.vendorPayoutId ≠ none ∧
    ∀ i c, w.clawbacks.get i = some c → c.orderId ≠ o
  bearer p o := p.records o = true

section Claims

variable {w w' : World} {r : Reply} {o : OrderId}

/-- Only the claiming `updateMany` takes a free order. -/
theorem exec_claimOf {a : Attempt} {e e' : ExecPc} (hm : ExecMove a w e r w' e')
    (h : w.claimOf .vendorPayoutId o = none) (h' : w'.claimOf .vendorPayoutId o ≠ none) :
    (a.claimField = .vendorPayoutId ∧ ∃ id p rest n, e = .claim id p (o :: rest) n) ∧
      ∃ d, w.orders.get o = some d ∧ d.vendorPayoutId = none := by
  cases hm with
  | claimed id p o' rest n =>
    rw [World.claimOf_claimOrder] at h'
    split at h'
    · rename_i hc
      obtain ⟨hu, hf, rfl⟩ := hc
      rw [← hf] at hu
      exact ⟨⟨hf.symm, id, p, rest, n, rfl⟩, World.unclaimed_iff.mp hu⟩
    · exact absurd h h'
  | raceReleased id p o' rest =>
    refine absurd ?_ h'
    rw [World.claimOf_releaseOrder]
    split
    · rfl
    · exact h
  | released id p o' rest =>
    refine absurd ?_ h'
    rw [World.claimOf_releaseOrder]
    split
    · rfl
    · exact h
  | transferred => exact absurd (by rw [World.claimOf, World.orders_send]; exact h) h'
  | unknown => exact absurd (by rw [World.claimOf, World.orders_send]; exact h) h'
  | failed => exact absurd (by rw [World.claimOf, World.orders_send]; exact h) h'
  | _ => exact absurd h h'

theorem resolve_claimOf {pc pc' : ResolvePc} (hm : ResolveMove w pc w' pc')
    (h : w.claimOf .vendorPayoutId o = none) : w'.claimOf .vendorPayoutId o = none := by
  cases hm with
  | released c o' rest =>
    rw [World.claimOf_releaseOrder]
    split
    · rfl
    · exact h
  | _ => exact h

/-- **A free order is taken** only by a call that claims it. -/
theorem call_claimOf {p p' : Proc} (hm : CallMove w r p w' p')
    (h : w.claimOf .vendorPayoutId o = none) (h' : w'.claimOf .vendorPayoutId o ≠ none) :
    p.claims = some o ∧ ∃ d, w.orders.get o = some d ∧ d.vendorPayoutId = none := by
  cases hm with
  | quiet => exact absurd h h'
  | refund hm => exact absurd (((refund_samePayouts hm).claims _ _).trans h) h'
  | resolve hm => exact absurd (resolve_claimOf hm h) h'
  | exec hpc hm _ =>
    obtain ⟨⟨hf, id, payout, rest, n, rfl⟩, hd⟩ := exec_claimOf hm h h'
    exact ⟨by simp [Proc.claims, hpc, hf], hd⟩

/-- A refund that is about to save has just read the order. -/
theorem refund_readBack {pc pc' : RefundPc} {id : OrderId} {order : Order}
    (hm : RefundMove w pc r w' pc') (h : pc' = .finalizeSave id order) :
    pc = .finalizeRead id ∧ w.orders.get id = some order := by
  have busy : pc'.holds ≠ none := fun hnone => by subst h; cases hnone
  cases hm with
  | idle _ hpc => exact absurd hpc busy
  | lost => cases h
  | claimed _ _ hpc => rcases hpc with rfl | ⟨_, rfl⟩ <;> cases h
  | called id order ref prev reply => cases reply <;> cases h
  | flagged _ _ hpc => exact absurd hpc busy
  | unflagged _ hpc => exact absurd hpc busy
  | reverted hpc => exact absurd hpc busy
  | disputed hpc => exact absurd hpc busy
  | webhookClaimed _ _ hpc => rcases hpc with rfl | ⟨_, rfl⟩ <;> cases h
  | cleared _ hpc => exact absurd hpc busy
  | reconciled _ _ hpc => rcases hpc with rfl | ⟨_, rfl⟩ <;> cases h
  | gone _ hpc => exact absurd hpc busy
  | readBack hd =>
    cases h
    exact ⟨rfl, hd⟩
  | @finalized id order r pc' hpc =>
    rcases hpc with rfl | ⟨_, rfl⟩
    · rw [RefundPc.afterFinalize] at h
      split at h <;> cases h
    · cases h
  | recorded hpc => exact absurd hpc busy

theorem Proc.readFree_iff {p : Proc} : p.readFree o = true ↔
    ∃ order, p = .refund (.finalizeSave o order) ∧ order.vendorPayoutId = none := by
  cases p with
  | refund pc =>
    cases pc with
    | finalizeSave id order => simp [Proc.readFree]
    | _ => simp [Proc.readFree]
  | _ => simp [Proc.readFree]
end Claims

theorem Proc.records_of_ended {p : Proc} {o : OrderId} (h : p.ended = true) :
    p.records o = false := by
  cases p with
  | refund pc => cases pc <;> first | rfl | cases h
  | _ => rfl

section Missed

variable {s : Sys} {o : OrderId} {d : Order}

theorem missed_of_readFree {p : Proc} (hd : s.shared.orders.get o = some d)
    (hc : d.vendorPayoutId = none) (hp : p ∈ s.procs) (h : p.readFree o = true) :
    s.missed o = true := by
  have hany : s.procs.any (·.readFree o) = true := List.any_eq_true.mpr ⟨p, hp, h⟩
  simp [Sys.missed, hd, hc, hany]

/-- A refunded order without a clawback is missed unless one is being recorded. -/
theorem records_of_not_missed (h : s.missed o = false) (hd : s.shared.orders.get o = some d)
    (hc : d.vendorPayoutId = none) (hr : d.Refunded)
    (hno : ∀ i c, s.shared.clawbacks.get i = some c → c.orderId ≠ o) :
    ∃ p ∈ s.procs, p.records o = true := by
  by_contra hnone
  have hall : s.shared.clawbacks.docs.all (·.orderId != o) = true := by
    rw [List.all_eq_true]
    intro c hmem
    obtain ⟨i, hi⟩ := List.mem_iff_getElem?.mp hmem
    exact bne_iff_ne.mpr (hno i c hi)
  have hrec : s.procs.any (·.records o) = false := by
    rw [List.any_eq_false]
    exact fun p hp hrec => hnone ⟨p, hp, hrec⟩
  simp [Sys.missed, hd, hc, hr.status, hr.refunded, hall, hrec] at h

/-- An order that is claimed in time is not missed. -/
theorem not_missed_of_claims {i : Nat} {r : Reply} {p : Proc} (h : ClaimsInTime s (.run i r) = true)
    (hp : s.procs[i]? = some p) (hc : p.claims = some o) : s.missed o = false := by
  simpa [ClaimsInTime, hp, hc] using h

end Missed

section Kept

theorem readFree_kept (dir : Directory) :
    readFree.Kept (system dir) (fun s e => Faultless e = true ∧ ClaimsInTime s e = true)
      fun _ => True where
  spawn s k _ _ _ := by
    refine ⟨fun o ho => ?_, fun _ _ => trivial⟩
    cases k with
    | refund request => cases request <;> cases ho
    | _ => cases ho
  env s e w _ _ h hw :=
    ⟨trivial, fun q hq o ho => by rw [(env_samePayouts hw).claims]; exact h.procs q hq o ho⟩
  run s i r p w p' _ hr h hp hstep := by
    have hm := call_move hr.1 hstep
    refine ⟨trivial, fun o ho => ?_, fun j q _ hjq hq _ => ⟨fun o ho => ?_, trivial⟩⟩
    · obtain ⟨order, rfl, hfree⟩ := Proc.readFree_iff.mp ho
      cases hm with
      | refund hm =>
        obtain ⟨_, hd⟩ := refund_readBack hm rfl
        rw [(refund_samePayouts hm).claims, World.claimOf_of_get hd]
        exact hfree
    · by_contra hne
      obtain ⟨hclaims, d, hd, hc⟩ := call_claimOf hm (hq o ho) hne
      have hmiss := missed_of_readFree hd hc (List.mem_of_getElem? hjq) ho
      cases hmiss.symm.trans (not_missed_of_claims hr.2 hp hclaims)

/-- A rewrite of one order that refunds none makes nothing due. -/
theorem recovering_modifyOrder {w : World} {id o : OrderId} {g : Order → Order}
    (hg : ∀ d, w.orders.get id = some d → (g d).Refunded →
      d.Refunded ∧ (g d).vendorPayoutId = d.vendorPayoutId)
    (h : recovering.due (w.modifyOrder id g) o) : recovering.due w o := by
  obtain ⟨d', hd', hr, hc, hno⟩ := h
  rcases Collection.get_modify_cases hd' with ⟨rfl, d, hd, rfl⟩ | ⟨_, hd⟩
  · obtain ⟨hr', hc'⟩ := hg d hd hr
    exact ⟨d, hd, hr', hc' ▸ hc, hno⟩
  · exact ⟨d', hd, hr, hc, hno⟩

/-- A write of a refund that leaves its order unrefunded. -/
theorem recovering_updateOrder {w : World} {id o : OrderId} {f : Order → Option Order}
    (hf : ∀ d d', w.orders.get id = some d → f d = some d' → d'.paymentStatus = .succeeded)
    (h : recovering.due (w.updateOrder id f) o) : recovering.due w o := by
  refine recovering_modifyOrder (fun d hd hr => ?_) h
  cases hfd : f d with
  | none =>
    rw [hfd] at hr
    exact ⟨hr, rfl⟩
  | some d' =>
    rw [hfd, Option.getD_some] at hr
    cases (hf d d' hd hfd).symm.trans hr.refunded

/-- **A refund that finds its order claimed goes on to record the clawback.** -/
theorem recovering_refund {w w' : World} {pc pc' : RefundPc} {r : Reply} {o : OrderId}
    (hr : r.faultless = true) (hm : RefundMove w pc r w' pc') (hok : RefundsOk w)
    (hfree : (Proc.refund pc).readFree o = true → w.claimOf .vendorPayoutId o = none)
    (h : recovering.due w' o) : recovering.bearer (.refund pc') o ∨
      (recovering.due w o ∧ ¬ recovering.bearer (.refund pc) o) := by
  have keep : recovering.due w o → (∀ order payoutId, pc ≠ .recordClawback o order payoutId) →
      recovering.bearer (.refund pc') o ∨
        (recovering.due w o ∧ ¬ recovering.bearer (.refund pc) o) := by
    refine fun hdue hne => Or.inr ⟨hdue, fun hb => ?_⟩
    cases pc with
    | recordClawback id order payoutId =>
      obtain rfl : id = o := by simpa [recovering, Proc.records] using hb
      exact hne order payoutId rfl
    | _ => cases hb
  cases hm with
  | idle hpc _ => exact keep h fun _ _ he => by subst he; cases hpc
  | lost written m => cases hr
  | claimed hd hc _ =>
    refine keep (recovering_updateOrder (fun d d' _ hc => ?_) h) (fun _ _ he => by cases he)
    obtain ⟨⟨_, hp, _⟩, rfl⟩ := Order.claimForRefund_eq_some.mp hc
    exact hp
  | called => exact keep h fun _ _ he => by cases he
  | flagged =>
    refine keep (recovering_updateOrder (fun d d' _ hc => ?_) h) (fun _ _ he => by cases he)
    obtain ⟨⟨_, hp⟩, rfl⟩ := Order.flagAmbiguousRefund_eq_some.mp hc
    exact hp
  | unflagged => exact keep h fun _ _ he => by cases he
  | reverted =>
    refine keep (recovering_updateOrder (fun d d' _ hc => ?_) h) (fun _ _ he => by cases he)
    obtain ⟨⟨_, hp⟩, rfl⟩ := Order.revertFailedRefundClaim_eq_some.mp hc
    exact hp
  | disputed =>
    refine keep (recovering_modifyOrder ?_ h) (fun _ _ he => by cases he)
    exact fun d _ hr => ⟨⟨hr.1, hr.2⟩, rfl⟩
  | webhookClaimed =>
    refine keep (recovering_updateOrder (fun d d' _ hc => ?_) h) (fun _ _ he => by cases he)
    obtain ⟨⟨_, hp, _⟩, rfl⟩ := Order.claimForRefund_eq_some.mp hc
    exact hp
  | cleared =>
    refine keep (recovering_modifyOrder ?_ h) (fun _ _ he => by cases he)
    exact fun d _ hr => ⟨⟨hr.1, hr.2⟩, rfl⟩
  | reconciled =>
    refine keep (recovering_updateOrder (fun d d' hd hc => ?_) h) (fun _ _ he => by cases he)
    obtain ⟨hf, rfl⟩ := Order.claimReconciledRefund_eq_some.mp hc
    exact ((hok.settled _ d hd).flagged hf).2
  | gone => exact keep h fun _ _ he => by cases he
  | readBack => exact keep h fun _ _ he => by cases he
  | @finalized id order _ _ hpc =>
    obtain ⟨d', hd', hr', hc, hno⟩ := h
    rcases Collection.get_modify_cases hd' with ⟨rfl, d, hd, rfl⟩ | ⟨hne, hd⟩
    · rcases hpc with rfl | ⟨hf, _⟩
      · cases hp : order.vendorPayoutId with
        | none =>
          have hnone := hfree (Proc.readFree_iff.mpr ⟨order, rfl, hp⟩)
          rw [World.claimOf_of_get hd] at hnone
          exact absurd hnone hc
        | some payoutId =>
          left
          simp [recovering, Proc.records, RefundPc.afterFinalize, hp]
      · cases hf.symm.trans hr
    · exact keep ⟨d', hd, hr', hc, hno⟩ fun _ _ he => by cases he
  | @recorded id order payoutId _ _ _ =>
    obtain ⟨d, hd, hr', hc, hno⟩ := h
    have hne : id ≠ o := fun he => hno _ _ (Collection.get_create_self (c := w.clawbacks)) he
    refine keep ⟨d, hd, hr', hc, fun i c hi => hno i c (Collection.get_create_of_get hi)⟩
      fun _ _ he => ?_
    cases he
    exact hne rfl

/-- **No refunded order is left claimed and not charged back** by a call that has
ended. -/
theorem recovering_kept (dir : Directory) :
    recovering.Kept (system dir) (fun s e => Faultless e = true ∧ ClaimsInTime s e = true)
      fun s => refunds.Holds s ∧ readFree.Holds s where
  run s i r p w p' hbase hb hr hp hstep o hdue := by
    have hm := call_move hr.1 hstep
    have payout : s.shared.SameRefunds w → p.records o = false →
        recovering.bearer p' o ∨ recovering.Elsewhere s i o := by
      intro hsame hrec
      obtain ⟨d', hd', hr', hc', hno'⟩ := hdue
      obtain ⟨d, hd, he⟩ := hsame.symm.order hd'
      obtain ⟨hst, hpay, _, _⟩ := Order.fields_of_withoutClaims he
      have href : d.Refunded := ⟨hst ▸ hr'.1, hpay ▸ hr'.2⟩
      have hno : ∀ k c, s.shared.clawbacks.get k = some c → c.orderId ≠ o := by
        intro k c hk
        obtain ⟨c', hk', hrec'⟩ := hsame.clawback hk
        exact (PayoutClawback.fields_of_recorded hrec').1 ▸ hno' k c' hk'
      have hnb : ¬ recovering.bearer p o := fun hb' => by cases hrec.symm.trans hb'
      by_cases hc : d.vendorPayoutId = none
      · have hne : w.claimOf .vendorPayoutId o ≠ none := by
          rw [World.claimOf_of_get hd']
          exact hc'
        obtain ⟨hclaims, _⟩ := call_claimOf hm ((World.claimOf_of_get hd).trans hc) hne
        obtain ⟨q, hq, hrec'⟩ := records_of_not_missed (not_missed_of_claims hr.2 hp hclaims) hd hc
          href hno
        obtain ⟨j, hj⟩ := List.mem_iff_getElem?.mp hq
        refine Or.inr ⟨j, q, ?_, hj, hrec'⟩
        rintro rfl
        rw [hp] at hj
        exact hnb (Option.some.inj hj ▸ hrec')
      · exact Or.inr (hb.elsewhere hp ⟨d, hd, href, hc, hno⟩ hnb)
    cases p with
    | batch pc =>
      obtain ⟨pc', hs, rfl⟩ := step_batch hstep
      exact payout (batch_sameRefunds hs) rfl
    | resolve pc =>
      obtain ⟨pc', hs, rfl⟩ := step_resolve hstep
      exact payout (resolve_sameRefunds hs) rfl
    | refund pc =>
      cases hm with
      | refund hm =>
        exact (recovering_refund hr.1 hm hbase.1.shared (hbase.2.at hp o) hdue).imp_right
          fun h => hb.elsewhere hp h.1 h.2
  env s e w _ _ hw o hdue := by
    rcases env_cases hw with ⟨d, _, hs, _, _, rfl⟩ | ⟨id, d, d', hd, hprog, rfl⟩ |
      ⟨ho, _, hc, _, _⟩
    · obtain ⟨d', hd', hr, hrest⟩ := hdue
      rcases Collection.get_create_cases hd' with ⟨_, rfl⟩ | ⟨_, hd'⟩
      · cases hs.symm.trans hr.status
      · exact ⟨d', hd', hr, hrest⟩
    · refine recovering_modifyOrder (fun d₁ hd₁ hr => ?_) hdue
      obtain rfl := Option.some.inj (hd.symm.trans hd₁)
      exact ⟨⟨hprog.unrefunded hr.status, hprog.notRefunded hr.refunded⟩, hprog.vendorClaim⟩
    · obtain ⟨d, hd, hr, hcl, hno⟩ := hdue
      exact ⟨d, ho ▸ hd, hr, hcl, fun i c hi => hno i c (hc ▸ hi)⟩

end Kept

section Runs

/-- A run of batches and refunds in which no database call fails, admins do not
contradict each other, and no order is claimed whose refund records no clawback. -/
def InTime (s : Sys) (e : SysEvent) : Prop := Civil s e ∧ ClaimsInTime s e = true

/-- `InTime` on concrete events. -/
def inTimeB (s : Sys) (e : SysEvent) : Bool := Faultless e && Agree s e && ClaimsInTime s e

theorem inTime_of_inTimeB (s : Sys) (e : SysEvent) (h : inTimeB s e = true) : InTime s e := by
  simpa [inTimeB, InTime, Civil] using h

/-- **A refunded order that was paid out is charged back**, exactly once and in full,
in every run without a database failure in which no order is claimed whose refund
records no clawback. -/
theorem refunded_was_recovered {dir : Directory} {vendors : List PayoutVendor} {s : Sys}
    (h : (system dir).Reach InTime (Sys.initial vendors) s) (hq : s.Quiescent) :
    s.shared.RefundedWasRecovered := by
  have faultless : (system dir).Reach (fun s e => Faultless e = true ∧ ClaimsInTime s e = true)
      (Sys.initial vendors) s := h.mono fun _ _ he => ⟨he.1.1, he.2⟩
  have hborne : recovering.Borne s := by
    refine recovering.borne_of_reach (recovering_kept dir) (fun s hs => ⟨refunds_reach hs, ?_⟩)
      (by rintro o ⟨_, hd, _⟩; simp [Sys.initial, World.empty] at hd) faultless
    exact Outline.holds_of_reach (readFree_kept dir) (fun _ _ => trivial)
      (Outline.holds_nil trivial) hs
  have hok : RefundsOk s.shared := (refunds_reach h).shared
  have hclaims : ClaimsOk s.shared := (holding_reach (h.mono fun _ _ he => he.1)).1.shared
  intro o d id hd hr hcov hsucc
  obtain ⟨p, hp, hs⟩ := hsucc
  have hclaim := claimOf_of_holds hcov hp (hclaims.held id p hp (Or.inr hs))
  rw [World.claimOf_of_get hd] at hclaim
  have hcharged : ∃ i c, s.shared.clawbacks.get i = some c ∧ c.orderId = o := by
    by_contra hno
    have hdue : recovering.due s.shared o := ⟨d, hd, hr, fun hnone =>
      (by cases hclaim.symm.trans hnone), fun i c hc ho => hno ⟨i, c, hc, ho⟩⟩
    obtain ⟨q, hq', hrec⟩ := hborne o hdue
    cases hrec.symm.trans (Proc.records_of_ended (hq q hq'))
  obtain ⟨i, c, hc, rfl⟩ := hcharged
  obtain ⟨d', hd', _, hamount⟩ := hok.clawback i c hc
  obtain rfl := Option.some.inj (hd.symm.trans hd')
  exact ⟨i, c, hc, rfl, hamount, fun j c' hc' ho => hok.unique j i c' c hc' hc ho⟩

/-- The refund of order 0 comes between the claim of payout 0 and its transfer. -/
def refundedAfterClaimRun : List SysEvent :=
  deliveredOrder 0 ++
  [.spawn .runWeeklyBatch, .run 0 (.db .ok), .run 0 (.db .ok), .run 0 (.db .ok),
    .run 0 (.db .ok), .run 0 (.db .ok), .spawn (.refund (.refundOrder 0)), .run 1 (.db .ok),
    .run 1 (.db .ok), .run 1 (.refund .resolved), .run 1 (.db .ok), .run 0 (.db .ok),
    .run 1 (.db .ok), .run 0 (.db .ok), .run 0 (.transfer (.transferred "tr_1")), .run 1 (.db .ok),
    .run 0 (.db .ok), .run 0 (.db .ok), .run 0 (.db .ok)]

/-- Order 0 is refunded, payout 0 for it is made, and nothing is in progress. -/
def Sys.refundedAndPaid (s : Sys) : Bool :=
  s.procs.all Proc.ended &&
    (s.shared.orders.get 0).any (fun d => d.status = .refunded && d.paymentStatus = .refunded) &&
    decide (s.shared.Covers .vendorPayoutId 0 0) &&
    (s.shared.payouts.get 0).any fun d => d.status = .succeeded

theorem refundedAndPaid_iff {s : Sys} (h : s.refundedAndPaid = true) :
    s.Quiescent ∧ (∃ d, s.shared.orders.get 0 = some d ∧ d.Refunded) ∧
      s.shared.Covers .vendorPayoutId 0 0 ∧ s.shared.Succeeded 0 := by
  simp only [Sys.refundedAndPaid, Bool.and_eq_true, List.all_eq_true, Option.any_eq_true,
    decide_eq_true_eq] at h
  obtain ⟨⟨⟨hq, d, hd, hr⟩, hc⟩, p, hp, hs⟩ := h
  exact ⟨hq, ⟨d, hd, hr.1, hr.2⟩, hc, p, hp, hs⟩

theorem refunded_was_recovered_after_claim : ∃ s : Sys, s.shared.Covers .vendorPayoutId 0 0 ∧
    s.shared.Succeeded 0 ∧ (∃ d, s.shared.orders.get 0 = some d ∧ d.Refunded) ∧
    s.shared.RefundedWasRecovered := by
  obtain ⟨s, hs, hp⟩ := exists_run inTimeB Sys.refundedAndPaid refundedAfterClaimRun
    (by decide +kernel)
  obtain ⟨hq, hd, hc, hsucc⟩ := refundedAndPaid_iff hp
  exact ⟨s, hc, hsucc, hd, refunded_was_recovered (hs.mono inTime_of_inTimeB) hq⟩

/-- The refund of order 0 comes between the query of a batch and its claim. -/
def refundedBeforeClaimRun : List SysEvent :=
  deliveredOrder 0 ++
  [.spawn .runWeeklyBatch, .run 0 (.db .ok), .run 0 (.db .ok), .run 0 (.db .ok),
    .spawn (.refund (.refundOrder 0)), .run 1 (.db .ok), .run 1 (.db .ok),
    .run 1 (.refund .resolved), .run 1 (.db .ok), .run 1 (.db .ok),
    .run 0 (.db .ok), .run 0 (.db .ok), .run 0 (.db .ok), .run 0 (.db .ok),
    .run 0 (.transfer (.transferred "tr_1")), .run 0 (.db .ok), .run 0 (.db .ok), .run 0 (.db .ok)]

/-- **A refund between the query and the claim is paid out all the same**, and
nothing is charged back. -/
theorem refunded_unrecovered :
    ¬ ∀ (dir : Directory) (vendors : List PayoutVendor) (s : Sys),
      (system dir).Reach (fun _ e => Faultless e = true) (Sys.initial vendors) s → s.Quiescent →
        s.shared.RefundedWasRecovered := by
  intro hall
  obtain ⟨s, hs, hp⟩ := exists_run (fun _ e => Faultless e)
    (fun s => s.refundedAndPaid && decide (s.shared.clawbacks.nextId = 0))
    refundedBeforeClaimRun (by decide +kernel)
  rw [Bool.and_eq_true] at hp
  obtain ⟨hq, ⟨d, hd, hr⟩, hc, hsucc⟩ := refundedAndPaid_iff hp.1
  obtain ⟨i, c, hi, _⟩ := hall _ _ s hs hq 0 d 0 hd hr hc hsucc
  have := Collection.lt_nextId_of_get hi
  rw [of_decide_eq_true hp.2] at this
  exact absurd this (Nat.not_lt_zero i)

end Runs

end FoodDelivery
