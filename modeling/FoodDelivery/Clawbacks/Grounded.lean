import FoodDelivery.Payouts.Sent
import FoodDelivery.Refunds.Exclusive

/-!
# Clawbacks of money that was paid

`finalizeRefund` charges a vendor back for an order that a payout has claimed,
whether that payout was made or not.

* `grounds_kept`: every clawback names a payout that was made or may still be, as
  long as no payout is turned down that a clawback or a refund past its read
  names, and no refund reads back an order whose payout is being turned down.
* `charged_back_was_paid`: the runs in which it stays so; `charged_back_unpaid` is
  one in which a transfer is rejected after the refund.
-/

namespace FoodDelivery

open Store Interleave

/-- A vendor is charged back only for an order that a payout was made for. -/
def World.ChargedBackWasPaid (w : World) : Prop :=
  ∀ i c, w.clawbacks.get i = some c →
    ∃ id, w.Covers .vendorPayoutId c.orderId id ∧ w.Succeeded id

/-! ## Payouts that are turned down -/

/-- The payout `executePayout` is taking back. -/
def ExecPc.takingBack : ExecPc → Option PayoutId
  | .raceRelease id _ _ => some id
  | .raceSave id _ => some id
  | .failSave id _ => some id
  | .release id _ _ => some id
  | _ => none

/-- The payout `executePayout` starts to take back: not all orders could be claimed,
the account was refused or the transfer failed. -/
def ExecPc.turnsDown (a : Attempt) : ExecPc → Reply → Option PayoutId
  | .claim id _ [] n, _ => if n = a.group.orderIds.length then none else some id
  | .transfer id _, .transfer (.failed _ _) => some id
  | .transfer id _, _ => if a.accountError.isSome then some id else none
  | _, _ => none

/-- The order a refund past its read will charge back, and the payout it names. -/
def RefundPc.charging : RefundPc → Option (OrderId × PayoutId)
  | .finalizeSave id order => order.vendorPayoutId.map fun payoutId => (id, payoutId)
  | .recordClawback id _ payoutId => some (id, payoutId)
  | _ => none

namespace Proc

/-- The payout a call is taking back. -/
def takingBack : Proc → Option PayoutId
  | .batch pc => pc.executing.bind fun x => x.2.takingBack
  | .resolve pc =>
    pc.resolution.bind fun c => if c.transferActuallySucceeded then none else some c.payoutId
  | .refund _ => none

/-- The payout a call starts to take back in its next step. -/
def turnsDown (w : World) (p : Proc) (r : Reply) : Option PayoutId :=
  match p with
  | .batch pc => pc.executing.bind fun x => x.2.turnsDown x.1 r
  | .resolve (.find id _ false) =>
    (w.payouts.get id).bind fun d => if d.reconciliationRequired then some id else none
  | _ => none

def charging (p : Proc) : Option (OrderId × PayoutId) := p.refunding.bind RefundPc.charging

/-- The payout that has claimed the order a refund is about to read. -/
def readsBack (w : World) : Proc → Option PayoutId
  | .refund (.finalizeRead id) => w.claimOf .vendorPayoutId id
  | _ => none

end Proc

/-- A clawback, or a refund past its read, names the payout. -/
def Sys.charged (s : Sys) (id : PayoutId) : Bool :=
  s.shared.clawbacks.docs.any (fun c => c.originalPayoutId == id) ||
    s.procs.any fun p => p.charging.any fun x => x.2 == id

/-- The payout has failed for good, or is being taken back. -/
def Sys.turnedDown (s : Sys) (id : PayoutId) : Bool :=
  (s.shared.payouts.get id).any (fun d => d.status = .failed && !d.reconciliationRequired) ||
    s.procs.any fun p => p.takingBack == some id

/-- No payout is turned down that somebody was charged back for, and nobody is
charged back for a payout that is turned down. -/
def Backed (s : Sys) : SysEvent → Bool
  | .run i r =>
    match s.procs[i]? with
    | some p => (p.turnsDown s.shared r).all (fun id => !s.charged id) &&
        (p.readsBack s.shared).all fun id => !s.turnedDown id
    | none => true
  | _ => true

/-- A payout for the order was made, or may still be. -/
def Grounded (w : World) (o : OrderId) (id : PayoutId) : Prop :=
  ∃ d, w.payouts.get id = some d ∧ d.claimField = .vendorPayoutId ∧ o ∈ d.orderIds ∧
    (d.status = .failed → d.reconciliationRequired = true)

structure ProcGrounds (w : World) (p : Proc) : Prop where
  charging : ∀ o id, p.charging = some (o, id) → Grounded w o id
  takingBack : ∀ id, p.takingBack = some id → ∀ i c, w.clawbacks.get i = some c →
    c.originalPayoutId ≠ id

/-- Nobody takes back the payout another call charges an order back for. -/
def NotCrossed (p q : Proc) : Prop := ∀ o id, p.charging = some (o, id) → q.takingBack ≠ some id

def grounds : Outline World Proc where
  shared w := ∀ i c, w.clawbacks.get i = some c → Grounded w c.orderId c.originalPayoutId
  proc := ProcGrounds
  compat p q := NotCrossed p q ∧ NotCrossed q p
  symm _ _ h := ⟨h.2, h.1⟩

section Charged

variable {s : Sys} {id : PayoutId}

theorem charged_of_clawback {i : ClawbackId} {c : PayoutClawback}
    (hc : s.shared.clawbacks.get i = some c) (hid : c.originalPayoutId = id) :
    s.charged id = true := by
  rw [Sys.charged, Bool.or_eq_true, List.any_eq_true]
  exact Or.inl ⟨c, List.mem_of_getElem? hc, beq_iff_eq.mpr hid⟩

theorem charged_of_charging {p : Proc} (hp : p ∈ s.procs) {o : OrderId}
    (hc : p.charging = some (o, id)) : s.charged id = true := by
  rw [Sys.charged, Bool.or_eq_true, List.any_eq_true (l := s.procs)]
  exact Or.inr ⟨p, hp, by simp [hc]⟩

theorem turnedDown_of_takingBack {p : Proc} (hp : p ∈ s.procs) (hid : p.takingBack = some id) :
    s.turnedDown id = true := by
  rw [Sys.turnedDown, Bool.or_eq_true, List.any_eq_true]
  exact Or.inr ⟨p, hp, by simp [hid]⟩

theorem turnedDown_of_failed {d : Payout} (hd : s.shared.payouts.get id = some d)
    (hs : d.status = .failed) (hf : d.reconciliationRequired = false) :
    s.turnedDown id = true := by
  simp [Sys.turnedDown, hd, hs, hf]

end Charged

section Moves

variable {a : Attempt} {w w' : World} {e e' : ExecPc} {r : Reply} {id : PayoutId} {o : OrderId}

theorem Grounded.congr (h : Grounded w o id)
    (hw : ∀ d, w.payouts.get id = some d → ∃ d', w'.payouts.get id = some d' ∧ SameTerms d' d ∧
      (d'.status = .failed → d'.reconciliationRequired = true ∨
        (d.status = .failed ∧ d'.reconciliationRequired = d.reconciliationRequired))) :
    Grounded w' o id := by
  obtain ⟨d, hd, hf, ho, hs⟩ := h
  obtain ⟨d', hd', ht, hs'⟩ := hw d hd
  refine ⟨d', hd', ht.claimField.trans hf, ht.orderIds ▸ ho, fun hfail => ?_⟩
  rcases hs' hfail with h | ⟨h, hr⟩
  · exact h
  · exact hr.trans (hs h)

theorem Grounded.same (h : Grounded w o id) (hp : w'.payouts = w.payouts) : Grounded w' o id := by
  rw [Grounded, hp]
  exact h

/-- A payout that fails in memory without a flag is being taken back. -/
theorem takingBack_of_stage {st : Stage} (h : e.stage = some st) (hm : st.memory = .failed) :
    st.flagged = true ∨ e.takingBack = some st.id := by
  cases e <;> cases h <;> first | exact Or.inl rfl | exact Or.inr rfl | cases hm

theorem takingBack_consume {guarded : Bool} {p : Payout} {rest : List Consumption} :
    (ExecPc.consume guarded id p rest).takingBack = none := by cases rest <;> rfl

/-- A payout is taken back from when it is turned down. -/
theorem exec_takingBack (hm : ExecMove a w e r w' e') (h : e'.takingBack = some id) :
    e.takingBack = some id ∨ e.turnsDown a r = some id := by
  cases hm with
  | raced i p n hn =>
    cases h
    exact Or.inr (if_neg hn)
  | refused i p m t ha =>
    cases h
    right
    cases t <;> simp [ExecPc.turnsDown, ha]
  | failed i p moved m ha =>
    cases h
    exact Or.inr rfl
  | raceReleased => exact Or.inl h
  | raceReleasedAll => exact Or.inl h
  | failSaved => exact Or.inl h
  | released => exact Or.inl h
  | zeroSaved => cases takingBack_consume.symm.trans h
  | successSaved => cases takingBack_consume.symm.trans h
  | entryGone => cases takingBack_consume.symm.trans h
  | entrySaved => cases takingBack_consume.symm.trans h
  | _ => cases h

/-- **A move of `executePayout`** leaves grounded what it does not take back. -/
theorem exec_grounded (hm : ExecMove a w e r w' e') (hx : ∀ st, e.stage = some st → Executes w a st)
    (h : Grounded w o id) (hid : e.takingBack ≠ some id) : Grounded w' o id := by
  cases exec_payouts hm with
  | same hp _ => exact h.same hp
  | created _ hp _ _ =>
    obtain ⟨d, hd, hrest⟩ := h
    exact ⟨d, hp ▸ Collection.get_create_of_get hd, hrest⟩
  | saved st hst hp _ _ =>
    refine h.congr fun d hd => ?_
    by_cases hsame : st.id = id
    · subst hsame
      obtain ⟨d₀, hd₀, _, _, ht₀⟩ := (hx st hst).stored
      obtain rfl := Option.some.inj (hd₀.symm.trans hd)
      refine ⟨st.payout, by rw [hp, Collection.get_modify_self, hd, Option.map_some],
        (hx st hst).terms.trans ht₀.symm, fun hfail => ?_⟩
      rw [(hx st hst).status] at hfail
      rcases takingBack_of_stage hst hfail with hf | htb
      · exact Or.inl ((hx st hst).flag.trans hf)
      · exact absurd htb hid
    · exact ⟨d, by rw [hp, Collection.get_modify_ne hsame, hd], .refl d, fun hf => Or.inr ⟨hf, rfl⟩⟩

variable {pc pc' : ResolvePc}

/-- **A move of `resolveReconciliation`** leaves grounded what it does not take
back. -/
theorem resolve_grounded (hm : ResolveMove w pc w' pc')
    (hres : ∀ c, pc.resolution = some c → Resolves w c) (h : Grounded w o id)
    (hid : (Proc.resolve pc).takingBack ≠ some id) : Grounded w' o id := by
  cases hm with
  | saved c =>
    refine h.congr fun d hd => ?_
    by_cases hsame : c.payoutId = id
    · subst hsame
      cases ha : c.transferActuallySucceeded with
      | false => exact absurd (by simp [Proc.takingBack, ResolvePc.resolution, ha]) hid
      | true =>
        refine ⟨d.saveResolved c.payout true c.adminUserId c.reconciledAt, ?_, ⟨rfl, rfl, rfl⟩,
          fun hfail => ?_⟩
        · rw [World.modifyPayout, Collection.get_modify_self, hd, Option.map_some]
        · simp [Payout.saveResolved, (hres c rfl).failed] at hfail
    · exact ⟨d, by rw [World.modifyPayout, Collection.get_modify_ne hsame, hd], .refl d,
        fun hf => Or.inr ⟨hf, rfl⟩⟩
  | released c o rest => exact h.same rfl
  | entrySaved c e b rest => exact h.same rfl
  | _ => exact h

/-- A resolution takes a payout back from when the admin's no is taken up. -/
theorem resolve_takingBack (hm : ResolveMove w pc w' pc')
    (h : (Proc.resolve pc').takingBack = some id) (s : Reply) :
    (Proc.resolve pc).takingBack = some id ∨ (Proc.resolve pc).turnsDown w s = some id := by
  simp only [Proc.takingBack, Option.bind_eq_some_iff] at h
  obtain ⟨c, hc, hans⟩ := h
  by_cases hold : pc.resolution = some c
  · exact Or.inl (by rw [Proc.takingBack, hold, Option.bind_some, hans])
  · obtain ⟨admin, rfl, hd, hf⟩ := resolve_accepted hm hc hold
    cases ha : c.transferActuallySucceeded with
    | true => simp [ha] at hans
    | false =>
      rw [ha] at hans
      exact Or.inr (by simpa [Proc.turnsDown, hd, hf] using hans)

end Moves

section Refunds

variable {w w' : World} {pc pc' : RefundPc} {r : Reply}

theorem holds_of_charging {x : OrderId × PayoutId} (h : pc.charging = some x) :
    pc.holds = some x.1 := by
  cases pc with
  | finalizeSave id order =>
    obtain ⟨_, _, rfl⟩ := Option.map_eq_some_iff.mp h
    rfl
  | recordClawback id order payoutId =>
    cases h
    rfl
  | _ => cases h

/-- What a refund charges back it has read on the order. -/
theorem refund_charging (hm : RefundMove w pc r w' pc') {x : OrderId × PayoutId}
    (h : pc'.charging = some x) : pc.charging = some x ∨
      (pc = .finalizeRead x.1 ∧ w.claimOf .vendorPayoutId x.1 = some x.2) := by
  have idle : pc'.holds ≠ none := fun hnone => by cases hnone.symm.trans (holds_of_charging h)
  cases hm with
  | idle _ hpc => exact absurd hpc idle
  | lost => cases h
  | claimed hd hc hpc => rcases hpc with rfl | ⟨_, rfl⟩ <;> cases h
  | called id order ref prev reply => cases reply <;> cases h
  | flagged _ _ hpc => exact absurd hpc idle
  | unflagged _ hpc => exact absurd hpc idle
  | reverted hpc => exact absurd hpc idle
  | disputed hpc => exact absurd hpc idle
  | webhookClaimed _ _ hpc => rcases hpc with rfl | ⟨_, rfl⟩ <;> cases h
  | cleared _ hpc => exact absurd hpc idle
  | reconciled _ _ hpc => rcases hpc with rfl | ⟨_, rfl⟩ <;> cases h
  | gone _ hpc => exact absurd hpc idle
  | @readBack id d hd =>
    obtain ⟨payoutId, hp, rfl⟩ := Option.map_eq_some_iff.mp h
    exact Or.inr ⟨rfl, (World.claimOf_of_get hd).trans hp⟩
  | @finalized id order r pc' hpc =>
    rcases hpc with rfl | ⟨_, rfl⟩
    · cases hp : order.vendorPayoutId with
      | none =>
        rw [RefundPc.afterFinalize, hp] at h
        cases h
      | some payoutId =>
        rw [RefundPc.afterFinalize, hp] at h
        cases h
        exact Or.inl (by rw [RefundPc.charging, hp, Option.map_some])
    · cases h
  | recorded hpc => exact absurd hpc idle

/-- What a refund records it was about to charge back. -/
theorem refund_clawbacks (hm : RefundMove w pc r w' pc') {i : ClawbackId} {c : PayoutClawback}
    (hc : w'.clawbacks.get i = some c) :
    w.clawbacks.get i = some c ∨ pc.charging = some (c.orderId, c.originalPayoutId) := by
  cases hm with
  | recorded =>
    rcases Collection.get_create_cases hc with ⟨_, rfl⟩ | ⟨_, hc⟩
    · exact Or.inr rfl
    · exact Or.inl hc
  | _ => exact Or.inl hc

end Refunds

section Kept

theorem ProcGrounds.of_none {w : World} {p : Proc} (hc : p.charging = none)
    (ht : p.takingBack = none) : ProcGrounds w p where
  charging _ _ h := by cases hc.symm.trans h
  takingBack _ h := by cases ht.symm.trans h

theorem NotCrossed.of_charging {p q : Proc} (h : p.charging = none) : NotCrossed p q :=
  fun _ _ hc => by cases h.symm.trans hc

theorem NotCrossed.of_takingBack {p q : Proc} (h : q.takingBack = none) : NotCrossed p q :=
  fun _ _ _ ht => by cases h.symm.trans ht

/-- A step of the payout side that grounds what it does not take back. -/
theorem grounds_payout_step {s : Sys} {i : Nat} {p p' : Proc} {w : World} {r : Reply}
    (hb : Backed s (.run i r) = true) (h : grounds.Holds s) (hp : s.procs[i]? = some p)
    (hcharge : p'.charging = none)
    (hclaw : ∀ j c', w.clawbacks.get j = some c' → ∃ c, s.shared.clawbacks.get j = some c ∧
      c'.orderId = c.orderId ∧ c'.originalPayoutId = c.originalPayoutId)
    (hground : ∀ o id, Grounded s.shared o id → p.takingBack ≠ some id → Grounded w o id)
    (htake : ∀ id, p'.takingBack = some id →
      p.takingBack = some id ∨ p.turnsDown s.shared r = some id) :
    grounds.shared w ∧ grounds.proc w p' ∧ ∀ (j : Nat) (q : Proc), i ≠ j → s.procs[j]? = some q →
      grounds.proc s.shared q → grounds.compat p q → grounds.proc w q ∧ grounds.compat p' q := by
  have uncharged : ∀ id, p.turnsDown s.shared r = some id → s.charged id = false := by
    intro id hid
    simp only [Backed, hp, hid, Option.all_some, Bool.and_eq_true, Bool.not_eq_true'] at hb
    exact hb.1
  refine ⟨fun j c' hc' => ?_, ⟨fun o id hc => (by cases hcharge.symm.trans hc),
    fun id hid j c' hc' hname => ?_⟩, fun j q _ hjq hq hcompat => ⟨⟨fun o id hc => ?_,
      fun id hid k c' hc' hname => ?_⟩, .of_charging hcharge, fun o id hc hid => ?_⟩⟩
  · obtain ⟨c, hc, ho, hid⟩ := hclaw j c' hc'
    rw [ho, hid]
    exact hground _ _ (h.shared j c hc) fun ht => (h.at hp).takingBack _ ht j c hc rfl
  · obtain ⟨c, hc, _, hid'⟩ := hclaw j c' hc'
    rcases htake id hid with hold | hnew
    · exact (h.at hp).takingBack id hold j c hc (hid' ▸ hname)
    · cases (charged_of_clawback hc (hid' ▸ hname)).symm.trans (uncharged id hnew)
  · exact hground o id (hq.charging o id hc) (hcompat.2 o id hc)
  · obtain ⟨c, hc, _, hid'⟩ := hclaw k c' hc'
    exact hq.takingBack id hid k c hc (hid' ▸ hname)
  · rcases htake id hid with hold | hnew
    · exact hcompat.2 o id hc hold
    · cases (charged_of_charging (List.mem_of_getElem? hjq) hc).symm.trans
        (uncharged id hnew)

/-- **Every clawback stays grounded** while no payout is turned down that somebody
is charged back for. -/
theorem grounds_kept (dir : Directory) :
    grounds.Kept (system dir) (fun s e => Faultless e = true ∧ Backed s e = true)
      fun s => ownership.Holds s ∧ ClaimsOk s.shared where
  spawn s k _ _ _ := by
    have hc : (startCall s.shared k).charging = none := by
      cases k with
      | runWeeklyBatch => rfl
      | resolveReconciliation id admin answer => rfl
      | refund request => cases request <;> rfl
    have ht : (startCall s.shared k).takingBack = none := by cases k <;> rfl
    exact ⟨.of_none hc ht, fun q _ => ⟨.of_charging hc, .of_takingBack ht⟩⟩
  env s e w _ _ h hw := by
    have hp := (env_samePayouts hw).payouts
    have hclaw : w.clawbacks = s.shared.clawbacks := by
      rcases env_cases hw with ⟨d, _, _, _, _, rfl⟩ | ⟨_, _, _, _, _, rfl⟩ | ⟨_, _, hc, _⟩
      · rfl
      · rfl
      · exact hc
    refine ⟨fun i c hc => (h.shared i c (hclaw ▸ hc)).same hp, fun q hq => ⟨fun o id hc => ?_,
      fun id hid i c hc => (h.procs q hq).takingBack id hid i c (hclaw ▸ hc)⟩⟩
    exact ((h.procs q hq).charging o id hc).same hp
  run s i r p w p' hbase hr h hp hstep := by
    obtain ⟨hown, hok⟩ := hbase
    have hknows := hown.at hp
    have clawbacks : s.shared.SameRefunds w → ∀ j c', w.clawbacks.get j = some c' →
        ∃ c, s.shared.clawbacks.get j = some c ∧ c'.orderId = c.orderId ∧
          c'.originalPayoutId = c.originalPayoutId := by
      intro hsame j c' hc'
      obtain ⟨c, hc, he⟩ := hsame.symm.clawback hc'
      exact ⟨c, hc, (PayoutClawback.fields_of_recorded he).1.symm,
        (congrArg PayoutClawback.originalPayoutId he).symm⟩
    have hcall := hstep
    cases call_move hr.1 hstep with
    | quiet hpc _ hpc' =>
      refine grounds_payout_step hr.2 h hp rfl (fun j c hc => ⟨c, hc, rfl, rfl⟩)
        (fun o id hg _ => hg) fun id hid => ?_
      obtain ⟨⟨a, e⟩, he, ht⟩ := Option.bind_eq_some_iff.mp hid
      obtain ⟨rfl, _⟩ := hpc'.2 a e he
      cases ht
    | @resolve pc pc' _ hm =>
      obtain ⟨_, hs, _⟩ := step_resolve hcall
      exact grounds_payout_step hr.2 h hp rfl (clawbacks (resolve_sameRefunds hs))
        (fun o id hg hid => resolve_grounded hm hknows.resolving hg hid)
        fun id hid => resolve_takingBack hm hid r
    | @exec pc pc' a e e' _ hpc hm hpc' =>
      obtain ⟨_, hs, _⟩ := step_batch hcall
      have htake : ∀ id, (Proc.batch pc).takingBack = some id ↔ e.takingBack = some id := by
        intro id
        rw [Proc.takingBack, hpc, Option.bind_some]
      refine grounds_payout_step hr.2 h hp rfl (clawbacks (batch_sameRefunds hs))
        (fun o id hg hid => exec_grounded hm (hknows.executing a e hpc).2 hg
          (mt (htake id).mpr hid)) fun id hid => ?_
      obtain ⟨⟨a₁, e₁⟩, he, ht⟩ := Option.bind_eq_some_iff.mp hid
      rcases hpc' with ⟨_, hpc', _⟩ | ⟨_, hfresh⟩
      · cases hpc'.symm.trans he
        refine (exec_takingBack hm ht).imp (htake id).mpr fun hd => ?_
        rw [Proc.turnsDown, hpc, Option.bind_some, hd]
      · obtain ⟨rfl, _⟩ := hfresh.2 a₁ e₁ he
        cases ht
    | @refund pc pc' _ hm =>
      have hpay := (refund_samePayouts hm).payouts
      have grounded : ∀ {o id}, Grounded s.shared o id → Grounded w o id := fun hg => hg.same hpay
      have charging : ∀ o id, (Proc.refund pc').charging = some (o, id) →
          Grounded s.shared o id ∧ ∀ (j : Nat) (q : Proc), i ≠ j → s.procs[j]? = some q →
            grounds.compat (.refund pc) q → q.takingBack ≠ some id := by
        intro o id hc
        rcases refund_charging hm hc with hold | ⟨rfl, hclaim⟩
        · exact ⟨(h.at hp).charging o id hold, fun j q _ _ hcompat => hcompat.1 o id hold⟩
        · have hlive : Sys.turnedDown s id = false := by
            have := hr.2
            simp only [Backed, hp, Proc.readsBack, hclaim, Option.all_some, Bool.and_eq_true,
              Bool.not_eq_true'] at this
            exact this.2
          obtain ⟨d, hd, hf, ho⟩ := hok.covered _ _ _ hclaim
          refine ⟨⟨d, hd, hf, ho, fun hs => ?_⟩, fun j q _ hjq _ ht => ?_⟩
          · by_contra hflag
            rw [Bool.not_eq_true] at hflag
            cases (turnedDown_of_failed hd hs hflag).symm.trans hlive
          · cases (turnedDown_of_takingBack (List.mem_of_getElem? hjq) ht).symm.trans
              hlive
      refine ⟨fun k c hc => ?_,
        ⟨fun o id hc => grounded (charging o id hc).1, fun _ ht => by cases ht⟩,
        fun j q hij hjq hq hcompat => ⟨⟨fun o id hc => grounded (hq.charging o id hc),
          fun id hid k c hc hname => ?_⟩, fun o id hc => (charging o id hc).2 j q hij hjq hcompat,
          .of_takingBack rfl⟩⟩
      · rcases refund_clawbacks hm hc with hold | hnew
        · exact grounded (h.shared k c hold)
        · exact grounded ((h.at hp).charging _ _ hnew)
      · rcases refund_clawbacks hm hc with hold | hnew
        · exact hq.takingBack id hid k c hold hname
        · exact hcompat.1 _ _ hnew (hname ▸ hid)

theorem grounds_initial (vendors : List PayoutVendor) : grounds.Holds (Sys.initial vendors) :=
  Outline.holds_nil fun _ _ hc => by simp [World.empty] at hc

end Kept

section Runs

/-- Nothing is in progress, and no payout awaits reconciliation. -/
def Sys.quiet (s : Sys) : Bool :=
  s.procs.all Proc.ended && s.shared.payouts.docs.all fun d => !d.reconciliationRequired

theorem quiescent_of_quiet {s : Sys} (h : s.quiet = true) :
    s.Quiescent ∧ ∀ id, ¬ s.Flagged id := by
  rw [Sys.quiet, Bool.and_eq_true, List.all_eq_true, List.all_eq_true] at h
  refine ⟨h.1, ?_⟩
  rintro id ⟨d, hd, hf⟩
  have := h.2 d (List.mem_of_getElem? hd)
  rw [hf] at this
  cases this

/-- When nothing is under way or awaits reconciliation, a payout that has not
failed was made. -/
theorem succeeded_of_grounded {s : Sys} {o : OrderId} {id : PayoutId} (hborne : underway.Borne s)
    (hq : s.Quiescent) (hf : ¬ s.Flagged id) (h : Grounded s.shared o id) :
    s.shared.Covers .vendorPayoutId o id ∧ s.shared.Succeeded id := by
  obtain ⟨d, hd, hfield, ho, hs⟩ := h
  have hidle : ¬ underway.due s.shared id := fun hdue => by
    obtain ⟨p, hp, hown⟩ := hborne id hdue
    cases (Proc.owns_of_ended (hq p hp)).symm.trans hown
  refine ⟨⟨d, hd, hfield, ho⟩, d, hd, ?_⟩
  cases hst : d.status with
  | succeeded => rfl
  | failed => exact absurd ⟨d, hd, hs hst⟩ hf
  | pending => exact absurd ⟨d, hd, Or.inl hst⟩ hidle
  | processing => exact absurd ⟨d, hd, Or.inr hst⟩ hidle

/-- **No vendor is charged back for money it never received**, in every run without a
database failure and with truthful admins in which no payout is turned down that
somebody is charged back for. -/
theorem charged_back_was_paid {dir : Directory} {vendors : List PayoutVendor} {s : Sys}
    (h : (system dir).Reach (fun s e => Honest s e ∧ Backed s e = true) (Sys.initial vendors) s)
    (hq : s.Quiescent) (hf : ∀ id, ¬ s.Flagged id) : s.shared.ChargedBackWasPaid := by
  have hgrounds : grounds.Holds s := by
    refine Outline.holds_of_reach ((grounds_kept dir).mono fun _ _ he => ⟨he.1.1, he.2⟩)
      (fun s hs => ?_) (grounds_initial vendors) h
    have honest := hs.mono fun _ _ he => he.1
    exact ⟨ownership_reach (fun _ _ he => he.1) honest,
      (holding_reach (civil_of_honest honest)).1.shared⟩
  intro i c hc
  exact ⟨_, succeeded_of_grounded (underway_reach (fun _ _ he => he.1.1) h) hq (hf _)
    (hgrounds.shared i c hc)⟩

/-- The refund of order 0 lands while payout 0 is in flight, and the transfer goes
through. -/
def refundedInFlightRun : List SysEvent :=
  deliveredOrder 0 ++
  [.spawn .runWeeklyBatch, .run 0 (.db .ok), .run 0 (.db .ok), .run 0 (.db .ok),
    .run 0 (.db .ok), .run 0 (.db .ok), .run 0 (.db .ok), .run 0 (.db .ok),
    .spawn (.refund (.refundOrder 0)), .run 1 (.db .ok), .run 1 (.db .ok),
    .run 1 (.refund .resolved), .run 1 (.db .ok), .run 1 (.db .ok), .run 1 (.db .ok),
    .run 0 (.transfer (.transferred "tr_1")), .run 0 (.db .ok), .run 0 (.db .ok), .run 0 (.db .ok)]

theorem charged_back_was_paid_in_flight : ∃ s : Sys, s.shared.clawbacks.nextId = 1 ∧
    s.shared.ChargedBackWasPaid := by
  obtain ⟨s, hs, hp⟩ := exists_run (fun s e => honestB s e && Backed s e)
    (fun s => decide (s.shared.clawbacks.nextId = 1) && s.quiet) refundedInFlightRun
    (by decide +kernel)
  rw [Bool.and_eq_true] at hp
  obtain ⟨hq, hf⟩ := quiescent_of_quiet hp.2
  refine ⟨s, of_decide_eq_true hp.1, charged_back_was_paid (hs.mono fun s e he => ?_) hq hf⟩
  rw [Bool.and_eq_true] at he
  exact ⟨honest_of_honestB s e he.1, he.2⟩

/-- The refund of order 0 lands while payout 0 is in flight, and the transfer is
rejected. -/
def rejectedAfterRefundRun : List SysEvent :=
  deliveredOrder 0 ++
  [.spawn .runWeeklyBatch, .run 0 (.db .ok), .run 0 (.db .ok), .run 0 (.db .ok),
    .run 0 (.db .ok), .run 0 (.db .ok), .run 0 (.db .ok), .run 0 (.db .ok),
    .spawn (.refund (.refundOrder 0)), .run 1 (.db .ok), .run 1 (.db .ok),
    .run 1 (.refund .resolved), .run 1 (.db .ok), .run 1 (.db .ok), .run 1 (.db .ok),
    .run 0 (.transfer (.failed false "rejected")), .run 0 (.db .ok), .run 0 (.db .ok),
    .run 0 (.db .ok), .run 0 (.db .ok), .run 0 (.db .ok)]

/-- **A clawback survives the rejection of the payout it names.** -/
theorem charged_back_unpaid :
    ¬ ∀ (dir : Directory) (vendors : List PayoutVendor) (s : Sys),
      (system dir).Reach Honest (Sys.initial vendors) s → s.Quiescent → (∀ id, ¬ s.Flagged id) →
        s.shared.ChargedBackWasPaid := by
  intro hall
  obtain ⟨s, hs, hp⟩ := exists_run honestB
    (fun s => s.quiet && decide (s.shared.clawbacks.nextId = 1 ∧
      s.shared.payouts.docs.all fun d => d.status = .failed))
    rejectedAfterRefundRun (by decide +kernel)
  rw [Bool.and_eq_true] at hp
  obtain ⟨hq, hf⟩ := quiescent_of_quiet hp.1
  obtain ⟨hone, hfail⟩ := of_decide_eq_true hp.2
  obtain ⟨c, hc⟩ := Collection.exists_get_of_lt (c := s.shared.clawbacks) (i := 0) (by omega)
  obtain ⟨id, _, d, hd, hst⟩ := hall _ _ s (hs.mono honest_of_honestB) hq hf 0 c hc
  have := List.all_eq_true.mp hfail d (List.mem_of_getElem? hd)
  rw [decide_eq_true_iff, hst] at this
  cases this

end Runs

end FoodDelivery
