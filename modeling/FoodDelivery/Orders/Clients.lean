import FoodDelivery.Lib.Interleave
import FoodDelivery.Orders.Lifecycle

/-!
# Clients of one order

The calls that move one order along and refund it, each read and each write of the
order a step of its own.  A `save()` writes its paths and pushes onto the history
whatever the stored document has become since it was read; a `findOneAndUpdate` is
one step with its filter.  After a claim for a refund the provider either refunds,
and `finalizeRefund` follows, or it does not, and `revertFailedRefundClaim` does.
-/

namespace FoodDelivery

open Interleave OrdersService

/-- The calls that clients issue on the order. -/
inductive ClientRequest
  | updateStatusByOwner (requester : AccessTokenPayload) (targetStatus : OrderStatus)
  | updateStatusByRider (riderUserId : UserId) (targetStatus : OrderStatus)
  | assignToRider (riderUserId : UserId)
  | assignRiderByOwner (requester : AccessTokenPayload) (riderUserId : UserId)
  | markPaidFromWebhook
  | refund
  deriving DecidableEq, Repr

/-- Where a client's call stands. -/
inductive ClientPc
  | ownerRead (requester : AccessTokenPayload) (targetStatus : OrderStatus)
  | ownerSave (requester : AccessTokenPayload) (targetStatus : OrderStatus)
  | riderRead (riderUserId : UserId) (targetStatus : OrderStatus)
  | riderSave (riderUserId : UserId) (targetStatus : OrderStatus)
  | assign (riderUserId : UserId)
  | choiceRead (requester : AccessTokenPayload) (riderUserId : UserId)
  | choiceWrite (requester : AccessTokenPayload) (riderUserId : UserId) (choice : RiderChoice)
  | markPaid
  | claim
  | refunding (previousStatus : OrderStatus)
  | revert (previousStatus : OrderStatus)
  | finalizeRead
  | finalizeSave
  | returned
  | rejected (error : HttpError)
  deriving DecidableEq, Repr

/-- What a step finds beside the order: the sellers and riders, the time, and whether
the provider refunds. -/
structure ClientReply where
  dir : Directory
  now : Time
  refunded : Bool

def ClientRequest.start : ClientRequest → ClientPc
  | .updateStatusByOwner requester targetStatus => .ownerRead requester targetStatus
  | .updateStatusByRider riderUserId targetStatus => .riderRead riderUserId targetStatus
  | .assignToRider riderUserId => .assign riderUserId
  | .assignRiderByOwner requester riderUserId => .choiceRead requester riderUserId
  | .markPaidFromWebhook => .markPaid
  | .refund => .claim

/-- A call that may be turned down. -/
def settleCall {α : Type} (o : Order) (result : Except HttpError α) (next : α → Order × ClientPc) :
    Order × ClientPc :=
  match result with
  | .ok a => next a
  | .error e => (o, .rejected e)

/-- One read or write of the order. -/
def clientStep (o : Order) : ClientPc → ClientReply → Option (Order × ClientPc)
  | .ownerRead requester targetStatus, r =>
    some (settleCall o (checkOwnerTransition r.dir requester targetStatus o)
      fun _ => (o, .ownerSave requester targetStatus))
  | .ownerSave requester targetStatus, r =>
    some (o.saveOwnerTransition targetStatus requester.sub r.now, .returned)
  | .riderRead riderUserId targetStatus, _ =>
    some (settleCall o (checkRiderTransition riderUserId targetStatus o)
      fun _ => (o, .riderSave riderUserId targetStatus))
  | .riderSave riderUserId targetStatus, r =>
    some (o.saveRiderTransition targetStatus riderUserId r.now, .returned)
  | .assign riderUserId, r =>
    some (settleCall o (OrdersService.assignToRider r.now riderUserId o) fun o' => (o', .returned))
  | .choiceRead requester riderUserId, r =>
    some (settleCall o (chooseRider r.dir requester riderUserId o)
      fun choice => (o, .choiceWrite requester riderUserId choice))
  | .choiceWrite requester riderUserId choice, r =>
    some (settleCall o (applyRiderChoice r.now requester riderUserId o choice)
      fun o' => (o', .returned))
  | .markPaid, r => some (OrdersService.markPaidFromWebhook r.now o, .returned)
  | .claim, _ =>
    match o.claimForRefund with
    | some o' => some (o', .refunding o.status)
    | none => some (o, .returned)
  | .refunding previousStatus, r =>
    some (o, if r.refunded then .finalizeRead else .revert previousStatus)
  | .revert previousStatus, _ =>
    some ((o.revertFailedRefundClaim previousStatus).getD o, .returned)
  | .finalizeRead, _ => some (o, .finalizeSave)
  | .finalizeSave, r => some (o.saveFinalizedRefund r.now, .returned)
  | .returned, _ => none
  | .rejected _, _ => none

/-- Any number of clients of one order. -/
def clients : Machine Order ClientPc ClientRequest ClientReply Empty where
  start _ := ClientRequest.start
  step := clientStep
  env _ := Empty.elim

abbrev OrderClients := Pool Order ClientPc

abbrev ClientEvent := Event ClientRequest ClientReply Empty

namespace ClientPc

/-- Whether a call holds the claim for a refund. -/
def claims : ClientPc → Bool
  | .refunding _ => true
  | .revert _ => true
  | .finalizeRead => true
  | .finalizeSave => true
  | _ => false

/-- The status a failed refund goes back to. -/
def previousStatus : ClientPc → Option OrderStatus
  | .refunding previousStatus => some previousStatus
  | .revert previousStatus => some previousStatus
  | _ => none

/-- The status that is saved next without looking at the stored one. -/
def saving : ClientPc → Option OrderStatus
  | .ownerSave _ targetStatus => some targetStatus
  | .riderSave _ targetStatus => some targetStatus
  | _ => none

end ClientPc

/-- The steps: a call reads on, is over or gives up without a write; it saves a
transition, or makes a guarded one; it claims the order for a refund, reverts the claim
or finalizes it. -/
inductive ClientMove (o : Order) : ClientPc → Order → ClientPc → Prop
  | idle {pc pc' : ClientPc} (h : pc.saving = none) (h' : pc'.claims = pc.claims)
    (hprev : ∀ t, pc'.previousStatus = some t → pc.previousStatus = some t)
    (hsave : ∀ t, pc'.saving = some t → t ≠ .assignedToRider ∧ t ≠ .refunded) :
    ClientMove o pc o pc'
  | saved {pc pc' : ClientPc} {o' : Order} {t : OrderStatus} (h : pc.saving = some t)
    (hc : pc'.claims = false) (hs : pc'.saving = none) (ho : o.Enters o' t) : ClientMove o pc o' pc'
  | guarded {pc pc' : ClientPc} {o' : Order} {t : OrderStatus} (h : pc.saving = none)
    (hpc : pc.claims = false) (hc : pc'.claims = false) (hs : pc'.saving = none)
    (hedge : canTransition o.status t = true ∨ (o.status = .assignedToRider ∧ t = .assignedToRider))
    (ho : o.Enters o' t) : ClientMove o pc o' pc'
  | claimed {o' : Order} (hc : o.claimForRefund = some o') :
    ClientMove o .claim o' (.refunding o.status)
  | reverted (t : OrderStatus) :
    ClientMove o (.revert t) ((o.revertFailedRefundClaim t).getD o) .returned
  | finalized (now : Time) : ClientMove o .finalizeSave (o.saveFinalizedRefund now) .returned

section Moves

variable {o o' : Order} {pc pc' : ClientPc} {r : ClientReply}

/-- The targets of checked transitions. -/
theorem target_of_checkOwnerTransition {dir : Directory} {requester : AccessTokenPayload}
    {t : OrderStatus} (h : checkOwnerTransition dir requester t o = .ok ()) :
    t ≠ .assignedToRider ∧ t ≠ .refunded := by
  rcases canOwnerTransition_tgt _ _ (canOwnerTransition_of_check h) with rfl | rfl | rfl | rfl <;>
    exact ⟨by decide, by decide⟩

theorem target_of_checkRiderTransition {riderUserId : UserId} {t : OrderStatus}
    (h : checkRiderTransition riderUserId t o = .ok ()) :
    t ≠ .assignedToRider ∧ t ≠ .refunded := by
  rcases canRiderTransition_tgt _ _ (checkRiderTransition_eq_ok.mp h).2 with rfl | rfl | rfl <;>
    exact ⟨by decide, by decide⟩

/-- A call that has written nothing and is over. -/
theorem ClientMove.unclaimed {pc pc' : ClientPc} (h : pc.saving = none) (hc : pc.claims = false)
    (hc' : pc'.claims = false) (hp : pc'.previousStatus = none) (hs : pc'.saving = none) :
    ClientMove o pc o pc' :=
  .idle h (hc'.trans hc.symm) (fun _ ht => by cases hp.symm.trans ht)
    fun _ ht => by cases hs.symm.trans ht

/-- **Every step is one of the moves.** -/
theorem client_move (h : clientStep o pc r = some (o', pc')) : ClientMove o pc o' pc' := by
  cases pc with
  | ownerRead requester t =>
    simp only [clientStep, settleCall, Option.some.injEq] at h
    split at h
    · rename_i hc
      cases h
      refine .idle rfl rfl (by rintro _ ⟨⟩) fun t' ht => ?_
      cases ht
      exact target_of_checkOwnerTransition hc
    · cases h
      exact .unclaimed rfl rfl rfl rfl rfl
  | ownerSave requester t =>
    cases h
    exact .saved rfl rfl rfl (enters_saveOwnerTransition o t _ _)
  | riderRead riderUserId t =>
    simp only [clientStep, settleCall, Option.some.injEq] at h
    split at h
    · rename_i hc
      cases h
      refine .idle rfl rfl (by rintro _ ⟨⟩) fun t' ht => ?_
      cases ht
      exact target_of_checkRiderTransition hc
    · cases h
      exact .unclaimed rfl rfl rfl rfl rfl
  | riderSave riderUserId t =>
    cases h
    exact .saved rfl rfl rfl (enters_saveRiderTransition o t _ _)
  | assign riderUserId =>
    simp only [clientStep, settleCall, Option.some.injEq] at h
    split at h
    · rename_i o₁ ha
      cases h
      obtain ⟨hedge, he⟩ := enters_assignToRider (assignToRider_eq_ok.mp ha)
      exact .guarded rfl rfl rfl rfl (Or.inl hedge) he
    · cases h
      exact .unclaimed rfl rfl rfl rfl rfl
  | choiceRead requester riderUserId =>
    simp only [clientStep, settleCall, Option.some.injEq] at h
    split at h <;> cases h <;> exact .unclaimed rfl rfl rfl rfl rfl
  | choiceWrite requester riderUserId choice =>
    simp only [clientStep, settleCall, Option.some.injEq] at h
    split at h
    · rename_i o₁ ha
      cases h
      cases choice with
      | assign =>
        obtain ⟨hedge, he⟩ := enters_assignToRider (assignToRider_eq_ok.mp ha)
        exact .guarded rfl rfl rfl rfl (Or.inl hedge) he
      | reassign =>
        simp only [applyRiderChoice] at ha
        split at ha
        · rename_i o₂ hu
          cases ha
          obtain ⟨hs, he⟩ := enters_reassignRider hu
          exact .guarded rfl rfl rfl rfl (Or.inr ⟨hs, rfl⟩) he
        · cases ha
    · cases h
      exact .unclaimed rfl rfl rfl rfl rfl
  | markPaid =>
    rw [clientStep, Option.some.injEq, OrdersService.markPaidFromWebhook] at h
    cases hm : o.markPaidFromWebhook r.now with
    | none =>
      rw [hm] at h
      cases h
      exact .unclaimed rfl rfl rfl rfl rfl
    | some o₁ =>
      rw [hm] at h
      cases h
      obtain ⟨hedge, he⟩ := enters_markPaidFromWebhook hm
      exact .guarded rfl rfl rfl rfl (Or.inl hedge) he
  | claim =>
    simp only [clientStep] at h
    split at h
    · rename_i o₁ hc
      cases h
      exact .claimed hc
    · cases h
      exact .unclaimed rfl rfl rfl rfl rfl
  | refunding t =>
    rw [clientStep, Option.some.injEq] at h
    obtain ⟨rfl, rfl⟩ := Prod.mk.inj h
    cases r.refunded with
    | true => exact .idle rfl rfl (by rintro _ ⟨⟩) (by rintro _ ⟨⟩)
    | false => exact .idle rfl rfl (fun _ ht => ht) (by rintro _ ⟨⟩)
  | revert t =>
    cases h
    exact .reverted t
  | finalizeRead =>
    cases h
    exact .idle rfl rfl (by decide) (by decide)
  | finalizeSave =>
    cases h
    exact .finalized r.now
  | returned => cases h
  | rejected e => cases h

end Moves

end FoodDelivery
