import FoodDelivery.Payouts.Execute

/-!
# Resolving a payout by hand

`resolveReconciliation` of `payouts/payout-execution.service.ts` as a small-step
machine, with `applyClawbackConsumption` for a confirmed transfer and the
releasing `updateMany`, one order at a time, for one that did not happen.
-/

namespace FoodDelivery

open Store

/-- A resolution that got past its checks: the document it read, what the admin
answered, and when. -/
structure Resolution where
  payoutId : PayoutId
  payout : Payout
  adminUserId : UserId
  transferActuallySucceeded : Bool
  reconciledAt : Time
  deriving DecidableEq

/-- Where a call of `resolveReconciliation` stands. -/
inductive ResolvePc
  | find (payoutId : PayoutId) (adminUserId : UserId) (transferActuallySucceeded : Bool)
  | consumeFind (c : Resolution) (entry : Consumption) (rest : List Consumption)
  | consumeSave (c : Resolution) (entry : Consumption) (clawback : PayoutClawback)
      (rest : List Consumption)
  | release (c : Resolution) (rest : List OrderId)
  | save (c : Resolution)
  | returned
  | rejected (error : HttpError)
  | threw
  deriving DecidableEq

namespace ResolvePc

/-- The next clawback of `applyClawbackConsumption`, or the final `save()`. -/
def consume (c : Resolution) : List Consumption → ResolvePc
  | [] => .save c
  | entry :: rest => .consumeFind c entry rest

/-- The checks of `resolveReconciliation` on the payout it read. -/
def afterFind (w : World) (payoutId : PayoutId) (adminUserId : UserId)
    (transferActuallySucceeded : Bool) (payout : Payout) : ResolvePc :=
  let c := ⟨payoutId, payout, adminUserId, transferActuallySucceeded, w.now⟩
  if ¬ payout.reconciliationRequired then
    .rejected (.badRequest "This payout is not flagged for reconciliation")
  else if transferActuallySucceeded then consume c payout.clawbackConsumption
  else .release c w.orders.ids

/-- The resolution under way. -/
def resolution : ResolvePc → Option Resolution
  | .consumeFind c _ _ => some c
  | .consumeSave c _ _ _ => some c
  | .release c _ => some c
  | .save c => some c
  | _ => none

end ResolvePc

open ResolvePc

/-- One awaited call of `resolveReconciliation`. -/
def resolveStep (w : World) : ResolvePc → Reply → Option (World × ResolvePc)
  | .find payoutId adminUserId answer, .db r =>
    match w.payouts.get payoutId with
    | none => some (r.settle w w (.rejected (.notFound "Payout not found")) fun _ => .threw)
    | some payout =>
      some (r.settle w w (afterFind w payoutId adminUserId answer payout) fun _ => .threw)
  | .consumeFind c entry rest, .db r =>
    match w.clawbacks.get entry.clawbackId with
    | none => some (r.settle w w (consume c rest) fun _ => .threw)
    | some clawback => some (r.settle w w (.consumeSave c entry clawback rest) fun _ => .threw)
  | .consumeSave c entry clawback rest, .db r =>
    some (r.settle w
      (w.saveRemaining entry.clawbackId (clawback.remainingAfter entry.amountConsumed))
      (consume c rest) fun _ => .threw)
  | .release c (o :: rest), .db r =>
    some (r.settle w (w.releaseOrder c.payout.claimField o c.payoutId) (.release c rest)
      fun _ => .threw)
  | .release c [], .db r => some (r.settle w w (.save c) fun _ => .threw)
  | .save c, .db r =>
    some (r.settle w
      (w.modifyPayout c.payoutId fun p =>
        p.saveResolved c.payout c.transferActuallySucceeded c.adminUserId c.reconciledAt)
      .returned fun _ => .threw)
  | _, _ => none

/-! ## The moves of a resolution when no database call fails -/

inductive ResolveMove (w : World) : ResolvePc → World → ResolvePc → Prop
  | rejected (id : PayoutId) (admin : UserId) (answer : Bool) (e : HttpError) :
    ResolveMove w (.find id admin answer) w (.rejected e)
  | accepted (id : PayoutId) (admin : UserId) (answer : Bool) (p : Payout)
    (hp : w.payouts.get id = some p) (hf : p.reconciliationRequired = true) :
    ResolveMove w (.find id admin answer) w
      (if answer then consume ⟨id, p, admin, answer, w.now⟩ p.clawbackConsumption
        else .release ⟨id, p, admin, answer, w.now⟩ w.orders.ids)
  | entryGone (c : Resolution) (e : Consumption) (rest : List Consumption)
    (h : w.clawbacks.get e.clawbackId = none) :
    ResolveMove w (.consumeFind c e rest) w (consume c rest)
  | entryFound (c : Resolution) (e : Consumption) (b : PayoutClawback) (rest : List Consumption)
    (h : w.clawbacks.get e.clawbackId = some b) :
    ResolveMove w (.consumeFind c e rest) w (.consumeSave c e b rest)
  | entrySaved (c : Resolution) (e : Consumption) (b : PayoutClawback) (rest : List Consumption) :
    ResolveMove w (.consumeSave c e b rest)
      (w.saveRemaining e.clawbackId (b.remainingAfter e.amountConsumed)) (consume c rest)
  | released (c : Resolution) (o : OrderId) (rest : List OrderId) :
    ResolveMove w (.release c (o :: rest)) (w.releaseOrder c.payout.claimField o c.payoutId)
      (.release c rest)
  | releasedAll (c : Resolution) : ResolveMove w (.release c []) w (.save c)
  | saved (c : Resolution) :
    ResolveMove w (.save c)
      (w.modifyPayout c.payoutId fun p =>
        p.saveResolved c.payout c.transferActuallySucceeded c.adminUserId c.reconciledAt)
      .returned

/-- **Every step without a database failure is one of the moves.** -/
theorem resolve_move {w w' : World} {pc pc' : ResolvePc} {r : Reply}
    (hr : r.faultless = true) (h : resolveStep w pc r = some (w', pc')) :
    ResolveMove w pc w' pc' := by
  cases r with
  | refund reply => cases pc <;> simp [resolveStep] at h
  | transfer reply => cases pc <;> simp [resolveStep] at h
  | db db =>
    obtain rfl : db = .ok := by simpa [Reply.faultless] using hr
    cases pc with
    | find id admin answer =>
      simp only [resolveStep, DbReply.settle_ok] at h
      split at h
      · cases h
        exact .rejected id admin answer _
      · rename_i p hp
        simp only [afterFind, Option.some.injEq, Prod.mk.injEq] at h
        obtain ⟨rfl, hpc⟩ := h
        split at hpc
        · exact hpc ▸ .rejected id admin answer _
        · rename_i hf
          exact hpc ▸ .accepted id admin answer p hp (not_not.mp hf)
    | consumeFind c e rest =>
      simp only [resolveStep, DbReply.settle_ok] at h
      split at h
      · rename_i hb
        cases h
        exact .entryGone c e rest hb
      · rename_i b hb
        cases h
        exact .entryFound c e b rest hb
    | consumeSave c e b rest =>
      cases h
      exact .entrySaved c e b rest
    | release c rest =>
      cases rest with
      | cons o rest =>
        cases h
        exact .released c o rest
      | nil =>
        cases h
        exact .releasedAll c
    | save c =>
      cases h
      exact .saved c
    | returned => cases h
    | rejected e => cases h
    | threw => cases h

end FoodDelivery
