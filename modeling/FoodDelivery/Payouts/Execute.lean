import FoodDelivery.Payouts.Earnings

/-!
# Executing one payout

`executePayout` of `payouts/payout-execution.service.ts` as a small-step
machine: an `ExecPc` is where the call stands with its local variables, and
`execStep` takes it through one awaited call.  An `updateMany` visits the order
documents one at a time, each visit an atomic step of its own, and may throw at
any of them.  `payout` is always the document in memory, as the next `save()`
will write it.

`notifyOne` and `notifyAdmins` catch what they throw and write nothing that is
modelled, so they are no step here.
-/

namespace FoodDelivery

open Store

/-- The arguments of `executePayout`. -/
structure Attempt where
  vendorType : PayoutVendorType
  vendorId : VendorId
  group : UnpaidEarningsGroup
  account : PayoutAccount
  claimField : ClaimField
  deriving DecidableEq

structure PayoutBatchSummary where
  succeeded : Nat
  failed : Nat
  reconciliationNeeded : Nat
  skipped : Nat
  deriving DecidableEq, Repr

/-- Where a run of `executePayout` stands. -/
inductive ExecPc
  | create
  | claim (id : PayoutId) (payout : Payout) (rest : List OrderId) (modifiedCount : Nat)
  | raceRelease (id : PayoutId) (payout : Payout) (rest : List OrderId)
  | raceSave (id : PayoutId) (payout : Payout)
  | zeroSave (id : PayoutId) (payout : Payout)
  | processingSave (id : PayoutId) (payout : Payout)
  | transfer (id : PayoutId) (payout : Payout)
  | successSave (id : PayoutId) (payout : Payout)
  | consumeFind (guarded : Bool) (id : PayoutId) (payout : Payout) (entry : Consumption)
      (rest : List Consumption)
  | consumeSave (guarded : Bool) (id : PayoutId) (payout : Payout) (entry : Consumption)
      (clawback : PayoutClawback) (rest : List Consumption)
  | flagSave (id : PayoutId) (payout : Payout)
  | failSave (id : PayoutId) (payout : Payout)
  | release (id : PayoutId) (payout : Payout) (rest : List OrderId)
  | returned
  | threw
  deriving DecidableEq

/-- Go on after a database call that came back, or handle what it threw. -/
def DbReply.settle {α : Type} (r : DbReply) (before after : World) (next : α)
    (caught : String → α) : World × α :=
  match r with
  | .ok => (after, next)
  | .threw written message => (if written then after else before, caught message)

@[simp] theorem DbReply.settle_ok {α : Type} (before after : World) (next : α)
    (caught : String → α) : DbReply.ok.settle before after next caught = (after, next) := rfl

/-- A database call that writes nothing leaves the world alone however it comes
back. -/
theorem DbReply.settle_read {α : Type} {db : DbReply} {w w' : World} {next p : α}
    {caught : String → α} (h : db.settle w w next caught = (w', p)) :
    w' = w ∧ (p = next ∨ ∃ message, p = caught message) := by
  cases db with
  | ok =>
    cases h
    exact ⟨rfl, Or.inl rfl⟩
  | threw written message =>
    cases written <;> cases h <;> exact ⟨rfl, Or.inr ⟨message, rfl⟩⟩

namespace Attempt

/-- What `executePayout` inserts. -/
def newPayout (a : Attempt) : Payout where
  vendorType := a.vendorType
  vendorId := a.vendorId
  orderIds := a.group.orderIds
  grossAmount := a.group.grossAmount
  clawbackDeducted := a.group.clawbackDeducted.getD 0
  clawbackConsumption := a.group.clawbackConsumption.getD []
  currency := a.group.currency
  provider := a.group.provider
  payoutAccountReference := a.account.reference.getD ""
  status := .pending
  providerTransferReference := none
  failureReason := none
  reconciliationRequired := false
  reconciledAt := none
  reconciledBy := none

/-- The group nets to zero because clawbacks absorbed it. -/
def isZeroTransfer (a : Attempt) : Bool :=
  a.group.grossAmount = 0 && 0 < a.group.rawGrossAmount.getD 0

/-- The plain error with which `callAdapterTransfer` refuses an account, before
any provider is called. -/
def accountError (a : Attempt) : Option String :=
  match a.group.provider with
  | .stripe =>
    if isBlank a.account.reference then
      some "Stripe payout account has no connected account id"
    else none
  | .paystack =>
    if isBlank a.account.bankCode || isBlank a.account.accountNumber then
      some "Paystack payout account is missing bank details — re-onboard to add them"
    else none
  | .flutterwave =>
    if isBlank a.account.bankCode || isBlank a.account.accountNumber then
      some "Flutterwave payout account is missing bank details — re-onboard to add them"
    else none

end Attempt

namespace Payout

def raced (p : Payout) (expected modifiedCount : Nat) : Payout :=
  { p with
    status := .failed
    failureReason := some
      s!"Order claim race: expected to claim {expected} orders, actually claimed {modifiedCount}" }

def settledByClawback (p : Payout) : Payout :=
  { p with status := .succeeded, providerTransferReference := none }

def processed (p : Payout) : Payout := { p with status := .processing }

def transferred (p : Payout) (transferReference : String) : Payout :=
  { p with status := .succeeded, providerTransferReference := some transferReference }

def failedWith (p : Payout) (failureReason : String) : Payout :=
  { p with status := .failed, failureReason := some failureReason }

def ambiguous (p : Payout) (failureReason : String) : Payout :=
  { p with status := .failed, failureReason := some failureReason, reconciliationRequired := true }

end Payout

namespace ExecPc

/-- The next clawback of `applyClawbackConsumption`, or the end of the call. -/
def consume (guarded : Bool) (id : PayoutId) (payout : Payout) : List Consumption → ExecPc
  | [] => .returned
  | entry :: rest => .consumeFind guarded id payout entry rest

/-- The `catch` around the transfer, or the caller's when the call was made
outside it. -/
def caught (guarded : Bool) (id : PayoutId) (payout : Payout) (message : String) : ExecPc :=
  if guarded then .failSave id (payout.failedWith message) else .threw

end ExecPc

/-- What follows the claiming `updateMany`. -/
def afterClaim (a : Attempt) (w : World) (id : PayoutId) (payout : Payout) (modifiedCount : Nat) :
    ExecPc :=
  if modifiedCount ≠ a.group.orderIds.length then
    .raceRelease id (payout.raced a.group.orderIds.length modifiedCount) w.orders.ids
  else if a.isZeroTransfer then .zeroSave id payout.settledByClawback
  else .processingSave id payout.processed

/-- The settled transfer: what the provider did, and how `executePayout` goes on. -/
def afterTransfer (w : World) (id : PayoutId) (payout : Payout) : TransferReply → World × ExecPc
  | .transferred transferReference =>
    (w.send id true, .successSave id (payout.transferred transferReference))
  | .unknown moved message => (w.send id moved, .flagSave id (payout.ambiguous message))
  | .failed moved message => (w.send id moved, .failSave id (payout.failedWith message))

/-- One awaited call of `executePayout`. -/
def execStep (a : Attempt) (w : World) : ExecPc → Reply → Option (World × ExecPc)
  | .create, .db r =>
    if a.newPayout.validates then
      some (r.settle w (w.createPayout a.newPayout)
        (.claim w.payouts.nextId a.newPayout a.group.orderIds 0) fun _ => .threw)
    else some (w, .threw)
  | .claim id payout (o :: rest) modifiedCount, .db r =>
    some (r.settle w (w.claimOrder a.claimField o id)
      (.claim id payout rest
        (if w.unclaimed a.claimField o then modifiedCount + 1 else modifiedCount)) fun _ => .threw)
  | .claim id payout [] modifiedCount, .db r =>
    some (r.settle w w (afterClaim a w id payout modifiedCount) fun _ => .threw)
  | .raceRelease id payout (o :: rest), .db r =>
    some (r.settle w (w.releaseOrder a.claimField o id) (.raceRelease id payout rest)
      fun _ => .threw)
  | .raceRelease id payout [], .db r =>
    some (r.settle w w (.raceSave id payout) fun _ => .threw)
  | .raceSave id payout, .db r =>
    some (r.settle w (w.modifyPayout id fun _ => payout) .returned fun _ => .threw)
  | .zeroSave id payout, .db r =>
    some (r.settle w (w.modifyPayout id fun _ => payout)
      (.consume false id payout (a.group.clawbackConsumption.getD [])) fun _ => .threw)
  | .processingSave id payout, .db r =>
    some (r.settle w (w.modifyPayout id fun _ => payout) (.transfer id payout) fun _ => .threw)
  | .transfer id payout, .transfer r =>
    match a.accountError with
    | some message => some (w, .failSave id (payout.failedWith message))
    | none => some (afterTransfer w id payout r)
  | .successSave id payout, .db r =>
    some (r.settle w (w.modifyPayout id fun _ => payout)
      (.consume true id payout (a.group.clawbackConsumption.getD []))
      (ExecPc.caught true id payout))
  | .consumeFind guarded id payout entry rest, .db r =>
    match w.clawbacks.get entry.clawbackId with
    | none => some (r.settle w w (.consume guarded id payout rest) (.caught guarded id payout))
    | some clawback =>
      some (r.settle w w (.consumeSave guarded id payout entry clawback rest)
        (.caught guarded id payout))
  | .consumeSave guarded id payout entry clawback rest, .db r =>
    some (r.settle w
      (w.saveRemaining entry.clawbackId (clawback.remainingAfter entry.amountConsumed))
      (.consume guarded id payout rest) (.caught guarded id payout))
  | .flagSave id payout, .db r =>
    some (r.settle w (w.modifyPayout id fun _ => payout) .returned
      fun _ => .threw)
  | .failSave id payout, .db r =>
    some (r.settle w (w.modifyPayout id fun _ => payout) (.release id payout w.orders.ids)
      fun _ => .threw)
  | .release id payout (o :: rest), .db r =>
    some (r.settle w (w.releaseOrder a.claimField o id) (.release id payout rest) fun _ => .threw)
  | .release _ _ [], .db r => some (r.settle w w .returned fun _ => .threw)
  | _, _ => none

/-- What `executePayout` adds to the summary when an awaited call comes back. -/
def tally (summary : PayoutBatchSummary) : ExecPc → Reply → PayoutBatchSummary
  | .raceSave _ _, .db .ok => { summary with failed := summary.failed + 1 }
  | .zeroSave _ _, .db .ok => { summary with succeeded := summary.succeeded + 1 }
  | .successSave _ _, .db .ok => { summary with succeeded := summary.succeeded + 1 }
  | .flagSave _ _, .db .ok =>
    { summary with reconciliationNeeded := summary.reconciliationNeeded + 1 }
  | .release _ _ [], .db .ok => { summary with failed := summary.failed + 1 }
  | _, _ => summary

/-- `attemptGroup` skips a group without orders, and one the vendor has no active
account for. -/
def findAccount (payoutAccounts : List PayoutAccount) (group : UnpaidEarningsGroup) :
    Option PayoutAccount :=
  payoutAccounts.find? fun a => a.provider = group.provider && a.status = .active

/-- The arguments `attemptGroup` hands to `executePayout`; `none` when it skips
the group. -/
def attemptFor (vendorType : PayoutVendorType) (vendorId : VendorId)
    (payoutAccounts : List PayoutAccount) (group : UnpaidEarningsGroup) (claimField : ClaimField) :
    Option Attempt :=
  if group.orderIds = [] then none
  else (findAccount payoutAccounts group).map fun account =>
    ⟨vendorType, vendorId, group, account, claimField⟩

/-! ## The moves of `executePayout` when no database call fails -/

/-- The moves: from where, on which answer, what is in the world afterwards, and
where to. -/
inductive ExecMove (a : Attempt) (w : World) : ExecPc → Reply → World → ExecPc → Prop
  | created (hv : a.newPayout.validates = true) :
    ExecMove a w .create (.db .ok) (w.createPayout a.newPayout)
      (.claim w.payouts.nextId a.newPayout a.group.orderIds 0)
  | invalid (hv : a.newPayout.validates = false) : ExecMove a w .create (.db .ok) w .threw
  | claimed (id : PayoutId) (p : Payout) (o : OrderId) (rest : List OrderId) (n : Nat) :
    ExecMove a w (.claim id p (o :: rest) n) (.db .ok) (w.claimOrder a.claimField o id)
      (.claim id p rest (if w.unclaimed a.claimField o then n + 1 else n))
  | raced (id : PayoutId) (p : Payout) (n : Nat) (hn : n ≠ a.group.orderIds.length) :
    ExecMove a w (.claim id p [] n) (.db .ok) w
      (.raceRelease id (p.raced a.group.orderIds.length n) w.orders.ids)
  | absorbed (id : PayoutId) (p : Payout) (hz : a.isZeroTransfer = true) :
    ExecMove a w (.claim id p [] a.group.orderIds.length) (.db .ok) w
      (.zeroSave id p.settledByClawback)
  | claimedAll (id : PayoutId) (p : Payout) (hz : a.isZeroTransfer = false) :
    ExecMove a w (.claim id p [] a.group.orderIds.length) (.db .ok) w
      (.processingSave id p.processed)
  | raceReleased (id : PayoutId) (p : Payout) (o : OrderId) (rest : List OrderId) :
    ExecMove a w (.raceRelease id p (o :: rest)) (.db .ok) (w.releaseOrder a.claimField o id)
      (.raceRelease id p rest)
  | raceReleasedAll (id : PayoutId) (p : Payout) :
    ExecMove a w (.raceRelease id p []) (.db .ok) w (.raceSave id p)
  | raceSaved (id : PayoutId) (p : Payout) :
    ExecMove a w (.raceSave id p) (.db .ok) (w.modifyPayout id fun _ => p) .returned
  | zeroSaved (id : PayoutId) (p : Payout) :
    ExecMove a w (.zeroSave id p) (.db .ok) (w.modifyPayout id fun _ => p)
      (.consume false id p (a.group.clawbackConsumption.getD []))
  | processingSaved (id : PayoutId) (p : Payout) :
    ExecMove a w (.processingSave id p) (.db .ok) (w.modifyPayout id fun _ => p) (.transfer id p)
  | refused (id : PayoutId) (p : Payout) (m : String) (r : TransferReply)
    (h : a.accountError = some m) :
    ExecMove a w (.transfer id p) (.transfer r) w (.failSave id (p.failedWith m))
  | transferred (id : PayoutId) (p : Payout) (ref : String) (h : a.accountError = none) :
    ExecMove a w (.transfer id p) (.transfer (.transferred ref)) (w.send id true)
      (.successSave id (p.transferred ref))
  | unknown (id : PayoutId) (p : Payout) (moved : Bool) (m : String) (h : a.accountError = none) :
    ExecMove a w (.transfer id p) (.transfer (.unknown moved m)) (w.send id moved)
      (.flagSave id (p.ambiguous m))
  | failed (id : PayoutId) (p : Payout) (moved : Bool) (m : String) (h : a.accountError = none) :
    ExecMove a w (.transfer id p) (.transfer (.failed moved m)) (w.send id moved)
      (.failSave id (p.failedWith m))
  | successSaved (id : PayoutId) (p : Payout) :
    ExecMove a w (.successSave id p) (.db .ok) (w.modifyPayout id fun _ => p)
      (.consume true id p (a.group.clawbackConsumption.getD []))
  | entryGone (guarded : Bool) (id : PayoutId) (p : Payout) (e : Consumption)
    (rest : List Consumption) (h : w.clawbacks.get e.clawbackId = none) :
    ExecMove a w (.consumeFind guarded id p e rest) (.db .ok) w (.consume guarded id p rest)
  | entryFound (guarded : Bool) (id : PayoutId) (p : Payout) (e : Consumption)
    (c : PayoutClawback) (rest : List Consumption) (h : w.clawbacks.get e.clawbackId = some c) :
    ExecMove a w (.consumeFind guarded id p e rest) (.db .ok) w (.consumeSave guarded id p e c rest)
  | entrySaved (guarded : Bool) (id : PayoutId) (p : Payout) (e : Consumption)
    (c : PayoutClawback) (rest : List Consumption) :
    ExecMove a w (.consumeSave guarded id p e c rest) (.db .ok)
      (w.saveRemaining e.clawbackId (c.remainingAfter e.amountConsumed))
      (.consume guarded id p rest)
  | flagSaved (id : PayoutId) (p : Payout) :
    ExecMove a w (.flagSave id p) (.db .ok) (w.modifyPayout id fun _ => p) .returned
  | failSaved (id : PayoutId) (p : Payout) :
    ExecMove a w (.failSave id p) (.db .ok) (w.modifyPayout id fun _ => p)
      (.release id p w.orders.ids)
  | released (id : PayoutId) (p : Payout) (o : OrderId) (rest : List OrderId) :
    ExecMove a w (.release id p (o :: rest)) (.db .ok) (w.releaseOrder a.claimField o id)
      (.release id p rest)
  | releasedAll (id : PayoutId) (p : Payout) :
    ExecMove a w (.release id p []) (.db .ok) w .returned

/-- **Every step without a database failure is one of the moves.** -/
theorem exec_move {a : Attempt} {w w' : World} {pc pc' : ExecPc} {r : Reply}
    (hr : r.faultless = true) (h : execStep a w pc r = some (w', pc')) :
    ExecMove a w pc r w' pc' := by
  cases r with
  | refund reply => cases pc <;> simp [execStep] at h
  | transfer reply =>
    cases pc with
    | transfer id p =>
      simp only [execStep] at h
      split at h
      · rename_i m hm
        cases h
        exact .refused id p m reply hm
      · rename_i hm
        cases reply <;> cases h
        · exact .transferred id p _ hm
        · exact .unknown id p _ _ hm
        · exact .failed id p _ _ hm
    | _ => simp [execStep] at h
  | db db =>
    obtain rfl : db = .ok := by simpa [Reply.faultless] using hr
    cases pc with
    | create =>
      simp only [execStep, DbReply.settle_ok] at h
      split at h
      · rename_i hv
        cases h
        exact .created hv
      · rename_i hv
        cases h
        exact .invalid (Bool.not_eq_true _ ▸ hv)
    | claim id p rest n =>
      cases rest with
      | cons o rest =>
        cases h
        exact .claimed id p o rest n
      | nil =>
        simp only [execStep, DbReply.settle_ok, afterClaim, Option.some.injEq,
          Prod.mk.injEq] at h
        obtain ⟨rfl, hpc⟩ := h
        split at hpc
        · rename_i hn
          exact hpc ▸ .raced id p n hn
        · rename_i hn
          obtain rfl := not_not.mp hn
          split at hpc
          · rename_i hz
            exact hpc ▸ .absorbed id p hz
          · rename_i hz
            exact hpc ▸ .claimedAll id p (Bool.not_eq_true _ ▸ hz)
    | raceRelease id p rest =>
      cases rest with
      | cons o rest =>
        cases h
        exact .raceReleased id p o rest
      | nil =>
        cases h
        exact .raceReleasedAll id p
    | raceSave id p =>
      cases h
      exact .raceSaved id p
    | zeroSave id p =>
      cases h
      exact .zeroSaved id p
    | processingSave id p =>
      cases h
      exact .processingSaved id p
    | successSave id p =>
      cases h
      exact .successSaved id p
    | consumeFind guarded id p e rest =>
      simp only [execStep, DbReply.settle_ok] at h
      split at h
      · rename_i hc
        cases h
        exact .entryGone guarded id p e rest hc
      · rename_i c hc
        cases h
        exact .entryFound guarded id p e c rest hc
    | consumeSave guarded id p e c rest =>
      cases h
      exact .entrySaved guarded id p e c rest
    | flagSave id p =>
      cases h
      exact .flagSaved id p
    | failSave id p =>
      cases h
      exact .failSaved id p
    | release id p rest =>
      cases rest with
      | cons o rest =>
        cases h
        exact .released id p o rest
      | nil =>
        cases h
        exact .releasedAll id p
    | transfer id p => cases h
    | returned => cases h
    | threw => cases h

end FoodDelivery
