import FoodDelivery.Lib.Interleave
import FoodDelivery.Orders.Lifecycle
import FoodDelivery.Payouts.Batch
import FoodDelivery.Payouts.Resolve
import FoodDelivery.Refunds.Machine

/-!
# The whole system

Any number of weekly batches, refund calls and payout resolutions running
against one database, each taking one awaited call at a time in any order, while
orders are placed and moved along, payout accounts change and time passes.

* `refund_samePayouts`, `env_samePayouts`: the refund flow and the environment
  leave alone what payouts rest on.
* `exec_sameRefunds`, `batch_sameRefunds`, `resolve_sameRefunds`: the payout side
  leaves alone what refunds rest on.
-/

namespace FoodDelivery

open Store Interleave

/-- A call in progress. -/
inductive Proc
  | batch (pc : BatchPc)
  | refund (pc : RefundPc)
  | resolve (pc : ResolvePc)
  deriving DecidableEq

/-- A call as it is issued. -/
inductive Request
  | runWeeklyBatch
  | refund (request : RefundRequest)
  | resolveReconciliation (payoutId : PayoutId) (adminUserId : UserId)
      (transferActuallySucceeded : Bool)
  deriving DecidableEq

/-- What happens beside the calls: an order is placed, a call moves an order
along, restaurants, stores and riders change, or time passes. -/
inductive EnvEvent
  | place (seller : Seller) (customer : UserId) (currency : String) (provider : PaymentProvider)
      (deliveryFee total restaurantPayoutAmount : Price)
  | order (id : OrderId) (call : OrderCall)
  | vendors (vendors : List PayoutVendor)
  | tick
  deriving DecidableEq

def startCall (w : World) : Request → Proc
  | .runWeeklyBatch => .batch .start
  | .refund request => .refund (.start w request)
  | .resolveReconciliation id admin answer => .resolve (.find id admin answer)

def stepCall (w : World) : Proc → Reply → Option (World × Proc)
  | .batch pc, r => (batchStep w pc r).map fun o => (o.1, .batch o.2)
  | .refund pc, r => (refundStep w pc r).map fun o => (o.1, .refund o.2)
  | .resolve pc, r => (resolveStep w pc r).map fun o => (o.1, .resolve o.2)

def envStep (dir : Directory) (w : World) : EnvEvent → Option World
  | .place seller customer currency provider fee total amount =>
    some (w.createOrder (.created seller customer w.now currency provider fee total amount))
  | .order id call =>
    match w.orders.get id with
    | none => none
    | some o =>
      match call.run dir w.now o with
      | .ok o' => some (w.modifyOrder id fun _ => o')
      | .error _ => some w
  | .vendors vendors => some { w with vendors := vendors }
  | .tick => some { w with now := w.now + 1 }

/-- The calls of the platform over its database. -/
def system (dir : Directory) : Machine World Proc Request Reply EnvEvent where
  start := startCall
  step := stepCall
  env := envStep dir

abbrev Sys := Pool World Proc

abbrev SysEvent := Event Request Reply EnvEvent

/-- Nothing placed, no call in progress. -/
def Sys.initial (vendors : List PayoutVendor) : Sys := ⟨.empty vendors, []⟩

/-- No database call fails. -/
def Faultless : SysEvent → Bool
  | .run _ r => r.faultless
  | _ => true

namespace Proc

def ended : Proc → Bool
  | .batch (.returned _) => true
  | .batch .threw => true
  | .refund .returned => true
  | .refund (.rejected _) => true
  | .refund .threw => true
  | .resolve .returned => true
  | .resolve (.rejected _) => true
  | .resolve .threw => true
  | _ => false

/-- The payout a call is executing. -/
def executing : Proc → Option (Attempt × ExecPc)
  | .batch pc => pc.executing
  | _ => none

/-- The groups a call has yet to attempt. -/
def pendingGroups : Proc → List UnpaidEarningsGroup
  | .batch pc => pc.pendingGroups
  | _ => []

/-- The refund call in progress. -/
def refunding : Proc → Option RefundPc
  | .refund pc => some pc
  | _ => none

/-- The resolution under way. -/
def resolving : Proc → Option Resolution
  | .resolve pc => pc.resolution
  | _ => none

end Proc

/-- No call is in progress. -/
def Sys.Quiescent (s : Sys) : Prop := ∀ p ∈ s.procs, p.ended = true

/-! ## The moves of a call -/

section Calls

variable {w w' : World} {p' : Proc} {r : Reply}

/-- A step of a call is a step of the batch, the refund or the resolution it is. -/
theorem step_batch {pc : BatchPc} (h : stepCall w (.batch pc) r = some (w', p')) :
    ∃ pc', batchStep w pc r = some (w', pc') ∧ p' = .batch pc' := by
  obtain ⟨⟨_, pc'⟩, hs, heq⟩ := Option.map_eq_some_iff.mp h
  cases heq
  exact ⟨pc', hs, rfl⟩

theorem step_refund {pc : RefundPc} (h : stepCall w (.refund pc) r = some (w', p')) :
    ∃ pc', refundStep w pc r = some (w', pc') ∧ p' = .refund pc' := by
  obtain ⟨⟨_, pc'⟩, hs, heq⟩ := Option.map_eq_some_iff.mp h
  cases heq
  exact ⟨pc', hs, rfl⟩

theorem step_resolve {pc : ResolvePc} (h : stepCall w (.resolve pc) r = some (w', p')) :
    ∃ pc', resolveStep w pc r = some (w', pc') ∧ p' = .resolve pc' := by
  obtain ⟨⟨_, pc'⟩, hs, heq⟩ := Option.map_eq_some_iff.mp h
  cases heq
  exact ⟨pc', hs, rfl⟩

end Calls

/-- The moves of any call when no database call fails. -/
inductive CallMove (w : World) (r : Reply) : Proc → World → Proc → Prop
  | exec {pc pc' : BatchPc} {a : Attempt} {e e' : ExecPc} {w' : World}
    (hpc : pc.executing = some (a, e)) (he : ExecMove a w e r w' e')
    (hpc' : (e'.ended = false ∧ pc'.executing = some (a, e') ∧
        pc'.pendingGroups = pc.pendingGroups) ∨ (e'.ended = true ∧ pc'.Fresh pc.pendingGroups)) :
    CallMove w r (.batch pc) w' (.batch pc')
  | quiet {pc pc' : BatchPc} {groups : List UnpaidEarningsGroup} (hpc : pc.executing = none)
    (hread : GroupsRead w pc.pendingGroups groups) (hpc' : pc'.Fresh groups) :
    CallMove w r (.batch pc) w (.batch pc')
  | refund {pc pc' : RefundPc} {w' : World} (h : RefundMove w pc r w' pc') :
    CallMove w r (.refund pc) w' (.refund pc')
  | resolve {pc pc' : ResolvePc} {w' : World} (h : ResolveMove w pc w' pc') :
    CallMove w r (.resolve pc) w' (.resolve pc')

theorem call_move {w w' : World} {p p' : Proc} {r : Reply} (hr : r.faultless = true)
    (h : stepCall w p r = some (w', p')) : CallMove w r p w' p' := by
  cases p with
  | batch pc =>
    obtain ⟨pc', hs, rfl⟩ := step_batch h
    rcases batch_cases hs with ⟨a, e, e', hpc, he, hpc'⟩ | ⟨hpc, rfl, groups, hread, hpc'⟩
    · exact .exec hpc (exec_move hr he) hpc'
    · exact .quiet hpc hread hpc'
  | refund pc =>
    obtain ⟨pc', hs, rfl⟩ := step_refund h
    exact .refund (refund_move hs)
  | resolve pc =>
    obtain ⟨pc', hs, rfl⟩ := step_resolve h
    exact .resolve (resolve_move hr hs)

/-! ## What each side leaves alone -/

section Frames

variable {w w' : World} {r : Reply}

theorem DbReply.settle_sameRefunds {α : Type} {db : DbReply} {after : World} {next p : α}
    {caught : String → α} (ha : w.SameRefunds after)
    (h : some (db.settle w after next caught) = some (w', p)) : w.SameRefunds w' := by
  cases db with
  | ok =>
    cases h
    exact ha
  | threw written message =>
    cases written <;> cases h
    · exact .refl w
    · exact ha

open World in
theorem exec_sameRefunds {a : Attempt} {pc pc' : ExecPc}
    (h : execStep a w pc r = some (w', pc')) : w.SameRefunds w' := by
  cases r with
  | refund reply => cases pc <;> simp [execStep] at h
  | transfer reply =>
    cases pc with
    | transfer id p =>
      simp only [execStep] at h
      split at h
      · cases h
        exact .refl _
      · cases reply <;> cases h <;> exact sameRefunds_send
    | _ => simp [execStep] at h
  | db db =>
    cases pc with
    | create =>
      simp only [execStep] at h
      split at h
      · exact DbReply.settle_sameRefunds sameRefunds_createPayout h
      · cases h
        exact .refl _
    | claim id p rest n =>
      cases rest with
      | nil => exact DbReply.settle_sameRefunds (.refl w) h
      | cons o rest => exact DbReply.settle_sameRefunds sameRefunds_claimOrder h
    | raceRelease id p rest =>
      cases rest with
      | nil => exact DbReply.settle_sameRefunds (.refl w) h
      | cons o rest => exact DbReply.settle_sameRefunds sameRefunds_releaseOrder h
    | raceSave id p => exact DbReply.settle_sameRefunds sameRefunds_modifyPayout h
    | zeroSave id p => exact DbReply.settle_sameRefunds sameRefunds_modifyPayout h
    | processingSave id p => exact DbReply.settle_sameRefunds sameRefunds_modifyPayout h
    | successSave id p => exact DbReply.settle_sameRefunds sameRefunds_modifyPayout h
    | consumeFind guarded id p e rest =>
      simp only [execStep] at h
      split at h <;> exact DbReply.settle_sameRefunds (.refl w) h
    | consumeSave guarded id p e c rest =>
      exact DbReply.settle_sameRefunds sameRefunds_saveRemaining h
    | flagSave id p => exact DbReply.settle_sameRefunds sameRefunds_modifyPayout h
    | failSave id p => exact DbReply.settle_sameRefunds sameRefunds_modifyPayout h
    | release id p rest =>
      cases rest with
      | nil => exact DbReply.settle_sameRefunds (.refl w) h
      | cons o rest => exact DbReply.settle_sameRefunds sameRefunds_releaseOrder h
    | transfer id p => simp [execStep] at h
    | returned => simp [execStep] at h
    | threw => simp [execStep] at h

theorem batch_sameRefunds {pc pc' : BatchPc} (h : batchStep w pc r = some (w', pc')) :
    w.SameRefunds w' := by
  rcases batch_cases h with ⟨a, e, e', _, he, _⟩ | ⟨_, rfl, _⟩
  · exact exec_sameRefunds he
  · exact .refl _

open World in
theorem resolve_sameRefunds {pc pc' : ResolvePc} (h : resolveStep w pc r = some (w', pc')) :
    w.SameRefunds w' := by
  cases r with
  | refund reply => cases pc <;> simp [resolveStep] at h
  | transfer reply => cases pc <;> simp [resolveStep] at h
  | db db =>
    cases pc with
    | find id admin answer =>
      simp only [resolveStep] at h
      split at h <;> exact DbReply.settle_sameRefunds (.refl w) h
    | consumeFind c e rest =>
      simp only [resolveStep] at h
      split at h <;> exact DbReply.settle_sameRefunds (.refl w) h
    | consumeSave c e b rest => exact DbReply.settle_sameRefunds sameRefunds_saveRemaining h
    | release c rest =>
      cases rest with
      | nil => exact DbReply.settle_sameRefunds (.refl w) h
      | cons o rest => exact DbReply.settle_sameRefunds sameRefunds_releaseOrder h
    | save c => exact DbReply.settle_sameRefunds sameRefunds_modifyPayout h
    | returned => simp [resolveStep] at h
    | rejected e => simp [resolveStep] at h
    | threw => simp [resolveStep] at h

open World in
theorem refund_samePayouts {pc pc' : RefundPc} (h : RefundMove w pc r w' pc') :
    w.SamePayouts w' := by
  have update : ∀ {id : OrderId} {f : Order → Option Order},
      (∀ d d', f d = some d' → ∀ c, d'.claim c = d.claim c) →
      w.SamePayouts (w.updateOrder id f) := by
    intro id f hf
    refine samePayouts_modifyOrder fun d _ c => ?_
    cases hd : f d with
    | none => rfl
    | some d' => exact hf d d' hd c
  have claim : ∀ {id : OrderId}, w.SamePayouts (w.updateOrder id Order.claimForRefund) :=
    update fun d d' hd c => by
      obtain ⟨_, rfl⟩ := Order.claimForRefund_eq_some.mp hd
      cases c <;> rfl
  cases h with
  | idle => exact .refl w
  | lost => exact .refl w
  | claimed => exact claim
  | called => exact ⟨rfl, rfl, fun _ _ => rfl⟩
  | flagged =>
    refine .log (update fun d d' hd c => by
      obtain ⟨_, rfl⟩ := Order.flagAmbiguousRefund_eq_some.mp hd
      cases c <;> rfl)
  | unflagged => exact .refl w
  | reverted =>
    refine update fun d d' hd c => ?_
    obtain ⟨_, rfl⟩ := Order.revertFailedRefundClaim_eq_some.mp hd
    cases c <;> rfl
  | disputed => exact samePayouts_modifyOrder fun d _ c => by cases c <;> rfl
  | webhookClaimed => exact claim
  | cleared =>
    exact (samePayouts_modifyOrder fun d _ c => by cases c <;> rfl).log
  | reconciled =>
    refine update fun d d' hd c => ?_
    obtain ⟨_, rfl⟩ := Order.claimReconciledRefund_eq_some.mp hd
    cases c <;> rfl
  | gone => exact .refl w
  | readBack => exact .refl w
  | finalized => exact samePayouts_modifyOrder fun d _ c => by cases c <;> rfl
  | recorded => exact ⟨rfl, rfl, fun _ _ => rfl⟩

/-- **What the environment does**: it places a new order, makes progress on one,
or leaves the collections alone. -/
theorem env_cases {dir : Directory} {e : EnvEvent} (h : envStep dir w e = some w') :
    (∃ d : Order, (∀ f, d.claim f = none) ∧ d.status = .pendingPayment ∧
      d.paymentStatus = .pending ∧ d.refundReconciliationRequired = false ∧
      w' = w.createOrder d) ∨
    (∃ id d d', w.orders.get id = some d ∧ Progress d d' ∧
      w' = w.modifyOrder id fun _ => d') ∨
    (w'.orders = w.orders ∧ w'.payouts = w.payouts ∧ w'.clawbacks = w.clawbacks ∧
      w'.sent = w.sent ∧ w'.refundLog = w.refundLog) := by
  cases e with
  | place seller customer currency provider fee total amount =>
    cases h
    exact Or.inl ⟨_, fun f => by cases f <;> rfl, rfl, rfl, rfl, rfl⟩
  | order id call =>
    simp only [envStep] at h
    split at h
    · cases h
    · rename_i d hd
      split at h
      · rename_i d' hrun
        cases h
        exact Or.inr (Or.inl ⟨id, d, d', hd, (OrderCall.write_of_run hrun).progress, rfl⟩)
      · cases h
        exact Or.inr (Or.inr ⟨rfl, rfl, rfl, rfl, rfl⟩)
  | vendors vs =>
    cases h
    exact Or.inr (Or.inr ⟨rfl, rfl, rfl, rfl, rfl⟩)
  | tick =>
    cases h
    exact Or.inr (Or.inr ⟨rfl, rfl, rfl, rfl, rfl⟩)

theorem Progress.claim {d d' : Order} (h : Progress d d') (f : ClaimField) :
    d'.claim f = d.claim f := by
  cases f
  · exact h.vendorClaim
  · exact h.riderClaim

open World in
theorem env_samePayouts {dir : Directory} {e : EnvEvent} (h : envStep dir w e = some w') :
    w.SamePayouts w' := by
  rcases env_cases h with ⟨d, hc, _, _, _, rfl⟩ | ⟨id, d, d', hd, hp, rfl⟩ | ⟨ho, hp, _, hs, _⟩
  · exact samePayouts_createOrder hc
  · refine samePayouts_modifyOrder fun d₁ hd₁ f => ?_
    obtain rfl : d = d₁ := Option.some.inj (hd.symm.trans hd₁)
    exact hp.claim f
  · exact ⟨hp, hs, fun f o => by rw [claimOf, claimOf, ho]⟩

end Frames

/-! ## A platform to run -/

/-- One owner for all sellers; every rider is verified. -/
def soleOwner : Directory := ⟨fun _ => some 1, fun _ => some true⟩

/-- A restaurant with an active Stripe account. -/
def soleRestaurant : List PayoutVendor :=
  [⟨.restaurant, 1, 1, [⟨.stripe, .active, some "acct_1", none, none⟩]⟩]

/-- An order worth 10.00 to the restaurant is placed, paid, prepared and delivered. -/
def deliveredOrder (id : OrderId) : List SysEvent :=
  [.env (.place (.restaurant 1) 9 "USD" .stripe (.ofCents 200) (.ofCents 1500) (.ofCents 1000)),
    .env (.order id (.setPaymentRef .stripe "cs_1" false)),
    .env (.order id .markPaidFromWebhook),
    .env (.order id (.updateStatusByOwner ⟨1, .restaurantOwner⟩ .acceptedByRestaurant)),
    .env (.order id (.updateStatusByOwner ⟨1, .restaurantOwner⟩ .preparing)),
    .env (.order id (.updateStatusByOwner ⟨1, .restaurantOwner⟩ .readyForPickup)),
    .env (.order id (.assignToRider 7)),
    .env (.order id (.updateStatusByRider 7 .pickedUp)),
    .env (.order id (.updateStatusByRider 7 .outForDelivery)),
    .env (.order id (.updateStatusByRider 7 .delivered))]

/-- Call `i` makes `n` database calls. -/
def databaseCalls (i n : Nat) : List SysEvent := List.replicate n (.run i (.db .ok))

/-- A run on this platform that checks out and ends as wanted. -/
theorem exists_run (okb : Sys → SysEvent → Bool) (P : Sys → Bool) (es : List SysEvent)
    (h : ((system soleOwner).play okb (Sys.initial soleRestaurant) es).any P = true) :
    ∃ s, (system soleOwner).Reach (fun s e => okb s e = true) (Sys.initial soleRestaurant) s ∧
      P s = true :=
  Machine.exists_reach_of_play (fun _ _ h => h) es h

end FoodDelivery
