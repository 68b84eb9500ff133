import FoodDelivery.Payouts.Execute

/-!
# The weekly batch

`runWeeklyBatch`, `processVendor`, `processRider` and `attemptGroup` of
`payouts/payout-execution.service.ts`: restaurants, then stores, then riders, one
vendor after the other and one group after the other, each awaited call a step.

* `batch_cases`: a step of a batch is a step of the payout it is executing, or
  changes nothing and at most begins the next payout.
-/

namespace FoodDelivery

open Store

namespace PayoutVendorType

/-- The vendors `runWeeklyBatch` turns to next. -/
def next : PayoutVendorType → Option PayoutVendorType
  | restaurant => some store
  | store => some rider
  | rider => none

/-- `vendorType` of an order's seller; `none` for riders. -/
def sellerType : PayoutVendorType → Option SellerType
  | restaurant => some .restaurant
  | store => some .store
  | rider => none

end PayoutVendorType

/-- What is left of the loops of `runWeeklyBatch`, and the summary so far. -/
structure BatchFrame where
  vendorType : PayoutVendorType
  queue : List PayoutVendor
  summary : PayoutBatchSummary
  deriving DecidableEq

/-- Where a batch stands. -/
inductive BatchPc
  | query (vendorType : PayoutVendorType) (summary : PayoutBatchSummary)
  | readOrders (vendor : PayoutVendor) (frame : BatchFrame)
  | readClawbacks (vendor : PayoutVendor) (sellerType : SellerType)
      (rawGroups : List UnpaidEarningsGroup) (frame : BatchFrame)
  | execute (attempt : Attempt) (pc : ExecPc) (vendor : PayoutVendor)
      (groups : List UnpaidEarningsGroup) (frame : BatchFrame)
  | returned (summary : PayoutBatchSummary)
  | threw
  deriving DecidableEq

namespace BatchFrame

def nextVendor (frame : BatchFrame) : BatchPc :=
  match frame.queue with
  | vendor :: queue => .readOrders vendor { frame with queue := queue }
  | [] =>
    match frame.vendorType.next with
    | some vendorType => .query vendorType frame.summary
    | none => .returned frame.summary

def skip (frame : BatchFrame) : BatchFrame :=
  { frame with summary := { frame.summary with skipped := frame.summary.skipped + 1 } }

def fail (frame : BatchFrame) : BatchFrame :=
  { frame with summary := { frame.summary with failed := frame.summary.failed + 1 } }

/-- `attemptGroup` on one group after the other, up to the first it executes. -/
def nextGroup (vendor : PayoutVendor) : List UnpaidEarningsGroup → BatchFrame → BatchPc
  | [], frame => frame.nextVendor
  | group :: groups, frame =>
    match attemptFor vendor.vendorType vendor.vendorId vendor.payoutAccounts group
        vendor.vendorType.claimField with
    | some attempt => .execute attempt .create vendor groups frame
    | none => nextGroup vendor groups (if group.orderIds = [] then frame else frame.skip)

/-- On with the batch when `executePayout` has returned or thrown. -/
def proceed (frame : BatchFrame) (attempt : Attempt) (vendor : PayoutVendor)
    (groups : List UnpaidEarningsGroup) : ExecPc → BatchPc
  | .returned => nextGroup vendor groups frame
  | .threw => nextGroup vendor groups frame.fail
  | pc => .execute attempt pc vendor groups frame

end BatchFrame

/-- The vendors of a kind with an active payout account. -/
def World.payoutVendors (w : World) (vendorType : PayoutVendorType) : List PayoutVendor :=
  w.vendors.filter fun v =>
    v.vendorType = vendorType && v.payoutAccounts.any fun a => a.status = .active

namespace BatchPc

open PayoutsService

/-- A batch as the cron or an admin starts it. -/
def start : BatchPc := .query .restaurant ⟨0, 0, 0, 0⟩

/-- `rawGroups` has been read: an empty one needs no clawbacks. -/
def afterOrders (vendor : PayoutVendor) (sellerType : SellerType)
    (rawGroups : List UnpaidEarningsGroup) (frame : BatchFrame) : BatchPc :=
  if rawGroups = [] then frame.nextVendor
  else .readClawbacks vendor sellerType rawGroups frame

end BatchPc

open PayoutsService BatchPc in
/-- One awaited call of a batch. -/
def batchStep (w : World) : BatchPc → Reply → Option (World × BatchPc)
  | .query vendorType summary, .db r =>
    some (r.settle w w
      (BatchFrame.nextVendor ⟨vendorType, w.payoutVendors vendorType, summary⟩) fun _ => .threw)
  | .readOrders vendor frame, .db r =>
    match vendor.vendorType.sellerType with
    | some sellerType =>
      some (r.settle w w
        (afterOrders vendor sellerType (unpaidVendorGroups w sellerType vendor.vendorId) frame)
        fun _ => frame.nextVendor)
    | none =>
      some (r.settle w w (frame.nextGroup vendor (getUnpaidRiderEarnings w vendor.userId))
        fun _ => frame.nextVendor)
  | .readClawbacks vendor sellerType rawGroups frame, .db r =>
    some (r.settle w w
      (frame.nextGroup vendor (applyClawbacks w sellerType vendor.vendorId rawGroups))
      fun _ => frame.nextVendor)
  | .execute attempt pc vendor groups frame, r =>
    (execStep attempt w pc r).map fun (w', pc') =>
      (w', { frame with summary := tally frame.summary pc r }.proceed attempt vendor groups pc')
  | _, _ => none

namespace BatchPc

/-- The payout a batch is executing. -/
def executing : BatchPc → Option (Attempt × ExecPc)
  | .execute attempt pc _ _ _ => some (attempt, pc)
  | _ => none

/-- The groups of its vendor a batch has yet to attempt. -/
def pendingGroups : BatchPc → List UnpaidEarningsGroup
  | .readClawbacks _ _ rawGroups _ => rawGroups
  | .execute _ _ _ groups _ => groups
  | _ => []

end BatchPc

namespace ExecPc

/-- `executePayout` has returned or thrown. -/
def ended : ExecPc → Bool
  | .returned => true
  | .threw => true
  | _ => false

end ExecPc

/-! ## What a step of a batch can be -/

/-- A batch about to execute its next payout, or between payouts. -/
def BatchPc.Fresh (pc : BatchPc) (groups : List UnpaidEarningsGroup) : Prop :=
  (∀ g ∈ pc.pendingGroups, g ∈ groups) ∧
    ∀ a e, pc.executing = some (a, e) →
      e = .create ∧ a.group ∈ groups ∧ a.claimField = a.vendorType.claimField

section Cases

variable {w w' : World} {pc pc' : BatchPc} {r : Reply}

theorem attemptFor_eq_some {vendorType : PayoutVendorType} {vendorId : VendorId}
    {accounts : List PayoutAccount} {g : UnpaidEarningsGroup} {f : ClaimField} {a : Attempt}
    (h : attemptFor vendorType vendorId accounts g f = some a) :
    a.group = g ∧ a.vendorType = vendorType ∧ a.claimField = f := by
  rw [attemptFor] at h
  split at h
  · cases h
  · rw [Option.map_eq_some_iff] at h
    obtain ⟨account, _, rfl⟩ := h
    exact ⟨rfl, rfl, rfl⟩

theorem BatchFrame.fresh_nextVendor (frame : BatchFrame) (groups : List UnpaidEarningsGroup) :
    frame.nextVendor.Fresh groups := by
  have hnone : frame.nextVendor.pendingGroups = [] ∧ frame.nextVendor.executing = none := by
    rw [nextVendor]
    split
    · exact ⟨rfl, rfl⟩
    · split <;> exact ⟨rfl, rfl⟩
  rw [BatchPc.Fresh, hnone.1, hnone.2]
  exact ⟨fun g hg => absurd hg List.not_mem_nil, fun a e h => by cases h⟩

theorem BatchPc.Fresh.mono {groups groups' : List UnpaidEarningsGroup} (h : pc.Fresh groups)
    (hsub : ∀ g ∈ groups, g ∈ groups') : pc.Fresh groups' :=
  ⟨fun g hg => hsub g (h.1 g hg), fun a e he =>
    ⟨(h.2 a e he).1, hsub _ (h.2 a e he).2.1, (h.2 a e he).2.2⟩⟩

theorem BatchFrame.fresh_nextGroup (vendor : PayoutVendor) :
    ∀ (groups : List UnpaidEarningsGroup) (frame : BatchFrame),
      (frame.nextGroup vendor groups).Fresh groups := by
  intro groups
  induction groups with
  | nil => intro frame; exact frame.fresh_nextVendor []
  | cons g gs ih =>
    intro frame
    rw [nextGroup]
    split
    · rename_i attempt ha
      obtain ⟨hg, ht, hf⟩ := attemptFor_eq_some ha
      refine ⟨fun g' hg' => List.mem_cons_of_mem _ hg', fun a e he => ?_⟩
      simp only [BatchPc.executing, Option.some.injEq, Prod.mk.injEq] at he
      obtain ⟨rfl, rfl⟩ := he
      exact ⟨rfl, hg ▸ List.mem_cons_self, by rw [hf, ht]⟩
    · exact (ih _).mono fun g' hg' => List.mem_cons_of_mem _ hg'

theorem BatchFrame.fresh_proceed {frame : BatchFrame} {a : Attempt} {vendor : PayoutVendor}
    {groups : List UnpaidEarningsGroup} {e : ExecPc} (h : e.ended = true) :
    (frame.proceed a vendor groups e).Fresh groups := by
  cases e <;> first | exact BatchFrame.fresh_nextGroup vendor groups _ | cases h

theorem BatchFrame.proceed_of_not_ended {frame : BatchFrame} {a : Attempt} {vendor : PayoutVendor}
    {groups : List UnpaidEarningsGroup} {e : ExecPc} (h : e.ended = false) :
    frame.proceed a vendor groups e = .execute a e vendor groups frame := by
  cases e <;> first | rfl | cases h

/-- The groups a step of a batch can read. -/
inductive GroupsRead (w : World) (raw : List UnpaidEarningsGroup) :
    List UnpaidEarningsGroup → Prop
  | none : GroupsRead w raw []
  | rider (userId : UserId) : GroupsRead w raw (PayoutsService.getUnpaidRiderEarnings w userId)
  | vendor (sellerType : SellerType) (vendorId : VendorId) :
    GroupsRead w raw (PayoutsService.unpaidVendorGroups w sellerType vendorId)
  | netted (sellerType : SellerType) (vendorId : VendorId) :
    GroupsRead w raw (PayoutsService.applyClawbacks w sellerType vendorId raw)

/-- **What a step of a batch can be**: a step of the payout it is executing, or
one that changes nothing and reads at most the groups of its next vendor. -/
theorem batch_cases (h : batchStep w pc r = some (w', pc')) :
    (∃ a e e', pc.executing = some (a, e) ∧ execStep a w e r = some (w', e') ∧
      ((e'.ended = false ∧ pc'.executing = some (a, e') ∧ pc'.pendingGroups = pc.pendingGroups) ∨
        (e'.ended = true ∧ pc'.Fresh pc.pendingGroups))) ∨
    (pc.executing = none ∧ w' = w ∧
      ∃ groups, GroupsRead w pc.pendingGroups groups ∧ pc'.Fresh groups) := by
  have quiet : ∀ {db : DbReply} {next : BatchPc} {caught : String → BatchPc}
      {groups : List UnpaidEarningsGroup}, GroupsRead w pc.pendingGroups groups →
      pc.executing = none → next.Fresh groups → (∀ m, (caught m).Fresh []) →
      some (db.settle w w next caught) = some (w', pc') →
      pc.executing = none ∧ w' = w ∧
        ∃ groups, GroupsRead w pc.pendingGroups groups ∧ pc'.Fresh groups := by
    intro db next caught groups hread hnone hnext hcaught hs
    obtain ⟨hw, hpc | ⟨m, hpc⟩⟩ := DbReply.settle_read (Option.some.inj hs)
    · exact ⟨hnone, hw, groups, hread, hpc ▸ hnext⟩
    · exact ⟨hnone, hw, [], .none, hpc ▸ hcaught m⟩
  have fresh_threw : BatchPc.threw.Fresh [] :=
    ⟨fun g hg => absurd hg List.not_mem_nil, fun a e he => by cases he⟩
  cases pc with
  | query vendorType summary =>
    cases r with
    | db db =>
      exact Or.inr (quiet .none rfl (BatchFrame.fresh_nextVendor _ []) (fun _ => fresh_threw) h)
    | transfer t => cases h
    | refund t => cases h
  | readOrders vendor frame =>
    cases r with
    | db db =>
      simp only [batchStep] at h
      split at h
      · rename_i sellerType hs
        refine Or.inr (quiet (.vendor sellerType vendor.vendorId) rfl ?_
          (fun _ => frame.fresh_nextVendor []) h)
        rw [BatchPc.afterOrders]
        split
        · exact frame.fresh_nextVendor _
        · exact ⟨fun g hg => hg, fun a e he => by cases he⟩
      · exact Or.inr (quiet (.rider vendor.userId) rfl
          (BatchFrame.fresh_nextGroup vendor _ frame) (fun _ => frame.fresh_nextVendor []) h)
    | transfer t => cases h
    | refund t => cases h
  | readClawbacks vendor sellerType raw frame =>
    cases r with
    | db db =>
      exact Or.inr (quiet (.netted sellerType vendor.vendorId) rfl
        (BatchFrame.fresh_nextGroup vendor _ frame) (fun _ => frame.fresh_nextVendor []) h)
    | transfer t => cases h
    | refund t => cases h
  | execute a e vendor groups frame =>
    simp only [batchStep, Option.map_eq_some_iff] at h
    obtain ⟨⟨w₁, e'⟩, he, heq⟩ := h
    obtain ⟨rfl, rfl⟩ := Prod.mk.inj heq
    refine Or.inl ⟨a, e, e', rfl, he, ?_⟩
    cases hend : e'.ended with
    | true => exact Or.inr ⟨rfl, BatchFrame.fresh_proceed hend⟩
    | false =>
      rw [BatchFrame.proceed_of_not_ended hend]
      exact Or.inl ⟨rfl, rfl, rfl⟩
  | returned summary => cases r <;> cases h
  | threw => cases r <;> cases h

end Cases

end FoodDelivery
