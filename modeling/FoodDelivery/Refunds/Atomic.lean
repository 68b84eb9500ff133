import FoodDelivery.Refunds.Machine

/-!
# A refund is all or nothing

`refundOrder` from its first awaited call to its last, while nothing else touches the order.  The
order is taken with the `updatedAt` that Mongoose, by the schema's `timestamps`, sets with every
write.

* `RefundCall`: a call of the refund flow, and what goes on beside it.
* `untouched_of_refused`, `atomic_of_claim`, `refund_atomic`: what each exit of the call leaves of
  the order.
* `touched_by_refusal`: a declined refund leaves a later `updatedAt`.
-/

namespace FoodDelivery

open Store

/-- The collections, with the `updatedAt` of each order. -/
structure Stamped where
  world : World
  updatedAt : OrderId → Time

/-- The order that an awaited call writes. -/
def writtenOrder (w : World) : RefundPc → Reply → Option OrderId
  | .claim id _ _, .db r =>
    if r.wrote && w.updates id Order.claimForRefund then some id else none
  | .flag id _ previousStatus reason, .db r =>
    if r.wrote && w.updates id (Order.flagAmbiguousRefund · previousStatus reason) then some id
    else none
  | .revert id _ previousStatus _, .db r =>
    if r.wrote && w.updates id (Order.revertFailedRefundClaim · previousStatus) then some id
    else none
  | .finalizeSave id _, .db r => if r.wrote then some id else none
  | .webhookDispute id, .db r => if r.wrote then some id else none
  | .webhookClaim id, .db r =>
    if r.wrote && w.updates id Order.claimForRefund then some id else none
  | .resolveSave id _, .db r => if r.wrote then some id else none
  | .resolveClaim id, .db r =>
    if r.wrote && w.updates id Order.claimReconciledRefund then some id else none
  | _, _ => none

namespace Stamped

/-- The stored document. -/
def stored (s : Stamped) (id : OrderId) : Option (Order × Time) :=
  (s.world.orders.get id).map fun order => (order, s.updatedAt id)

def stamp (s : Stamped) (w : World) : Option OrderId → Stamped
  | none => ⟨w, s.updatedAt⟩
  | some id => ⟨w, Function.update s.updatedAt id s.world.now⟩

/-- One awaited call. -/
def step (s : Stamped) (pc : RefundPc) (r : Reply) : Option (Stamped × RefundPc) :=
  (refundStep s.world pc r).map fun x => (s.stamp x.1 (writtenOrder s.world pc r), x.2)

end Stamped

/-- The call has come back to its caller. -/
def RefundPc.finished : RefundPc → Bool
  | .returned => true
  | .rejected _ => true
  | .threw => true
  | _ => false

/-- A call with the answers it gets.  Between two of its awaited calls anything may happen that
leaves this order alone. -/
inductive RefundCall (id : OrderId) : Stamped → RefundPc → List Reply → Stamped → RefundPc → Prop
  | done {s : Stamped} {pc : RefundPc} : RefundCall id s pc [] s pc
  | step {s s₁ s₂ s' : Stamped} {pc pc₂ pc' : RefundPc} {r : Reply} {rs : List Reply}
    (hsame : s₁.stored id = s.stored id) (hstep : s₁.step pc r = some (s₂, pc₂))
    (rest : RefundCall id s₂ pc₂ rs s' pc') : RefundCall id s pc (r :: rs) s' pc'

/-- The checks that a call has before it let this order through: those of `refundOrder` and of its
claim, or those of the claim. -/
def RefundPc.admits (order : Order) : RefundPc → Prop
  | .read _ => order.status ∈ refundableStatuses ∧ order.paymentStatus = .succeeded ∧
      order.refundReconciliationRequired = false ∧ isBlank order.paymentRef = false
  | .claim _ _ _ => order.status ∈ refundableStatuses ∧ order.paymentStatus = .succeeded ∧
      order.refundReconciliationRequired = false
  | _ => False

/-- How many awaited calls there are at most from here on that have to do with the order; a clawback
is recorded after them. -/
def RefundPc.callsOnOrder : RefundPc → Nat
  | .read _ => 5
  | .claim _ _ _ => 4
  | .adapter _ _ _ _ => 3
  | .finalizeRead _ => 2
  | _ => 1

section Steps

variable {id : OrderId} {s s' s₁ : Stamped} {pc pc' : RefundPc} {rs : List Reply} {r : Reply}
  {d order : Order} {updatedAt : Time} {previousStatus : OrderStatus} {message : String}
  {w w' : World}

theorem refundStep_finished (hpc : pc.finished = true) : refundStep w pc r = none := by
  cases pc <;> first
    | exact absurd hpc Bool.false_ne_true
    | cases r <;> rfl

theorem RefundCall.of_finished (h : RefundCall id s pc rs s' pc') (hpc : pc.finished = true) :
    rs = [] ∧ s' = s := by
  cases h with
  | done => exact ⟨rfl, rfl⟩
  | step hsame hstep rest =>
    rw [Stamped.step, Option.map_eq_some_iff] at hstep
    obtain ⟨x, hx, _⟩ := hstep
    cases (refundStep_finished hpc).symm.trans hx

/-- A call that has not come back takes its next step. -/
theorem RefundCall.next (h : RefundCall id s pc rs s' pc') (hend : pc'.finished = true)
    (hpc : pc.finished = false) :
    ∃ (s₁ : Stamped) (r : Reply) (w : World) (pc₂ : RefundPc) (rest : List Reply),
      s₁.stored id = s.stored id ∧ refundStep s₁.world pc r = some (w, pc₂) ∧ rs = r :: rest ∧
        RefundCall id (s₁.stamp w (writtenOrder s₁.world pc r)) pc₂ rest s' pc' := by
  cases h with
  | done =>
    rw [hend] at hpc
    cases hpc
  | step hsame hstep rest =>
    rw [Stamped.step, Option.map_eq_some_iff] at hstep
    obtain ⟨⟨w, pc₂⟩, hx, he⟩ := hstep
    cases he
    exact ⟨_, _, w, pc₂, _, hsame, hx, rfl, rest⟩

/-- Away from the adapter a call waits for the database. -/
theorem db_of_step (h : refundStep w pc r = some (w', pc')) (hr : r.faultless = true)
    (hpc : ∀ i order ref prev, pc ≠ .adapter i order ref prev) : r = .db .ok := by
  cases r with
  | db r => exact congrArg Reply.db (of_decide_eq_true hr)
  | transfer r => cases pc <;> simp [refundStep] at h
  | refund r =>
    cases pc with
    | adapter i order ref prev => exact absurd rfl (hpc i order ref prev)
    | _ => simp [refundStep] at h

@[simp] theorem world_stamp {o : Option OrderId} : (s.stamp w o).world = w := by cases o <;> rfl

theorem get_of_stored (h : s₁.stored id = s.stored id) :
    s₁.world.orders.get id = s.world.orders.get id := by
  have hfst := congrArg (Option.map Prod.fst) h
  rw [Stamped.stored, Stamped.stored, Option.map_map, Option.map_map] at hfst
  simpa [Function.comp_def] using hfst

end Steps

/-! ## The exits -/

/-- The order while a call holds its claim. -/
def Order.midClaim (d : Order) : Order := { d with status := .refunded }

/-- What is left of an order once `adapter.refund` has settled. -/
def Order.Leaves (d : Order) (d' : Order) : RefundReply → Prop
  | .failed _ => d' = d
  | .unknown message => d' = { d with
      refundReconciliationRequired := true
      refundFailureReason := some message }
  | .resolved => ∃ now, d' = { d with
      status := .refunded
      paymentStatus := .refunded
      statusHistory := d.statusHistory ++ [⟨.refunded, now, .admin⟩] }

def Reply.callsAdapter : Reply → Bool
  | .refund _ => true
  | _ => false

section Exits

variable {id : OrderId} {s s' : Stamped} {pc pc' : RefundPc} {rs : List Reply} {d order : Order}
  {message ref : String} {w w' : World}

theorem RefundCall.revert (h : RefundCall id s (.revert id order d.status message) rs s' pc')
    (hend : pc'.finished = true) (hdb : ∀ r ∈ rs.take 1, r.faultless = true)
    (hd : s.world.orders.get id = some d.midClaim) (hpaid : d.paymentStatus = .succeeded) :
    rs = [.db .ok] ∧ s'.world.orders.get id = some d := by
  obtain ⟨s₁, r, w, pc₂, rest, hsame, hstep, rfl, hrest⟩ := h.next hend rfl
  obtain rfl := db_of_step hstep (hdb _ List.mem_cons_self) fun _ _ _ _ he => by cases he
  cases hstep
  obtain ⟨rfl, rfl⟩ := hrest.of_finished rfl
  have hget := (get_of_stored hsame).trans hd
  refine ⟨rfl, ?_⟩
  rw [world_stamp]
  refine get_updateOrder hget ?_
  rw [Order.revertFailedRefundClaim, if_pos ⟨rfl, hpaid⟩]
  rfl

theorem RefundCall.flag (h : RefundCall id s (.flag id order d.status message) rs s' pc')
    (hend : pc'.finished = true) (hdb : ∀ r ∈ rs.take 1, r.faultless = true)
    (hd : s.world.orders.get id = some d.midClaim) (hpaid : d.paymentStatus = .succeeded) :
    rs = [.db .ok] ∧ s'.world.orders.get id = some { d with
      refundReconciliationRequired := true
      refundFailureReason := some message } := by
  obtain ⟨s₁, r, w, pc₂, rest, hsame, hstep, rfl, hrest⟩ := h.next hend rfl
  obtain rfl := db_of_step hstep (hdb _ List.mem_cons_self) fun _ _ _ _ he => by cases he
  have hget := (get_of_stored hsame).trans hd
  have hflag : d.midClaim.flagAmbiguousRefund d.status message = some { d with
      refundReconciliationRequired := true
      refundFailureReason := some message } := by
    rw [Order.flagAmbiguousRefund, if_pos ⟨rfl, hpaid⟩]
    rfl
  have hup : s₁.world.updates id (Order.flagAmbiguousRefund · d.status message) = true :=
    updates_iff.mpr ⟨_, _, hget, hflag⟩
  simp only [refundStep, hup, if_true] at hstep
  cases hstep
  obtain ⟨rfl, rfl⟩ := hrest.of_finished rfl
  refine ⟨rfl, ?_⟩
  rw [world_stamp]
  exact get_updateOrder hget hflag

/-- Nothing of what comes after the save of a refund touches the order. -/
theorem RefundCall.recordClawback {i : OrderId} {payoutId : PayoutId}
    (h : RefundCall id s (.recordClawback i order payoutId) rs s' pc')
    (hend : pc'.finished = true) :
    (∀ r ∈ rs, r.callsAdapter = false) ∧ s'.world.orders.get id = s.world.orders.get id := by
  obtain ⟨s₁, r, w, pc₂, rest, hsame, hstep, rfl, hrest⟩ := h.next hend rfl
  have hkept := get_of_stored hsame
  cases r with
  | transfer r => simp [refundStep] at hstep
  | refund r => simp [refundStep] at hstep
  | db r =>
    have hlast : pc₂.finished = true ∧ w.orders = s₁.world.orders := by
      cases r with
      | ok =>
        cases hstep
        exact ⟨rfl, rfl⟩
      | threw written message => cases written <;> cases hstep <;> exact ⟨rfl, rfl⟩
    obtain ⟨rfl, rfl⟩ := hrest.of_finished hlast.1
    refine ⟨by simp [Reply.callsAdapter], ?_⟩
    rw [world_stamp, hlast.2]
    exact hkept

theorem RefundCall.finalize (h : RefundCall id s (.finalizeRead id) rs s' pc')
    (hend : pc'.finished = true) (hdb : ∀ r ∈ rs.take 2, r.faultless = true)
    (hd : s.world.orders.get id = some d.midClaim) :
    (∀ r ∈ rs, r.callsAdapter = false) ∧ ∃ now, s'.world.orders.get id = some { d with
      status := .refunded
      paymentStatus := .refunded
      statusHistory := d.statusHistory ++ [⟨.refunded, now, .admin⟩] } := by
  -- it reads the order back
  obtain ⟨s₁, r, w, pc₂, rest, hsame, hstep, rfl, hrest⟩ := h.next hend rfl
  obtain ⟨hr, hrestdb⟩ := List.forall_mem_cons.mp hdb
  obtain rfl := db_of_step hstep hr fun _ _ _ _ he => by cases he
  have hget := (get_of_stored hsame).trans hd
  simp only [refundStep, hget] at hstep
  cases hstep
  -- it saves the refund
  obtain ⟨s₂, r, w, pc₂, rest, hsame₂, hstep, rfl, hrest⟩ := hrest.next hend rfl
  obtain rfl := db_of_step hstep (hrestdb _ List.mem_cons_self) fun _ _ _ _ he => by cases he
  have hget₂ : s₂.world.orders.get id = some d.midClaim := by
    rw [get_of_stored hsame₂, world_stamp]
    exact hget
  cases hstep
  have hsaved : (s₂.world.modifyOrder id (·.saveFinalizedRefund s₂.world.now)).orders.get id =
      some (d.midClaim.saveFinalizedRefund s₂.world.now) := by
    rw [World.modifyOrder, Collection.get_modify_self, hget₂]
    rfl
  -- it records the clawback, if there is one
  cases hpayout : d.midClaim.vendorPayoutId with
  | none =>
    simp only [RefundPc.afterFinalize, hpayout] at hrest
    obtain ⟨rfl, rfl⟩ := hrest.of_finished rfl
    refine ⟨by simp [Reply.callsAdapter], s₂.world.now, ?_⟩
    rw [world_stamp]
    exact hsaved
  | some payoutId =>
    simp only [RefundPc.afterFinalize, hpayout] at hrest
    obtain ⟨hquiet, hkept⟩ := hrest.recordClawback hend
    refine ⟨?_, s₂.world.now, ?_⟩
    · rw [List.forall_mem_cons, List.forall_mem_cons]
      exact ⟨rfl, rfl, hquiet⟩
    · rw [hkept, world_stamp]
      exact hsaved

/-- **From the adapter on**: one call of it, and the exit that fits its answer. -/
theorem RefundCall.adapter (h : RefundCall id s (.adapter id order ref d.status) rs s' pc')
    (hend : pc'.finished = true) (hdb : ∀ r ∈ rs.take 3, r.faultless = true)
    (hd : s.world.orders.get id = some d.midClaim) (hpaid : d.paymentStatus = .succeeded) :
    ∃ x d', rs.filter Reply.callsAdapter = [.refund x] ∧ s'.world.orders.get id = some d' ∧
      d.Leaves d' x := by
  obtain ⟨s₁, r, w, pc₂, rest, hsame, hstep, rfl, hrest⟩ := h.next hend rfl
  have hrestdb := (List.forall_mem_cons.mp hdb).2
  have hget := (get_of_stored hsame).trans hd
  cases r with
  | db r => simp [refundStep] at hstep
  | transfer r => simp [refundStep] at hstep
  | refund x =>
    cases hstep
    refine ⟨x, ?_⟩
    have hlogged : (s₁.stamp (s₁.world.log (.called id order.paymentProvider ref x))
        (writtenOrder s₁.world (.adapter id order ref d.status) (.refund x))).world.orders.get id =
          some d.midClaim := by
      rw [world_stamp]
      exact hget
    cases x with
    | resolved =>
      obtain ⟨hnone, now, hfinal⟩ := hrest.finalize hend hrestdb hlogged
      have hquiet := List.filter_eq_nil_iff.mpr fun r hr => Bool.eq_false_iff.mp (hnone r hr)
      refine ⟨_, ?_, hfinal, now, rfl⟩
      rw [List.filter_cons_of_pos rfl, hquiet]
    | unknown message =>
      have hflagged : ∀ r ∈ rest.take 1, r.faultless = true :=
        fun r hr => hrestdb r (List.take_subset_take_left rest (by decide) hr)
      obtain ⟨rfl, hfinal⟩ := hrest.flag hend hflagged hlogged hpaid
      exact ⟨_, rfl, hfinal, rfl⟩
    | failed message =>
      have hreverted : ∀ r ∈ rest.take 1, r.faultless = true :=
        fun r hr => hrestdb r (List.take_subset_take_left rest (by decide) hr)
      obtain ⟨rfl, hfinal⟩ := hrest.revert hend hreverted hlogged hpaid
      exact ⟨_, rfl, hfinal, rfl⟩

/-! ## From the start -/

/-- What `refundOrder` makes of the order that it read. -/
theorem afterRead_eq (id : OrderId) (d : Order) :
    RefundPc.afterRead id d = .claim id d (d.paymentRef.getD "") ∧ (RefundPc.read id).admits d ∨
    (RefundPc.afterRead id d).finished = true ∧ ¬ (RefundPc.read id).admits d := by
  unfold RefundPc.afterRead RefundPc.admits
  by_cases hpaid : d.status ∈ refundableStatuses ∧ d.paymentStatus = .succeeded
  · by_cases hflag : d.refundReconciliationRequired = true
    · simp [hpaid, hflag, RefundPc.finished]
    · by_cases hblank : isBlank d.paymentRef = true
      · simp [hpaid, hflag, hblank, RefundPc.finished]
      · simp [hpaid, hflag, hblank]
  · refine Or.inr ⟨by simp [hpaid, RefundPc.finished], fun h => hpaid ⟨h.1, h.2.1⟩⟩

/-- A database call that writes nothing and after which the call comes back. -/
theorem RefundCall.refuse {next : RefundPc} {db : DbReply}
    (h : RefundCall id s pc' rs s' pc) (hs : some (db.settle w w next fun _ => .threw) =
      some (w', pc')) (hnext : next.finished = true) : w' = w ∧ rs = [] ∧ s' = s := by
  obtain ⟨rfl, rfl | ⟨_, rfl⟩⟩ := DbReply.settle_read (Option.some.inj hs)
  · exact ⟨rfl, h.of_finished hnext⟩
  · exact ⟨rfl, h.of_finished rfl⟩

/-- **An order that does not pass the checks is not written, and the adapter is not called.** -/
theorem untouched_of_refused (hstart : pc = .read id ∨ ∃ order ref, pc = .claim id order ref)
    (hd : s.world.orders.get id = some d) (h : RefundCall id s pc rs s' pc')
    (hend : pc'.finished = true) (hnot : ¬ pc.admits d) :
    s'.stored id = s.stored id ∧ rs.filter Reply.callsAdapter = [] := by
  rcases hstart with rfl | ⟨order, ref, rfl⟩
  · obtain ⟨s₁, r, w, pc₂, rest, hsame, hstep, rfl, hrest⟩ := h.next hend rfl
    have hget := (get_of_stored hsame).trans hd
    cases r with
    | transfer r => simp [refundStep] at hstep
    | refund r => simp [refundStep] at hstep
    | db r =>
      simp only [refundStep, hget] at hstep
      obtain ⟨_, hadmits⟩ | ⟨hfinished, _⟩ := afterRead_eq id d
      · exact absurd hadmits hnot
      · obtain ⟨rfl, rfl, rfl⟩ := hrest.refuse hstep hfinished
        exact ⟨hsame, rfl⟩
  · obtain ⟨s₁, r, w, pc₂, rest, hsame, hstep, rfl, hrest⟩ := h.next hend rfl
    have hget := (get_of_stored hsame).trans hd
    have hnone : d.claimForRefund = none := by
      rw [Order.claimForRefund]
      exact if_neg hnot
    have hup : s₁.world.updates id Order.claimForRefund = false := by
      rw [World.updates, hget, Option.bind_some, hnone]
      rfl
    cases r with
    | transfer r => simp [refundStep] at hstep
    | refund r => simp [refundStep] at hstep
    | db r =>
      simp only [refundStep, hget, hup, Bool.false_eq_true, if_false] at hstep
      obtain ⟨rfl, rfl, rfl⟩ := hrest.refuse hstep rfl
      have hunwritten : writtenOrder s₁.world (.claim id order ref) (.db r) = none := by
        rw [writtenOrder, hup, Bool.and_false]
        rfl
      rw [hunwritten]
      exact ⟨hsame, rfl⟩

/-- **The claim matches and the adapter is called.** -/
theorem atomic_of_claim (h : RefundCall id s (.claim id order ref) rs s' pc')
    (hend : pc'.finished = true) (hdb : ∀ r ∈ rs.take 4, r.faultless = true)
    (hd : s.world.orders.get id = some d) (hadmits : (RefundPc.claim id order ref).admits d) :
    ∃ x d', rs.filter Reply.callsAdapter = [.refund x] ∧ s'.world.orders.get id = some d' ∧
      d.Leaves d' x := by
  obtain ⟨s₁, r, w, pc₂, rest, hsame, hstep, rfl, hrest⟩ := h.next hend rfl
  obtain ⟨hr, hrestdb⟩ := List.forall_mem_cons.mp hdb
  obtain rfl := db_of_step hstep hr fun _ _ _ _ he => by cases he
  have hget := (get_of_stored hsame).trans hd
  have hclaim : d.claimForRefund = some d.midClaim :=
    Order.claimForRefund_eq_some.mpr ⟨hadmits, rfl⟩
  have hup : s₁.world.updates id Order.claimForRefund = true :=
    updates_iff.mpr ⟨_, _, hget, hclaim⟩
  simp only [refundStep, hget, hup, if_true] at hstep
  cases hstep
  refine hrest.adapter hend hrestdb ?_ hadmits.2.1
  rw [world_stamp]
  exact get_updateOrder hget hclaim

/-- **`refundOrder` is all or nothing**: for any order and any answer of the adapter, from the first
call, or from the claim where something else touched the order before it. -/
theorem refund_atomic (hstart : pc = .read id ∨ ∃ order ref, pc = .claim id order ref)
    (hd : s.world.orders.get id = some d) (h : RefundCall id s pc rs s' pc')
    (hend : pc'.finished = true) :
    (¬ pc.admits d → s'.stored id = s.stored id ∧ rs.filter Reply.callsAdapter = []) ∧
    (pc.admits d → (∀ r ∈ rs.take pc.callsOnOrder, r.faultless = true) →
      ∃ x d', rs.filter Reply.callsAdapter = [.refund x] ∧
        s'.world.orders.get id = some d' ∧ d.Leaves d' x) := by
  refine ⟨untouched_of_refused hstart hd h hend, fun hadmits hdb => ?_⟩
  rcases hstart with rfl | ⟨order, ref, rfl⟩
  · obtain ⟨s₁, r, w, pc₂, rest, hsame, hstep, rfl, hrest⟩ := h.next hend rfl
    obtain ⟨hr, hrestdb⟩ := List.forall_mem_cons.mp hdb
    obtain rfl := db_of_step hstep hr fun _ _ _ _ he => by cases he
    have hget := (get_of_stored hsame).trans hd
    simp only [refundStep, hget] at hstep
    cases hstep
    have hread : (s₁.stamp s₁.world
        (writtenOrder s₁.world (.read id) (.db .ok))).world.orders.get id = some d := by
      rw [world_stamp]
      exact hget
    obtain ⟨hclaim, _⟩ | ⟨_, hnot⟩ := afterRead_eq id d
    · rw [hclaim] at hrest
      have hrun := atomic_of_claim hrest hend hrestdb hread
        ⟨hadmits.1, hadmits.2.1, hadmits.2.2.1⟩
      exact hrun
    · exact absurd hadmits hnot
  · exact atomic_of_claim h hend hdb hd hadmits

end Exits

/-! ## Concrete runs -/

/-- One cancelled order, paid for with this reference and last written at 3; it is now 8. -/
def cancelledOrder : Order :=
  { Order.created (.restaurant 7) 1 0 "NGN" .paystack (.ofCents 100) (.ofCents 1100) (.ofCents 900)
      with
    status := .cancelled
    paymentStatus := .succeeded
    paymentRef := some "ref" }

def cancelledWorld : Stamped := ⟨{ World.empty [] with orders := ⟨[cancelledOrder]⟩, now := 8 },
  fun _ => 3⟩

/-- The call, with these answers. -/
def answered : Stamped → RefundPc → List Reply → Option (Stamped × RefundPc)
  | s, pc, [] => some (s, pc)
  | s, pc, r :: rs => (s.step pc r).bind fun x => answered x.1 x.2 rs

theorem refundCall_of_answered (id : OrderId) {rs : List Reply} :
    ∀ {s s' : Stamped} {pc pc' : RefundPc}, answered s pc rs = some (s', pc') →
      RefundCall id s pc rs s' pc' := by
  induction rs with
  | nil =>
    intro s s' pc pc' h
    cases h
    exact .done
  | cons r rs ih =>
    intro s s' pc pc' h
    obtain ⟨x, hx, hrest⟩ := Option.bind_eq_some_iff.mp h
    exact .step rfl hx (ih hrest)

/-- The adapter declines the refund. -/
def declined : List Reply := [.db .ok, .db .ok, .refund (.failed "declined"), .db .ok]

/-- **A declined refund leaves the order as it was, but for its `updatedAt`.** -/
theorem touched_by_refusal : ∃ s', RefundCall 0 cancelledWorld (.read 0) declined s'
      (.rejected (RefundPc.refused .paystack "declined")) ∧
    s'.stored 0 = some (cancelledOrder, 8) ∧ s'.stored 0 ≠ cancelledWorld.stored 0 := by
  have hrun : ((answered cancelledWorld (.read 0) declined).any fun x =>
      x.2 = .rejected (RefundPc.refused .paystack "declined") &&
        x.1.stored 0 = some (cancelledOrder, 8)) = true := by
    decide +kernel
  rw [Option.any_eq_true] at hrun
  obtain ⟨⟨s', pc'⟩, hanswered, hp⟩ := hrun
  rw [Bool.and_eq_true, decide_eq_true_eq, decide_eq_true_eq] at hp
  obtain ⟨rfl, hstored⟩ := hp
  have hbefore : cancelledWorld.stored 0 = some (cancelledOrder, 3) := rfl
  refine ⟨s', refundCall_of_answered 0 hanswered, hstored, ?_⟩
  rw [hstored, hbefore]
  intro h
  cases congrArg Prod.snd (Option.some.inj h)

theorem refund_atomic_declined : ∃ s' : Stamped,
    s'.world.orders.get 0 = some cancelledOrder := by
  have hrun : ((answered cancelledWorld (.read 0) declined).any fun x =>
      x.2.finished) = true := by
    decide +kernel
  rw [Option.any_eq_true] at hrun
  obtain ⟨⟨s', pc'⟩, hanswered, hend⟩ := hrun
  have hadmits : (RefundPc.read 0).admits cancelledOrder := by
    rw [RefundPc.admits]
    decide
  obtain ⟨x, d', hx, hget, hleaves⟩ := (refund_atomic (Or.inl rfl) rfl
    (refundCall_of_answered 0 hanswered) hend).2 hadmits (by decide)
  cases hx
  cases hleaves
  exact ⟨s', hget⟩

end FoodDelivery
