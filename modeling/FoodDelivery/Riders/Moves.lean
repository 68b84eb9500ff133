import FoodDelivery.Riders.Fleet

/-!
# What the riders' and the orders' calls may do

* `fleet_move`: what a step may do to the orders and the riders.
* `order_of_clientStep`: what a call that attaches no rider does to its order.
-/

namespace FoodDelivery

open Store Interleave OrdersService FleetPc

/-! ## What the calls rely on -/

namespace Fleet

/-- A verified rider has this user id. -/
def Verified (c : Fleet) (userId : UserId) : Prop :=
  ∃ riderId rider, c.riders.get riderId = some rider ∧ rider.userId = userId ∧
    rider.isVerified = true

/-- No order but the given one is an active delivery of the rider. -/
def Free (c : Fleet) (id : OrderId) (userId : UserId) : Prop :=
  ∀ id' d, id' ≠ id → c.orders.get id' = some d → d.isActiveFor userId = false

/-- The order waits for a rider: the filter of `assignToRider`. -/
def awaitsRider (c : Fleet) (id : OrderId) : Bool :=
  (c.orders.get id).any fun o => decide (o.status = .readyForPickup ∧ o.riderId = none)

end Fleet

/-- A call that attaches a rider. -/
def ClientPc.attaches : ClientPc → Bool
  | .assign _ => true
  | .choiceRead _ _ => true
  | .choiceWrite _ _ _ => true
  | _ => false

namespace FleetPc

/-- The riders that a call may attach. -/
def attaching : FleetPc → List UserId
  | .assign riderUserId _ => [riderUserId]
  | .reassign _ _ riderUserId => [riderUserId]
  | .dispatchBusy _ candidates _ => candidates.map (·.userId)
  | .dispatchAssign _ riderUserId _ => [riderUserId]
  | _ => []

/-- The order and the rider that the sweep picked for it. -/
def dispatching : FleetPc → Option (OrderId × UserId)
  | .dispatchAssign orderId riderUserId _ => some (orderId, riderUserId)
  | _ => none

/-- The order and the rider whose active delivery the next step makes it. -/
def booking (c : Fleet) : FleetPc → Option (OrderId × UserId)
  | .assign riderUserId orderId =>
    if c.awaitsRider orderId then some (orderId, riderUserId) else none
  | .dispatchAssign orderId riderUserId _ =>
    if c.awaitsRider orderId then some (orderId, riderUserId) else none
  | .reassign _ orderId riderUserId =>
    if (c.orders.get orderId).any fun o => decide (o.status = .assignedToRider) then
      some (orderId, riderUserId)
    else none
  | .onOrder orderId (.riderSave _ targetStatus) =>
    match c.orders.get orderId with
    | none => none
    | some o =>
      if targetStatus ∈ activeDeliveryStatuses ∧ o.status ∉ activeDeliveryStatuses then
        o.riderId.map (orderId, ·)
      else none
  | _ => none

/-- A call on an order attaches no rider, and is sound. -/
def Sound : FleetPc → Prop
  | .onOrder _ pc => pc.attaches = false ∧ pc.Sound
  | _ => True

end FleetPc

/-- The steps: a call reads on or is over; a rider applies, is verified or goes online or
offline; an order gets a rider; or a call on an order takes its step. -/
inductive FleetMove (c : Fleet) : FleetPc → Fleet → FleetPc → Prop
  | waited {pc pc' : FleetPc} (hsound : pc'.Sound)
    (hverified : ∀ u ∈ pc'.attaching, u ∈ pc.attaching ∨ c.Verified u)
    (hfree : ∀ id u, pc'.dispatching = some (id, u) → c.Free id u) : FleetMove c pc c pc'
  | applied {pc : FleetPc} {dto : ApplyRiderDto} {userId : UserId}
    (hnew : ∀ id rider, c.riders.get id = some rider → rider.userId ≠ userId) :
    FleetMove c pc { c with riders := c.riders.create (dto.toRider userId) } .applyRole
  | verified {id : RiderId} : FleetMove c (.verifySave id)
    (c.modifyRider id fun rider => { rider with isVerified := true }) .returned
  | toggled {id : RiderId} {isOnline : Bool} : FleetMove c (.toggleSave id isOnline)
    (c.modifyRider id fun rider => { rider with isOnline := isOnline }) .returned
  | attached {pc pc' : FleetPc} {id : OrderId} {u : UserId} {o o' : Order}
    (hget : c.orders.get id = some o) (hbooking : pc.booking c = some (id, u))
    (hu : u ∈ pc.attaching) (ho : o'.riderId = some u) (hsound : pc'.Sound)
    (hpc : pc'.attaching = []) : FleetMove c pc (c.modifyOrder id fun _ => o') pc'
  | moved {id : OrderId} {o o' : Order} {pc pc' : ClientPc} {r : ClientReply}
    (hget : c.orders.get id = some o) (hstep : clientStep o pc r = some (o', pc')) :
    FleetMove c (.onOrder id pc) (c.modifyOrder id fun _ => o') (.onOrder id pc')

section Moves

variable {distanceMeters : GeoPoint → GeoPoint → ℚ} {c c' : Fleet} {pc pc' : FleetPc}
  {r : FleetReply}

namespace FleetPc

theorem dispatching_eq_none (h : pc.attaching = []) : pc.dispatching = none := by
  cases pc with
  | dispatchAssign orderId u rest => cases h
  | _ => rfl

@[simp] theorem attaching_dispatchNext (rest : List OrderId) :
    (dispatchNext rest).attaching = [] := by
  cases rest <;> rfl

@[simp] theorem sound_dispatchNext (rest : List OrderId) : (dispatchNext rest).Sound := by
  cases rest <;> trivial

/-- A call whose database fails is the sweep at its next order, or over. -/
theorem onFailure_cases (pc : FleetPc) :
    (∃ rest, pc.onFailure = dispatchNext rest) ∨ pc.onFailure = .threw := by
  cases pc with
  | dispatchSeller orderId rest => exact Or.inl ⟨rest, rfl⟩
  | dispatchNear orderId near rest => exact Or.inl ⟨rest, rfl⟩
  | dispatchBusy orderId candidates rest => exact Or.inl ⟨rest, rfl⟩
  | dispatchAssign orderId u rest => exact Or.inl ⟨rest, rfl⟩
  | _ => exact Or.inr rfl

end FleetPc

/-- A call that goes on with no rider to attach. -/
theorem FleetMove.idle (hsound : pc'.Sound) (h : pc'.attaching = []) : FleetMove c pc c pc' := by
  refine .waited hsound (fun u hu => ?_) fun id u hd => ?_
  · rw [h] at hu
    exact absurd hu List.not_mem_nil
  · rw [dispatching_eq_none h] at hd
    cases hd

/-- A dispatch that is over: the sweep takes its next order. -/
theorem FleetMove.next (rest : List OrderId) : FleetMove c pc c (dispatchNext rest) :=
  .idle (sound_dispatchNext rest) (attaching_dispatchNext rest)

/-- A call that goes on with one rider to attach. -/
theorem FleetMove.picks {u : UserId} (hsound : pc'.Sound) (h : pc'.attaching = [u])
    (hd : pc'.dispatching = none) (hv : u ∈ pc.attaching ∨ c.Verified u) :
    FleetMove c pc c pc' := by
  refine .waited hsound (fun v hu => ?_) fun id v hpick => ?_
  · rw [h, List.mem_singleton] at hu
    exact hu ▸ hv
  · cases hd.symm.trans hpick

/-- A profile that is verified makes its user a verified rider. -/
theorem verified_of_findRider {u : UserId} {rider : Rider}
    (h : (findRider c.riders u).map (·.2) = some rider) (hv : rider.isVerified = true) :
    c.Verified u := by
  obtain ⟨⟨riderId, d⟩, hfind, rfl⟩ := Option.map_eq_some_iff.mp h
  obtain ⟨hget, huser⟩ := findRider_eq_some hfind
  exact ⟨riderId, d, hget, huser, hv⟩

theorem awaitsRider_of_assign {id : OrderId} {o o' : Order} {u : UserId} {now : Time}
    (hget : c.orders.get id = some o) (h : o.assignToRider u now = some o') :
    c.awaitsRider id = true ∧ o'.riderId = some u := by
  obtain ⟨hready, rfl⟩ := Order.assignToRider_eq_some h
  refine ⟨?_, rfl⟩
  rw [Fleet.awaitsRider, hget]
  exact decide_eq_true hready

/-- What `assignRiderByOwner` goes on to do. -/
theorem move_afterOwnerRider (requester : AccessTokenPayload) (id : OrderId) (u : UserId)
    (order : Order) (pc : FleetPc) :
    FleetMove c pc c (afterOwnerRider requester id u order
      ((findRider c.riders u).map (·.2))) := by
  cases hf : (findRider c.riders u).map (·.2) with
  | none => exact .idle trivial rfl
  | some rider =>
    simp only [afterOwnerRider]
    split
    · exact .idle trivial rfl
    · rename_i hv
      rw [not_not] at hv
      have hverified := verified_of_findRider hf hv
      split
      · exact .picks trivial rfl rfl (Or.inr hverified)
      · split
        · split
          · exact .idle trivial rfl
          · exact .picks trivial rfl rfl (Or.inr hverified)
        · exact .idle trivial rfl

/-- What a dispatch goes on to do with the candidates. -/
theorem move_afterBusy (id : OrderId) (candidates : List RiderCandidate) (rest : List OrderId) :
    FleetMove c (.dispatchBusy id candidates rest) c
      (afterBusy id rest (freeCandidates c.orders candidates)) := by
  cases hf : freeCandidates c.orders candidates with
  | nil => exact .next rest
  | cons candidate more =>
    have hmem : candidate ∈ freeCandidates c.orders candidates := by
      rw [hf]
      exact List.mem_cons_self
    obtain ⟨hcandidate, hfree⟩ := free_of_freeCandidates hmem
    refine .waited trivial (fun u hu => ?_) fun id' u hd => ?_
    · obtain rfl := List.mem_singleton.mp hu
      exact Or.inl (List.mem_map_of_mem hcandidate)
    · cases hd
      exact fun other d _ hd => hfree other d hd

/-- **Every step is one of the moves.** -/
theorem fleet_move (h : fleetStep distanceMeters c pc r = some (c', pc')) :
    FleetMove c pc c' pc' := by
  rw [fleetStep] at h
  split at h
  · obtain ⟨_, _, he⟩ := Option.map_eq_some_iff.mp h
    cases he
    rcases onFailure_cases pc with ⟨rest, hnext⟩ | hthrew
    · rw [hnext]
      exact .next rest
    · rw [hthrew]
      exact .idle trivial rfl
  cases pc with
  | applyFind requester dto =>
    simp only [fleetCall] at h
    split at h
    · cases h
      exact .idle trivial rfl
    · split at h <;> cases h <;> exact .idle trivial rfl
  | applyProfile requester dto =>
    simp only [fleetCall] at h
    split at h <;> cases h <;> exact .idle trivial rfl
  | applyCreate requester dto =>
    simp only [fleetCall] at h
    split at h
    · cases h
      exact .idle trivial rfl
    · rename_i hnone
      cases h
      exact .applied fun id rider hget => findRider_eq_none hnone hget
  | applyRole =>
    cases h
    exact .idle trivial rfl
  | verifyRead riderId =>
    simp only [fleetCall] at h
    split at h
    · cases h
      exact .idle trivial rfl
    · split at h <;> cases h <;> exact .idle trivial rfl
  | verifySave riderId =>
    cases h
    exact .verified
  | toggleRead userId =>
    simp only [fleetCall] at h
    split at h <;> cases h <;> exact .idle trivial rfl
  | toggleSave riderId isOnline =>
    cases h
    exact .toggled
  | assertVerified u id =>
    simp only [fleetCall] at h
    cases hf : (findRider c.riders u).map (·.2) with
    | none =>
      rw [hf] at h
      cases h
      exact .idle trivial rfl
    | some rider =>
      rw [hf, RidersService.assertVerified] at h
      by_cases hv : rider.isVerified = true
      · rw [if_pos hv] at h
        cases h
        exact .picks trivial rfl rfl (Or.inr (verified_of_findRider hf hv))
      · rw [if_neg hv] at h
        cases h
        exact .idle trivial rfl
  | assign u id =>
    simp only [fleetCall] at h
    split at h
    · cases h
      exact .idle trivial rfl
    · rename_i o hget
      split at h
      · rename_i o₁ ha
        cases h
        obtain ⟨hawaits, ho⟩ := awaitsRider_of_assign hget (assignToRider_eq_ok.mp ha)
        exact .attached hget (if_pos hawaits) (List.mem_singleton_self u) ho trivial rfl
      · cases h
        exact .idle trivial rfl
  | ownerRead requester id u =>
    simp only [fleetCall] at h
    split at h <;> cases h <;> exact .idle trivial rfl
  | ownerAccess requester id u order =>
    simp only [fleetCall] at h
    split at h <;> cases h <;> exact .idle trivial rfl
  | ownerRider requester id u order =>
    cases h
    exact move_afterOwnerRider requester id u order _
  | reassign requester id u =>
    simp only [fleetCall] at h
    split at h
    · rename_i o₁ hw
      obtain ⟨o, hget, hr⟩ := Option.bind_eq_some_iff.mp hw
      cases h
      obtain ⟨hassigned, rfl⟩ := Order.reassignRider_eq_some hr
      refine .attached hget (if_pos ?_) (List.mem_singleton_self u) rfl trivial rfl
      rw [hget]
      exact decide_eq_true hassigned
    · cases h
      exact .idle trivial rfl
  | sweepFind =>
    cases h
    exact .next _
  | dispatchSeller id rest =>
    simp only [fleetCall] at h
    split at h
    · cases h
      exact .next rest
    · cases h
      exact .next rest
    · cases h
      exact .idle trivial rfl
  | dispatchNear id near rest =>
    simp only [fleetCall] at h
    split at h
    · cases h
      exact .next rest
    · cases h
      refine .waited trivial (fun u hu => ?_) (by rintro _ _ ⟨⟩)
      obtain ⟨candidate, hmem, rfl⟩ := List.mem_map.mp hu
      exact Or.inr (verified_of_nearbyRiders hmem)
  | dispatchBusy id candidates rest =>
    cases h
    exact move_afterBusy id candidates rest
  | dispatchAssign id u rest =>
    simp only [fleetCall] at h
    split at h
    · rename_i o₁ hw
      obtain ⟨o, hget, ha⟩ := Option.bind_eq_some_iff.mp hw
      cases h
      obtain ⟨hawaits, ho⟩ := awaitsRider_of_assign hget ha
      exact .attached hget (if_pos hawaits) (List.mem_singleton_self u) ho
        (sound_dispatchNext rest) (attaching_dispatchNext rest)
    · cases h
      exact .next rest
  | onOrder id q =>
    simp only [fleetCall] at h
    split at h
    · cases h
      cases q <;> exact .idle trivial rfl
    · rename_i o hget
      obtain ⟨⟨o₁, q₁⟩, hstep, he⟩ := Option.map_eq_some_iff.mp h
      cases he
      exact .moved hget hstep
  | returned => cases h
  | rejected error => cases h
  | threw => cases h

/-! ## Calls that attach no rider -/

theorem placed_not_active : OrderStatus.placed ∉ activeDeliveryStatuses := by decide

theorem refunded_not_active : OrderStatus.refunded ∉ activeDeliveryStatuses := by decide

theorem active_cases {t : OrderStatus} (h : t ∈ activeDeliveryStatuses) :
    t = .assignedToRider ∨ t ∈ deliverySteps := by
  revert t
  decide

theorem refundable_not_active {t : OrderStatus} (h : t ∈ refundableStatuses) :
    t ∉ activeDeliveryStatuses := by
  revert t
  decide

/-- **A call that attaches no rider leaves the rider of its order, and makes it an active
delivery only as a rider's progress.** -/
theorem order_of_clientStep {o o' : Order} {q q' : ClientPc} {reply : ClientReply}
    (ha : q.attaches = false) (hq : q.Sound) (h : clientStep o q reply = some (o', q')) :
    q'.attaches = false ∧ o'.riderId = o.riderId ∧ (o'.status ∈ activeDeliveryStatuses →
      o.status ∈ activeDeliveryStatuses ∨
        ∃ u t, q = .riderSave u t ∧ t ∈ activeDeliveryStatuses) := by
  cases q with
  | assign u => cases ha
  | choiceRead requester u => cases ha
  | choiceWrite requester u choice => cases ha
  | ownerRead requester t =>
    simp only [clientStep, settleCall, Option.some.injEq] at h
    split at h <;> cases h <;> exact ⟨rfl, rfl, Or.inl⟩
  | ownerSave requester t =>
    cases h
    obtain ⟨ready, he⟩ := Order.saveOwnerTransition_eq o reply.now t requester.sub
    rw [he]
    refine ⟨rfl, rfl, ?_⟩
    intro hactive
    rcases active_cases hactive with ht | ht
    · exact absurd ht hq.2
    · exact absurd ht hq.1
  | riderRead u t =>
    simp only [clientStep, settleCall, Option.some.injEq] at h
    split at h <;> cases h <;> exact ⟨rfl, rfl, Or.inl⟩
  | riderSave u t =>
    cases h
    rw [Order.saveRiderTransition_eq]
    exact ⟨rfl, rfl, fun hactive => Or.inr ⟨u, t, rfl, hactive⟩⟩
  | markPaid =>
    cases h
    rw [OrdersService.markPaidFromWebhook]
    cases hp : o.markPaidFromWebhook reply.now with
    | none => exact ⟨rfl, rfl, Or.inl⟩
    | some o₁ =>
      obtain ⟨_, rfl⟩ := Order.markPaidFromWebhook_eq_some hp
      exact ⟨rfl, rfl, fun hactive => absurd hactive placed_not_active⟩
  | claim =>
    simp only [clientStep] at h
    split at h
    · rename_i o₁ hc
      cases h
      obtain ⟨_, rfl⟩ := Order.claimForRefund_eq_some.mp hc
      exact ⟨rfl, rfl, fun hactive => absurd hactive refunded_not_active⟩
    · cases h
      exact ⟨rfl, rfl, Or.inl⟩
  | refunding previousStatus =>
    cases h
    refine ⟨?_, rfl, Or.inl⟩
    show ClientPc.attaches (if reply.refunded then .finalizeRead else .revert previousStatus) = _
    split <;> rfl
  | revert previousStatus =>
    cases h
    cases hr : o.revertFailedRefundClaim previousStatus with
    | none => exact ⟨rfl, rfl, Or.inl⟩
    | some o₁ =>
      obtain ⟨_, rfl⟩ := Order.revertFailedRefundClaim_eq_some.mp hr
      have hback : previousStatus ∉ activeDeliveryStatuses := refundable_not_active hq
      exact ⟨rfl, rfl, fun hactive => absurd hactive hback⟩
  | finalizeRead =>
    cases h
    exact ⟨rfl, rfl, Or.inl⟩
  | finalizeSave =>
    cases h
    exact ⟨rfl, rfl, Or.inl⟩
  | returned => cases h
  | rejected error => cases h

/-- A step keeps a call sound. -/
theorem FleetMove.sound (hm : FleetMove c pc c' pc') (h : pc.Sound) : pc'.Sound := by
  cases hm with
  | waited hsound _ _ => exact hsound
  | applied _ => trivial
  | verified => trivial
  | toggled => trivial
  | attached _ _ _ _ hsound _ => exact hsound
  | moved _ hstep => exact ⟨(order_of_clientStep h.1 h.2 hstep).1, sound_of_step h.2 hstep⟩

theorem attaching_start (k : FleetRequest) : (start k).attaching = [] := by
  cases k with
  | apply requester dto =>
    simp only [start]
    split <;> rfl
  | _ => rfl

theorem sound_start (k : FleetRequest) : (start k).Sound := by
  cases k with
  | apply requester dto =>
    simp only [start]
    split <;> trivial
  | updateStatusByOwner requester id t => exact ⟨rfl, trivial⟩
  | updateStatusByRider u id t => exact ⟨rfl, trivial⟩
  | markPaidFromWebhook id => exact ⟨rfl, trivial⟩
  | refund id => exact ⟨rfl, trivial⟩
  | _ => trivial

end Moves

end FoodDelivery
