import FoodDelivery.Orders.History
import FoodDelivery.Payouts.Earnings

/-!
# Who delivered

The rider of record is the one the order's `riderId` names, and gets the delivery fee.
`updateStatusByRider` checks on the order it read that the caller is that rider, and saves; the
owner may move the order to another rider in between.

* `delivered_by_rider_iff`: delivery entries stay those of the rider of record exactly when
  every such save comes while the saving rider is still the rider of record.
* `picked_up_by_another`: one rider picks the order up, and another is paid for it.
-/

namespace FoodDelivery

open Interleave OrdersService PayoutsService

/-- The statuses that a rider's progress enters. -/
def deliverySteps : List OrderStatus := [.pickedUp, .outForDelivery, .delivered]

theorem mem_deliverySteps {t : OrderStatus} :
    t ∈ deliverySteps ↔ t = .pickedUp ∨ t = .outForDelivery ∨ t = .delivered := by
  simp [deliverySteps]

theorem assigned_not_delivery : OrderStatus.assignedToRider ∉ deliverySteps := by decide

theorem assigned_not_refundable : OrderStatus.assignedToRider ∉ refundableStatuses := by decide

namespace Order

/-- Every delivery entry of the history is the rider of record's. -/
def DeliveredByRider (o : Order) : Prop :=
  ∀ entry ∈ o.statusHistory, entry.status ∈ deliverySteps →
    ∃ riderUserId, o.riderId = some riderUserId ∧ entry.actor = .user riderUserId

/-- The delivery fee is owed to whoever delivered. -/
def CreditsDeliverer (o : Order) : Prop :=
  ∀ riderUserId, isUnpaidRiderOrder riderUserId o = true →
    ∀ entry ∈ o.statusHistory, entry.status = .delivered → entry.actor = .user riderUserId

/-- Besides, an order that was picked up can not be moved to another rider. -/
structure OnItsWay (o : Order) : Prop where
  record : o.DeliveredByRider
  moving : ∀ entry ∈ o.statusHistory, entry.status ∈ deliverySteps → o.status ≠ .assignedToRider

end Order

/-- A rider's progress is saved while the order is still that rider's. -/
def SavesOwnDelivery (s : OrderClients) : ClientEvent → Bool
  | .run i _ =>
    match s.procs[i]? with
    | some (.riderSave riderUserId _) => decide (s.shared.riderId = some riderUserId)
    | _ => true
  | _ => true

namespace ClientPc

/-- What a call may still write: delivery steps only as a rider, an assignment only through
a guarded update, and a refundable status when a refund fails. -/
def Sound : ClientPc → Prop
  | .ownerSave _ targetStatus => targetStatus ∉ deliverySteps ∧ targetStatus ≠ .assignedToRider
  | .riderSave _ targetStatus => targetStatus ∈ deliverySteps
  | .refunding previousStatus => previousStatus ∈ refundableStatuses
  | .revert previousStatus => previousStatus ∈ refundableStatuses
  | _ => True

end ClientPc

section Writes

variable {o o' : Order} {entry : StatusHistoryEntry}

theorem Order.DeliveredByRider.credits (h : o.DeliveredByRider) : o.CreditsDeliverer := by
  intro riderUserId howed entry hentry hdelivered
  obtain ⟨u, hu, hactor⟩ := h entry hentry (by rw [hdelivered]; decide)
  rw [isUnpaidRiderOrder, Bool.and_eq_true, Bool.and_eq_true, decide_eq_true_eq] at howed
  obtain rfl := Option.some.inj (hu.symm.trans howed.1.1)
  exact hactor

/-- A write that enters no delivery step. -/
theorem Order.OnItsWay.push (h : o.OnItsWay) (hhist : o'.statusHistory = o.statusHistory ++ [entry])
    (hentry : entry.status ∉ deliverySteps) (hrider : o'.riderId = o.riderId)
    (hstatus : o'.status = .assignedToRider → o.status = .assignedToRider) : o'.OnItsWay := by
  have old : ∀ e ∈ o'.statusHistory, e.status ∈ deliverySteps → e ∈ o.statusHistory := by
    intro e he hs
    rw [hhist] at he
    rcases List.mem_append.mp he with he | he
    · exact he
    · rw [List.mem_singleton.mp he] at hs
      exact absurd hs hentry
  refine ⟨?_, fun e he hs => mt hstatus (h.moving e (old e he hs) hs)⟩
  intro e he hs
  rw [hrider]
  exact h.record e (old e he hs) hs

/-- A write that leaves the history alone. -/
theorem Order.OnItsWay.of_same (h : o.OnItsWay) (hhist : o'.statusHistory = o.statusHistory)
    (hrider : o'.riderId = o.riderId)
    (hstatus : o'.status = .assignedToRider → o.status = .assignedToRider) : o'.OnItsWay := by
  refine ⟨?_, ?_⟩
  · intro e he hs
    rw [hrider]
    exact h.record e (hhist ▸ he) hs
  · intro e he hs
    exact mt hstatus (h.moving e (hhist ▸ he) hs)

/-- An order that was not picked up yet. -/
theorem Order.OnItsWay.of_untouched (h : ∀ e ∈ o.statusHistory, e.status ∉ deliverySteps) :
    o.OnItsWay :=
  ⟨fun e he hs => absurd hs (h e he), fun e he hs => absurd hs (h e he)⟩

/-- A write to an order that was not picked up yet. -/
theorem Order.OnItsWay.of_push (h : ∀ e ∈ o.statusHistory, e.status ∉ deliverySteps)
    (hhist : o'.statusHistory = o.statusHistory ++ [entry])
    (hentry : entry.status ∉ deliverySteps) : o'.OnItsWay := by
  refine .of_untouched fun e he => ?_
  rw [hhist] at he
  rcases List.mem_append.mp he with he | he
  · exact h e he
  · rw [List.mem_singleton.mp he]
    exact hentry

theorem onItsWay_assigned {riderUserId : UserId} {now : Time} (h : o.OnItsWay)
    (ha : o.assignToRider riderUserId now = some o') : o'.OnItsWay := by
  obtain ⟨⟨_, hnone⟩, rfl⟩ := Order.assignToRider_eq_some ha
  refine .of_push (fun e he hs => ?_) rfl assigned_not_delivery
  obtain ⟨u, hu, _⟩ := h.record e he hs
  cases hnone.symm.trans hu

theorem onItsWay_reassigned {riderUserId requester : UserId} {now : Time} (h : o.OnItsWay)
    (ha : o.reassignRider riderUserId requester now = some o') : o'.OnItsWay := by
  obtain ⟨hassigned, rfl⟩ := Order.reassignRider_eq_some ha
  exact .of_push (fun e he hs => h.moving e he hs hassigned) rfl assigned_not_delivery

/-- A rider saves progress on an order that is still that rider's. -/
theorem onItsWay_progressed {riderUserId : UserId} {t : OrderStatus} {now : Time}
    (h : o.OnItsWay) (ht : t ∈ deliverySteps) (hrider : o.riderId = some riderUserId) :
    (o.saveRiderTransition t riderUserId now).OnItsWay := by
  have hne : t ≠ .assignedToRider := by
    rintro rfl
    exact assigned_not_delivery ht
  rw [Order.saveRiderTransition_eq]
  refine ⟨?_, fun e he hs => hne⟩
  intro e he hs
  rcases List.mem_append.mp he with he | he
  · exact h.record e he hs
  · rw [List.mem_singleton.mp he]
    exact ⟨riderUserId, hrider, rfl⟩

/-- A rider's progress on an order that is another rider's meanwhile. -/
theorem not_deliveredByRider {riderUserId : UserId} {t : OrderStatus} {now : Time}
    (ht : t ∈ deliverySteps) (hrider : o.riderId ≠ some riderUserId) :
    ¬ (o.saveRiderTransition t riderUserId now).DeliveredByRider := by
  intro h
  rw [Order.saveRiderTransition_eq] at h
  obtain ⟨u, hu, hactor⟩ := h ⟨t, now, .user riderUserId⟩
    (List.mem_append_right _ (List.mem_singleton_self _)) ht
  cases hactor
  exact hrider hu

end Writes

/-! ## One step -/

/-- **One step keeps a call sound.** -/
theorem sound_of_step {o o' : Order} {pc pc' : ClientPc} {r : ClientReply} (hpc : pc.Sound)
    (hs : clientStep o pc r = some (o', pc')) : pc'.Sound := by
  cases pc with
  | ownerRead requester t =>
    simp only [clientStep, settleCall, Option.some.injEq] at hs
    split at hs
    · rename_i hc
      cases hs
      rcases canOwnerTransition_tgt _ _ (canOwnerTransition_of_check hc) with rfl | rfl | rfl | rfl
      all_goals exact ⟨by decide, by decide⟩
    · cases hs
      trivial
  | riderRead riderUserId t =>
    simp only [clientStep, settleCall, Option.some.injEq] at hs
    split at hs
    · rename_i hc
      cases hs
      exact mem_deliverySteps.mpr (canRiderTransition_tgt _ _ (checkRiderTransition_eq_ok.mp hc).2)
    · cases hs
      trivial
  | assign riderUserId =>
    simp only [clientStep, settleCall, Option.some.injEq] at hs
    split at hs <;> cases hs <;> trivial
  | choiceRead requester riderUserId =>
    simp only [clientStep, settleCall, Option.some.injEq] at hs
    split at hs <;> cases hs <;> trivial
  | choiceWrite requester riderUserId choice =>
    simp only [clientStep, settleCall, Option.some.injEq] at hs
    split at hs <;> cases hs <;> trivial
  | claim =>
    simp only [clientStep] at hs
    split at hs
    · rename_i o₁ hc
      cases hs
      obtain ⟨⟨hst, _⟩, rfl⟩ := Order.claimForRefund_eq_some.mp hc
      exact hst
    · cases hs
      trivial
  | refunding previousStatus =>
    cases hs
    show ClientPc.Sound (if r.refunded then .finalizeRead else .revert previousStatus)
    split
    · trivial
    · exact hpc
  | returned => cases hs
  | rejected error => cases hs
  | _ =>
    cases hs
    trivial

/-- **One step keeps the delivery entries those of the rider of record.** -/
theorem onItsWay_of_step {o o' : Order} {pc pc' : ClientPc} {r : ClientReply} (h : o.OnItsWay)
    (hpc : pc.Sound) (hown : ∀ riderUserId t, pc = .riderSave riderUserId t →
      o.riderId = some riderUserId) (hs : clientStep o pc r = some (o', pc')) : o'.OnItsWay := by
  cases pc with
  | ownerRead requester t =>
    simp only [clientStep, settleCall, Option.some.injEq] at hs
    split at hs <;> cases hs <;> exact h
  | ownerSave requester t =>
    cases hs
    obtain ⟨ready, he⟩ := Order.saveOwnerTransition_eq o r.now t requester.sub
    rw [he]
    exact h.push rfl hpc.1 rfl fun ht => absurd ht hpc.2
  | riderRead riderUserId t =>
    simp only [clientStep, settleCall, Option.some.injEq] at hs
    split at hs <;> cases hs <;> exact h
  | riderSave riderUserId t =>
    cases hs
    exact onItsWay_progressed h hpc (hown riderUserId t rfl)
  | assign riderUserId =>
    simp only [clientStep, settleCall, Option.some.injEq] at hs
    split at hs
    · rename_i o₁ ha
      cases hs
      exact onItsWay_assigned h (assignToRider_eq_ok.mp ha)
    · cases hs
      exact h
  | choiceRead requester riderUserId =>
    simp only [clientStep, settleCall, Option.some.injEq] at hs
    split at hs <;> cases hs <;> exact h
  | choiceWrite requester riderUserId choice =>
    simp only [clientStep, settleCall, Option.some.injEq] at hs
    split at hs
    · rename_i o₁ ha
      cases hs
      cases choice with
      | assign => exact onItsWay_assigned h (assignToRider_eq_ok.mp ha)
      | reassign =>
        simp only [applyRiderChoice] at ha
        split at ha
        · rename_i o₂ hr
          cases ha
          exact onItsWay_reassigned h hr
        · cases ha
    · cases hs
      exact h
  | markPaid =>
    cases hs
    rw [OrdersService.markPaidFromWebhook]
    cases hp : o.markPaidFromWebhook r.now with
    | none => exact h
    | some o₁ =>
      obtain ⟨_, rfl⟩ := Order.markPaidFromWebhook_eq_some hp
      have hplaced : OrderStatus.placed ∉ deliverySteps := by decide
      exact h.push rfl hplaced rfl fun ht => by cases ht
  | claim =>
    simp only [clientStep] at hs
    split at hs
    · rename_i o₁ hc
      cases hs
      obtain ⟨_, rfl⟩ := Order.claimForRefund_eq_some.mp hc
      exact h.of_same rfl rfl (by rintro ⟨⟩)
    · cases hs
      exact h
  | refunding previousStatus =>
    cases hs
    exact h
  | revert previousStatus =>
    cases hs
    cases hr : o.revertFailedRefundClaim previousStatus with
    | none => exact h
    | some o₁ =>
      obtain ⟨_, rfl⟩ := Order.revertFailedRefundClaim_eq_some.mp hr
      have hne : previousStatus ≠ .assignedToRider := by
        rintro rfl
        exact absurd hpc assigned_not_refundable
      exact h.of_same rfl rfl fun he => absurd he hne
  | finalizeRead =>
    cases hs
    exact h
  | finalizeSave =>
    cases hs
    have hrefunded : OrderStatus.refunded ∉ deliverySteps := by decide
    exact h.push rfl hrefunded rfl id
  | returned => cases hs
  | rejected error => cases hs

/-! ## Every run -/

/-- The order keeps its deliverer, and every call is sound. -/
def deliveryOutline : Outline Order ClientPc where
  shared := Order.OnItsWay
  proc _ pc := pc.Sound
  compat _ _ := True
  symm _ _ _ := trivial

theorem delivery_kept :
    deliveryOutline.Kept clients (fun s e => SavesOwnDelivery s e = true) fun _ => True where
  spawn s k _ _ _ := by
    refine ⟨?_, fun _ _ => trivial⟩
    cases k <;> trivial
  run s i r pc o' pc' _ hok hs hp hstep := by
    have hown : ∀ riderUserId t, pc = .riderSave riderUserId t →
        s.shared.riderId = some riderUserId := by
      rintro riderUserId t rfl
      rw [SavesOwnDelivery, hp] at hok
      exact of_decide_eq_true hok
    exact ⟨onItsWay_of_step hs.shared (hs.at hp) hown hstep, sound_of_step (hs.at hp) hstep,
      fun j q _ _ hq _ => ⟨hq, trivial⟩⟩
  env s e := e.elim

/-- A save over another rider's order breaks the record at once. -/
theorem not_delivered_of_save {s s' : OrderClients} {e : ClientEvent}
    (hs : deliveryOutline.Holds s) (he : ¬ SavesOwnDelivery s e = true)
    (hnext : clients.next s e = some s') : ¬ s'.shared.DeliveredByRider := by
  cases e with
  | spawn k => exact absurd rfl he
  | env a => exact a.elim
  | run i r =>
    obtain ⟨pc, o', pc', hp, hstep, rfl⟩ := Machine.next_run hnext
    rw [SavesOwnDelivery, hp] at he
    cases pc with
    | riderSave riderUserId t =>
      cases hstep
      exact not_deliveredByRider (hs.at hp) fun hrider => he (decide_eq_true hrider)
    | _ => exact absurd rfl he

/-- **Whoever progressed the delivery stays the rider of record, and is owed the fee, exactly
when every save of a rider's progress comes while the order is still that rider's**: for any
number of clients of an order and any interleaving of their steps. -/
theorem delivered_by_rider_iff {seller : Seller} {customer : UserId} {now : Time}
    {currency : String} {provider : PaymentProvider} {fee total amount : Price}
    (es : List ClientEvent) {s : OrderClients}
    (hs : clients.exec ⟨.created seller customer now currency provider fee total amount, []⟩ es =
      some s) :
    (∀ p t, p <+: es → clients.exec
        ⟨.created seller customer now currency provider fee total amount, []⟩ p = some t →
        t.shared.DeliveredByRider ∧ t.shared.CreditsDeliverer) ↔
      ∀ p e t, p ++ [e] <+: es → clients.exec
        ⟨.created seller customer now currency provider fee total amount, []⟩ p = some t →
        SavesOwnDelivery t e = true := by
  refine Machine.exec_good_iff (I := deliveryOutline.Holds)
    (G := fun s => s.shared.DeliveredByRider ∧ s.shared.CreditsDeliverer)
    (C := fun s e => SavesOwnDelivery s e = true) (fun s h => ?_) (fun s e s' h he hnext => ?_)
    (fun s e s' h he hnext hgood => ?_) es _ s ?_ hs
  · exact ⟨h.shared.record, h.shared.record.credits⟩
  · exact delivery_kept.next trivial h he hnext
  · exact not_delivered_of_save h he hnext hgood.1
  · refine Outline.holds_nil (Order.OnItsWay.of_untouched fun e he => ?_)
    rw [List.mem_singleton.mp he]
    show OrderStatus.pendingPayment ∉ deliverySteps
    decide

section Runs

/-- The order is paid and prepared, and rider 7 takes it. -/
def takenRun : List ClientEvent :=
  [.spawn .markPaidFromWebhook, clientTurn 0,
    .spawn (.updateStatusByOwner ⟨1, .restaurantOwner⟩ .acceptedByRestaurant), clientTurn 1,
    clientTurn 1, .spawn (.updateStatusByOwner ⟨1, .restaurantOwner⟩ .preparing), clientTurn 2,
    clientTurn 2, .spawn (.updateStatusByOwner ⟨1, .restaurantOwner⟩ .readyForPickup),
    clientTurn 3, clientTurn 3, .spawn (.assignToRider 7), clientTurn 4]

/-- The owner gives it to rider 8, who picks it up. -/
def reassignedRun : List ClientEvent :=
  takenRun ++ [.spawn (.assignRiderByOwner ⟨1, .restaurantOwner⟩ 8), clientTurn 5, clientTurn 5,
    .spawn (.updateStatusByRider 8 .pickedUp), clientTurn 6, clientTurn 6]

theorem delivered_by_rider_reassigned : ∃ s : OrderClients,
    clients.exec ⟨freshOrder, []⟩ reassignedRun = some s ∧ s.shared.status = .pickedUp ∧
      s.shared.DeliveredByRider ∧ s.shared.CreditsDeliverer := by
  obtain ⟨s, hs, hall, hp⟩ := exists_clientRun SavesOwnDelivery
    (fun s => decide (s.shared.status = .pickedUp)) reassignedRun (by decide +kernel)
  exact ⟨s, hs, of_decide_eq_true hp,
    (delivered_by_rider_iff reassignedRun hs).mpr hall _ s List.prefix_rfl hs⟩

/-- The owner gives it to rider 8 between the check and the save of rider 7's pickup. -/
def pickedUpByAnotherRun : List ClientEvent :=
  takenRun ++ [.spawn (.updateStatusByRider 7 .pickedUp), clientTurn 5,
    .spawn (.assignRiderByOwner ⟨1, .restaurantOwner⟩ 8), clientTurn 6, clientTurn 6, clientTurn 5]

/-- **One rider picks the order up, and it is another's**, who will be paid for it. -/
theorem picked_up_by_another :
    ¬ ∀ (seller : Seller) (customer : UserId) (now : Time) (currency : String)
      (provider : PaymentProvider) (fee total amount : Price) (es : List ClientEvent)
      (s : OrderClients),
      clients.exec ⟨.created seller customer now currency provider fee total amount, []⟩ es =
        some s → s.shared.DeliveredByRider := by
  intro hall
  obtain ⟨s, hs, _, hp⟩ := exists_clientRun (fun _ _ => true)
    (fun s => decide (s.shared.riderId = some 8) &&
      s.shared.statusHistory.contains ⟨.pickedUp, 0, .user 7⟩)
    pickedUpByAnotherRun (by decide +kernel)
  rw [Bool.and_eq_true, decide_eq_true_eq, List.contains_iff_mem] at hp
  obtain ⟨hrider, hentry⟩ := hp
  obtain ⟨u, hu, hactor⟩ := hall _ _ _ _ _ _ _ _ _ s hs _ hentry (by decide)
  cases hactor
  cases hrider.symm.trans hu

end Runs

end FoodDelivery
