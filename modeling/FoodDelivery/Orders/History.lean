import Mathlib.Data.List.Chain
import FoodDelivery.Orders.Clients

/-!
# The history of an order

Every change of status should follow the lifecycle graph, in any run of any number of
clients.

* `Lawful`: consecutive entries of the history are edges of the graph or a
  reassignment, and the status is the last entry unless the order is claimed for a
  refund.
* `SavesInOrder`: a save of a transition finds the order at a status from which the
  graph allows it.
* `history_lawful_iff`: along a run all states are lawful if and only if all its saves
  are in order.
* `accepted_after_cancelled`: an owner and an admin who have both read the order as
  placed.
-/

namespace FoodDelivery

open Interleave

/-- An edge of `ORDER_TRANSITIONS`, or the move to another rider. -/
def Edge (s t : OrderStatus) : Prop :=
  canTransition s t = true ∨ (s = .assignedToRider ∧ t = .assignedToRider)

/-- The history follows the graph, nothing but a refund follows a cancellation, and the
stored status is the last entry, except while a client holds the claim for a refund. -/
structure Lawful (s : OrderClients) : Prop where
  edges : s.shared.statuses.IsChain Edge
  cancelled : ∀ before after : List OrderStatus,
    s.shared.statuses = before ++ .cancelled :: after → ∀ t ∈ after, t = .refunded
  status : s.shared.statuses.getLast? = some s.shared.status ∨
    (s.shared.status = .refunded ∧ ∃ p ∈ s.procs, p.claims = true)

/-- A transition that is saved is an edge of the graph from the stored status. -/
def SavesInOrder (s : OrderClients) : ClientEvent → Bool
  | .run i _ =>
    match s.procs[i]? with
    | some p => p.saving.all fun t => canTransition s.shared.status t
    | none => true
  | _ => true

/-! ## The invariant -/

/-- A claimed order shows as refunded; its last entry is the status the refund started
from. -/
structure Claimed (o : Order) (p : ClientPc) : Prop where
  status : o.status = .refunded
  paid : o.paymentStatus = .succeeded
  last : ∃ prev ∈ refundableStatuses, o.statuses.getLast? = some prev ∧
    ∀ t, p.previousStatus = some t → t = prev

structure ClientKnows (o : Order) (p : ClientPc) : Prop where
  claimed : p.claims = true → Claimed o p
  saving : ∀ t, p.saving = some t → t ≠ .assignedToRider ∧ t ≠ .refunded

/-- The history follows the graph, and no two clients hold the claim. -/
def historyOutline : Outline Order ClientPc where
  shared o := o.statuses.IsChain Edge
  proc := ClientKnows
  compat p q := ¬ (p.claims = true ∧ q.claims = true)
  symm _ _ h hpq := h hpq.symm

/-- Where the status is not the last entry, a client holds the claim. -/
def claimDuty : Duty Order ClientPc Unit where
  due o _ := o.statuses.getLast? ≠ some o.status
  bearer p _ := p.claims = true

section Steps

variable {o o' : Order} {p p' q : ClientPc} {s : OrderClients} {i : Nat} {t : OrderStatus}

theorem getLast?_of_enters (h : o.Enters o' t) : o'.statuses.getLast? = some o'.status := by
  rw [h.statuses, List.getLast?_concat, h.status]

theorem isChain_of_enters (h : o.Enters o' t) (hc : o.statuses.IsChain Edge)
    (hlast : ∀ u, o.statuses.getLast? = some u → Edge u t) : o'.statuses.IsChain Edge := by
  rw [h.statuses, List.isChain_append]
  exact ⟨hc, List.isChain_singleton _, fun u hu v hv => by
    rw [List.head?_singleton, Option.mem_some_iff] at hv
    exact hv ▸ hlast u hu⟩

/-- While no client holds the claim the status is the last entry. -/
theorem settled_of_unclaimed (h : claimDuty.Borne s) (hno : ∀ q ∈ s.procs, q.claims = false) :
    s.shared.statuses.getLast? = some s.shared.status := by
  by_contra hdue
  obtain ⟨q, hq, hc⟩ := h () hdue
  cases (hno q hq).symm.trans hc

/-- An order that does not show as refunded is not claimed. -/
theorem unclaimed_of_status (h : historyOutline.Holds s) (hs : s.shared.status ≠ .refunded) :
    ∀ q ∈ s.procs, q.claims = false := by
  intro q hq
  rw [← Bool.not_eq_true]
  exact fun hc => hs ((h.procs q hq).claimed hc).status

/-- A status that is left along an edge is not `REFUNDED`. -/
theorem ne_refunded_of_edge {u : OrderStatus} (h : Edge u t) : u ≠ .refunded := by
  rintro rfl
  rcases h with h | ⟨h, _⟩
  · rw [canTransition_refunded] at h
    cases h
  · cases h

/-- The next status is entered from the stored one. -/
theorem outline_enters (h : historyOutline.Holds s) (hb : claimDuty.Borne s)
    (hedge : Edge s.shared.status t) (ho : s.shared.Enters o' t) (hc : p'.claims = false)
    (hs : p'.saving = none) :
    historyOutline.shared o' ∧ historyOutline.proc o' p' ∧ ∀ (j : Nat) (q : ClientPc), i ≠ j →
      s.procs[j]? = some q → historyOutline.proc s.shared q → historyOutline.compat p q →
        historyOutline.proc o' q ∧ historyOutline.compat p' q := by
  have hno := unclaimed_of_status h (ne_refunded_of_edge hedge)
  have hlast := settled_of_unclaimed hb hno
  refine ⟨isChain_of_enters ho h.shared fun u hu => ?_, ⟨fun hcl => ?_, fun t ht => ?_⟩,
    fun j q _ hj hq _ => ⟨⟨fun hcl => ?_, hq.saving⟩, fun hcl => ?_⟩⟩
  · rw [hlast] at hu
    exact Option.some.inj hu ▸ hedge
  · cases hc.symm.trans hcl
  · cases hs.symm.trans ht
  · cases (hno q (List.mem_of_getElem? hj)).symm.trans hcl
  · cases hc.symm.trans hcl.1

/-- The order is claimed for a refund. -/
theorem outline_claims (h : historyOutline.Holds s) (hb : claimDuty.Borne s)
    (hc : s.shared.claimForRefund = some o') :
    historyOutline.shared o' ∧ historyOutline.proc o' (.refunding s.shared.status) ∧
      ∀ (j : Nat) (q : ClientPc), i ≠ j → s.procs[j]? = some q → historyOutline.proc s.shared q →
        historyOutline.proc o' q ∧ historyOutline.compat (.refunding s.shared.status) q := by
  obtain ⟨⟨hstatus, hpaid, _⟩, rfl⟩ := Order.claimForRefund_eq_some.mp hc
  have hno := unclaimed_of_status h fun he => by
    rw [he] at hstatus
    exact absurd hstatus (by decide)
  have hlast := settled_of_unclaimed hb hno
  refine ⟨h.shared, ⟨fun _ => ⟨rfl, hpaid, _, hstatus, hlast, ?_⟩, by rintro _ ⟨⟩⟩,
    fun j q _ hj hq => ⟨⟨fun hcl => ?_, hq.saving⟩, fun hcl => ?_⟩⟩
  · intro t ht
    exact (Option.some.inj ht).symm
  · cases (hno q (List.mem_of_getElem? hj)).symm.trans hcl
  · cases (hno q (List.mem_of_getElem? hj)).symm.trans hcl.2

/-- What a failed refund leaves. -/
theorem reverted_eq (h : Claimed o (.revert t)) :
    (o.revertFailedRefundClaim t).getD o = { o with status := t } ∧
      o.statuses.getLast? = some t := by
  obtain ⟨prev, _, hlast, hprev⟩ := h.last
  obtain rfl := hprev t rfl
  refine ⟨?_, hlast⟩
  rw [Order.revertFailedRefundClaim, if_pos ⟨h.status, h.paid⟩, Option.getD_some]

/-- A client that holds the claim lets go of it. -/
theorem outline_settles (hc : p.claims = true) (ho : o'.statuses.IsChain Edge) :
    historyOutline.shared o' ∧ historyOutline.proc o' .returned ∧ ∀ (j : Nat) (q : ClientPc),
      i ≠ j → s.procs[j]? = some q → historyOutline.proc s.shared q → historyOutline.compat p q →
        historyOutline.proc o' q ∧ historyOutline.compat .returned q :=
  ⟨ho, ⟨by rintro ⟨⟩, by decide⟩, fun _ _ _ _ hq hapart =>
    ⟨⟨fun hcl => absurd ⟨hc, hcl⟩ hapart, hq.saving⟩, fun hcl => by cases hcl.1⟩⟩

/-- A call starts with neither a claim nor a save. -/
theorem start_idle (k : ClientRequest) : k.start.claims = false ∧ k.start.saving = none := by
  cases k <;> exact ⟨rfl, rfl⟩

/-- What the condition says of a save. -/
theorem edge_of_savesInOrder {r : ClientReply} (h : SavesInOrder s (.run i r) = true)
    (hp : s.procs[i]? = some p) (ht : p.saving = some t) :
    canTransition s.shared.status t = true := by
  simpa only [SavesInOrder, hp, ht, Option.all_some] using h

/-- **Saves in order keep the history on the graph.** -/
theorem outline_kept : historyOutline.Kept clients (fun s e => SavesInOrder s e = true)
    claimDuty.Borne where
  spawn s k _ _ _ := by
    obtain ⟨hc, hs⟩ := start_idle k
    exact ⟨⟨fun hcl => (by cases hc.symm.trans hcl),
      fun t ht => by cases hs.symm.trans ht⟩,
      fun q _ hcl => by cases hc.symm.trans hcl.1⟩
  env _ e := e.elim
  run s i r p o' p' hb hr h hp hs := by
    cases client_move hs with
    | idle hsaving hclaims hprev hsave =>
      refine ⟨h.shared, ⟨fun hc => ?_, hsave⟩, fun j q _ _ hq hapart =>
        ⟨hq, fun hc => hapart ⟨hclaims ▸ hc.1, hc.2⟩⟩⟩
      obtain ⟨hstatus, hpaid, prev, hmem, hlast, hp'⟩ := (h.at hp).claimed (hclaims ▸ hc)
      exact ⟨hstatus, hpaid, prev, hmem, hlast, fun t ht => hp' t (hprev t ht)⟩
    | saved ht hc hsave ho =>
      exact outline_enters h hb (Or.inl (edge_of_savesInOrder hr hp ht)) ho hc hsave
    | guarded _ _ hc hsave hedge ho => exact outline_enters h hb hedge ho hc hsave
    | claimed hc =>
      obtain ⟨hshared, hproc, hothers⟩ := outline_claims (i := i) h hb hc
      exact ⟨hshared, hproc, fun j q hij hj hq _ => hothers j q hij hj hq⟩
    | reverted t =>
      have hclaimed := (h.at hp).claimed rfl
      refine outline_settles rfl ?_
      rw [(reverted_eq hclaimed).1]
      exact h.shared
    | finalized now =>
      have hclaimed := (h.at hp).claimed rfl
      obtain ⟨prev, hmem, hlast, _⟩ := hclaimed.last
      refine outline_settles rfl
        (isChain_of_enters (enters_saveFinalizedRefund hclaimed.status now) h.shared fun u hu => ?_)
      obtain rfl := Option.some.inj (hlast.symm.trans hu)
      exact Or.inl (canTransition_to_refunded _ hmem)

/-- **The status is the last entry, or a client holds the claim.** -/
theorem duty_kept : claimDuty.Kept clients (fun _ _ => True) historyOutline.Holds where
  env _ e := e.elim
  run s i r p o' p' h hb _ hp hs x hdue := by
    cases client_move hs with
    | idle _ hclaims =>
      cases hc : p.claims with
      | true => exact Or.inl (hclaims.trans hc)
      | false => exact Or.inr (hb.elsewhere hp hdue fun hc' => by cases hc.symm.trans hc')
    | saved _ _ _ ho => exact absurd (getLast?_of_enters ho) hdue
    | guarded _ _ _ _ _ ho => exact absurd (getLast?_of_enters ho) hdue
    | claimed => exact Or.inl rfl
    | reverted t =>
      refine absurd ?_ hdue
      obtain ⟨heq, hlast⟩ := reverted_eq ((h.at hp).claimed rfl)
      rw [heq]
      exact hlast
    | finalized now =>
      have hclaimed := (h.at hp).claimed rfl
      exact absurd (getLast?_of_enters (enters_saveFinalizedRefund hclaimed.status now)) hdue

/-- What nothing but a refund follows. -/
theorem refunded_after_cancelled {l before after : List OrderStatus} (h : l.IsChain Edge)
    (hl : l = before ++ .cancelled :: after) : ∀ t ∈ after, t = .refunded := by
  subst hl
  have hchain : (OrderStatus.cancelled :: after).IsChain Edge := h.right_of_append
  cases after with
  | nil => exact fun t ht => absurd ht List.not_mem_nil
  | cons u rest =>
    rw [List.isChain_cons_cons] at hchain
    obtain ⟨hedge, hrest⟩ := hchain
    have hu : u = .refunded := by
      rcases hedge with hedge | ⟨hc, _⟩
      · exact eq_refunded_of_canTransition _ (by decide) _ hedge
      · cases hc
    subst hu
    cases rest with
    | nil => exact fun t ht => List.mem_singleton.mp ht
    | cons v rest =>
      rw [List.isChain_cons_cons] at hrest
      exact absurd rfl (ne_refunded_of_edge hrest.1)

theorem lawful_of_holds (h : historyOutline.Holds s) (hb : claimDuty.Borne s) : Lawful s where
  edges := h.shared
  cancelled _ _ hl := refunded_after_cancelled h.shared hl
  status := by
    by_cases hlast : s.shared.statuses.getLast? = some s.shared.status
    · exact Or.inl hlast
    · obtain ⟨q, hq, hc⟩ := hb () hlast
      exact Or.inr ⟨((h.procs q hq).claimed hc).status, q, hq, hc⟩

/-- **A save out of order leaves the graph.** -/
theorem not_lawful_of_save {e : ClientEvent} {s' : OrderClients} (h : historyOutline.Holds s)
    (hb : claimDuty.Borne s) (he : SavesInOrder s e ≠ true) (hs : clients.next s e = some s') :
    ¬ Lawful s' := by
  intro hl
  cases e with
  | spawn k => exact he rfl
  | env e => exact e.elim
  | run i r =>
    obtain ⟨p, o', p', hp, hstep, rfl⟩ := Machine.next_run hs
    have hsave : ∃ t, p.saving = some t ∧ canTransition s.shared.status t = false := by
      simp only [SavesInOrder, hp] at he
      cases ht : p.saving with
      | none =>
        rw [ht] at he
        exact absurd rfl he
      | some t =>
        rw [ht, Option.all_some] at he
        exact ⟨t, rfl, Bool.eq_false_iff.mpr he⟩
    obtain ⟨t, ht, hno⟩ := hsave
    obtain ⟨hassigned, hrefunded⟩ := (h.at hp).saving t ht
    have ho : s.shared.Enters o' t := by
      cases client_move hstep with
      | idle hnone => cases hnone.symm.trans ht
      | saved ht' _ _ ho => exact Option.some.inj (ht'.symm.trans ht) ▸ ho
      | guarded hnone => cases hnone.symm.trans ht
      | claimed => cases ht
      | reverted => cases ht
      | finalized => cases ht
    have hedges := hl.edges
    rw [ho.statuses, List.isChain_append] at hedges
    by_cases hlast : s.shared.statuses.getLast? = some s.shared.status
    · rcases hedges.2.2 _ hlast t rfl with hedge | ⟨_, he⟩
      · cases hno.symm.trans hedge
      · exact hassigned he
    · obtain ⟨q, hq, hc⟩ := hb () hlast
      obtain ⟨prev, hmem, hprev, _⟩ := ((h.procs q hq).claimed hc).last
      rcases hedges.2.2 prev hprev t rfl with hedge | ⟨_, he⟩
      · exact hrefunded (eq_refunded_of_canTransition _ hmem _ hedge)
      · exact hassigned he

/-- **The history of an order is lawful all along a run if and only if every save of the
run is in order**: for any number of clients and any interleaving of their steps. -/
theorem history_lawful_iff {seller : Seller} {customer : UserId} {now : Time} {currency : String}
    {provider : PaymentProvider} {fee total amount : Price} (es : List ClientEvent)
    {s : OrderClients}
    (hs : clients.exec ⟨.created seller customer now currency provider fee total amount, []⟩ es =
      some s) :
    (∀ p t, p <+: es → clients.exec
        ⟨.created seller customer now currency provider fee total amount, []⟩ p = some t →
        Lawful t) ↔
      ∀ p e t, p ++ [e] <+: es → clients.exec
        ⟨.created seller customer now currency provider fee total amount, []⟩ p = some t →
        SavesInOrder t e = true := by
  refine Machine.exec_good_iff (I := fun s => historyOutline.Holds s ∧ claimDuty.Borne s)
    (G := Lawful) (C := fun s e => SavesInOrder s e = true)
    (fun s h => lawful_of_holds h.1 h.2)
    (fun s e s' h he hnext => ⟨outline_kept.next h.2 h.1 he hnext,
      duty_kept.next h.1 h.2 trivial hnext⟩)
    (fun s e s' h he hnext => not_lawful_of_save h.1 h.2 he hnext) es _ s ⟨?_, ?_⟩ hs
  · exact Outline.holds_nil (List.isChain_singleton _)
  · exact fun _ hdue => absurd rfl hdue

end Steps

section Runs

/-- A freshly created order. -/
def freshOrder : Order :=
  .created (.restaurant 1) 9 0 "USD" .stripe (.ofCents 200) (.ofCents 1500) (.ofCents 1000)

/-- Call `i` takes its next step; user 1 owns the seller, and the provider refunds. -/
def clientTurn (i : Nat) : ClientEvent := .run i ⟨⟨fun _ => some 1, fun _ => some true⟩, 0, true⟩

/-- A run on this order that checks out and ends as wanted. -/
theorem exists_clientRun (okb : OrderClients → ClientEvent → Bool) (P : OrderClients → Bool)
    (es : List ClientEvent) (h : (clients.play okb ⟨freshOrder, []⟩ es).any P = true) :
    ∃ s, clients.exec ⟨freshOrder, []⟩ es = some s ∧
      (∀ p e t, p ++ [e] <+: es → clients.exec ⟨freshOrder, []⟩ p = some t → okb t e = true) ∧
        P s = true :=
  Machine.exists_exec_of_play es h

/-- The order is paid, cancelled by its owner, and refunded. -/
def cancelledRun : List ClientEvent :=
  [.spawn .markPaidFromWebhook, clientTurn 0,
    .spawn (.updateStatusByOwner ⟨1, .restaurantOwner⟩ .cancelled), clientTurn 1, clientTurn 1,
    .spawn .refund, clientTurn 2, clientTurn 2, clientTurn 2, clientTurn 2]

theorem history_lawful_cancelled : ∃ s : OrderClients,
    clients.exec ⟨freshOrder, []⟩ cancelledRun = some s ∧
      s.shared.statuses = [.pendingPayment, .placed, .cancelled, .refunded] ∧ Lawful s := by
  obtain ⟨s, hs, hall, hp⟩ := exists_clientRun SavesInOrder
    (fun s => decide (s.shared.statuses = [.pendingPayment, .placed, .cancelled, .refunded]))
    cancelledRun (by decide +kernel)
  exact ⟨s, hs, of_decide_eq_true hp,
    (history_lawful_iff cancelledRun hs).mpr hall _ s List.prefix_rfl hs⟩

/-- The owner and an admin both read the order as placed; the owner cancels it, and the
admin accepts it. -/
def acceptedAfterCancelledRun : List ClientEvent :=
  [.spawn .markPaidFromWebhook, clientTurn 0,
    .spawn (.updateStatusByOwner ⟨1, .restaurantOwner⟩ .cancelled),
    .spawn (.updateStatusByOwner ⟨2, .admin⟩ .acceptedByRestaurant),
    clientTurn 1, clientTurn 2, clientTurn 1, clientTurn 2]

/-- **A cancelled order is accepted** by a save that was checked before. -/
theorem accepted_after_cancelled :
    ¬ ∀ (seller : Seller) (customer : UserId) (now : Time) (currency : String)
      (provider : PaymentProvider) (fee total amount : Price) (es : List ClientEvent)
      (s : OrderClients),
      clients.exec ⟨.created seller customer now currency provider fee total amount, []⟩ es =
        some s → Lawful s := by
  intro hall
  obtain ⟨s, hs, _, hp⟩ := exists_clientRun (fun _ _ => true)
    (fun s => decide (s.shared.statuses =
      [.pendingPayment, .placed, .cancelled, .acceptedByRestaurant]))
    acceptedAfterCancelledRun (by decide +kernel)
  have hlawful := hall _ _ _ _ _ _ _ _ _ s hs
  have := hlawful.cancelled [.pendingPayment, .placed] [.acceptedByRestaurant]
    (of_decide_eq_true hp) .acceptedByRestaurant (List.mem_singleton_self _)
  cases this

end Runs

end FoodDelivery
