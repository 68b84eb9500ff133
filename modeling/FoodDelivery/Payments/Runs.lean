import FoodDelivery.Payments.Checkout

/-!
# Runs of a checkout

Any number of payment and refund calls on the orders of one database, each taking one awaited
call at a time in any order, while orders are placed and moved along.

* `samePayment_of_run`: what moves an order along leaves its payment alone.
* `refunds_of_write`: what a refund leaves alone.
* `CheckoutRule.holds_of_reach`: what every order and every call keeps holds in every run.
-/

namespace FoodDelivery

open Store Interleave

/-- A call in progress. -/
inductive CheckoutPc
  | payment (pc : PaymentPc)
  | refund (pc : RefundPc)
  deriving DecidableEq

/-- A call as it is issued. -/
inductive CheckoutRequest
  | initiatePayment (id : OrderId) (providerOverride : Option PaymentProvider)
  | handleWebhook (provider : PaymentProvider) (request : WebhookRequest)
  | verifyPayment (id : OrderId)
  | refund (request : RefundRequest)

inductive CheckoutReply
  | payment (r : PaymentReply)
  | refund (r : Reply)

def startCheckout (c : Checkout) : CheckoutRequest → CheckoutPc
  | .initiatePayment id providerOverride => .payment (.initiateRead id providerOverride)
  | .handleWebhook provider request => .payment (.webhook provider request)
  | .verifyPayment id => .payment (.verifyRead id)
  | .refund request => .refund (.start c.world request)

def stepCheckout (c : Checkout) : CheckoutPc → CheckoutReply → Option (Checkout × CheckoutPc)
  | .payment pc, .payment r => (paymentStep c pc r).map fun o => (o.1, .payment o.2)
  | .refund pc, .refund r => (refundStep c.world pc r).map fun o => (c.withWorld o.1, .refund o.2)
  | _, _ => none

/-- The calls that the payment calls make themselves. -/
def OrderCall.isPayment : OrderCall → Bool
  | .setPaymentRef _ _ _ => true
  | .markPaidFromWebhook => true
  | .markPaymentFailed => true
  | _ => false

def EnvEvent.isPayment : EnvEvent → Bool
  | .order _ call => call.isPayment
  | _ => false

def envCheckout (dir : Directory) (c : Checkout) (e : EnvEvent) : Option Checkout :=
  if e.isPayment then none else (envStep dir c.world e).map c.withWorld

/-- The payment and refund calls over a database. -/
def checkout (dir : Directory) :
    Machine Checkout CheckoutPc CheckoutRequest CheckoutReply EnvEvent where
  start := startCheckout
  step := stepCheckout
  env := envCheckout dir

abbrev Shop := Pool Checkout CheckoutPc

abbrev ShopEvent := Event CheckoutRequest CheckoutReply EnvEvent

/-- A step of a call, by its kind. -/
inductive CheckoutMove (c : Checkout) :
    CheckoutPc → CheckoutReply → Checkout → CheckoutPc → Prop
  | payment {pc pc' : PaymentPc} {r : PaymentReply} {c' : Checkout}
    (hm : PaymentMove c pc r c' pc') : CheckoutMove c (.payment pc) (.payment r) c' (.payment pc')
  | refund {pc pc' : RefundPc} {r : Reply} {w : World}
    (hs : refundStep c.world pc r = some (w, pc')) :
    CheckoutMove c (.refund pc) (.refund r) (c.withWorld w) (.refund pc')

/-- **Every step of a call is one of a payment or of a refund.** -/
theorem checkout_move {c c' : Checkout} {p p' : CheckoutPc} {r : CheckoutReply}
    (h : stepCheckout c p r = some (c', p')) : CheckoutMove c p r c' p' := by
  cases p with
  | payment pc =>
    cases r with
    | refund r => cases h
    | payment r =>
      obtain ⟨⟨c₁, pc'⟩, hstep, heq⟩ := Option.map_eq_some_iff.mp h
      cases heq
      exact .payment (payment_move hstep)
  | refund pc =>
    cases r with
    | payment r => cases h
    | refund r =>
      obtain ⟨⟨w, pc'⟩, hstep, heq⟩ := Option.map_eq_some_iff.mp h
      cases heq
      exact .refund hstep

/-- A condition on the steps of the payment calls; nothing else is restricted. -/
def paymentSteps (allowed : Checkout → PaymentPc → PaymentReply → Bool) (s : Shop) :
    ShopEvent → Bool
  | .run i (.payment r) =>
    match s.procs[i]? with
    | some (.payment pc) => allowed s.shared pc r
    | _ => true
  | _ => true

theorem allowed_of_paymentSteps {allowed : Checkout → PaymentPc → PaymentReply → Bool} {s : Shop}
    {i : Nat} {r : PaymentReply} {pc : PaymentPc}
    (h : paymentSteps allowed s (.run i (.payment r)) = true)
    (hp : s.procs[i]? = some (.payment pc)) : allowed s.shared pc r = true := by
  rw [paymentSteps, hp] at h
  exact h

/-- Nothing placed, no call in progress. -/
def Shop.initial (vendors : List PayoutVendor) : Shop := ⟨⟨.empty vendors, [], [], []⟩, []⟩

/-! ## What moves an order along -/

/-- An order as it is placed. -/
structure Order.New (d : Order) : Prop where
  status : d.status = .pendingPayment
  paymentStatus : d.paymentStatus = .pending
  paymentRef : d.paymentRef = none
  paymentRefs : d.paymentRefs = []
  unflagged : d.refundReconciliationRequired = false

/-- The payment of an order is left alone. -/
structure Order.SamePayment (d d' : Order) : Prop where
  total : d'.total = d.total
  currency : d'.currency = d.currency
  provider : d'.paymentProvider = d.paymentProvider
  paymentRef : d'.paymentRef = d.paymentRef
  paymentRefs : d'.paymentRefs = d.paymentRefs
  paymentStatus : d'.paymentStatus = d.paymentStatus
  flag : d'.refundReconciliationRequired = d.refundReconciliationRequired
  pending : d'.status = .pendingPayment ↔ d.status = .pendingPayment

theorem Order.SamePayment.refl (d : Order) : d.SamePayment d :=
  ⟨rfl, rfl, rfl, rfl, rfl, rfl, rfl, Iff.rfl⟩

theorem canOwnerTransition_paid :
    ∀ s t, canOwnerTransition s t = true → s ≠ .pendingPayment ∧ t ≠ .pendingPayment := by decide

theorem canRiderTransition_paid :
    ∀ s t, canRiderTransition s t = true → s ≠ .pendingPayment ∧ t ≠ .pendingPayment := by decide

section Progress

variable {dir : Directory} {now : Time} {d d' : Order} {call : OrderCall}

theorem samePayment_assigned {riderUserId : UserId}
    (h : d.assignToRider riderUserId now = some d') : d.SamePayment d' := by
  obtain ⟨⟨hs, _⟩, rfl⟩ := Order.assignToRider_eq_some h
  refine ⟨rfl, rfl, rfl, rfl, rfl, rfl, rfl, ?_, ?_⟩
  · intro h
    cases h
  · intro h
    cases hs.symm.trans h

theorem samePayment_reassigned {riderUserId requester : UserId}
    (h : d.reassignRider riderUserId requester now = some d') : d.SamePayment d' := by
  obtain ⟨_, rfl⟩ := Order.reassignRider_eq_some h
  exact ⟨rfl, rfl, rfl, rfl, rfl, rfl, rfl, Iff.rfl⟩

open OrdersService in
/-- **What moves an order along leaves its payment alone.** -/
theorem samePayment_of_run (h : call.run dir now d = .ok d') (hp : call.isPayment = false) :
    d.SamePayment d' := by
  cases call with
  | setPaymentRef provider paymentRef split => cases hp
  | markPaidFromWebhook => cases hp
  | markPaymentFailed => cases hp
  | updateStatusByOwner requester t =>
    obtain ⟨hc, rfl⟩ := updateStatusByOwner_eq_ok.mp h
    obtain ⟨hsrc, htgt⟩ := canOwnerTransition_paid _ _ (canOwnerTransition_of_check hc)
    obtain ⟨ready, he⟩ := Order.saveOwnerTransition_eq d now t requester.sub
    rw [he]
    exact ⟨rfl, rfl, rfl, rfl, rfl, rfl, rfl, fun h => absurd h htgt, fun h => absurd h hsrc⟩
  | updateStatusByRider riderUserId t =>
    obtain ⟨hc, rfl⟩ := updateStatusByRider_eq_ok.mp h
    obtain ⟨hsrc, htgt⟩ := canRiderTransition_paid _ _ (checkRiderTransition_eq_ok.mp hc).2
    rw [Order.saveRiderTransition_eq]
    exact ⟨rfl, rfl, rfl, rfl, rfl, rfl, rfl, fun h => absurd h htgt, fun h => absurd h hsrc⟩
  | assignToRider riderUserId => exact samePayment_assigned (assignToRider_eq_ok.mp h)
  | assignRiderByOwner requester riderUserId =>
    rcases assignRiderByOwner_ok h with h | h
    · exact samePayment_assigned h
    · exact samePayment_reassigned h
  | flagDispute =>
    cases h
    exact ⟨rfl, rfl, rfl, rfl, rfl, rfl, rfl, Iff.rfl⟩

/-- **What happens beside the calls leaves the payments alone.** -/
theorem order_of_envCheckout {c c' : Checkout} {e : EnvEvent} {id : OrderId}
    (h : envCheckout dir c e = some c') (hd : c.world.orders.get id = some d) :
    ∃ d', c'.world.orders.get id = some d' ∧ d.SamePayment d' := by
  rw [envCheckout] at h
  split at h
  · cases h
  · rename_i hpay
    obtain ⟨w, hw, rfl⟩ := Option.map_eq_some_iff.mp h
    cases e with
    | place seller customer currency provider fee total amount =>
      cases hw
      exact ⟨d, Collection.get_create_of_get hd, .refl d⟩
    | order i call =>
      simp only [envStep] at hw
      split at hw
      · cases hw
      · rename_i d₀ hd₀
        split at hw
        · rename_i d₁ hrun
          cases hw
          refine get_modifyOrder_of hd (.refl d) fun hi => ?_
          subst hi
          obtain rfl := Option.some.inj (hd.symm.trans hd₀)
          exact samePayment_of_run hrun (Bool.not_eq_true _ ▸ hpay)
        · cases hw
          exact ⟨d, hd, .refl d⟩
    | vendors vs =>
      cases hw
      exact ⟨d, hd, .refl d⟩
    | tick =>
      cases hw
      exact ⟨d, hd, .refl d⟩

/-- An order that appears beside the calls is a new one. -/
theorem new_of_envCheckout {c c' : Checkout} {e : EnvEvent} {id : OrderId}
    (h : envCheckout dir c e = some c') (hd : c.world.orders.get id = none)
    (hd' : c'.world.orders.get id = some d') : d'.New := by
  rw [envCheckout] at h
  split at h
  · cases h
  · obtain ⟨w, hw, rfl⟩ := Option.map_eq_some_iff.mp h
    cases e with
    | place seller customer currency provider fee total amount =>
      cases hw
      rcases Collection.get_create_cases hd' with ⟨_, rfl⟩ | ⟨_, hd'⟩
      · exact ⟨rfl, rfl, rfl, rfl, rfl⟩
      · cases hd.symm.trans hd'
    | order i call =>
      simp only [envStep] at hw
      split at hw
      · cases hw
      · split at hw
        · cases hw
          obtain ⟨_, hget⟩ := Collection.exists_get_of_modify hd'
          cases hd.symm.trans hget
        · cases hw
          cases hd.symm.trans hd'
    | vendors vs =>
      cases hw
      cases hd.symm.trans hd'
    | tick =>
      cases hw
      cases hd.symm.trans hd'

/-- What happens beside the calls leaves the records alone. -/
theorem envCheckout_eq {c c' : Checkout} {e : EnvEvent} (h : envCheckout dir c e = some c') :
    ∃ w, c' = c.withWorld w := by
  rw [envCheckout] at h
  split at h
  · cases h
  · obtain ⟨w, _, rfl⟩ := Option.map_eq_some_iff.mp h
    exact ⟨w, rfl⟩

theorem grows_withWorld (c : Checkout) (w : World) : c.Grows (c.withWorld w) :=
  ⟨fun _ h => h, fun _ h => h, fun _ h => h⟩

end Progress

/-! ## What a refund leaves alone -/

/-- What a refund call may put an order back to is a refundable status. -/
def RefundPc.GivesBack (pc : RefundPc) : Prop :=
  ∀ prev, pc.previousStatus = some prev → prev ∈ refundableStatuses

/-- What a refund call relies on. -/
def GivesBack : CheckoutPc → Prop
  | .refund pc => pc.GivesBack
  | .payment _ => True

/-- A refund leaves the attempts to pay alone, and an order on its side of the payment. -/
structure Order.Refunds (d d' : Order) : Prop where
  total : d'.total = d.total
  currency : d'.currency = d.currency
  provider : d'.paymentProvider = d.paymentProvider
  paymentRef : d'.paymentRef = d.paymentRef
  paymentRefs : d'.paymentRefs = d.paymentRefs
  paymentStatus : d'.paymentStatus = d.paymentStatus ∨ d'.paymentStatus = .refunded
  pending : d'.status = .pendingPayment ↔ d.status = .pendingPayment
  flagged : d'.refundReconciliationRequired = true → d'.status ≠ .pendingPayment

section Refunds

variable {w w' : World} {pc pc' : RefundPc} {r : Reply} {id : OrderId} {d d' : Order}

theorem refundable_ne_pending {s : OrderStatus} (h : s ∈ refundableStatuses) :
    s ≠ .pendingPayment := by
  rintro rfl
  exact absurd h (by decide)

theorem givesBack_of_holds (h : pc.holds = none) : pc.GivesBack := by
  intro prev hprev
  cases pc with
  | adapter => cases h
  | flag => cases h
  | revert => cases h
  | _ => cases hprev

theorem givesBack_start (w : World) (request : RefundRequest) :
    (RefundPc.start w request).GivesBack := by
  intro prev hprev
  cases request <;> cases hprev

/-- **A refund call gives back only what it may claim.** -/
theorem givesBack_of_move (hm : RefundMove w pc r w' pc') (h : pc.GivesBack) : pc'.GivesBack := by
  have threw : RefundPc.threw.GivesBack := givesBack_of_holds rfl
  have finalize : ∀ i, (RefundPc.finalizeRead i).GivesBack := by
    rintro i prev ⟨⟩
  cases hm with
  | idle _ h' => exact givesBack_of_holds h'
  | lost => exact threw
  | claimed hd hc hpc =>
    rcases hpc with rfl | ⟨_, rfl⟩
    · rintro prev ⟨⟩
      exact (Order.claimForRefund_eq_some.mp hc).1.1
    · exact threw
  | called i order paymentRef previousStatus reply =>
    have hprev : previousStatus ∈ refundableStatuses := h previousStatus rfl
    cases reply with
    | resolved => exact finalize i
    | unknown message =>
      rintro prev ⟨⟩
      exact hprev
    | failed message =>
      rintro prev ⟨⟩
      exact hprev
  | flagged _ _ hpc => exact givesBack_of_holds hpc
  | unflagged _ hpc => exact givesBack_of_holds hpc
  | reverted hpc => exact givesBack_of_holds hpc
  | disputed hpc => exact givesBack_of_holds hpc
  | webhookClaimed hd hc hpc =>
    rcases hpc with rfl | ⟨_, rfl⟩
    · exact finalize _
    · exact threw
  | cleared _ hpc => exact givesBack_of_holds hpc
  | reconciled hd hc hpc =>
    rcases hpc with rfl | ⟨_, rfl⟩
    · exact finalize _
    · exact threw
  | gone _ hpc => exact givesBack_of_holds hpc
  | readBack =>
    rintro prev ⟨⟩
  | finalized hpc =>
    rcases hpc with rfl | ⟨_, rfl⟩
    · intro prev hprev
      unfold RefundPc.afterFinalize at hprev
      split at hprev <;> cases hprev
    · exact threw
  | recorded hpc => exact givesBack_of_holds hpc

/-- **What a write of a refund call leaves alone.** -/
theorem refunds_of_write (h : RefundWrite id pc d d') (hpc : pc.GivesBack)
    (hflag : d.refundReconciliationRequired = true → d.status ≠ .pendingPayment) :
    d.Refunds d' := by
  cases h with
  | unchanged => exact ⟨rfl, rfl, rfl, rfl, rfl, Or.inl rfl, Iff.rfl, hflag⟩
  | claimed h =>
    obtain ⟨⟨hs, _⟩, rfl⟩ := Order.claimForRefund_eq_some.mp h
    have hne : d.status ≠ .pendingPayment := refundable_ne_pending hs
    exact ⟨rfl, rfl, rfl, rfl, rfl, Or.inl rfl, ⟨fun h => (by cases h), fun h => absurd h hne⟩,
      fun _ => by rintro ⟨⟩⟩
  | flagged he h =>
    subst he
    obtain ⟨⟨hs, _⟩, rfl⟩ := Order.flagAmbiguousRefund_eq_some.mp h
    have hne : d.status ≠ .pendingPayment := by
      rw [hs]
      decide
    have hprev := refundable_ne_pending (hpc _ rfl)
    exact ⟨rfl, rfl, rfl, rfl, rfl, Or.inl rfl, ⟨fun h => absurd h hprev, fun h => absurd h hne⟩,
      fun _ => hprev⟩
  | reverted he h =>
    subst he
    obtain ⟨⟨hs, _⟩, rfl⟩ := Order.revertFailedRefundClaim_eq_some.mp h
    have hne : d.status ≠ .pendingPayment := by
      rw [hs]
      decide
    have hprev := refundable_ne_pending (hpc _ rfl)
    exact ⟨rfl, rfl, rfl, rfl, rfl, Or.inl rfl, ⟨fun h => absurd h hprev, fun h => absurd h hne⟩,
      fun _ => hprev⟩
  | disputed => exact ⟨rfl, rfl, rfl, rfl, rfl, Or.inl rfl, Iff.rfl, hflag⟩
  | cleared => exact ⟨rfl, rfl, rfl, rfl, rfl, Or.inl rfl, Iff.rfl, fun h => (by cases h)⟩
  | reconciled h =>
    obtain ⟨hf, rfl⟩ := Order.claimReconciledRefund_eq_some.mp h
    refine ⟨rfl, rfl, rfl, rfl, rfl, Or.inl rfl, ⟨fun h => ?_, fun h => ?_⟩, fun _ => ?_⟩
    · cases h
    · exact absurd h (hflag hf)
    · rintro ⟨⟩
  | finalized => exact ⟨rfl, rfl, rfl, rfl, rfl, Or.inr rfl, Iff.rfl, hflag⟩

end Refunds

/-! ## The rule -/

/-- No refund step creates an order. -/
theorem get_before_refund {w w' : World} {pc pc' : RefundPc} {r : Reply} {id : OrderId} {d : Order}
    (hm : RefundMove w pc r w' pc') (hd : w'.orders.get id = some d) :
    ∃ d₀, w.orders.get id = some d₀ := by
  cases hm with
  | idle => exact ⟨d, hd⟩
  | lost => exact ⟨d, hd⟩
  | called => exact ⟨d, hd⟩
  | unflagged => exact ⟨d, hd⟩
  | gone => exact ⟨d, hd⟩
  | readBack => exact ⟨d, hd⟩
  | recorded => exact ⟨d, hd⟩
  | _ => exact Collection.exists_get_of_modify hd

/-- What an event does to one order: progress, or a write of a payment or a refund call. -/
inductive ShopWrite (s : Shop) (e : ShopEvent) (id : OrderId) (d d' : Order) : Prop
  | progress (h : d.SamePayment d')
  | payment {i : Nat} {r : PaymentReply} {pc : PaymentPc} (he : e = .run i (.payment r))
    (hp : s.procs[i]? = some (.payment pc)) (h : PaymentWrite s.shared id pc d d')
  | refund {i : Nat} {r : Reply} {pc : RefundPc} (he : e = .run i (.refund r))
    (hp : s.procs[i]? = some (.refund pc)) (h : RefundWrite id pc d d')

/-- **What an event does to one order.** -/
theorem order_of_shopNext {dir : Directory} {s s' : Shop} {e : ShopEvent} {id : OrderId} {d : Order}
    (hs : (checkout dir).next s e = some s') (hd : s.shared.world.orders.get id = some d) :
    ∃ d', s'.shared.world.orders.get id = some d' ∧ ShopWrite s e id d d' := by
  cases e with
  | spawn k =>
    cases hs
    exact ⟨d, hd, .progress (.refl d)⟩
  | env a =>
    obtain ⟨c, hc, rfl⟩ := Machine.next_env hs
    obtain ⟨d', hd', hsame⟩ := order_of_envCheckout hc hd
    exact ⟨d', hd', .progress hsame⟩
  | run i r =>
    obtain ⟨p, c, p', hp, hstep, rfl⟩ := Machine.next_run hs
    cases checkout_move hstep with
    | payment hm =>
      obtain ⟨d', hd', hw⟩ := paymentWrite_of_move hm hd
      exact ⟨d', hd', .payment rfl hp hw⟩
    | refund hrefund =>
      obtain ⟨d', hd', hw⟩ := refundWrite_of_move (refund_move hrefund) hd
      exact ⟨d', hd', .refund rfl hp hw⟩

/-- **The records only grow.** -/
theorem grows_of_next {dir : Directory} {s s' : Shop} {e : ShopEvent}
    (hs : (checkout dir).next s e = some s') : s.shared.Grows s'.shared := by
  cases e with
  | spawn k =>
    cases hs
    exact .refl s.shared
  | env a =>
    obtain ⟨c, hc, rfl⟩ := Machine.next_env hs
    obtain ⟨w, rfl⟩ := envCheckout_eq hc
    exact grows_withWorld s.shared w
  | run i r =>
    obtain ⟨p, c, p', hp, hstep, rfl⟩ := Machine.next_run hs
    cases checkout_move hstep with
    | payment hm => exact hm.grows
    | refund => exact grows_withWorld s.shared _

/-- What every order (`P`) and every call (`A`) satisfies, and why each kind of event keeps it:
both hold on when the records grow, and a step of a call keeps what holds of the order it
writes and of the call itself. -/
structure CheckoutRule (ok : Shop → ShopEvent → Prop) (P : Checkout → OrderId → Order → Prop)
    (A : Checkout → CheckoutPc → Prop) : Prop where
  grows : ∀ c c', c.Grows c' →
    (∀ id d, P c id d → P c' id d) ∧ ∀ p, A c p → A c' p
  placed : ∀ c id d, d.New → P c id d
  progress : ∀ c id d d', P c id d → d.SamePayment d' → P c id d'
  start : ∀ c k, A c (startCheckout c k)
  payment : ∀ (s : Shop) i r pc c' pc', ok s (.run i (.payment r)) →
    s.procs[i]? = some (.payment pc) → (∀ id d, s.shared.world.orders.get id = some d →
      P s.shared id d) → A s.shared (.payment pc) → PaymentMove s.shared pc r c' pc' →
    A c' (.payment pc') ∧ ∀ id d d', s.shared.world.orders.get id = some d →
      c'.world.orders.get id = some d' → PaymentWrite s.shared id pc d d' → P c' id d'
  refund : ∀ (s : Shop) i r pc w' pc', ok s (.run i (.refund r)) →
    s.procs[i]? = some (.refund pc) → (∀ id d, s.shared.world.orders.get id = some d →
      P s.shared id d) → A s.shared (.refund pc) → refundStep s.shared.world pc r = some (w', pc') →
    A s.shared (.refund pc') ∧ ∀ id d d', s.shared.world.orders.get id = some d →
      RefundWrite id pc d d' → P s.shared id d'

namespace CheckoutRule

variable {dir : Directory} {ok : Shop → ShopEvent → Prop} {P : Checkout → OrderId → Order → Prop}
  {A : Checkout → CheckoutPc → Prop}

/-- The outline behind the rule. -/
def outline (P : Checkout → OrderId → Order → Prop) (A : Checkout → CheckoutPc → Prop) :
    Outline Checkout CheckoutPc where
  shared c := ∀ id d, c.world.orders.get id = some d → P c id d
  proc := A
  compat _ _ := True
  symm _ _ _ := trivial

theorem kept (h : CheckoutRule ok P A) :
    (outline P A).Kept (checkout dir) ok fun _ => True where
  spawn s k _ _ _ := ⟨h.start s.shared k, fun _ _ => trivial⟩
  env s e c' _ _ hs hw := by
    obtain ⟨w, rfl⟩ := envCheckout_eq hw
    obtain ⟨hP, hA⟩ := h.grows _ _ (grows_withWorld s.shared w)
    refine ⟨?_, fun q hq => hA q (hs.procs q hq)⟩
    intro id d' hd'
    cases hd : s.shared.world.orders.get id with
    | none => exact h.placed _ id d' (new_of_envCheckout hw hd hd')
    | some d =>
      obtain ⟨d₁, hd₁, hsame⟩ := order_of_envCheckout hw hd
      obtain rfl := Option.some.inj (hd'.symm.trans hd₁)
      exact h.progress _ id d d' (hP id d (hs.shared id d hd)) hsame
  run s i r p c' p' _ hok hs hp hstep := by
    cases checkout_move hstep with
    | payment hm =>
      obtain ⟨hA, hP⟩ := h.payment s i _ _ _ _ hok hp hs.shared (hs.at hp) hm
      refine ⟨fun id d' hd' => ?_, hA,
        fun j q _ _ hq _ => ⟨(h.grows _ _ hm.grows).2 q hq, trivial⟩⟩
      obtain ⟨d, hd⟩ := get_before_move hm hd'
      obtain ⟨d₁, hd₁, hwrite⟩ := paymentWrite_of_move hm hd
      obtain rfl := Option.some.inj (hd'.symm.trans hd₁)
      exact hP id d d' hd hd' hwrite
    | @refund pc pc' r w hrefund =>
      have hm := refund_move hrefund
      obtain ⟨hA, hP⟩ := h.refund s i _ _ _ _ hok hp hs.shared (hs.at hp) hrefund
      obtain ⟨hPg, hAg⟩ := h.grows _ _ (grows_withWorld s.shared w)
      refine ⟨?_, hAg _ hA, fun j q _ _ hq _ => ⟨hAg q hq, trivial⟩⟩
      intro id d' hd'
      obtain ⟨d, hd⟩ := get_before_refund hm hd'
      obtain ⟨d₁, hd₁, hwrite⟩ := refundWrite_of_move hm hd
      obtain rfl := Option.some.inj (hd'.symm.trans hd₁)
      exact hPg id d' (hP id d d' hd hwrite)

/-- **What every order and every call keeps holds in every run.** -/
theorem holds_of_reach (h : CheckoutRule ok P A) {vendors : List PayoutVendor} {s : Shop}
    (hs : (checkout dir).Reach ok (Shop.initial vendors) s) :
    (∀ id d, s.shared.world.orders.get id = some d → P s.shared id d) ∧
      ∀ p ∈ s.procs, A s.shared p := by
  have hholds : (outline P A).Holds s := by
    refine Outline.holds_of_reach h.kept (fun _ _ => trivial) (Outline.holds_nil ?_) hs
    intro id d hd
    simp [World.empty] at hd
  exact ⟨hholds.shared, hholds.procs⟩

end CheckoutRule

/-! ## A shop to run -/

/-- An order of 15.00 is placed. -/
def placeOrder (provider : PaymentProvider) : ShopEvent :=
  .env (.place (.restaurant 1) 9 "USD" provider (.ofCents 200) (.ofCents 1500) (.ofCents 1000))

/-- A paid order is prepared and delivered. -/
def deliverOrder (id : OrderId) : List ShopEvent :=
  [.env (.order id (.updateStatusByOwner ⟨1, .restaurantOwner⟩ .acceptedByRestaurant)),
    .env (.order id (.updateStatusByOwner ⟨1, .restaurantOwner⟩ .preparing)),
    .env (.order id (.updateStatusByOwner ⟨1, .restaurantOwner⟩ .readyForPickup)),
    .env (.order id (.assignToRider 7)),
    .env (.order id (.updateStatusByRider 7 .pickedUp)),
    .env (.order id (.updateStatusByRider 7 .outForDelivery)),
    .env (.order id (.updateStatusByRider 7 .delivered))]

/-- Payment call `i` goes on with these answers. -/
def payments (i : Nat) (rs : List PaymentReply) : List ShopEvent :=
  rs.map fun r => .run i (.payment r)

/-- Stripe reports the session `cs_1` paid. -/
def stripePaid : WebhookRequest :=
  ⟨true, some ⟨some "checkout.session.completed", some ⟨some "cs_1", some "paid", 1500, "USD"⟩⟩⟩

/-- A run that checks out and ends as wanted. -/
theorem exists_shop (okb : Shop → ShopEvent → Bool) (P : Shop → Bool) (es : List ShopEvent)
    (h : ((checkout soleOwner).play okb (Shop.initial soleRestaurant) es).any P = true) :
    ∃ s, (checkout soleOwner).Reach (fun s e => okb s e = true) (Shop.initial soleRestaurant) s ∧
      P s = true :=
  Machine.exists_reach_of_play (fun _ _ h => h) es h

end FoodDelivery
