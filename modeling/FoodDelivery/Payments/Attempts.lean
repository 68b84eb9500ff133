import FoodDelivery.Payments.Runs

/-!
# Attempts to pay

A customer may start checkout any number of times, with one provider or another.  The order
keeps every reference that was issued, but only the provider of the latest attempt.

* `initiateAll_spec`: what a sequence of `initiatePayment` calls leaves of an order.
* `handleWebhook_success`: what a success webhook does on its own.
* `placed_iff_latest_provider`: the success of any attempt places the order exactly when the
  latest attempt is with the same provider.
-/

namespace FoodDelivery

open Store Interleave

/-! ## A call on its own -/

/-- A payment call by itself, with the answers it gets; it may end before they run out. -/
def payAlone (c : Checkout) (pc : PaymentPc) : List PaymentReply → Checkout × PaymentPc
  | [] => (c, pc)
  | r :: rs =>
    match paymentStep c pc r with
    | none => (c, pc)
    | some (c', pc') => payAlone c' pc' rs

/-- `initiatePayment` by itself. -/
def Checkout.initiatePayment (c : Checkout) (id : OrderId)
    (providerOverride : Option PaymentProvider) (result : Except String String) : Checkout :=
  (payAlone c (.initiateRead id providerOverride) [.done, .initiated result, .done]).1

/-- `handleWebhook` by itself. -/
def Checkout.handleWebhook (c : Checkout) (provider : PaymentProvider) (request : WebhookRequest) :
    Checkout :=
  (payAlone c (.webhook provider request) [.done, .done, .done, .done]).1

/-- A call of `initiatePayment` and what the adapter's `initiate` answers. -/
structure InitiateCall where
  providerOverride : Option PaymentProvider
  result : Except String String

/-- A sequence of `initiatePayment` calls on one order. -/
def Checkout.initiateAll (c : Checkout) (id : OrderId) : List InitiateCall → Checkout
  | [] => c
  | call :: calls =>
    (c.initiatePayment id call.providerOverride call.result).initiateAll id calls

section Alone

variable {dir : Directory} {ok : Shop → ShopEvent → Prop}

/-- What a call does by itself it also does among the others, when they wait. -/
theorem reach_payAlone (hok : ∀ s e, ok s e) : ∀ (rs : List PaymentReply) (s : Shop) (i : Nat)
    (pc : PaymentPc), s.procs[i]? = some (.payment pc) → ∃ procs,
      (checkout dir).Reach ok s ⟨(payAlone s.shared pc rs).1, procs⟩ := by
  intro rs
  induction rs with
  | nil =>
    intro s i pc _
    exact ⟨s.procs, .start⟩
  | cons r rs ih =>
    intro s i pc hp
    cases hstep : paymentStep s.shared pc r with
    | none =>
      rw [payAlone, hstep]
      exact ⟨s.procs, .start⟩
    | some o =>
      obtain ⟨c', pc'⟩ := o
      have hnext : (checkout dir).next s (.run i (.payment r)) =
          some ⟨c', s.procs.set i (.payment pc')⟩ := by
        simp only [Machine.next, hp, checkout, stepCheckout, hstep, Option.map_some]
      have hi : i < s.procs.length := (List.getElem?_eq_some_iff.mp hp).1
      obtain ⟨procs, hrest⟩ := ih ⟨c', s.procs.set i (.payment pc')⟩ i pc'
        (List.getElem?_set_self hi)
      rw [payAlone, hstep]
      exact ⟨procs, (Machine.Reach.tail .start (hok _ _) hnext).trans hrest⟩

/-- A sequence of `initiatePayment` calls is a run of the platform. -/
theorem reach_initiateAll (hok : ∀ s e, ok s e) (id : OrderId) : ∀ (calls : List InitiateCall)
    (s : Shop), ∃ procs, (checkout dir).Reach ok s ⟨s.shared.initiateAll id calls, procs⟩ := by
  intro calls
  induction calls with
  | nil =>
    intro s
    exact ⟨s.procs, .start⟩
  | cons call calls ih =>
    intro s
    have hspawn : (checkout dir).next s (.spawn (.initiatePayment id call.providerOverride)) =
        some ⟨s.shared, s.procs ++ [.payment (.initiateRead id call.providerOverride)]⟩ := rfl
    obtain ⟨started, hcall⟩ := @reach_payAlone dir ok hok [.done, .initiated call.result, .done]
      ⟨s.shared, s.procs ++ [.payment (.initiateRead id call.providerOverride)]⟩ s.procs.length
      (.initiateRead id call.providerOverride) (by simp)
    obtain ⟨procs, hrest⟩ := ih ⟨_, started⟩
    exact ⟨procs, ((Machine.Reach.tail .start (hok _ _) hspawn).trans hcall).trans hrest⟩

end Alone

/-! ## A sequence of attempts -/

/-- Whether the call opens a session: the provider is supported and answers. -/
def InitiateCall.opens (currency : String) (call : InitiateCall) : Bool :=
  call.providerOverride.all (· ∈ resolveProviders currency) && call.result.isOk

/-- The provider of the last session that the calls open, the present one if they open none. -/
def latestProvider (currency : String) (provider : PaymentProvider) :
    List InitiateCall → PaymentProvider
  | [] => provider
  | call :: calls =>
    latestProvider currency
      (if call.opens currency then call.providerOverride.getD provider else provider) calls

/-- What attempts to pay leave of the order `id`, once `d₀` in `c₀`: `provider` is that of the
latest one. -/
structure Attempted (c₀ : Checkout) (id : OrderId) (d₀ : Order) (provider : PaymentProvider)
    (c : Checkout) (d : Order) : Prop where
  get : c.world.orders.get id = some d
  others : ∀ i, i ≠ id → c.world.orders.get i = c₀.world.orders.get i
  status : d.status = .pendingPayment
  currency : d.currency = d₀.currency
  provider : d.paymentProvider = provider
  issued : ∃ attempts, c.issued = c₀.issued ++ attempts ∧
    ∀ a ∈ attempts, d.paymentRefs.contains a.reference = true

section Attempts

variable {c₀ c : Checkout} {id : OrderId} {d₀ d : Order} {provider : PaymentProvider}

theorem Attempted.start (hd : c.world.orders.get id = some d) (hs : d.status = .pendingPayment) :
    Attempted c id d d.paymentProvider c d where
  get := hd
  others := fun _ _ => rfl
  status := hs
  currency := rfl
  provider := rfl
  issued := ⟨[], (List.append_nil _).symm, fun _ ha => absurd ha List.not_mem_nil⟩

/-- Where the first check of `initiatePayment` leads on an unpaid order. -/
theorem afterInitiateRead_cases (hs : d.status = .pendingPayment)
    (providerOverride : Option PaymentProvider) :
    (providerOverride.all (· ∈ resolveProviders d.currency) = true ∧
      PaymentPc.afterInitiateRead id d providerOverride =
        .initiating id d (providerOverride.getD d.paymentProvider)) ∨
    (providerOverride.all (· ∈ resolveProviders d.currency) = false ∧
      ∃ error, PaymentPc.afterInitiateRead id d providerOverride = .rejected error) := by
  have hstatus : ¬ d.status ≠ .pendingPayment := not_not.mpr hs
  cases providerOverride with
  | none =>
    left
    refine ⟨rfl, ?_⟩
    unfold PaymentPc.afterInitiateRead
    rw [if_neg hstatus]
    rfl
  | some provider =>
    by_cases hp : provider ∈ resolveProviders d.currency
    · left
      refine ⟨decide_eq_true hp, ?_⟩
      unfold PaymentPc.afterInitiateRead
      rw [if_neg hstatus]
      exact if_pos hp
    · right
      refine ⟨decide_eq_false hp,
        .badRequest s!"{provider.name} does not support {d.currency}", ?_⟩
      unfold PaymentPc.afterInitiateRead
      rw [if_neg hstatus]
      exact if_neg hp

/-- A session that is opened becomes the latest attempt. -/
theorem Attempted.opened (h : Attempted c₀ id d₀ provider c d) (next : PaymentProvider)
    (reference : String) :
    Attempted c₀ id d₀ next ((c.issue (.ofOrder id d next reference)).modifyOrder id
      (·.saveSetPaymentRef d next reference)) (d.saveSetPaymentRef d next reference) where
  get := by
    show ((c.world.orders.modify id _).get id) = _
    rw [Collection.get_modify_self, h.get]
    rfl
  others i hi := by
    show ((c.world.orders.modify id _).get i) = _
    rw [Collection.get_modify_ne (Ne.symm hi)]
    exact h.others i hi
  status := h.status
  currency := h.currency
  provider := by
    rw [Order.saveSetPaymentRef_self]
    rfl
  issued := by
    obtain ⟨attempts, hissued, hrefs⟩ := h.issued
    refine ⟨attempts ++ [.ofOrder id d next reference], ?_, ?_⟩
    · show c.issued ++ _ = _
      rw [hissued, List.append_assoc]
    · intro a ha
      show (d.paymentRefs ++ [reference]).contains a.reference = true
      rw [List.contains_iff_mem, List.mem_append]
      rcases List.mem_append.mp ha with ha | ha
      · exact Or.inl (List.contains_iff_mem.mp (hrefs a ha))
      · rw [List.mem_singleton.mp ha]
        exact Or.inr (List.mem_singleton_self reference)

/-- **One call of `initiatePayment`.** -/
theorem Attempted.initiatePayment (h : Attempted c₀ id d₀ provider c d) (call : InitiateCall) :
    ∃ d', Attempted c₀ id d₀
      (if call.opens d₀.currency then call.providerOverride.getD provider else provider)
      (c.initiatePayment id call.providerOverride call.result) d' := by
  have hread : paymentStep c (.initiateRead id call.providerOverride) .done =
      some (c, PaymentPc.afterInitiateRead id d call.providerOverride) := by
    simp only [paymentStep, h.get]
  have hcall : c.initiatePayment id call.providerOverride call.result =
      (payAlone c (PaymentPc.afterInitiateRead id d call.providerOverride)
        [.initiated call.result, .done]).1 := by
    rw [Checkout.initiatePayment, payAlone, hread]
  rw [hcall]
  rcases @afterInitiateRead_cases id d h.status call.providerOverride with
    ⟨hall, hpc⟩ | ⟨hall, error, hpc⟩
  · rw [h.currency] at hall
    rw [hpc, InitiateCall.opens, hall]
    cases call.result with
    | error message => exact ⟨d, h⟩
    | ok reference =>
      rw [h.provider]
      exact ⟨_, h.opened (call.providerOverride.getD provider) reference⟩
  · rw [h.currency] at hall
    rw [hpc, InitiateCall.opens, hall]
    exact ⟨d, h⟩

/-- **A sequence of calls of `initiatePayment`.** -/
theorem Attempted.initiateAll : ∀ (calls : List InitiateCall) {c : Checkout} {d : Order}
    {provider : PaymentProvider}, Attempted c₀ id d₀ provider c d →
      ∃ d', Attempted c₀ id d₀ (latestProvider d₀.currency provider calls)
        (c.initiateAll id calls) d' := by
  intro calls
  induction calls with
  | nil => exact fun h => ⟨_, h⟩
  | cons call calls ih =>
    intro c d provider h
    obtain ⟨d', h'⟩ := h.initiatePayment call
    exact ih h'

end Attempts

/-! ## The success of an attempt -/

section Success

variable {c : Checkout} {id : OrderId} {d : Order} {provider : PaymentProvider}
  {request : WebhookRequest} {reference : String} {charge : Charge}

/-- A success webhook up to the order it finds. -/
theorem handleWebhook_eq
    (h : provider.handleWebhook request = .event ⟨some reference, true⟩ charge) :
    c.handleWebhook provider request =
      (payAlone (c.confirm ⟨provider, some reference, charge⟩)
        (.webhookFind ⟨some reference, true⟩ ⟨provider, some reference, charge⟩)
        [.done, .done, .done]).1 := by
  have hreported : paymentStep c (.webhook provider request) .done =
      some (c.confirm ⟨provider, some reference, charge⟩,
        .webhookFind ⟨some reference, true⟩ ⟨provider, some reference, charge⟩) := by
    simp only [paymentStep, h, if_true]
  rw [Checkout.handleWebhook, payAlone, hreported]

/-- The order that the webhook finds is marked paid. -/
theorem handleWebhook_found
    (h : provider.handleWebhook request = .event ⟨some reference, true⟩ charge)
    (hf : c.findByPaymentRef (some reference) = some (id, d)) (hp : d.paymentProvider = provider)
    (hs : d.status = .pendingPayment) :
    ∃ paid, (c.handleWebhook provider request).world.orders.get id = some paid ∧
      paid.status = .placed ∧ paid.paymentStatus = .succeeded := by
  have hd : c.world.orders.get id = some d := (Checkout.get_of_findByPaymentRef hf).1
  have hfind : paymentStep (c.confirm ⟨provider, some reference, charge⟩)
      (.webhookFind ⟨some reference, true⟩ ⟨provider, some reference, charge⟩) .done =
        some (c.confirm ⟨provider, some reference, charge⟩,
          .markPaid id ⟨provider, some reference, charge⟩) := by
    have hfound : (c.confirm ⟨provider, some reference, charge⟩).findByPaymentRef
        (some reference) = some (id, d) := hf
    simp only [paymentStep, hfound, PaymentPc.afterWebhookFind, hp, ne_eq, not_true_eq_false,
      if_false, if_true]
  have hpaid : ∃ paid, d.markPaidFromWebhook c.world.now = some paid ∧ paid.status = .placed ∧
      paid.paymentStatus = .succeeded := by
    rw [Order.markPaidFromWebhook, if_pos hs]
    exact ⟨_, rfl, rfl, rfl⟩
  obtain ⟨paid, hpaid, hplaced, hsucceeded⟩ := hpaid
  have hmark : paymentStep (c.confirm ⟨provider, some reference, charge⟩)
      (.markPaid id ⟨provider, some reference, charge⟩) .done =
        some (((c.confirm ⟨provider, some reference, charge⟩).modifyOrder id fun _ => paid).place
          ⟨id, ⟨provider, some reference, charge⟩⟩, .returned) := by
    have hget : (c.confirm ⟨provider, some reference, charge⟩).world.orders.get id = some d := hd
    have hnow : d.markPaidFromWebhook (c.confirm ⟨provider, some reference, charge⟩).world.now =
        some paid := hpaid
    simp only [paymentStep, hget, Option.bind_some, hnow]
  refine ⟨paid, ?_, hplaced, hsucceeded⟩
  rw [handleWebhook_eq h, payAlone, hfind]
  dsimp only
  rw [payAlone, hmark]
  show (c.world.orders.modify id fun _ => paid).get id = some paid
  rw [Collection.get_modify_self, hd]
  rfl

/-- An order that the webhook does not find, or finds under another provider, is left alone. -/
theorem handleWebhook_missed
    (h : provider.handleWebhook request = .event ⟨some reference, true⟩ charge)
    (hd : c.world.orders.get id = some d)
    (hf : c.findByPaymentRef (some reference) = some (id, d) → d.paymentProvider ≠ provider) :
    (c.handleWebhook provider request).world.orders.get id = some d := by
  have hget : (c.confirm ⟨provider, some reference, charge⟩).world.orders.get id = some d := hd
  rw [handleWebhook_eq h, payAlone]
  simp only [paymentStep]
  split
  · exact hget
  · rename_i c' pc' hfind
    split at hfind
    · cases hfind
      exact hget
    · rename_i i o hfound
      cases hfind
      rw [PaymentPc.afterWebhookFind]
      by_cases hp : o.paymentProvider = provider
      · have hi : i ≠ id := by
          intro hi
          subst hi
          have ho : c.world.orders.get i = some o := (Checkout.get_of_findByPaymentRef hfound).1
          obtain rfl := Option.some.inj (hd.symm.trans ho)
          exact hf hfound hp
        rw [if_neg (not_not.mpr hp), if_pos rfl, payAlone]
        simp only [paymentStep]
        split
        · exact hget
        · rename_i c' pc' hmark
          split at hmark
          · cases hmark
            exact hget
          · cases hmark
            exact (Collection.get_modify_ne hi).trans hd
      · rw [if_pos hp]
        exact hget

end Success

/-! ## Every attempt -/

/-- **A genuine payment places the order exactly when it was made with the provider of the
latest attempt, and no older order carries its reference.** -/
theorem placed_iff_latest_provider {c : Checkout} {id : OrderId} {d : Order}
    (hd : c.world.orders.get id = some d) (hs : d.status = .pendingPayment)
    (calls : List InitiateCall) {a : PaymentAttempt}
    (ha : a ∈ (c.initiateAll id calls).issued.drop c.issued.length) {request : WebhookRequest}
    {charge : Charge}
    (h : a.provider.handleWebhook request = .event ⟨some a.reference, true⟩ charge) :
    (∃ paid, ((c.initiateAll id calls).handleWebhook a.provider request).world.orders.get id =
        some paid ∧ paid.status = .placed ∧ paid.paymentStatus = .succeeded) ↔
      latestProvider d.currency d.paymentProvider calls = a.provider ∧
        ∀ i o, i < id → c.world.orders.get i = some o →
          o.matchesPaymentRef a.reference = false := by
  obtain ⟨d', hafter⟩ := (Attempted.start hd hs).initiateAll calls
  have hmatches : d'.matchesPaymentRef a.reference = true := by
    obtain ⟨attempts, hissued, hrefs⟩ := hafter.issued
    rw [hissued, List.drop_left] at ha
    rw [Order.matchesPaymentRef, hrefs a ha]
    rfl
  have hfind : (c.initiateAll id calls).findByPaymentRef (some a.reference) = some (id, d') ↔
      ∀ i o, i < id → c.world.orders.get i = some o →
        o.matchesPaymentRef a.reference = false := by
    rw [Checkout.findByPaymentRef, Collection.head?_find_eq_some]
    constructor
    · rintro ⟨_, _, hfirst⟩ i o hi ho
      exact hfirst i o hi ((hafter.others i (Nat.ne_of_lt hi)).trans ho)
    · intro hfirst
      refine ⟨hafter.get, hmatches, ?_⟩
      intro i o hi ho
      exact hfirst i o hi ((hafter.others i (Nat.ne_of_lt hi)).symm.trans ho)
  constructor
  · rintro ⟨paid, hpaid, hplaced, _⟩
    by_contra hnot
    have hmissed := handleWebhook_missed h hafter.get fun hf hp =>
      hnot ⟨hafter.provider.symm.trans hp, hfind.mp hf⟩
    obtain rfl := Option.some.inj (hpaid.symm.trans hmissed)
    rw [hafter.status] at hplaced
    cases hplaced
  · rintro ⟨hlatest, hfirst⟩
    exact handleWebhook_found h (hfind.mpr hfirst) (hafter.provider.trans hlatest) hafter.status

section Examples

/-- An order of 15.00 that its customer is about to pay with Stripe. -/
def unpaidOrder : Order :=
  .created (.restaurant 1) 9 0 "USD" .stripe (.ofCents 200) (.ofCents 1500) (.ofCents 1000)

/-- The order 0 and nothing else. -/
def unpaidCheckout : Checkout :=
  ⟨{ World.empty [] with orders := Collection.empty.create unpaidOrder }, [], [], []⟩

/-- A retry with the same provider: the first session may still be paid. -/
theorem placed_iff_latest_provider_retried :
    ∃ paid, ((unpaidCheckout.initiateAll 0 [⟨none, .ok "cs_1"⟩, ⟨none, .ok "cs_2"⟩]).handleWebhook
      .stripe stripePaid).world.orders.get 0 = some paid ∧ paid.status = .placed ∧
        paid.paymentStatus = .succeeded := by
  refine (@placed_iff_latest_provider unpaidCheckout 0 unpaidOrder rfl rfl
    [⟨none, .ok "cs_1"⟩, ⟨none, .ok "cs_2"⟩] (.ofOrder 0 unpaidOrder .stripe "cs_1")
    (by decide +kernel) stripePaid _ rfl).mpr ⟨by decide +kernel, ?_⟩
  intro i o hi
  exact absurd hi (Nat.not_lt_zero i)

/-- **A customer who pays the first session after opening a second one elsewhere is charged and
not served**: the webhook of the first session arrives on Stripe's route, but the order has
been Flutterwave's since the second. -/
theorem earlier_session_ignored :
    ¬ ∀ (c : Checkout) (id : OrderId) (d : Order) (calls : List InitiateCall) (a : PaymentAttempt)
      (request : WebhookRequest) (charge : Charge), c.world.orders.get id = some d →
      d.status = .pendingPayment → a ∈ (c.initiateAll id calls).issued.drop c.issued.length →
      a.provider.handleWebhook request = .event ⟨some a.reference, true⟩ charge →
        ∃ paid, ((c.initiateAll id calls).handleWebhook a.provider request).world.orders.get id =
          some paid ∧ paid.status = .placed ∧ paid.paymentStatus = .succeeded := by
  intro hall
  obtain ⟨paid, hpaid, hplaced, _⟩ := hall unpaidCheckout 0 unpaidOrder
    [⟨none, .ok "cs_1"⟩, ⟨some .flutterwave, .ok "tx_2"⟩] (.ofOrder 0 unpaidOrder .stripe "cs_1")
    stripePaid ⟨some "cs_1", some "paid", 1500, "USD"⟩ rfl rfl (by decide +kernel) rfl
  have hignored : (((unpaidCheckout.initiateAll 0
      [⟨none, .ok "cs_1"⟩, ⟨some .flutterwave, .ok "tx_2"⟩]).handleWebhook .stripe
        stripePaid).world.orders.get 0).all
      (fun (d : Order) => decide (d.status = .pendingPayment)) = true := by decide +kernel
  have hunpaid : paid.status = .pendingPayment := by
    rw [PaymentAttempt.ofOrder] at hpaid
    rw [hpaid] at hignored
    exact of_decide_eq_true hignored
  cases hplaced.symm.trans hunpaid

end Examples

end FoodDelivery
