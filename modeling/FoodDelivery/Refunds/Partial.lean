import FoodDelivery.Refunds.OutOfBand
import Mathlib.Data.NNRat.BigOperators

/-!
# Refunds in parts

A provider announces every refund of a charge, full or partial, with a webhook of its own.
Stripe's carries what was refunded of the charge so far, Paystack's and Flutterwave's the one
refund.  `handleRefundWebhook` compares that amount with the order's total, less a cent, both as
JavaScript numbers, and keeps no sum.

* `handleRefundWebhook_announced`: what one webhook does to its order.
* `partial_refunds_spec`: what is left of the order when a history of refunds was announced, in
  any order and any number of times.
-/

namespace FoodDelivery

open Store

/-! ## The parsers -/

/-- A refund or dispute event of Stripe.  `amountRefunded` is missing when it is not a number;
`session` is the first that `sessions.list` finds for the payment intent. -/
structure StripeRefundEvent where
  type : String
  paymentIntent : Option String
  amountRefunded : Option ℚ
  session : Option String

/-- `PaystackRefundWebhookPayload`, a missing `data` being one without fields. -/
structure PaystackRefundWebhookPayload where
  event : String
  transactionReference : Option String
  transaction : Option String
  amount : Option ℚ

/-- `FlutterwaveRefundWebhookPayload`, and the answer to `/transactions/:id/verify`: whether its
status is `success`, and its `tx_ref`.  There is none when the request fails.  A `charge_id` of 0
is a blank one. -/
structure FlutterwaveRefundWebhookPayload where
  event : String
  chargeId : Option String
  amountRefunded : Option ℚ
  verification : Option (Bool × Option String)

/-- A request on a provider's webhook route: whether its signature verifies, and what its body
parses to. -/
inductive RefundWebhook
  | stripe (verified : Bool) (event : Option StripeRefundEvent)
  | paystack (verified : Bool) (payload : Option PaystackRefundWebhookPayload)
  | flutterwave (verified : Bool) (payload : Option FlutterwaveRefundWebhookPayload)

/-- `parseRefundOrDisputeWebhookEvent` of Stripe, once the event is constructed. -/
def StripeAdapter.parseRefundOrDispute (event : StripeRefundEvent) : Option RefundNotice :=
  if event.type = "charge.refunded" then
    if isBlank event.paymentIntent then none
    else event.session.map (⟨·, .refunded, event.amountRefunded.map (· / 100)⟩)
  else if event.type = "charge.dispute.created" then
    if isBlank event.paymentIntent then none else event.session.map (⟨·, .disputeCreated, none⟩)
  else none

/-- `parseRefundOrDisputeWebhookEvent` of Paystack, once the body is parsed. -/
def PaystackAdapter.parseRefundOrDispute (payload : PaystackRefundWebhookPayload) :
    Option RefundNotice :=
  let reference := (payload.transactionReference.or payload.transaction).filter (· ≠ "")
  if payload.event = "refund.processed" then
    reference.map (⟨·, .refunded, payload.amount.map (· / 100)⟩)
  else if payload.event = "dispute.create" ∨ payload.event = "dispute.remind" then
    reference.map (⟨·, .disputeCreated, none⟩)
  else none

/-- `parseRefundWebhookEvent`, once the body is parsed.  A request that fails throws, which
`handleRefundWebhook` catches. -/
def FlutterwaveAdapter.parseRefund (payload : FlutterwaveRefundWebhookPayload) :
    Option RefundNotice :=
  if payload.event ≠ "refund.completed" ∨ isBlank payload.chargeId then none
  else
    match payload.verification with
    | some (true, txRef) =>
      (txRef.filter (· ≠ "")).map (⟨·, .refunded, payload.amountRefunded⟩)
    | _ => none

namespace RefundWebhook

/-- The provider whose route the request is on. -/
def provider : RefundWebhook → PaymentProvider
  | stripe _ _ => .stripe
  | paystack _ _ => .paystack
  | flutterwave _ _ => .flutterwave

/-- What `handleRefundWebhook` gets from the adapter. -/
def parse : RefundWebhook → Option RefundNotice
  | stripe verified event =>
    if verified then event.bind StripeAdapter.parseRefundOrDispute else none
  | paystack verified payload =>
    if verified then payload.bind PaystackAdapter.parseRefundOrDispute else none
  | flutterwave verified payload =>
    if verified then payload.bind FlutterwaveAdapter.parseRefund else none

end RefundWebhook

/-- A call of the refund flow by itself, for a number of awaited calls none of which fails. -/
def refundAlone (w : World) (pc : RefundPc) : Nat → World × RefundPc
  | 0 => (w, pc)
  | n + 1 =>
    match refundStep w pc (.db .ok) with
    | none => (w, pc)
    | some (w', pc') => refundAlone w' pc' n

/-- `handleRefundWebhook` by itself: it looks the order up, claims it, reads it back, saves it and
records a clawback. -/
def World.handleRefundWebhook (w : World) (webhook : RefundWebhook) : World × RefundPc :=
  match webhook.parse with
  | none => (w, .returned)
  | some notice => refundAlone w (.webhookFind webhook.provider notice) 5

/-- One webhook after the other. -/
def World.handleRefundWebhooks (w : World) : List RefundWebhook → World
  | [] => w
  | webhook :: webhooks => (w.handleRefundWebhook webhook).1.handleRefundWebhooks webhooks

/-! ## What providers announce -/

/-- A refund that a provider made: the reference of the charge's session, and the money. -/
structure ChargeRefund where
  reference : String
  amount : ℚ≥0
  deriving DecidableEq

/-- The money refunded so far. -/
def refundedSoFar (refunds : List ChargeRefund) : ℚ≥0 := (refunds.map (·.amount)).sum

/-- The money refunded so far of one charge. -/
def refundedOf (reference : String) (refunds : List ChargeRefund) : ℚ≥0 :=
  refundedSoFar (refunds.filter (·.reference = reference))

/-- What a provider announces when it makes a refund after the earlier ones. -/
def announcement (refund : ChargeRefund) (earlier : List ChargeRefund) :
    PaymentProvider → ChargeRefund
  | .stripe => ⟨refund.reference, refundedOf refund.reference (refund :: earlier)⟩
  | .paystack => refund
  | .flutterwave => refund

/-- What a provider announces of its refunds, the latest first. -/
def announced (provider : PaymentProvider) : List ChargeRefund → List ChargeRefund
  | [] => []
  | refund :: earlier => announcement refund earlier provider :: announced provider earlier

/-- A verified webhook that announces a refund. -/
def RefundWebhook.Announces (refund : ChargeRefund) : RefundWebhook → Prop
  | .stripe verified event => verified = true ∧ ∃ e, event = some e ∧
      e.type = "charge.refunded" ∧ isBlank e.paymentIntent = false ∧
      e.session = some refund.reference ∧ e.amountRefunded = some ((refund.amount : ℚ) * 100)
  | .paystack verified payload => verified = true ∧ ∃ p, payload = some p ∧
      p.event = "refund.processed" ∧
      p.transactionReference.or p.transaction = some refund.reference ∧ refund.reference ≠ "" ∧
      p.amount = some ((refund.amount : ℚ) * 100)
  | .flutterwave verified payload => verified = true ∧ ∃ p, payload = some p ∧
      p.event = "refund.completed" ∧ isBlank p.chargeId = false ∧
      p.verification = some (true, some refund.reference) ∧ refund.reference ≠ "" ∧
      p.amountRefunded = some refund.amount

section Announced

variable {provider : PaymentProvider} {refunds : List ChargeRefund} {refund e : ChargeRefund}
  {reference : String}

/-- An announced refund comes through the parser as it is. -/
theorem RefundWebhook.Announces.parse {webhook : RefundWebhook} (h : webhook.Announces refund) :
    webhook.parse = some ⟨refund.reference, .refunded, some (refund.amount : ℚ)⟩ := by
  have hcents : (refund.amount : ℚ) * 100 / 100 = refund.amount :=
    mul_div_cancel_right₀ _ (by norm_num)
  cases webhook with
  | stripe verified event =>
    obtain ⟨rfl, e, rfl, htype, hintent, hsession, hamount⟩ := h
    simp [RefundWebhook.parse, StripeAdapter.parseRefundOrDispute, htype, hintent, hsession,
      hamount]
  | paystack verified payload =>
    obtain ⟨rfl, p, rfl, hevent, href, hne, hamount⟩ := h
    simp [RefundWebhook.parse, PaystackAdapter.parseRefundOrDispute, hevent, href, hne, hamount,
      Option.filter]
  | flutterwave verified payload =>
    obtain ⟨rfl, p, rfl, hevent, hcharge, hverified, hne, hamount⟩ := h
    simp [RefundWebhook.parse, FlutterwaveAdapter.parseRefund, hevent, hcharge, hverified, hne,
      hamount, Option.filter]

@[simp] theorem refundedSoFar_cons :
    refundedSoFar (refund :: refunds) = refund.amount + refundedSoFar refunds := by
  rw [refundedSoFar, List.map_cons, List.sum_cons, refundedSoFar]

/-- What was refunded of a charge is part of what was refunded. -/
theorem refundedOf_le : refundedOf reference refunds ≤ refundedSoFar refunds := by
  induction refunds with
  | nil => exact le_refl _
  | cons refund earlier ih =>
    rw [refundedOf, List.filter_cons]
    split
    · rw [refundedSoFar_cons, refundedSoFar_cons]
      exact add_le_add_right ih _
    · rw [refundedSoFar_cons]
      exact ih.trans (le_add_of_nonneg_left zero_le)

/-- No announcement exceeds what was refunded. -/
theorem amount_le_of_announced (h : e ∈ announced provider refunds) :
    e.amount ≤ refundedSoFar refunds := by
  induction refunds with
  | nil => exact absurd h List.not_mem_nil
  | cons refund earlier ih =>
    rcases List.mem_cons.mp h with rfl | h
    · cases provider with
      | stripe => exact refundedOf_le
      | paystack =>
        rw [refundedSoFar_cons]
        exact le_add_of_nonneg_right zero_le
      | flutterwave =>
        rw [refundedSoFar_cons]
        exact le_add_of_nonneg_right zero_le
    · rw [refundedSoFar_cons]
      exact (ih h).trans (le_add_of_nonneg_left zero_le)

/-- An announcement is one of a charge that was refunded. -/
theorem exists_refund_of_announced (h : e ∈ announced provider refunds) :
    ∃ refund ∈ refunds, refund.reference = e.reference := by
  induction refunds with
  | nil => exact absurd h List.not_mem_nil
  | cons refund earlier ih =>
    rcases List.mem_cons.mp h with rfl | h
    · exact ⟨refund, List.mem_cons_self, by cases provider <;> rfl⟩
    · obtain ⟨r, hr, href⟩ := ih h
      exact ⟨r, List.mem_cons_of_mem _ hr, href⟩

/-- The latest announcement of Stripe for a charge is all that was refunded of it. -/
theorem stripe_announces_all (h : refund ∈ refunds) :
    ⟨refund.reference, refundedOf refund.reference refunds⟩ ∈ announced .stripe refunds := by
  induction refunds with
  | nil => exact absurd h List.not_mem_nil
  | cons latest earlier ih =>
    by_cases href : latest.reference = refund.reference
    · rw [← href]
      exact List.mem_cons_self
    · have hmem : refund ∈ earlier := by
        rcases List.mem_cons.mp h with rfl | h
        · exact absurd rfl href
        · exact h
      have hsame : refundedOf refund.reference (latest :: earlier) =
          refundedOf refund.reference earlier := by
        rw [refundedOf, List.filter_cons_of_neg (by simpa using href), refundedOf]
      rw [hsame]
      exact List.mem_cons_of_mem _ (ih hmem)

/-- The others announce each refund. -/
theorem announces_each (hp : provider ≠ .stripe) : announced provider refunds = refunds := by
  induction refunds with
  | nil => rfl
  | cons refund earlier ih =>
    rw [announced, ih]
    cases provider with
    | stripe => exact absurd rfl hp
    | paystack => rfl
    | flutterwave => rfl

end Announced

/-! ## One webhook -/

/-- The total less the cent that `handleRefundWebhook` allows for rounding, as a number. -/
def Order.nearlyTotal (o : Order) : ℚ := toNumber (toNumber o.total.val - toNumber (1 / 100))

/-- The total itself is enough. -/
theorem Order.nearlyTotal_le {o : Order} {amount : ℚ} (h : o.total.val ≤ amount) :
    o.nearlyTotal ≤ toNumber amount :=
  (toNumber_sub_le (by norm_num)).trans (toNumber_mono h)

/-- What claiming an order for a refund and finalizing it make of it. -/
def Order.refundedAt (o : Order) (now : Time) : Order :=
  { o with status := .refunded }.saveFinalizedRefund now

/-- The order, as every reference that was refunded finds it. -/
structure Named (w : World) (id : OrderId) (refunds : List ChargeRefund) (d : Order) : Prop where
  get : w.orders.get id = some d
  found : ∀ refund ∈ refunds, w.findByPaymentRef refund.reference = some (id, d)

section Webhook

variable {w w' : World} {id : OrderId} {order d d' : Order} {refunds : List ChargeRefund}
  {refund e : ChargeRefund} {webhook : RefundWebhook} {webhooks : List RefundWebhook}

theorem isPartial_iff {reference : String} :
    RefundPc.isPartial d ⟨reference, .refunded, some (e.amount : ℚ)⟩ = true ↔
      toNumber e.amount < d.nearlyTotal := by
  rw [RefundPc.isPartial, decide_eq_true_eq, Order.nearlyTotal]

/-- A write to the order that leaves its references alone. -/
theorem Named.of_write (h : Named w id refunds d) (hd : w'.orders.get id = some d')
    (hother : ∀ j, j ≠ id → w'.orders.get j = w.orders.get j)
    (href : ∀ reference, d'.matchesPaymentRef reference = d.matchesPaymentRef reference) :
    Named w' id refunds d' := by
  refine ⟨hd, fun refund hr => ?_⟩
  obtain ⟨_, hmatch, hfirst⟩ := Collection.head?_find_eq_some.mp (h.found refund hr)
  refine Collection.head?_find_eq_some.mpr ⟨hd, (href _).trans hmatch, fun j b hj hb => ?_⟩
  rw [hother j hj.ne] at hb
  exact hfirst j b hj hb

/-- A claim that goes through is carried to its end. -/
theorem refundAlone_claimed (hd : w.orders.get id = some d) (hs : d.status ∈ refundableStatuses)
    (hp : d.paymentStatus = .succeeded) (hf : d.refundReconciliationRequired = false) :
    ∃ w', refundAlone w (.webhookClaim id) 4 = (w', .returned) ∧
      w'.orders.get id = some (d.refundedAt w.now) ∧
      ∀ j, j ≠ id → w'.orders.get j = w.orders.get j := by
  have hclaim : d.claimForRefund = some { d with status := .refunded } :=
    Order.claimForRefund_eq_some.mpr ⟨⟨hs, hp, hf⟩, rfl⟩
  have hup : w.updates id Order.claimForRefund = true := updates_iff.mpr ⟨d, _, hd, hclaim⟩
  let w₁ := w.updateOrder id Order.claimForRefund
  let w₂ := w₁.modifyOrder id (·.saveFinalizedRefund w₁.now)
  have hd₁ : w₁.orders.get id = some { d with status := .refunded } := get_updateOrder hd hclaim
  have hd₂ : w₂.orders.get id = some (d.refundedAt w.now) := by
    show (w₁.orders.modify id _).get id = _
    rw [Collection.get_modify_self, hd₁]
    rfl
  have hother : ∀ j, j ≠ id → w₂.orders.get j = w.orders.get j := fun j hj =>
    (Collection.get_modify_ne (Ne.symm hj)).trans (Collection.get_modify_ne (Ne.symm hj))
  have hrun : refundAlone w (.webhookClaim id) 4 =
      refundAlone w₂ (RefundPc.afterFinalize id { d with status := .refunded }) 1 := by
    have hstep : refundStep w (.webhookClaim id) (.db .ok) = some (w₁, .finalizeRead id) := by
      simp only [refundStep, hup]
      rfl
    have hread : refundStep w₁ (.finalizeRead id) (.db .ok) =
        some (w₁, .finalizeSave id { d with status := .refunded }) := by
      simp only [refundStep, hd₁]
      rfl
    rw [refundAlone, hstep]
    show refundAlone w₁ (.finalizeRead id) 3 = _
    rw [refundAlone, hread]
    rfl
  rw [hrun, RefundPc.afterFinalize]
  split
  · exact ⟨w₂, rfl, hd₂, hother⟩
  · exact ⟨_, rfl, hd₂, hother⟩

/-- **What an announced refund does to its order**: a partial one nothing, any other makes it
`REFUNDED`. -/
theorem handleRefundWebhook_announced (hn : Named w id refunds d) (ha : webhook.Announces e)
    (href : ∃ refund ∈ refunds, refund.reference = e.reference)
    (hprovider : webhook.provider = d.paymentProvider) (hs : d.status ∈ refundableStatuses)
    (hp : d.paymentStatus = .succeeded) (hf : d.refundReconciliationRequired = false) :
    ∃ w' d', w.handleRefundWebhook webhook = (w', .returned) ∧ Named w' id refunds d' ∧
      d' = if toNumber e.amount < d.nearlyTotal then d else d.refundedAt w.now := by
  obtain ⟨refund, hr, href⟩ := href
  have hfound : w.findByPaymentRef e.reference = some (id, d) := href ▸ hn.found refund hr
  have hopen : d.status ≠ .refunded := by
    rintro hrefunded
    rw [hrefunded] at hs
    exact absurd hs (by decide)
  have hrun : w.handleRefundWebhook webhook =
      refundAlone w
        (if toNumber e.amount < d.nearlyTotal then .returned else .webhookClaim id) 4 := by
    rw [World.handleRefundWebhook, ha.parse]
    simp only [refundAlone, refundStep, hfound, DbReply.settle, RefundPc.afterWebhookFind,
      hprovider, isPartial_iff, hopen, ne_eq, not_true_eq_false, reduceCtorEq, if_false]
  rw [hrun]
  split
  · exact ⟨w, d, rfl, hn, rfl⟩
  · obtain ⟨w', hend, hd', hother⟩ := refundAlone_claimed hn.get hs hp hf
    exact ⟨w', d.refundedAt w.now, hend, hn.of_write hd' hother fun _ => rfl, rfl⟩

/-- A refunded order is left alone. -/
theorem handleRefundWebhook_refunded (hn : Named w id refunds d) (ha : webhook.Announces e)
    (href : ∃ refund ∈ refunds, refund.reference = e.reference)
    (hprovider : webhook.provider = d.paymentProvider) (hd : d.Refunded) :
    w.handleRefundWebhook webhook = (w, .returned) := by
  obtain ⟨refund, hr, href⟩ := href
  have hfound : w.findByPaymentRef e.reference = some (id, d) := href ▸ hn.found refund hr
  rw [World.handleRefundWebhook, ha.parse]
  simp only [refundAlone, refundStep, hfound, DbReply.settle, RefundPc.afterWebhookFind, hprovider,
    hd.status, ne_eq, not_true_eq_false, reduceCtorEq, if_false, if_true]

/-! ## All webhooks -/

/-- The webhooks are announcements of the refunds, by the order's provider. -/
def Announced (order : Order) (refunds : List ChargeRefund) (webhooks : List RefundWebhook) :
    Prop :=
  ∀ webhook ∈ webhooks, webhook.provider = order.paymentProvider ∧
    ∃ e ∈ announced order.paymentProvider refunds, webhook.Announces e

/-- Every announcement is among the webhooks. -/
def AllAnnounced (order : Order) (refunds : List ChargeRefund) (webhooks : List RefundWebhook) :
    Prop :=
  ∀ e ∈ announced order.paymentProvider refunds, ∃ webhook ∈ webhooks, webhook.Announces e

theorem handleRefundWebhooks_refunded (hn : Named w id refunds d) (hd : d.Refunded)
    (ha : Announced d refunds webhooks) : w.handleRefundWebhooks webhooks = w := by
  induction webhooks with
  | nil => rfl
  | cons webhook webhooks ih =>
    obtain ⟨hprovider, e, he, hannounces⟩ := ha webhook List.mem_cons_self
    rw [World.handleRefundWebhooks, handleRefundWebhook_refunded hn hannounces
      (exists_refund_of_announced he) hprovider hd]
    exact ih fun x hx => ha x (List.mem_cons_of_mem _ hx)

/-- **The order is refunded when one of the webhooks reaches the total**, and is as it was
otherwise. -/
theorem handleRefundWebhooks_spec (hn : Named w id refunds order)
    (hs : order.status ∈ refundableStatuses) (hp : order.paymentStatus = .succeeded)
    (hf : order.refundReconciliationRequired = false) (ha : Announced order refunds webhooks) :
    ∃ d, (w.handleRefundWebhooks webhooks).orders.get id = some d ∧
      ((d.Refunded ∧ ∃ e ∈ announced order.paymentProvider refunds,
          order.nearlyTotal ≤ toNumber e.amount) ∨
        (d = order ∧ ∀ webhook ∈ webhooks, ∀ e, webhook.Announces e →
          toNumber e.amount < order.nearlyTotal)) := by
  induction webhooks generalizing w with
  | nil => exact ⟨order, hn.get, Or.inr ⟨rfl, fun _ h => absurd h List.not_mem_nil⟩⟩
  | cons webhook webhooks ih =>
    obtain ⟨hprovider, e, he, hannounces⟩ := ha webhook List.mem_cons_self
    have hrest : Announced order refunds webhooks := fun x hx => ha x (List.mem_cons_of_mem _ hx)
    obtain ⟨w', d', hend, hn', hd'⟩ := handleRefundWebhook_announced hn hannounces
      (exists_refund_of_announced he) hprovider hs hp hf
    rw [World.handleRefundWebhooks, hend]
    split at hd'
    · rename_i hlt
      rw [hd'] at hn'
      obtain ⟨d, hd, hcase⟩ := ih hn' hrest
      refine ⟨d, hd, hcase.imp_right fun hkept => ⟨hkept.1, fun x hx e' hx' => ?_⟩⟩
      rcases List.mem_cons.mp hx with rfl | hx
      · have hnotice := Option.some.inj (hannounces.parse.symm.trans hx'.parse)
        have hamount : (e.amount : ℚ) = e'.amount :=
          Option.some.inj (congrArg RefundNotice.amountRefunded hnotice)
        exact hamount ▸ hlt
      · exact hkept.2 x hx e' hx'
    · rename_i hle
      rw [hd'] at hn'
      rw [handleRefundWebhooks_refunded hn' ⟨rfl, rfl⟩ hrest]
      exact ⟨_, hn'.get, Or.inl ⟨⟨rfl, rfl⟩, e, he, not_lt.mp hle⟩⟩

/-- The most that a provider announces for a charge that was refunded: all that was refunded of
it, or one refund. -/
def mostAnnounced (refunds : List ChargeRefund) (refund : ChargeRefund) : PaymentProvider → ℚ≥0
  | .stripe => refundedOf refund.reference refunds
  | .paystack => refund.amount
  | .flutterwave => refund.amount

theorem exists_announced_most (hr : refund ∈ refunds) (provider : PaymentProvider) :
    ∃ e ∈ announced provider refunds, e.amount = mostAnnounced refunds refund provider := by
  cases provider with
  | stripe => exact ⟨_, stripe_announces_all hr, rfl⟩
  | paystack =>
    have hne : PaymentProvider.paystack ≠ .stripe := by decide
    exact ⟨refund, (announces_each hne).symm ▸ hr, rfl⟩
  | flutterwave =>
    have hne : PaymentProvider.flutterwave ≠ .stripe := by decide
    exact ⟨refund, (announces_each hne).symm ▸ hr, rfl⟩

/-- **An order is `REFUNDED` once a charge of Stripe's, or a refund of the others', reaches its
total up to a cent**, whatever the order of the webhooks and however often they come; as long as
all refunds together, as a number, stay below that nothing happens to it. -/
theorem partial_refunds_spec (hn : Named w id refunds order)
    (hs : order.status ∈ refundableStatuses) (hp : order.paymentStatus = .succeeded)
    (hf : order.refundReconciliationRequired = false) (ha : Announced order refunds webhooks) :
    ∃ d, (w.handleRefundWebhooks webhooks).orders.get id = some d ∧
      (AllAnnounced order refunds webhooks → ∀ refund ∈ refunds,
        (order.nearlyTotal ≤ toNumber (mostAnnounced refunds refund order.paymentProvider) ∨
          order.total.val ≤ mostAnnounced refunds refund order.paymentProvider) → d.Refunded) ∧
      (toNumber (refundedSoFar refunds) < order.nearlyTotal → d = order) := by
  obtain ⟨d, hd, hcase⟩ := handleRefundWebhooks_spec hn hs hp hf ha
  refine ⟨d, hd, fun hall refund hr hreach => ?_, fun hbelow => ?_⟩
  · have hreach := hreach.elim (fun h => h) Order.nearlyTotal_le
    rcases hcase with ⟨hrefunded, _⟩ | ⟨_, hshort⟩
    · exact hrefunded
    · obtain ⟨e, he, hmost⟩ := exists_announced_most hr order.paymentProvider
      obtain ⟨webhook, hw, hannounces⟩ := hall e he
      have hlt := hshort webhook hw e hannounces
      rw [hmost] at hlt
      exact absurd hreach (not_le.mpr hlt)
  · rcases hcase with ⟨_, e, he, hreach⟩ | ⟨hkept, _⟩
    · have hle : toNumber e.amount ≤ toNumber (refundedSoFar refunds) :=
        toNumber_mono (NNRat.cast_le.mpr (amount_le_of_announced he))
      exact absurd (hreach.trans hle) (not_le.mpr hbelow)
    · exact hkept

end Webhook

section Examples

/-- A delivered order of 10.00, paid with the session `ref_1`. -/
def deliveredForTen (provider : PaymentProvider) : Order :=
  { Order.created (.restaurant 0) 1 0 "USD" provider (.ofCents 0) (.ofCents 1000) (.ofCents 0) with
    status := .delivered
    paymentStatus := .succeeded
    paymentRef := some "ref_1"
    paymentRefs := ["ref_1"] }

def soleOrder (order : Order) : World := (World.empty []).createOrder order

/-- The webhook of a provider that announces a refund. -/
def announcing (refund : ChargeRefund) : PaymentProvider → RefundWebhook
  | .stripe => .stripe true (some
      ⟨"charge.refunded", some "pi_1", some ((refund.amount : ℚ) * 100), some refund.reference⟩)
  | .paystack => .paystack true
      (some ⟨"refund.processed", some refund.reference, none, some ((refund.amount : ℚ) * 100)⟩)
  | .flutterwave => .flutterwave true
      (some ⟨"refund.completed", some "1", some refund.amount, some (true, some refund.reference)⟩)

theorem announcing_announces {refund : ChargeRefund} (h : refund.reference ≠ "")
    (provider : PaymentProvider) : (announcing refund provider).Announces refund := by
  cases provider with
  | stripe => exact ⟨rfl, _, rfl, rfl, rfl, rfl, rfl⟩
  | paystack => exact ⟨rfl, _, rfl, rfl, rfl, h, rfl⟩
  | flutterwave => exact ⟨rfl, _, rfl, rfl, rfl, rfl, h, rfl⟩

section SoleOrder

variable {provider : PaymentProvider} {refunds : List ChargeRefund}

theorem named_soleOrder (h : ∀ refund ∈ refunds, refund.reference = "ref_1") :
    Named (soleOrder (deliveredForTen provider)) 0 refunds (deliveredForTen provider) where
  get := rfl
  found refund hr := by
    rw [h refund hr]
    rfl

/-- Every announcement, in the order they were made and once more the other way round. -/
def announceTwice (provider : PaymentProvider) (refunds : List ChargeRefund) :
    List RefundWebhook :=
  ((announced provider refunds).reverse ++ announced provider refunds).map (announcing · provider)

theorem announced_announceTwice (h : ∀ refund ∈ refunds, refund.reference = "ref_1") :
    Announced (deliveredForTen provider) refunds (announceTwice provider refunds) ∧
      AllAnnounced (deliveredForTen provider) refunds (announceTwice provider refunds) := by
  have hannounces : ∀ e ∈ announced provider refunds, (announcing e provider).Announces e := by
    intro e he
    obtain ⟨refund, hr, href⟩ := exists_refund_of_announced he
    refine announcing_announces ?_ provider
    rw [← href, h refund hr]
    decide
  constructor
  · intro webhook hw
    obtain ⟨e, he, rfl⟩ := List.mem_map.mp hw
    have hmem : e ∈ announced provider refunds := by simpa using he
    refine ⟨?_, e, hmem, hannounces e hmem⟩
    cases provider <;> rfl
  · intro e he
    exact ⟨_, List.mem_map_of_mem (List.mem_append_right _ he), hannounces e he⟩

end SoleOrder

/-- Stripe refunds 6.00 and then 4.00. -/
theorem partial_refunds_spec_stripe : ∃ d,
    ((soleOrder (deliveredForTen .stripe)).handleRefundWebhooks
      (announceTwice .stripe [⟨"ref_1", 4⟩, ⟨"ref_1", 6⟩])).orders.get 0 = some d ∧
      d.Refunded := by
  have href : ∀ refund ∈ [(⟨"ref_1", 4⟩ : ChargeRefund), ⟨"ref_1", 6⟩],
      refund.reference = "ref_1" := by simp
  have hs : (deliveredForTen .stripe).status ∈ refundableStatuses := by decide
  obtain ⟨hsent, hall⟩ := announced_announceTwice href
  obtain ⟨d, hd, hreach, _⟩ := partial_refunds_spec (named_soleOrder href) hs rfl rfl hsent
  exact ⟨d, hd, hreach hall _ List.mem_cons_self (Or.inr (by decide +kernel))⟩

/-- **A refund one cent short of the total makes the order `REFUNDED`.** -/
theorem refunded_short_of_total :
    ¬ ∀ (w : World) (id : OrderId) (order : Order) (refunds : List ChargeRefund)
      (webhooks : List RefundWebhook), Named w id refunds order →
      order.status ∈ refundableStatuses → order.paymentStatus = .succeeded →
      Announced order refunds webhooks → AllAnnounced order refunds webhooks →
        ∃ d, (w.handleRefundWebhooks webhooks).orders.get id = some d ∧
          (order.total.val ≤ refundedSoFar refunds → d.status = .refunded) ∧
          ((refundedSoFar refunds : ℚ) < order.total.val → d.status ≠ .refunded) := by
  intro hall
  have href : ∀ refund ∈ [(⟨"ref_1", 999 / 100⟩ : ChargeRefund)], refund.reference = "ref_1" := by
    simp
  have hs : (deliveredForTen .stripe).status ∈ refundableStatuses := by decide
  obtain ⟨hsent, hevery⟩ := announced_announceTwice href
  obtain ⟨d, hd, _, hbelow⟩ := hall _ 0 _ _ _ (named_soleOrder href) hs rfl hsent hevery
  have hstatus : ((((soleOrder (deliveredForTen .stripe)).handleRefundWebhooks
      (announceTwice .stripe [⟨"ref_1", 999 / 100⟩])).orders.get 0).map fun (d : Order) =>
        d.status) = some .refunded := by
    decide +kernel
  rw [hd, Option.map_some, Option.some.injEq] at hstatus
  exact hbelow (by decide +kernel) hstatus

/-- Where the numbers round the other way, a cent short is a partial refund. -/
example : RefundPc.isPartial { deliveredForTen .stripe with total := .ofCents 202 }
    ⟨"ref_1", .refunded, some (201 / 100)⟩ = true := by
  decide +kernel

/-- Two refunds of Paystack that make up the total: neither reaches it. -/
example : ((((soleOrder (deliveredForTen .paystack)).handleRefundWebhooks
    (announceTwice .paystack [⟨"ref_1", 5⟩, ⟨"ref_1", 5⟩])).orders.get 0).map fun (d : Order) =>
      d.status) = some .delivered := by
  decide +kernel

end Examples

end FoodDelivery
