import FoodDelivery.Payments.Runs

/-!
# What an order is marked paid for

`initiate` asks a provider for the whole order, in its currency.  What comes back from a webhook
or from `verify` is a reference and whether the charge went through: `WebhookEvent` and
`VerifyPaymentResult` carry no amount and no currency, and nothing compares them
(`handleWebhook_withMoney`, `verify_withMoney`).

* `marked_paid_for_session`: a call that is about to mark an order paid has seen a paid charge,
  and the charge covers the order when the provider captured what one of its sessions asked for.
* `marked_paid_short`: a cent of another currency will do.
-/

namespace FoodDelivery

open Store Interleave

namespace Checkout

/-- The stored order has this price. -/
def Priced (c : Checkout) (id : OrderId) (total : Price) (currency : String) : Prop :=
  ∃ d, c.world.orders.get id = some d ∧ d.total = total ∧ d.currency = currency

/-- Every session asks for its order's price. -/
def Exact (c : Checkout) : Prop :=
  ∀ a ∈ c.issued, ∃ total, c.Priced a.orderId total a.currency ∧
    a.amount = a.provider.sessionAmount total.val

end Checkout

/-- The charge behind a success went through. -/
def Confirmation.Paid (k : Confirmation) : Prop := k.charge.status = some k.provider.paidStatus

/-- What a call relies on: the price of the order it loaded, the charge of a success. -/
def Charged (c : Checkout) : CheckoutPc → Prop
  | .payment (.initiating id order _) => c.Priced id order.total order.currency
  | .payment (.webhookFind event source) => event.success = true → source.Paid
  | .payment (.markPaid _ source) => source.Paid
  | _ => True

section Steps

variable {dir : Directory} {c c' : Checkout} {s s' : Shop} {e : ShopEvent} {id : OrderId}
  {total : Price} {currency : String} {d d' : Order} {pc pc' : PaymentPc} {r : PaymentReply}

theorem samePrice_of_paymentWrite (h : PaymentWrite c id pc d d') :
    d'.total = d.total ∧ d'.currency = d.currency := by
  cases h with
  | unchanged => exact ⟨rfl, rfl⟩
  | attempted => exact ⟨rfl, rfl⟩
  | paid hpc h =>
    obtain ⟨_, rfl⟩ := Order.markPaidFromWebhook_eq_some h
    exact ⟨rfl, rfl⟩
  | failed hpc =>
    rw [Order.saveMarkPaymentFailed_eq]
    exact ⟨rfl, rfl⟩

theorem samePrice_of_refundWrite {pc : RefundPc} (h : RefundWrite id pc d d') :
    d'.total = d.total ∧ d'.currency = d.currency := by
  cases h with
  | unchanged => exact ⟨rfl, rfl⟩
  | claimed h =>
    obtain ⟨_, rfl⟩ := Order.claimForRefund_eq_some.mp h
    exact ⟨rfl, rfl⟩
  | flagged _ h =>
    obtain ⟨_, rfl⟩ := Order.flagAmbiguousRefund_eq_some.mp h
    exact ⟨rfl, rfl⟩
  | reverted _ h =>
    obtain ⟨_, rfl⟩ := Order.revertFailedRefundClaim_eq_some.mp h
    exact ⟨rfl, rfl⟩
  | disputed => exact ⟨rfl, rfl⟩
  | cleared => exact ⟨rfl, rfl⟩
  | reconciled h =>
    obtain ⟨_, rfl⟩ := Order.claimReconciledRefund_eq_some.mp h
    exact ⟨rfl, rfl⟩
  | finalized => exact ⟨rfl, rfl⟩

/-- **No event changes the price of an order.** -/
theorem priced_of_next (hs : (checkout dir).next s e = some s')
    (h : s.shared.Priced id total currency) : s'.shared.Priced id total currency := by
  obtain ⟨d, hd, ht, hc⟩ := h
  obtain ⟨d', hd', hw⟩ := order_of_shopNext hs hd
  have hsame : d'.total = d.total ∧ d'.currency = d.currency := by
    cases hw with
    | progress h => exact ⟨h.total, h.currency⟩
    | payment _ _ h => exact samePrice_of_paymentWrite h
    | refund _ _ h => exact samePrice_of_refundWrite h
  exact ⟨d', hd', hsame.1.trans ht, hsame.2.trans hc⟩

theorem charged_of_priced (hmono : ∀ id total currency, c.Priced id total currency →
    c'.Priced id total currency) {p : CheckoutPc} (h : Charged c p) : Charged c' p := by
  cases p with
  | refund pc => trivial
  | payment pc =>
    cases pc with
    | initiating id order provider => exact hmono _ _ _ h
    | webhookFind event source => exact h
    | markPaid id source => exact h
    | _ => trivial

/-- A step of a payment call gives it what it relies on. -/
theorem charged_of_move (hA : Charged c (.payment pc)) (hm : PaymentMove c pc r c' pc') :
    Charged c' (.payment pc') := by
  cases hm with
  | initiating hd hs => exact ⟨_, hd, rfl, rfl⟩
  | @reported provider request event charge h hs =>
    intro _
    obtain ⟨_, rfl⟩ := handleWebhook_eq_event h
    have hpaid : charge.status = some provider.paidStatus := of_decide_eq_true hs
    exact hpaid
  | declined h hs =>
    intro hs'
    cases hs.symm.trans hs'
  | found hf hp hs => exact hA hs
  | verified h => exact verify_eq_some h
  | _ => trivial

end Steps

/-! ## Every run -/

/-- Every session is exact, and every call relies on what was charged. -/
def amounts : Outline Checkout CheckoutPc where
  shared := Checkout.Exact
  proc := Charged
  compat _ _ := True
  symm _ _ _ := trivial

section Runs

variable {dir : Directory}

theorem exact_of_issued {c c' : Checkout} (hc : c.Exact) (hissued : c'.issued = c.issued)
    (hmono : ∀ id total currency, c.Priced id total currency → c'.Priced id total currency) :
    c'.Exact := by
  intro a ha
  rw [hissued] at ha
  obtain ⟨total, hprice, hamount⟩ := hc a ha
  exact ⟨total, hmono _ _ _ hprice, hamount⟩

/-- A payment call opens only exact sessions. -/
theorem exact_of_move {c c' : Checkout} {pc pc' : PaymentPc} {r : PaymentReply} (hc : c.Exact)
    (hA : Charged c (.payment pc)) (hm : PaymentMove c pc r c' pc')
    (hmono : ∀ id total currency, c.Priced id total currency → c'.Priced id total currency) :
    c'.Exact := by
  cases hm with
  | issued id order provider reference =>
    intro a ha
    rcases List.mem_append.mp ha with ha | ha
    · obtain ⟨total, hprice, hamount⟩ := hc a ha
      exact ⟨total, hmono _ _ _ hprice, hamount⟩
    · rw [List.mem_singleton.mp ha]
      exact ⟨order.total, hmono _ _ _ hA, rfl⟩
  | _ => exact exact_of_issued hc rfl hmono

theorem amounts_kept : amounts.Kept (checkout dir) (fun _ _ => True) fun _ => True where
  spawn s k _ _ _ := by
    refine ⟨?_, fun _ _ => trivial⟩
    cases k <;> trivial
  env s e c' _ _ hs hw := by
    have hmono : ∀ id total currency, s.shared.Priced id total currency →
        c'.Priced id total currency := by
      intro id total currency h
      have hnext : (checkout dir).next s (.env e) = some ⟨c', s.procs⟩ := by
        rw [Machine.next, hw]
        rfl
      exact priced_of_next hnext h
    obtain ⟨w, rfl⟩ := envCheckout_eq hw
    exact ⟨exact_of_issued hs.shared rfl hmono,
      fun q hq => charged_of_priced hmono (hs.procs q hq)⟩
  run s i r p c' p' _ _ hs hp hstep := by
    have hmono : ∀ id total currency, s.shared.Priced id total currency →
        c'.Priced id total currency := by
      intro id total currency h
      have hnext : (checkout dir).next s (.run i r) = some ⟨c', s.procs.set i p'⟩ := by
        simp only [Machine.next, hp, hstep, Option.map_some]
      exact priced_of_next hnext h
    have hA : Charged s.shared p := hs.at hp
    cases checkout_move hstep with
    | payment hm =>
      exact ⟨exact_of_move hs.shared hA hm hmono, charged_of_move hA hm,
        fun j q _ _ hq _ => ⟨charged_of_priced hmono hq, trivial⟩⟩
    | refund =>
      exact ⟨exact_of_issued hs.shared rfl hmono, trivial,
        fun j q _ _ hq _ => ⟨charged_of_priced hmono hq, trivial⟩⟩

/-- **A call that is about to mark an order paid has seen a paid charge, which covers the
order when the provider captured what one of the order's sessions asked for.**  The charge over any
other sum would have come to the same. -/
theorem marked_paid_for_session {vendors : List PayoutVendor} {s : Shop}
    (hs : (checkout dir).Reach (fun _ _ => True) (Shop.initial vendors) s) {i : Nat} {id : OrderId}
    {source : Confirmation} (hp : s.procs[i]? = some (.payment (.markPaid id source))) {d : Order}
    (hd : s.shared.world.orders.get id = some d) :
    source.charge.status = some source.provider.paidStatus ∧
      (∀ a ∈ s.shared.issued, a.orderId = id → a.provider = source.provider →
        source.charge.amount = a.amount → source.charge.currency = a.currency →
          source.charge.currency = d.currency ∧
            d.total.val ≤ source.provider.major source.charge.amount) ∧
      ∀ (provider : PaymentProvider) (amount : ℚ) (currency : String),
        (∀ request, provider.handleWebhook (request.withMoney amount currency) =
          (provider.handleWebhook request).withMoney amount currency) ∧
        ∀ response, provider.verify (response.withMoney amount currency) =
          (provider.verify response).map (·.withMoney amount currency) := by
  have hholds : amounts.Holds s := by
    refine Outline.holds_of_reach amounts_kept (fun _ _ => trivial) (Outline.holds_nil ?_) hs
    intro a ha
    exact absurd ha List.not_mem_nil
  refine ⟨hholds.at hp, ?_, fun provider amount currency =>
    ⟨fun request => handleWebhook_withMoney amount currency,
      fun response => verify_withMoney amount currency⟩⟩
  intro a ha hid hprovider hamount hcurrency
  obtain ⟨total, ⟨d₁, hd₁, htotal, hcur⟩, hasked⟩ := hholds.shared a ha
  rw [hid, hd] at hd₁
  obtain rfl := Option.some.inj hd₁
  refine ⟨hcurrency.trans hcur.symm, ?_⟩
  have hmajor : source.provider.major source.charge.amount = d.total.val := by
    rw [hamount, hasked, hprovider, PaymentProvider.major_sessionAmount, htotal]
  exact le_of_eq hmajor.symm

end Runs

section Examples

/-- What Stripe confirms with `stripePaid`. -/
def stripeSuccess : Confirmation :=
  ⟨.stripe, some "cs_1", ⟨some "cs_1", some "paid", 1500, "USD"⟩⟩

theorem marked_paid_for_session_stripe : ∃ s : Shop, ∃ source d,
    s.procs[1]? = some (.payment (.markPaid 0 source)) ∧ s.shared.world.orders.get 0 = some d ∧
      source.charge.currency = d.currency ∧
        d.total.val ≤ source.provider.major source.charge.amount := by
  obtain ⟨s, hs, hP⟩ := exists_shop (fun _ _ => true)
    (fun s => decide (s.procs[1]? = some (CheckoutPc.payment (.markPaid 0 stripeSuccess))) &&
      (s.shared.world.orders.get 0).isSome &&
      s.shared.issued.contains ⟨0, .stripe, "cs_1", 1500, "USD"⟩)
    (placeOrder .stripe :: .spawn (.initiatePayment 0 none) ::
      payments 0 [.done, .initiated (.ok "cs_1"), .done] ++
      .spawn (.handleWebhook .stripe stripePaid) :: payments 1 [.done, .done])
    (by decide +kernel)
  rw [Bool.and_eq_true, Bool.and_eq_true, decide_eq_true_eq, Option.isSome_iff_exists,
    List.contains_iff_mem] at hP
  obtain ⟨⟨hp, d, hd⟩, hissued⟩ := hP
  have hsession := (marked_paid_for_session (hs.mono fun _ _ _ => trivial) hp hd).2.1 _ hissued
    rfl rfl rfl rfl
  exact ⟨s, _, d, hp, hd, hsession⟩

/-- Flutterwave reports that one naira was paid for `tx_1`. -/
def nairaPaid : WebhookRequest :=
  ⟨true, some ⟨some "charge.completed", some ⟨some "tx_1", some "successful", 1, "NGN"⟩⟩⟩

/-- What Flutterwave confirms with it. -/
def nairaSuccess : Confirmation :=
  ⟨.flutterwave, some "tx_1", ⟨some "tx_1", some "successful", 1, "NGN"⟩⟩

/-- **One naira pays for an order of 15.00 dollars.** -/
theorem marked_paid_short :
    ¬ ∀ (dir : Directory) (vendors : List PayoutVendor) (s s' : Shop) (i : Nat) (id : OrderId)
      (source : Confirmation) (d d' : Order),
      (checkout dir).Reach (fun _ _ => True) (Shop.initial vendors) s →
      s.procs[i]? = some (.payment (.markPaid id source)) →
      (checkout dir).next s (.run i (.payment .done)) = some s' →
      s.shared.world.orders.get id = some d → d.status = .pendingPayment →
      s'.shared.world.orders.get id = some d' → d'.status = .placed →
        source.charge.currency = d.currency ∧
          d.total.val ≤ source.provider.major source.charge.amount := by
  intro hall
  obtain ⟨s, hs, hP⟩ := exists_shop (fun _ _ => true)
    (fun s => decide (s.procs[1]? = some (CheckoutPc.payment (.markPaid 0 nairaSuccess))) &&
      (s.shared.world.orders.get 0).any (fun (d : Order) =>
        decide (d.status = .pendingPayment) && decide (d.currency = "USD")) &&
      ((checkout soleOwner).next s (.run 1 (.payment .done))).any fun s' =>
        (s'.shared.world.orders.get 0).any fun (d : Order) => decide (d.status = .placed))
    (placeOrder .flutterwave :: .spawn (.initiatePayment 0 none) ::
      payments 0 [.done, .initiated (.ok "tx_1"), .done] ++
      .spawn (.handleWebhook .flutterwave nairaPaid) :: payments 1 [.done, .done])
    (by decide +kernel)
  rw [Bool.and_eq_true, Bool.and_eq_true, decide_eq_true_eq, Option.any_eq_true,
    Option.any_eq_true] at hP
  obtain ⟨⟨hp, d, hd, hunpaid⟩, s', hnext, hplaced⟩ := hP
  rw [Bool.and_eq_true, decide_eq_true_eq, decide_eq_true_eq] at hunpaid
  rw [Option.any_eq_true] at hplaced
  obtain ⟨d', hd', hplaced⟩ := hplaced
  have hsums := hall soleOwner soleRestaurant s s' 1 0 _ d d' (hs.mono fun _ _ _ => trivial) hp
    hnext hd hunpaid.1 hd' (of_decide_eq_true hplaced)
  rw [hunpaid.2] at hsums
  exact absurd hsums.1 (by decide)

end Examples

end FoodDelivery
