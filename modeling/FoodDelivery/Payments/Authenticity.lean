import FoodDelivery.Payments.Runs

/-!
# Authentic payments

An order should leave `PENDING_PAYMENT` only when the provider of one of its sessions reports
that session paid.  A webhook finds its order by the reference it carries, whoever opened a
session under it; a webhook without a reference finds the oldest order without one.

* `authentic_of_truthful`: as long as providers report only their own sessions, every order
  that was placed was paid.
* `placed_unpaid`: a webhook without a reference places an order that nobody tried to pay.
-/

namespace FoodDelivery

open Store Interleave

namespace Checkout

/-- A session for the order was opened under the reference. -/
def Opened (c : Checkout) (id : OrderId) (reference : String) : Prop :=
  ∃ a ∈ c.issued, a.orderId = id ∧ a.reference = reference

/-- The provider of one of the order's sessions reported it paid. -/
def Authentic (c : Checkout) (id : OrderId) : Prop :=
  ∃ a ∈ c.issued, a.orderId = id ∧
    ∃ k ∈ c.confirmed, k.provider = a.provider ∧ k.reference = some a.reference

/-- The order has left `PENDING_PAYMENT`. -/
def settled (c : Checkout) (id : OrderId) : Bool :=
  (c.world.orders.get id).any fun (d : Order) => decide (d.status ≠ .pendingPayment)

/-- There is a reference, and it is not that of a session with another provider. -/
def namesOwn (c : Checkout) (id : OrderId) (provider : PaymentProvider) : Option String → Bool
  | none => false
  | some reference => c.issued.all fun a =>
      decide (a.orderId = id → a.reference = reference → a.provider = provider)

end Checkout

/-- The success that a call is about to take for an unpaid order's is one of a session that
the reporting provider opened. -/
def PaymentPc.truthful (c : Checkout) : PaymentPc → PaymentReply → Bool
  | .webhookFind event source, _ =>
    !event.success || (c.findByPaymentRef event.reference).all fun (x : OrderId × Order) =>
      decide (x.2.paymentProvider ≠ source.provider) || c.settled x.1 ||
        c.namesOwn x.1 source.provider event.reference
  | .verifying id provider paymentRef, .verified (some response) =>
    (provider.verify response).isNone || c.settled id ||
      c.namesOwn id provider (some paymentRef)
  | _, _ => true

/-! ## What is known of orders and calls -/

/-- An order's references are those of its sessions, and it is past its payment only when one
of them was paid. -/
structure Traceable (c : Checkout) (id : OrderId) (d : Order) : Prop where
  paymentRef : ∀ reference, d.paymentRef = some reference → c.Opened id reference
  paymentRefs : ∀ reference ∈ d.paymentRefs, c.Opened id reference
  flagged : d.refundReconciliationRequired = true → d.status ≠ .pendingPayment
  authentic : d.status ≠ .pendingPayment → c.Authentic id

/-- What a call relies on. -/
def Grounds (c : Checkout) : CheckoutPc → Prop
  | .payment (.saveRef id _ _ reference) => c.Opened id reference
  | .payment (.webhookFind event source) => event.success = true →
    source ∈ c.confirmed ∧ source.reference = event.reference
  | .payment (.verifying id _ paymentRef) => c.Opened id paymentRef
  | .payment (.markPaid id _) => c.Authentic id
  | .refund pc => pc.GivesBack
  | _ => True

section Keeps

variable {c c' : Checkout} {id : OrderId} {d d' : Order} {provider : PaymentProvider}
  {reference : String}

theorem Checkout.Opened.mono (h : c.Opened id reference) (hg : c.Grows c') :
    c'.Opened id reference := by
  obtain ⟨a, ha, hid, href⟩ := h
  exact ⟨a, hg.issued a ha, hid, href⟩

theorem Checkout.Authentic.mono (h : c.Authentic id) (hg : c.Grows c') : c'.Authentic id := by
  obtain ⟨a, ha, hid, k, hk, hprovider, href⟩ := h
  exact ⟨a, hg.issued a ha, hid, k, hg.confirmed k hk, hprovider, href⟩

theorem Traceable.mono (h : Traceable c id d) (hg : c.Grows c') : Traceable c' id d where
  paymentRef r hr := (h.paymentRef r hr).mono hg
  paymentRefs r hr := (h.paymentRefs r hr).mono hg
  flagged := h.flagged
  authentic hs := (h.authentic hs).mono hg

theorem Grounds.mono {p : CheckoutPc} (h : Grounds c p) (hg : c.Grows c') : Grounds c' p := by
  cases p with
  | refund pc => exact h
  | payment pc =>
    cases pc with
    | saveRef id order provider reference => exact Checkout.Opened.mono h hg
    | webhookFind event source =>
      intro hs
      exact ⟨hg.confirmed _ (h hs).1, (h hs).2⟩
    | verifying id provider paymentRef => exact Checkout.Opened.mono h hg
    | markPaid id source => exact Checkout.Authentic.mono h hg
    | _ => trivial

/-- The success of one of the order's sessions, reported by its provider. -/
theorem authentic_of_namesOwn (hopen : c.Opened id reference)
    (hown : c.namesOwn id provider (some reference) = true) {k : Confirmation}
    (hk : k ∈ c.confirmed) (hprovider : k.provider = provider)
    (href : k.reference = some reference) : c.Authentic id := by
  obtain ⟨a, ha, hid, hreference⟩ := hopen
  have hall := List.all_eq_true.mp hown a ha
  have hsame : a.provider = provider := of_decide_eq_true hall hid hreference
  refine ⟨a, ha, hid, k, hk, ?_, ?_⟩
  · rw [hprovider, hsame]
  · rw [href, hreference]

/-- The order that a reference finds has a session under it. -/
theorem Traceable.opened (h : Traceable c id d)
    (hm : d.matchesReference (some reference) = true) : c.Opened id reference := by
  rw [Order.matchesReference, Order.matchesPaymentRef, Bool.or_eq_true, List.contains_iff_mem,
    beq_iff_eq] at hm
  rcases hm with hm | hm
  · exact h.paymentRefs reference hm
  · exact h.paymentRef reference hm

/-- The save of a session that was opened for the order. -/
theorem Traceable.attempted (h : Traceable c id d) (hopen : c.Opened id reference)
    (loaded : Order) (provider : PaymentProvider) :
    Traceable c id (d.saveSetPaymentRef loaded provider reference) where
  paymentRef r hr := by
    have hcases : d.paymentRef = some r ∨ reference = r := by
      change (if loaded.paymentRef = some reference then d.paymentRef else some reference) = some r
        at hr
      split at hr
      · exact Or.inl hr
      · exact Or.inr (Option.some.inj hr)
    rcases hcases with hr | rfl
    · exact h.paymentRef r hr
    · exact hopen
  paymentRefs r hr := by
    rcases List.mem_append.mp hr with hr | hr
    · exact h.paymentRefs r hr
    · rw [List.mem_singleton.mp hr]
      exact hopen
  flagged := h.flagged
  authentic := h.authentic

end Keeps

/-! ## Every run -/

section Steps

variable {c c' : Checkout} {id : OrderId} {d d' : Order} {pc pc' : PaymentPc} {r : PaymentReply}

theorem authentic_of_settled (hP : ∀ id d, c.world.orders.get id = some d → Traceable c id d)
    (hs : c.settled id = true) : c.Authentic id := by
  rw [Checkout.settled, Option.any_eq_true] at hs
  obtain ⟨d, hd, hs⟩ := hs
  exact (hP id d hd).authentic (of_decide_eq_true hs)

/-- A write of a payment call keeps its order traceable. -/
theorem Traceable.written (h : Traceable c id d) (hA : Grounds c (.payment pc))
    (hw : PaymentWrite c id pc d d') : Traceable c id d' := by
  cases hw with
  | unchanged => exact h
  | attempted hpc =>
    subst hpc
    exact h.attempted hA _ _
  | paid hpc hpaid =>
    subst hpc
    obtain ⟨_, rfl⟩ := Order.markPaidFromWebhook_eq_some hpaid
    exact ⟨h.paymentRef, h.paymentRefs, fun _ => by rintro ⟨⟩, fun _ => hA⟩
  | failed hpc =>
    rw [Order.saveMarkPaymentFailed_eq]
    exact ⟨h.paymentRef, h.paymentRefs, h.flagged, h.authentic⟩

/-- A truthful step of a payment call gives the call what it relies on. -/
theorem grounds_of_move (hP : ∀ id d, c.world.orders.get id = some d → Traceable c id d)
    (hA : Grounds c (.payment pc)) (hok : pc.truthful c r = true)
    (hm : PaymentMove c pc r c' pc') : Grounds c' (.payment pc') := by
  have hg := hm.grows
  cases hm with
  | issued id order provider reference =>
    exact ⟨_, List.mem_append_right _ (List.mem_singleton_self _), rfl, rfl⟩
  | reported h hs =>
    intro _
    exact ⟨List.mem_append_right _ (List.mem_singleton_self _), rfl⟩
  | declined h hs =>
    intro hs'
    cases hs.symm.trans hs'
  | @found event source id order hf hp hs =>
    show c.Authentic id
    obtain ⟨hd, hmatch⟩ := Checkout.get_of_findByPaymentRef hf
    obtain ⟨hk, href⟩ := hA hs
    rw [PaymentPc.truthful, hs, hf, Option.all_some, Bool.not_true, Bool.false_or, Bool.or_eq_true,
      Bool.or_eq_true, decide_eq_true_eq] at hok
    rcases hok with (hne | hsettled) | hown
    · exact absurd hp hne
    · exact authentic_of_settled hP hsettled
    · cases hreference : event.reference with
      | none =>
        rw [hreference] at hown
        cases hown
      | some reference =>
        rw [hreference] at hown hmatch
        exact authentic_of_namesOwn ((hP id order hd).opened hmatch) hown hk rfl
          (href.trans hreference)
  | asking hd href => exact (hP _ _ hd).paymentRef _ href
  | @verified id provider paymentRef response charge h =>
    show (c.confirm ⟨provider, some paymentRef, charge⟩).Authentic id
    rw [PaymentPc.truthful, h, Option.isNone_some, Bool.false_or, Bool.or_eq_true] at hok
    rcases hok with hsettled | hown
    · exact (authentic_of_settled hP hsettled).mono hg
    · exact authentic_of_namesOwn (Checkout.Opened.mono hA hg) hown
        (List.mem_append_right _ (List.mem_singleton_self _)) rfl rfl
  | _ => trivial

end Steps

/-- **Providers that report only their own sessions keep every order traceable.** -/
theorem checkoutRule_traceable :
    CheckoutRule (fun s e => paymentSteps PaymentPc.truthful s e = true) Traceable Grounds where
  grows c c' hg := ⟨fun id d h => h.mono hg, fun p h => h.mono hg⟩
  placed c id d h := by
    refine ⟨?_, ?_, ?_, fun hs => absurd h.status hs⟩
    · intro r hr
      cases h.paymentRef.symm.trans hr
    · intro r hr
      rw [h.paymentRefs] at hr
      cases hr
    · intro hf
      cases h.unflagged.symm.trans hf
  progress c id d d' h hsame := by
    refine ⟨?_, ?_, ?_, ?_⟩
    · intro r hr
      exact h.paymentRef r (hsame.paymentRef ▸ hr)
    · intro r hr
      exact h.paymentRefs r (hsame.paymentRefs ▸ hr)
    · intro hf
      exact mt hsame.pending.mp (h.flagged (hsame.flag ▸ hf))
    · intro hs
      exact h.authentic (mt hsame.pending.mpr hs)
  start c k := by
    cases k with
    | refund request => exact givesBack_start c.world request
    | _ => trivial
  payment s i r pc c' pc' hok hp hP hA hm := by
    have hallowed := allowed_of_paymentSteps hok hp
    refine ⟨grounds_of_move hP hA hallowed hm, ?_⟩
    intro id d d' hd _ hw
    exact ((hP id d hd).written hA hw).mono hm.grows
  refund s i r pc w' pc' _ _ hP hA hstep := by
    refine ⟨givesBack_of_move (refund_move hstep) hA, ?_⟩
    intro id d d' hd hw
    have h := hP id d hd
    have hr := refunds_of_write hw hA h.flagged
    refine ⟨?_, ?_, hr.flagged, ?_⟩
    · intro r hr'
      exact h.paymentRef r (hr.paymentRef ▸ hr')
    · intro r hr'
      exact h.paymentRefs r (hr.paymentRefs ▸ hr')
    · intro hs
      exact h.authentic (mt hr.pending.mpr hs)

/-- **An order leaves `PENDING_PAYMENT` only for a success of one of its sessions**, in every
run whose successes are of sessions that the reporting provider opened. -/
theorem authentic_of_truthful {dir : Directory} {vendors : List PayoutVendor} {s : Shop}
    (hs : (checkout dir).Reach (fun s e => paymentSteps PaymentPc.truthful s e = true)
      (Shop.initial vendors) s) {id : OrderId} {d : Order}
    (hd : s.shared.world.orders.get id = some d) (hstatus : d.status ≠ .pendingPayment) :
    ∃ a ∈ s.shared.issued, a.orderId = id ∧ ∃ k ∈ s.shared.confirmed,
      k.provider = a.provider ∧ k.reference = some a.reference :=
  ((checkoutRule_traceable.holds_of_reach hs).1 id d hd).authentic hstatus

section Examples

theorem authentic_of_truthful_stripe : ∃ s : Shop, ∃ d,
    s.shared.world.orders.get 0 = some d ∧ d.status = .placed ∧
      ∃ a ∈ s.shared.issued, a.orderId = 0 ∧ ∃ k ∈ s.shared.confirmed,
        k.provider = a.provider ∧ k.reference = some a.reference := by
  obtain ⟨s, hs, hP⟩ := exists_shop (paymentSteps PaymentPc.truthful)
    (fun s => (s.shared.world.orders.get 0).any fun (d : Order) => decide (d.status = .placed))
    (placeOrder .stripe :: .spawn (.initiatePayment 0 none) ::
      payments 0 [.done, .initiated (.ok "cs_1"), .done] ++
      .spawn (.handleWebhook .stripe stripePaid) :: payments 1 [.done, .done, .done])
    (by decide +kernel)
  rw [Option.any_eq_true] at hP
  obtain ⟨d, hd, hplaced⟩ := hP
  rw [decide_eq_true_eq] at hplaced
  exact ⟨s, d, hd, hplaced, authentic_of_truthful hs hd (by rw [hplaced]; decide)⟩

/-- Flutterwave reports a charge without its `tx_ref`. -/
def chargeWithoutReference : WebhookRequest :=
  ⟨true, some ⟨some "charge.completed", some ⟨none, some "successful", 15, "USD"⟩⟩⟩

/-- **A charge without a reference places an order that nobody tried to pay**: the missing
reference is looked up as `null`, and every order without a session has `paymentRef: null`. -/
theorem placed_unpaid :
    ¬ ∀ (dir : Directory) (vendors : List PayoutVendor) (s : Shop) (id : OrderId) (d : Order),
      (checkout dir).Reach (fun _ _ => True) (Shop.initial vendors) s →
      s.shared.world.orders.get id = some d → d.status ≠ .pendingPayment →
        ∃ a ∈ s.shared.issued, a.orderId = id ∧ ∃ k ∈ s.shared.confirmed,
          k.provider = a.provider ∧ k.reference = some a.reference := by
  intro hall
  obtain ⟨s, hs, hP⟩ := exists_shop (fun _ _ => true)
    (fun s => decide (s.shared.issued = []) &&
      (s.shared.world.orders.get 0).any fun (d : Order) => decide (d.status = .placed))
    (placeOrder .flutterwave :: .spawn (.handleWebhook .flutterwave chargeWithoutReference) ::
      payments 0 [.done, .done, .done])
    (by decide +kernel)
  rw [Bool.and_eq_true, decide_eq_true_eq, Option.any_eq_true] at hP
  obtain ⟨hissued, d, hd, hplaced⟩ := hP
  have hstatus : d.status ≠ .pendingPayment := by
    rw [of_decide_eq_true hplaced]
    decide
  obtain ⟨a, ha, _⟩ := hall soleOwner soleRestaurant s 0 d (hs.mono fun _ _ _ => trivial) hd hstatus
  rw [hissued] at ha
  exact absurd ha List.not_mem_nil

end Examples

end FoodDelivery
