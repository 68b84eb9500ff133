import FoodDelivery.Payments.Runs

/-!
# Final payments

A payment that succeeded or was refunded is final.  `markPaidFromWebhook` is one atomic update,
but `markPaymentFailed` reads the order, looks whether its payment is final, and saves: a
success in between is overwritten.

* `payment_status_final`: no run in which that does not happen downgrades a payment.
* `payment_downgraded`: a poll that finds the payment still open fails an order that a webhook
  has just placed.
-/

namespace FoodDelivery

open Store Interleave

/-- A failure is not saved over a payment that has become final since it was read. -/
def PaymentPc.savesInTime (c : Checkout) : PaymentPc → PaymentReply → Bool
  | .failSave id loaded, _ =>
    decide (loaded.paymentStatus = .failed) ||
      (c.world.orders.get id).all fun (d : Order) => !d.paymentIsFinal
  | _, _ => true

namespace Order

/-- An order past its payment has a final one, and only such an order is flagged. -/
structure PaymentSettled (d : Order) : Prop where
  final : d.status ≠ .pendingPayment → d.paymentIsFinal = true
  flagged : d.refundReconciliationRequired = true → d.status ≠ .pendingPayment

variable {d d' : Order}

theorem paymentIsFinal_iff :
    d.paymentIsFinal = true ↔ d.paymentStatus = .succeeded ∨ d.paymentStatus = .refunded := by
  rw [paymentIsFinal, Bool.or_eq_true, decide_eq_true_eq, decide_eq_true_eq]

theorem not_failed_of_final (h : d.paymentIsFinal = true) : d.paymentStatus ≠ .failed := by
  intro hf
  rcases paymentIsFinal_iff.mp h with hs | hr
  · cases hf.symm.trans hs
  · cases hf.symm.trans hr

/-- A refund keeps a final payment final. -/
theorem Refunds.final (h : d.Refunds d') (hd : d.paymentIsFinal = true) :
    d'.paymentIsFinal = true := by
  rw [paymentIsFinal_iff] at hd ⊢
  rcases h.paymentStatus with hs | hr
  · rw [hs]
    exact hd
  · exact Or.inr hr

theorem SamePayment.final (h : d.SamePayment d') (hd : d.paymentIsFinal = true) :
    d'.paymentIsFinal = true := by
  rw [paymentIsFinal_iff] at hd ⊢
  rw [h.paymentStatus]
  exact hd

end Order

section Steps

variable {c : Checkout} {id : OrderId} {d d' : Order} {pc : PaymentPc} {r : PaymentReply}

/-- **A failure that is saved in time leaves a final payment final.** -/
theorem final_of_write (hd : c.world.orders.get id = some d) (hok : pc.savesInTime c r = true)
    (hw : PaymentWrite c id pc d d') (hf : d.paymentIsFinal = true) :
    d'.paymentIsFinal = true := by
  cases hw with
  | unchanged => exact hf
  | attempted => exact hf
  | paid hpc h =>
    obtain ⟨_, rfl⟩ := Order.markPaidFromWebhook_eq_some h
    rfl
  | @failed loaded hpc =>
    subst hpc
    rw [PaymentPc.savesInTime, hd, Option.all_some, hf, Bool.not_true, Bool.or_false,
      decide_eq_true_eq] at hok
    rw [Order.saveMarkPaymentFailed, if_pos hok]
    exact hf

theorem settled_of_write (hd : c.world.orders.get id = some d) (hok : pc.savesInTime c r = true)
    (hw : PaymentWrite c id pc d d') (hs : d.PaymentSettled) : d'.PaymentSettled := by
  have hfinal := final_of_write hd hok hw
  cases hw with
  | unchanged => exact hs
  | attempted => exact ⟨fun h => hfinal (hs.final h), hs.flagged⟩
  | paid hpc h =>
    obtain ⟨_, rfl⟩ := Order.markPaidFromWebhook_eq_some h
    exact ⟨fun _ => rfl, fun _ => by rintro ⟨⟩⟩
  | failed hpc =>
    refine ⟨fun h => hfinal (hs.final ?_), fun h => ?_⟩
    · rw [Order.saveMarkPaymentFailed_eq] at h
      exact h
    · rw [Order.saveMarkPaymentFailed_eq] at h ⊢
      exact hs.flagged h

end Steps

/-! ## Every run -/

/-- **Failures that are saved in time keep every payment settled.** -/
theorem checkoutRule_settled :
    CheckoutRule (fun s e => paymentSteps PaymentPc.savesInTime s e = true)
      (fun _ _ d => d.PaymentSettled) (fun _ p => GivesBack p) where
  grows _ _ _ := ⟨fun _ _ h => h, fun _ h => h⟩
  placed _ _ d h := by
    refine ⟨fun hs => absurd h.status hs, ?_⟩
    intro hf
    cases h.unflagged.symm.trans hf
  progress _ _ d d' h hsame := by
    refine ⟨?_, ?_⟩
    · intro hs
      exact hsame.final (h.final (mt hsame.pending.mpr hs))
    · intro hf
      exact mt hsame.pending.mp (h.flagged (hsame.flag ▸ hf))
  start c k := by
    cases k with
    | refund request => exact givesBack_start c.world request
    | _ => trivial
  payment s i r pc c' pc' hok hp hP _ _ := by
    refine ⟨trivial, ?_⟩
    intro id d d' hd _ hw
    exact settled_of_write hd (allowed_of_paymentSteps hok hp) hw (hP id d hd)
  refund s i r pc w' pc' _ _ hP hA hstep := by
    refine ⟨givesBack_of_move (refund_move hstep) hA, ?_⟩
    intro id d d' hd hw
    have h := hP id d hd
    have hr := refunds_of_write hw hA h.flagged
    exact ⟨fun hs => hr.final (h.final (mt hr.pending.mpr hs)), hr.flagged⟩

/-- **Payment status is final**: in every run in which no failure is saved over a payment that
has become final since, an order past `PENDING_PAYMENT` is never `'failed'`, and no step turns a
final payment into one that is not. -/
theorem payment_status_final {dir : Directory} {vendors : List PayoutVendor} {s : Shop}
    (hs : (checkout dir).Reach (fun s e => paymentSteps PaymentPc.savesInTime s e = true)
      (Shop.initial vendors) s) :
    (∀ id d, s.shared.world.orders.get id = some d → d.status ≠ .pendingPayment →
      d.paymentStatus ≠ .failed) ∧
    ∀ e s' id d d', paymentSteps PaymentPc.savesInTime s e = true →
      (checkout dir).next s e = some s' → s.shared.world.orders.get id = some d →
      (d.paymentStatus = .succeeded ∨ d.paymentStatus = .refunded) →
      s'.shared.world.orders.get id = some d' →
        d'.paymentStatus = .succeeded ∨ d'.paymentStatus = .refunded := by
  obtain ⟨hP, hA⟩ := checkoutRule_settled.holds_of_reach hs
  constructor
  · intro id d hd hstatus
    exact Order.not_failed_of_final ((hP id d hd).final hstatus)
  · intro e s' id d d' hok hnext hd hfinal hd'
    rw [← Order.paymentIsFinal_iff] at hfinal ⊢
    obtain ⟨d₁, hd₁, hw⟩ := order_of_shopNext hnext hd
    obtain rfl := Option.some.inj (hd'.symm.trans hd₁)
    cases hw with
    | progress h => exact h.final hfinal
    | payment he hp h =>
      subst he
      exact final_of_write hd (allowed_of_paymentSteps hok hp) h hfinal
    | refund he hp h =>
      have hback := hA _ (List.mem_of_getElem? hp)
      exact (refunds_of_write h hback (hP id d hd).flagged).final hfinal

section Examples

/-- What Stripe answers about a session that is still open. -/
def stillUnpaid : VerifyResponse := ⟨true, some ⟨some "cs_1", some "unpaid", 1500, "USD"⟩⟩

/-- A poll reports a failure, and then the customer pays. -/
theorem payment_status_final_retried : ∃ s : Shop, ∃ d, s.shared.world.orders.get 0 = some d ∧
    d.status = .placed ∧ d.paymentStatus ≠ .failed := by
  obtain ⟨s, hs, hP⟩ := exists_shop (paymentSteps PaymentPc.savesInTime)
    (fun s => (s.shared.world.orders.get 0).any fun (d : Order) => decide (d.status = .placed))
    (placeOrder .stripe :: .spawn (.initiatePayment 0 none) ::
      payments 0 [.done, .initiated (.ok "cs_1"), .done] ++
      .spawn (.verifyPayment 0) :: payments 1 [.done, .verified (some stillUnpaid), .done, .done] ++
      .spawn (.handleWebhook .stripe stripePaid) :: payments 2 [.done, .done, .done])
    (by decide +kernel)
  rw [Option.any_eq_true] at hP
  obtain ⟨d, hd, hplaced⟩ := hP
  rw [decide_eq_true_eq] at hplaced
  have hstatus : d.status ≠ .pendingPayment := by
    rw [hplaced]
    decide
  exact ⟨s, d, hd, hplaced, (payment_status_final hs).1 0 d hd hstatus⟩

/-- **A paid order ends as failed**: the poll asks just before the customer pays, and saves what
it learned just after the webhook has placed the order. -/
theorem payment_downgraded :
    ¬ ∀ (dir : Directory) (vendors : List PayoutVendor) (s : Shop) (id : OrderId) (d : Order),
      (checkout dir).Reach (fun _ _ => True) (Shop.initial vendors) s →
      s.shared.world.orders.get id = some d → d.status ≠ .pendingPayment →
        d.paymentStatus ≠ .failed := by
  intro hall
  obtain ⟨s, hs, hP⟩ := exists_shop (fun _ _ => true)
    (fun s => (s.shared.world.orders.get 0).any fun (d : Order) =>
      decide (d.status = .placed) && decide (d.paymentStatus = .failed))
    (placeOrder .stripe :: .spawn (.initiatePayment 0 none) ::
      payments 0 [.done, .initiated (.ok "cs_1"), .done] ++
      .spawn (.verifyPayment 0) :: payments 1 [.done, .verified (some stillUnpaid), .done] ++
      .spawn (.handleWebhook .stripe stripePaid) :: payments 2 [.done, .done, .done] ++
      payments 1 [.done])
    (by decide +kernel)
  rw [Option.any_eq_true] at hP
  obtain ⟨d, hd, hP⟩ := hP
  rw [Bool.and_eq_true, decide_eq_true_eq, decide_eq_true_eq] at hP
  obtain ⟨hplaced, hfailed⟩ := hP
  have hstatus : d.status ≠ .pendingPayment := by
    rw [hplaced]
    decide
  exact hall soleOwner soleRestaurant s 0 d (hs.mono fun _ _ _ => trivial) hd hstatus hfailed

end Examples

end FoodDelivery
