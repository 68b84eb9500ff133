import FoodDelivery.Payments.Runs

/-!
# Which charge a refund reverses

A success finds its order through every reference ever issued, and `refundOrder` asks for the
order's latest one.  The two agree as long as the success that places an order is that of its
latest attempt, and no attempt is recorded after it.

* `placed_once`: one success places an order.
* `refund_reverses_collected`: every refund call is on the provider and the reference of it.
* `refund_of_uncollected`: the first of two sessions is paid, and the second is refunded.
-/

namespace FoodDelivery

open Store Interleave

namespace PaymentPc

/-- The success that places an order is that of its latest attempt, and no attempt is recorded
on an order that was placed. -/
def collectsLatest (c : Checkout) : PaymentPc → PaymentReply → Bool
  | .saveRef id loaded provider reference, _ =>
    (c.world.orders.get id).all fun (d : Order) =>
      let d' := d.saveSetPaymentRef loaded provider reference
      decide (d.status = .pendingPayment) ||
        decide (d'.paymentProvider = d.paymentProvider ∧ d'.paymentRef = d.paymentRef)
  | .markPaid id source, _ =>
    (c.world.orders.get id).all fun (d : Order) =>
      decide (d.status ≠ .pendingPayment) ||
        decide (d.paymentProvider = source.provider ∧ d.paymentRef = source.reference)
  | _, _ => true

end PaymentPc

/-- The success under this reference of this provider placed the order. -/
def Checkout.Collected (c : Checkout) (id : OrderId) (provider : PaymentProvider)
    (reference : Option String) : Prop :=
  ∃ p ∈ c.placed, p.orderId = id ∧ p.confirmation.provider = provider ∧
    p.confirmation.reference = reference

/-- What `refundOrder` will ask of whom. -/
def RefundPc.asks : RefundPc → Option (OrderId × PaymentProvider × String)
  | .claim id order paymentRef => some (id, order.paymentProvider, paymentRef)
  | .adapter id order paymentRef _ => some (id, order.paymentProvider, paymentRef)
  | _ => none

/-! ## What a refund call asks -/

section Asks

variable {w w' after : World} {pc pc' next : RefundPc} {r : Reply} {db : DbReply} {id : OrderId}
  {provider : PaymentProvider} {paymentRef : String}

theorem pc_of_settle (h : some (db.settle w after next fun _ => RefundPc.threw) = some (w', pc')) :
    pc' = next ∨ pc' = .threw := by
  rcases DbReply.settle_write (Option.some.inj h) with ⟨_, _, rfl | ⟨_, rfl⟩⟩ | ⟨_, rfl, _⟩
  · exact Or.inl rfl
  · exact Or.inr rfl
  · exact Or.inr rfl

theorem asks_afterRead {i : OrderId} {order : Order}
    (h : (RefundPc.afterRead i order).asks = some (id, provider, paymentRef)) :
    i = id ∧ order.status ∈ refundableStatuses ∧ order.paymentProvider = provider ∧
      order.paymentRef = some paymentRef := by
  rw [RefundPc.afterRead] at h
  split at h
  · cases h
  · rename_i hs
    rw [not_not] at hs
    split at h
    · cases h
    · split at h
      · cases h
      · rename_i hblank
        cases href : order.paymentRef with
        | none => exact absurd (by rw [href]; rfl) hblank
        | some reference =>
          rw [href] at h
          cases h
          exact ⟨rfl, hs.1, rfl, rfl⟩

/-- **A refund call asks for the pair of the refundable order it read.** -/
theorem asks_of_step (h : refundStep w pc r = some (w', pc'))
    (hasks : pc'.asks = some (id, provider, paymentRef)) :
    pc.asks = some (id, provider, paymentRef) ∨ ∃ order, w.orders.get id = some order ∧
      order.status ∈ refundableStatuses ∧ order.paymentProvider = provider ∧
        order.paymentRef = some paymentRef := by
  have ends : ∀ {db : DbReply} {after : World} {next : RefundPc}, next.asks = none →
      some (db.settle w after next fun _ => .threw) = some (w', pc') → False := by
    intro db after next hnext h
    rcases pc_of_settle h with rfl | rfl
    · cases hnext.symm.trans hasks
    · cases hasks
  cases r with
  | transfer reply => cases pc <;> simp [refundStep] at h
  | refund reply =>
    cases pc with
    | adapter i order ref prev =>
      cases h
      cases reply <;> cases hasks
    | _ => simp [refundStep] at h
  | db db =>
    cases pc with
    | read i =>
      simp only [refundStep] at h
      split at h
      · exact (ends rfl h).elim
      · rename_i order hd
        rcases pc_of_settle h with rfl | rfl
        · obtain ⟨rfl, hs, hprovider, href⟩ := asks_afterRead hasks
          exact Or.inr ⟨order, hd, hs, hprovider, href⟩
        · cases hasks
    | claim i order ref =>
      simp only [refundStep] at h
      split at h
      · exact (ends rfl h).elim
      · split at h
        · rcases pc_of_settle h with rfl | rfl
          · exact Or.inl hasks
          · cases hasks
        · exact (ends rfl h).elim
    | adapter i order ref prev => simp [refundStep] at h
    | flag i order prev reason =>
      simp only [refundStep] at h
      split at h
      · exact (ends rfl h).elim
      · exact (ends rfl h).elim
    | revert i order prev message => exact (ends rfl h).elim
    | webhookFind route notice =>
      simp only [refundStep] at h
      split at h
      · exact (ends rfl h).elim
      · refine (ends ?_ h).elim
        unfold RefundPc.afterWebhookFind
        repeat' split
        all_goals rfl
    | webhookDispute i => exact (ends rfl h).elim
    | webhookClaim i =>
      simp only [refundStep] at h
      split at h
      · exact (ends rfl h).elim
      · exact (ends rfl h).elim
    | resolveFind i answer issued =>
      simp only [refundStep] at h
      split at h
      · exact (ends rfl h).elim
      · refine (ends ?_ h).elim
        unfold RefundPc.afterResolveFind
        repeat' split
        all_goals rfl
    | resolveSave i issued => exact (ends rfl h).elim
    | resolveClaim i =>
      simp only [refundStep] at h
      split at h
      · exact (ends rfl h).elim
      · exact (ends rfl h).elim
    | finalizeRead i =>
      simp only [refundStep] at h
      split at h
      · exact (ends rfl h).elim
      · exact (ends rfl h).elim
    | finalizeSave i order =>
      refine (ends ?_ h).elim
      unfold RefundPc.afterFinalize
      split
      · rfl
      · rfl
    | recordClawback i order payoutId => exact (ends rfl h).elim
    | returned => simp [refundStep] at h
    | rejected error => simp [refundStep] at h
    | threw => simp [refundStep] at h

end Asks

/-! ## The pair of a placed order -/

/-- An order past its payment holds the pair of the success that placed it. -/
structure HoldsCollected (c : Checkout) (id : OrderId) (d : Order) : Prop where
  collected : d.status ≠ .pendingPayment → c.Collected id d.paymentProvider d.paymentRef
  flagged : d.refundReconciliationRequired = true → d.status ≠ .pendingPayment

/-- A refund call asks for the pair of the success that placed the order. -/
def AsksCollected (c : Checkout) : CheckoutPc → Prop
  | .refund pc => pc.GivesBack ∧ ∀ id provider paymentRef,
    pc.asks = some (id, provider, paymentRef) → c.Collected id provider (some paymentRef)
  | .payment _ => True

section Steps

variable {c c' : Checkout} {id : OrderId} {d d' : Order} {pc : PaymentPc} {r : PaymentReply}

theorem Checkout.Collected.mono {provider : PaymentProvider} {reference : Option String}
    (h : c.Collected id provider reference) (hg : c.Grows c') :
    c'.Collected id provider reference := by
  obtain ⟨p, hp, hid, hprovider, href⟩ := h
  exact ⟨p, hg.placed p hp, hid, hprovider, href⟩

theorem HoldsCollected.mono (h : HoldsCollected c id d) (hg : c.Grows c') :
    HoldsCollected c' id d :=
  ⟨fun hs => (h.collected hs).mono hg, h.flagged⟩

theorem HoldsCollected.of_samePair (h : HoldsCollected c id d)
    (hprovider : d'.paymentProvider = d.paymentProvider) (href : d'.paymentRef = d.paymentRef)
    (hpending : d'.status = .pendingPayment ↔ d.status = .pendingPayment)
    (hflag : d'.refundReconciliationRequired = true → d'.status ≠ .pendingPayment) :
    HoldsCollected c id d' := by
  refine ⟨?_, hflag⟩
  intro hs
  rw [hprovider, href]
  exact h.collected (mt hpending.mpr hs)

/-- A write of a payment call, on the pair of the success that places the order. -/
theorem HoldsCollected.written {pc' : PaymentPc} (h : HoldsCollected c id d)
    (hd : c.world.orders.get id = some d) (hd' : c'.world.orders.get id = some d')
    (hok : pc.collectsLatest c r = true) (hm : PaymentMove c pc r c' pc')
    (hw : PaymentWrite c id pc d d') : HoldsCollected c' id d' := by
  have hg := hm.grows
  cases hw with
  | unchanged => exact h.mono hg
  | @attempted loaded provider reference hpc =>
    subst hpc
    rw [PaymentPc.collectsLatest, hd, Option.all_some, Bool.or_eq_true, decide_eq_true_eq,
      decide_eq_true_eq] at hok
    rcases hok with hunpaid | ⟨hprovider, href⟩
    · exact ⟨fun hs => absurd hunpaid hs, h.flagged⟩
    · exact (h.mono hg).of_samePair hprovider href Iff.rfl h.flagged
  | @paid source _ hpc hpaid =>
    subst hpc
    obtain ⟨hs, rfl⟩ := Order.markPaidFromWebhook_eq_some hpaid
    rw [PaymentPc.collectsLatest, hd, Option.all_some, Bool.or_eq_true, decide_eq_true_eq,
      decide_eq_true_eq] at hok
    rcases hok with hne | ⟨hprovider, href⟩
    · exact absurd hs hne
    · refine ⟨fun _ => ?_, fun _ => by rintro ⟨⟩⟩
      cases hm with
      | returned =>
        have hsame := congrArg Order.status (Option.some.inj (hd'.symm.trans hd))
        cases hsame.trans hs
      | rejected error =>
        have hsame := congrArg Order.status (Option.some.inj (hd'.symm.trans hd))
        cases hsame.trans hs
      | placed hd₁ h₁ =>
        exact ⟨⟨id, source⟩, List.mem_append_right _ (List.mem_singleton_self _), rfl,
          hprovider.symm, href.symm⟩
  | failed hpc =>
    rw [Order.saveMarkPaymentFailed_eq]
    exact (h.mono hg).of_samePair rfl rfl Iff.rfl h.flagged

end Steps

/-! ## Every run -/

/-- **When successes are of the latest attempt, refund calls ask for what they collected.** -/
theorem checkoutRule_collected :
    CheckoutRule (fun s e => paymentSteps PaymentPc.collectsLatest s e = true) HoldsCollected
      AsksCollected where
  grows c c' hg := by
    refine ⟨fun id d h => h.mono hg, ?_⟩
    intro p h
    cases p with
    | payment pc => trivial
    | refund pc => exact ⟨h.1, fun id provider ref hasks => (h.2 id provider ref hasks).mono hg⟩
  placed c id d h := by
    refine ⟨fun hs => absurd h.status hs, ?_⟩
    intro hf
    cases h.unflagged.symm.trans hf
  progress c id d d' h hsame := by
    refine h.of_samePair hsame.provider hsame.paymentRef hsame.pending fun hf => ?_
    exact mt hsame.pending.mp (h.flagged (hsame.flag ▸ hf))
  start c k := by
    cases k with
    | refund request =>
      refine ⟨givesBack_start c.world request, ?_⟩
      intro id provider ref hasks
      cases request <;> cases hasks
    | _ => trivial
  payment s i r pc c' pc' hok hp hP _ hm := by
    refine ⟨trivial, ?_⟩
    intro id d d' hd hd' hw
    exact (hP id d hd).written hd hd' (allowed_of_paymentSteps hok hp) hm hw
  refund s i r pc w' pc' _ _ hP hA hstep := by
    refine ⟨⟨givesBack_of_move (refund_move hstep) hA.1, fun id provider ref hasks => ?_⟩,
      fun id d d' hd hw => ?_⟩
    · rcases asks_of_step hstep hasks with hasks | ⟨order, hd, hs, rfl, href⟩
      · exact hA.2 id provider ref hasks
      · exact href ▸ (hP id order hd).collected (refundable_ne_pending hs)
    · have h := hP id d hd
      have hr := refunds_of_write hw hA.1 h.flagged
      exact h.of_samePair hr.provider hr.paymentRef hr.pending hr.flagged

/-- Nothing is asked of the flags in a run without conditions. -/
theorem checkoutRule_flagged :
    CheckoutRule (fun _ _ => True)
      (fun _ _ d => d.refundReconciliationRequired = true → d.status ≠ .pendingPayment)
      (fun _ p => GivesBack p) where
  grows _ _ _ := ⟨fun _ _ h => h, fun _ h => h⟩
  placed _ _ d h := by
    intro hf
    cases h.unflagged.symm.trans hf
  progress _ _ d d' h hsame := by
    intro hf
    exact mt hsame.pending.mp (h (hsame.flag ▸ hf))
  start c k := by
    cases k with
    | refund request => exact givesBack_start c.world request
    | _ => trivial
  payment s i r pc c' pc' _ _ hP _ _ := by
    refine ⟨trivial, ?_⟩
    intro id d d' hd _ hw
    cases hw with
    | unchanged => exact hP id d hd
    | attempted => exact hP id d hd
    | paid hpc h =>
      obtain ⟨_, rfl⟩ := Order.markPaidFromWebhook_eq_some h
      intro _
      rintro ⟨⟩
    | failed =>
      rw [Order.saveMarkPaymentFailed_eq]
      exact hP id d hd
  refund s i r pc w' pc' _ _ hP hA hstep := by
    refine ⟨givesBack_of_move (refund_move hstep) hA, ?_⟩
    intro id d d' hd hw
    exact (refunds_of_write hw hA (hP id d hd)).flagged

/-- What happens beside the calls asks for no refund. -/
theorem refundLog_of_env {dir : Directory} {c c' : Checkout} {e : EnvEvent}
    (h : envCheckout dir c e = some c') : c'.world.refundLog = c.world.refundLog := by
  rw [envCheckout] at h
  split at h
  · cases h
  · obtain ⟨w, hw, rfl⟩ := Option.map_eq_some_iff.mp h
    rcases env_cases hw with ⟨_, _, _, _, _, rfl⟩ | ⟨_, _, _, _, _, rfl⟩ | ⟨_, _, _, _, hlog⟩
    · rfl
    · rfl
    · exact hlog

section Runs

variable {dir : Directory} {vendors : List PayoutVendor} {s s' : Shop} {e : ShopEvent}

/-- An order past its payment stays past it. -/
theorem paid_of_next (hs : (checkout dir).Reach (fun _ _ => True) (Shop.initial vendors) s)
    (hnext : (checkout dir).next s e = some s') {id : OrderId} {d : Order}
    (hd : s.shared.world.orders.get id = some d) (hpaid : d.status ≠ .pendingPayment) :
    ∃ d', s'.shared.world.orders.get id = some d' ∧ d'.status ≠ .pendingPayment := by
  obtain ⟨hP, hA⟩ := checkoutRule_flagged.holds_of_reach hs
  obtain ⟨d', hd', hw⟩ := order_of_shopNext hnext hd
  refine ⟨d', hd', ?_⟩
  cases hw with
  | progress h => exact mt h.pending.mp hpaid
  | refund he hp h =>
    have hback := hA _ (List.mem_of_getElem? hp)
    exact mt (refunds_of_write h hback (hP id d hd)).pending.mp hpaid
  | payment he hp h =>
    cases h with
    | unchanged => exact hpaid
    | attempted => exact hpaid
    | paid hpc h =>
      obtain ⟨hs, _⟩ := Order.markPaidFromWebhook_eq_some h
      exact absurd hs hpaid
    | failed =>
      rw [Order.saveMarkPaymentFailed_eq]
      exact hpaid

/-- A step records a placement only of an order that was still unpaid, and is no more. -/
theorem placed_of_next (hnext : (checkout dir).next s e = some s') :
    s'.shared.placed = s.shared.placed ∨ ∃ p d d', s'.shared.placed = s.shared.placed ++ [p] ∧
      s.shared.world.orders.get p.orderId = some d ∧ d.status = .pendingPayment ∧
      s'.shared.world.orders.get p.orderId = some d' ∧ d'.status ≠ .pendingPayment := by
  cases e with
  | spawn k =>
    cases hnext
    exact Or.inl rfl
  | env a =>
    obtain ⟨c, hc, rfl⟩ := Machine.next_env hnext
    obtain ⟨w, rfl⟩ := envCheckout_eq hc
    exact Or.inl rfl
  | run i r =>
    obtain ⟨p, c, p', hp, hstep, rfl⟩ := Machine.next_run hnext
    cases checkout_move hstep with
    | refund => exact Or.inl rfl
    | payment hm =>
      cases hm with
      | @placed id source d paid hd h =>
        right
        have hplaced : paid.status ≠ .pendingPayment := by
          obtain ⟨_, rfl⟩ := Order.markPaidFromWebhook_eq_some h
          rintro ⟨⟩
        refine ⟨⟨id, source⟩, d, paid, rfl, hd, (Order.markPaidFromWebhook_eq_some h).1, ?_,
          hplaced⟩
        show (s.shared.world.orders.modify id _).get id = _
        rw [Collection.get_modify_self, hd]
        rfl
      | _ => exact Or.inl rfl

/-- **One success places an order.** -/
theorem placed_once (hs : (checkout dir).Reach (fun _ _ => True) (Shop.initial vendors) s) :
    (s.shared.placed.map (·.orderId)).Nodup ∧ ∀ p ∈ s.shared.placed, ∃ d,
      s.shared.world.orders.get p.orderId = some d ∧ d.status ≠ .pendingPayment := by
  refine Machine.Reach.invariant (I := fun s => (s.shared.placed.map (·.orderId)).Nodup ∧
    ∀ p ∈ s.shared.placed, ∃ d, s.shared.world.orders.get p.orderId = some d ∧
      d.status ≠ .pendingPayment) ⟨List.nodup_nil, by rintro p ⟨⟩⟩ ?_ hs
  intro s e s' hreach ih _ hnext
  obtain ⟨hnodup, hpaid⟩ := ih
  have hkeep : ∀ p ∈ s.shared.placed, ∃ d, s'.shared.world.orders.get p.orderId = some d ∧
      d.status ≠ .pendingPayment := by
    intro p hp
    obtain ⟨d, hd, hne⟩ := hpaid p hp
    exact paid_of_next hreach hnext hd hne
  rcases placed_of_next hnext with heq | ⟨p, d, d', heq, hd, hunpaid, hd', hne⟩
  · rw [heq]
    exact ⟨hnodup, hkeep⟩
  · rw [heq]
    constructor
    · rw [List.map_append]
      refine List.nodup_append.mpr ⟨hnodup, List.nodup_singleton _, ?_⟩
      intro id hid id' hid'
      obtain ⟨q, hq, rfl⟩ := List.mem_map.mp hid
      rw [List.map_singleton, List.mem_singleton] at hid'
      intro hsame
      obtain ⟨d₁, hd₁, hne₁⟩ := hpaid q hq
      rw [hsame, hid', hd] at hd₁
      exact hne₁ (Option.some.inj hd₁ ▸ hunpaid)
    · intro q hq
      rcases List.mem_append.mp hq with hq | hq
      · exact hkeep q hq
      · rw [List.mem_singleton.mp hq]
        exact ⟨d', hd', hne⟩

/-- A refund call that was made is logged before, or was about to be made. -/
theorem called_of_next (hnext : (checkout dir).next s e = some s') {id : OrderId}
    {provider : PaymentProvider} {paymentRef : String} {reply : RefundReply}
    (h : .called id provider paymentRef reply ∈ s'.shared.world.refundLog) :
    .called id provider paymentRef reply ∈ s.shared.world.refundLog ∨
      ∃ pc, .refund pc ∈ s.procs ∧ pc.asks = some (id, provider, paymentRef) := by
  cases e with
  | spawn k =>
    cases hnext
    exact Or.inl h
  | env a =>
    obtain ⟨c, hc, rfl⟩ := Machine.next_env hnext
    have hlog : c.world.refundLog = s.shared.world.refundLog := refundLog_of_env hc
    exact Or.inl (hlog ▸ h)
  | run i r =>
    obtain ⟨p, c, p', hp, hstep, rfl⟩ := Machine.next_run hnext
    cases checkout_move hstep with
    | payment hm =>
      left
      cases hm <;> exact h
    | refund hrefund =>
      have hm := refund_move hrefund
      cases hm with
      | called i order ref prev r =>
        rcases List.mem_append.mp h with h | h
        · exact Or.inl h
        · cases List.mem_singleton.mp h
          exact Or.inr ⟨_, List.mem_of_getElem? hp, rfl⟩
      | flagged =>
        rcases List.mem_append.mp h with h | h
        · exact Or.inl h
        · cases List.mem_singleton.mp h
      | cleared =>
        rcases List.mem_append.mp h with h | h
        · exact Or.inl h
        · cases List.mem_singleton.mp h
      | _ => exact Or.inl h

theorem collected_of_called
    (hs : (checkout dir).Reach (fun s e => paymentSteps PaymentPc.collectsLatest s e = true)
      (Shop.initial vendors) s) : ∀ id provider paymentRef reply,
      .called id provider paymentRef reply ∈ s.shared.world.refundLog →
        s.shared.Collected id provider (some paymentRef) := by
  refine Machine.Reach.invariant (I := fun s => ∀ id provider paymentRef reply,
    .called id provider paymentRef reply ∈ s.shared.world.refundLog →
      s.shared.Collected id provider (some paymentRef)) (by rintro _ _ _ _ ⟨⟩) ?_ hs
  intro s e s' hreach ih _ hnext id provider paymentRef reply hcalled
  rcases called_of_next hnext hcalled with hcalled | ⟨pc, hpc, hasks⟩
  · exact (ih id provider paymentRef reply hcalled).mono (grows_of_next hnext)
  · have hA : AsksCollected s.shared (.refund pc) :=
      (checkoutRule_collected.holds_of_reach hreach).2 _ hpc
    exact (hA.2 id provider paymentRef hasks).mono (grows_of_next hnext)

/-- **Every refund call is on the provider and the reference whose success placed the order**,
in every run in which the success that places an order is that of its latest attempt and no
attempt is recorded after it. -/
theorem refund_reverses_collected
    (hs : (checkout dir).Reach (fun s e => paymentSteps PaymentPc.collectsLatest s e = true)
      (Shop.initial vendors) s) {id : OrderId} {provider : PaymentProvider} {paymentRef : String}
    {reply : RefundReply} (h : .called id provider paymentRef reply ∈ s.shared.world.refundLog) :
    (∃ p ∈ s.shared.placed, p.orderId = id) ∧ ∀ p ∈ s.shared.placed, p.orderId = id →
      p.confirmation.provider = provider ∧ p.confirmation.reference = some paymentRef := by
  obtain ⟨q, hq, hid, hprovider, href⟩ := collected_of_called hs id provider paymentRef reply h
  refine ⟨⟨q, hq, hid⟩, ?_⟩
  intro p hp hpid
  have honce := (placed_once (hs.mono fun _ _ _ => trivial)).1
  obtain rfl : p = q := List.inj_on_of_nodup_map honce hp hq (hpid.trans hid.symm)
  exact ⟨hprovider, href⟩

end Runs

section Examples

/-- Two sessions are opened with Stripe, and the customer pays `cs_1`, the first or the second
of them; the order is delivered, and an admin refunds it. -/
def paidAndRefunded (first second : String) : List ShopEvent :=
  placeOrder .stripe :: .spawn (.initiatePayment 0 none) ::
    payments 0 [.done, .initiated (.ok first), .done] ++
    .spawn (.initiatePayment 0 none) :: payments 1 [.done, .initiated (.ok second), .done] ++
    .spawn (.handleWebhook .stripe stripePaid) :: payments 2 [.done, .done, .done] ++
    deliverOrder 0 ++ [.spawn (.refund (.refundOrder 0)), .run 3 (.refund (.db .ok)),
      .run 3 (.refund (.db .ok)), .run 3 (.refund (.refund .resolved))]

theorem refund_reverses_collected_latest : ∃ s : Shop,
    .called 0 .stripe "cs_1" .resolved ∈ s.shared.world.refundLog ∧
      (∃ p ∈ s.shared.placed, p.orderId = 0) ∧ ∀ p ∈ s.shared.placed, p.orderId = 0 →
        p.confirmation.provider = .stripe ∧ p.confirmation.reference = some "cs_1" := by
  obtain ⟨s, hs, hP⟩ := exists_shop (paymentSteps PaymentPc.collectsLatest)
    (fun s => s.shared.world.refundLog.contains (.called 0 .stripe "cs_1" .resolved))
    (paidAndRefunded "cs_0" "cs_1") (by decide +kernel)
  rw [List.contains_iff_mem] at hP
  exact ⟨s, hP, refund_reverses_collected hs hP⟩

/-- **The session that was not paid is refunded**: the customer pays the first session after
opening the second, and the refund asks for the second. -/
theorem refund_of_uncollected :
    ¬ ∀ (dir : Directory) (vendors : List PayoutVendor) (s : Shop) (id : OrderId)
      (provider : PaymentProvider) (paymentRef : String) (reply : RefundReply),
      (checkout dir).Reach (fun _ _ => True) (Shop.initial vendors) s →
      .called id provider paymentRef reply ∈ s.shared.world.refundLog →
        ∀ p ∈ s.shared.placed, p.orderId = id →
          p.confirmation.provider = provider ∧ p.confirmation.reference = some paymentRef := by
  intro hall
  obtain ⟨s, hs, hP⟩ := exists_shop (fun _ _ => true)
    (fun s => s.shared.world.refundLog.contains (.called 0 .stripe "cs_2" .resolved) &&
      s.shared.placed.any fun (p : Placement) => decide (p.orderId = 0) &&
        decide (p.confirmation.reference = some "cs_1"))
    (paidAndRefunded "cs_1" "cs_2") (by decide +kernel)
  rw [Bool.and_eq_true, List.contains_iff_mem, List.any_eq_true] at hP
  obtain ⟨hcalled, p, hp, hP⟩ := hP
  rw [Bool.and_eq_true, decide_eq_true_eq, decide_eq_true_eq] at hP
  obtain ⟨hid, href⟩ := hP
  have hpair := hall soleOwner soleRestaurant s 0 .stripe "cs_2" .resolved
    (hs.mono fun _ _ _ => trivial) hcalled p hp hid
  exact absurd (href.symm.trans hpair.2) (by decide)

end Examples

end FoodDelivery
