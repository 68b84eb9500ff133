import FoodDelivery.Payments.Adapters
import FoodDelivery.Refunds.Writes

/-!
# Checkout

`initiatePayment`, `handleWebhook` and `verifyPayment` of `payments/payments.service.ts`, down
to `setPaymentRef`, `findByPaymentRef`, `markPaidFromWebhook` and `markPaymentFailed` of
`orders/orders.service.ts`, as a small-step machine beside the refund flow: a `PaymentPc` is
where a call stands with its local variables and `paymentStep` takes it through one awaited
call.  Every call is issued by whoever may issue it.  A call whose database fails is one that
takes no further step.

A `save()` writes the paths that the call has changed in the document it loaded, and pushes
onto arrays, whatever the stored document has become since.

Beside the database a `Checkout` keeps three records that the code does not have: the sessions
that the adapters opened, the successes that the adapters reported, and which success placed
which order.

* `payment_move`: every step is one of the moves.
* `paymentWrite_of_move`: what a step does to one order.
* `PaymentMove.grows`: the records only grow.
-/

namespace FoodDelivery

open Store Interleave

/-! ## The writes -/

namespace Order

/-- The `save()` of `setPaymentRef` on a document that was loaded as `loaded`. -/
def saveSetPaymentRef (o loaded : Order) (provider : PaymentProvider) (paymentRef : String) :
    Order :=
  { o with
    paymentProvider := if loaded.paymentProvider = provider then o.paymentProvider else provider
    paymentRef := if loaded.paymentRef = some paymentRef then o.paymentRef else some paymentRef
    paymentRefs := o.paymentRefs ++ [paymentRef]
    settledViaInstantSplit :=
      if loaded.settledViaInstantSplit then false else o.settledViaInstantSplit }

/-- The `save()` of `markPaymentFailed` on a document that was loaded as `loaded`. -/
def saveMarkPaymentFailed (o loaded : Order) : Order :=
  if loaded.paymentStatus = .failed then o else o.savePaymentFailed

/-- Without interference `setPaymentRef` sets every path. -/
theorem saveSetPaymentRef_self (o : Order) (provider : PaymentProvider) (paymentRef : String) :
    o.saveSetPaymentRef o provider paymentRef = o.setPaymentRef provider paymentRef false := by
  have hprovider : (if o.paymentProvider = provider then o.paymentProvider else provider) =
      provider := by
    split
    · assumption
    · rfl
  have href : (if o.paymentRef = some paymentRef then o.paymentRef else some paymentRef) =
      some paymentRef := by
    split
    · assumption
    · rfl
  have hsplit : (if o.settledViaInstantSplit then false else o.settledViaInstantSplit) = false := by
    cases o.settledViaInstantSplit <;> rfl
  rw [saveSetPaymentRef, setPaymentRef, hprovider, href, hsplit]

theorem saveMarkPaymentFailed_eq (o loaded : Order) :
    o.saveMarkPaymentFailed loaded = { o with
      paymentStatus := if loaded.paymentStatus = .failed then o.paymentStatus else .failed } := by
  rw [saveMarkPaymentFailed]
  split
  · rfl
  · rfl

/-- The filter of `findByPaymentRef`; a missing reference is sent as `null`, which a
`paymentRef` that was never set matches. -/
def matchesReference (o : Order) : Option String → Bool
  | some reference => o.matchesPaymentRef reference
  | none => o.paymentRef = none

end Order

/-! ## The state -/

/-- A session that an adapter opened: for which order, under which reference, and what it
asks for. -/
structure PaymentAttempt where
  orderId : OrderId
  provider : PaymentProvider
  reference : String
  amount : ℚ
  currency : String
  deriving DecidableEq

/-- A success that an adapter reported, under the reference the service knows it by. -/
structure Confirmation where
  provider : PaymentProvider
  reference : Option String
  charge : Charge
  deriving DecidableEq

/-- Which success moved which order to `PLACED`. -/
structure Placement where
  orderId : OrderId
  confirmation : Confirmation
  deriving DecidableEq

structure Checkout where
  world : World
  issued : List PaymentAttempt
  confirmed : List Confirmation
  placed : List Placement
  deriving DecidableEq

/-- `initiate` opens a session for the whole order. -/
def PaymentAttempt.ofOrder (id : OrderId) (order : Order) (provider : PaymentProvider)
    (reference : String) : PaymentAttempt where
  orderId := id
  provider := provider
  reference := reference
  amount := provider.sessionAmount order.total.val
  currency := order.currency

namespace Checkout

def modifyOrder (c : Checkout) (id : OrderId) (g : Order → Order) : Checkout :=
  { c with world := c.world.modifyOrder id g }

def issue (c : Checkout) (a : PaymentAttempt) : Checkout := { c with issued := c.issued ++ [a] }

def confirm (c : Checkout) (k : Confirmation) : Checkout :=
  { c with confirmed := c.confirmed ++ [k] }

def place (c : Checkout) (p : Placement) : Checkout := { c with placed := c.placed ++ [p] }

/-- `findByPaymentRef`. -/
def findByPaymentRef (c : Checkout) (reference : Option String) : Option (OrderId × Order) :=
  (c.world.orders.find fun _ o => o.matchesReference reference).head?

theorem get_of_findByPaymentRef {c : Checkout} {reference : Option String} {id : OrderId}
    {d : Order} (h : c.findByPaymentRef reference = some (id, d)) :
    c.world.orders.get id = some d ∧ d.matchesReference reference = true :=
  Collection.mem_find.mp (List.mem_of_mem_head? h)

/-- What happens outside the payment and refund calls. -/
def withWorld (c : Checkout) (w : World) : Checkout := { c with world := w }

end Checkout

/-! ## The calls -/

/-- Where a payment call stands. -/
inductive PaymentPc
  | initiateRead (id : OrderId) (providerOverride : Option PaymentProvider)
  | initiating (id : OrderId) (order : Order) (provider : PaymentProvider)
  | saveRef (id : OrderId) (order : Order) (provider : PaymentProvider) (reference : String)
  | webhook (provider : PaymentProvider) (request : WebhookRequest)
  | webhookFind (event : WebhookEvent) (source : Confirmation)
  | verifyRead (id : OrderId)
  | verifying (id : OrderId) (provider : PaymentProvider) (paymentRef : String)
  | markPaid (id : OrderId) (source : Confirmation)
  | failRead (id : OrderId)
  | failSave (id : OrderId) (order : Order)
  | returned
  | rejected (error : HttpError)
  deriving DecidableEq

/-- What an awaited call of a payment answers: the database is done, or what `initiate` and
`verify` give back or throw. -/
inductive PaymentReply
  | done
  | initiated (result : Except String String)
  | verified (result : Option VerifyResponse)

namespace PaymentPc

/-- The checks of `initiatePayment` on the order it read. -/
def afterInitiateRead (id : OrderId) (order : Order) (providerOverride : Option PaymentProvider) :
    PaymentPc :=
  if order.status ≠ .pendingPayment then
    .rejected (.badRequest
      "This order has already been paid, or is no longer awaiting payment")
  else
    match providerOverride with
    | none => .initiating id order order.paymentProvider
    | some provider =>
      if provider ∈ resolveProviders order.currency then .initiating id order provider
      else .rejected (.badRequest s!"{provider.name} does not support {order.currency}")

def notStarted (provider : PaymentProvider) (message : String) : HttpError :=
  .badRequest s!"Couldn't start payment with {provider.name}: {message}"

/-- The checks of `handleWebhook` on the order it found. -/
def afterWebhookFind (event : WebhookEvent) (source : Confirmation) (id : OrderId)
    (order : Order) : PaymentPc :=
  if order.paymentProvider ≠ source.provider then .returned
  else if event.success then .markPaid id source
  else .failRead id

/-- The checks of `verifyPayment` on the order it read. -/
def afterVerifyRead (id : OrderId) (order : Order) : PaymentPc :=
  if order.status ≠ .pendingPayment then .returned
  else if isBlank order.paymentRef then
    .rejected (.badRequest "This order has no payment attempt to verify yet")
  else .verifying id order.paymentProvider (order.paymentRef.getD "")

end PaymentPc

open PaymentPc

/-- One awaited call of a payment; `handleWebhook` of an adapter is a step of its own. -/
def paymentStep (c : Checkout) : PaymentPc → PaymentReply → Option (Checkout × PaymentPc)
  | .initiateRead id providerOverride, .done =>
    match c.world.orders.get id with
    | none => some (c, .rejected (.notFound "Order not found"))
    | some order => some (c, afterInitiateRead id order providerOverride)
  | .initiating id order provider, .initiated (.ok reference) =>
    some (c.issue (.ofOrder id order provider reference), .saveRef id order provider reference)
  | .initiating _ _ provider, .initiated (.error message) =>
    some (c, .rejected (notStarted provider message))
  | .saveRef id order provider reference, .done =>
    some (c.modifyOrder id (·.saveSetPaymentRef order provider reference), .returned)
  | .webhook provider request, .done =>
    match provider.handleWebhook request with
    | .event event charge =>
      if event.success then
        some (c.confirm ⟨provider, event.reference, charge⟩,
          .webhookFind event ⟨provider, event.reference, charge⟩)
      else some (c, .webhookFind event ⟨provider, event.reference, charge⟩)
    | .ignored => some (c, .returned)
    | .threw => some (c, .returned)
  | .webhookFind event source, .done =>
    match c.findByPaymentRef event.reference with
    | none => some (c, .returned)
    | some (id, order) => some (c, afterWebhookFind event source id order)
  | .verifyRead id, .done =>
    match c.world.orders.get id with
    | none => some (c, .rejected (.notFound "Order not found"))
    | some order => some (c, afterVerifyRead id order)
  | .verifying id provider paymentRef, .verified (some response) =>
    match provider.verify response with
    | some charge =>
      some (c.confirm ⟨provider, some paymentRef, charge⟩,
        .markPaid id ⟨provider, some paymentRef, charge⟩)
    | none => some (c, .failRead id)
  | .verifying _ _ _, .verified none => some (c, .returned)
  | .markPaid id source, .done =>
    match (c.world.orders.get id).bind (·.markPaidFromWebhook c.world.now) with
    | none => some (c, .returned)
    | some paid => some ((c.modifyOrder id fun _ => paid).place ⟨id, source⟩, .returned)
  | .failRead id, .done =>
    match c.world.orders.get id with
    | none => some (c, .returned)
    | some order => some (c, if order.paymentIsFinal then .returned else .failSave id order)
  | .failSave id order, .done =>
    some (c.modifyOrder id (·.saveMarkPaymentFailed order), .returned)
  | _, _ => none

/-! ## The moves -/

/-- The moves of a payment call. -/
inductive PaymentMove (c : Checkout) : PaymentPc → PaymentReply → Checkout → PaymentPc → Prop
  | returned {pc : PaymentPc} {r : PaymentReply} : PaymentMove c pc r c .returned
  | rejected {pc : PaymentPc} {r : PaymentReply} (error : HttpError) :
    PaymentMove c pc r c (.rejected error)
  | initiating {id : OrderId} {order : Order} {providerOverride : Option PaymentProvider}
    {provider : PaymentProvider} (hd : c.world.orders.get id = some order)
    (hs : order.status = .pendingPayment) :
    PaymentMove c (.initiateRead id providerOverride) .done c (.initiating id order provider)
  | issued (id : OrderId) (order : Order) (provider : PaymentProvider) (reference : String) :
    PaymentMove c (.initiating id order provider) (.initiated (.ok reference))
      (c.issue (.ofOrder id order provider reference)) (.saveRef id order provider reference)
  | saved (id : OrderId) (order : Order) (provider : PaymentProvider) (reference : String) :
    PaymentMove c (.saveRef id order provider reference) .done
      (c.modifyOrder id (·.saveSetPaymentRef order provider reference)) .returned
  | reported {provider : PaymentProvider} {request : WebhookRequest} {event : WebhookEvent}
    {charge : Charge} (h : provider.handleWebhook request = .event event charge)
    (hs : event.success = true) :
    PaymentMove c (.webhook provider request) .done (c.confirm ⟨provider, event.reference, charge⟩)
      (.webhookFind event ⟨provider, event.reference, charge⟩)
  | declined {provider : PaymentProvider} {request : WebhookRequest} {event : WebhookEvent}
    {charge : Charge} (h : provider.handleWebhook request = .event event charge)
    (hs : event.success = false) :
    PaymentMove c (.webhook provider request) .done c
      (.webhookFind event ⟨provider, event.reference, charge⟩)
  | found {event : WebhookEvent} {source : Confirmation} {id : OrderId} {order : Order}
    (hf : c.findByPaymentRef event.reference = some (id, order))
    (hp : order.paymentProvider = source.provider) (hs : event.success = true) :
    PaymentMove c (.webhookFind event source) .done c (.markPaid id source)
  | foundFailed {event : WebhookEvent} {source : Confirmation} {id : OrderId} :
    PaymentMove c (.webhookFind event source) .done c (.failRead id)
  | asking {id : OrderId} {order : Order} {paymentRef : String}
    (hd : c.world.orders.get id = some order) (href : order.paymentRef = some paymentRef) :
    PaymentMove c (.verifyRead id) .done c (.verifying id order.paymentProvider paymentRef)
  | verified {id : OrderId} {provider : PaymentProvider} {paymentRef : String}
    {response : VerifyResponse} {charge : Charge} (h : provider.verify response = some charge) :
    PaymentMove c (.verifying id provider paymentRef) (.verified (some response))
      (c.confirm ⟨provider, some paymentRef, charge⟩)
      (.markPaid id ⟨provider, some paymentRef, charge⟩)
  | unpaid {id : OrderId} {provider : PaymentProvider} {paymentRef : String} {r : PaymentReply} :
    PaymentMove c (.verifying id provider paymentRef) r c (.failRead id)
  | placed {id : OrderId} {source : Confirmation} {d paid : Order}
    (hd : c.world.orders.get id = some d) (h : d.markPaidFromWebhook c.world.now = some paid) :
    PaymentMove c (.markPaid id source) .done
      ((c.modifyOrder id fun _ => paid).place ⟨id, source⟩) .returned
  | failing {id : OrderId} {order : Order} (hd : c.world.orders.get id = some order)
    (hf : order.paymentIsFinal = false) :
    PaymentMove c (.failRead id) .done c (.failSave id order)
  | failed (id : OrderId) (order : Order) :
    PaymentMove c (.failSave id order) .done
      (c.modifyOrder id (·.saveMarkPaymentFailed order)) .returned

section Moves

variable {c c' : Checkout} {pc pc' : PaymentPc} {r : PaymentReply} {id : OrderId} {d : Order}

/-- But for the calls of an adapter, an awaited call comes back with the database done. -/
theorem done_of_paymentStep (h : paymentStep c pc r = some (c', pc'))
    (hi : ∀ id order provider, pc ≠ .initiating id order provider)
    (hv : ∀ id provider paymentRef, pc ≠ .verifying id provider paymentRef) : r = .done := by
  cases r with
  | done => rfl
  | initiated result =>
    cases pc with
    | initiating id order provider => exact absurd rfl (hi id order provider)
    | _ => cases h
  | verified result =>
    cases pc with
    | verifying id provider paymentRef => exact absurd rfl (hv id provider paymentRef)
    | _ => cases h

/-- **Every step is one of the moves.** -/
theorem payment_move (h : paymentStep c pc r = some (c', pc')) : PaymentMove c pc r c' pc' := by
  cases pc with
  | initiateRead id providerOverride =>
    obtain rfl := done_of_paymentStep h (by rintro _ _ _ ⟨⟩) (by rintro _ _ _ ⟨⟩)
    simp only [paymentStep] at h
    split at h
    · cases h
      exact .rejected _
    · rename_i order hd
      cases h
      unfold afterInitiateRead
      split
      · exact .rejected _
      · rename_i hs
        rw [not_not] at hs
        split
        · exact .initiating hd hs
        · split
          · exact .initiating hd hs
          · exact .rejected _
  | initiating id order provider =>
    cases r with
    | done => cases h
    | initiated result =>
      cases result with
      | error message =>
        cases h
        exact .rejected _
      | ok reference =>
        cases h
        exact .issued id order provider reference
    | verified result => cases h
  | saveRef id order provider reference =>
    obtain rfl := done_of_paymentStep h (by rintro _ _ _ ⟨⟩) (by rintro _ _ _ ⟨⟩)
    cases h
    exact .saved id order provider reference
  | webhook provider request =>
    obtain rfl := done_of_paymentStep h (by rintro _ _ _ ⟨⟩) (by rintro _ _ _ ⟨⟩)
    simp only [paymentStep] at h
    split at h
    · rename_i event charge hevent
      by_cases hs : event.success = true
      · rw [if_pos hs] at h
        cases h
        exact .reported hevent hs
      · rw [if_neg hs] at h
        cases h
        exact .declined hevent (Bool.not_eq_true _ ▸ hs)
    · cases h
      exact .returned
    · cases h
      exact .returned
  | webhookFind event source =>
    obtain rfl := done_of_paymentStep h (by rintro _ _ _ ⟨⟩) (by rintro _ _ _ ⟨⟩)
    simp only [paymentStep] at h
    split at h
    · cases h
      exact .returned
    · rename_i id order hf
      cases h
      rw [PaymentPc.afterWebhookFind]
      split
      · exact .returned
      · rename_i hp
        rw [not_not] at hp
        split
        · rename_i hs
          exact .found hf hp hs
        · exact .foundFailed
  | verifyRead id =>
    obtain rfl := done_of_paymentStep h (by rintro _ _ _ ⟨⟩) (by rintro _ _ _ ⟨⟩)
    simp only [paymentStep] at h
    split at h
    · cases h
      exact .rejected _
    · rename_i order hd
      cases h
      rw [afterVerifyRead]
      split
      · exact .returned
      · split
        · exact .rejected _
        · rename_i hblank
          cases href : order.paymentRef with
          | none => exact absurd (by rw [href]; rfl) hblank
          | some paymentRef => exact .asking hd href
  | verifying id provider paymentRef =>
    cases r with
    | done => cases h
    | initiated result => cases h
    | verified result =>
      cases result with
      | none =>
        cases h
        exact .returned
      | some response =>
        simp only [paymentStep] at h
        split at h
        · rename_i charge hv
          cases h
          exact .verified hv
        · cases h
          exact .unpaid
  | markPaid id source =>
    obtain rfl := done_of_paymentStep h (by rintro _ _ _ ⟨⟩) (by rintro _ _ _ ⟨⟩)
    simp only [paymentStep] at h
    split at h
    · cases h
      exact .returned
    · rename_i paid hpaid
      cases h
      obtain ⟨d, hd, hp⟩ := Option.bind_eq_some_iff.mp hpaid
      exact .placed hd hp
  | failRead id =>
    obtain rfl := done_of_paymentStep h (by rintro _ _ _ ⟨⟩) (by rintro _ _ _ ⟨⟩)
    simp only [paymentStep] at h
    split at h
    · cases h
      exact .returned
    · rename_i order hd
      cases h
      by_cases hf : order.paymentIsFinal = true
      · rw [if_pos hf]
        exact .returned
      · rw [if_neg hf]
        exact .failing hd (Bool.not_eq_true _ ▸ hf)
  | failSave id order =>
    obtain rfl := done_of_paymentStep h (by rintro _ _ _ ⟨⟩) (by rintro _ _ _ ⟨⟩)
    cases h
    exact .failed id order
  | returned =>
    obtain rfl := done_of_paymentStep h (by rintro _ _ _ ⟨⟩) (by rintro _ _ _ ⟨⟩)
    cases h
  | rejected error =>
    obtain rfl := done_of_paymentStep h (by rintro _ _ _ ⟨⟩) (by rintro _ _ _ ⟨⟩)
    cases h

/-- The writes of a payment call to the order `id`, from where they are made. -/
inductive PaymentWrite (c : Checkout) (id : OrderId) (pc : PaymentPc) (d : Order) : Order → Prop
  | unchanged : PaymentWrite c id pc d d
  | attempted {order : Order} {provider : PaymentProvider} {reference : String}
    (hpc : pc = .saveRef id order provider reference) :
    PaymentWrite c id pc d (d.saveSetPaymentRef order provider reference)
  | paid {source : Confirmation} {d' : Order} (hpc : pc = .markPaid id source)
    (h : d.markPaidFromWebhook c.world.now = some d') : PaymentWrite c id pc d d'
  | failed {order : Order} (hpc : pc = .failSave id order) :
    PaymentWrite c id pc d (d.saveMarkPaymentFailed order)

/-- **What a step of a payment does to one order.** -/
theorem paymentWrite_of_move (hm : PaymentMove c pc r c' pc')
    (hd : c.world.orders.get id = some d) :
    ∃ d', c'.world.orders.get id = some d' ∧ PaymentWrite c id pc d d' := by
  cases hm with
  | saved i order provider reference =>
    refine get_modifyOrder_of hd .unchanged fun hi => ?_
    subst hi
    exact .attempted rfl
  | placed hd' h =>
    refine get_modifyOrder_of hd .unchanged fun hi => ?_
    subst hi
    obtain rfl := Option.some.inj (hd'.symm.trans hd)
    exact .paid rfl h
  | failed i order =>
    refine get_modifyOrder_of hd .unchanged fun hi => ?_
    subst hi
    exact .failed rfl
  | _ => exact ⟨d, hd, .unchanged⟩

/-- No payment call creates an order. -/
theorem get_before_move (hm : PaymentMove c pc r c' pc')
    (hd : c'.world.orders.get id = some d) : ∃ d₀, c.world.orders.get id = some d₀ := by
  cases hm with
  | saved i order provider reference => exact Collection.exists_get_of_modify hd
  | placed hd' h => exact Collection.exists_get_of_modify hd
  | failed i order => exact Collection.exists_get_of_modify hd
  | _ => exact ⟨d, hd⟩

/-- The records of a checkout have grown. -/
structure Checkout.Grows (c c' : Checkout) : Prop where
  issued : ∀ a ∈ c.issued, a ∈ c'.issued
  confirmed : ∀ k ∈ c.confirmed, k ∈ c'.confirmed
  placed : ∀ p ∈ c.placed, p ∈ c'.placed

theorem Checkout.Grows.refl (c : Checkout) : c.Grows c := ⟨fun _ h => h, fun _ h => h, fun _ h => h⟩

/-- **The records only grow.** -/
theorem PaymentMove.grows (hm : PaymentMove c pc r c' pc') : c.Grows c' := by
  cases hm with
  | issued => exact ⟨fun a h => List.mem_append_left _ h, fun _ h => h, fun _ h => h⟩
  | reported => exact ⟨fun _ h => h, fun k h => List.mem_append_left _ h, fun _ h => h⟩
  | verified => exact ⟨fun _ h => h, fun k h => List.mem_append_left _ h, fun _ h => h⟩
  | placed => exact ⟨fun _ h => h, fun _ h => h, fun p h => List.mem_append_left _ h⟩
  | _ => exact ⟨fun _ h => h, fun _ h => h, fun _ h => h⟩

end Moves

end FoodDelivery
