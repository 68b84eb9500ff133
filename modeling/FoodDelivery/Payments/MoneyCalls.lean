import FoodDelivery.Payouts.Sent

/-!
# Calls that move money

`transfer` and `refund` of the three adapters.  A plain error means to the callers that no money
moved: the orders of a payout are freed, a refund may be tried again.
`TransferOutcomeUnknownError` and `RefundOutcomeUnknownError` mean that it may have.

The adapters of Paystack and Flutterwave see an answer of `fetch` only through `response.json()`:
they cannot tell the provider from a gateway in front of it, nor one HTTP status from another.
Stripe's goes through the provider's SDK, which is outside: what it did is known only as far as
its errors are documented.

* `settle_sound_iff`: when an answer of `fetch` is put in the right class.
* `money_call_sound_iff`: the same for the six calls.
* `soundAdapter_of_sound`: what this gives the payout batch.
-/

namespace FoodDelivery

/-! ## JSON -/

/-- A value of JSON.  A number is kept as `String` prints it. -/
inductive JsonValue
  | null
  | bool (b : Bool)
  | number (printed : String)
  | string (s : String)
  | array (items : List JsonValue)
  | object (fields : List (String × JsonValue))

namespace JsonValue

/-- A property of a value other than `null`; `none` stands for `undefined`. -/
def field (name : String) : JsonValue → Option JsonValue
  | object fields => fields.lookup name
  | _ => none

/-- Whether JavaScript takes a value for true. -/
def truthy : Option JsonValue → Bool
  | none => false
  | some null => false
  | some (bool b) => b
  | some (number printed) => printed != "0"
  | some (string s) => s != ""
  | some (array _) => true
  | some (object _) => true

mutual

/-- `String(value)`. -/
def toText : JsonValue → String
  | null => "null"
  | bool b => toString b
  | number printed => printed
  | string s => s
  | array items => ",".intercalate (itemTexts items)
  | object _ => "[object Object]"

def itemTexts : List JsonValue → List String
  | [] => []
  | null :: items => "" :: itemTexts items
  | item :: items => item.toText :: itemTexts items

end

/-- `new Error(body.message ?? rejection)`. -/
def messageOr (rejection : String) (body : JsonValue) : String :=
  match body.field "message" with
  | none => rejection
  | some null => rejection
  | some message => message.toText

end JsonValue

open JsonValue

/-! ## Answers and how a call settles -/

/-- Who answered a request. -/
inductive Origin
  | provider
  | gateway
  deriving DecidableEq

/-- How `this.request` ends: `fetch` or `response.json()` throws, or there is a body. -/
inductive HttpReply
  | lost (message : String)
  | answered (origin : Origin) (body : JsonValue)

/-- How `transfer` or `refund` settles: with the reference of a transfer, with an
`OutcomeUnknownError`, or with another error. -/
inductive Settled
  | resolved (reference : Option String)
  | unknown (message : String)
  | failed (message : Option String)
  deriving DecidableEq

/-- A request that moves money, and what the adapter makes of the answer: `accepts` is its check
of the body, `rejection` what it throws when the body has no message.  A body `null` has no
`status` to read. -/
def HttpReply.settle (what rejection : String) (accepts : JsonValue → Bool)
    (reference : JsonValue → Option String) : HttpReply → Settled
  | .lost message => .unknown s!"{what} outcome unknown: {message}"
  | .answered _ .null => .failed "Cannot read properties of null (reading 'status')"
  | .answered _ body =>
    if accepts body then .resolved (reference body) else .failed (body.messageOr rejection)

/-! ## Paystack -/

namespace PaystackAdapter

/-- `status`, and where it is checked `data`, of an answer. -/
def accepts (needsData : Bool) (body : JsonValue) : Bool :=
  truthy (body.field "status") && (!needsData || truthy (body.field "data"))

/-- The request for a transfer recipient. -/
def createRecipient : HttpReply → Settled :=
  HttpReply.settle "Paystack transfer-recipient creation"
    "Could not create the Paystack transfer recipient" (accepts true)
    fun body => ((body.field "data").bind (field "recipient_code")).map toText

/-- `transfer`, with the answers to `/transferrecipient` and `/transfer`. -/
def transfer (recipient transfer : HttpReply) : Settled :=
  match createRecipient recipient with
  | .resolved _ =>
    transfer.settle "Paystack transfer" "Paystack transfer failed" (accepts true)
      fun body => ((body.field "data").bind (field "transfer_code")).map toText
  | settled => settled

/-- `refund`, with the answer to `/refund`. -/
def refund : HttpReply → Settled :=
  HttpReply.settle "Paystack refund" "Paystack refund failed" (accepts false) fun _ => none

/-- What Paystack reports of a request: `true` when it accepted it, `false` when it refused. -/
def reported : Option JsonValue → Option Bool
  | some (.bool b) => some b
  | _ => none

end PaystackAdapter

/-! ## Flutterwave -/

namespace FlutterwaveAdapter

/-- `status !== 'success'`, and where it is checked `!data`, of an answer. -/
def accepts (needsData : Bool) (body : JsonValue) : Bool :=
  (match body.field "status" with
  | some (.string s) => s == "success"
  | _ => false) && (!needsData || truthy (body.field "data"))

/-- `transfer`, with the answer to `/transfers`. -/
def transfer : HttpReply → Settled :=
  HttpReply.settle "Flutterwave transfer" "Flutterwave transfer failed" (accepts true)
    fun body => some ((((body.field "data").bind (field "id")).map toText).getD "undefined")

/-- `refund`, with the answers to `verify_by_reference`, which moves no money, and to
`/transactions/:id/refund`. -/
def refund (verification refund : HttpReply) : Settled :=
  match verification with
  | .lost message => .failed message
  | .answered _ .null => .failed "Cannot read properties of null (reading 'status')"
  | .answered _ body =>
    if accepts true body then
      refund.settle "Flutterwave refund" "Flutterwave refund failed" (accepts false) fun _ => none
    else .failed "Could not find the original Flutterwave transaction to refund"

/-- What Flutterwave reports of a request. -/
def reported : Option JsonValue → Option Bool
  | some (.string s) =>
    if s = "success" then some true else if s = "error" then some false else none
  | _ => none

end FlutterwaveAdapter

/-! ## Stripe -/

/-- What an error of Stripe's SDK is an instance of: `StripeConnectionError`, `StripeAPIError`,
one of the classes for a request that Stripe refused, or none of these. -/
inductive StripeErrorKind
  | connection
  | api
  | rejection
  | other
  deriving DecidableEq

/-- What the SDK throws; there is no message when it is no `Error`. -/
structure StripeError where
  kind : StripeErrorKind
  message : Option String
  deriving DecidableEq

/-- How a call of the SDK settles. -/
inductive StripeReply (α : Type)
  | resolved (value : α)
  | threw (error : StripeError)

/-- The errors after which the request may have been carried out. -/
def StripeError.leavesOpen (error : StripeError) : Bool :=
  error.kind = .connection || error.kind = .api

namespace StripeAdapter

/-- `transfer`, with how `transfers.create` settles. -/
def transfer : StripeReply String → Settled
  | .resolved id => .resolved (some id)
  | .threw error =>
    if error.leavesOpen then
      .unknown ("Stripe transfer outcome unknown: " ++ error.message.getD "")
    else .failed (error.message.getD "Stripe transfer failed")

/-- `refund`, with how `sessions.retrieve` settles, with the session's payment intent, and
`refunds.create`. -/
def refund (session : StripeReply (Option String)) (refund : StripeReply String) : Settled :=
  match session with
  | .threw error => .failed error.message
  | .resolved paymentIntent =>
    if isBlank paymentIntent then .failed "Stripe checkout session has no payment intent to refund"
    else
      match refund with
      | .resolved _ => .resolved none
      | .threw error =>
        if error.leavesOpen then
          .unknown ("Stripe refund outcome unknown: " ++ error.message.getD "")
        else .failed error.message

end StripeAdapter

/-! ## What may have happened -/

/-- What an answer says of its request: `some true` that the provider accepted it, `some false`
that it did not; after `none` it may have. -/
def HttpReply.verdict (reported : Option JsonValue → Option Bool) : HttpReply → Option Bool
  | .answered .provider body => reported (body.field "status")
  | _ => none

/-- The right class: plain errors when the provider cannot have accepted the request, success when
it did. -/
def Settled.Sound : Settled → Option Bool → Prop
  | .resolved _, verdict => verdict = some true
  | .unknown _, _ => True
  | .failed _, verdict => verdict = some false

/-- No answer, or one of the provider in which it refuses or accepts, then with data where the
adapter asks for some. -/
def HttpReply.Clear (reported : Option JsonValue → Option Bool) (needsData : Bool) :
    HttpReply → Prop
  | .lost _ => True
  | .answered origin body => origin = .provider ∧ (reported (body.field "status") = some false ∨
      (reported (body.field "status") = some true ∧
        (needsData = true → truthy (body.field "data") = true)))

section Settle

variable {what rejection : String} {accepts : JsonValue → Bool}
  {reference : JsonValue → Option String} {reported : Option JsonValue → Option Bool}
  {needsData : Bool}

/-- A check that agrees with what the provider reports, as far as it reports, and asks for data. -/
structure Heeds (accepts : JsonValue → Bool) (reported : Option JsonValue → Option Bool)
    (needsData : Bool) : Prop where
  accepted : ∀ body, reported (body.field "status") = some true →
    accepts body = (!needsData || truthy (body.field "data"))
  refused : ∀ body, reported (body.field "status") = some false → accepts body = false
  missing : reported none = none

/-- A body other than `null` is put in the right class when it is a refusal, or an acceptance with
the data asked for. -/
theorem sound_answered_iff (h : Heeds accepts reported needsData) (origin : Origin)
    (body : JsonValue) :
    (if accepts body then Settled.resolved (reference body)
      else .failed (body.messageOr rejection)).Sound
        ((HttpReply.answered origin body).verdict reported) ↔
      (HttpReply.answered origin body).Clear reported needsData := by
  cases origin with
  | gateway =>
    simp only [HttpReply.Clear, HttpReply.verdict, reduceCtorEq, false_and, iff_false]
    split <;> rintro ⟨⟩
  | provider =>
    simp only [HttpReply.Clear, HttpReply.verdict, true_and]
    cases hr : reported (body.field "status") with
    | none =>
      simp only [reduceCtorEq, false_and, or_false, iff_false]
      split <;> rintro ⟨⟩
    | some b =>
      cases b with
      | false =>
        rw [h.refused body hr, if_neg Bool.false_ne_true]
        exact ⟨fun _ => Or.inl rfl, fun _ => rfl⟩
      | true =>
        rw [h.accepted body hr]
        cases needsData <;> cases truthy (body.field "data") <;> simp [Settled.Sound]

/-- **When an answer is put in the right class.** -/
theorem settle_sound_iff (h : Heeds accepts reported needsData) (reply : HttpReply) :
    (reply.settle what rejection accepts reference).Sound (reply.verdict reported) ↔
      reply.Clear reported needsData := by
  cases reply with
  | lost message => exact ⟨fun _ => trivial, fun _ => trivial⟩
  | answered origin body =>
    cases body with
    | null =>
      cases origin with
      | gateway => simp [HttpReply.settle, HttpReply.verdict, HttpReply.Clear, Settled.Sound]
      | provider =>
        simp [HttpReply.settle, HttpReply.verdict, HttpReply.Clear, Settled.Sound, field, h.missing]
    | bool b => exact sound_answered_iff h origin _
    | number printed => exact sound_answered_iff h origin _
    | string s => exact sound_answered_iff h origin _
    | array items => exact sound_answered_iff h origin _
    | object fields => exact sound_answered_iff h origin _

end Settle

namespace PaystackAdapter

theorem reported_eq_some {status : Option JsonValue} {b : Bool} (h : reported status = some b) :
    status = some (.bool b) := by
  unfold reported at h
  split at h
  · cases h
    rfl
  · cases h

theorem heeds (needsData : Bool) : Heeds (accepts needsData) reported needsData where
  accepted body h := by
    rw [accepts, reported_eq_some h]
    rfl
  refused body h := by
    rw [accepts, reported_eq_some h]
    rfl
  missing := rfl

end PaystackAdapter

namespace FlutterwaveAdapter

theorem reported_eq_some {status : Option JsonValue} {b : Bool} (h : reported status = some b) :
    status = some (.string (if b then "success" else "error")) := by
  unfold reported at h
  split at h
  · split at h
    · rename_i hs
      cases h
      rw [hs, if_pos rfl]
    · split at h
      · rename_i hs
        cases h
        rw [hs, if_neg Bool.false_ne_true]
      · cases h
  · cases h

theorem heeds (needsData : Bool) : Heeds (accepts needsData) reported needsData where
  accepted body h := by
    rw [accepts, reported_eq_some h]
    rfl
  refused body h := by
    rw [accepts, reported_eq_some h]
    rfl
  missing := rfl

end FlutterwaveAdapter

/-! ## The six calls -/

/-- A call of `transfer` or `refund`, with how its requests end.  A request that is not made ends
in any way. -/
inductive MoneyCall
  | stripeTransfer (transfer : StripeReply String)
  | stripeRefund (session : StripeReply (Option String)) (refund : StripeReply String)
  | paystackTransfer (recipient transfer : HttpReply)
  | paystackRefund (refund : HttpReply)
  | flutterwaveTransfer (transfer : HttpReply)
  | flutterwaveRefund (verification refund : HttpReply)

/-- The SDK resolves when Stripe carried the request out, and it did not after an error of a class
for refusals. -/
structure StripeDocumented (stripe : StripeReply String → Option Bool) : Prop where
  resolved : ∀ id, stripe (.resolved id) = some true
  rejected : ∀ error, error.kind = .rejection → stripe (.threw error) = some false

/-- The session has a payment to refund. -/
def StripeReply.hasPaymentIntent : StripeReply (Option String) → Bool
  | .resolved paymentIntent => !isBlank paymentIntent
  | .threw _ => false

/-- A request that goes before the one that moves money got what it asked for: a truthy `status`,
or Flutterwave's `success`, and data. -/
def HttpReply.provides (accepts : JsonValue → Bool) : HttpReply → Bool
  | .lost _ => false
  | .answered _ body => accepts body

namespace MoneyCall

/-- How the call settles. -/
def settled : MoneyCall → Settled
  | stripeTransfer transfer => StripeAdapter.transfer transfer
  | stripeRefund session refund => StripeAdapter.refund session refund
  | paystackTransfer recipient transfer => PaystackAdapter.transfer recipient transfer
  | paystackRefund refund => PaystackAdapter.refund refund
  | flutterwaveTransfer transfer => FlutterwaveAdapter.transfer transfer
  | flutterwaveRefund verification refund => FlutterwaveAdapter.refund verification refund

/-- Whether the provider accepted the request that moves money; `none` when it may have.  One that
is not made is not accepted. -/
def verdict (stripe : StripeReply String → Option Bool) : MoneyCall → Option Bool
  | stripeTransfer transfer => stripe transfer
  | stripeRefund session refund => if session.hasPaymentIntent then stripe refund else some false
  | paystackTransfer recipient transfer =>
    if recipient.provides (PaystackAdapter.accepts true) then
      transfer.verdict PaystackAdapter.reported
    else some false
  | paystackRefund refund => refund.verdict PaystackAdapter.reported
  | flutterwaveTransfer transfer => transfer.verdict FlutterwaveAdapter.reported
  | flutterwaveRefund verification refund =>
    if verification.provides (FlutterwaveAdapter.accepts true) then
      refund.verdict FlutterwaveAdapter.reported
    else some false

/-- The request that moves money, if it is made, has a clear end; an error of Stripe's SDK that is
of no documented class came of a request that was not carried out. -/
def Clear (stripe : StripeReply String → Option Bool) : MoneyCall → Prop
  | stripeTransfer transfer => ∀ error, transfer = .threw error → error.kind = .other →
      stripe transfer = some false
  | stripeRefund session refund => session.hasPaymentIntent = true →
      ∀ error, refund = .threw error → error.kind = .other → stripe refund = some false
  | paystackTransfer recipient transfer =>
      recipient.provides (PaystackAdapter.accepts true) = true →
        transfer.Clear PaystackAdapter.reported true
  | paystackRefund refund => refund.Clear PaystackAdapter.reported false
  | flutterwaveTransfer transfer => transfer.Clear FlutterwaveAdapter.reported true
  | flutterwaveRefund verification refund =>
      verification.provides (FlutterwaveAdapter.accepts true) = true →
        refund.Clear FlutterwaveAdapter.reported false

end MoneyCall

section Calls

variable {stripe : StripeReply String → Option Bool}

/-- An answer that provides is a success. -/
theorem settle_of_provides {what rejection : String} {accepts : JsonValue → Bool}
    {reference : JsonValue → Option String} {reply : HttpReply} (hnull : accepts .null = false)
    (h : reply.provides accepts = true) :
    ∃ r, reply.settle what rejection accepts reference = .resolved r := by
  cases reply with
  | lost message => cases h
  | answered origin body =>
    cases body with
    | null => cases hnull.symm.trans h
    | _ => exact ⟨_, if_pos h⟩

/-- Any other answer is none. -/
theorem settle_of_not_provides {what rejection : String} {accepts : JsonValue → Bool}
    {reference : JsonValue → Option String} {reply : HttpReply}
    (h : reply.provides accepts = false) (r : Option String) :
    reply.settle what rejection accepts reference ≠ .resolved r := by
  cases reply with
  | lost message => rintro ⟨⟩
  | answered origin body =>
    have hbody : ¬ accepts body = true := by
      rw [Bool.not_eq_true]
      exact h
    cases body with
    | null => rintro ⟨⟩
    | _ =>
      rw [HttpReply.settle, if_neg hbody]
      · rintro ⟨⟩
      · rintro ⟨⟩

/-- A call that ends before its money is asked for is in the right class unless it succeeds. -/
theorem Settled.sound_false {settled : Settled} (h : ∀ r, settled ≠ .resolved r) :
    settled.Sound (some false) := by
  cases settled with
  | resolved r => exact absurd rfl (h r)
  | unknown message => trivial
  | failed message => rfl

/-- Money that is asked for only after an earlier request: when that one fails nothing moves, and
the call must not succeed. -/
theorem sound_after_iff {goesOn : Bool} {settled : Settled} {verdict : Option Bool} {clear : Prop}
    (hmoney : goesOn = true → (settled.Sound verdict ↔ clear))
    (hno : goesOn = false → ∀ r, settled ≠ .resolved r) :
    settled.Sound (if goesOn then verdict else some false) ↔ (goesOn = true → clear) := by
  cases goesOn with
  | true =>
    rw [if_pos rfl, hmoney rfl]
    exact ⟨fun h _ => h, fun h => h rfl⟩
  | false =>
    rw [if_neg Bool.false_ne_true]
    constructor
    · rintro _ ⟨⟩
    · exact fun _ => Settled.sound_false (hno rfl)

theorem paystackTransfer_sound_iff (recipient transfer : HttpReply) :
    (PaystackAdapter.transfer recipient transfer).Sound
        ((MoneyCall.paystackTransfer recipient transfer).verdict stripe) ↔
      (MoneyCall.paystackTransfer recipient transfer).Clear stripe := by
  refine sound_after_iff (fun hp => ?_) fun hp r => ?_
  · obtain ⟨r, hr⟩ : ∃ r, PaystackAdapter.createRecipient recipient = .resolved r :=
      settle_of_provides rfl hp
    rw [PaystackAdapter.transfer, hr]
    exact settle_sound_iff (PaystackAdapter.heeds true) transfer
  · have hno : ∀ r, PaystackAdapter.createRecipient recipient ≠ .resolved r :=
      settle_of_not_provides hp
    rw [PaystackAdapter.transfer]
    split
    · next r' hr => exact absurd hr (hno r')
    · exact hno r

/-- The refund is asked for when the verification provides the transaction. -/
theorem flutterwaveRefund_of_provides {verification : HttpReply} (refund : HttpReply)
    (h : verification.provides (FlutterwaveAdapter.accepts true) = true) :
    FlutterwaveAdapter.refund verification refund =
      refund.settle "Flutterwave refund" "Flutterwave refund failed"
        (FlutterwaveAdapter.accepts false) fun _ => none := by
  cases verification with
  | lost message => cases h
  | answered origin body =>
    cases body with
    | null => cases h
    | _ => exact if_pos h

theorem flutterwaveRefund_of_not_provides {verification : HttpReply} (refund : HttpReply)
    (h : verification.provides (FlutterwaveAdapter.accepts true) = false) (r : Option String) :
    FlutterwaveAdapter.refund verification refund ≠ .resolved r := by
  cases verification with
  | lost message => rintro ⟨⟩
  | answered origin body =>
    have hbody : ¬ FlutterwaveAdapter.accepts true body = true := by
      rw [Bool.not_eq_true]
      exact h
    cases body with
    | null => rintro ⟨⟩
    | _ =>
      rw [FlutterwaveAdapter.refund, if_neg hbody]
      · rintro ⟨⟩
      · rintro ⟨⟩

theorem flutterwaveRefund_sound_iff (verification refund : HttpReply) :
    (FlutterwaveAdapter.refund verification refund).Sound
        ((MoneyCall.flutterwaveRefund verification refund).verdict stripe) ↔
      (MoneyCall.flutterwaveRefund verification refund).Clear stripe := by
  refine sound_after_iff (fun hp => ?_) (flutterwaveRefund_of_not_provides refund)
  rw [flutterwaveRefund_of_provides refund hp]
  exact settle_sound_iff (FlutterwaveAdapter.heeds false) refund

/-- An error of Stripe's SDK is put in the right class unless it is of no documented class and the
request was carried out, or may have been. -/
theorem stripe_threw_sound_iff (h : StripeDocumented stripe) (error : StripeError)
    (unknown : String) (failed : Option String) :
    (if error.leavesOpen then Settled.unknown unknown else .failed failed).Sound
        (stripe (.threw error)) ↔
      (error.kind = .other → stripe (.threw error) = some false) := by
  rw [StripeError.leavesOpen]
  cases hkind : error.kind with
  | connection => simp [Settled.Sound]
  | api => simp [Settled.Sound]
  | rejection => simp [Settled.Sound, h.rejected error hkind]
  | other => simp [Settled.Sound]

/-- A call of the SDK that settles as its request does, and its errors as `leavesOpen` says. -/
theorem stripe_sound_iff (h : StripeDocumented stripe) {reply : StripeReply String}
    {settled : Settled} (unknown : StripeError → String) (failed : StripeError → Option String)
    (hresolved : ∀ id, reply = .resolved id → ∃ r, settled = .resolved r)
    (hthrew : ∀ error, reply = .threw error →
      settled = if error.leavesOpen then .unknown (unknown error) else .failed (failed error)) :
    settled.Sound (stripe reply) ↔
      ∀ error, reply = .threw error → error.kind = .other → stripe reply = some false := by
  cases reply with
  | resolved id =>
    obtain ⟨r, rfl⟩ := hresolved id rfl
    constructor
    · rintro _ error ⟨⟩
    · exact fun _ => h.resolved id
  | threw error =>
    rw [hthrew error rfl, stripe_threw_sound_iff h]
    constructor
    · rintro hother _ ⟨⟩
      exact hother
    · exact fun hclear => hclear error rfl

theorem stripeTransfer_sound_iff (h : StripeDocumented stripe) (transfer : StripeReply String) :
    (StripeAdapter.transfer transfer).Sound (stripe transfer) ↔
      (MoneyCall.stripeTransfer transfer).Clear stripe := by
  refine stripe_sound_iff h (fun error => "Stripe transfer outcome unknown: " ++
    error.message.getD "") (fun error => error.message.getD "Stripe transfer failed") ?_ ?_
  · rintro id rfl
    exact ⟨_, rfl⟩
  · rintro error rfl
    rfl

theorem stripeRefund_sound_iff (h : StripeDocumented stripe)
    (session : StripeReply (Option String)) (refund : StripeReply String) :
    (StripeAdapter.refund session refund).Sound
        ((MoneyCall.stripeRefund session refund).verdict stripe) ↔
      (MoneyCall.stripeRefund session refund).Clear stripe := by
  refine sound_after_iff (fun hp => ?_) fun hp r => ?_
  · cases session with
    | threw error => cases hp
    | resolved paymentIntent =>
      have hintent : isBlank paymentIntent = false := by
        simpa [StripeReply.hasPaymentIntent] using hp
      refine stripe_sound_iff h (fun error => "Stripe refund outcome unknown: " ++
        error.message.getD "") (·.message) ?_ ?_
      · rintro id rfl
        exact ⟨none, by rw [StripeAdapter.refund, hintent]; rfl⟩
      · rintro error rfl
        rw [StripeAdapter.refund, hintent]
        rfl
  · cases session with
    | threw error => rintro ⟨⟩
    | resolved paymentIntent =>
      have hintent : isBlank paymentIntent = true := by
        simpa [StripeReply.hasPaymentIntent] using hp
      simp [StripeAdapter.refund, hintent]

/-- **A call that moves money settles in the right class exactly when its request has a clear
end.** -/
theorem money_call_sound_iff (h : StripeDocumented stripe) (call : MoneyCall) :
    call.settled.Sound (call.verdict stripe) ↔ call.Clear stripe := by
  cases call with
  | stripeTransfer transfer => exact stripeTransfer_sound_iff h transfer
  | stripeRefund session refund => exact stripeRefund_sound_iff h session refund
  | paystackTransfer recipient transfer => exact paystackTransfer_sound_iff recipient transfer
  | paystackRefund refund => exact settle_sound_iff (PaystackAdapter.heeds false) refund
  | flutterwaveTransfer transfer => exact settle_sound_iff (FlutterwaveAdapter.heeds true) transfer
  | flutterwaveRefund verification refund => exact flutterwaveRefund_sound_iff verification refund

/-- **What the payout batch may rely on**: a plain error of a sound call means that no money
moved. -/
theorem soundAdapter_of_sound {call : MoneyCall}
    (hsound : call.settled.Sound (call.verdict stripe)) {message : Option String}
    (hs : call.settled = .failed message) {moved : Bool}
    (hm : ∀ b, call.verdict stripe = some b → moved = b) (i : Nat) (text : String) :
    SoundAdapter (.run i (.transfer (.failed moved text))) = true := by
  rw [hs] at hsound
  rw [hm false hsound]
  rfl

end Calls

section Examples

/-- Stripe's SDK at its word. -/
def atItsWord : StripeReply String → Option Bool
  | .resolved _ => some true
  | .threw error => if error.kind = .rejection then some false else none

theorem atItsWord_documented : StripeDocumented atItsWord where
  resolved _ := rfl
  rejected error hkind := by rw [atItsWord, if_pos hkind]

/-- Paystack creates a transfer recipient. -/
def recipientCreated : HttpReply :=
  .answered .provider (.object [("status", .bool true),
    ("data", .object [("recipient_code", .string "RCP_1")])])

/-- Paystack refuses a transfer. -/
def transferRefused : HttpReply :=
  .answered .provider (.object [("status", .bool false), ("message", .string "Invalid account")])

theorem money_call_sound_iff_refused :
    (MoneyCall.paystackTransfer recipientCreated transferRefused).settled.Sound
        ((MoneyCall.paystackTransfer recipientCreated transferRefused).verdict atItsWord) :=
  (money_call_sound_iff atItsWord_documented _).mpr fun _ => ⟨rfl, Or.inl rfl⟩

/-- **A transfer that Paystack accepted fails with a plain error** when the answer has no
`data`. -/
theorem accepted_without_data :
    ¬ ∀ stripe : StripeReply String → Option Bool, StripeDocumented stripe → ∀ call : MoneyCall,
      call.settled.Sound (call.verdict stripe) := by
  intro hall
  have hsound := hall atItsWord atItsWord_documented
    (.paystackTransfer recipientCreated (.answered .provider (.object [("status", .bool true)])))
  have hsettled : (MoneyCall.paystackTransfer recipientCreated
      (.answered .provider (.object [("status", .bool true)]))).settled =
        .failed (some "Paystack transfer failed") := by decide
  have hverdict : (MoneyCall.paystackTransfer recipientCreated
      (.answered .provider (.object [("status", .bool true)]))).verdict atItsWord = some true := by
    decide
  rw [hsettled, hverdict] at hsound
  cases hsound

end Examples

end FoodDelivery
