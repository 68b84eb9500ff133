import FoodDelivery.Orders.Order

/-!
# Payment adapters

`payments/provider-resolver.ts` and the charge side of the three adapters: what `initiate`
asks the provider for, and what `handleWebhook` and `verify` make of its answers.  Signature
checks, `JSON.parse` and the network are the outside: a request arrives with its signature
verified or not and its body parsed or not.

* `parseCharge_withMoney`, `paidCharge_withMoney`: the adapters do not look at the amount or
  the currency of a charge.
* `major_sessionAmount`: a session asks for exactly the amount it is opened with.
-/

namespace FoodDelivery

/-! ## Routing -/

/-- `CURRENCY_PROVIDER_TABLE`. -/
def currencyProviderTable : String → Option (List PaymentProvider)
  | "NGN" => some [.paystack, .flutterwave, .stripe]
  | "GHS" => some [.flutterwave, .paystack, .stripe]
  | "KES" => some [.flutterwave, .paystack, .stripe]
  | "ZAR" => some [.flutterwave, .paystack, .stripe]
  | "UGX" => some [.flutterwave, .paystack, .stripe]
  | _ => none

/-- `GLOBAL_DEFAULT`. -/
def globalDefault : List PaymentProvider := [.stripe, .flutterwave]

/-- `PaymentProviderResolver.resolve`, on a currency in upper case as the schema stores it. -/
def resolveProviders (currency : String) : List PaymentProvider :=
  (currencyProviderTable currency).getD globalDefault

theorem resolveProviders_ne_nil (currency : String) : resolveProviders currency ≠ [] := by
  unfold resolveProviders currencyProviderTable
  split <;> decide

/-- `PaymentProviderResolver.resolveDefault`. -/
def resolveDefaultProvider (currency : String) : PaymentProvider :=
  (resolveProviders currency).head (resolveProviders_ne_nil currency)

/-! ## Charges -/

/-- A charge as its provider describes it: `data` of a webhook's body or of an answer to
`verify`, or Stripe's checkout session.  The amount is in the unit of the provider's API, the
currency its ISO code.  `reference` is missing when the body has none. -/
structure Charge where
  reference : Option String
  status : Option String
  amount : ℚ
  currency : String
  deriving DecidableEq

/-- The body of a webhook request. -/
structure WebhookPayload where
  event : Option String
  data : Option Charge
  deriving DecidableEq

/-- A request on a webhook route: whether its signature verifies, and what its body parses
to. -/
structure WebhookRequest where
  verified : Bool
  payload : Option WebhookPayload
  deriving DecidableEq

/-- `WebhookEvent`. -/
structure WebhookEvent where
  reference : Option String
  success : Bool
  deriving DecidableEq, Repr

/-- How an adapter's `handleWebhook` ends: with an event, with `null`, or by throwing. -/
inductive WebhookOutcome
  | event (event : WebhookEvent) (charge : Charge)
  | ignored
  | threw
  deriving DecidableEq

/-- `handleWebhook` of the adapters.  They differ in the event they act on, the status that
means success, and what they do with a body that does not parse or has no `data`.  The charge
behind an event is kept for the record; the service gets the event alone. -/
def parseCharge (eventName paidStatus : String) (unparsable noData : WebhookOutcome)
    (request : WebhookRequest) : WebhookOutcome :=
  if ¬ request.verified then .ignored
  else
    match request.payload with
    | none => unparsable
    | some payload =>
      if payload.event ≠ some eventName then .ignored
      else
        match payload.data with
        | none => noData
        | some data => .event ⟨data.reference, data.status = some paidStatus⟩ data

/-- The answer to an adapter's `verify` call: `status` of the response, and its `data`. -/
structure VerifyResponse where
  status : Bool
  data : Option Charge
  deriving DecidableEq

/-- The status of a charge that went through, if it is that of a paid one. -/
def paidCharge (paidStatus : String) (response : VerifyResponse) : Option Charge :=
  if response.status then response.data.filter (·.status = some paidStatus) else none

namespace StripeAdapter

/-- `constructEvent` throws on a body that does not parse, as on a wrong signature. -/
def handleWebhook : WebhookRequest → WebhookOutcome :=
  parseCharge "checkout.session.completed" "paid" .ignored .threw

/-- `sessions.retrieve` has no `status` of its own: it answers with a session or throws. -/
def verify (response : VerifyResponse) : Option Charge :=
  paidCharge "paid" { response with status := true }

/-- `unit_amount`. -/
def sessionAmount (amount : ℚ) : ℚ := mathRound (amount * 100)

end StripeAdapter

namespace PaystackAdapter

def handleWebhook : WebhookRequest → WebhookOutcome :=
  parseCharge "charge.success" "success" .threw .threw

def verify : VerifyResponse → Option Charge := paidCharge "success"

/-- In kobo. -/
def sessionAmount (amount : ℚ) : ℚ := mathRound (amount * 100)

end PaystackAdapter

namespace FlutterwaveAdapter

def handleWebhook : WebhookRequest → WebhookOutcome :=
  parseCharge "charge.completed" "successful" .ignored .ignored

def verify : VerifyResponse → Option Charge := paidCharge "successful"

def sessionAmount (amount : ℚ) : ℚ := amount

end FlutterwaveAdapter

/-! ## `getAdapter` -/

namespace PaymentProvider

def handleWebhook : PaymentProvider → WebhookRequest → WebhookOutcome
  | .stripe => StripeAdapter.handleWebhook
  | .paystack => PaystackAdapter.handleWebhook
  | .flutterwave => FlutterwaveAdapter.handleWebhook

/-- The charge that `verify` found paid; `none` stands for `success: false`. -/
def verify : PaymentProvider → VerifyResponse → Option Charge
  | .stripe => StripeAdapter.verify
  | .paystack => PaystackAdapter.verify
  | .flutterwave => FlutterwaveAdapter.verify

/-- The amount `initiate` asks for, in the unit of the provider's API. -/
def sessionAmount : PaymentProvider → ℚ → ℚ
  | .stripe => StripeAdapter.sessionAmount
  | .paystack => PaystackAdapter.sessionAmount
  | .flutterwave => FlutterwaveAdapter.sessionAmount

/-- An amount of the provider's API in major currency units, as the refund parsers convert
it. -/
def major : PaymentProvider → ℚ → ℚ
  | .stripe, amount => amount / 100
  | .paystack, amount => amount / 100
  | .flutterwave, amount => amount

/-- **A session asks for exactly the price it is opened with.** -/
theorem major_sessionAmount (provider : PaymentProvider) (price : Price) :
    provider.major (provider.sessionAmount price.val) = price.val := by
  cases provider with
  | stripe => exact mathRound_mul_100 price.cents
  | paystack => exact mathRound_mul_100 price.cents
  | flutterwave => rfl

/-- The status of a paid charge. -/
def paidStatus : PaymentProvider → String
  | .stripe => "paid"
  | .paystack => "success"
  | .flutterwave => "successful"

end PaymentProvider

/-! ## What the adapters look at -/

/-- The same charge over another sum. -/
def Charge.withMoney (c : Charge) (amount : ℚ) (currency : String) : Charge :=
  { c with amount := amount, currency := currency }

/-- The same request about another sum. -/
def WebhookRequest.withMoney (request : WebhookRequest) (amount : ℚ) (currency : String) :
    WebhookRequest :=
  { request with payload := request.payload.map fun payload =>
      { payload with data := payload.data.map (·.withMoney amount currency) } }

def VerifyResponse.withMoney (response : VerifyResponse) (amount : ℚ) (currency : String) :
    VerifyResponse :=
  { response with data := response.data.map (·.withMoney amount currency) }

def WebhookOutcome.withMoney (amount : ℚ) (currency : String) : WebhookOutcome → WebhookOutcome
  | .event e c => .event e (c.withMoney amount currency)
  | .ignored => .ignored
  | .threw => .threw

section Reads

variable {eventName status : String} {unparsable noData : WebhookOutcome}
  {request : WebhookRequest} {event : WebhookEvent} {charge : Charge} {provider : PaymentProvider}
  {response : VerifyResponse}

theorem parseCharge_eq_event (hu : ∀ e c, unparsable ≠ .event e c) (hn : ∀ e c, noData ≠ .event e c)
    (h : parseCharge eventName status unparsable noData request = .event event charge) :
    request.verified = true ∧ event = ⟨charge.reference, charge.status = some status⟩ := by
  rw [parseCharge] at h
  split at h
  · cases h
  · rename_i hv
    refine ⟨by simpa using hv, ?_⟩
    split at h
    · exact absurd h (hu _ _)
    · split at h
      · cases h
      · split at h
        · exact absurd h (hn _ _)
        · cases h
          rfl

/-- **An event comes of a verified request, and succeeds when its charge is paid.** -/
theorem handleWebhook_eq_event (h : provider.handleWebhook request = .event event charge) :
    request.verified = true ∧
      event = ⟨charge.reference, charge.status = some provider.paidStatus⟩ := by
  cases provider with
  | stripe => exact parseCharge_eq_event (by rintro _ _ ⟨⟩) (by rintro _ _ ⟨⟩) h
  | paystack => exact parseCharge_eq_event (by rintro _ _ ⟨⟩) (by rintro _ _ ⟨⟩) h
  | flutterwave => exact parseCharge_eq_event (by rintro _ _ ⟨⟩) (by rintro _ _ ⟨⟩) h

theorem paidCharge_eq_some (h : paidCharge status response = some charge) :
    charge.status = some status := by
  rw [paidCharge] at h
  split at h
  · exact of_decide_eq_true (Option.filter_eq_some_iff.mp h).2
  · cases h

/-- **`verify` succeeds on a paid charge.** -/
theorem verify_eq_some (h : provider.verify response = some charge) :
    charge.status = some provider.paidStatus := by
  cases provider with
  | stripe =>
    show charge.status = some "paid"
    have hp : paidCharge "paid" { response with status := true } = some charge := h
    exact paidCharge_eq_some hp
  | paystack =>
    show charge.status = some "success"
    exact paidCharge_eq_some h
  | flutterwave =>
    show charge.status = some "successful"
    exact paidCharge_eq_some h

theorem parseCharge_withMoney (hu : ∀ e c, unparsable ≠ .event e c)
    (hn : ∀ e c, noData ≠ .event e c) (amount : ℚ) (currency : String) :
    parseCharge eventName status unparsable noData (request.withMoney amount currency) =
      (parseCharge eventName status unparsable noData request).withMoney amount currency := by
  have keep : ∀ {o : WebhookOutcome}, (∀ e c, o ≠ .event e c) →
      o.withMoney amount currency = o := by
    intro o ho
    cases o with
    | event e c => exact absurd rfl (ho e c)
    | ignored => rfl
    | threw => rfl
  rw [parseCharge, parseCharge]
  by_cases hv : request.verified = true
  · rw [if_neg (by simpa [WebhookRequest.withMoney] using hv), if_neg (by simpa using hv)]
    cases hp : request.payload with
    | none =>
      simp only [WebhookRequest.withMoney, hp, Option.map_none]
      exact (keep hu).symm
    | some payload =>
      simp only [WebhookRequest.withMoney, hp, Option.map_some]
      by_cases he : payload.event = some eventName
      · rw [if_neg (not_not.mpr he), if_neg (not_not.mpr he)]
        cases hd : payload.data with
        | none => exact (keep hn).symm
        | some data => rfl
      · rw [if_pos he, if_pos he]
        rfl
  · rw [if_pos (by simpa [WebhookRequest.withMoney] using hv), if_pos (by simpa using hv)]
    rfl

/-- **No adapter's webhook depends on the amount or the currency.** -/
theorem handleWebhook_withMoney (amount : ℚ) (currency : String) :
    provider.handleWebhook (request.withMoney amount currency) =
      (provider.handleWebhook request).withMoney amount currency := by
  cases provider with
  | stripe => exact parseCharge_withMoney (by rintro _ _ ⟨⟩) (by rintro _ _ ⟨⟩) amount currency
  | paystack => exact parseCharge_withMoney (by rintro _ _ ⟨⟩) (by rintro _ _ ⟨⟩) amount currency
  | flutterwave => exact parseCharge_withMoney (by rintro _ _ ⟨⟩) (by rintro _ _ ⟨⟩) amount currency

theorem paidCharge_withMoney (response : VerifyResponse) (amount : ℚ) (currency : String) :
    paidCharge status (response.withMoney amount currency) =
      (paidCharge status response).map (·.withMoney amount currency) := by
  rw [paidCharge, paidCharge]
  show (if response.status then _ else _) = _
  split
  · simp only [VerifyResponse.withMoney]
    cases response.data with
    | none => rfl
    | some data =>
      simp only [Option.map_some, Option.filter, Charge.withMoney]
      split <;> rfl
  · rfl

/-- **No adapter's `verify` depends on the amount or the currency.** -/
theorem verify_withMoney (amount : ℚ) (currency : String) :
    provider.verify (response.withMoney amount currency) =
      (provider.verify response).map (·.withMoney amount currency) := by
  cases provider with
  | stripe => exact paidCharge_withMoney { response with status := true } amount currency
  | paystack => exact paidCharge_withMoney response amount currency
  | flutterwave => exact paidCharge_withMoney response amount currency

end Reads

end FoodDelivery
