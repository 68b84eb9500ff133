import FoodDelivery.Payouts.OneEach

/-!
# Connecting a payout account

A vendor connects a bank account at Paystack or Flutterwave in one request, and a Stripe account on
Stripe's own pages: a request has the account created and gives the link, and Stripe announces with
webhooks whether the account may be paid.  Requests and webhooks take one awaited call at a time, in
any order.  The names and emails that the providers are told are left out.

* `PayoutSetup`: a request of the three payout controllers.
* `AccountWebhook`: a request on Stripe's webhook route, as `handleStripeAccountWebhook` sees it.
* `connects`: any number of both.
-/

namespace FoodDelivery

open Store Interleave

/-! ## The requests -/

/-- The controller of a provider; the bank details come with the request. -/
inductive SetupRoute
  | stripe
  | paystack (bankDetails : BankDetails)
  | flutterwave (bankDetails : BankDetails)
  deriving DecidableEq

namespace SetupRoute

def provider : SetupRoute → PaymentProvider
  | stripe => .stripe
  | paystack _ => .paystack
  | flutterwave _ => .flutterwave

def bankDetails : SetupRoute → Option BankDetails
  | stripe => none
  | paystack bankDetails => some bankDetails
  | flutterwave bankDetails => some bankDetails

/-- What an account is saved as. -/
def status : SetupRoute → PayoutAccountStatus
  | stripe => .pending
  | _ => .active

end SetupRoute

/-- Whose account it is: a restaurant's or a store's, or the rider's own. -/
inductive SetupHolder
  | seller (sellerType : SellerType) (id : VendorId)
  | rider
  deriving DecidableEq

/-- `setup`, `setupStore` and `setupRider` of the three controllers. -/
structure PayoutSetup where
  route : SetupRoute
  holder : SetupHolder
  user : AccessTokenPayload
  deriving DecidableEq

namespace PayoutSetup

variable (p : PayoutSetup)

/-- The `@Roles` of the route. -/
def roles : List UserRole :=
  match p.holder with
  | .seller _ _ => [.restaurantOwner, .admin]
  | .rider => [.rider]

def vendorType : PayoutVendorType :=
  match p.holder with
  | .seller sellerType _ => sellerType.payoutVendorType
  | .rider => .rider

/-- `setPayoutAccount` of the vendor's service. -/
def setPayoutAccount (reference : String) : PayoutAccountPc :=
  match p.holder with
  | .seller .restaurant id => RestaurantsService.setPayoutAccount id p.user p.route.provider
      p.route.status reference p.route.bankDetails
  | .seller .store id => StoresService.setPayoutAccount id p.user p.route.provider
      p.route.status reference p.route.bankDetails
  | .rider => RidersService.setPayoutAccount p.user.sub p.route.provider p.route.status reference
      p.route.bankDetails

end PayoutSetup

/-- An event that `constructEvent` gives. -/
structure StripeAccountEvent where
  type : String
  id : String
  chargesEnabled : Option Bool
  detailsSubmitted : Option Bool
  deriving DecidableEq

/-- A request on the webhook route; `constructEvent` throws where there is no event. -/
structure AccountWebhook where
  signature : Option String
  event : Option StripeAccountEvent
  deriving DecidableEq

/-- What the adapter makes of the event. -/
structure AccountNotice where
  accountId : String
  chargesEnabled : Bool
  detailsSubmitted : Bool
  deriving DecidableEq

def AccountNotice.isActive (notice : AccountNotice) : Bool :=
  notice.chargesEnabled && notice.detailsSubmitted

/-- `parseAccountWebhookEvent`. -/
def AccountWebhook.parse (webhook : AccountWebhook) : Option AccountNotice :=
  if isBlank webhook.signature then none
  else webhook.event.bind fun event =>
    if event.type ≠ "account.updated" then none
    else some ⟨event.id, event.chargesEnabled.getD false, event.detailsSubmitted.getD false⟩

/-! ## The processes -/

/-- `users` are their emails, `accounts` the connected accounts that Stripe has created. -/
structure ConnectWorld where
  holders : AccountHolders
  users : Collection String
  accounts : List String

inductive SetupStage
  | findVendor
  | findOwner (owner : UserId) (existing : Option String)
  | resolveAccount
  | createAccount
  | persist (call : PayoutAccountPc)
  | createLink (accountId : String)
  | returned
  | rejected (error : PayoutAccountError)
  deriving DecidableEq

inductive WebhookStage
  | findByReference (vendorType : PayoutVendorType) (notice : AccountNotice)
  | save (call : PayoutAccountPc)
  | returned
  | rejected (error : PayoutAccountError)
  deriving DecidableEq

/-- A request, with the account that Stripe has created for it. -/
inductive ConnectPc
  | setup (request : PayoutSetup) (created : Option String) (stage : SetupStage)
  | webhook (request : AccountWebhook) (stage : WebhookStage)
  deriving DecidableEq

/-- The database's answer, or the provider's: an id or a link, or the message of what is thrown. -/
inductive ConnectReply
  | db (reply : DbReply)
  | provider (answer : Except String String)

def HttpError.text : HttpError → String
  | .notFound message => message
  | .badRequest message => message
  | .forbidden message => message
  | .typeError message => message

def PayoutAccountError.text : PayoutAccountError → String
  | .http error => error.text
  | .database message => message

namespace SetupStage

def badRequest (message : String) : SetupStage := .rejected (.http (.badRequest message))

/-- An awaited database call throws, or the request goes on. -/
def unlessThrown (stage : SetupStage) : DbReply → SetupStage
  | .ok => stage
  | .threw _ message => .rejected (.database message)

end SetupStage

namespace PayoutSetup

variable (p : PayoutSetup)

/-- Stripe's account is created the first time only; a bank account is resolved every time. -/
def proceed (existing : Option String) : SetupStage :=
  match p.route with
  | .stripe => if isBlank existing then .createAccount else .createLink (existing.getD "")
  | _ => .resolveAccount

/-- The reference of the vendor's Stripe account. -/
def existing (vendor : AccountHolder) : Option String :=
  (Keyed.find PayoutAccount.provider .stripe vendor.payoutAccounts).bind (·.reference)

/-- `findByIdOrThrow` and `assertOwnerOrAdmin`, or `findMine`; Paystack is not told the owner's
email. -/
def afterFindVendor (holders : AccountHolders) : SetupStage :=
  match p.holder with
  | .seller sellerType id =>
    match (holders sellerType.payoutVendorType).get id with
    | none => .rejected (.http (.notFound s!"{sellerType.title} not found"))
    | some vendor =>
      match assertOwnerOrAdmin sellerType vendor.owner p.user with
      | .error error => .rejected (.http error)
      | .ok () =>
        match p.route with
        | .paystack _ => p.proceed none
        | _ => .findOwner vendor.owner (existing vendor)
  | .rider =>
    match ((holders .rider).find fun _ rider => rider.owner = p.user.sub).head? with
    | none => .rejected (.http (.notFound "Rider profile not found"))
    | some rider => p.proceed (existing rider.2)

/-- `usersService.findById` of the owner. -/
def afterFindOwner (users : Collection String) (owner : UserId) (existing : Option String) :
    SetupStage :=
  match users.get owner, p.holder with
  | none, .seller sellerType _ => .badRequest s!"Could not find this {sellerType.name}'s owner"
  | _, _ => p.proceed existing

/-- `savePayoutAccount`: whatever is thrown is a bad request. -/
def afterPersist (call : PayoutAccountPc) : SetupStage :=
  match call.stage with
  | .returned _ _ =>
    match p.route with
    | .stripe => .createLink call.update.reference
    | _ => .returned
  | .rejected error => .badRequest error.text
  | _ => .persist call

/-- The stage after the provider has created the account. -/
def afterCreate (accountId : String) : SetupStage := .persist (p.setPayoutAccount accountId)

/-- One awaited call of a setup.  Stripe gives an id that it has not given before. -/
def step (s : ConnectWorld) (created : Option String) (stage : SetupStage) :
    ConnectReply → Option (ConnectWorld × Option String × SetupStage)
  | .db reply =>
    match stage with
    | .findVendor => some (s, created, (p.afterFindVendor s.holders).unlessThrown reply)
    | .findOwner owner existing =>
      some (s, created, (p.afterFindOwner s.users owner existing).unlessThrown reply)
    | .persist call =>
      (payoutAccountStep s.holders call reply).map fun o =>
        ({ s with holders := o.1 }, created, p.afterPersist o.2)
    | _ => none
  | .provider (.error message) =>
    match stage with
    | .resolveAccount => some (s, created, .badRequest message)
    | .createAccount => some (s, created, .badRequest message)
    | .createLink _ => some (s, created, .badRequest message)
    | _ => none
  | .provider (.ok answer) =>
    match stage with
    | .resolveAccount => some (s, created, .createAccount)
    | .createAccount =>
      match p.route with
      | .stripe =>
        if answer ∈ s.accounts then none
        else some ({ s with accounts := answer :: s.accounts }, some answer, p.afterCreate answer)
      | _ => some (s, created, p.afterCreate answer)
    | .createLink _ => some (s, created, .returned)
    | _ => none

end PayoutSetup

namespace AccountWebhook

/-- `setPayoutAccountFromWebhook` of the vendor's service. -/
def setPayoutAccountFromWebhook (vendorType : PayoutVendorType) (id : VendorId)
    (status : PayoutAccountStatus) (reference : String) : PayoutAccountPc :=
  match vendorType with
  | .restaurant => RestaurantsService.setPayoutAccountFromWebhook id .stripe status reference
  | .store => StoresService.setPayoutAccountFromWebhook id .stripe status reference
  | .rider => RidersService.setPayoutAccountFromWebhook id .stripe status reference

/-- `findByPayoutAccountReference`. -/
def findByReference (holders : AccountHolders) (vendorType : PayoutVendorType)
    (accountId : String) : Option (VendorId × AccountHolder) :=
  ((holders vendorType).find fun _ vendor => vendor.payoutAccounts.any fun account =>
    account.provider = .stripe && account.reference = some accountId).head?

/-- `wasActive`: some Stripe account of the vendor is. -/
def wasActive (vendor : AccountHolder) : Bool :=
  vendor.payoutAccounts.any fun account => account.provider = .stripe && account.status = .active

/-- The account is looked for among the restaurants, the stores and the riders in turn. -/
def afterFindByReference (holders : AccountHolders) (vendorType : PayoutVendorType)
    (notice : AccountNotice) : WebhookStage :=
  match findByReference holders vendorType notice.accountId with
  | some (id, vendor) =>
    if notice.isActive = wasActive vendor then .returned
    else .save (setPayoutAccountFromWebhook vendorType id
      (if notice.isActive then .active else .pending) notice.accountId)
  | none =>
    match vendorType with
    | .restaurant => .findByReference .store notice
    | .store => .findByReference .rider notice
    | .rider => .returned

def afterSave (call : PayoutAccountPc) : WebhookStage :=
  match call.stage with
  | .returned _ _ => .returned
  | .rejected error => .rejected error
  | _ => .save call

/-- One awaited call of `handleStripeAccountWebhook`. -/
def step (s : ConnectWorld) (stage : WebhookStage) (reply : DbReply) :
    Option (ConnectWorld × WebhookStage) :=
  match stage with
  | .findByReference vendorType notice =>
    some (s, match reply with
      | .ok => afterFindByReference s.holders vendorType notice
      | .threw _ message => .rejected (.database message))
  | .save call =>
    (payoutAccountStep s.holders call reply).map fun o => ({ s with holders := o.1 }, afterSave o.2)
  | _ => none

end AccountWebhook

inductive ConnectRequest
  | setup (request : PayoutSetup)
  | accountWebhook (request : AccountWebhook)

/-- Vendors and users are created beside. -/
inductive ConnectEnv
  | vendor (e : VendorCreated)
  | user (email : String)

/-- A request before its first call: the guard of the route, or the parser. -/
def ConnectRequest.start : ConnectRequest → ConnectPc
  | .setup request =>
    .setup request none
      (if request.user.role ∈ request.roles then .findVendor
      else .rejected (.http (.forbidden "You do not have permission to perform this action")))
  | .accountWebhook request =>
    .webhook request
      (match request.parse with
      | none => .returned
      | some notice => .findByReference .restaurant notice)

def connectStep (s : ConnectWorld) : ConnectPc → ConnectReply → Option (ConnectWorld × ConnectPc)
  | .setup request created stage, reply =>
    (request.step s created stage reply).map fun o => (o.1, .setup request o.2.1 o.2.2)
  | .webhook request stage, .db reply =>
    (AccountWebhook.step s stage reply).map fun o => (o.1, .webhook request o.2)
  | .webhook _ _, .provider _ => none

/-- Any number of requests and webhooks. -/
def connects : Machine ConnectWorld ConnectPc ConnectRequest ConnectReply ConnectEnv where
  start _ := ConnectRequest.start
  step := connectStep
  env s
    | .vendor e =>
      (payoutAccountCalls.env s.holders e).map fun holders => { s with holders := holders }
    | .user email => some { s with users := s.users.create email }

/-- No vendors, no users and no accounts. -/
def noConnects : Pool ConnectWorld ConnectPc := ⟨⟨fun _ => .empty, .empty, []⟩, []⟩

end FoodDelivery
