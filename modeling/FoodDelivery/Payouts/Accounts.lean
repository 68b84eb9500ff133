import FoodDelivery.Lib.Collection
import FoodDelivery.Lib.Interleave
import FoodDelivery.Lib.Keyed
import FoodDelivery.Orders.Lifecycle
import FoodDelivery.Payouts.Schema

/-!
# Payout accounts keyed by provider

`setPayoutAccount` and `setPayoutAccountFromWebhook` of the restaurants', stores' and riders'
services.  An upsert is two writes: one that sets the entry of a provider where there is one, and
one that pushes an entry where there is none.  Each is atomic; any number of calls take their steps
in any order.
-/

namespace FoodDelivery

open Store Interleave

structure BankDetails where
  bankCode : String
  accountNumber : String
  deriving DecidableEq

/-- A restaurant, store or rider; `owner` is the `ownerId` of the first two and the `userId` of a
rider. -/
structure AccountHolder where
  owner : UserId
  payoutAccounts : List PayoutAccount
  deriving DecidableEq

/-- The three collections. -/
abbrev AccountHolders := PayoutVendorType → Collection AccountHolder

/-- The filter that `applyPayoutAccountUpdate` is called with. -/
inductive VendorFilter
  | byId (id : VendorId)
  | byUserId (userId : UserId)
  deriving DecidableEq

def VendorFilter.accepts : VendorFilter → VendorId → AccountHolder → Bool
  | .byId id, vendorId, _ => vendorId = id
  | .byUserId userId, _, vendor => vendor.owner = userId

/-- The arguments of `applyPayoutAccountUpdate`, in the service of this type of vendor. -/
structure PayoutAccountUpdate where
  vendorType : PayoutVendorType
  filter : VendorFilter
  provider : PaymentProvider
  status : PayoutAccountStatus
  reference : String
  bankDetails : Option BankDetails
  deriving DecidableEq

namespace PayoutAccountUpdate

variable (u : PayoutAccountUpdate)

def bankCode : Option String := u.bankDetails.map (·.bankCode)

def accountNumber : Option String := u.bankDetails.map (·.accountNumber)

/-- `$set` on `payoutAccounts.$`. -/
def set (account : PayoutAccount) : PayoutAccount :=
  { account with
    status := u.status
    reference := some u.reference
    bankCode := u.bankCode
    accountNumber := u.accountNumber }

/-- What is pushed. -/
def entry : PayoutAccount :=
  ⟨u.provider, u.status, some u.reference, u.bankCode, u.accountNumber⟩

/-- An entry of the vendor is for the provider. -/
def present (vendor : AccountHolder) : Bool :=
  (Keyed.find PayoutAccount.provider u.provider vendor.payoutAccounts).isSome

end PayoutAccountUpdate

inductive PayoutAccountError
  | http (error : HttpError)
  | database (message : String)
  deriving DecidableEq

inductive PayoutAccountStage
  | findById (sellerType : SellerType) (id : VendorId) (requester : Option AccessTokenPayload)
  | updateExisting
  | pushNewEntry
  | returned (id : VendorId) (vendor : AccountHolder)
  | rejected (error : PayoutAccountError)
  deriving DecidableEq

/-- A call, with the arguments it was given. -/
structure PayoutAccountPc where
  update : PayoutAccountUpdate
  stage : PayoutAccountStage
  deriving DecidableEq

def PayoutVendorType.title : PayoutVendorType → String
  | .restaurant => "Restaurant"
  | .store => "Store"
  | .rider => "Rider"

def vendorNotFound (vendorType : PayoutVendorType) : PayoutAccountStage :=
  .rejected (.http (.notFound s!"{vendorType.title} not found"))

/-- `findOneAndUpdate` with `new: true`: the collection afterwards, and the document returned. -/
def findOneAndUpdate (c : Collection AccountHolder) (p : VendorId → AccountHolder → Bool)
    (f : AccountHolder → AccountHolder) :
    Option (Collection AccountHolder × VendorId × AccountHolder) :=
  (c.find p).head?.map fun found => (c.modify found.1 f, found.1, f found.2)

/-- An awaited database call throws, or the call goes on. -/
def PayoutAccountStage.unlessThrown (stage : PayoutAccountStage) : DbReply → PayoutAccountStage
  | .ok => stage
  | .threw _ message => .rejected (.database message)

/-- One write of the upsert: what is left of the collections, and what the call does next. -/
def writeAccounts (s : AccountHolders) (u : PayoutAccountUpdate)
    (p : VendorId → AccountHolder → Bool) (f : List PayoutAccount → List PayoutAccount)
    (otherwise : PayoutAccountStage) (reply : DbReply) : AccountHolders × PayoutAccountStage :=
  match findOneAndUpdate (s u.vendorType) p
    fun vendor => { vendor with payoutAccounts := f vendor.payoutAccounts } with
  | none => (s, otherwise.unlessThrown reply)
  | some (docs, id, vendor) =>
    (if reply.wrote then Function.update s u.vendorType docs else s,
      PayoutAccountStage.unlessThrown (.returned id vendor) reply)

/-- What a call does with the document that `findById` gave. -/
def afterFindById (u : PayoutAccountUpdate) (sellerType : SellerType)
    (requester : Option AccessTokenPayload) : Option AccountHolder → PayoutAccountStage
  | none => vendorNotFound u.vendorType
  | some vendor =>
    match requester with
    | none => .updateExisting
    | some requester =>
      match assertOwnerOrAdmin sellerType vendor.owner requester with
      | .ok () => .updateExisting
      | .error error => .rejected (.http error)

/-- One database call, and what the call does until its next one. -/
def payoutAccountStep (s : AccountHolders) (pc : PayoutAccountPc) (reply : DbReply) :
    Option (AccountHolders × PayoutAccountPc) :=
  let u := pc.update
  match pc.stage with
  | .findById sellerType id requester =>
    let found := (s u.vendorType).get id
    some (s, ⟨u, (afterFindById u sellerType requester found).unlessThrown reply⟩)
  | .updateExisting =>
    let result := writeAccounts s u
      (fun id vendor => u.filter.accepts id vendor && u.present vendor)
      (Keyed.alter PayoutAccount.provider u.provider u.set) .pushNewEntry reply
    some (result.1, ⟨u, result.2⟩)
  | .pushNewEntry =>
    let result := writeAccounts s u
      (fun id vendor => u.filter.accepts id vendor && !u.present vendor)
      (· ++ [u.entry]) (vendorNotFound u.vendorType) reply
    some (result.1, ⟨u, result.2⟩)
  | .returned _ _ => none
  | .rejected _ => none

/-! ## The services -/

section Services

variable (id : VendorId) (userId : UserId) (requester : AccessTokenPayload)
  (filter : VendorFilter) (provider : PaymentProvider) (status : PayoutAccountStatus)
  (reference : String) (bankDetails : Option BankDetails)

namespace RestaurantsService

def applyPayoutAccountUpdate : PayoutAccountPc :=
  ⟨⟨.restaurant, filter, provider, status, reference, bankDetails⟩, .updateExisting⟩

def setPayoutAccount : PayoutAccountPc :=
  { applyPayoutAccountUpdate (.byId id) provider status reference bankDetails with
    stage := .findById .restaurant id (some requester) }

def setPayoutAccountFromWebhook : PayoutAccountPc :=
  { applyPayoutAccountUpdate (.byId id) provider status reference none with
    stage := .findById .restaurant id none }

end RestaurantsService

namespace StoresService

def applyPayoutAccountUpdate : PayoutAccountPc :=
  ⟨⟨.store, filter, provider, status, reference, bankDetails⟩, .updateExisting⟩

def setPayoutAccount : PayoutAccountPc :=
  { applyPayoutAccountUpdate (.byId id) provider status reference bankDetails with
    stage := .findById .store id (some requester) }

def setPayoutAccountFromWebhook : PayoutAccountPc :=
  { applyPayoutAccountUpdate (.byId id) provider status reference none with
    stage := .findById .store id none }

end StoresService

namespace RidersService

def applyPayoutAccountUpdate : PayoutAccountPc :=
  ⟨⟨.rider, filter, provider, status, reference, bankDetails⟩, .updateExisting⟩

/-- No `findById` comes first: a rider's own account. -/
def setPayoutAccount : PayoutAccountPc :=
  applyPayoutAccountUpdate (.byUserId userId) provider status reference bankDetails

def setPayoutAccountFromWebhook : PayoutAccountPc :=
  applyPayoutAccountUpdate (.byId id) provider status reference none

end RidersService

end Services

/-- The calls to the three services. -/
inductive PayoutAccountCall
  | restaurant (id : VendorId) (requester : AccessTokenPayload) (provider : PaymentProvider)
    (status : PayoutAccountStatus) (reference : String) (bankDetails : Option BankDetails)
  | restaurantWebhook (id : VendorId) (provider : PaymentProvider) (status : PayoutAccountStatus)
    (reference : String)
  | store (id : VendorId) (requester : AccessTokenPayload) (provider : PaymentProvider)
    (status : PayoutAccountStatus) (reference : String) (bankDetails : Option BankDetails)
  | storeWebhook (id : VendorId) (provider : PaymentProvider) (status : PayoutAccountStatus)
    (reference : String)
  | rider (userId : UserId) (provider : PaymentProvider) (status : PayoutAccountStatus)
    (reference : String) (bankDetails : Option BankDetails)
  | riderWebhook (id : VendorId) (provider : PaymentProvider) (status : PayoutAccountStatus)
    (reference : String)

def PayoutAccountCall.start : PayoutAccountCall → PayoutAccountPc
  | .restaurant id requester provider status reference bankDetails =>
    RestaurantsService.setPayoutAccount id requester provider status reference bankDetails
  | .restaurantWebhook id provider status reference =>
    RestaurantsService.setPayoutAccountFromWebhook id provider status reference
  | .store id requester provider status reference bankDetails =>
    StoresService.setPayoutAccount id requester provider status reference bankDetails
  | .storeWebhook id provider status reference =>
    StoresService.setPayoutAccountFromWebhook id provider status reference
  | .rider userId provider status reference bankDetails =>
    RidersService.setPayoutAccount userId provider status reference bankDetails
  | .riderWebhook id provider status reference =>
    RidersService.setPayoutAccountFromWebhook id provider status reference

/-- A vendor is created, with the default of `payoutAccounts`. -/
structure VendorCreated where
  vendorType : PayoutVendorType
  owner : UserId

/-- `userId` of a rider is unique. -/
def ownerTaken (s : AccountHolders) (e : VendorCreated) : Bool :=
  e.vendorType = .rider && ((s .rider).find fun _ vendor => vendor.owner = e.owner) ≠ []

/-- The calls of any users and webhooks, while vendors are created. -/
def payoutAccountCalls :
    Machine AccountHolders PayoutAccountPc PayoutAccountCall DbReply VendorCreated where
  start _ k := k.start
  step := payoutAccountStep
  env s e :=
    if ownerTaken s e then none
    else some (Function.update s e.vendorType ((s e.vendorType).create ⟨e.owner, []⟩))

end FoodDelivery
