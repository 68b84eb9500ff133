import FoodDelivery.Campaigns.Campaign
import FoodDelivery.Lib.Collection
import FoodDelivery.Lib.Interleave
import FoodDelivery.Orders.Lifecycle
import FoodDelivery.Payments.Adapters

/-!
# The calls on ad campaigns

`create`, `initiateCampaignPayment`, `handleWebhook`, `verifyPayment`, `markPaidManually`,
`cancel` and `runLifecycleSweep` of `ad-campaigns/ad-campaigns.service.ts` over the campaigns,
the restaurants and the stores, as a machine: a `CampaignPc` is where a call stands with its
local variables, and `campaignStep` takes it through one awaited call.  A database call may
throw, before or after its write reached the collection; the sweep goes on with its next
campaign then, and every other call ends.

Beside the database a `Marketplace` keeps a record that the code does not have: the sessions
that the adapters opened.  Notifications are left out, as nothing reads them.

* `campaignStep`: one awaited call.
* `campaigns`: any number of calls, with vendors opened and edited in between.
-/

namespace FoodDelivery

open Store Interleave OrdersService

/-! ## The state -/

/-- What campaigns read and write of a restaurant or a store. -/
structure Vendor where
  ownerId : UserId
  name : String
  currency : String
  isSponsored : Bool
  sponsoredUntil : Option Time
  deriving DecidableEq

/-- A session that an adapter opened for a campaign, and what it asks for. -/
structure CampaignSession where
  campaignId : CampaignId
  provider : PaymentProvider
  reference : String
  amount : ℚ
  currency : String
  deriving DecidableEq

structure Marketplace where
  restaurants : Collection Vendor
  stores : Collection Vendor
  campaigns : Collection AdCampaign
  issued : List CampaignSession
  deriving DecidableEq

namespace Marketplace

/-- No vendors and no campaigns. -/
def empty : Marketplace := ⟨Collection.empty, Collection.empty, Collection.empty, []⟩

/-- `findById` on restaurants or stores. -/
def vendor (m : Marketplace) : Seller → Option Vendor
  | .restaurant id => m.restaurants.get id
  | .store id => m.stores.get id

def modifyVendor (m : Marketplace) (g : Vendor → Vendor) : Seller → Marketplace
  | .restaurant id => { m with restaurants := m.restaurants.modify id g }
  | .store id => { m with stores := m.stores.modify id g }

def modifyCampaign (m : Marketplace) (id : CampaignId) (g : AdCampaign → AdCampaign) :
    Marketplace :=
  { m with campaigns := m.campaigns.modify id g }

/-- `findByIdOrThrow` of `RestaurantsService` or `StoresService`. -/
def findVendor (m : Marketplace) (vendor : Seller) : Except HttpError Vendor :=
  match m.vendor vendor with
  | some doc => .ok doc
  | none => .error (.notFound s!"{vendor.sellerType.title} not found")

def loadVendor (m : Marketplace) (campaign : AdCampaign) : Except HttpError Vendor :=
  match campaign.vendor with
  | some vendor => m.findVendor vendor
  | none => .error (.notFound "This campaign has no vendor set")

/-- `setVendorSponsorship`. -/
def setSponsorship (m : Marketplace) (campaign : AdCampaign) (sponsoredUntil : Option Time) :
    Marketplace :=
  match campaign.vendor with
  | some vendor => m.modifyVendor (fun doc =>
      { doc with sponsoredUntil := sponsoredUntil, isSponsored := sponsoredUntil.isSome }) vendor
  | none => m

/-- `findByPaymentRef`. -/
def findByPaymentRef (m : Marketplace) (reference : Option String) :
    Option (CampaignId × AdCampaign) :=
  (m.campaigns.find fun _ c => c.matchesReference reference).head?

/-- A query of the sweep. -/
def campaignIds (m : Marketplace) (p : AdCampaign → Bool) : List CampaignId :=
  (m.campaigns.find fun _ c => p c).map (·.1)

end Marketplace

/-! ## Where a call stands -/

/-- What a call goes on with once a sponsorship is set and the vendor notified: it returns, or
the sweep takes its next campaign. -/
inductive Resume
  | done
  | activating (now : Time) (rest : List CampaignId)
  | ending (rest : List CampaignId)
  deriving DecidableEq

inductive CampaignPc
  | createVendor (dto : CreateAdCampaignDto) (adminId : UserId) (vendor : Seller)
  | createCheck (dto : CreateAdCampaignDto) (adminId : UserId) (vendor : Seller)
    (currency : String)
  | createInsert (dto : CreateAdCampaignDto) (adminId : UserId) (vendor : Seller)
    (currency : String)
  | initiateRead (id : CampaignId) (requester : AccessTokenPayload)
    (providerOverride : Option PaymentProvider)
  | initiateOwner (id : CampaignId) (requester : AccessTokenPayload)
    (providerOverride : Option PaymentProvider) (campaign : AdCampaign)
  | initiating (id : CampaignId) (campaign : AdCampaign) (provider : PaymentProvider)
  | saveRef (id : CampaignId) (campaign : AdCampaign) (provider : PaymentProvider)
    (reference : String)
  | webhook (provider : PaymentProvider) (request : WebhookRequest)
  | webhookFind (provider : PaymentProvider) (event : WebhookEvent)
  | verifyRead (id : CampaignId) (requester : AccessTokenPayload)
  | verifyOwner (id : CampaignId) (requester : AccessTokenPayload) (campaign : AdCampaign)
  | verifying (id : CampaignId) (campaign : AdCampaign) (provider : PaymentProvider)
  | markPaid (id : CampaignId) (campaign : AdCampaign)
  | markPaymentFailed (id : CampaignId)
  | reread (id : CampaignId) (failed : Bool)
  | manualRead (id : CampaignId) (email : String)
  | manualSave (id : CampaignId) (email : String) (campaign : AdCampaign)
  | cancelRead (id : CampaignId) (reason : Option String)
  | cancelSave (id : CampaignId) (reason : Option String) (campaign : AdCampaign)
  | findDue
  | activate (now : Time) (id : CampaignId) (rest : List CampaignId)
  | findOver (now : Time)
  | finish (id : CampaignId) (rest : List CampaignId)
  | setSponsorship (campaign : AdCampaign) (sponsoredUntil : Option Time) (next : Resume)
  | loadVendor (campaign : AdCampaign) (next : Resume)
  | returned
  | rejected (error : HttpError)
  | threw
  deriving DecidableEq

/-- A call as it is issued. -/
inductive CampaignRequest
  | create (dto : CreateAdCampaignDto) (adminId : UserId)
  | initiateCampaignPayment (id : CampaignId) (requester : AccessTokenPayload)
    (providerOverride : Option PaymentProvider)
  | handleWebhook (provider : PaymentProvider) (request : WebhookRequest)
  | verifyPayment (id : CampaignId) (requester : AccessTokenPayload)
  | markPaidManually (id : CampaignId) (email : String)
  | cancel (id : CampaignId) (reason : Option String)
  | runLifecycleSweep

/-- What a step finds beside the collections: how the database call came back, the clock, and
what the provider's `initiate` and `verify` answer. -/
structure CampaignReply where
  db : DbReply
  now : Time
  initiated : Except String String
  verified : Option VerifyResponse

namespace Resume

/-- The sweep's next campaign, or its next query. -/
def pc : Resume → CampaignPc
  | .done => .returned
  | .activating now [] => .findOver now
  | .activating now (id :: rest) => .activate now id rest
  | .ending [] => .returned
  | .ending (id :: rest) => .finish id rest

/-- The sweep catches what an iteration throws. -/
def orElse (next : Resume) (failed : CampaignPc) : CampaignPc :=
  match next with
  | .done => failed
  | _ => next.pc

end Resume

namespace CampaignPc

def start : CampaignRequest → CampaignPc
  | .create dto adminId =>
    match dto.restaurantId, dto.storeId with
    | none, none => .rejected (.badRequest "Provide either restaurantId or storeId")
    | some _, some _ => .rejected
        (.badRequest "An ad campaign can target a restaurant or a store, not both")
    | some id, none => .createVendor dto adminId (.restaurant id)
    | none, some id => .createVendor dto adminId (.store id)
  | .initiateCampaignPayment id requester providerOverride =>
    .initiateRead id requester providerOverride
  | .handleWebhook provider request => .webhook provider request
  | .verifyPayment id requester => .verifyRead id requester
  | .markPaidManually id email => .manualRead id email
  | .cancel id reason => .cancelRead id reason
  | .runLifecycleSweep => .findDue

/-- A call that is over. -/
def isOver : CampaignPc → Bool
  | .returned => true
  | .rejected _ => true
  | .threw => true
  | _ => false

/-- A step that asks an adapter and not the database. -/
def asksAdapter : CampaignPc → Bool
  | .initiating _ _ _ => true
  | .webhook _ _ => true
  | .verifying _ _ _ => true
  | _ => false

/-- Where a database call that throws leaves a call. -/
def onFailure : CampaignPc → CampaignPc
  | .activate now _ rest => (Resume.activating now rest).pc
  | .finish _ rest => (Resume.ending rest).pc
  | .setSponsorship _ _ next => next.orElse .threw
  | .loadVendor _ next => next.orElse .threw
  | _ => .threw

def campaignNotFound : CampaignPc := .rejected (.notFound "Ad campaign not found")

def alreadyRunning : CampaignPc := .rejected (.badRequest
  ("This vendor already has an active or pending ad campaign — cancel or wait for it to end " ++
    "before creating another"))

def notAwaitingPayment : CampaignPc :=
  .rejected (.badRequest "This campaign is not awaiting payment")

def notPermitted : CampaignPc :=
  .rejected (.forbidden "You do not have permission to manage this ad campaign")

/-- The checks of `initiateCampaignPayment` once the requester may manage the campaign. -/
def afterInitiateOwner (id : CampaignId) (providerOverride : Option PaymentProvider)
    (campaign : AdCampaign) : CampaignPc :=
  if campaign.status ≠ .pendingPayment then notAwaitingPayment
  else
    match providerOverride with
    | none => .initiating id campaign (resolveDefaultProvider campaign.currency)
    | some provider =>
      if provider ∈ resolveProviders campaign.currency then .initiating id campaign provider
      else .rejected (.badRequest s!"{provider.name} does not support {campaign.currency}")

/-- The checks of `handleWebhook` on the campaign it found. -/
def afterWebhookFind (provider : PaymentProvider) (event : WebhookEvent) (id : CampaignId)
    (campaign : AdCampaign) : CampaignPc :=
  if campaign.paymentProvider ≠ some provider then .returned
  else if event.success then .markPaid id campaign
  else .markPaymentFailed id

/-- The checks of `verifyPayment` once the requester may manage the campaign. -/
def afterVerifyOwner (id : CampaignId) (campaign : AdCampaign) : CampaignPc :=
  if campaign.status ≠ .pendingPayment then .returned
  else if isBlank campaign.paymentRef then
    .rejected (.badRequest "This campaign has no payment attempt to verify yet")
  else
    match campaign.paymentProvider with
    | some provider => .verifying id campaign provider
    | none => .threw

/-- The check of `cancel` on the campaign it read. -/
def afterCancelRead (id : CampaignId) (reason : Option String) (campaign : AdCampaign) :
    CampaignPc :=
  if campaign.status.canTransition .cancelled then .cancelSave id reason campaign
  else .rejected (.badRequest (s!"Cannot cancel a campaign that is {campaign.status.words} — " ++
    "only a campaign still awaiting payment or scheduled to start can be cancelled"))

/-- `assertOwnership` of a requester who is no admin. -/
def assertOwner (m : Marketplace) (requester : AccessTokenPayload) (campaign : AdCampaign)
    (next : CampaignPc) : CampaignPc :=
  match m.loadVendor campaign with
  | .error e => .rejected e
  | .ok vendor => if vendor.ownerId = requester.sub then next else notPermitted

end CampaignPc

open CampaignPc

/-! ## The calls -/

/-- One awaited call that comes back normally. -/
def campaignCall (m : Marketplace) : CampaignPc → CampaignReply →
    Option (Marketplace × CampaignPc)
  | .createVendor dto adminId vendor, _ =>
    match m.findVendor vendor with
    | .error e => some (m, .rejected e)
    | .ok doc => some (m, .createCheck dto adminId vendor doc.currency)
  | .createCheck dto adminId vendor currency, _ =>
    if (m.campaignIds (·.blocks vendor)).isEmpty then
      some (m, .createInsert dto adminId vendor currency)
    else some (m, alreadyRunning)
  | .createInsert dto adminId vendor currency, _ =>
    let campaign := AdCampaign.created dto adminId vendor currency
    -- the partial unique indexes
    if (m.campaignIds campaign.duplicates).isEmpty then
      some ({ m with campaigns := m.campaigns.create campaign }, .loadVendor campaign .done)
    else some (m, alreadyRunning)
  | .initiateRead id requester providerOverride, _ =>
    match m.campaigns.get id with
    | none => some (m, campaignNotFound)
    | some campaign =>
      if requester.role = .admin then some (m, afterInitiateOwner id providerOverride campaign)
      else some (m, .initiateOwner id requester providerOverride campaign)
  | .initiateOwner id requester providerOverride campaign, _ =>
    some (m, assertOwner m requester campaign (afterInitiateOwner id providerOverride campaign))
  | .initiating id campaign provider, r =>
    match r.initiated with
    | .ok reference =>
      some ({ m with issued := m.issued ++ [⟨id, provider, reference,
        provider.sessionAmount campaign.totalPrice, campaign.currency⟩] },
        .saveRef id campaign provider reference)
    | .error message => some (m, .rejected
        (.badRequest s!"Couldn't start payment with {provider.name}: {message}"))
  | .saveRef id campaign provider reference, _ =>
    some (m.modifyCampaign id (·.saveRef campaign provider reference), .returned)
  | .webhook provider request, _ =>
    match provider.handleWebhook request with
    | .event event _ => some (m, .webhookFind provider event)
    | .ignored => some (m, .returned)
    | .threw => some (m, .returned)
  | .webhookFind provider event, _ =>
    match m.findByPaymentRef event.reference with
    | none => some (m, .returned)
    | some (id, campaign) => some (m, afterWebhookFind provider event id campaign)
  | .verifyRead id requester, _ =>
    match m.campaigns.get id with
    | none => some (m, campaignNotFound)
    | some campaign =>
      if requester.role = .admin then some (m, afterVerifyOwner id campaign)
      else some (m, .verifyOwner id requester campaign)
  | .verifyOwner id requester campaign, _ =>
    some (m, assertOwner m requester campaign (afterVerifyOwner id campaign))
  | .verifying id campaign provider, r =>
    match r.verified with
    | none => some (m, .returned)
    | some response =>
      match provider.verify response with
      | some _ => some (m, .markPaid id campaign)
      | none => some (m, .markPaymentFailed id)
  | .markPaid id campaign, r =>
    let nextStatus := if campaign.startDate ≤ r.now then .active else .scheduled
    match (m.campaigns.get id).bind (·.markPaid nextStatus) with
    | none => some (m, .reread id false)
    | some updated =>
      some (m.modifyCampaign id fun _ => updated,
        if nextStatus = .active then .setSponsorship updated (some updated.endDate) .done
        else .returned)
  | .markPaymentFailed id, _ =>
    match (m.campaigns.get id).bind (·.markPaymentFailed) with
    | none => some (m, .reread id true)
    | some updated => some (m.modifyCampaign id fun _ => updated, .loadVendor updated .done)
  | .reread id failed, _ =>
    match m.campaigns.get id with
    | none => some (m, if failed then .threw else .returned)
    | some campaign => some (m, if failed then .loadVendor campaign .done else .returned)
  | .manualRead id email, _ =>
    match m.campaigns.get id with
    | none => some (m, campaignNotFound)
    | some campaign =>
      if campaign.status ≠ .pendingPayment then some (m, notAwaitingPayment)
      else some (m, .manualSave id email campaign)
  | .manualSave id email campaign, _ =>
    some (m.modifyCampaign id (·.saveMarkedPaidManually campaign email), .markPaid id campaign)
  | .cancelRead id reason, _ =>
    match m.campaigns.get id with
    | none => some (m, campaignNotFound)
    | some campaign => some (m, afterCancelRead id reason campaign)
  | .cancelSave id reason campaign, r =>
    some (m.modifyCampaign id (·.saveCancelled campaign reason r.now),
      .loadVendor (campaign.saveCancelled campaign reason r.now) .done)
  | .findDue, r =>
    let due := m.campaignIds fun c => c.status = .scheduled && c.startDate ≤ r.now
    some (m, (Resume.activating r.now due).pc)
  | .activate now id rest, _ =>
    match (m.campaigns.get id).bind (·.activate) with
    | none => some (m, (Resume.activating now rest).pc)
    | some updated => some (m.modifyCampaign id fun _ => updated,
        .setSponsorship updated (some updated.endDate) (.activating now rest))
  | .findOver now, _ =>
    let due := m.campaignIds fun c => c.status = .active && c.endDate ≤ now
    some (m, (Resume.ending due).pc)
  | .finish id rest, _ =>
    match (m.campaigns.get id).bind (·.finish) with
    | none => some (m, (Resume.ending rest).pc)
    | some updated =>
      some (m.modifyCampaign id fun _ => updated, .setSponsorship updated none (.ending rest))
  | .setSponsorship campaign sponsoredUntil next, _ =>
    some (m.setSponsorship campaign sponsoredUntil, .loadVendor campaign next)
  | .loadVendor campaign next, _ =>
    match m.loadVendor campaign with
    | .ok _ => some (m, next.pc)
    | .error e => some (m, next.orElse (.rejected e))
  | .returned, _ => none
  | .rejected _, _ => none
  | .threw, _ => none

/-- One awaited call. -/
def campaignStep (m : Marketplace) (pc : CampaignPc) (r : CampaignReply) :
    Option (Marketplace × CampaignPc) :=
  match pc.asksAdapter, r.db with
  | false, .threw written _ => (campaignCall m pc r).map fun o =>
      (if written then o.1 else m, pc.onFailure)
  | _, _ => campaignCall m pc r

/-- What happens beside the calls: a vendor opens, or its owner edits it. -/
inductive CampaignEnvEvent
  | openRestaurant (ownerId : UserId) (name currency : String)
  | openStore (ownerId : UserId) (name currency : String)
  | editVendor (vendor : Seller) (name currency : String)

def envCampaigns (m : Marketplace) : CampaignEnvEvent → Option Marketplace
  | .openRestaurant ownerId name currency =>
    some { m with restaurants := m.restaurants.create ⟨ownerId, name, currency, false, none⟩ }
  | .openStore ownerId name currency =>
    some { m with stores := m.stores.create ⟨ownerId, name, currency, false, none⟩ }
  | .editVendor vendor name currency =>
    some (m.modifyVendor (fun doc => { doc with name := name, currency := currency }) vendor)

/-- Any number of calls on campaigns. -/
def campaigns : Machine Marketplace CampaignPc CampaignRequest CampaignReply CampaignEnvEvent where
  start _ := CampaignPc.start
  step := campaignStep
  env := envCampaigns

abbrev CampaignPool := Pool Marketplace CampaignPc

abbrev CampaignEvent := Event CampaignRequest CampaignReply CampaignEnvEvent

/-- No vendors, no campaigns and no calls. -/
def CampaignPool.initial : CampaignPool := ⟨.empty, []⟩

end FoodDelivery
