import FoodDelivery.Orders.Order

/-!
# Ad campaigns

`ad-campaigns/ad-campaign-state-machine.ts`, `ad-campaign-pricing.ts` and
`schemas/ad-campaign.schema.ts`, and the writes `AdCampaignsService` makes to one campaign.  A
write that is a single `findOneAndUpdate` is a function to `Option`: `none` when its filter does
not match.  A write that is a `save()` takes the document as it was loaded, and changes only the
paths that differ from it.

* `canTransition_iff`: the graph, edge by edge.
* `vendor_created`: a campaign advertises the vendor it is created for.
-/

namespace FoodDelivery

abbrev CampaignId := Nat

/-! ## The graph -/

/-- `AD_CAMPAIGN_STATUSES`. -/
inductive AdCampaignStatus
  | pendingPayment
  | scheduled
  | active
  | ended
  | cancelled
  deriving DecidableEq, Repr

/-- `AD_CAMPAIGN_PAYMENT_STATUSES`. -/
inductive AdCampaignPaymentStatus
  | pending
  | succeeded
  | failed
  deriving DecidableEq, Repr

namespace AdCampaignStatus

/-- The stored value with `_` replaced by a space, as error messages print it. -/
def words : AdCampaignStatus → String
  | pendingPayment => "pending payment"
  | scheduled => "scheduled"
  | active => "active"
  | ended => "ended"
  | cancelled => "cancelled"

/-- `AD_CAMPAIGN_TRANSITIONS`. -/
def transitions : AdCampaignStatus → List AdCampaignStatus
  | pendingPayment => [scheduled, active, cancelled]
  | scheduled => [active, cancelled]
  | active => [ended]
  | ended => []
  | cancelled => []

def canTransition (src tgt : AdCampaignStatus) : Bool := src.transitions.contains tgt

def isTerminal (status : AdCampaignStatus) : Bool := status.transitions.isEmpty

/-- The statuses of a campaign that blocks another one for its vendor. -/
def live : List AdCampaignStatus := [pendingPayment, scheduled, active]

theorem canTransition_iff {src tgt : AdCampaignStatus} : canTransition src tgt = true ↔
    (src = pendingPayment ∧ (tgt = scheduled ∨ tgt = active ∨ tgt = cancelled)) ∨
      (src = scheduled ∧ (tgt = active ∨ tgt = cancelled)) ∨ (src = active ∧ tgt = ended) := by
  revert src tgt
  rintro ⟨⟩ ⟨⟩ <;> decide

/-- What blocks another campaign is what is not terminal. -/
theorem mem_live_iff {status : AdCampaignStatus} : status ∈ live ↔ status.isTerminal = false := by
  revert status
  rintro ⟨⟩ <;> decide

end AdCampaignStatus

/-! ## Prices -/

/-- `AD_CAMPAIGN_DAILY_RATE_TABLE`. -/
def adCampaignDailyRateTable : String → Option ℚ
  | "NGN" => some 5000
  | "GHS" => some 120
  | "KES" => some 800
  | "ZAR" => some 150
  | "UGX" => some 40000
  | _ => none

/-- `GLOBAL_DEFAULT_DAILY_RATE`. -/
def globalDefaultDailyRate : ℚ := 15

/-- On a currency in upper case, as the schemas store it. -/
def resolveDailyRate (currency : String) : ℚ :=
  (adCampaignDailyRateTable currency).getD globalDefaultDailyRate

/-! ## Documents -/

/-- How an id got into a document: as an `ObjectId`, or as the string of one.  The paths
`restaurantId` and `storeId` of the schema are not cast, so an id stays as it is written. -/
inductive StoredId
  | objectId (id : VendorId)
  | string (id : VendorId)
  deriving DecidableEq, Repr

/-- `toString()`. -/
def StoredId.id : StoredId → VendorId
  | .objectId id => id
  | .string id => id

/-- `CreateAdCampaignDto`. -/
structure CreateAdCampaignDto where
  restaurantId : Option VendorId
  storeId : Option VendorId
  startDate : Time
  durationDays : Nat
  totalPriceOverride : Option ℚ
  adminNotes : Option String
  deriving DecidableEq

structure AdCampaign where
  restaurantId : Option StoredId
  storeId : Option StoredId
  status : AdCampaignStatus
  paymentStatus : AdCampaignPaymentStatus
  startDate : Time
  endDate : Time
  durationDays : Nat
  currency : String
  dailyRate : ℚ
  totalPrice : ℚ
  priceOverridden : Bool
  paymentProvider : Option PaymentProvider
  paymentRef : Option String
  paymentRefs : List String
  markedPaidManually : Bool
  createdByAdminId : UserId
  cancelledAt : Option Time
  cancelReason : Option String
  adminNotes : String
  deriving DecidableEq

/-- `setDate(getDate() + days)`, where every day has 24 hours. -/
def addDays (date : Time) (days : Nat) : Time := date + days * (24 * 60 * 60 * 1000)

namespace AdCampaign

/-- The restaurant or the store that the campaign advertises. -/
def vendor (c : AdCampaign) : Option Seller :=
  match c.restaurantId with
  | some id => some (.restaurant id.id)
  | none => c.storeId.map fun id => .store id.id

/-- What `create` inserts: everything not given is the schema's default.  The vendor's id is the
string that `_id.toString()` gives. -/
def created (dto : CreateAdCampaignDto) (adminId : UserId) (vendor : Seller) (currency : String) :
    AdCampaign where
  restaurantId :=
    match vendor with
    | .restaurant id => some (.string id)
    | .store _ => none
  storeId :=
    match vendor with
    | .restaurant _ => none
    | .store id => some (.string id)
  status := .pendingPayment
  paymentStatus := .pending
  startDate := dto.startDate
  endDate := addDays dto.startDate dto.durationDays
  durationDays := dto.durationDays
  currency := currency
  dailyRate := resolveDailyRate currency
  totalPrice := dto.totalPriceOverride.getD (resolveDailyRate currency * dto.durationDays)
  priceOverridden := dto.totalPriceOverride.isSome
  paymentProvider := none
  paymentRef := none
  paymentRefs := []
  markedPaidManually := false
  createdByAdminId := adminId
  cancelledAt := none
  cancelReason := none
  adminNotes := dto.adminNotes.getD ""

/-- The filter of `create`'s first look: a live campaign whose stored id is this string. -/
def blocks (c : AdCampaign) (vendor : Seller) : Bool :=
  c.status ∈ AdCampaignStatus.live && match vendor with
    | .restaurant id => c.restaurantId = some (.string id)
    | .store id => c.storeId = some (.string id)

/-- The key under which the partial unique index on `restaurantId` holds the campaign, if it
does. -/
def restaurantKey (c : AdCampaign) : Option VendorId :=
  match c.restaurantId with
  | some (.objectId id) => if c.status ∈ AdCampaignStatus.live then some id else none
  | _ => none

/-- And that of the index on `storeId`. -/
def storeKey (c : AdCampaign) : Option VendorId :=
  match c.storeId with
  | some (.objectId id) => if c.status ∈ AdCampaignStatus.live then some id else none
  | _ => none

/-- A unique index holds both campaigns under one key. -/
def duplicates (c other : AdCampaign) : Bool :=
  (c.restaurantKey.isSome && c.restaurantKey = other.restaurantKey) ||
    (c.storeKey.isSome && c.storeKey = other.storeKey)

/-! ## Writes -/

/-- The update of `markPaid`. -/
def markPaid (c : AdCampaign) (nextStatus : AdCampaignStatus) : Option AdCampaign :=
  if c.status = .pendingPayment then
    some { c with status := nextStatus, paymentStatus := .succeeded }
  else none

/-- The update of `markPaymentFailed`. -/
def markPaymentFailed (c : AdCampaign) : Option AdCampaign :=
  if c.status = .pendingPayment then some { c with paymentStatus := .failed } else none

/-- The first update of the sweep. -/
def activate (c : AdCampaign) : Option AdCampaign :=
  if c.status = .scheduled then some { c with status := .active } else none

/-- And its second one. -/
def finish (c : AdCampaign) : Option AdCampaign :=
  if c.status = .active then some { c with status := .ended } else none

/-- The `save()` of `initiateCampaignPayment`. -/
def saveRef (c loaded : AdCampaign) (provider : PaymentProvider) (reference : String) :
    AdCampaign :=
  { c with
    paymentProvider :=
      if loaded.paymentProvider = some provider then c.paymentProvider else some provider
    paymentRef := if loaded.paymentRef = some reference then c.paymentRef else some reference
    paymentRefs := c.paymentRefs ++ [reference] }

/-- The `save()` of `markPaidManually`. -/
def saveMarkedPaidManually (c loaded : AdCampaign) (email : String) : AdCampaign :=
  { c with
    markedPaidManually := if loaded.markedPaidManually then c.markedPaidManually else true
    adminNotes :=
      if loaded.adminNotes = "" then s!"Marked paid manually by admin {email}."
      else s!"{loaded.adminNotes} | Marked paid manually by admin {email}." }

/-- The `save()` of `cancel`; the document it loaded was not cancelled. -/
def saveCancelled (c loaded : AdCampaign) (reason : Option String) (now : Time) : AdCampaign :=
  { c with
    status := .cancelled
    cancelledAt := some now
    cancelReason := if loaded.cancelReason = reason then c.cancelReason else reason }

/-- The filter of `findByPaymentRef`; a missing reference is sent as `null`, which a
`paymentRef` that was never set matches. -/
def matchesReference (c : AdCampaign) : Option String → Bool
  | some reference => reference ∈ c.paymentRefs || c.paymentRef = some reference
  | none => c.paymentRef = none

section Writes

variable {c c' loaded : AdCampaign} {nextStatus : AdCampaignStatus}

@[simp] theorem vendor_created (dto : CreateAdCampaignDto) (adminId : UserId) (vendor : Seller)
    (currency : String) : (created dto adminId vendor currency).vendor = some vendor := by
  cases vendor <;> rfl

theorem markPaid_eq_some (h : c.markPaid nextStatus = some c') : c.status = .pendingPayment ∧
    c' = { c with status := nextStatus, paymentStatus := .succeeded } := by
  rw [markPaid, Option.ite_none_right_eq_some, Option.some.injEq] at h
  exact ⟨h.1, h.2.symm⟩

theorem markPaymentFailed_eq_some (h : c.markPaymentFailed = some c') :
    c.status = .pendingPayment ∧ c' = { c with paymentStatus := .failed } := by
  rw [markPaymentFailed, Option.ite_none_right_eq_some, Option.some.injEq] at h
  exact ⟨h.1, h.2.symm⟩

theorem activate_eq_some (h : c.activate = some c') :
    c.status = .scheduled ∧ c' = { c with status := .active } := by
  rw [activate, Option.ite_none_right_eq_some, Option.some.injEq] at h
  exact ⟨h.1, h.2.symm⟩

theorem finish_eq_some (h : c.finish = some c') :
    c.status = .active ∧ c' = { c with status := .ended } := by
  rw [finish, Option.ite_none_right_eq_some, Option.some.injEq] at h
  exact ⟨h.1, h.2.symm⟩

end Writes

end AdCampaign

end FoodDelivery
