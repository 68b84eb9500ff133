import FoodDelivery.Orders.Deliveries
import FoodDelivery.Riders.Rider

/-!
# Riders and the orders they carry

`RidersService.apply`, `verify` and `toggleOnline`, the four ways to give an order to a rider
(`RidersController.assign`, `assignRiderByOwner` with its reassignment, and the sweep
`autoDispatchStaleReadyOrders`), and the calls of `Orders.Clients` on every order, as one
machine over the two collections.  Every awaited call is a step of its own.  A call whose
database fails ends there, but for the sweep, which goes on with its next order.

* `fleetStep`: one awaited call.
* `fleet`: any number of calls, with orders placed and locations reported in between.
-/

namespace FoodDelivery

open Store Interleave OrdersService RidersService

/-! ## The state -/

structure Fleet where
  orders : Collection Order
  riders : Collection Rider
  deriving DecidableEq

namespace Fleet

def modifyOrder (c : Fleet) (id : OrderId) (g : Order → Order) : Fleet :=
  { c with orders := c.orders.modify id g }

def modifyRider (c : Fleet) (id : RiderId) (g : Rider → Rider) : Fleet :=
  { c with riders := c.riders.modify id g }

/-- The query of `autoDispatchStaleReadyOrders`. -/
def staleReadyOrders (c : Fleet) (now : Time) : List (OrderId × Order) :=
  c.orders.find fun _ o => o.status = .readyForPickup && o.riderId = none &&
    o.readyForPickupAt.any fun t => t + riderAssignmentGracePeriodMs ≤ now

end Fleet

/-- What a step finds beside the orders and riders: whether the database fails, the sellers, the
clock, where the order's seller is, and what the users' and the payment providers' services
answer. -/
structure FleetReply where
  fails : Bool
  dir : Directory
  now : Time
  today : CalendarDate
  sellerLocation : Except HttpError (Option GeoPoint)
  updateProfile : Except HttpError Unit
  refunded : Bool

/-- A call as it is issued. -/
inductive FleetRequest
  | apply (requester : AccessTokenPayload) (dto : ApplyRiderDto)
  | verify (riderId : RiderId)
  | toggleOnline (userId : UserId)
  | assign (user : UserId) (orderId : OrderId)
  | assignRiderByOwner (requester : AccessTokenPayload) (orderId : OrderId) (riderUserId : UserId)
  | autoDispatchStaleReadyOrders
  | updateStatusByOwner (requester : AccessTokenPayload) (orderId : OrderId)
    (targetStatus : OrderStatus)
  | updateStatusByRider (riderUserId : UserId) (orderId : OrderId) (targetStatus : OrderStatus)
  | markPaidFromWebhook (orderId : OrderId)
  | refund (orderId : OrderId)

/-- Where a call stands.  The sweep keeps the orders it has still to dispatch; `onOrder` is a
call on one order that attaches no rider. -/
inductive FleetPc
  | applyFind (requester : AccessTokenPayload) (dto : ApplyRiderDto)
  | applyProfile (requester : AccessTokenPayload) (dto : ApplyRiderDto)
  | applyCreate (requester : AccessTokenPayload) (dto : ApplyRiderDto)
  | applyRole
  | verifyRead (riderId : RiderId)
  | verifySave (riderId : RiderId)
  | toggleRead (userId : UserId)
  | toggleSave (riderId : RiderId) (isOnline : Bool)
  | assertVerified (riderUserId : UserId) (orderId : OrderId)
  | assign (riderUserId : UserId) (orderId : OrderId)
  | ownerRead (requester : AccessTokenPayload) (orderId : OrderId) (riderUserId : UserId)
  | ownerAccess (requester : AccessTokenPayload) (orderId : OrderId) (riderUserId : UserId)
    (order : Order)
  | ownerRider (requester : AccessTokenPayload) (orderId : OrderId) (riderUserId : UserId)
    (order : Order)
  | reassign (requester : AccessTokenPayload) (orderId : OrderId) (riderUserId : UserId)
  | sweepFind
  | dispatchSeller (orderId : OrderId) (rest : List OrderId)
  | dispatchNear (orderId : OrderId) (near : GeoPoint) (rest : List OrderId)
  | dispatchBusy (orderId : OrderId) (candidates : List RiderCandidate) (rest : List OrderId)
  | dispatchAssign (orderId : OrderId) (riderUserId : UserId) (rest : List OrderId)
  | onOrder (orderId : OrderId) (pc : ClientPc)
  | returned
  | rejected (error : HttpError)
  | threw
  deriving DecidableEq

namespace FleetPc

def start : FleetRequest → FleetPc
  | .apply requester dto =>
    match checkApplicantRole requester.role with
    | .ok () => .applyFind requester dto
    | .error e => .rejected e
  | .verify riderId => .verifyRead riderId
  | .toggleOnline userId => .toggleRead userId
  | .assign user orderId => .assertVerified user orderId
  | .assignRiderByOwner requester orderId riderUserId => .ownerRead requester orderId riderUserId
  | .autoDispatchStaleReadyOrders => .sweepFind
  | .updateStatusByOwner requester orderId targetStatus =>
    .onOrder orderId (.ownerRead requester targetStatus)
  | .updateStatusByRider riderUserId orderId targetStatus =>
    .onOrder orderId (.riderRead riderUserId targetStatus)
  | .markPaidFromWebhook orderId => .onOrder orderId .markPaid
  | .refund orderId => .onOrder orderId .claim

/-- The sweep goes on with its next order. -/
def dispatchNext : List OrderId → FleetPc
  | [] => .returned
  | orderId :: rest => .dispatchSeller orderId rest

/-- Where a failing database call leaves a call: `dispatchToNearestRider` swallows it. -/
def onFailure : FleetPc → FleetPc
  | .dispatchSeller _ rest => dispatchNext rest
  | .dispatchNear _ _ rest => dispatchNext rest
  | .dispatchBusy _ _ rest => dispatchNext rest
  | .dispatchAssign _ _ rest => dispatchNext rest
  | _ => .threw

/-- A call on an order that is not there. -/
def orderNotFound : ClientPc → FleetPc
  | .markPaid => .returned
  | .claim => .returned
  | _ => .rejected (.notFound "Order not found")

/-- What `assignRiderByOwner` decides on the order and the rider it read. -/
def afterOwnerRider (requester : AccessTokenPayload) (orderId : OrderId) (riderUserId : UserId)
    (order : Order) : Option Rider → FleetPc
  | none => .rejected (.notFound "Rider not found")
  | some rider =>
    if ¬ rider.isVerified then
      .rejected (.badRequest "This rider is not verified yet and cannot be assigned an order")
    else if order.status = .readyForPickup ∧ order.riderId = none then .assign riderUserId orderId
    else if order.status = .assignedToRider ∧ order.riderId ≠ none then
      if order.riderId = some riderUserId then
        .rejected (.badRequest "This rider is already assigned to this order")
      else .reassign requester orderId riderUserId
    else .rejected
      (.badRequest "This order is not at a stage where a rider can be assigned")

/-- The first of the free candidates gets the order. -/
def afterBusy (orderId : OrderId) (rest : List OrderId) : List RiderCandidate → FleetPc
  | [] => dispatchNext rest
  | candidate :: _ => .dispatchAssign orderId candidate.userId rest

end FleetPc

open FleetPc

/-! ## The calls -/

section Step

variable (distanceMeters : GeoPoint → GeoPoint → ℚ)

/-- One awaited call that does not fail. -/
def fleetCall (c : Fleet) : FleetPc → FleetReply → Option (Fleet × FleetPc)
  | .applyFind requester dto, r =>
    match findRider c.riders requester.sub with
    | some _ => some (c, .rejected (.badRequest "You already applied"))
    | none =>
      match checkApplication r.today r.now dto with
      | .ok () => some (c, .applyProfile requester dto)
      | .error e => some (c, .rejected e)
  | .applyProfile requester dto, r =>
    match r.updateProfile with
    | .ok () => some (c, .applyCreate requester dto)
    | .error e => some (c, .rejected e)
  | .applyCreate requester dto, _ =>
    -- the unique index on `userId`
    match findRider c.riders requester.sub with
    | some _ => some (c, .threw)
    | none => some ({ c with riders := c.riders.create (dto.toRider requester.sub) }, .applyRole)
  | .applyRole, _ => some (c, .returned)
  | .verifyRead riderId, r =>
    match c.riders.get riderId with
    | none => some (c, .rejected (.notFound "Rider not found"))
    | some rider =>
      match assertKycComplete r.now rider with
      | .ok () => some (c, .verifySave riderId)
      | .error e => some (c, .rejected e)
  | .verifySave riderId, _ =>
    some (c.modifyRider riderId fun rider => { rider with isVerified := true }, .returned)
  | .toggleRead userId, _ =>
    match findRider c.riders userId with
    | none => some (c, .rejected (.notFound "Rider profile not found"))
    | some (riderId, rider) => some (c, .toggleSave riderId !rider.isOnline)
  | .toggleSave riderId isOnline, _ =>
    some (c.modifyRider riderId fun rider => { rider with isOnline := isOnline }, .returned)
  | .assertVerified riderUserId orderId, _ =>
    match RidersService.assertVerified ((findRider c.riders riderUserId).map (·.2)) with
    | .ok () => some (c, .assign riderUserId orderId)
    | .error e => some (c, .rejected e)
  | .assign riderUserId orderId, r =>
    match c.orders.get orderId with
    | none => some (c, .rejected (.notFound "Order not found"))
    | some order =>
      match OrdersService.assignToRider r.now riderUserId order with
      | .ok updated => some (c.modifyOrder orderId fun _ => updated, .returned)
      | .error e => some (c, .rejected e)
  | .ownerRead requester orderId riderUserId, _ =>
    match c.orders.get orderId with
    | none => some (c, .rejected (.notFound "Order not found"))
    | some order => some (c, .ownerAccess requester orderId riderUserId order)
  | .ownerAccess requester orderId riderUserId order, r =>
    match assertOwnerAccessToOrder r.dir requester order with
    | .ok () => some (c, .ownerRider requester orderId riderUserId order)
    | .error e => some (c, .rejected e)
  | .ownerRider requester orderId riderUserId order, _ =>
    some (c, afterOwnerRider requester orderId riderUserId order
      ((findRider c.riders riderUserId).map (·.2)))
  | .reassign requester orderId riderUserId, r =>
    match (c.orders.get orderId).bind (·.reassignRider riderUserId requester.sub r.now) with
    | some updated => some (c.modifyOrder orderId fun _ => updated, .returned)
    | none => some (c, .rejected
        (.badRequest "This order has moved on and can no longer be reassigned"))
  | .sweepFind, r => some (c, dispatchNext ((c.staleReadyOrders r.now).map (·.1)))
  | .dispatchSeller orderId rest, r =>
    match r.sellerLocation with
    | .error _ => some (c, dispatchNext rest)
    | .ok none => some (c, dispatchNext rest)
    | .ok (some near) => some (c, .dispatchNear orderId near rest)
  | .dispatchNear orderId near rest, _ =>
    match nearbyRiders distanceMeters near nearbyRiderCandidateLimit c.riders with
    | [] => some (c, dispatchNext rest)
    | candidates => some (c, .dispatchBusy orderId candidates rest)
  | .dispatchBusy orderId candidates rest, _ =>
    some (c, afterBusy orderId rest (freeCandidates c.orders candidates))
  | .dispatchAssign orderId riderUserId rest, r =>
    match (c.orders.get orderId).bind (·.assignToRider riderUserId r.now) with
    | some updated => some (c.modifyOrder orderId fun _ => updated, dispatchNext rest)
    | none => some (c, dispatchNext rest)
  | .onOrder orderId pc, r =>
    match c.orders.get orderId with
    | none => some (c, orderNotFound pc)
    | some order =>
      (clientStep order pc ⟨r.dir, r.now, r.refunded⟩).map fun o =>
        (c.modifyOrder orderId fun _ => o.1, .onOrder orderId o.2)
  | .returned, _ => none
  | .rejected _, _ => none
  | .threw, _ => none

/-- One awaited call. -/
def fleetStep (c : Fleet) (pc : FleetPc) (r : FleetReply) : Option (Fleet × FleetPc) :=
  if r.fails then (fleetCall distanceMeters c pc r).map fun _ => (c, pc.onFailure)
  else fleetCall distanceMeters c pc r

/-- What happens beside the calls: an order is placed, or a rider's location arrives. -/
inductive FleetEnvEvent
  | place (seller : Seller) (customer : UserId) (now : Time) (currency : String)
    (provider : PaymentProvider) (deliveryFee total restaurantPayoutAmount : Price)
  | locationUpdate (userId : UserId) (point : GeoPoint)

def envFleet (c : Fleet) : FleetEnvEvent → Option Fleet
  | .place seller customer now currency provider deliveryFee total restaurantPayoutAmount =>
    some { c with orders := c.orders.create (.created seller customer now currency provider
      deliveryFee total restaurantPayoutAmount) }
  | .locationUpdate userId point =>
    match findRider c.riders userId with
    | none => some c
    | some (riderId, _) =>
      some (c.modifyRider riderId fun rider => { rider with currentLocation := some point })

/-- The riders' and the orders' calls. -/
def fleet : Machine Fleet FleetPc FleetRequest FleetReply FleetEnvEvent where
  start _ := FleetPc.start
  step := fleetStep distanceMeters
  env := envFleet

end Step

abbrev FleetPool := Pool Fleet FleetPc

abbrev FleetEvent := Event FleetRequest FleetReply FleetEnvEvent

/-- Neither orders nor riders. -/
def FleetPool.initial : FleetPool := ⟨⟨Collection.empty, Collection.empty⟩, []⟩

/-! ## Concrete runs -/

/-- Where seller 1 is. -/
def kitchen : GeoPoint := ⟨3, 6⟩

/-- Metres, for points that are close to each other and to the equator. -/
def flatDistance (p q : GeoPoint) : ℚ :=
  111195 * (|p.longitude - q.longitude| + |p.latitude - q.latitude|)

/-- Nothing fails, and user 1 owns the seller. -/
def fleetReply (now : Time) : FleetReply where
  fails := false
  dir := ⟨fun _ => some 1, fun _ => some true⟩
  now := now
  today := ⟨2026, 1, 1⟩
  sellerLocation := .ok (some kitchen)
  updateProfile := .ok ()
  refunded := false

/-- The calls take their next steps, in this order. -/
def fleetTurns (now : Time) (calls : List Nat) : List FleetEvent :=
  calls.map fun i => .run i (fleetReply now)

/-- Rider 7 applies, is verified, and goes online next to the seller. -/
def onlineRider : List FleetEvent :=
  .spawn (.apply ⟨7, .customer⟩ ⟨.bicycle, ⟨1990, 1, 1⟩, "id", "address", "Ada", "Obi", none, none,
    none, none⟩) :: fleetTurns 0 [0, 0, 0, 0] ++
  .spawn (.verify 0) :: fleetTurns 0 [1, 1] ++
  .spawn (.toggleOnline 7) :: fleetTurns 0 [2, 2] ++ [.env (.locationUpdate 7 kitchen)]

/-- The order is placed, paid and prepared, by the `n`-th call and the three after it. -/
def readyOrder (id : OrderId) (n : Nat) : List FleetEvent :=
  .env (.place (.restaurant 1) 9 0 "USD" .stripe (.ofCents 200) (.ofCents 1500) (.ofCents 1000)) ::
  .spawn (.markPaidFromWebhook id) :: fleetTurns 0 [n] ++
  .spawn (.updateStatusByOwner ⟨1, .restaurantOwner⟩ id .acceptedByRestaurant) ::
    fleetTurns 0 [n + 1, n + 1] ++
  .spawn (.updateStatusByOwner ⟨1, .restaurantOwner⟩ id .preparing) ::
    fleetTurns 0 [n + 2, n + 2] ++
  .spawn (.updateStatusByOwner ⟨1, .restaurantOwner⟩ id .readyForPickup) ::
    fleetTurns 0 [n + 3, n + 3]

/-- A run of the fleet that checks out and ends as wanted. -/
theorem exists_fleetRun (okb : FleetPool → FleetEvent → Bool) (P : FleetPool → Bool)
    (es : List FleetEvent)
    (h : ((fleet flatDistance).play okb FleetPool.initial es).any P = true) :
    ∃ s, (fleet flatDistance).Reach (fun s e => okb s e = true) FleetPool.initial s ∧ P s = true :=
  Machine.exists_reach_of_play (fun _ _ h => h) es h

end FoodDelivery
