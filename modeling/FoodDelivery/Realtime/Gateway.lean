import FoodDelivery.Lib.Collection
import FoodDelivery.Lib.Interleave
import FoodDelivery.Riders.Rider

/-!
# The realtime gateway

`RealtimeGateway`: sockets that are verified once, rooms that a handler lets a socket join after it
has read who owns what, and events that other services send to a room.  Handlers are processes that
are suspended at each `await`; sockets go away, documents are written and events are sent in
between.

`ids` is what Mongoose makes of ids and of the strings that clients send, and `verify` is
`verifyAsync` with the access secret.

* `Room.name_injective`: no two rooms share a name.
* `gatewayStep`: what a handler does up to its next `await`.
* `Later`: what never changes from one state to a later one.
-/

namespace FoodDelivery

open Store Interleave

/-- Ids as strings. -/
structure ObjectIds where
  hex : Nat → String
  cast : String → Option Nat
  cast_hex : ∀ id, cast (hex id) = some id

theorem ObjectIds.hex_injective (ids : ObjectIds) {a b : Nat} (h : ids.hex a = ids.hex b) :
    a = b := by
  have hcast := congrArg ids.cast h
  rw [ids.cast_hex, ids.cast_hex] at hcast
  exact Option.some.inj hcast

/-! ## Rooms -/

inductive Room
  | order (orderId : String)
  | restaurant (restaurantId : String)
  | store (storeId : String)
  | user (userId : String)
  | vendorConversation (vendorId : String)
  deriving DecidableEq, Repr

/-- `orderRoom`, `restaurantRoom`, `storeRoom`, `userRoom` and `vendorConversationRoom`. -/
def Room.name : Room → String
  | order orderId => "order:" ++ orderId
  | restaurant restaurantId => "restaurant:" ++ restaurantId
  | store storeId => "store:" ++ storeId
  | user userId => "user:" ++ userId
  | vendorConversation vendorId => "vendor-conversation:" ++ vendorId

/-- The first letter of a name tells which kind of room it is. -/
def Room.letter : Room → Char
  | order _ => 'o'
  | restaurant _ => 'r'
  | store _ => 's'
  | user _ => 'u'
  | vendorConversation _ => 'v'

theorem head?_append_of_head? {label : String} {c : Char} (h : label.toList.head? = some c)
    (id : String) : (label ++ id).toList.head? = some c := by
  rw [String.toList_append, List.head?_append, h, Option.some_or]

theorem Room.head?_name (room : Room) : room.name.toList.head? = some room.letter := by
  cases room with
  | order id => exact head?_append_of_head? (by rw [letter]; decide) id
  | restaurant id => exact head?_append_of_head? (by rw [letter]; decide) id
  | store id => exact head?_append_of_head? (by rw [letter]; decide) id
  | user id => exact head?_append_of_head? (by rw [letter]; decide) id
  | vendorConversation id => exact head?_append_of_head? (by rw [letter]; decide) id

theorem append_string_cancel {label x y : String} (h : label ++ x = label ++ y) : x = y := by
  have hlist := congrArg String.toList h
  rw [String.toList_append, String.toList_append] at hlist
  exact String.toList_injective (List.append_cancel_left hlist)

/-- **No two rooms share a name**, whatever the client puts in for an id. -/
theorem Room.name_injective {a b : Room} (h : a.name = b.name) : a = b := by
  have hletter : a.letter = b.letter := by
    have hhead := a.head?_name
    rw [h, b.head?_name] at hhead
    exact (Option.some.inj hhead).symm
  cases a <;> cases b
  case order.order => exact congrArg Room.order (append_string_cancel h)
  case restaurant.restaurant => exact congrArg Room.restaurant (append_string_cancel h)
  case store.store => exact congrArg Room.store (append_string_cancel h)
  case user.user => exact congrArg Room.user (append_string_cancel h)
  case vendorConversation.vendorConversation =>
    exact congrArg Room.vendorConversation (append_string_cancel h)
  all_goals simp [letter] at hletter

/-! ## State -/

structure GatewayOrder where
  customerId : UserId
  seller : Seller
  riderId : Option UserId
  status : OrderStatus
  deriving DecidableEq

/-- `currentLocation` holds longitude and latitude. -/
structure GatewayRider where
  userId : UserId
  currentLocation : Option (ℚ × ℚ)
  deriving DecidableEq

inductive GatewayEvent
  | orderStatusChanged (orderId : OrderId) (order : GatewayOrder)
  /-- `restaurant:orderUpdated` and `store:orderUpdated`. -/
  | orderUpdated (orderId : OrderId) (order : GatewayOrder)
  | notification (userId : UserId) (notification : Nat)
  | vendorMessage (vendorId : String) (message : Nat)
  /-- Only `lat` and `lng` are sent; the others are the order as it was read, and who sent them. -/
  | riderLocation (rider : AccessTokenPayload) (orderId : OrderId) (order : GatewayOrder)
      (lat lng : ℚ)
  deriving DecidableEq

/-- What reached which socket. -/
structure Delivery where
  socket : Nat
  event : GatewayEvent
  deriving DecidableEq

/-- `client.data.user` is `none` until the token has been verified. -/
structure GatewaySocket where
  connected : Bool
  user : Option AccessTokenPayload
  rooms : List String
  deriving DecidableEq

/-- Of restaurants and stores only `ownerId` is read. -/
structure Gateway where
  orders : Collection GatewayOrder
  restaurants : Collection UserId
  stores : Collection UserId
  riders : Collection GatewayRider
  sockets : List GatewaySocket
  deliveries : List Delivery
  deriving DecidableEq

namespace Gateway

def empty : Gateway := ⟨.empty, .empty, .empty, .empty, [], []⟩

def userOf (s : Gateway) (socket : Nat) : Option AccessTokenPayload :=
  (s.sockets[socket]?).bind (·.user)

/-- The sockets that an emission to the room reaches. -/
def members (s : Gateway) (room : Room) : List Nat :=
  (List.range s.sockets.length).filter fun i =>
    (s.sockets[i]?).any fun socket => socket.connected && room.name ∈ socket.rooms

/-- `server.to(room).emit(event)`. -/
def emit (s : Gateway) (room : Room) (event : GatewayEvent) : Gateway :=
  { s with deliveries := s.deliveries ++ (s.members room).map fun i => ⟨i, event⟩ }

def modifySocket (s : Gateway) (socket : Nat) (f : GatewaySocket → GatewaySocket) : Gateway :=
  { s with sockets := s.sockets.modify socket f }

/-- `client.join(room)`. -/
def join (s : Gateway) (socket : Nat) (room : Room) : Gateway :=
  s.modifySocket socket fun c => { c with rooms := room.name :: c.rooms }

/-- `client.disconnect(true)`, or the client went away. -/
def disconnect (s : Gateway) (socket : Nat) : Gateway :=
  s.modifySocket socket fun c => { c with connected := false }

/-- `client.data.user = payload`. -/
def setUser (s : Gateway) (socket : Nat) (user : AccessTokenPayload) : Gateway :=
  s.modifySocket socket fun c => { c with user := some user }

/-- The room of the seller of an order. -/
def sellerRoom (ids : ObjectIds) : Seller → Room
  | .restaurant restaurantId => .restaurant (ids.hex restaurantId)
  | .store storeId => .store (ids.hex storeId)

/-- `emitOrderStatusChanged`. -/
def emitOrderStatusChanged (ids : ObjectIds) (s : Gateway) (orderId : OrderId)
    (order : GatewayOrder) : Gateway :=
  (s.emit (.order (ids.hex orderId)) (.orderStatusChanged orderId order)).emit
    (sellerRoom ids order.seller) (.orderUpdated orderId order)

/-- `riderModel.updateOne({ userId }, { currentLocation, locationUpdatedAt })`. -/
def setLocation (s : Gateway) (userId : UserId) (lat lng : ℚ) : Gateway :=
  match (s.riders.find fun _ rider => rider.userId = userId).head? with
  | none => s
  | some (id, _) =>
    { s with riders := s.riders.modify id fun rider => { rider with currentLocation := (lng, lat) } }

/-- `orderModel.find({ riderId, status: { $in: ACTIVE_DELIVERY_STATUSES } })`. -/
def activeOrders (s : Gateway) (riderId : UserId) : List (OrderId × GatewayOrder) :=
  s.orders.find fun _ o => o.riderId = some riderId && o.status ∈ activeDeliveryStatuses

end Gateway

/-! ## Handlers -/

inductive GatewayPc
  | connect (token : Option String)
  | verify (socket : Nat) (token : String)
  | orderSubscribe (socket : Nat) (user : AccessTokenPayload) (orderId : String)
  | restaurantSubscribe (socket : Nat) (user : AccessTokenPayload) (restaurantId : String)
  | storeSubscribe (socket : Nat) (user : AccessTokenPayload) (storeId : String)
  | join (socket : Nat) (room : Room)
  | riderLocation (user : AccessTokenPayload) (lat lng : ℚ)
  | findActive (user : AccessTokenPayload) (lat lng : ℚ)
  | relay (user : AccessTokenPayload) (orders : List (OrderId × GatewayOrder)) (lat lng : ℚ)
  | returned
  deriving DecidableEq

/-- What clients do. -/
inductive GatewayCall
  | connect (token : Option String)
  | orderSubscribe (socket : Nat) (orderId : Option String)
  | restaurantSubscribe (socket : Nat) (restaurantId : Option String)
  | storeSubscribe (socket : Nat) (storeId : Option String)
  | vendorConversationSubscribe (socket : Nat) (vendorId : Option String)
  | locationUpdate (socket : Nat) (lat lng : Option ℚ)

section Handlers

variable (ids : ObjectIds) (verify : String → Option AccessTokenPayload)

/-- A handler that needs the user and an id. -/
def startSubscribe (s : Gateway) (socket : Nat) (id : Option String)
    (handler : AccessTokenPayload → String → GatewayPc) : GatewayPc :=
  match s.userOf socket, id.filter (· ≠ "") with
  | some user, some id => handler user id
  | _, _ => .returned

/-- Each handler up to its first `await`. -/
def startGateway (s : Gateway) : GatewayCall → GatewayPc
  | .connect token => .connect token
  | .orderSubscribe socket orderId => startSubscribe s socket orderId (.orderSubscribe socket)
  | .restaurantSubscribe socket restaurantId =>
    startSubscribe s socket restaurantId (.restaurantSubscribe socket)
  | .storeSubscribe socket storeId => startSubscribe s socket storeId (.storeSubscribe socket)
  | .vendorConversationSubscribe socket vendorId =>
    startSubscribe s socket vendorId fun user vendorId =>
      if ids.hex user.sub ≠ vendorId ∧ user.role ≠ .admin then .returned
      else .join socket (.vendorConversation vendorId)
  | .locationUpdate socket lat lng =>
    match s.userOf socket, lat, lng with
    | some user, some lat, some lng =>
      if user.role ≠ .rider then .returned else .riderLocation user lat lng
    | _, _, _ => .returned

/-- `customerId` and `ownerId` against the user: the room is joined, or not. -/
def subscribeAs (owner : Option UserId) (user : AccessTokenPayload) (socket : Nat) (room : Room) :
    GatewayPc :=
  match owner with
  | none => .returned
  | some owner => if owner ≠ user.sub ∧ user.role ≠ .admin then .returned else .join socket room

/-- What a handler does from one `await` to the next. -/
def gatewayStep (s : Gateway) (pc : GatewayPc) (r : DbReply) : Option (Gateway × GatewayPc) :=
  match pc with
  | .connect token =>
    -- the socket is there once the transport is up
    let opened := { s with sockets := s.sockets ++ [⟨true, none, []⟩] }
    match token.filter (· ≠ "") with
    | none => some (opened.disconnect s.sockets.length, .returned)
    | some token => some (opened, .verify s.sockets.length token)
  | .verify socket token =>
    match verify token with
    | none => some (s.disconnect socket, .returned)
    | some payload => some (s.setUser socket payload, .join socket (.user (ids.hex payload.sub)))
  | .orderSubscribe socket user orderId =>
    match r with
    | .threw _ _ => some (s, .returned)
    | .ok => some (s, subscribeAs (((ids.cast orderId).bind s.orders.get).map (·.customerId)) user
        socket (.order orderId))
  | .restaurantSubscribe socket user restaurantId =>
    match r with
    | .threw _ _ => some (s, .returned)
    | .ok => some (s, subscribeAs ((ids.cast restaurantId).bind s.restaurants.get) user
        socket (.restaurant restaurantId))
  | .storeSubscribe socket user storeId =>
    match r with
    | .threw _ _ => some (s, .returned)
    | .ok => some (s, subscribeAs ((ids.cast storeId).bind s.stores.get) user
        socket (.store storeId))
  | .join socket room => some (s.join socket room, .returned)
  | .riderLocation user lat lng =>
    let s' := if r.wrote then s.setLocation user.sub lat lng else s
    match r with
    | .threw _ _ => some (s', .returned)
    | .ok => some (s', .findActive user lat lng)
  | .findActive user lat lng =>
    match r with
    | .threw _ _ => some (s, .returned)
    | .ok => some (s, .relay user (s.activeOrders user.sub) lat lng)
  | .relay user orders lat lng =>
    some (orders.foldl (fun s o =>
      s.emit (.order (ids.hex o.1)) (.riderLocation user o.1 o.2 lat lng)) s, .returned)
  | .returned => none

/-- What happens beside the handlers. -/
inductive GatewayEnv
  | disconnect (socket : Nat)
  | createOrder (customerId : UserId) (seller : Seller)
  | updateOrder (orderId : OrderId) (riderId : Option UserId) (status : OrderStatus)
  | createRestaurant (ownerId : UserId)
  | createStore (ownerId : UserId)
  | createRider (userId : UserId)
  /-- A service has the order, with some rider and status, and calls the gateway with it. -/
  | statusChanged (orderId : OrderId) (riderId : Option UserId) (status : OrderStatus)
  | notify (userId : UserId) (notification : Nat)
  | vendorMessage (vendorId : String) (message : Nat)

def gatewayEnv (s : Gateway) : GatewayEnv → Option Gateway
  | .disconnect socket => some (s.disconnect socket)
  | .createOrder customerId seller =>
    some { s with orders := s.orders.create ⟨customerId, seller, none, .placed⟩ }
  | .updateOrder orderId riderId status =>
    some { s with
      orders := s.orders.modify orderId fun o => { o with riderId := riderId, status := status } }
  | .createRestaurant ownerId => some { s with restaurants := s.restaurants.create ownerId }
  | .createStore ownerId => some { s with stores := s.stores.create ownerId }
  | .createRider userId => some { s with riders := s.riders.create ⟨userId, none⟩ }
  | .statusChanged orderId riderId status =>
    (s.orders.get orderId).map fun o =>
      s.emitOrderStatusChanged ids orderId { o with riderId := riderId, status := status }
  | .notify userId notification =>
    some (s.emit (.user (ids.hex userId)) (.notification userId notification))
  | .vendorMessage vendorId message =>
    some (s.emit (.vendorConversation vendorId) (.vendorMessage vendorId message))

/-- Any number of handlers. -/
def gateway : Machine Gateway GatewayPc GatewayCall DbReply GatewayEnv where
  start s call := startGateway ids s call
  step := gatewayStep ids verify
  env := gatewayEnv ids

end Handlers

abbrev GatewayPool := Pool Gateway GatewayPc

abbrev GatewayPoolEvent := Event GatewayCall DbReply GatewayEnv

end FoodDelivery
