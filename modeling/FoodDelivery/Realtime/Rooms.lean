import FoodDelivery.Realtime.Gateway

/-!
# Who is in a room

* `Gateway.Entitled`: what a user has to be to join a room.
* `Gateway.meantFor_of_entitled`: each event is sent to a room of users that it is meant for.
* `gatewayStep_sound`: what a handler does to the rooms and to the handlers beside it.
* `only_meant_receive`: who has received what, in every run.
-/

namespace FoodDelivery

open Store Interleave

namespace Gateway

/-! ## Rooms and events -/

/-- Whom a room is for. -/
def Entitled (ids : ObjectIds) (s : Gateway) (p : AccessTokenPayload) : Room → Prop
  | .order orderId => ∃ id o, ids.cast orderId = some id ∧ s.orders.get id = some o ∧
      (o.customerId = p.sub ∨ p.role = .admin)
  | .restaurant restaurantId => ∃ id ownerId, ids.cast restaurantId = some id ∧
      s.restaurants.get id = some ownerId ∧ (ownerId = p.sub ∨ p.role = .admin)
  | .store storeId => ∃ id ownerId, ids.cast storeId = some id ∧
      s.stores.get id = some ownerId ∧ (ownerId = p.sub ∨ p.role = .admin)
  | .user userId => ids.hex p.sub = userId
  | .vendorConversation vendorId => ids.hex p.sub = vendorId ∨ p.role = .admin

def ownerOf (s : Gateway) : Seller → Option UserId
  | .restaurant restaurantId => s.restaurants.get restaurantId
  | .store storeId => s.stores.get storeId

/-- Whom an event is for. -/
def MeantFor (ids : ObjectIds) (s : Gateway) (p : AccessTokenPayload) : GatewayEvent → Prop
  | .orderStatusChanged _ o => o.customerId = p.sub ∨ p.role = .admin
  | .orderUpdated _ o => s.ownerOf o.seller = some p.sub ∨ p.role = .admin
  | .notification userId _ => userId = p.sub
  | .vendorMessage vendorId _ => ids.hex p.sub = vendorId ∨ p.role = .admin
  | .riderLocation rider _ o _ _ => (o.customerId = p.sub ∨ p.role = .admin) ∧
      rider.role = .rider ∧ o.riderId = some rider.sub ∧ o.status ∈ activeDeliveryStatuses

/-- The order is the stored one, but for its rider and its status. -/
def Stored (s : Gateway) (orderId : OrderId) (o : GatewayOrder) : Prop :=
  ∃ stored, s.orders.get orderId = some stored ∧ stored.customerId = o.customerId

/-- What is sent to which room. -/
inductive Carries (ids : ObjectIds) (s : Gateway) : Room → GatewayEvent → Prop
  | statusChanged {id : OrderId} {o : GatewayOrder} (h : s.Stored id o) :
      Carries ids s (.order (ids.hex id)) (.orderStatusChanged id o)
  | updated {id : OrderId} {o : GatewayOrder} :
      Carries ids s (sellerRoom ids o.seller) (.orderUpdated id o)
  | notification {userId : UserId} {n : Nat} :
      Carries ids s (.user (ids.hex userId)) (.notification userId n)
  | vendorMessage {vendorId : String} {n : Nat} :
      Carries ids s (.vendorConversation vendorId) (.vendorMessage vendorId n)
  | location {rider : AccessTokenPayload} {id : OrderId} {o : GatewayOrder} {lat lng : ℚ}
      (h : s.Stored id o) (hrole : rider.role = .rider) (hrider : o.riderId = some rider.sub)
      (hactive : o.status ∈ activeDeliveryStatuses) :
      Carries ids s (.order (ids.hex id)) (.riderLocation rider id o lat lng)

/-- What never changes. -/
structure Later (s s' : Gateway) : Prop where
  user : ∀ i p, s.userOf i = some p → s'.userOf i = some p
  order : ∀ id o, s.orders.get id = some o → ∃ o', s'.orders.get id = some o' ∧
    o'.customerId = o.customerId
  restaurant : ∀ id ownerId, s.restaurants.get id = some ownerId →
    s'.restaurants.get id = some ownerId
  store : ∀ id ownerId, s.stores.get id = some ownerId → s'.stores.get id = some ownerId

/-- Every name that a socket has joined is that of a room it may be in, and what it received was
meant for its user. -/
structure Sound (ids : ObjectIds) (verify : String → Option AccessTokenPayload) (s : Gateway) :
    Prop where
  rooms : ∀ (i : Nat) (c : GatewaySocket), s.sockets[i]? = some c → ∀ name ∈ c.rooms,
    ∃ room p, name = room.name ∧ c.user = some p ∧ s.Entitled ids p room
  users : ∀ i p, s.userOf i = some p → ∃ token, verify token = some p
  received : ∀ d ∈ s.deliveries, ∃ p, s.userOf d.socket = some p ∧ s.MeantFor ids p d.event

/-- The token of the socket is still being verified. -/
def Unverified (s : Gateway) (i : Nat) : Prop :=
  ∃ c, s.sockets[i]? = some c ∧ c.user = none ∧ c.rooms = []

section Facts

variable {ids : ObjectIds} {verify : String → Option AccessTokenPayload} {s s' : Gateway}
  {p : AccessTokenPayload} {room : Room} {event : GatewayEvent} {i j : Nat}

theorem entitled_order {id : OrderId} (h : s.Entitled ids p (.order (ids.hex id)))
    {o : GatewayOrder} (ho : s.Stored id o) : o.customerId = p.sub ∨ p.role = .admin := by
  obtain ⟨id', o', hcast, hget, hp⟩ := h
  obtain ⟨stored, hstored, hcustomer⟩ := ho
  rw [ids.cast_hex] at hcast
  rw [← Option.some.inj hcast, hstored] at hget
  rw [← hcustomer, Option.some.inj hget]
  exact hp

/-- **Each event is sent to a room of users that it is meant for.** -/
theorem meantFor_of_entitled (hp : s.Entitled ids p room) (h : s.Carries ids room event) :
    s.MeantFor ids p event := by
  cases h with
  | statusChanged h => exact entitled_order hp h
  | @updated id o =>
    show s.ownerOf o.seller = some p.sub ∨ p.role = .admin
    cases hseller : o.seller with
    | restaurant restaurantId =>
      rw [hseller] at hp
      obtain ⟨id', ownerId, hcast, hget, howner | hadmin⟩ := hp
      · rw [ids.cast_hex] at hcast
        left
        rw [ownerOf, Option.some.inj hcast, hget, howner]
      · exact Or.inr hadmin
    | store storeId =>
      rw [hseller] at hp
      obtain ⟨id', ownerId, hcast, hget, howner | hadmin⟩ := hp
      · rw [ids.cast_hex] at hcast
        left
        rw [ownerOf, Option.some.inj hcast, hget, howner]
      · exact Or.inr hadmin
  | notification => exact (ids.hex_injective hp).symm
  | vendorMessage => exact hp
  | location h hrole hrider hactive => exact ⟨entitled_order hp h, hrole, hrider, hactive⟩

/-! ## What stays -/

theorem Later.refl (s : Gateway) : Later s s where
  user _ _ h := h
  order _ o h := ⟨o, h, rfl⟩
  restaurant _ _ h := h
  store _ _ h := h

theorem Later.trans {s'' : Gateway} (h : Later s s') (h' : Later s' s'') : Later s s'' where
  user i p hp := h'.user i p (h.user i p hp)
  order id o ho := by
    obtain ⟨o', ho', hcustomer⟩ := h.order id o ho
    obtain ⟨o'', ho'', hcustomer'⟩ := h'.order id o' ho'
    exact ⟨o'', ho'', hcustomer'.trans hcustomer⟩
  restaurant id ownerId hget := h'.restaurant id ownerId (h.restaurant id ownerId hget)
  store id ownerId hget := h'.store id ownerId (h.store id ownerId hget)

theorem Entitled.mono (h : s.Entitled ids p room) (hlater : Later s s') :
    s'.Entitled ids p room := by
  cases room with
  | order orderId =>
    obtain ⟨id, o, hcast, hget, hp⟩ := h
    obtain ⟨o', hget', hcustomer⟩ := hlater.order id o hget
    exact ⟨id, o', hcast, hget', by rw [hcustomer]; exact hp⟩
  | restaurant restaurantId =>
    obtain ⟨id, ownerId, hcast, hget, hp⟩ := h
    exact ⟨id, ownerId, hcast, hlater.restaurant id ownerId hget, hp⟩
  | store storeId =>
    obtain ⟨id, ownerId, hcast, hget, hp⟩ := h
    exact ⟨id, ownerId, hcast, hlater.store id ownerId hget, hp⟩
  | user userId => exact h
  | vendorConversation vendorId => exact h

theorem MeantFor.mono (h : s.MeantFor ids p event) (hlater : Later s s') :
    s'.MeantFor ids p event := by
  cases event with
  | orderStatusChanged id o => exact h
  | orderUpdated id o =>
    rcases h with h | h
    · left
      cases hseller : o.seller with
      | restaurant restaurantId =>
        rw [hseller] at h
        exact hlater.restaurant _ _ h
      | store storeId =>
        rw [hseller] at h
        exact hlater.store _ _ h
    · exact Or.inr h
  | notification userId n => exact h
  | vendorMessage vendorId n => exact h
  | riderLocation rider id o lat lng => exact h

theorem Stored.mono {id : OrderId} {o : GatewayOrder} (h : s.Stored id o)
    (hlater : Later s s') : s'.Stored id o := by
  obtain ⟨stored, hget, hcustomer⟩ := h
  obtain ⟨o', hget', hcustomer'⟩ := hlater.order id stored hget
  exact ⟨o', hget', hcustomer'.trans hcustomer⟩

theorem Carries.mono (h : s.Carries ids room event) (hlater : Later s s') :
    s'.Carries ids room event := by
  cases h with
  | statusChanged h => exact .statusChanged (h.mono hlater)
  | updated => exact .updated
  | notification => exact .notification
  | vendorMessage => exact .vendorMessage
  | location h hrole hrider hactive => exact .location (h.mono hlater) hrole hrider hactive

/-! ## What the gateway does -/

theorem getElem?_modifySocket (s : Gateway) (i j : Nat) (f : GatewaySocket → GatewaySocket) :
    (s.modifySocket i f).sockets[j]? =
      (s.sockets[j]?).map fun c => if i = j then f c else c := by
  simp only [modifySocket, List.getElem?_modify]
  rfl

theorem getElem?_open (s : Gateway) (c : GatewaySocket) (j : Nat) :
    (s.sockets ++ [c])[j]? = if j = s.sockets.length then some c else s.sockets[j]? := by
  by_cases hj : j = s.sockets.length
  · rw [if_pos hj, hj]
    simp
  · rw [if_neg hj, List.getElem?_append]
    split
    · rfl
    · rw [List.getElem?_eq_none (by simp; omega), List.getElem?_eq_none (by omega)]

/-- The same sockets and the same deliveries, over documents that stay what they are. -/
theorem Sound.of_later (h : Sound ids verify s) (hlater : Later s s')
    (hsockets : s'.sockets = s.sockets) (hdeliveries : s'.deliveries = s.deliveries) :
    Sound ids verify s' := by
  constructor
  · intro i c hc name hname
    rw [hsockets] at hc
    obtain ⟨room, p, hroom, hp, hentitled⟩ := h.rooms i c hc name hname
    exact ⟨room, p, hroom, hp, hentitled.mono hlater⟩
  · intro i p hp
    rw [userOf, hsockets] at hp
    exact h.users i p hp
  · intro d hd
    rw [hdeliveries] at hd
    obtain ⟨p, hp, hmeant⟩ := h.received d hd
    exact ⟨p, hlater.user _ p hp, hmeant.mono hlater⟩

theorem later_emit (s : Gateway) (room : Room) (event : GatewayEvent) :
    Later s (s.emit room event) where
  user _ _ h := h
  order _ o h := ⟨o, h, rfl⟩
  restaurant _ _ h := h
  store _ _ h := h

/-- Who is reached is in the room, under whatever name. -/
theorem Sound.emit (h : Sound ids verify s) (hcarries : s.Carries ids room event) :
    Sound ids verify (s.emit room event) := by
  refine ⟨h.rooms, h.users, ?_⟩
  intro d hd
  rcases List.mem_append.mp hd with hd | hd
  · exact h.received d hd
  · obtain ⟨i, hi, rfl⟩ := List.mem_map.mp hd
    have hany := (List.mem_filter.mp hi).2
    rw [Option.any_eq_true] at hany
    obtain ⟨c, hc, hmember⟩ := hany
    simp only [Bool.and_eq_true, decide_eq_true_eq] at hmember
    obtain ⟨room', p, hname, hp, hentitled⟩ := h.rooms i c hc _ hmember.2
    refine ⟨p, by rw [userOf]; show (s.sockets[i]?).bind _ = _; rw [hc]; exact hp, ?_⟩
    rw [Room.name_injective hname] at hcarries
    exact (meantFor_of_entitled hentitled hcarries).mono (later_emit s room event)

/-- A change to one socket that keeps its user. -/
theorem later_modifySocket {f : GatewaySocket → GatewaySocket}
    (hf : ∀ c, s.sockets[i]? = some c → ∀ p, c.user = some p → (f c).user = some p) :
    Later s (s.modifySocket i f) where
  user j p h := by
    obtain ⟨c, hc, hp⟩ := Option.bind_eq_some_iff.mp h
    rw [userOf, getElem?_modifySocket, hc]
    by_cases hij : i = j
    · subst hij
      simpa using hf c hc p hp
    · simpa [hij] using hp
  order _ o h := ⟨o, h, rfl⟩
  restaurant _ _ h := h
  store _ _ h := h

/-- A change to one socket, by what its new rooms and its new user are. -/
theorem Sound.modifySocket {f : GatewaySocket → GatewaySocket} (h : Sound ids verify s)
    (hlater : Later s (s.modifySocket i f))
    (hrooms : ∀ c, s.sockets[i]? = some c → ∀ name ∈ (f c).rooms, ∃ room p,
      name = room.name ∧ (f c).user = some p ∧ s.Entitled ids p room)
    (husers : ∀ c, s.sockets[i]? = some c → ∀ p, (f c).user = some p →
      ∃ token, verify token = some p) : Sound ids verify (s.modifySocket i f) := by
  constructor
  · intro j c hc name hname
    rw [getElem?_modifySocket] at hc
    obtain ⟨c₀, hc₀, rfl⟩ := Option.map_eq_some_iff.mp hc
    by_cases hij : i = j
    · subst hij
      rw [if_pos rfl] at hname ⊢
      obtain ⟨room, p, hroom, hp, hentitled⟩ := hrooms c₀ hc₀ name hname
      exact ⟨room, p, hroom, hp, hentitled.mono hlater⟩
    · rw [if_neg hij] at hname ⊢
      obtain ⟨room, p, hroom, hp, hentitled⟩ := h.rooms j c₀ hc₀ name hname
      exact ⟨room, p, hroom, hp, hentitled.mono hlater⟩
  · intro j p hp
    rw [userOf, getElem?_modifySocket] at hp
    obtain ⟨c, hc, hp⟩ := Option.bind_eq_some_iff.mp hp
    obtain ⟨c₀, hc₀, rfl⟩ := Option.map_eq_some_iff.mp hc
    by_cases hij : i = j
    · subst hij
      rw [if_pos rfl] at hp
      exact husers c₀ hc₀ p hp
    · rw [if_neg hij] at hp
      exact h.users j p (by rw [userOf, hc₀]; exact hp)
  · intro d hd
    obtain ⟨p, hp, hmeant⟩ := h.received d hd
    exact ⟨p, hlater.user _ p hp, hmeant.mono hlater⟩

/-- A socket that is being verified is left alone by what changes another one, or changes neither
users nor rooms. -/
theorem Unverified.modifySocket {f : GatewaySocket → GatewaySocket} (h : s.Unverified j)
    (hf : i = j → ∀ c, c.user = none → c.rooms = [] → (f c).user = none ∧ (f c).rooms = []) :
    (s.modifySocket i f).Unverified j := by
  obtain ⟨c, hc, huser, hrooms⟩ := h
  refine ⟨_, by rw [getElem?_modifySocket, hc]; rfl, ?_⟩
  by_cases hij : i = j
  · simpa [hij] using hf hij c huser hrooms
  · simpa [hij] using ⟨huser, hrooms⟩

theorem join_sound (h : Sound ids verify s) (hp : s.userOf i = some p)
    (hentitled : s.Entitled ids p room) :
    Sound ids verify (s.join i room) ∧ Later s (s.join i room) := by
  have hlater : Later s (s.join i room) := later_modifySocket fun _ _ _ hc => hc
  refine ⟨h.modifySocket hlater ?_ ?_, hlater⟩
  · intro c hc name hname
    have huser : c.user = some p := by
      rw [userOf, hc] at hp
      exact hp
    rcases List.mem_cons.mp hname with rfl | hname
    · exact ⟨room, p, rfl, huser, hentitled⟩
    · exact h.rooms i c hc name hname
  · intro c hc q hq
    exact h.users i q (by rw [userOf, hc]; exact hq)

theorem disconnect_sound (h : Sound ids verify s) (i : Nat) :
    Sound ids verify (s.disconnect i) ∧ Later s (s.disconnect i) ∧
      ∀ j, s.Unverified j → (s.disconnect i).Unverified j := by
  have hlater : Later s (s.disconnect i) := later_modifySocket fun _ _ _ hc => hc
  refine ⟨h.modifySocket hlater ?_ ?_, hlater, ?_⟩
  · intro c hc name hname
    exact h.rooms i c hc name hname
  · intro c hc p hp
    exact h.users i p (by rw [userOf, hc]; exact hp)
  · intro j hj
    exact hj.modifySocket fun _ _ huser hrooms => ⟨huser, hrooms⟩

/-- The user of a verified token joins its own room next. -/
theorem setUser_sound (h : Sound ids verify s) (hnew : s.Unverified i) {token : String}
    (htoken : verify token = some p) :
    Sound ids verify (s.setUser i p) ∧ Later s (s.setUser i p) ∧
      (s.setUser i p).userOf i = some p := by
  obtain ⟨c₀, hc₀, huser, hrooms⟩ := hnew
  have hlater : Later s (s.setUser i p) := by
    apply later_modifySocket
    intro c hc q hq
    rw [hc₀] at hc
    rw [← Option.some.inj hc, huser] at hq
    cases hq
  refine ⟨h.modifySocket hlater ?_ ?_, hlater, ?_⟩
  · intro c hc name hname
    rw [hc₀] at hc
    rw [← Option.some.inj hc] at hname
    have hnone : name ∈ c₀.rooms := hname
    simp [hrooms] at hnone
  · intro c hc q hq
    exact ⟨token, htoken.trans hq⟩
  · rw [userOf, setUser, getElem?_modifySocket, hc₀]
    simp

/-- A socket is opened beside the others. -/
theorem open_sound (h : Sound ids verify s) (connected : Bool) :
    Sound ids verify { s with sockets := s.sockets ++ [⟨connected, none, []⟩] } ∧
      Later s { s with sockets := s.sockets ++ [⟨connected, none, []⟩] } := by
  have hlater : Later s { s with sockets := s.sockets ++ [⟨connected, none, []⟩] } := by
    refine ⟨?_, fun _ o ho => ⟨o, ho, rfl⟩, fun _ _ ho => ho, fun _ _ ho => ho⟩
    intro i p hp
    obtain ⟨c, hc, hp⟩ := Option.bind_eq_some_iff.mp hp
    have hi := (List.getElem?_eq_some_iff.mp hc).1
    rw [userOf, getElem?_open, if_neg (Nat.ne_of_lt hi), hc]
    exact hp
  refine ⟨⟨?_, ?_, ?_⟩, hlater⟩
  · intro i c hc name hname
    rw [getElem?_open] at hc
    by_cases hi : i = s.sockets.length
    · rw [if_pos hi] at hc
      rw [← Option.some.inj hc] at hname
      cases hname
    · rw [if_neg hi] at hc
      obtain ⟨room, p, hroom, hp, hentitled⟩ := h.rooms i c hc name hname
      exact ⟨room, p, hroom, hp, hentitled.mono hlater⟩
  · intro i p hp
    rw [userOf, getElem?_open] at hp
    by_cases hi : i = s.sockets.length
    · rw [if_pos hi] at hp
      cases hp
    · rw [if_neg hi] at hp
      exact h.users i p hp
  · intro d hd
    obtain ⟨p, hp, hmeant⟩ := h.received d hd
    exact ⟨p, hlater.user _ p hp, hmeant.mono hlater⟩

theorem unverified_open (h : s.Unverified j) (connected : Bool) :
    Unverified { s with sockets := s.sockets ++ [⟨connected, none, []⟩] } j := by
  obtain ⟨c, hc, huser, hrooms⟩ := h
  have hj := (List.getElem?_eq_some_iff.mp hc).1
  exact ⟨c, by rw [getElem?_open, if_neg (Nat.ne_of_lt hj), hc], huser, hrooms⟩

theorem setLocation_frame (s : Gateway) (userId : UserId) (lat lng : ℚ) :
    Later s (s.setLocation userId lat lng) ∧ (s.setLocation userId lat lng).sockets = s.sockets ∧
      (s.setLocation userId lat lng).deliveries = s.deliveries := by
  unfold setLocation
  split
  · exact ⟨Later.refl s, rfl, rfl⟩
  · exact ⟨⟨fun _ _ h => h, fun _ o ho => ⟨o, ho, rfl⟩, fun _ _ ho => ho, fun _ _ ho => ho⟩, rfl,
      rfl⟩

/-- One emission after the other. -/
theorem emits_sound {α : Type} {room : α → Room} {event : α → GatewayEvent} (xs : List α) :
    ∀ {s : Gateway}, Sound ids verify s → (∀ x ∈ xs, s.Carries ids (room x) (event x)) →
      Sound ids verify (xs.foldl (fun s x => s.emit (room x) (event x)) s) ∧
        Later s (xs.foldl (fun s x => s.emit (room x) (event x)) s) ∧
        (xs.foldl (fun s x => s.emit (room x) (event x)) s).sockets = s.sockets := by
  induction xs with
  | nil =>
    intro s h _
    exact ⟨h, Later.refl s, rfl⟩
  | cons x xs ih =>
    intro s h hcarries
    have hlater := later_emit s (room x) (event x)
    obtain ⟨hsound, hlater', hsockets⟩ := ih (h.emit (hcarries x List.mem_cons_self))
      fun y hy => (hcarries y (List.mem_cons_of_mem _ hy)).mono hlater
    exact ⟨hsound, hlater.trans hlater', hsockets⟩

end Facts

end Gateway

/-! ## Handlers -/

namespace GatewayPc

/-- The handler is verifying the token of this socket. -/
def Verifying (i : Nat) : GatewayPc → Prop
  | verify socket _ => socket = i
  | _ => False

/-- What a handler has read. -/
def Sound (ids : ObjectIds) (s : Gateway) : GatewayPc → Prop
  | verify i _ => s.Unverified i
  | orderSubscribe i user _ => s.userOf i = some user
  | restaurantSubscribe i user _ => s.userOf i = some user
  | storeSubscribe i user _ => s.userOf i = some user
  | join i room => ∃ p, s.userOf i = some p ∧ s.Entitled ids p room
  | riderLocation user _ _ => user.role = .rider
  | findActive user _ _ => user.role = .rider
  | relay user orders _ _ => user.role = .rider ∧ ∀ x ∈ orders, s.Stored x.1 x.2 ∧
      x.2.riderId = some user.sub ∧ x.2.status ∈ activeDeliveryStatuses
  | _ => True

variable {ids : ObjectIds} {s s' : Gateway} {pc : GatewayPc}

theorem Sound.mono (h : pc.Sound ids s) (hlater : Gateway.Later s s')
    (hnew : ∀ i, pc.Verifying i → s.Unverified i → s'.Unverified i) : pc.Sound ids s' := by
  cases pc with
  | verify i token => exact hnew i rfl h
  | orderSubscribe i user orderId => exact hlater.user i user h
  | restaurantSubscribe i user restaurantId => exact hlater.user i user h
  | storeSubscribe i user storeId => exact hlater.user i user h
  | join i room =>
    obtain ⟨p, hp, hentitled⟩ := h
    exact ⟨p, hlater.user i p hp, hentitled.mono hlater⟩
  | relay user orders lat lng =>
    refine ⟨h.1, ?_⟩
    intro x hx
    obtain ⟨hstored, hrider, hactive⟩ := h.2 x hx
    exact ⟨hstored.mono hlater, hrider, hactive⟩
  | riderLocation user lat lng => exact h
  | findActive user lat lng => exact h
  | connect token => trivial
  | returned => trivial

end GatewayPc

/-- What one stretch of a handler leaves of the state and of the other handlers. -/
structure GatewayKept (ids : ObjectIds) (verify : String → Option AccessTokenPayload)
    (s : Gateway) (pc : GatewayPc) (s' : Gateway) (pc' : GatewayPc) : Prop where
  sound : s'.Sound ids verify
  next : pc'.Sound ids s'
  later : Gateway.Later s s'
  unverified : ∀ i, s.Unverified i → ¬ pc.Verifying i → s'.Unverified i
  verifying : ∀ i, pc'.Verifying i → i = s.sockets.length

section Steps

variable {ids : ObjectIds} {verify : String → Option AccessTokenPayload} {s s' : Gateway}
  {pc pc' : GatewayPc} {r : DbReply}

/-- The state stays, and the handler verifies nothing. -/
theorem GatewayKept.same (h : s.Sound ids verify) (hpc' : pc'.Sound ids s)
    (hverifying : ∀ i, ¬ pc'.Verifying i) : GatewayKept ids verify s pc s pc' :=
  ⟨h, hpc', Gateway.Later.refl s, fun _ hi _ => hi, fun i hi => absurd hi (hverifying i)⟩

/-- A subscription that was found to be the user's own. -/
theorem subscribeAs_kept (h : s.Sound ids verify) {owner : Option UserId}
    {user : AccessTokenPayload} {i : Nat} {room : Room} (huser : s.userOf i = some user)
    (hroom : ∀ ownerId, owner = some ownerId → ownerId = user.sub ∨ user.role = .admin →
      s.Entitled ids user room) :
    GatewayKept ids verify s pc s (subscribeAs owner user i room) := by
  cases howner : owner with
  | none => exact .same h trivial fun _ hi => hi
  | some ownerId =>
    rw [subscribeAs]
    by_cases hmay : ownerId ≠ user.sub ∧ user.role ≠ .admin
    · rw [if_pos hmay]
      exact .same h trivial fun _ hi => hi
    · rw [if_neg hmay]
      have hown : ownerId = user.sub ∨ user.role = .admin := by
        by_contra hnot
        exact hmay (not_or.mp hnot)
      exact .same h ⟨user, huser, hroom ownerId howner hown⟩ fun _ hi => hi

/-- **What a handler does to the rooms and to the handlers beside it.** -/
theorem gatewayStep_sound (h : s.Sound ids verify) (hpc : pc.Sound ids s)
    (hs : gatewayStep ids verify s pc r = some (s', pc')) :
    GatewayKept ids verify s pc s' pc' := by
  cases pc with
  | connect token =>
    obtain ⟨hopen, hlater⟩ := Gateway.open_sound h true
    simp only [gatewayStep] at hs
    split at hs
    · simp only [Option.some.injEq, Prod.mk.injEq] at hs
      obtain ⟨rfl, rfl⟩ := hs
      obtain ⟨hsound, hlater', hunverified⟩ := Gateway.disconnect_sound hopen s.sockets.length
      exact ⟨hsound, trivial, hlater.trans hlater',
        fun i hi _ => hunverified i (Gateway.unverified_open hi true), fun _ hi => hi.elim⟩
    · simp only [Option.some.injEq, Prod.mk.injEq] at hs
      obtain ⟨rfl, rfl⟩ := hs
      refine ⟨hopen, ⟨⟨true, none, []⟩, by rw [Gateway.getElem?_open, if_pos rfl], rfl, rfl⟩,
        hlater, fun i hi _ => Gateway.unverified_open hi true, ?_⟩
      intro i hi
      exact hi.symm
  | verify i token =>
    simp only [gatewayStep] at hs
    split at hs
    · simp only [Option.some.injEq, Prod.mk.injEq] at hs
      obtain ⟨rfl, rfl⟩ := hs
      obtain ⟨hsound, hlater, hunverified⟩ := Gateway.disconnect_sound h i
      exact ⟨hsound, trivial, hlater, fun j hj _ => hunverified j hj, fun _ hi => hi.elim⟩
    · rename_i payload htoken
      simp only [Option.some.injEq, Prod.mk.injEq] at hs
      obtain ⟨rfl, rfl⟩ := hs
      obtain ⟨hsound, hlater, huser⟩ := Gateway.setUser_sound h hpc htoken
      refine ⟨hsound, ⟨payload, huser, rfl⟩, hlater, ?_, fun _ hi => hi.elim⟩
      intro j hj hne
      exact hj.modifySocket fun hij => absurd hij hne
  | orderSubscribe i user orderId =>
    cases r with
    | threw written message =>
      simp only [gatewayStep, Option.some.injEq, Prod.mk.injEq] at hs
      obtain ⟨rfl, rfl⟩ := hs
      exact .same h trivial fun _ hi => hi
    | ok =>
      simp only [gatewayStep, Option.some.injEq, Prod.mk.injEq] at hs
      obtain ⟨rfl, rfl⟩ := hs
      apply subscribeAs_kept h hpc
      intro ownerId howner hown
      obtain ⟨o, ho, rfl⟩ := Option.map_eq_some_iff.mp howner
      obtain ⟨id, hcast, hget⟩ := Option.bind_eq_some_iff.mp ho
      exact ⟨id, o, hcast, hget, hown⟩
  | restaurantSubscribe i user restaurantId =>
    cases r with
    | threw written message =>
      simp only [gatewayStep, Option.some.injEq, Prod.mk.injEq] at hs
      obtain ⟨rfl, rfl⟩ := hs
      exact .same h trivial fun _ hi => hi
    | ok =>
      simp only [gatewayStep, Option.some.injEq, Prod.mk.injEq] at hs
      obtain ⟨rfl, rfl⟩ := hs
      apply subscribeAs_kept h hpc
      intro ownerId howner hown
      obtain ⟨id, hcast, hget⟩ := Option.bind_eq_some_iff.mp howner
      exact ⟨id, ownerId, hcast, hget, hown⟩
  | storeSubscribe i user storeId =>
    cases r with
    | threw written message =>
      simp only [gatewayStep, Option.some.injEq, Prod.mk.injEq] at hs
      obtain ⟨rfl, rfl⟩ := hs
      exact .same h trivial fun _ hi => hi
    | ok =>
      simp only [gatewayStep, Option.some.injEq, Prod.mk.injEq] at hs
      obtain ⟨rfl, rfl⟩ := hs
      apply subscribeAs_kept h hpc
      intro ownerId howner hown
      obtain ⟨id, hcast, hget⟩ := Option.bind_eq_some_iff.mp howner
      exact ⟨id, ownerId, hcast, hget, hown⟩
  | join i room =>
    simp only [gatewayStep, Option.some.injEq, Prod.mk.injEq] at hs
    obtain ⟨rfl, rfl⟩ := hs
    obtain ⟨p, hp, hentitled⟩ := hpc
    obtain ⟨hsound, hlater⟩ := Gateway.join_sound h hp hentitled
    refine ⟨hsound, trivial, hlater, ?_, fun _ hi => hi.elim⟩
    intro j hj _
    apply hj.modifySocket
    rintro rfl
    obtain ⟨c, hc, huser, -⟩ := hj
    rw [Gateway.userOf, hc] at hp
    exact absurd (huser.symm.trans hp) (by simp)
  | riderLocation user lat lng =>
    obtain ⟨hlater, hsockets, hdeliveries⟩ := Gateway.setLocation_frame s user.sub lat lng
    have hsound := h.of_later hlater hsockets hdeliveries
    have hkept (j : Nat) (hj : s.Unverified j) :
        (s.setLocation user.sub lat lng).Unverified j := by
      obtain ⟨c, hc, hnew⟩ := hj
      exact ⟨c, by rw [hsockets]; exact hc, hnew⟩
    cases r with
    | ok =>
      simp only [gatewayStep, DbReply.wrote_ok, if_true, Option.some.injEq, Prod.mk.injEq] at hs
      obtain ⟨rfl, rfl⟩ := hs
      exact ⟨hsound, hpc, hlater, fun j hj _ => hkept j hj, fun _ hi => hi.elim⟩
    | threw written message =>
      simp only [gatewayStep, DbReply.wrote_threw, Option.some.injEq, Prod.mk.injEq] at hs
      obtain ⟨rfl, rfl⟩ := hs
      cases written with
      | true => exact ⟨hsound, trivial, hlater, fun j hj _ => hkept j hj, fun _ hi => hi.elim⟩
      | false => exact .same h trivial fun _ hi => hi
  | findActive user lat lng =>
    cases r with
    | threw written message =>
      simp only [gatewayStep, Option.some.injEq, Prod.mk.injEq] at hs
      obtain ⟨rfl, rfl⟩ := hs
      exact .same h trivial fun _ hi => hi
    | ok =>
      simp only [gatewayStep, Option.some.injEq, Prod.mk.injEq] at hs
      obtain ⟨rfl, rfl⟩ := hs
      refine .same h ⟨hpc, ?_⟩ fun _ hi => hi
      intro x hx
      obtain ⟨hget, hactive⟩ := Collection.mem_find.mp hx
      simp only [Bool.and_eq_true, decide_eq_true_eq] at hactive
      exact ⟨⟨x.2, hget, rfl⟩, hactive⟩
  | relay user orders lat lng =>
    simp only [gatewayStep, Option.some.injEq, Prod.mk.injEq] at hs
    obtain ⟨rfl, rfl⟩ := hs
    obtain ⟨hsound, hlater, hsockets⟩ := Gateway.emits_sound orders h fun x hx =>
      Gateway.Carries.location (hpc.2 x hx).1 hpc.1 (hpc.2 x hx).2.1 (hpc.2 x hx).2.2
    refine ⟨hsound, trivial, hlater, ?_, fun _ hi => hi.elim⟩
    intro j hj _
    obtain ⟨c, hc, hnew⟩ := hj
    exact ⟨c, by rw [hsockets]; exact hc, hnew⟩
  | returned => cases hs

theorem startSubscribe_sound {socket : Nat} {id : Option String}
    {handler : AccessTokenPayload → String → GatewayPc}
    (h : ∀ user id, s.userOf socket = some user → (handler user id).Sound ids s) :
    (startSubscribe s socket id handler).Sound ids s := by
  unfold startSubscribe
  split
  · rename_i user id huser _
    exact h user id huser
  · trivial

theorem startGateway_sound (call : GatewayCall) : (startGateway ids s call).Sound ids s := by
  cases call with
  | connect token => trivial
  | orderSubscribe socket orderId => exact startSubscribe_sound fun _ _ huser => huser
  | restaurantSubscribe socket restaurantId => exact startSubscribe_sound fun _ _ huser => huser
  | storeSubscribe socket storeId => exact startSubscribe_sound fun _ _ huser => huser
  | vendorConversationSubscribe socket vendorId =>
    apply startSubscribe_sound
    intro user vendorId huser
    by_cases hmay : ids.hex user.sub ≠ vendorId ∧ user.role ≠ .admin
    · rw [if_pos hmay]
      trivial
    · rw [if_neg hmay]
      refine ⟨user, huser, ?_⟩
      by_contra hnot
      exact hmay (not_or.mp hnot)
  | locationUpdate socket lat lng =>
    simp only [startGateway]
    split
    · rename_i user lat lng _
      by_cases hrole : user.role ≠ .rider
      · rw [if_pos hrole]
        trivial
      · rw [if_neg hrole]
        exact not_not.mp hrole
    · trivial

theorem startSubscribe_verifying {socket i : Nat} {id : Option String}
    {handler : AccessTokenPayload → String → GatewayPc}
    (h : ∀ user id, ¬ (handler user id).Verifying i) :
    ¬ (startSubscribe s socket id handler).Verifying i := by
  unfold startSubscribe
  split
  · exact h _ _
  · exact fun hi => hi

/-- No handler starts with a token to verify. -/
theorem startGateway_verifying (call : GatewayCall) (i : Nat) :
    ¬ (startGateway ids s call).Verifying i := by
  cases call with
  | connect token => exact fun hi => hi
  | orderSubscribe socket orderId => exact startSubscribe_verifying fun _ _ hi => hi
  | restaurantSubscribe socket restaurantId => exact startSubscribe_verifying fun _ _ hi => hi
  | storeSubscribe socket storeId => exact startSubscribe_verifying fun _ _ hi => hi
  | vendorConversationSubscribe socket vendorId =>
    apply startSubscribe_verifying
    intro user vendorId
    split <;> exact fun hi => hi
  | locationUpdate socket lat lng =>
    simp only [startGateway]
    split
    · split <;> exact fun hi => hi
    · exact fun hi => hi

/-- What happens beside the handlers keeps the rooms. -/
theorem gatewayEnv_sound {e : GatewayEnv} (h : s.Sound ids verify)
    (hs : gatewayEnv ids s e = some s') :
    s'.Sound ids verify ∧ Gateway.Later s s' ∧ ∀ i, s.Unverified i → s'.Unverified i := by
  have hdocs {s' : Gateway} (hlater : Gateway.Later s s') (hsockets : s'.sockets = s.sockets)
      (hdeliveries : s'.deliveries = s.deliveries) :
      s'.Sound ids verify ∧ Gateway.Later s s' ∧ ∀ i, s.Unverified i → s'.Unverified i := by
    refine ⟨h.of_later hlater hsockets hdeliveries, hlater, ?_⟩
    intro i hi
    obtain ⟨c, hc, hnew⟩ := hi
    exact ⟨c, by rw [hsockets]; exact hc, hnew⟩
  have hemit {room : Room} {event : GatewayEvent} (hcarries : s.Carries ids room event) :
      (s.emit room event).Sound ids verify ∧ Gateway.Later s (s.emit room event) ∧
        ∀ i, s.Unverified i → (s.emit room event).Unverified i :=
    ⟨h.emit hcarries, Gateway.later_emit s room event, fun _ hi => hi⟩
  cases e with
  | disconnect socket =>
    rw [← Option.some.inj hs]
    exact Gateway.disconnect_sound h socket
  | createOrder customerId seller =>
    rw [← Option.some.inj hs]
    refine hdocs ⟨fun _ _ hp => hp, ?_, fun _ _ ho => ho, fun _ _ ho => ho⟩ rfl rfl
    intro id o ho
    exact ⟨o, Collection.get_create_of_get ho, rfl⟩
  | updateOrder orderId riderId status =>
    rw [← Option.some.inj hs]
    refine hdocs ⟨fun _ _ hp => hp, ?_, fun _ _ ho => ho, fun _ _ ho => ho⟩ rfl rfl
    intro id o ho
    refine ⟨if orderId = id then { o with riderId := riderId, status := status } else o, ?_, ?_⟩
    · rw [Collection.get_modify, ho]
      split <;> rfl
    · split <;> rfl
  | createRestaurant ownerId =>
    rw [← Option.some.inj hs]
    exact hdocs ⟨fun _ _ hp => hp, fun _ o ho => ⟨o, ho, rfl⟩,
      fun _ _ ho => Collection.get_create_of_get ho, fun _ _ ho => ho⟩ rfl rfl
  | createStore ownerId =>
    rw [← Option.some.inj hs]
    exact hdocs ⟨fun _ _ hp => hp, fun _ o ho => ⟨o, ho, rfl⟩, fun _ _ ho => ho,
      fun _ _ ho => Collection.get_create_of_get ho⟩ rfl rfl
  | createRider userId =>
    rw [← Option.some.inj hs]
    exact hdocs ⟨fun _ _ hp => hp, fun _ o ho => ⟨o, ho, rfl⟩, fun _ _ ho => ho,
      fun _ _ ho => ho⟩ rfl rfl
  | statusChanged orderId riderId status =>
    obtain ⟨o, ho, rfl⟩ := Option.map_eq_some_iff.mp hs
    have hstored : s.Stored orderId { o with riderId := riderId, status := status } := ⟨o, ho, rfl⟩
    have hfirst := hemit (.statusChanged hstored)
    exact ⟨hfirst.1.emit .updated, hfirst.2.1.trans (Gateway.later_emit _ _ _), hfirst.2.2⟩
  | notify userId notification =>
    rw [← Option.some.inj hs]
    exact hemit .notification
  | vendorMessage vendorId message =>
    rw [← Option.some.inj hs]
    exact hemit .vendorMessage

end Steps

/-! ## Every run -/

/-- Each socket is verified by one handler. -/
def gatewayOutline (ids : ObjectIds) (verify : String → Option AccessTokenPayload) :
    Outline Gateway GatewayPc where
  shared s := s.Sound ids verify
  proc s pc := pc.Sound ids s
  compat p q := ∀ i, p.Verifying i → ¬ q.Verifying i
  symm _ _ h i hq hp := h i hp hq

section Runs

variable {ids : ObjectIds} {verify : String → Option AccessTokenPayload} {s : GatewayPool}
  {ok : GatewayPool → GatewayPoolEvent → Prop}

theorem gateway_kept :
    (gatewayOutline ids verify).Kept (gateway ids verify) ok fun _ => True where
  spawn s call _ _ _ :=
    ⟨startGateway_sound call, fun _ _ i hi => absurd hi (startGateway_verifying call i)⟩
  run s i r p w p' _ _ h hp hs := by
    have hkept := gatewayStep_sound h.shared (h.at hp) hs
    refine ⟨hkept.sound, hkept.next, ?_⟩
    intro j q _ _ hq hcompat
    constructor
    · apply hq.mono hkept.later
      intro i hi hnew
      exact hkept.unverified i hnew fun hp => hcompat i hp hi
    · intro i hp' hqi
      -- a socket that has just been opened is not one that another handler knows
      have hlength := hkept.verifying i hp'
      cases q with
      | verify socket token =>
        obtain ⟨c, hc, -⟩ := hq
        have hlt := (List.getElem?_eq_some_iff.mp hc).1
        have hsocket : socket = i := hqi
        omega
      | _ => exact hqi
  env s e w _ _ h hw := by
    obtain ⟨hsound, hlater, hunverified⟩ := gatewayEnv_sound h.shared hw
    exact ⟨hsound, fun q hq => (h.procs q hq).mono hlater fun i _ hi => hunverified i hi⟩

/-- **Who has received what, in every run.**  A socket that an event has reached belongs to a user
that a verified token names, and the event was meant for that user: its own notification, an order
of its own or of its own restaurant or store, a message of its own conversation, the position of
the rider who had its order in an active delivery, or anything of these but a notification if the
token says admin. -/
theorem only_meant_receive (h : (gateway ids verify).Reach ok ⟨.empty, []⟩ s) :
    ∀ d ∈ s.shared.deliveries, ∃ p, s.shared.userOf d.socket = some p ∧
      (∃ token, verify token = some p) ∧ s.shared.MeantFor ids p d.event := by
  have hholds : (gatewayOutline ids verify).Holds s := by
    apply Outline.holds_of_reach gateway_kept (fun _ _ => trivial) _ h
    apply Outline.holds_nil
    constructor
    · intro i c hc
      simp [Gateway.empty] at hc
    · intro i p hp
      simp [Gateway.userOf, Gateway.empty] at hp
    · intro d hd
      simp [Gateway.empty] at hd
  intro d hd
  obtain ⟨p, hp, hmeant⟩ := hholds.shared.received d hd
  exact ⟨p, hp, hholds.shared.users _ p hp, hmeant⟩

end Runs

/-- Ids in decimal. -/
def decimalIds : ObjectIds where
  hex id := String.ofList (Nat.toDigits 10 id)
  cast s := if s.toList.all Char.isDigit then some (Nat.ofDigitChars 10 s.toList 0) else none
  cast_hex id := by
    have hdigits : (Nat.toDigits 10 id).all Char.isDigit = true := by
      rw [List.all_eq_true]
      intro c hc
      exact Nat.isDigit_of_mem_toDigits (by decide) (by decide) hc
    rw [String.toList_ofList, if_pos hdigits, Nat.ofDigitChars_toDigits (by decide) (by decide)]

/-- The tokens of a customer, a stranger and a rider. -/
def threeTokens (token : String) : Option AccessTokenPayload :=
  if token = "ada" then some ⟨1, .customer⟩
  else if token = "eve" then some ⟨2, .customer⟩
  else if token = "rob" then some ⟨3, .rider⟩
  else none

/-- The three connect, the first two ask for the order of the first, and the rider who has it moves. -/
def watchedDelivery : List GatewayPoolEvent :=
  [.env (.createOrder 1 (.restaurant 0)), .env (.updateOrder 0 (some 3) .pickedUp),
    .spawn (.connect (some "ada")), .run 0 .ok, .run 0 .ok, .run 0 .ok,
    .spawn (.connect (some "eve")), .run 1 .ok, .run 1 .ok, .run 1 .ok,
    .spawn (.connect (some "rob")), .run 2 .ok, .run 2 .ok, .run 2 .ok,
    .spawn (.orderSubscribe 0 (some "0")), .spawn (.orderSubscribe 1 (some "0")),
    .run 3 .ok, .run 3 .ok, .run 4 .ok,
    .spawn (.locationUpdate 2 (some 6) (some 3)), .run 5 .ok, .run 5 .ok, .run 5 .ok]

theorem only_meant_receive_watched : ∃ d : Delivery, ∃ s : Gateway, d.socket = 0 ∧
    ∃ p, s.userOf 0 = some p ∧ s.MeantFor decimalIds p d.event := by
  have hrun : ∃ s : GatewayPool,
      (gateway decimalIds threeTokens).Reach (fun _ _ => true = true) ⟨.empty, []⟩ s ∧
      decide (s.shared.deliveries.map (·.socket) = [0]) = true :=
    Machine.exists_reach_of_play (fun _ _ h => h) watchedDelivery (by decide +kernel)
  obtain ⟨s, hreach, hdeliveries⟩ := hrun
  obtain ⟨d, hd, hsocket⟩ : ∃ d ∈ s.shared.deliveries, d.socket = 0 := by
    have hmem : 0 ∈ s.shared.deliveries.map (·.socket) := by
      rw [of_decide_eq_true hdeliveries]
      exact List.mem_singleton.mpr rfl
    exact List.mem_map.mp hmem
  obtain ⟨p, hp, -, hmeant⟩ := only_meant_receive hreach d hd
  exact ⟨d, s.shared, hsocket, p, hsocket ▸ hp, hmeant⟩

end FoodDelivery
