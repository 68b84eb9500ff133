import FoodDelivery.Lib.Interleave
import FoodDelivery.Orders.Pricing

/-!
# Redeeming promo codes under concurrent orders

`createOrder` of `orders/orders.service.ts` with `validate` and `redeem`, and `update` of
`promo-codes/promo-codes.service.ts`, processes that take one database call at a time.  An order is
inserted with its discount before the code is redeemed, and a redemption that is refused or lost is
not unwound.  `save()` writes the paths that differ from the document it read.

The carts, the sellers, their items and their zones are answered by the outside, for each order
anew.  One clock reading stands for the check of `scheduledFor` and for that of `expiresAt`: what
passes the two passes both at the first.

* `promoOrderStep`: one database call.
* `promo_order_move`: all that one database call can do.
* `update_eq_ok_iff`: alone, the two calls of an update are `update` of the service.
* `usedCount_redeem`, `usedCount_save`: what the writes do to a count.
-/

namespace FoodDelivery

open Store Interleave

/-! ## The processes -/

/-- The promo codes with their sellers, and the orders. -/
structure PromoOrders where
  promo : PromoCodes
  orders : List CreatedOrder
  deriving DecidableEq

/-- What became of the redemption of an order. -/
inductive Redemption
  | noCode
  | redeemed (promoCodeId : PromoCodeId)
  /-- `modifiedCount` was 0. -/
  | refused (promoCodeId : PromoCodeId)
  /-- It never reached the collection. -/
  | lost (promoCodeId : PromoCodeId)
  deriving DecidableEq

inductive PromoOrderError
  | promo (error : PromoCodeError)
  | http (error : HttpError)
  | database (message : String)
  deriving DecidableEq

inductive PromoOrderPc
  | createOrder (userId : UserId) (dto : CreateOrderDto)
  | insert (order : CreatedOrder)
  | redeem (order : CreatedOrder) (promoCodeId : PromoCodeId)
  | clearCart (order : CreatedOrder) (redemption : Redemption)
  | returned (order : CreatedOrder) (redemption : Redemption)
  | findById (id : PromoCodeId) (dto : UpdatePromoCodeDto) (requester : AccessTokenPayload)
  | save (id : PromoCodeId) (promo saved : PromoCode)
  | updated
  /-- Thrown, with what became of the redemption of an order that is stored. -/
  | threw (error : PromoOrderError) (redemption : Redemption)
  deriving DecidableEq

/-- The requests of the two routes. -/
inductive PromoOrderCall
  | createOrder (userId : UserId) (dto : CreateOrderDto)
  | update (id : PromoCodeId) (dto : UpdatePromoCodeDto) (requester : AccessTokenPayload)

/-- What the outside answers: the cart as it is read once and again, what else an order is made
from, and how a write came back. -/
structure PromoOrderReply where
  haversineDistanceKm : Coordinates → Coordinates → ℚ≥0
  catalogue : Catalogue
  cart : Cart
  again : Cart
  db : DbReply

/-- What happens beside them. -/
inductive PromoOrderEnv
  | create (dto : CreatePromoCodeDto) (requester : AccessTokenPayload)
  | openRestaurant (ownerId : UserId)
  | openStore (ownerId : UserId)

/-- What `save()` leaves of one path of the stored document. -/
def writeModified {α : Type} [DecidableEq α] (read assigned stored : α) : α :=
  if assigned = read then stored else assigned

/-- What `save()` leaves of the stored document: `promo` was read and became `saved`. -/
def PromoCode.writeModified (promo saved stored : PromoCode) : PromoCode where
  code := FoodDelivery.writeModified promo.code saved.code stored.code
  discountType :=
    FoodDelivery.writeModified promo.discountType saved.discountType stored.discountType
  discountValue :=
    FoodDelivery.writeModified promo.discountValue saved.discountValue stored.discountValue
  minOrderAmount :=
    FoodDelivery.writeModified promo.minOrderAmount saved.minOrderAmount stored.minOrderAmount
  maxDiscountAmount := FoodDelivery.writeModified promo.maxDiscountAmount saved.maxDiscountAmount
    stored.maxDiscountAmount
  restaurantId :=
    FoodDelivery.writeModified promo.restaurantId saved.restaurantId stored.restaurantId
  storeId := FoodDelivery.writeModified promo.storeId saved.storeId stored.storeId
  expiresAt := FoodDelivery.writeModified promo.expiresAt saved.expiresAt stored.expiresAt
  isActive := FoodDelivery.writeModified promo.isActive saved.isActive stored.isActive
  usageLimit := FoodDelivery.writeModified promo.usageLimit saved.usageLimit stored.usageLimit
  usedCount := FoodDelivery.writeModified promo.usedCount saved.usedCount stored.usedCount

/-- The filter of `redeem`. -/
def PromoCode.underLimit (p : PromoCode) : Bool := p.usageLimit.all (p.usedCount < ·)

namespace PromoOrders

/-- No codes, no vendors and no orders. -/
def empty : PromoOrders := ⟨.empty, []⟩

def insert (s : PromoOrders) (order : CreatedOrder) : PromoOrders :=
  { s with orders := s.orders ++ [order] }

/-- The update of `redeem`. -/
def redeem (s : PromoOrders) (id : PromoCodeId) : PromoOrders :=
  { s with promo := { s.promo with codes := s.promo.codes.modify id PromoCode.redeem } }

/-- The update that `save()` sends. -/
def save (s : PromoOrders) (id : PromoCodeId) (promo saved : PromoCode) : PromoOrders :=
  { s with promo := { s.promo with
      codes := s.promo.codes.modify id (promo.writeModified saved) } }

/-- What `redeem` returns. -/
def redemption (s : PromoOrders) (id : PromoCodeId) : Redemption :=
  if (s.promo.codes.get id).any PromoCode.underLimit then .redeemed id else .refused id

end PromoOrders

/-- What `createOrder` does once the order is stored. -/
def afterInsert (order : CreatedOrder) : PromoOrderPc :=
  match order.redeemedPromoCodeId with
  | some id => .redeem order id
  | none => .clearCart order .noCode

/-- What is left of a redemption when `create` threw after the order was stored. -/
def lostRedemption (order : CreatedOrder) : Redemption :=
  match order.redeemedPromoCodeId with
  | some id => .lost id
  | none => .noCode

/-- What `update` does with the code that it found. -/
def afterFindPromo (s : PromoCodes) (id : PromoCodeId) (dto : UpdatePromoCodeDto)
    (requester : AccessTokenPayload) : Except PromoCodeError PromoOrderPc :=
  match s.codes.get id with
  | none => .error (.http (.notFound "Promo code not found"))
  | some promo =>
    match s.assertMayUpdate promo dto requester with
    | .error e => .error (.http e)
    | .ok _ =>
      match PromoCodes.assertAtMostOneSeller (dto.restaurantId.toOption.or promo.restaurantId)
        (dto.storeId.toOption.or promo.storeId) with
      | .error e => .error (.http e)
      | .ok _ =>
        match promo.assign dto with
        | none => .error .validation
        | some saved => .ok (.save id promo saved)

/-- One database call, and what the process does until its next one. -/
def promoOrderStep (s : PromoOrders) (pc : PromoOrderPc) (r : PromoOrderReply) :
    Option (PromoOrders × PromoOrderPc) :=
  match pc with
  | .createOrder userId dto =>
    match { r.catalogue with promoCodes := s.promo.codes }.createOrder r.haversineDistanceKm
      userId dto r.cart r.again with
    | .error e => some (s, .threw (.http e) .noCode)
    | .ok order => some (s, .insert order)
  | .insert order =>
    match r.db with
    | .ok => some (s.insert order, afterInsert order)
    | .threw true message => some (s.insert order, .threw (.database message)
        (lostRedemption order))
    | .threw false message => some (s, .threw (.database message) .noCode)
  | .redeem order id =>
    match r.db with
    | .ok => some (s.redeem id, .clearCart order (s.redemption id))
    | .threw true message => some (s.redeem id, .threw (.database message) (s.redemption id))
    | .threw false message => some (s, .threw (.database message) (.lost id))
  | .clearCart order redemption =>
    match r.db with
    | .ok => some (s, .returned order redemption)
    | .threw _ message => some (s, .threw (.database message) redemption)
  | .findById id dto requester =>
    match afterFindPromo s.promo id dto requester with
    | .error e => some (s, .threw (.promo e) .noCode)
    | .ok pc' => some (s, pc')
  | .save id promo saved =>
    if s.promo.taken saved.code id then some (s, .threw (.promo .duplicateKey) .noCode)
    else
      match r.db with
      | .ok => some (s.save id promo saved, .updated)
      | .threw true message =>
        some (s.save id promo saved, .threw (.database message) .noCode)
      | .threw false message => some (s, .threw (.database message) .noCode)
  | .returned _ _ => none
  | .updated => none
  | .threw _ _ => none

/-- The two routes, the second behind `@Roles('admin', 'restaurant_owner')`. -/
def startPromoOrder : PromoOrderCall → PromoOrderPc
  | .createOrder userId dto => .createOrder userId dto
  | .update id dto requester =>
    if requester.role = .admin ∨ requester.role = .restaurantOwner then
      .findById id dto requester
    else .threw (.http (.forbidden "You do not have permission to perform this action")) .noCode

def promoOrderEnv (s : PromoOrders) : PromoOrderEnv → Option PromoOrders
  | .create dto requester =>
    match PromoCodes.guarded requester (s.promo.create dto requester) with
    | .error _ => none
    | .ok promo => some { s with promo := promo }
  | .openRestaurant ownerId => some { s with promo := s.promo.step (.openRestaurant ownerId) }
  | .openStore ownerId => some { s with promo := s.promo.step (.openStore ownerId) }

/-- Any number of orders and updates. -/
def promoOrders :
    Machine PromoOrders PromoOrderPc PromoOrderCall PromoOrderReply PromoOrderEnv where
  start _ k := startPromoOrder k
  step := promoOrderStep
  env := promoOrderEnv

abbrev PromoOrderPool := Pool PromoOrders PromoOrderPc

abbrev PromoOrderEvent := Event PromoOrderCall PromoOrderReply PromoOrderEnv

/-! ## What is counted -/

namespace PromoOrders

/-- Orders that are stored with the discount of this code. -/
def discounted (s : PromoOrders) (id : PromoCodeId) : Nat :=
  s.orders.countP fun order => order.redeemedPromoCodeId = some id

def usedCount (s : PromoOrders) (id : PromoCodeId) : Nat :=
  ((s.promo.codes.get id).map (·.usedCount)).getD 0

end PromoOrders

namespace PromoOrderPc

def redemption : PromoOrderPc → Redemption
  | clearCart _ redemption => redemption
  | returned _ redemption => redemption
  | threw _ redemption => redemption
  | _ => .noCode

/-- The order is stored, and this code has still to be redeemed for it. -/
def redeeming (id : PromoCodeId) : PromoOrderPc → Bool
  | redeem _ i => i = id
  | _ => false

/-- This code was accepted for the order, and has still to be redeemed for it. -/
def racing (id : PromoCodeId) : PromoOrderPc → Bool
  | insert order => order.redeemedPromoCodeId = some id
  | redeem _ i => i = id
  | _ => false

def refused (id : PromoCodeId) (pc : PromoOrderPc) : Bool := pc.redemption = .refused id

def lost (id : PromoCodeId) (pc : PromoOrderPc) : Bool := pc.redemption = .lost id

/-- The order is stored, and this code has not been redeemed for it. -/
def unredeemed (id : PromoCodeId) (pc : PromoOrderPc) : Bool :=
  pc.redeeming id || (pc.refused id || pc.lost id)

/-- The call is over but for the cart, with this redemption. -/
def Over (outcome : Redemption) : PromoOrderPc → Prop
  | clearCart _ redemption => redemption = outcome
  | returned _ redemption => redemption = outcome
  | threw _ redemption => redemption = outcome
  | updated => outcome = .noCode
  | _ => False

/-- No order of the process is stored. -/
def Unstored : PromoOrderPc → Prop
  | createOrder _ _ => True
  | insert _ => True
  | findById _ _ _ => True
  | save _ _ _ => True
  | _ => False

/-- What is about to be saved has the count that was read. -/
def KeepsCount : PromoOrderPc → Prop
  | save _ promo saved => saved.usedCount = promo.usedCount
  | _ => True

end PromoOrderPc

/-! ## One database call -/

/-- What one database call does to the collections, and where it leaves the process. -/
inductive PromoOrderMove (s : PromoOrders) : PromoOrderPc → PromoOrders → PromoOrderPc → Prop
  | made (userId : UserId) (dto : CreateOrderDto) (order : CreatedOrder)
      (hcode : ∀ id, order.redeemedPromoCodeId = some id →
        (s.promo.codes.get id).any PromoCode.underLimit = true) :
      PromoOrderMove s (.createOrder userId dto) s (.insert order)
  | inserted (order : CreatedOrder) :
      PromoOrderMove s (.insert order) (s.insert order) (afterInsert order)
  | unheard (order : CreatedOrder) {pc' : PromoOrderPc} (hover : pc'.Over (lostRedemption order)) :
      PromoOrderMove s (.insert order) (s.insert order) pc'
  | redeemed (order : CreatedOrder) (id : PromoCodeId) {pc' : PromoOrderPc}
      (hover : pc'.Over (s.redemption id)) :
      PromoOrderMove s (.redeem order id) (s.redeem id) pc'
  | lost (order : CreatedOrder) (id : PromoCodeId) {pc' : PromoOrderPc}
      (hover : pc'.Over (.lost id)) :
      PromoOrderMove s (.redeem order id) s pc'
  | cleared (order : CreatedOrder) (redemption : Redemption) {pc' : PromoOrderPc}
      (hover : pc'.Over redemption) :
      PromoOrderMove s (.clearCart order redemption) s pc'
  | found (id : PromoCodeId) (dto : UpdatePromoCodeDto) (requester : AccessTokenPayload)
      (promo saved : PromoCode) (hassign : promo.assign dto = some saved) :
      PromoOrderMove s (.findById id dto requester) s (.save id promo saved)
  | saved (id : PromoCodeId) (promo saved : PromoCode) {pc' : PromoOrderPc}
      (hover : pc'.Over .noCode) :
      PromoOrderMove s (.save id promo saved) (s.save id promo saved) pc'
  | turnedDown {pc pc' : PromoOrderPc} (hpc : pc.Unstored) (hover : pc'.Over .noCode) :
      PromoOrderMove s pc s pc'

section Moves

variable {s s' : PromoOrders} {pc pc' : PromoOrderPc} {r : PromoOrderReply} {id : PromoCodeId}
  {order : CreatedOrder}

theorem underLimit_of_validate {c : Catalogue} {code : String} {seller : Seller} {subtotal : ℚ}
    {discountAmount : ℚ} (h : c.validate code seller subtotal = .valid id discountAmount) :
    (c.promoCodes.get id).any PromoCode.underLimit = true := by
  unfold Catalogue.validate at h
  split at h
  · cases h
  · rename_i i promo hfind
    have hget := (Collection.head?_find_eq_some.mp hfind).1
    unfold PromoCode.validate at h
    repeat' split at h
    all_goals cases h
    rename_i hlimit
    rw [hget, Option.any_some, PromoCode.underLimit]
    cases hl : promo.usageLimit with
    | none => rfl
    | some limit =>
      rw [hl, Option.any_some, decide_eq_true_eq] at hlimit
      exact decide_eq_true (Nat.lt_of_not_le hlimit)

/-- **The code of an order is under its limit when it is accepted.** -/
theorem underLimit_of_createOrder {c : Catalogue} {km : Coordinates → Coordinates → ℚ≥0}
    {userId : UserId} {dto : CreateOrderDto} {cart again : Cart}
    (h : c.createOrder km userId dto cart again = .ok order)
    (hid : order.redeemedPromoCodeId = some id) :
    (c.promoCodes.get id).any PromoCode.underLimit = true := by
  have hplaced : ∃ cart seller shop items,
      c.placeOrder km userId dto seller shop (Cart.subtotal cart) items = .ok order := by
    unfold Catalogue.createOrder at h
    split at h
    · obtain ⟨seller, shop, items, hp⟩ := placed_of_createStoreOrder h
      exact ⟨cart, seller, shop, items, hp⟩
    · obtain ⟨seller, shop, items, hp⟩ := placed_of_createRestaurantOrder h
      exact ⟨again, seller, shop, items, hp⟩
  obtain ⟨cart', seller, shop, items, hp⟩ := hplaced
  unfold Catalogue.placeOrder at hp
  split at hp
  · cases hp
  · dsimp only at hp
    split at hp
    · cases hp
    · rename_i discount redeemed hdiscount
      cases hp
      simp only at hid
      subst hid
      unfold Catalogue.discountOf at hdiscount
      split at hdiscount
      · cases hdiscount
      · split at hdiscount
        · cases hdiscount
        · rename_i hvalid
          cases hdiscount
          exact underLimit_of_validate hvalid

/-- **All that one database call can do.** -/
theorem promo_order_move (h : promoOrderStep s pc r = some (s', pc')) :
    PromoOrderMove s pc s' pc' := by
  cases pc with
  | createOrder userId dto =>
    simp only [promoOrderStep] at h
    split at h
    · cases h
      exact .turnedDown trivial rfl
    · rename_i order horder
      cases h
      exact .made userId dto order fun id hid => underLimit_of_createOrder horder hid
  | insert order =>
    simp only [promoOrderStep] at h
    split at h
    · cases h
      exact .inserted order
    · cases h
      exact .unheard order rfl
    · cases h
      exact .turnedDown trivial rfl
  | redeem order id =>
    simp only [promoOrderStep] at h
    split at h
    · cases h
      exact .redeemed order id rfl
    · cases h
      exact .redeemed order id rfl
    · cases h
      exact .lost order id rfl
  | clearCart order redemption =>
    simp only [promoOrderStep] at h
    split at h
    · cases h
      exact .cleared order redemption rfl
    · cases h
      exact .cleared order redemption rfl
  | findById id dto requester =>
    simp only [promoOrderStep] at h
    split at h
    · cases h
      exact .turnedDown trivial rfl
    · rename_i found hfound
      cases h
      unfold afterFindPromo at hfound
      repeat' split at hfound
      all_goals cases hfound
      rename_i hassign
      exact .found id dto requester _ _ hassign
  | save id promo saved =>
    simp only [promoOrderStep] at h
    split at h
    · cases h
      exact .turnedDown trivial rfl
    · split at h
      · cases h
        exact .saved id promo saved rfl
      · cases h
        exact .saved id promo saved rfl
      · cases h
        exact .turnedDown trivial rfl
  | returned order redemption => cases h
  | updated => cases h
  | threw error redemption => cases h

/-! ## Where a call leaves its process -/

namespace PromoOrderPc

variable {outcome : Redemption}

theorem Over.redemption (h : pc.Over outcome) : pc.redemption = outcome := by
  cases pc with
  | updated => exact h.symm
  | clearCart => exact h
  | returned => exact h
  | threw => exact h
  | _ => exact h.elim

theorem Over.racing (h : pc.Over outcome) (id : PromoCodeId) : pc.racing id = false := by
  cases pc with
  | insert => exact h.elim
  | redeem => exact h.elim
  | _ => rfl

theorem Over.redeeming (h : pc.Over outcome) (id : PromoCodeId) : pc.redeeming id = false := by
  cases pc with
  | redeem => exact h.elim
  | _ => rfl

theorem Over.keepsCount (h : pc.Over outcome) : pc.KeepsCount := by
  cases pc with
  | save => exact h.elim
  | _ => trivial

theorem Unstored.redemption (h : pc.Unstored) : pc.redemption = .noCode := by
  cases pc with
  | createOrder => rfl
  | insert => rfl
  | findById => rfl
  | save => rfl
  | _ => exact h.elim

theorem Unstored.redeeming (h : pc.Unstored) (id : PromoCodeId) : pc.redeeming id = false := by
  cases pc with
  | redeem => exact h.elim
  | _ => rfl

/-- What is counted of a process that is not about to redeem. -/
theorem unredeemed_of_redemption (h : pc.redeeming id = false) : pc.unredeemed id =
    (decide (pc.redemption = .refused id) || decide (pc.redemption = .lost id)) := by
  rw [unredeemed, h, Bool.false_or]
  rfl

theorem Over.unredeemed (h : pc.Over outcome) : pc.unredeemed id =
    (decide (outcome = .refused id) || decide (outcome = .lost id)) := by
  rw [unredeemed_of_redemption (h.redeeming id), h.redemption]

theorem Unstored.unredeemed (h : pc.Unstored) : pc.unredeemed id = false := by
  rw [unredeemed_of_redemption (h.redeeming id), h.redemption]
  rfl

end PromoOrderPc

theorem redeeming_afterInsert :
    (afterInsert order).redeeming id = decide (order.redeemedPromoCodeId = some id) := by
  unfold afterInsert
  split
  · rename_i i hi
    simp [PromoOrderPc.redeeming, hi]
  · rename_i hnone
    simp [PromoOrderPc.redeeming, hnone]

theorem redemption_afterInsert : (afterInsert order).redemption = .noCode := by
  unfold afterInsert
  split <;> rfl

theorem unredeemed_afterInsert :
    (afterInsert order).unredeemed id = decide (order.redeemedPromoCodeId = some id) := by
  rw [PromoOrderPc.unredeemed, PromoOrderPc.refused, PromoOrderPc.lost, redemption_afterInsert,
    redeeming_afterInsert]
  simp

theorem lostRedemption_eq_lost :
    lostRedemption order = .lost id ↔ order.redeemedPromoCodeId = some id := by
  unfold lostRedemption
  split
  · rename_i i hi
    simp [hi]
  · rename_i hnone
    simp [hnone]

theorem lostRedemption_ne_refused : lostRedemption order ≠ .refused id := by
  unfold lostRedemption
  split <;> rintro ⟨⟩

/-! ## What is written -/

theorem discounted_insert : (s.insert order).discounted id =
    s.discounted id + (decide (order.redeemedPromoCodeId = some id)).toNat := by
  simp only [PromoOrders.insert, PromoOrders.discounted, List.countP_append, List.countP_singleton]
  split <;> simp_all

theorem redemption_cases (i : PromoCodeId) :
    (s.redemption i = .redeemed i ∧
        ∃ p, s.promo.codes.get i = some p ∧ p.underLimit = true) ∨
      (s.redemption i = .refused i ∧
        ∀ p, s.promo.codes.get i = some p → p.underLimit = false) := by
  unfold PromoOrders.redemption
  cases hget : s.promo.codes.get i with
  | none => exact Or.inr ⟨rfl, by rintro p ⟨⟩⟩
  | some p =>
    rw [Option.any_some]
    cases hp : p.underLimit with
    | true => exact Or.inl ⟨rfl, p, rfl, hp⟩
    | false =>
      refine Or.inr ⟨rfl, ?_⟩
      rintro p' ⟨⟩
      exact hp

theorem redeem_eq (p : PromoCode) :
    p.redeem = if p.underLimit = true then { p with usedCount := p.usedCount + 1 } else p := rfl

theorem usedCount_redeem (i : PromoCodeId) : (s.redeem i).usedCount id =
    s.usedCount id + (decide (s.redemption i = .redeemed id)).toNat := by
  unfold PromoOrders.usedCount PromoOrders.redeem
  dsimp only
  rw [Collection.get_modify]
  by_cases hi : i = id
  · subst hi
    rw [if_pos rfl]
    rcases redemption_cases (s := s) i with ⟨hred, p, hget, hp⟩ | ⟨hred, hfull⟩
    · rw [hget, hred]
      simp [redeem_eq, hp]
    · rw [hred]
      cases hget : s.promo.codes.get i with
      | none => simp
      | some p => simp [redeem_eq, hfull p hget]
  · rw [if_neg hi]
    rcases redemption_cases (s := s) i with ⟨hred, _⟩ | ⟨hred, _⟩ <;> simp [hred, hi]

theorem discounted_redeem (i : PromoCodeId) : (s.redeem i).discounted id = s.discounted id := rfl

/-- **No update of a code touches its count.** -/
theorem usedCount_writeModified {promo saved stored : PromoCode}
    (h : saved.usedCount = promo.usedCount) :
    (promo.writeModified saved stored).usedCount = stored.usedCount := if_pos h

theorem usedCount_save {i : PromoCodeId} {promo saved : PromoCode}
    (h : saved.usedCount = promo.usedCount) : (s.save i promo saved).usedCount id =
      s.usedCount id := by
  unfold PromoOrders.usedCount PromoOrders.save
  dsimp only
  rw [Collection.get_modify]
  split
  · cases s.promo.codes.get id with
    | none => rfl
    | some p => exact usedCount_writeModified h
  · rfl

theorem usedCount_assign {promo saved : PromoCode} {dto : UpdatePromoCodeDto}
    (h : promo.assign dto = some saved) : saved.usedCount = promo.usedCount := by
  rw [(PromoCode.assign_eq_some h).2.2.2]

/-- On the document that was read, `save()` leaves what `update` of the service leaves. -/
theorem writeModified_self {promo saved : PromoCode} :
    promo.writeModified saved promo = saved := by
  have hpath : ∀ {α : Type} [DecidableEq α] (a b : α), writeModified a b a = b := by
    intro α _ a b
    unfold writeModified
    split
    · rename_i h
      exact h.symm
    · rfl
  simp only [PromoCode.writeModified, hpath]

/-- **Alone, the two calls are `update` of the service.** -/
theorem update_eq_ok_iff {i : PromoCodeId} {dto : UpdatePromoCodeDto}
    {requester : AccessTokenPayload} {t : PromoCodes} :
    s.promo.update i dto requester = .ok t ↔ ∃ promo saved,
      afterFindPromo s.promo i dto requester = .ok (.save i promo saved) ∧
        s.promo.taken saved.code i = false ∧ t = (s.save i promo saved).promo := by
  have hsave : ∀ {promo saved : PromoCode}, s.promo.codes.get i = some promo →
      (s.save i promo saved).promo =
        { s.promo with codes := s.promo.codes.modify i fun _ => saved } := by
    intro promo saved hget
    unfold PromoOrders.save
    dsimp only
    congr 1
    refine Collection.modify_congr fun p hp => ?_
    cases hget.symm.trans hp
    exact writeModified_self
  unfold PromoCodes.update afterFindPromo
  cases hget : s.promo.codes.get i with
  | none => exact iff_of_false (by rintro ⟨⟩) (by rintro ⟨_, _, ⟨⟩, _⟩)
  | some promo =>
    dsimp only
    cases s.promo.assertMayUpdate promo dto requester with
    | error e => exact iff_of_false (by rintro ⟨⟩) (by rintro ⟨_, _, ⟨⟩, _⟩)
    | ok =>
      dsimp only
      cases PromoCodes.assertAtMostOneSeller (dto.restaurantId.toOption.or promo.restaurantId)
        (dto.storeId.toOption.or promo.storeId) with
      | error e => exact iff_of_false (by rintro ⟨⟩) (by rintro ⟨_, _, ⟨⟩, _⟩)
      | ok =>
        unfold PromoCodes.save
        cases promo.assign dto with
        | none => exact iff_of_false (by rintro ⟨⟩) (by rintro ⟨_, _, ⟨⟩, _⟩)
        | some saved =>
          dsimp only
          constructor
          · intro h
            split at h
            · cases h
            · rename_i htaken
              cases h
              exact ⟨promo, saved, rfl, Bool.not_eq_true _ ▸ htaken, (hsave hget).symm⟩
          · rintro ⟨_, _, ⟨⟩, htaken, rfl⟩
            rw [htaken, hsave hget]
            rfl

/-- **What happens beside the processes** opens vendors or inserts a code. -/
theorem promoOrderEnv_cases {e : PromoOrderEnv} (h : promoOrderEnv s e = some s') :
    s'.orders = s.orders ∧ (s'.promo.codes = s.promo.codes ∨
      ∃ dto, s'.promo.codes = s.promo.codes.create (.created dto)) := by
  cases e with
  | create dto requester =>
    simp only [promoOrderEnv] at h
    split at h
    · cases h
    · rename_i promo hcreate
      cases h
      refine ⟨rfl, Or.inr ⟨dto, ?_⟩⟩
      unfold PromoCodes.guarded at hcreate
      split at hcreate
      · unfold PromoCodes.create at hcreate
        repeat' split at hcreate
        all_goals try cases hcreate
        unfold PromoCodes.insert at hcreate
        repeat' split at hcreate
        all_goals cases hcreate
        rfl
      · cases hcreate
  | openRestaurant ownerId =>
    cases h
    exact ⟨rfl, Or.inl rfl⟩
  | openStore ownerId =>
    cases h
    exact ⟨rfl, Or.inl rfl⟩

end Moves

end FoodDelivery
