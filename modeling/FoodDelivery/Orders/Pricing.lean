import FoodDelivery.Payments.Adapters
import FoodDelivery.PromoCodes.Authority
import FoodDelivery.Users.Addresses
import Mathlib.Data.NNRat.BigOperators

/-!
# What an order costs

`createOrder` with its two methods, `cart/cart.service.ts`'s subtotal, `delivery-zones`'
`calculateFee`, `orders/tax-resolver.ts` and the discount of a promo code.  Prices and fees are
exact rationals.  The distance between two places is taken as given: `haversineDistanceKm` is a
function to the non-negative rationals.

* `total_of_priceOrder`: a total is the sum of its parts, and is never clamped.
* `margin_of_priceOrder`: what the platform is left with, to the cent.
* `order_margin`: an order pays for its own payouts exactly when its discount is not above the
  platform's two fees.
* `own_code_at_a_loss`: a vendor's own code takes more off than that.
-/

namespace FoodDelivery

open Store

/-! ## Carts -/

abbrev ItemId := Nat

/-- `SelectedModifier`. -/
structure SelectedModifier where
  groupName : String
  optionName : String
  priceDelta : ℚ≥0
  deriving DecidableEq

/-- `CartItem`. -/
structure CartItem where
  menuItemId : Option ItemId
  productId : Option ItemId
  name : String
  price : ℚ≥0
  imageUrl : Option String
  qty : Nat
  selectedModifiers : List SelectedModifier
  notes : String
  deriving DecidableEq

/-- `CartResponse`, as far as orders read it. -/
structure Cart where
  sellerType : SellerType
  restaurantId : Option VendorId
  storeId : Option VendorId
  items : List CartItem
  deriving DecidableEq

def CartItem.modifiersTotal (item : CartItem) : ℚ≥0 :=
  (item.selectedModifiers.map (·.priceDelta)).sum

def Cart.subtotal (cart : Cart) : ℚ≥0 :=
  (cart.items.map fun item => (item.price + item.modifiersTotal) * (item.qty : ℚ≥0)).sum

/-! ## Delivery zones -/

structure Coordinates where
  lat : ℚ
  lng : ℚ
  deriving DecidableEq

structure DeliveryZone where
  seller : Seller
  maxDistanceKm : ℚ≥0
  baseFee : ℚ≥0
  perKmFee : ℚ≥0
  isActive : Bool
  deriving DecidableEq

/-- `FALLBACK_DELIVERY_FEE_RATE`. -/
def fallbackDeliveryFeeRate : ℚ := 1 / 10

/-- `calculateFee`. -/
def calculateFee (haversineDistanceKm : Coordinates → Coordinates → ℚ≥0)
    (zones : List DeliveryZone) (seller : Seller) (sellerCoords customerCoords : Option Coordinates)
    (subtotal : ℚ) : ℚ :=
  let fallback := round2 (subtotal * fallbackDeliveryFeeRate)
  match sellerCoords, customerCoords with
  | some a, some b =>
    let distanceKm := haversineDistanceKm a b
    let nearestFirst := (zones.filter fun z => z.seller = seller && z.isActive).mergeSort
      fun x y => x.maxDistanceKm ≤ y.maxDistanceKm
    match nearestFirst.find? fun z => distanceKm ≤ z.maxDistanceKm with
    | some zone => round2 (zone.baseFee + zone.perKmFee * distanceKm)
    | none => fallback
  | _, _ => fallback

/-! ## Tax -/

namespace TaxResolver

/-- `TAX_RATE_TABLE`. -/
def taxRateTable : String → Option ℚ
  | "NGN" => some (75 / 1000)
  | "GHS" => some (15 / 100)
  | "KES" => some (16 / 100)
  | "ZAR" => some (15 / 100)
  | "UGX" => some (18 / 100)
  | "GBP" => some (20 / 100)
  | _ => none

/-- On a currency in upper case, as the schemas store it. -/
def getRate (currency : String) : ℚ := (taxRateTable currency).getD 0

def calculate (taxableAmount : ℚ) (currency : String) : ℚ :=
  round2 (max 0 taxableAmount * getRate currency)

end TaxResolver

/-! ## The amounts of an order -/

/-- `SERVICE_FEE_RATE`. -/
def serviceFeeRate : ℚ := 5 / 100

/-- `PLATFORM_COMMISSION_RATE`. -/
def platformCommissionRate : ℚ := 15 / 100

structure OrderAmounts where
  subtotal : ℚ
  deliveryFee : ℚ
  serviceFee : ℚ
  tax : ℚ
  discount : ℚ
  total : ℚ
  platformFeeAmount : ℚ
  restaurantPayoutAmount : ℚ
  deriving DecidableEq

/-- What is paid for the order, net of tax, less what the payouts send to the seller and to the
rider. -/
def OrderAmounts.margin (a : OrderAmounts) : ℚ :=
  a.total - a.tax - (a.restaurantPayoutAmount + a.deliveryFee)

/-- What `createRestaurantOrder` and `createStoreOrder` work out from the subtotal on. -/
def priceOrder (subtotal deliveryFee discount : ℚ) (currency : String) : OrderAmounts :=
  let serviceFee := round2 (subtotal * serviceFeeRate)
  let platformFeeAmount := round2 (subtotal * platformCommissionRate)
  -- after the discount, on what is charged
  let tax := TaxResolver.calculate (subtotal + deliveryFee + serviceFee - discount) currency
  { subtotal := subtotal
    deliveryFee := deliveryFee
    serviceFee := serviceFee
    tax := tax
    discount := discount
    total := max 0 (round2 (subtotal + deliveryFee + serviceFee + tax - discount))
    platformFeeAmount := platformFeeAmount
    -- before the discount
    restaurantPayoutAmount := round2 (subtotal - platformFeeAmount) }

/-! ## The two methods -/

/-- What orders read of a restaurant or a store. -/
structure SellerSnapshot where
  isApproved : Bool
  isOpen : Bool
  currency : String
  coords : Option Coordinates
  deriving DecidableEq

/-- What orders read of a menu item; of a product they read its stock, too. -/
structure MenuItemSnapshot where
  isAvailable : Bool
  costPrice : Option ℚ≥0
  deriving DecidableEq

structure ProductSnapshot where
  isAvailable : Bool
  costPrice : Option ℚ≥0
  stockQuantity : Option Nat
  deriving DecidableEq

/-- The collections that order creation reads, the clock, and what `toUpperCase().trim()` makes of
a text. -/
structure Catalogue where
  shops : Seller → Option SellerSnapshot
  menuItems : ItemId → Option MenuItemSnapshot
  products : ItemId → Option ProductSnapshot
  zones : List DeliveryZone
  promoCodes : Collection PromoCode
  now : Time
  toUpperCaseTrim : String → String

/-- `CreateOrderDto`. -/
structure CreateOrderDto where
  deliveryCoords : Option Coordinates
  deliveryInstructions : Option String
  scheduledFor : Option Time
  promoCode : Option String
  deriving DecidableEq

/-- An item as it is stored with an order. -/
structure OrderItem where
  menuItemId : Option ItemId
  productId : Option ItemId
  name : String
  price : ℚ≥0
  costPrice : Option ℚ≥0
  imageUrl : Option String
  qty : Nat
  selectedModifiers : List SelectedModifier
  notes : String
  deriving DecidableEq

/-- The order that is created, and the promo code that is redeemed with it. -/
structure CreatedOrder where
  customerId : UserId
  seller : Seller
  items : List OrderItem
  amounts : OrderAmounts
  currency : String
  paymentProvider : PaymentProvider
  deliveryInstructions : String
  scheduledFor : Option Time
  promoCode : Option String
  redeemedPromoCodeId : Option PromoCodeId
  deriving DecidableEq

namespace Catalogue

/-- `validate` of `PromoCodesService`. -/
def validate (c : Catalogue) (code : String) (seller : Seller) (subtotal : ℚ) :
    PromoCodeValidation :=
  match (c.promoCodes.find fun _ p => p.code = c.toUpperCaseTrim code).head? with
  | none => .invalid "Invalid promo code" none
  | some (id, promo) => promo.validate id c.now seller subtotal

/-- The discount of an order and the code that gives it, or why there is none.  An empty code is
none. -/
def discountOf (c : Catalogue) (promoCode : Option String) (seller : Seller) (subtotal : ℚ) :
    Except String (ℚ × Option PromoCodeId) :=
  match promoCode.filter (· ≠ "") with
  | none => .ok (0, none)
  | some code =>
    match c.validate code seller subtotal with
    | .invalid reason _ => .error reason
    | .valid promoCodeId discountAmount => .ok (round2 discountAmount, some promoCodeId)

/-- What both methods do once the items have been checked. -/
def placeOrder (haversineDistanceKm : Coordinates → Coordinates → ℚ≥0) (c : Catalogue)
    (userId : UserId) (dto : CreateOrderDto) (seller : Seller) (shop : SellerSnapshot)
    (subtotal : ℚ) (items : List OrderItem) : Except HttpError CreatedOrder :=
  if dto.scheduledFor.any (· ≤ c.now) then
    .error (.badRequest "Scheduled delivery time must be in the future")
  else
    let deliveryFee :=
      calculateFee haversineDistanceKm c.zones seller shop.coords dto.deliveryCoords subtotal
    match c.discountOf dto.promoCode seller subtotal with
    | .error reason => .error (.badRequest reason)
    | .ok (discount, redeemedPromoCodeId) => .ok {
        customerId := userId
        seller := seller
        items := items
        amounts := priceOrder subtotal deliveryFee discount shop.currency
        currency := shop.currency
        paymentProvider := resolveDefaultProvider shop.currency
        deliveryInstructions := (dto.deliveryInstructions.map UsersService.trim).getD ""
        scheduledFor := dto.scheduledFor
        promoCode := dto.promoCode
        redeemedPromoCodeId := redeemedPromoCodeId }

/-- A menu item that can be ordered. -/
def menuItemAvailable (c : Catalogue) (item : CartItem) : Bool :=
  (item.menuItemId.bind c.menuItems).any (·.isAvailable)

/-- What the search for a line that cannot be ordered ends in.  A line without a menu item throws as
soon as there is an item to compare it with. -/
def menuItemError (c : Catalogue) (items : List CartItem) (unavailable : CartItem) : HttpError :=
  if unavailable.menuItemId.isNone && items.any fun item =>
      (item.menuItemId.bind c.menuItems).isSome then
    .typeError "Cannot read properties of null (reading 'toString')"
  else
    .badRequest s!"\"{unavailable.name}\" is no longer available — please review your cart"

/-- A product that can be ordered in this quantity. -/
def productAvailable (c : Catalogue) (item : CartItem) : Bool :=
  (item.productId.bind c.products).any fun product =>
    product.isAvailable && product.stockQuantity.all (item.qty ≤ ·)

def createRestaurantOrder (haversineDistanceKm : Coordinates → Coordinates → ℚ≥0) (c : Catalogue)
    (userId : UserId) (dto : CreateOrderDto) (cart : Cart) : Except HttpError CreatedOrder :=
  match cart.restaurantId, cart.items with
  | none, _ => .error (.badRequest "Your cart is empty")
  | some _, [] => .error (.badRequest "Your cart is empty")
  | some restaurantId, _ :: _ =>
    match c.shops (.restaurant restaurantId) with
    | none => .error (.notFound "Restaurant not found")
    | some restaurant =>
      if !restaurant.isApproved || !restaurant.isOpen then
        .error (.badRequest
          "This restaurant is no longer accepting orders — please review your cart")
      else
        match cart.items.find? fun item => !c.menuItemAvailable item with
        | some unavailable => .error (c.menuItemError cart.items unavailable)
        | none => c.placeOrder haversineDistanceKm userId dto (.restaurant restaurantId) restaurant
            cart.subtotal (cart.items.map fun item => {
              menuItemId := item.menuItemId
              productId := none
              name := item.name
              price := item.price
              costPrice := (item.menuItemId.bind c.menuItems).bind (·.costPrice)
              imageUrl := item.imageUrl
              qty := item.qty
              selectedModifiers := item.selectedModifiers
              notes := item.notes })

def createStoreOrder (haversineDistanceKm : Coordinates → Coordinates → ℚ≥0) (c : Catalogue)
    (userId : UserId) (dto : CreateOrderDto) (cart : Cart) : Except HttpError CreatedOrder :=
  match cart.storeId, cart.items with
  | none, _ => .error (.badRequest "Your cart is empty")
  | some _, [] => .error (.badRequest "Your cart is empty")
  | some storeId, _ :: _ =>
    match c.shops (.store storeId) with
    | none => .error (.notFound "Store not found")
    | some store =>
      if !store.isApproved || !store.isOpen then
        .error (.badRequest "This store is no longer accepting orders — please review your cart")
      else
        match cart.items.find? fun item => !c.productAvailable item with
        | some unavailable => .error (.badRequest (s!"\"{unavailable.name}\" is no longer " ++
            "available in the quantity requested — please review your cart"))
        | none => c.placeOrder haversineDistanceKm userId dto (.store storeId) store
            cart.subtotal (cart.items.map fun item => {
              menuItemId := none
              productId := item.productId
              name := item.name
              price := item.price
              costPrice := (item.productId.bind c.products).bind (·.costPrice)
              imageUrl := item.imageUrl
              qty := item.qty
              selectedModifiers := []
              notes := item.notes })

/-- The restaurants' method reads the cart a second time, as `again`. -/
def createOrder (haversineDistanceKm : Coordinates → Coordinates → ℚ≥0) (c : Catalogue)
    (userId : UserId) (dto : CreateOrderDto) (cart again : Cart) : Except HttpError CreatedOrder :=
  match cart.sellerType with
  | .store => c.createStoreOrder haversineDistanceKm userId dto cart
  | .restaurant => c.createRestaurantOrder haversineDistanceKm userId dto again

end Catalogue

section Amounts

variable {subtotal deliveryFee discount : ℚ} {currency : String}

/-! ## What is left of the amounts -/

theorem serviceFee_nonneg (hsub : 0 ≤ subtotal) :
    0 ≤ (priceOrder subtotal deliveryFee discount currency).serviceFee :=
  round2_nonneg (mul_nonneg hsub (by norm_num [serviceFeeRate]))

theorem TaxResolver.getRate_nonneg (currency : String) : 0 ≤ TaxResolver.getRate currency := by
  unfold TaxResolver.getRate TaxResolver.taxRateTable
  split <;> norm_num

theorem TaxResolver.calculate_nonneg (amount : ℚ) (currency : String) :
    0 ≤ TaxResolver.calculate amount currency :=
  round2_nonneg (mul_nonneg (le_max_left 0 amount) (TaxResolver.getRate_nonneg currency))

theorem TaxResolver.isCents_calculate (amount : ℚ) (currency : String) :
    IsCents (TaxResolver.calculate amount currency) :=
  isCents_round2 _

/-- **The seller's share and the commission make up the subtotal.** -/
theorem payout_add_commission :
    (priceOrder subtotal deliveryFee discount currency).restaurantPayoutAmount +
      (priceOrder subtotal deliveryFee discount currency).platformFeeAmount = round2 subtotal := by
  show round2 (subtotal - round2 (subtotal * platformCommissionRate)) +
    round2 (subtotal * platformCommissionRate) = _
  rw [← round2_add_of_isCents _ (isCents_round2 _), sub_add_cancel]

/-- **A total is the sum of its parts**: rounding moves the subtotal only, and a discount of no more
than the subtotal never has the total clamped. -/
theorem total_of_priceOrder (hsub : 0 ≤ subtotal) (hfee : 0 ≤ deliveryFee)
    (hfeeCents : IsCents deliveryFee) (hdiscountCents : IsCents discount)
    (hdiscount : discount ≤ round2 subtotal) :
    (priceOrder subtotal deliveryFee discount currency).total = round2 subtotal + deliveryFee +
      (priceOrder subtotal deliveryFee discount currency).serviceFee +
      (priceOrder subtotal deliveryFee discount currency).tax - discount := by
  set serviceFee := (priceOrder subtotal deliveryFee discount currency).serviceFee with hservice
  set tax := (priceOrder subtotal deliveryFee discount currency).tax with htax
  have hservice0 : 0 ≤ serviceFee := serviceFee_nonneg hsub
  have htax0 : 0 ≤ tax := TaxResolver.calculate_nonneg _ _
  have hcents : IsCents (deliveryFee + serviceFee + tax - discount) :=
    ((hfeeCents.add (isCents_round2 _)).add (TaxResolver.isCents_calculate _ _)).sub hdiscountCents
  have hround : round2 (subtotal + deliveryFee + serviceFee + tax - discount) =
      round2 subtotal + (deliveryFee + serviceFee + tax - discount) := by
    rw [← round2_add_of_isCents _ hcents]
    congr 1
    ring
  show max 0 (round2 (subtotal + deliveryFee + serviceFee + tax - discount)) = _
  rw [hround, max_eq_right (by linarith)]
  ring

/-- **What the platform keeps of an order, to the cent**: its two fees less the discount. -/
theorem margin_of_priceOrder (hsub : 0 ≤ subtotal) (hfee : 0 ≤ deliveryFee)
    (hfeeCents : IsCents deliveryFee) (hdiscountCents : IsCents discount)
    (hdiscount : discount ≤ round2 subtotal) :
    (priceOrder subtotal deliveryFee discount currency).margin =
      (priceOrder subtotal deliveryFee discount currency).serviceFee +
      (priceOrder subtotal deliveryFee discount currency).platformFeeAmount - discount := by
  have htotal : (priceOrder subtotal deliveryFee discount currency).total = _ :=
    total_of_priceOrder hsub hfee hfeeCents hdiscountCents hdiscount
  have hshare :
      (priceOrder subtotal deliveryFee discount currency).restaurantPayoutAmount + _ = _ :=
    payout_add_commission
  show _ - _ - (_ + deliveryFee) = _
  linarith

end Amounts

section Orders

variable {km : Coordinates → Coordinates → ℚ≥0} {c : Catalogue} {userId : UserId}
  {dto : CreateOrderDto} {cart : Cart} {order : CreatedOrder} {seller : Seller} {subtotal : ℚ}

/-! ## Fees and discounts -/

theorem calculateFee_bounds (zones : List DeliveryZone) (seller : Seller)
    (sellerCoords customerCoords : Option Coordinates) (hsub : 0 ≤ subtotal) :
    0 ≤ calculateFee km zones seller sellerCoords customerCoords subtotal ∧
      IsCents (calculateFee km zones seller sellerCoords customerCoords subtotal) := by
  have hfallback : 0 ≤ round2 (subtotal * fallbackDeliveryFeeRate) ∧
      IsCents (round2 (subtotal * fallbackDeliveryFeeRate)) :=
    ⟨round2_nonneg (mul_nonneg hsub (by norm_num [fallbackDeliveryFeeRate])), isCents_round2 _⟩
  unfold calculateFee
  split
  · dsimp only
    split
    · exact ⟨round2_nonneg (by positivity), isCents_round2 _⟩
    · exact hfallback
  · exact hfallback

/-- **A discount** is none at all or the rounded one of a code. -/
theorem discountOf_cases {promoCode : Option String} {discount : ℚ}
    {redeemed : Option PromoCodeId}
    (h : c.discountOf promoCode seller subtotal = .ok (discount, redeemed)) :
    discount = 0 ∨ ∃ promo : PromoCode, discount = round2 (promo.discountAmount subtotal) := by
  unfold Catalogue.discountOf at h
  split at h
  · cases h
    exact Or.inl rfl
  · split at h
    · cases h
    · next amount hvalid =>
      cases h
      unfold Catalogue.validate at hvalid
      split at hvalid
      · cases hvalid
      · next promo _ =>
        exact Or.inr ⟨promo, by rw [PromoCode.discountAmount_of_validate hvalid]⟩

theorem discountOf_bounds {promoCode : Option String} {discount : ℚ}
    {redeemed : Option PromoCodeId} (hsub : 0 ≤ subtotal)
    (h : c.discountOf promoCode seller subtotal = .ok (discount, redeemed)) :
    IsCents discount ∧ discount ≤ round2 subtotal := by
  rcases discountOf_cases h with rfl | ⟨promo, rfl⟩
  · exact ⟨⟨0, by norm_num⟩, round2_nonneg hsub⟩
  · exact ⟨isCents_round2 _, round2_mono (promo.discountAmount_bounds hsub).2⟩

/-! ## Every order -/

/-- **What is placed**: the items as they are, for the seller, priced by `priceOrder`. -/
theorem placeOrder_eq_ok {shop : SellerSnapshot} {items : List OrderItem}
    (h : c.placeOrder km userId dto seller shop subtotal items = .ok order) :
    order.seller = seller ∧ order.items = items ∧ ∃ discount redeemed,
      c.discountOf dto.promoCode seller subtotal = .ok (discount, redeemed) ∧
        order.amounts = priceOrder subtotal
          (calculateFee km c.zones seller shop.coords dto.deliveryCoords subtotal) discount
          order.currency := by
  unfold Catalogue.placeOrder at h
  split at h
  · cases h
  · dsimp only at h
    split at h
    · cases h
    · next discount redeemed hdiscount =>
      cases h
      exact ⟨rfl, rfl, discount, redeemed, hdiscount, rfl⟩

theorem margin_of_placeOrder {shop : SellerSnapshot} {items : List OrderItem} (hsub : 0 ≤ subtotal)
    (h : c.placeOrder km userId dto seller shop subtotal items = .ok order) :
    order.amounts.margin =
      order.amounts.serviceFee + order.amounts.platformFeeAmount - order.amounts.discount := by
  obtain ⟨_, _, discount, redeemed, hdiscount, hamounts⟩ := placeOrder_eq_ok h
  obtain ⟨hcents, hle⟩ := discountOf_bounds hsub hdiscount
  have hbounds : 0 ≤ calculateFee km c.zones seller shop.coords dto.deliveryCoords _ ∧ _ :=
    calculateFee_bounds c.zones seller shop.coords dto.deliveryCoords hsub
  obtain ⟨hfee, hfeeCents⟩ := hbounds
  rw [hamounts]
  exact margin_of_priceOrder hsub hfee hfeeCents hcents hle

theorem placed_of_createRestaurantOrder
    (h : c.createRestaurantOrder km userId dto cart = .ok order) :
    ∃ seller shop items, c.placeOrder km userId dto seller shop cart.subtotal items =
      .ok order := by
  unfold Catalogue.createRestaurantOrder at h
  repeat' split at h
  all_goals first
    | exact ⟨_, _, _, h⟩
    | cases h

theorem placed_of_createStoreOrder (h : c.createStoreOrder km userId dto cart = .ok order) :
    ∃ seller shop items, c.placeOrder km userId dto seller shop cart.subtotal items =
      .ok order := by
  unfold Catalogue.createStoreOrder at h
  repeat' split at h
  all_goals first
    | exact ⟨_, _, _, h⟩
    | cases h

/-- **What the platform keeps of an order is its two fees less the discount**, so an order pays for
its payouts exactly when the discount is no more than those. -/
theorem order_margin (h : c.createRestaurantOrder km userId dto cart = .ok order ∨
    c.createStoreOrder km userId dto cart = .ok order) :
    order.amounts.margin =
        order.amounts.serviceFee + order.amounts.platformFeeAmount - order.amounts.discount ∧
      (order.amounts.restaurantPayoutAmount + order.amounts.deliveryFee ≤
          order.amounts.total - order.amounts.tax ↔
        order.amounts.discount ≤ order.amounts.serviceFee + order.amounts.platformFeeAmount) := by
  have hmargin : order.amounts.margin =
      order.amounts.serviceFee + order.amounts.platformFeeAmount - order.amounts.discount := by
    obtain ⟨seller, shop, items, hplaced⟩ :=
      h.elim placed_of_createRestaurantOrder placed_of_createStoreOrder
    exact margin_of_placeOrder cart.subtotal.2 hplaced
  refine ⟨hmargin, ?_⟩
  unfold OrderAmounts.margin at hmargin
  constructor <;> intro hle <;> linarith

end Orders

/-- A dish of 1000, in one portion. -/
def lunchCart : Cart :=
  ⟨.restaurant, some 0, none, [⟨some 0, none, "Jollof", 1000, none, 1, [], ""⟩]⟩

/-- One restaurant, one dish and these codes. -/
def lunchCatalogue (promoCodes : Collection PromoCode) : Catalogue where
  shops := fun _ => some ⟨true, true, "NGN", none⟩
  menuItems := fun _ => some ⟨true, none⟩
  products := fun _ => none
  zones := []
  promoCodes := promoCodes
  now := 0
  toUpperCaseTrim := id

/-- A vendor's code for the vendor's own restaurant: the whole subtotal off. -/
def ownCode : CreatePromoCodeDto :=
  ⟨"FREE", .percentage, 100, .absent, .absent, .value 0, .absent, .absent, .absent, .absent⟩

/-- The vendor's restaurant. -/
def ownRestaurant : PromoCodes := PromoCodes.empty.step (.openRestaurant 1)

/-- A restaurant that delivers within 5 km, for 300 and 50 a kilometre. -/
def zonedCatalogue : Catalogue :=
  { lunchCatalogue (ownRestaurant.codes.create (.created ownCode)) with
    shops := fun _ => some ⟨true, true, "NGN", some ⟨6, 3⟩⟩
    zones := [⟨.restaurant 0, (5 : ℕ), (300 : ℕ), (50 : ℕ), true⟩] }

/-- The dish, brought 3 km, with the code. -/
def zonedLunch : Except HttpError CreatedOrder :=
  zonedCatalogue.createRestaurantOrder (fun _ _ => (3 : ℕ)) 3
    ⟨some ⟨6, 4⟩, some " Ring twice ", none, some "FREE"⟩ lunchCart

theorem exists_zonedLunch : ∃ order, zonedLunch = .ok order ∧ order.amounts.deliveryFee = 450 ∧
    order.amounts.discount = 1000 := by
  have hplaced : zonedLunch.toOption.any (fun order =>
      order.amounts.deliveryFee = 450 && order.amounts.discount = 1000) = true := by
    decide +kernel
  cases horder : zonedLunch with
  | error e =>
    rw [horder] at hplaced
    cases hplaced
  | ok order =>
    rw [horder] at hplaced
    obtain ⟨hfee, hdiscount⟩ := Bool.and_eq_true_iff.mp hplaced
    exact ⟨order, rfl, of_decide_eq_true hfee, of_decide_eq_true hdiscount⟩

theorem order_margin_of_lunch : ∃ order, zonedLunch = .ok order ∧
    order.amounts.deliveryFee = 450 ∧ order.amounts.discount = 1000 ∧ order.amounts.margin =
      order.amounts.serviceFee + order.amounts.platformFeeAmount - order.amounts.discount := by
  obtain ⟨order, horder, hfee, hdiscount⟩ := exists_zonedLunch
  exact ⟨order, horder, hfee, hdiscount, (order_margin (Or.inl horder)).1⟩

/-- The dish, ordered with it. -/
def freeLunch : Except HttpError CreatedOrder :=
  (lunchCatalogue (ownRestaurant.codes.create (.created ownCode))).createRestaurantOrder
    (fun _ _ => 0) 3 ⟨none, none, none, some "FREE"⟩ lunchCart

/-- **A vendor's own code makes the platform pay out more than it collects.** -/
theorem own_code_at_a_loss :
    ¬ ∀ (km : Coordinates → Coordinates → ℚ≥0) (code : CreatePromoCodeDto)
      (owner : AccessTokenPayload) (s : PromoCodes) (c : Catalogue) (userId : UserId)
      (dto : CreateOrderDto) (cart : Cart) (order : CreatedOrder), owner.role = .restaurantOwner →
      ownRestaurant.create code owner = .ok s → c.promoCodes = s.codes →
      c.createRestaurantOrder km userId dto cart = .ok order →
      order.amounts.restaurantPayoutAmount + order.amounts.deliveryFee ≤
        order.amounts.total - order.amounts.tax := by
  intro hall
  have hloss : freeLunch.toOption.all (fun order =>
      order.amounts.restaurantPayoutAmount + order.amounts.deliveryFee ≤
        order.amounts.total - order.amounts.tax) = false := by
    decide +kernel
  cases hplaced : freeLunch with
  | error e =>
    rw [hplaced] at hloss
    cases hloss
  | ok order =>
    rw [hplaced] at hloss
    exact of_decide_eq_false hloss (hall (fun _ _ => 0) ownCode ⟨1, .restaurantOwner⟩ _ _ 3 _
      lunchCart order rfl rfl rfl hplaced)

end FoodDelivery
