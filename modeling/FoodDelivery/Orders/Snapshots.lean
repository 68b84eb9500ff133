import FoodDelivery.Orders.Pricing

/-!
# What an order takes from its cart

Both methods check the seller and the lines of the cart, and store a snapshot of the lines.

* `createRestaurantOrder_eq_ok`, `createStoreOrder_eq_ok`: what holds of an order that was created.
* `exists_createStoreOrder`: a plain order of a store that takes orders, all of whose lines can be
  had, is created.
-/

namespace FoodDelivery

namespace Catalogue

/-- The seller takes orders. -/
def takesOrders (c : Catalogue) (seller : Seller) : Bool :=
  (c.shops seller).any fun shop => shop.isApproved && shop.isOpen

/-- A line of a restaurant order. -/
def restaurantLine (c : Catalogue) (item : CartItem) : OrderItem where
  menuItemId := item.menuItemId
  productId := none
  name := item.name
  price := item.price
  costPrice := (item.menuItemId.bind c.menuItems).bind (·.costPrice)
  imageUrl := item.imageUrl
  qty := item.qty
  selectedModifiers := item.selectedModifiers
  notes := item.notes

/-- A line of a store order. -/
def storeLine (c : Catalogue) (item : CartItem) : OrderItem where
  menuItemId := none
  productId := item.productId
  name := item.name
  price := item.price
  costPrice := (item.productId.bind c.products).bind (·.costPrice)
  imageUrl := item.imageUrl
  qty := item.qty
  selectedModifiers := []
  notes := item.notes

end Catalogue

section Snapshots

variable {km : Coordinates → Coordinates → ℚ≥0} {c : Catalogue} {userId : UserId}
  {dto : CreateOrderDto} {cart : Cart} {order : CreatedOrder}

/-- **A restaurant order**: every line is of a dish that can be had. -/
theorem createRestaurantOrder_eq_ok (h : c.createRestaurantOrder km userId dto cart = .ok order) :
    ∃ restaurantId, cart.restaurantId = some restaurantId ∧
      c.takesOrders (.restaurant restaurantId) = true ∧
      (∀ item ∈ cart.items, c.menuItemAvailable item = true) ∧
      order.seller = .restaurant restaurantId ∧
      order.items = cart.items.map c.restaurantLine ∧
      order.amounts.subtotal = cart.subtotal := by
  unfold Catalogue.createRestaurantOrder at h
  split at h
  · cases h
  · cases h
  · next restaurantId _ _ hid _ =>
    split at h
    · cases h
    · next restaurant hshop =>
      split at h
      · cases h
      · next hopen =>
        split at h
        · cases h
        · next hnone =>
          obtain ⟨hseller, hitems, discount, redeemed, _, hamounts⟩ := placeOrder_eq_ok h
          refine ⟨restaurantId, hid, ?_, ?_, hseller, hitems, by rw [hamounts]; rfl⟩
          · simpa [Catalogue.takesOrders, hshop] using hopen
          · simpa [List.find?_eq_none] using hnone

/-- **A store order**: every line is of a product that can be had in the quantity of the line. -/
theorem createStoreOrder_eq_ok (h : c.createStoreOrder km userId dto cart = .ok order) :
    ∃ storeId, cart.storeId = some storeId ∧ c.takesOrders (.store storeId) = true ∧
      (∀ item ∈ cart.items, c.productAvailable item = true) ∧
      order.seller = .store storeId ∧ order.items = cart.items.map c.storeLine ∧
      order.amounts.subtotal = cart.subtotal := by
  unfold Catalogue.createStoreOrder at h
  split at h
  · cases h
  · cases h
  · next storeId _ _ hid _ =>
    split at h
    · cases h
    · next store hshop =>
      split at h
      · cases h
      · next hopen =>
        split at h
        · cases h
        · next hnone =>
          obtain ⟨hseller, hitems, discount, redeemed, _, hamounts⟩ := placeOrder_eq_ok h
          refine ⟨storeId, hid, ?_, ?_, hseller, hitems, by rw [hamounts]; rfl⟩
          · simpa [Catalogue.takesOrders, hshop] using hopen
          · simpa [List.find?_eq_none] using hnone

/-- An order for now, without a code. -/
theorem exists_createStoreOrder (km : Coordinates → Coordinates → ℚ≥0) (userId : UserId)
    {storeId : VendorId} (hid : cart.storeId = some storeId)
    (hopen : c.takesOrders (.store storeId) = true) (hitems : cart.items ≠ [])
    (hall : ∀ item ∈ cart.items, c.productAvailable item = true) :
    ∃ order, c.createStoreOrder km userId ⟨none, none, none, none⟩ cart = .ok order := by
  obtain ⟨sellerType, restaurantId, storeId', items⟩ := cart
  obtain rfl : storeId' = some storeId := hid
  obtain ⟨store, hshop, htakes⟩ := (Option.any_eq_true _ _).mp hopen
  have hnone : items.find? (fun item => !c.productAvailable item) = none := by
    simpa [List.find?_eq_none] using hall
  obtain ⟨happroved, hisOpen⟩ := Bool.and_eq_true_iff.mp htakes
  cases items with
  | nil => exact absurd rfl hitems
  | cons item items =>
    unfold Catalogue.createStoreOrder
    simp only [hshop, happroved, hisOpen, hnone]
    exact ⟨_, rfl⟩

end Snapshots

end FoodDelivery
