import FoodDelivery.Carts.Cart

/-!
# What the calls of a cart may do

* `cart_move`: what one database call reads or writes, and what the call goes on to.
-/

namespace FoodDelivery

open Store Interleave

section Move

variable (sellers : ItemSellers) (km : Coordinates → Coordinates → ℚ≥0) (userId : UserId)
  (r : CartReply) (s : Carts)

/-- The steps: a call is over; it reads on with what it found; or it writes. -/
inductive CartMove : CartPc → Carts → CartPc → Prop
  | rejected {pc : CartPc} {error : CartError} : CartMove pc s (.rejected error)
  | unchanged {pc : CartPc} : CartMove pc s (.returned [])
  | dish {dto : AddCartItemDto} {menuItem : MenuItem} :
    CartMove (.addItemFind dto) s (.addItemShop dto menuItem)
  | product {dto : AddStoreCartItemDto} {product : Product} :
    CartMove (.addStoreItemFind dto) s (.addStoreItemShop dto product)
  | adds {dto : AddCartItemDto} {menuItem : MenuItem} {modifiers : List SelectedModifier} :
    CartMove (.addItemShop dto menuItem) s
      (.addCart (.restaurant (sellers.restaurantOf dto.menuItemId))
        (menuItem.toCartItem dto.menuItemId (dto.qty.getD 1) modifiers (dto.notes.getD ""))
        dto.replace)
  | addsProduct {dto : AddStoreCartItemDto} {product : Product} :
    CartMove (.addStoreItemShop dto product) s
      (.addCart (.store (sellers.storeOf dto.productId))
        (product.toCartItem dto.productId (dto.qty.getD 1) (dto.notes.getD "")) dto.replace)
  | starts {seller : Seller} {item : CartItem} {replace : Bool} :
    CartMove (.addCart seller item replace) s (.insert seller [item] [])
  | startsOver {seller : Seller} {item : CartItem} {id version : Nat} :
    CartMove (.addCart seller item true) s (.saveOver id version seller [item] [])
  | pushes {seller : Seller} {item : CartItem} {replace : Bool} {id : Nat} :
    CartMove (.addCart seller item replace) s (.savePush id item)
  | edits {pc : CartPc} {id version index : Nat} {qty : Option Nat} {notes : Option String} :
    CartMove pc s (.saveEdit id version index qty notes)
  | order {orderId : OrderId} {replace : Bool} {order : CreatedOrder}
    (hget : s.orders.get orderId = some order) (hown : order.customerId = userId) :
    CartMove (.reorderFind orderId replace) s (.reorderCart order replace)
  | cart {order : CreatedOrder} {replace : Bool} {cart : Option (Nat × Nat)} :
    CartMove (.reorderCart order replace) s (.reorderShop order cart)
  | reorders {order : CreatedOrder} {cart : Option (Nat × Nat)} :
    CartMove (.reorderShop order cart) s (.reorderLine order.seller cart order.items [] [])
  | skips {seller : Seller} {cart : Option (Nat × Nat)} {line : OrderItem} {lines : List OrderItem}
    {items : List CartItem} {skippedItems : List String} :
    CartMove (.reorderLine seller cart (line :: lines) items skippedItems) s
      (.reorderLine seller cart lines items (skippedItems ++ [line.name]))
  | carries {seller : Seller} {cart : Option (Nat × Nat)} {line : OrderItem}
    {lines : List OrderItem} {items : List CartItem} {skippedItems : List String} {item : CartItem}
    (hitem : reorderItem r seller line = some item) :
    CartMove (.reorderLine seller cart (line :: lines) items skippedItems) s
      (.reorderLine seller cart lines (items ++ [item]) skippedItems)
  | restarts {seller : Seller} {items : List CartItem} {skippedItems : List String} :
    CartMove (.reorderLine seller none [] items skippedItems) s (.insert seller items skippedItems)
  | replaces {seller : Seller} {id version : Nat} {items : List CartItem}
    {skippedItems : List String} :
    CartMove (.reorderLine seller (some (id, version)) [] items skippedItems) s
      (.saveOver id version seller items skippedItems)
  | removes {cartItemId id : Nat} {cart : CartDocument} (hlive : s.carts.live id = some cart) :
    CartMove (.removeFind cartItemId) s
      (.saveItems id cart.version (cart.items.filter fun line => line.id ≠ cartItemId))
  | empties {cartItemId id : Nat} : CartMove (.removeFind cartItemId) s (.deleteCart id)
  | created {seller : Seller} {items : List CartItem} {skippedItems : List String} :
    CartMove (.insert seller items skippedItems) (s.createCart seller items)
      (.returned skippedItems)
  | pushed {id : Nat} {item : CartItem} :
    CartMove (.savePush id item) (s.pushItem id item) (.returned [])
  | startedOver {id version : Nat} {seller : Seller} {items : List CartItem}
    {skippedItems : List String} : CartMove (.saveOver id version seller items skippedItems)
      (s.startOver id seller items) (.returned skippedItems)
  | saved {id : Nat} {cart : CartDocument} {lines : List CartLine}
    (hlive : s.carts.live id = some cart) : CartMove (.saveItems id cart.version lines)
      (s.modifyCart id fun cart => cart.setItems lines) (.returned [])
  | edited {id version index : Nat} {qty : Option Nat} {notes : Option String} :
    CartMove (.saveEdit id version index qty notes)
      (s.modifyCart id fun cart => cart.edit index qty notes) (.returned [])
  | deleted {id : Nat} : CartMove (.deleteCart id) (s.deleteCart id) (.returned [])
  | cleared : CartMove .clear s.clear (.returned [])
  | ordersOfRestaurant {dto : CreateOrderDto} : CartMove (.orderCart dto) s (.orderCartAgain dto)
  | ordersOfStore {dto : CreateOrderDto} {id : Nat} {cart : CartDocument}
    (hlive : s.carts.live id = some cart) :
    CartMove (.orderCart dto) s (.createStoreOrder dto cart.toResponse)
  | ordersCart {dto : CreateOrderDto} {id : Nat} {cart : CartDocument}
    (hlive : s.carts.live id = some cart) :
    CartMove (.orderCartAgain dto) s (.createRestaurantOrder dto cart.toResponse)
  | orderedFromRestaurant {dto : CreateOrderDto} {cart : Cart} {order : CreatedOrder}
    (horder : r.catalogue.createRestaurantOrder km userId dto cart = .ok order) :
    CartMove (.createRestaurantOrder dto cart) (s.createOrder order) .clear
  | orderedFromStore {dto : CreateOrderDto} {cart : Cart} {order : CreatedOrder}
    (horder : r.catalogue.createStoreOrder km userId dto cart = .ok order) :
    CartMove (.createStoreOrder dto cart) (s.createOrder order) .clear

end Move

section Moves

variable {sellers : ItemSellers} {km : Coordinates → Coordinates → ℚ≥0} {userId : UserId}
  {r : CartReply} {s s' : Carts} {pc pc' : CartPc} {seller : Seller}

theorem Carts.live_of_find {id : Nat} {cart : CartDocument} (h : s.find = some (id, cart)) :
    s.carts.live id = some cart :=
  Collection.live_of_findLive (List.mem_of_mem_head? h)

theorem saveVersioned_cases {id version : Nat} {written : Carts} {skippedItems : List String}
    (h : s.saveVersioned id version written skippedItems = (s', pc')) :
    (s' = written ∧ pc' = .returned skippedItems ∧
      ∃ cart, s.carts.live id = some cart ∧ cart.version = version) ∨
      (s' = s ∧ pc' = .rejected .versionError) := by
  unfold Carts.saveVersioned at h
  split at h
  · next hversion =>
    cases h
    exact Or.inl ⟨rfl, rfl, Option.map_eq_some_iff.mp hversion⟩
  · cases h
    exact Or.inr ⟨rfl, rfl⟩

/-- The seller is looked up on the way. -/
theorem move_afterShop (h : CartMove sellers km userId r s pc s pc') :
    CartMove sellers km userId r s pc s (afterShop r seller pc') := by
  unfold afterShop
  split
  · exact .rejected
  · split
    · exact .rejected
    · exact h

theorem move_afterAddCart {item : CartItem} {replace : Bool}
    {found : Option (Nat × CartDocument)} :
    CartMove sellers km userId r s (.addCart seller item replace) s
      (afterAddCart seller item replace found) := by
  unfold afterAddCart
  split
  · exact .starts
  · split
    · cases replace with
      | false => exact .rejected
      | true => exact .startsOver
    · split
      · exact .pushes
      · dsimp only
        split
        · exact .unchanged
        · exact .edits

theorem move_afterReorder {cart : Option (Nat × Nat)} {items : List CartItem}
    {skippedItems : List String} :
    CartMove sellers km userId r s (.reorderLine seller cart [] items skippedItems) s
      (afterReorder seller cart items skippedItems) := by
  unfold afterReorder
  split
  · exact .rejected
  · split
    · exact .restarts
    · exact .replaces

theorem move_afterUpdateFind {cartItemId : Nat} {dto : UpdateCartItemDto}
    {found : Option (Nat × CartDocument)} :
    CartMove sellers km userId r s pc s (afterUpdateFind cartItemId dto found) := by
  unfold afterUpdateFind
  split
  · exact .rejected
  · split
    · exact .rejected
    · dsimp only
      split
      · exact .unchanged
      · exact .edits

theorem move_afterRemoveFind {cartItemId : Nat} :
    CartMove sellers km userId r s (.removeFind cartItemId) s
      (afterRemoveFind cartItemId s.find) := by
  cases hfind : s.find with
  | none => exact .rejected
  | some found =>
    obtain ⟨id, cart⟩ := found
    simp only [afterRemoveFind]
    split
    · exact .rejected
    · split
      · exact .empties
      · exact .removes (Carts.live_of_find hfind)

/-- **What one database call may do.** -/
theorem cart_move (h : cartStep sellers km userId s pc r = some (s', pc')) :
    CartMove sellers km userId r s pc s' pc' := by
  cases pc with
  | addItemFind dto =>
    simp only [cartStep] at h
    split at h
    · cases h
      exact .rejected
    · split at h <;> cases h
      · exact .rejected
      · exact .dish
  | addItemShop dto menuItem =>
    simp only [cartStep] at h
    split at h <;> cases h
    · exact move_afterShop .rejected
    · exact move_afterShop .adds
  | addStoreItemFind dto =>
    simp only [cartStep] at h
    split at h
    · cases h
      exact .rejected
    · split at h <;> cases h
      · exact .rejected
      · exact .product
  | addStoreItemShop dto product => cases h; exact move_afterShop .addsProduct
  | addCart seller item replace => cases h; exact move_afterAddCart
  | reorderFind orderId replace =>
    simp only [cartStep] at h
    split at h
    · cases h
      exact .rejected
    · next order hget =>
      split at h <;> cases h
      · exact .rejected
      · next hown => exact .order hget (not_not.mp hown)
  | reorderCart order replace =>
    simp only [cartStep] at h
    split at h
    · cases h
      exact .cart
    · split at h <;> cases h
      · exact .rejected
      · exact .cart
  | reorderShop order cart => cases h; exact move_afterShop .reorders
  | reorderLine seller cart lines items skippedItems =>
    cases lines with
    | nil => cases h; exact move_afterReorder
    | cons line lines =>
      simp only [cartStep] at h
      split at h <;> cases h
      · exact .skips
      · next hitem => exact .carries hitem
  | updateFind cartItemId dto => cases h; exact move_afterUpdateFind
  | removeFind cartItemId => cases h; exact move_afterRemoveFind
  | insert seller items skippedItems =>
    simp only [cartStep] at h
    split at h <;> cases h
    · exact .rejected
    · exact .created
  | savePush id item =>
    simp only [cartStep] at h
    split at h <;> cases h
    · exact .pushed
    · exact .rejected
  | saveOver id version seller items skippedItems =>
    rcases saveVersioned_cases (Option.some.inj h) with ⟨rfl, rfl, _⟩ | ⟨rfl, rfl⟩
    · exact .startedOver
    · exact .rejected
  | saveItems id version lines =>
    rcases saveVersioned_cases (Option.some.inj h) with ⟨rfl, rfl, cart, hlive, rfl⟩ | ⟨rfl, rfl⟩
    · exact .saved hlive
    · exact .rejected
  | saveEdit id version index qty notes =>
    rcases saveVersioned_cases (Option.some.inj h) with ⟨rfl, rfl, _⟩ | ⟨rfl, rfl⟩
    · exact .edited
    · exact .rejected
  | deleteCart id => cases h; exact .deleted
  | clear => cases h; exact .cleared
  | orderCart dto =>
    simp only [cartStep] at h
    split at h
    · cases h
      exact .ordersOfRestaurant
    · next hfind =>
      split at h <;> cases h
      · exact .ordersOfRestaurant
      · exact .ordersOfStore (Carts.live_of_find hfind)
  | orderCartAgain dto =>
    simp only [cartStep] at h
    split at h <;> cases h
    · exact .rejected
    · next hfind => exact .ordersCart (Carts.live_of_find hfind)
  | createRestaurantOrder dto cart =>
    simp only [cartStep] at h
    split at h <;> cases h
    · exact .rejected
    · next horder => exact .orderedFromRestaurant horder
  | createStoreOrder dto cart =>
    simp only [cartStep] at h
    split at h <;> cases h
    · exact .rejected
    · next horder => exact .orderedFromStore horder
  | returned skippedItems => cases h
  | rejected error => cases h

end Moves

end FoodDelivery
