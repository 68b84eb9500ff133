import FoodDelivery.Orders.Pricing
import FoodDelivery.Lib.Interleave

/-!
# Carts

`CartService` and the part of `createOrder` that reads the cart and clears it, each call a process
that takes one database call at a time.  What the catalogue answers to a call comes from the
outside; the seller of an item is the one it was created for, which no call writes.

A `save()` that only pushes an element is an unconditional `$push`; one that replaces the array, or
edits an element in place, is refused when the version of the array has changed since it was read.

* `resolveModifiers`: the picks of a customer against the groups of the item.
* `cartStep`: one database call.
-/

namespace FoodDelivery

open Store Interleave

/-! ## The catalogue -/

structure ModifierOption where
  name : String
  priceDelta : ℚ≥0
  deriving DecidableEq

structure ModifierGroup where
  name : String
  min : Nat
  max : Nat
  options : List ModifierOption
  deriving DecidableEq

structure MenuItem where
  name : String
  price : ℚ≥0
  discountedPrice : Option ℚ≥0
  imageUrl : Option String
  isAvailable : Bool
  modifierGroups : List ModifierGroup
  deriving DecidableEq

structure Product where
  name : String
  price : ℚ≥0
  discountedPrice : Option ℚ≥0
  imageUrl : Option String
  isAvailable : Bool
  deriving DecidableEq

/-- The `restaurantId` of each menu item and the `storeId` of each product. -/
structure ItemSellers where
  restaurantOf : ItemId → VendorId
  storeOf : ItemId → VendorId

/-- A menu item of this restaurant, or a product of this store. -/
def ItemSellers.sells (sellers : ItemSellers) (seller : Seller)
    (menuItemId productId : Option ItemId) : Bool :=
  match seller with
  | .restaurant restaurantId =>
    menuItemId.map sellers.restaurantOf = some restaurantId && productId.isNone
  | .store storeId => productId.map sellers.storeOf = some storeId && menuItemId.isNone

/-! ## Modifiers -/

/-- `SelectedModifierInputDto`. -/
structure ModifierSelection where
  groupName : String
  optionName : String
  deriving DecidableEq

namespace ModifierGroup

def resolvePick (group : ModifierGroup) (pick : ModifierSelection) :
    Except HttpError SelectedModifier :=
  match group.options.find? fun o => o.name = pick.optionName with
  | none => .error (.badRequest
      s!"\"{pick.optionName}\" is not a valid option for \"{group.name}\"")
  | some option => .ok ⟨group.name, option.name, option.priceDelta⟩

/-- The picks that name this group. -/
def resolve (group : ModifierGroup) (selections : List ModifierSelection) :
    Except HttpError (List SelectedModifier) :=
  let picksForGroup := selections.filter fun s => s.groupName = group.name
  if picksForGroup.length < group.min ∨ group.max < picksForGroup.length then
    .error (.badRequest
      s!"\"{group.name}\" requires between {group.min} and {group.max} selection(s)")
  else picksForGroup.mapM group.resolvePick

end ModifierGroup

def resolveModifiers (menuItem : MenuItem) (selections : List ModifierSelection) :
    Except HttpError (List SelectedModifier) := do
  let resolved ← menuItem.modifierGroups.mapM fun group => group.resolve selections
  match selections.find? fun s => !menuItem.modifierGroups.any fun g => g.name = s.groupName with
  | some unknownGroup => .error (.badRequest
      s!"\"{unknownGroup.groupName}\" is not a modifier group on this item")
  | none => .ok resolved.flatten

def SelectedModifier.key (m : SelectedModifier) : String := m.groupName ++ "::" ++ m.optionName

/-- The same picks in any order. -/
def sameModifiers (a b : List SelectedModifier) : Bool :=
  (a.map SelectedModifier.key).isPerm (b.map SelectedModifier.key)

/-! ## The documents -/

/-- `AddCartItemDto` and `AddStoreCartItemDto`; `notes` come trimmed. -/
structure AddCartItemDto where
  menuItemId : ItemId
  qty : Option Nat
  selectedModifiers : List ModifierSelection
  notes : Option String
  replace : Bool
  deriving DecidableEq

structure AddStoreCartItemDto where
  productId : ItemId
  qty : Option Nat
  notes : Option String
  replace : Bool
  deriving DecidableEq

structure UpdateCartItemDto where
  qty : Option Nat
  notes : Option String
  deriving DecidableEq

/-- An item with its `_id`. -/
structure CartLine where
  id : Nat
  item : CartItem
  deriving DecidableEq

/-- `Cart` as it is stored.  `sellerType`, `restaurantId` and `storeId` are only ever written
together.  `version` is that of the array. -/
structure CartDocument where
  seller : Seller
  items : List CartLine
  version : Nat
  deriving DecidableEq

/-- The carts and the orders of one customer, and the `_id` that the next item gets. -/
structure Carts where
  carts : Collection (Option CartDocument)
  orders : Collection CreatedOrder
  nextLine : Nat

inductive CartError
  | http (error : HttpError)
  | conflict (message : String)
  | versionError
  | documentNotFound
  | duplicateKey
  deriving DecidableEq

def MenuItem.toCartItem (menuItem : MenuItem) (menuItemId : ItemId) (qty : Nat)
    (selectedModifiers : List SelectedModifier) (notes : String) : CartItem where
  menuItemId := some menuItemId
  productId := none
  name := menuItem.name
  price := menuItem.discountedPrice.getD menuItem.price
  imageUrl := menuItem.imageUrl
  qty := qty
  selectedModifiers := selectedModifiers
  notes := notes

def Product.toCartItem (product : Product) (productId : ItemId) (qty : Nat) (notes : String) :
    CartItem where
  menuItemId := none
  productId := some productId
  name := product.name
  price := product.discountedPrice.getD product.price
  imageUrl := product.imageUrl
  qty := qty
  selectedModifiers := []
  notes := notes

/-- The line that an item is added to. -/
def CartItem.isLineOf (item line : CartItem) : Seller → Bool
  | .restaurant _ => line.menuItemId = item.menuItemId && (line.notes = item.notes &&
      sameModifiers line.selectedModifiers item.selectedModifiers)
  | .store _ => line.productId = item.productId && line.notes = item.notes

namespace CartDocument

/-- `toResponse`, as orders read it. -/
def toResponse (cart : CartDocument) : Cart where
  sellerType := cart.seller.sellerType
  restaurantId := match cart.seller with
    | .restaurant id => some id
    | .store _ => none
  storeId := match cart.seller with
    | .restaurant _ => none
    | .store id => some id
  items := cart.items.map (·.item)

def push (cart : CartDocument) (line : CartLine) : CartDocument :=
  { cart with items := cart.items ++ [line], version := cart.version + 1 }

/-- The array is replaced. -/
def setItems (cart : CartDocument) (items : List CartLine) : CartDocument :=
  { cart with items := items, version := cart.version + 1 }

/-- One element is edited in place. -/
def edit (cart : CartDocument) (index : Nat) (qty : Option Nat) (notes : Option String) :
    CartDocument :=
  { cart with
    items := cart.items.modify index fun line =>
      { line with
        item := { line.item with
          qty := qty.getD line.item.qty
          notes := notes.getD line.item.notes } } }

end CartDocument

namespace Carts

/-- A customer without carts and orders. -/
def empty : Carts := ⟨Collection.empty, Collection.empty, 0⟩

/-- `findOne({ userId })`. -/
def find (s : Carts) : Option (Nat × CartDocument) := (s.carts.findLive fun _ _ => true).head?

/-- Items that are stored for the first time. -/
def number (s : Carts) (items : List CartItem) : List CartLine :=
  items.zipIdx.map fun x => ⟨s.nextLine + x.2, x.1⟩

def modifyCart (s : Carts) (id : Nat) (f : CartDocument → CartDocument) : Carts :=
  { s with carts := s.carts.modify id (Option.map f) }

def pushItem (s : Carts) (id : Nat) (item : CartItem) : Carts :=
  { s.modifyCart id fun cart => cart.push ⟨s.nextLine, item⟩ with nextLine := s.nextLine + 1 }

/-- A cart starts over with these items. -/
def startOver (s : Carts) (id : Nat) (seller : Seller) (items : List CartItem) : Carts :=
  { s.modifyCart id fun cart => { cart.setItems (s.number items) with seller := seller } with
    nextLine := s.nextLine + items.length }

def createCart (s : Carts) (seller : Seller) (items : List CartItem) : Carts :=
  { s with
    carts := s.carts.create (some ⟨seller, s.number items, 0⟩)
    nextLine := s.nextLine + items.length }

def deleteCart (s : Carts) (id : Nat) : Carts := { s with carts := s.carts.remove id }

/-- `deleteOne({ userId })`. -/
def clear (s : Carts) : Carts :=
  match s.find with
  | none => s
  | some (id, _) => s.deleteCart id

def createOrder (s : Carts) (order : CreatedOrder) : Carts :=
  { s with orders := s.orders.create order }

end Carts

/-! ## The calls -/

inductive CartRequest
  | addItem (dto : AddCartItemDto)
  | addStoreItem (dto : AddStoreCartItemDto)
  | reorder (orderId : OrderId) (replace : Bool)
  | updateItem (cartItemId : Nat) (dto : UpdateCartItemDto)
  | removeItem (cartItemId : Nat)
  | clearCart
  | createOrder (dto : CreateOrderDto)

/-- `cart` is the `_id` and the version of a cart that was there, and `skippedItems` the names of
order lines that are not carried over. -/
inductive CartPc
  | addItemFind (dto : AddCartItemDto)
  | addItemShop (dto : AddCartItemDto) (menuItem : MenuItem)
  | addStoreItemFind (dto : AddStoreCartItemDto)
  | addStoreItemShop (dto : AddStoreCartItemDto) (product : Product)
  | addCart (seller : Seller) (item : CartItem) (replace : Bool)
  | reorderFind (orderId : OrderId) (replace : Bool)
  | reorderCart (order : CreatedOrder) (replace : Bool)
  | reorderShop (order : CreatedOrder) (cart : Option (Nat × Nat))
  | reorderLine (seller : Seller) (cart : Option (Nat × Nat)) (lines : List OrderItem)
    (items : List CartItem) (skippedItems : List String)
  | updateFind (cartItemId : Nat) (dto : UpdateCartItemDto)
  | removeFind (cartItemId : Nat)
  | insert (seller : Seller) (items : List CartItem) (skippedItems : List String)
  | savePush (id : Nat) (item : CartItem)
  | saveOver (id version : Nat) (seller : Seller) (items : List CartItem)
    (skippedItems : List String)
  | saveItems (id version : Nat) (items : List CartLine)
  | saveEdit (id version index : Nat) (qty : Option Nat) (notes : Option String)
  | deleteCart (id : Nat)
  | clear
  | orderCart (dto : CreateOrderDto)
  | orderCartAgain (dto : CreateOrderDto)
  | createRestaurantOrder (dto : CreateOrderDto) (cart : Cart)
  | createStoreOrder (dto : CreateOrderDto) (cart : Cart)
  | returned (skippedItems : List String)
  | rejected (error : CartError)

/-- What the outside answers: what the catalogue holds when a call looks. -/
structure CartReply where
  menuItems : ItemId → Option MenuItem
  products : ItemId → Option Product
  catalogue : Catalogue

namespace CartPc

def start : CartRequest → CartPc
  | .addItem dto => .addItemFind dto
  | .addStoreItem dto => .addStoreItemFind dto
  | .reorder orderId replace => .reorderFind orderId replace
  | .updateItem cartItemId dto => .updateFind cartItemId dto
  | .removeItem cartItemId => .removeFind cartItemId
  | .clearCart => .clear
  | .createOrder dto => .orderCart dto

def notFound (message : String) : CartPc := .rejected (.http (.notFound message))

def badRequest (message : String) : CartPc := .rejected (.http (.badRequest message))

end CartPc

/-- `findByIdOrThrow` of the seller and what `addItem`, `addStoreItem` and `reorderFromOrder` check
of it. -/
def afterShop (r : CartReply) (seller : Seller) (next : CartPc) : CartPc :=
  match r.catalogue.shops seller with
  | none => .notFound s!"{seller.sellerType.title} not found"
  | some shop =>
    if !shop.isApproved || !shop.isOpen then
      .badRequest s!"This {seller.sellerType.name} is not currently accepting orders"
    else next

/-- What `addItem` and `addStoreItem` make of the cart they find. -/
def afterAddCart (seller : Seller) (item : CartItem) (replace : Bool) :
    Option (Nat × CartDocument) → CartPc
  | none => .insert seller [item] []
  | some (id, cart) =>
    if cart.seller ≠ seller then
      if !replace then
        .rejected (.conflict (s!"Your cart has items from a different {seller.sellerType.name}. " ++
          "Pass replace: true to start a new cart."))
      else .saveOver id cart.version seller [item] []
    else
      match cart.items.findIdx? fun line => item.isLineOf line.item seller with
      | none => .savePush id item
      | some index =>
        let qty := (cart.items[index]?).map (·.item.qty)
        let newQty := min 20 (qty.getD 0 + item.qty)
        -- nothing is modified when the line is full
        if qty = some newQty then .returned []
        else .saveEdit id cart.version index (some newQty) none

/-- The order line as a new item, unless it cannot be ordered any more. -/
def reorderItem (r : CartReply) (seller : Seller) (line : OrderItem) : Option CartItem :=
  match seller with
  | .restaurant _ =>
    line.menuItemId.bind fun menuItemId =>
      ((r.menuItems menuItemId).filter (·.isAvailable)).bind fun menuItem =>
        (resolveModifiers menuItem (line.selectedModifiers.map fun m =>
          ⟨m.groupName, m.optionName⟩)).toOption.map fun modifiers =>
            menuItem.toCartItem menuItemId line.qty modifiers line.notes
  | .store _ =>
    line.productId.bind fun productId =>
      ((r.products productId).filter (·.isAvailable)).map fun product =>
        product.toCartItem productId line.qty line.notes

/-- The last lines of `reorderFromOrder`. -/
def afterReorder (seller : Seller) (cart : Option (Nat × Nat)) (items : List CartItem)
    (skippedItems : List String) : CartPc :=
  if items = [] then .badRequest "None of this order's items are available to reorder"
  else
    match cart with
    | none => .insert seller items skippedItems
    | some (id, version) => .saveOver id version seller items skippedItems

def afterUpdateFind (cartItemId : Nat) (dto : UpdateCartItemDto) :
    Option (Nat × CartDocument) → CartPc
  | none => .notFound "Cart is empty"
  | some (id, cart) =>
    match cart.items.findIdx? fun line => line.id = cartItemId with
    | none => .notFound "Cart item not found"
    | some index =>
      let old := (cart.items[index]?).map (·.item)
      let qty := dto.qty.filter fun q => old.map (·.qty) ≠ some q
      let notes := dto.notes.filter fun n => old.map (·.notes) ≠ some n
      -- nothing is modified when both are left as they are
      if qty.isNone && notes.isNone then .returned []
      else .saveEdit id cart.version index qty notes

def afterRemoveFind (cartItemId : Nat) : Option (Nat × CartDocument) → CartPc
  | none => .notFound "Cart is empty"
  | some (id, cart) =>
    let items := cart.items.filter fun line => line.id ≠ cartItemId
    if items.length = cart.items.length then .notFound "Cart item not found"
    else if items = [] then .deleteCart id
    else .saveItems id cart.version items

/-- The `where` of a save that checks the version. -/
def Carts.saveVersioned (s : Carts) (id version : Nat) (written : Carts)
    (skippedItems : List String) : Carts × CartPc :=
  if (s.carts.live id).map (·.version) = some version then (written, .returned skippedItems)
  else (s, .rejected .versionError)

section Steps

variable (sellers : ItemSellers) (haversineDistanceKm : Coordinates → Coordinates → ℚ≥0)
  (userId : UserId)

/-- One database call, and what the call does until its next one. -/
def cartStep (s : Carts) (pc : CartPc) (r : CartReply) : Option (Carts × CartPc) :=
  match pc with
  | .addItemFind dto =>
    match r.menuItems dto.menuItemId with
    | none => some (s, .notFound "Menu item not found")
    | some menuItem =>
      if !menuItem.isAvailable then some (s, .badRequest "This item is currently unavailable")
      else some (s, .addItemShop dto menuItem)
  | .addItemShop dto menuItem =>
    let seller : Seller := .restaurant (sellers.restaurantOf dto.menuItemId)
    match resolveModifiers menuItem dto.selectedModifiers with
    | .error e => some (s, afterShop r seller (.rejected (.http e)))
    | .ok modifiers => some (s, afterShop r seller (.addCart seller
        (menuItem.toCartItem dto.menuItemId (dto.qty.getD 1) modifiers (dto.notes.getD ""))
          dto.replace))
  | .addStoreItemFind dto =>
    match r.products dto.productId with
    | none => some (s, .notFound "Product not found")
    | some product =>
      if !product.isAvailable then some (s, .badRequest "This item is currently unavailable")
      else some (s, .addStoreItemShop dto product)
  | .addStoreItemShop dto product =>
    let seller : Seller := .store (sellers.storeOf dto.productId)
    some (s, afterShop r seller (.addCart seller
      (product.toCartItem dto.productId (dto.qty.getD 1) (dto.notes.getD "")) dto.replace))
  | .addCart seller item replace => some (s, afterAddCart seller item replace s.find)
  | .reorderFind orderId replace =>
    match s.orders.get orderId with
    | none => some (s, .notFound "Order not found")
    | some order =>
      if order.customerId ≠ userId then
        some (s, .rejected (.http (.forbidden "You do not have access to this order")))
      else some (s, .reorderCart order replace)
  | .reorderCart order replace =>
    match s.find with
    | none => some (s, .reorderShop order none)
    | some (id, cart) =>
      if cart.items ≠ [] ∧ !replace then
        some (s, .rejected (.conflict ("Your cart already has items. Pass replace: true to " ++
          "start a new cart from this order.")))
      else some (s, .reorderShop order (some (id, cart.version)))
  | .reorderShop order cart =>
    some (s, afterShop r order.seller (.reorderLine order.seller cart order.items [] []))
  | .reorderLine seller cart [] items skippedItems =>
    some (s, afterReorder seller cart items skippedItems)
  | .reorderLine seller cart (line :: lines) items skippedItems =>
    match reorderItem r seller line with
    | none => some (s, .reorderLine seller cart lines items (skippedItems ++ [line.name]))
    | some item => some (s, .reorderLine seller cart lines (items ++ [item]) skippedItems)
  | .updateFind cartItemId dto => some (s, afterUpdateFind cartItemId dto s.find)
  | .removeFind cartItemId => some (s, afterRemoveFind cartItemId s.find)
  | .insert seller items skippedItems =>
    -- `userId` is unique
    if s.find.isSome then some (s, .rejected .duplicateKey)
    else some (s.createCart seller items, .returned skippedItems)
  | .savePush id item =>
    if (s.carts.live id).isSome then some (s.pushItem id item, .returned [])
    else some (s, .rejected .documentNotFound)
  | .saveOver id version seller items skippedItems =>
    some (s.saveVersioned id version (s.startOver id seller items) skippedItems)
  | .saveItems id version items =>
    some (s.saveVersioned id version (s.modifyCart id fun cart => cart.setItems items) [])
  | .saveEdit id version index qty notes =>
    some (s.saveVersioned id version (s.modifyCart id fun cart => cart.edit index qty notes) [])
  | .deleteCart id => some (s.deleteCart id, .returned [])
  | .clear => some (s.clear, .returned [])
  | .orderCart dto =>
    match s.find with
    | none => some (s, .orderCartAgain dto)
    | some (_, cart) =>
      match cart.seller with
      | .restaurant _ => some (s, .orderCartAgain dto)
      | .store _ => some (s, .createStoreOrder dto cart.toResponse)
  | .orderCartAgain dto =>
    match s.find with
    | none => some (s, .badRequest "Your cart is empty")
    | some (_, cart) => some (s, .createRestaurantOrder dto cart.toResponse)
  | .createRestaurantOrder dto cart =>
    match r.catalogue.createRestaurantOrder haversineDistanceKm userId dto cart with
    | .error e => some (s, .rejected (.http e))
    | .ok order => some (s.createOrder order, .clear)
  | .createStoreOrder dto cart =>
    match r.catalogue.createStoreOrder haversineDistanceKm userId dto cart with
    | .error e => some (s, .rejected (.http e))
    | .ok order => some (s.createOrder order, .clear)
  | .returned _ => none
  | .rejected _ => none

/-- Any number of calls of one customer. -/
def carts : Machine Carts CartPc CartRequest CartReply Empty where
  start _ := CartPc.start
  step := cartStep sellers haversineDistanceKm userId
  env _ := Empty.elim

end Steps

abbrev CartPool := Pool Carts CartPc

abbrev CartEvent := Event CartRequest CartReply Empty

end FoodDelivery
