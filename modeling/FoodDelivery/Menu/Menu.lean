import FoodDelivery.Discovery.Search
import FoodDelivery.Lib.Interleave
import FoodDelivery.Stores.Products
import Mathlib.Data.String.Basic

/-!
# The menu of a restaurant

`MenuService`, with its requests as processes that take one database call at a time.  An id comes as
text: a look-up by `_id` casts it, while `restaurantId` and `categoryId` are stored and compared as
they are spelled.  `save` writes the paths that the request has changed from what it had found, into
whatever the document has become.

* `getMenu`: the categories of a restaurant, each with its items.
* `menus`: any number of requests.
* `menu_move`: all that one database call does to the menu.
-/

namespace FoodDelivery

open Store Interleave Paging ProductsService

/-! ## The documents -/

structure MenuCategory where
  restaurantId : IdText
  name : String
  sortOrder : Option Int
  deriving DecidableEq

structure MenuItemDocument where
  restaurantId : IdText
  categoryId : IdText
  name : String
  price : ℚ≥0
  discountedPrice : Option ℚ≥0
  isAvailable : Bool
  sortOrder : Option Int
  deriving DecidableEq

/-- Names come trimmed. -/
structure CreateMenuCategoryDto where
  name : String
  sortOrder : Given Int
  deriving DecidableEq

structure UpdateMenuCategoryDto where
  name : Given String
  sortOrder : Given Int
  deriving DecidableEq

structure CreateMenuItemDto where
  categoryId : IdText
  name : String
  price : ℚ≥0
  discountedPrice : Given ℚ≥0
  sortOrder : Given Int
  deriving DecidableEq

structure UpdateMenuItemDto where
  categoryId : Given IdText
  name : Given String
  price : Given ℚ≥0
  discountedPrice : Given ℚ≥0
  sortOrder : Given Int
  deriving DecidableEq

/-- The owners of the restaurants, and all categories and items. -/
structure Menu where
  owners : Collection UserId
  categories : Collection (Option MenuCategory)
  items : Collection (Option MenuItemDocument)
  deriving DecidableEq

/-! ## What a customer is shown -/

structure MenuSection where
  id : Nat
  category : MenuCategory
  items : List (Nat × MenuItemDocument)
  deriving DecidableEq

/-- `sort({ sortOrder: 1, name: 1 })`. -/
def menuKey (sortOrder : Option Int) (name : String) : WithBot Int ×ₗ String :=
  toLex (sortOrder, name)

namespace Menu

/-- Restaurants without menus. -/
def empty (owners : Collection UserId) : Menu := ⟨owners, Collection.empty, Collection.empty⟩

/-- `categoryModel.find({ restaurantId }).sort(…)`. -/
def categoriesOf (s : Menu) (restaurantId : IdText) : List (Nat × MenuCategory) :=
  sortBy (fun c => menuKey c.2.sortOrder c.2.name)
    (s.categories.findLive fun _ category => category.restaurantId = restaurantId)

/-- `itemModel.find({ restaurantId }).sort(…)`. -/
def itemsOf (s : Menu) (restaurantId : IdText) : List (Nat × MenuItemDocument) :=
  sortBy (fun i => menuKey i.2.sortOrder i.2.name)
    (s.items.findLive fun _ item => item.restaurantId = restaurantId)

def getMenu (s : Menu) (restaurantId : IdText) : List MenuSection :=
  (s.categoriesOf restaurantId).map fun category =>
    ⟨category.1, category.2,
      (s.itemsOf restaurantId).filter fun item => item.2.categoryId = IdText.of category.1⟩

/-! ## The checks -/

def assertOwnership (s : Menu) (restaurantId : IdText) (requester : AccessTokenPayload) :
    Except CatalogError Unit :=
  match s.owners.get restaurantId.id with
  | none => notFound "Restaurant not found"
  | some ownerId => (assertOwnerOrAdmin .restaurant ownerId requester).mapError .http

def findCategoryOrThrow (s : Menu) (restaurantId categoryId : IdText) :
    Except CatalogError MenuCategory :=
  match (s.categories.live categoryId.id).filter (·.restaurantId = restaurantId) with
  | none => notFound "Menu category not found"
  | some category => .ok category

def findItemOrThrow (s : Menu) (restaurantId itemId : IdText) :
    Except CatalogError MenuItemDocument :=
  match (s.items.live itemId.id).filter (·.restaurantId = restaurantId) with
  | none => notFound "Menu item not found"
  | some item => .ok item

end Menu

/-- What `save` leaves of a path: it writes one that the request has changed. -/
def savedPath {α : Type} [DecidableEq α] (given : Given α) (found current : Option α) : Option α :=
  if given.leaves found then current else given.toOption

/-- The same on a path that is required, and that no request has emptied. -/
def savedRequired {α : Type} [DecidableEq α] (given : Given α) (found current : α) : α :=
  (savedPath given (some found) (some current)).getD current

/-- `save` after `Object.assign(category, dto)`. -/
def UpdateMenuCategoryDto.save (dto : UpdateMenuCategoryDto) (found current : MenuCategory) :
    MenuCategory where
  restaurantId := current.restaurantId
  name := savedRequired dto.name found.name current.name
  sortOrder := savedPath dto.sortOrder found.sortOrder current.sortOrder

/-- A required name is neither emptied nor empty. -/
def UpdateMenuCategoryDto.validate (dto : UpdateMenuCategoryDto) : Except CatalogError Unit :=
  if dto.name = .null ∨ dto.name = .value "" then .error .validation else .ok ()

namespace UpdateMenuItemDto

/-- `save` after `Object.assign(item, dto)`. -/
def save (dto : UpdateMenuItemDto) (found current : MenuItemDocument) : MenuItemDocument where
  restaurantId := current.restaurantId
  categoryId := savedRequired dto.categoryId found.categoryId current.categoryId
  name := savedRequired dto.name found.name current.name
  price := savedRequired dto.price found.price current.price
  discountedPrice := savedPath dto.discountedPrice found.discountedPrice current.discountedPrice
  isAvailable := current.isAvailable
  sortOrder := savedPath dto.sortOrder found.sortOrder current.sortOrder

def validate (dto : UpdateMenuItemDto) : Except CatalogError Unit :=
  if dto.categoryId = .null ∨ dto.name = .null ∨ dto.name = .value "" ∨ dto.price = .null then
    .error .validation
  else .ok ()

/-- `assertDiscountBelowPrice` on what the item is to have. -/
def checkDiscount (dto : UpdateMenuItemDto) (found : MenuItemDocument) : Except CatalogError Unit :=
  StoreCatalog.assertDiscountBelowPrice (dto.price.toOption.getD found.price)
    (dto.discountedPrice.onto found.discountedPrice)

end UpdateMenuItemDto

/-! ## The requests -/

/-- A method of the service, after `restaurantId` and `requester`. -/
inductive MenuTask
  | createCategory (dto : CreateMenuCategoryDto)
  | updateCategory (categoryId : IdText) (dto : UpdateMenuCategoryDto)
  | deleteCategory (categoryId : IdText)
  | createItem (dto : CreateMenuItemDto)
  | updateItem (itemId : IdText) (dto : UpdateMenuItemDto)
  | deleteItem (itemId : IdText)
  | toggleItemAvailability (itemId : IdText)

structure MenuRequest where
  restaurantId : IdText
  requester : AccessTokenPayload
  task : MenuTask

inductive MenuPc
  | owner (request : MenuRequest)
  | categoryCreate (restaurantId : IdText) (dto : CreateMenuCategoryDto)
  | categoryFind (restaurantId categoryId : IdText) (dto : UpdateMenuCategoryDto)
  | categorySave (id : Nat) (dto : UpdateMenuCategoryDto) (found : MenuCategory)
  | deleteFind (restaurantId categoryId : IdText)
  | itemsDelete (restaurantId categoryId : IdText)
  | categoryDelete (restaurantId categoryId : IdText)
  | filingFind (restaurantId : IdText) (dto : CreateMenuItemDto)
  | itemCreate (restaurantId : IdText) (dto : CreateMenuItemDto)
  | movingFind (restaurantId itemId categoryId : IdText) (dto : UpdateMenuItemDto)
  | itemFind (restaurantId itemId : IdText) (dto : UpdateMenuItemDto)
  | itemSave (id : Nat) (dto : UpdateMenuItemDto) (found : MenuItemDocument)
  | deleteItemFind (restaurantId itemId : IdText)
  | itemDelete (restaurantId itemId : IdText)
  | toggleFind (restaurantId itemId : IdText)
  | toggleSave (id : Nat) (isAvailable : Bool)
  | returned
  | rejected (error : CatalogError)

namespace MenuPc

/-- What a check lets through, or throws. -/
def orThrow {α : Type} (next : α → MenuPc) : Except CatalogError α → MenuPc
  | .error e => .rejected e
  | .ok a => next a

end MenuPc

open MenuPc

/-- What a method goes on with once `assertOwnership` has let it. -/
def MenuTask.begin (restaurantId : IdText) : MenuTask → MenuPc
  | .createCategory dto => .categoryCreate restaurantId dto
  | .updateCategory categoryId dto => .categoryFind restaurantId categoryId dto
  | .deleteCategory categoryId => .deleteFind restaurantId categoryId
  | .createItem dto => .filingFind restaurantId dto
  | .updateItem itemId dto =>
    match dto.categoryId with
    | .value categoryId => .movingFind restaurantId itemId categoryId dto
    | _ => .itemFind restaurantId itemId dto
  | .deleteItem itemId => .deleteItemFind restaurantId itemId
  | .toggleItemAvailability itemId => .toggleFind restaurantId itemId

namespace Menu

/-- `categoryModel.create`. -/
def insertCategory (s : Menu) (restaurantId : IdText) (dto : CreateMenuCategoryDto) : Menu :=
  { s with
    categories := s.categories.create
      (some ⟨restaurantId, dto.name, dto.sortOrder.orDefault (some 0)⟩) }

/-- `itemModel.create`. -/
def insertItem (s : Menu) (restaurantId : IdText) (dto : CreateMenuItemDto) : Menu :=
  { s with
    items := s.items.create (some {
      restaurantId := restaurantId
      categoryId := dto.categoryId
      name := dto.name
      price := dto.price
      discountedPrice := dto.discountedPrice.toOption
      isAvailable := true
      sortOrder := dto.sortOrder.orDefault (some 0) }) }

def modifyCategory (s : Menu) (id : Nat) (f : MenuCategory → MenuCategory) : Menu :=
  { s with categories := s.categories.modify id (Option.map f) }

def modifyItem (s : Menu) (id : Nat) (f : MenuItemDocument → MenuItemDocument) : Menu :=
  { s with items := s.items.modify id (Option.map f) }

/-- `itemModel.deleteMany({ restaurantId, categoryId })`. -/
def deleteItemsOf (s : Menu) (restaurantId categoryId : IdText) : Menu :=
  { s with
    items := s.items.removeWhere fun _ item =>
      item.restaurantId = restaurantId && item.categoryId = categoryId }

/-- `categoryModel.deleteOne({ _id: categoryId, restaurantId })`. -/
def removeCategory (s : Menu) (restaurantId categoryId : IdText) : Menu :=
  { s with
    categories := s.categories.removeWhere fun id category =>
      id = categoryId.id && category.restaurantId = restaurantId }

/-- `itemModel.deleteOne({ _id: itemId, restaurantId })`. -/
def removeItem (s : Menu) (restaurantId itemId : IdText) : Menu :=
  { s with
    items := s.items.removeWhere fun id item =>
      id = itemId.id && item.restaurantId = restaurantId }

end Menu

/-- One database call, and what the request does until its next one.  The check for approval that
follows `itemModel.create` leaves the menu as it is. -/
def menuStep (s : Menu) (pc : MenuPc) (_ : Unit) : Option (Menu × MenuPc) :=
  match pc with
  | .owner request =>
    some (s, orThrow (fun _ => request.task.begin request.restaurantId)
      (s.assertOwnership request.restaurantId request.requester))
  | .categoryCreate restaurantId dto =>
    if dto.name = "" then some (s, .rejected .validation)
    else some (s.insertCategory restaurantId dto, .returned)
  | .categoryFind restaurantId categoryId dto =>
    some (s, orThrow (fun found =>
      orThrow (fun _ => .categorySave categoryId.id dto found) dto.validate)
        (s.findCategoryOrThrow restaurantId categoryId))
  | .categorySave id dto found => some (s.modifyCategory id (dto.save found), .returned)
  | .deleteFind restaurantId categoryId =>
    some (s, orThrow (fun _ => .itemsDelete restaurantId categoryId)
      (s.findCategoryOrThrow restaurantId categoryId))
  | .itemsDelete restaurantId categoryId =>
    some (s.deleteItemsOf restaurantId categoryId, .categoryDelete restaurantId categoryId)
  | .categoryDelete restaurantId categoryId =>
    some (s.removeCategory restaurantId categoryId, .returned)
  | .filingFind restaurantId dto =>
    some (s, orThrow (fun _ => orThrow (fun _ => .itemCreate restaurantId dto)
      (StoreCatalog.assertDiscountBelowPrice dto.price dto.discountedPrice.toOption))
        (s.findCategoryOrThrow restaurantId dto.categoryId))
  | .itemCreate restaurantId dto =>
    if dto.name = "" then some (s, .rejected .validation)
    else some (s.insertItem restaurantId dto, .returned)
  | .movingFind restaurantId itemId categoryId dto =>
    some (s, orThrow (fun _ => .itemFind restaurantId itemId dto)
      (s.findCategoryOrThrow restaurantId categoryId))
  | .itemFind restaurantId itemId dto =>
    some (s, orThrow (fun found => orThrow (fun _ =>
      orThrow (fun _ => .itemSave itemId.id dto found) dto.validate) (dto.checkDiscount found))
        (s.findItemOrThrow restaurantId itemId))
  | .itemSave id dto found => some (s.modifyItem id (dto.save found), .returned)
  | .deleteItemFind restaurantId itemId =>
    some (s, orThrow (fun _ => .itemDelete restaurantId itemId)
      (s.findItemOrThrow restaurantId itemId))
  | .itemDelete restaurantId itemId => some (s.removeItem restaurantId itemId, .returned)
  | .toggleFind restaurantId itemId =>
    some (s, orThrow (fun found => .toggleSave itemId.id !found.isAvailable)
      (s.findItemOrThrow restaurantId itemId))
  | .toggleSave id isAvailable =>
    some (s.modifyItem id fun item => { item with isAvailable := isAvailable }, .returned)
  | .returned => none
  | .rejected _ => none

/-- Any number of requests; restaurants are opened beside them. -/
def menus : Machine Menu MenuPc MenuRequest Unit UserId where
  start _ := .owner
  step := menuStep
  env s ownerId := some { s with owners := s.owners.create ownerId }

abbrev MenuPool := Pool Menu MenuPc

abbrev MenuEvent := Event MenuRequest Unit UserId

/-- Nothing is there yet. -/
def MenuPool.initial : MenuPool := ⟨.empty .empty, []⟩

/-! ## What a request has in hand -/

namespace MenuPc

/-- The restaurant and the category that a request is to file an item under: it has looked the
category up. -/
def filing : MenuPc → Option (IdText × IdText)
  | itemCreate restaurantId dto => some (restaurantId, dto.categoryId)
  | itemFind restaurantId _ dto => dto.categoryId.toOption.map (restaurantId, ·)
  | itemSave _ dto found => dto.categoryId.toOption.map (found.restaurantId, ·)
  | _ => none

/-- The restaurant and the category that a request is to delete. -/
def deleting : MenuPc → Option (IdText × IdText)
  | itemsDelete restaurantId categoryId => some (restaurantId, categoryId)
  | categoryDelete restaurantId categoryId => some (restaurantId, categoryId)
  | _ => none

/-- The item that a request is to save, as it was found. -/
def saving : MenuPc → Option (Nat × UpdateMenuItemDto × MenuItemDocument)
  | itemSave id dto found => some (id, dto, found)
  | _ => none

/-- The category that a request is to look up for an item that it moves. -/
def moving : MenuPc → Option (IdText × UpdateMenuItemDto)
  | movingFind _ _ categoryId dto => some (categoryId, dto)
  | _ => none

/-- The request has ended, or goes on with what is no category's and no price's. -/
def idle : MenuPc → Bool
  | categorySave _ _ _ => true
  | itemDelete _ _ => true
  | toggleSave _ _ => true
  | returned => true
  | rejected _ => true
  | _ => false

end MenuPc

/-- All that one database call can do. -/
inductive MenuMove (s : Menu) : MenuPc → Menu → MenuPc → Prop
  | same {pc pc' : MenuPc} (hidle : pc'.idle = true) : MenuMove s pc s pc'
  | begun {request : MenuRequest} :
      MenuMove s (.owner request) s (request.task.begin request.restaurantId)
  | mayFile {restaurantId : IdText} {dto : CreateMenuItemDto} {category : MenuCategory}
      (hcategory : s.findCategoryOrThrow restaurantId dto.categoryId = .ok category)
      (hdiscount : StoreCatalog.assertDiscountBelowPrice dto.price dto.discountedPrice.toOption =
        .ok ()) :
      MenuMove s (.filingFind restaurantId dto) s (.itemCreate restaurantId dto)
  | mayMove {restaurantId itemId categoryId : IdText} {dto : UpdateMenuItemDto}
      {category : MenuCategory}
      (hcategory : s.findCategoryOrThrow restaurantId categoryId = .ok category) :
      MenuMove s (.movingFind restaurantId itemId categoryId dto) s
        (.itemFind restaurantId itemId dto)
  | found {restaurantId itemId : IdText} {dto : UpdateMenuItemDto} {item : MenuItemDocument}
      (hitem : s.findItemOrThrow restaurantId itemId = .ok item)
      (hdiscount : dto.checkDiscount item = .ok ()) :
      MenuMove s (.itemFind restaurantId itemId dto) s (.itemSave itemId.id dto item)
  | mayDelete {restaurantId categoryId : IdText} {category : MenuCategory}
      (hcategory : s.findCategoryOrThrow restaurantId categoryId = .ok category) :
      MenuMove s (.deleteFind restaurantId categoryId) s (.itemsDelete restaurantId categoryId)
  | itemsDeleted {restaurantId categoryId : IdText} :
      MenuMove s (.itemsDelete restaurantId categoryId) (s.deleteItemsOf restaurantId categoryId)
        (.categoryDelete restaurantId categoryId)
  | categoryDeleted {restaurantId categoryId : IdText} :
      MenuMove s (.categoryDelete restaurantId categoryId)
        (s.removeCategory restaurantId categoryId) .returned
  | categoryCreated {restaurantId : IdText} {dto : CreateMenuCategoryDto} :
      MenuMove s (.categoryCreate restaurantId dto) (s.insertCategory restaurantId dto) .returned
  | categorySaved {id : Nat} {dto : UpdateMenuCategoryDto} {found : MenuCategory} :
      MenuMove s (.categorySave id dto found) (s.modifyCategory id (dto.save found)) .returned
  | created {restaurantId : IdText} {dto : CreateMenuItemDto} :
      MenuMove s (.itemCreate restaurantId dto) (s.insertItem restaurantId dto) .returned
  | saved {id : Nat} {dto : UpdateMenuItemDto} {found : MenuItemDocument} :
      MenuMove s (.itemSave id dto found) (s.modifyItem id (dto.save found)) .returned
  | removed {restaurantId itemId : IdText} :
      MenuMove s (.itemDelete restaurantId itemId) (s.removeItem restaurantId itemId) .returned
  | toggled {id : Nat} {isAvailable : Bool} :
      MenuMove s (.toggleSave id isAvailable)
        (s.modifyItem id fun item => { item with isAvailable := isAvailable }) .returned

section Moves

variable {s s' : Menu} {pc pc' : MenuPc}

theorem MenuMove.thrown {error : CatalogError} : MenuMove s pc s (.rejected error) := .same rfl

/-- **All that one database call can do.** -/
theorem menu_move (h : menuStep s pc () = some (s', pc')) : MenuMove s pc s' pc' := by
  cases pc with
  | owner request =>
    cases h
    cases s.assertOwnership request.restaurantId request.requester with
    | error e => exact .thrown
    | ok _ => exact .begun
  | categoryCreate restaurantId dto =>
    simp only [menuStep] at h
    split at h
    · cases h
      exact .thrown
    · cases h
      exact .categoryCreated
  | categoryFind restaurantId categoryId dto =>
    cases h
    cases s.findCategoryOrThrow restaurantId categoryId with
    | error e => exact .thrown
    | ok found =>
      simp only [orThrow]
      cases dto.validate with
      | error e => exact .thrown
      | ok _ => exact .same rfl
  | categorySave id dto found =>
    cases h
    exact .categorySaved
  | deleteFind restaurantId categoryId =>
    cases h
    cases hfind : s.findCategoryOrThrow restaurantId categoryId with
    | error e => exact .thrown
    | ok category => exact .mayDelete hfind
  | itemsDelete restaurantId categoryId =>
    cases h
    exact .itemsDeleted
  | categoryDelete restaurantId categoryId =>
    cases h
    exact .categoryDeleted
  | filingFind restaurantId dto =>
    cases h
    cases hfind : s.findCategoryOrThrow restaurantId dto.categoryId with
    | error e => exact .thrown
    | ok category =>
      simp only [orThrow]
      cases hdiscount : StoreCatalog.assertDiscountBelowPrice dto.price
          dto.discountedPrice.toOption with
      | error e => exact .thrown
      | ok _ => exact .mayFile hfind hdiscount
  | itemCreate restaurantId dto =>
    simp only [menuStep] at h
    split at h
    · cases h
      exact .thrown
    · cases h
      exact .created
  | movingFind restaurantId itemId categoryId dto =>
    cases h
    cases hfind : s.findCategoryOrThrow restaurantId categoryId with
    | error e => exact .thrown
    | ok category => exact .mayMove hfind
  | itemFind restaurantId itemId dto =>
    cases h
    cases hfind : s.findItemOrThrow restaurantId itemId with
    | error e => exact .thrown
    | ok item =>
      simp only [orThrow]
      cases hdiscount : dto.checkDiscount item with
      | error e => exact .thrown
      | ok _ =>
        cases dto.validate with
        | error e => exact .thrown
        | ok _ => exact .found hfind hdiscount
  | itemSave id dto found =>
    cases h
    exact .saved
  | deleteItemFind restaurantId itemId =>
    cases h
    cases s.findItemOrThrow restaurantId itemId with
    | error e => exact .thrown
    | ok item => exact .same rfl
  | itemDelete restaurantId itemId =>
    cases h
    exact .removed
  | toggleFind restaurantId itemId =>
    cases h
    cases s.findItemOrThrow restaurantId itemId with
    | error e => exact .thrown
    | ok item => exact .same rfl
  | toggleSave id isAvailable =>
    cases h
    exact .toggled
  | returned => cases h
  | rejected error => cases h

theorem findCategory_eq_ok {restaurantId categoryId : IdText} {category : MenuCategory}
    (h : s.findCategoryOrThrow restaurantId categoryId = .ok category) :
    s.categories.live categoryId.id = some category ∧ category.restaurantId = restaurantId := by
  unfold Menu.findCategoryOrThrow at h
  split at h
  · cases h
  · rename_i found hfind
    cases h
    obtain ⟨hlive, hof⟩ := Option.filter_eq_some_iff.mp hfind
    exact ⟨hlive, of_decide_eq_true hof⟩

theorem findItem_eq_ok {restaurantId itemId : IdText} {item : MenuItemDocument}
    (h : s.findItemOrThrow restaurantId itemId = .ok item) :
    s.items.live itemId.id = some item ∧ item.restaurantId = restaurantId := by
  unfold Menu.findItemOrThrow at h
  split at h
  · cases h
  · rename_i found hfind
    cases h
    obtain ⟨hlive, hof⟩ := Option.filter_eq_some_iff.mp hfind
    exact ⟨hlive, of_decide_eq_true hof⟩

/-- A document that is left was there before. -/
theorem live_of_removeWhere {α : Type} {c : Collection (Option α)} {p : Nat → α → Bool} {i : Nat}
    {a : α} (h : (c.removeWhere p).live i = some a) : c.live i = some a ∧ p i a = false := by
  rw [Collection.live_removeWhere, Option.filter_eq_some_iff] at h
  exact ⟨h.1, by simpa using h.2⟩

end Moves

end FoodDelivery
