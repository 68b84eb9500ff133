import FoodDelivery.Lib.Collection
import FoodDelivery.Orders.Lifecycle
import Mathlib.Algebra.Order.Ring.Rat

/-!
# Restaurants, stores and what they list

`RestaurantsService` and `StoresService` on their two schemas, and `MenuService` and
`ProductsService` on what a business sells, as far as approval goes by them.  The two halves mirror
each other, so a business, a category and an item stand for either side; `Seller` says which.  What
Youverify answers is the outside: a call carries the outcome of `verifyBusinessRegistration`.

* `Business`: the document, and what `update`, `approve` and `runVerification` make of it.
* `Listings.handle`: one request, from the guard of its route to what it throws.
-/

namespace FoodDelivery

open Store

/-! ## Businesses -/

/-- `BUSINESS_VERIFICATION_STATUSES`. -/
inductive BusinessVerificationStatus
  | notAttempted
  | verified
  | mismatch
  deriving DecidableEq, Repr

structure BusinessVerificationResult where
  status : BusinessVerificationStatus
  providerRegisteredName : Option String
  providerRegisteredAddress : Option String
  providerRawStatus : Option String
  checkedAt : Option Time
  failureReason : Option String
  deriving DecidableEq

/-- A restaurant, or a store, whose `cuisineTypes` are its `tags`. -/
structure Business where
  ownerId : UserId
  name : String
  description : Option String
  cuisineTypes : Option (List String)
  logoUrl : Option String
  coverUrl : Option String
  complianceDocumentUrl : Option String
  businessRegistrationNumber : Option String
  businessVerification : BusinessVerificationResult
  currency : String
  country : String
  isOpen : Bool
  isApproved : Bool
  deriving DecidableEq

/-- `CreateRestaurantDto` and `CreateStoreDto`, after the schema's setters. -/
structure CreateBusinessDto where
  name : String
  description : Given String
  cuisineTypes : Given (List String)
  logoUrl : Given String
  coverUrl : Given String
  complianceDocumentUrl : String
  businessRegistrationNumber : String
  currency : String
  country : String
  deriving DecidableEq

/-- `UpdateRestaurantDto` and `UpdateStoreDto`, `PartialType`s: every field is optional. -/
structure UpdateBusinessDto where
  name : Given String
  description : Given String
  cuisineTypes : Given (List String)
  logoUrl : Given String
  coverUrl : Given String
  complianceDocumentUrl : Given String
  businessRegistrationNumber : Given String
  currency : Given String
  country : Given String
  deriving DecidableEq

/-- Nothing given. -/
def UpdateBusinessDto.empty : UpdateBusinessDto :=
  ⟨.absent, .absent, .absent, .absent, .absent, .absent, .absent, .absent, .absent⟩

/-- One of `CONTENT_FIELDS` is given. -/
def UpdateBusinessDto.touchesContent (dto : UpdateBusinessDto) : Bool :=
  dto.name.isDefined || dto.description.isDefined || dto.cuisineTypes.isDefined ||
    dto.logoUrl.isDefined || dto.coverUrl.isDefined

/-- `BusinessVerificationOutcome`. -/
inductive BusinessVerificationOutcome
  | verified (registeredName : String) (registeredAddress : Option String) (rawStatus : String)
  | mismatch (registeredName registeredAddress rawStatus : Option String) (reason : String)
  | unknown (reason : String)
  deriving DecidableEq

/-- What `runVerification` stores. -/
def BusinessVerificationOutcome.result (now : Time) :
    BusinessVerificationOutcome → BusinessVerificationResult
  | .verified registeredName registeredAddress rawStatus =>
    ⟨.verified, some registeredName, registeredAddress, some rawStatus, some now, none⟩
  | .mismatch registeredName registeredAddress rawStatus reason =>
    ⟨.mismatch, registeredName, registeredAddress, rawStatus, some now, some reason⟩
  | .unknown reason => ⟨.notAttempted, none, none, none, none, some reason⟩

namespace Business

/-- The schema's defaults under what the body gives. -/
def created (ownerId : UserId) (dto : CreateBusinessDto) : Business where
  ownerId := ownerId
  name := dto.name
  description := dto.description.orDefault (some "")
  cuisineTypes := dto.cuisineTypes.orDefault (some [])
  logoUrl := dto.logoUrl.orDefault none
  coverUrl := dto.coverUrl.orDefault none
  complianceDocumentUrl := some dto.complianceDocumentUrl
  businessRegistrationNumber := some dto.businessRegistrationNumber
  businessVerification := ⟨.notAttempted, none, none, none, none, none⟩
  currency := dto.currency
  country := dto.country
  isOpen := true
  isApproved := false

def runVerification (b : Business) (now : Time) (outcome : BusinessVerificationOutcome) :
    Business :=
  { b with businessVerification := outcome.result now }

/-- The required paths hold something. -/
def valid (b : Business) : Bool := b.name ≠ "" && (b.currency ≠ "" && b.country ≠ "")

/-- `Object.assign(restaurant, dto)`; `none` when a required path is assigned `null`. -/
def assign (b : Business) (dto : UpdateBusinessDto) : Option Business := do
  let name ← dto.name.onto (some b.name)
  let currency ← dto.currency.onto (some b.currency)
  let country ← dto.country.onto (some b.country)
  return { b with
    name := name
    description := dto.description.onto b.description
    cuisineTypes := dto.cuisineTypes.onto b.cuisineTypes
    logoUrl := dto.logoUrl.onto b.logoUrl
    coverUrl := dto.coverUrl.onto b.coverUrl
    complianceDocumentUrl := dto.complianceDocumentUrl.onto b.complianceDocumentUrl
    businessRegistrationNumber := dto.businessRegistrationNumber.onto b.businessRegistrationNumber
    currency := currency
    country := country }

/-- What `update` saves. -/
def update (b : Business) (dto : UpdateBusinessDto) : Option Business :=
  ({ b with isApproved := b.isApproved && !dto.touchesContent }.assign dto).filter (·.valid)

def toggleOpen (b : Business) : Business := { b with isOpen := !b.isOpen }

def approve (sellerType : SellerType) (b : Business) : Except HttpError Business :=
  if isBlank b.complianceDocumentUrl then
    .error (.badRequest
      s!"This {sellerType.name} has not uploaded a business registration document yet")
  else .ok { b with isApproved := true }

/-- What `autoApproveIfEligible` makes of the document. -/
def autoApproveIfEligible (sellerType : SellerType) (b : Business) : Except HttpError Business :=
  if b.isApproved then .ok b
  else if b.businessVerification.status ≠ .verified then .ok b
  else b.approve sellerType

end Business

/-! ## Categories and items -/

abbrev CategoryId := Nat
abbrev CatalogItemId := Nat

/-- `MenuCategory` and `ProductCategory`; the first has no parent. -/
structure Category where
  seller : Seller
  name : String
  parentCategoryId : Option CategoryId
  deriving DecidableEq

/-- `MenuItem` and `Product`. -/
structure CatalogItem where
  seller : Seller
  categoryId : CategoryId
  name : String
  price : ℚ≥0
  discountedPrice : Option ℚ≥0
  isAvailable : Bool
  deriving DecidableEq

/-- `CreateMenuCategoryDto` and `CreateProductCategoryDto`. -/
structure CreateCategoryDto where
  name : String
  parentCategoryId : Given CategoryId
  deriving DecidableEq

/-- `UpdateMenuCategoryDto` and `UpdateProductCategoryDto`. -/
structure UpdateCategoryDto where
  name : Given String
  parentCategoryId : Given CategoryId
  deriving DecidableEq

/-- `CreateMenuItemDto` and `CreateProductDto`. -/
structure CreateItemDto where
  categoryId : CategoryId
  name : String
  price : ℚ≥0
  discountedPrice : Option ℚ≥0
  deriving DecidableEq

/-- `UpdateMenuItemDto` and `UpdateProductDto`. -/
structure UpdateItemDto where
  categoryId : Given CategoryId
  name : Given String
  price : Given ℚ≥0
  discountedPrice : Given ℚ≥0
  deriving DecidableEq

/-! ## The services -/

/-- What the businesses sell.  The collections of the two sides are one: every query names the
seller. -/
structure Catalog where
  categories : Collection (Option Category)
  items : Collection (Option CatalogItem)
  deriving DecidableEq

structure Listings where
  restaurants : Collection Business
  stores : Collection Business
  catalog : Catalog
  deriving DecidableEq

/-- What a request throws: an HTTP error, or what `create` and `save` throw when a validator turns
the document down. -/
inductive ListingError
  | http (error : HttpError)
  | validation
  deriving DecidableEq, Repr

namespace Listings

/-- Nobody is there yet. -/
def empty : Listings := ⟨Collection.empty, Collection.empty, ⟨Collection.empty, Collection.empty⟩⟩

def withCatalog (s : Listings) (catalog : Catalog) : Listings := { s with catalog := catalog }

def business (s : Listings) : Seller → Option Business
  | .restaurant id => s.restaurants.get id
  | .store id => s.stores.get id

def modifyBusiness (s : Listings) (seller : Seller) (f : Business → Business) : Listings :=
  match seller with
  | .restaurant id => { s with restaurants := s.restaurants.modify id f }
  | .store id => { s with stores := s.stores.modify id f }

def insertBusiness (s : Listings) (sellerType : SellerType) (b : Business) : Listings :=
  match sellerType with
  | .restaurant => { s with restaurants := s.restaurants.create b }
  | .store => { s with stores := s.stores.create b }

/-- A check of the service. -/
def check {α : Type} : Except HttpError α → Except ListingError α
  | .error e => .error (.http e)
  | .ok a => .ok a

/-- `save()`, on a document that a validator may turn down. -/
def saved {α : Type} : Option α → Except ListingError α
  | none => .error .validation
  | some a => .ok a

def findByIdOrThrow (s : Listings) (seller : Seller) : Except ListingError Business :=
  match s.business seller with
  | none => .error (.http (.notFound s!"{seller.sellerType.title} not found"))
  | some b => .ok b

/-- The business, once its owner or an admin asks for it. -/
def assertOwnership (s : Listings) (seller : Seller) (requester : AccessTokenPayload) :
    Except ListingError Business := do
  let b ← s.findByIdOrThrow seller
  check (assertOwnerOrAdmin seller.sellerType b.ownerId requester)
  return b

/-! ### `RestaurantsService` and `StoresService` -/

def create (s : Listings) (sellerType : SellerType) (ownerId : UserId) (dto : CreateBusinessDto)
    (now : Time) (outcome : BusinessVerificationOutcome) : Except ListingError Listings := do
  let b ← saved (some (Business.created ownerId dto) |>.filter (·.valid))
  return s.insertBusiness sellerType (b.runVerification now outcome)

def update (s : Listings) (seller : Seller) (requester : AccessTokenPayload)
    (dto : UpdateBusinessDto) : Except ListingError Listings := do
  let b ← s.assertOwnership seller requester
  let b' ← saved (b.update dto)
  return s.modifyBusiness seller fun _ => b'

def toggleOpen (s : Listings) (seller : Seller) (requester : AccessTokenPayload) :
    Except ListingError Listings := do
  let b ← s.assertOwnership seller requester
  return s.modifyBusiness seller fun _ => b.toggleOpen

def reverifyBusiness (s : Listings) (seller : Seller) (requester : AccessTokenPayload)
    (registrationNumber : String) (now : Time) (outcome : BusinessVerificationOutcome) :
    Except ListingError Listings := do
  let b ← s.assertOwnership seller requester
  let b' := { b with businessRegistrationNumber := some registrationNumber }
  return s.modifyBusiness seller fun _ => b'.runVerification now outcome

def approve (s : Listings) (seller : Seller) : Except ListingError Listings := do
  let b ← s.findByIdOrThrow seller
  let b' ← check (b.approve seller.sellerType)
  return s.modifyBusiness seller fun _ => b'

def autoApproveIfEligible (s : Listings) (seller : Seller) : Except ListingError Listings := do
  let b ← s.findByIdOrThrow seller
  let b' ← check (b.autoApproveIfEligible seller.sellerType)
  return s.modifyBusiness seller fun _ => b'

end Listings

/-! ### `MenuService` and `ProductsService` -/

namespace Catalog

def findCategoryOrThrow (c : Catalog) (seller : Seller) (categoryId : CategoryId) :
    Except ListingError Category :=
  match (c.categories.live categoryId).filter (·.seller = seller) with
  | some category => .ok category
  | none => .error (.http (.notFound (match seller with
      | .restaurant _ => "Menu category not found"
      | .store _ => "Product category not found")))

/-- The ids of the categories right under these. -/
def childIds (c : Catalog) (seller : Seller) (parents : List CategoryId) : List CategoryId :=
  (c.categories.findLive fun _ category => category.seller = seller &&
    category.parentCategoryId.any (· ∈ parents)).map (·.1)

/-- The walk of `collectDescendantIds`, level by level. -/
def descend (c : Catalog) (seller : Seller) : Nat → List CategoryId → List CategoryId
  | 0, _ => []
  | _, [] => []
  | levels + 1, frontier =>
    c.childIds seller frontier ++ c.descend seller levels (c.childIds seller frontier)

/-- A tree has no more levels than categories. -/
def collectDescendantIds (c : Catalog) (seller : Seller) (rootId : CategoryId) :
    List CategoryId :=
  c.descend seller c.categories.nextId [rootId]

/-- What a body says of the parent; menus have no such field. -/
def parentGiven : Seller → Given CategoryId → Given CategoryId
  | .restaurant _, _ => .absent
  | .store _, parentCategoryId => parentCategoryId

/-- The parent of a new category, if there is to be one. -/
def assertParent (c : Catalog) (seller : Seller) : Option CategoryId → Except ListingError Unit
  | none => .ok ()
  | some parentCategoryId => (c.findCategoryOrThrow seller parentCategoryId).map fun _ => ()

/-- A store's category must not be moved under itself. -/
def assertMayMove (c : Catalog) (seller : Seller) (categoryId : CategoryId) :
    Option CategoryId → Except ListingError Unit
  | none => .ok ()
  | some newParentId =>
    if newParentId = categoryId then
      .error (.http (.badRequest "A category cannot be its own parent"))
    else
      match c.findCategoryOrThrow seller newParentId with
      | .error e => .error e
      | .ok _ =>
        if newParentId ∈ c.collectDescendantIds seller categoryId then
          .error (.http
            (.badRequest "Cannot move a category under one of its own subcategories"))
        else .ok ()

/-- Where an item is filed: a store's category must be a leaf. -/
def assertItemCategory (c : Catalog) (seller : Seller) :
    Option CategoryId → Except ListingError Unit
  | none => .ok ()
  | some categoryId =>
    match c.findCategoryOrThrow seller categoryId, seller with
    | .error e, _ => .error e
    | .ok _, .restaurant _ => .ok ()
    | .ok _, .store _ =>
      if c.childIds seller [categoryId] = [] then .ok ()
      else .error (.http (.badRequest
        "This category has subcategories — file products under one of those instead"))

def assertDiscountBelowPrice (price : ℚ≥0) (discountedPrice : Option ℚ≥0) :
    Except HttpError Unit :=
  if discountedPrice.any (price ≤ ·) then
    .error (.badRequest "discountedPrice must be lower than price")
  else .ok ()

def findItemOrThrow (c : Catalog) (seller : Seller) (itemId : CatalogItemId) :
    Except ListingError CatalogItem :=
  match (c.items.live itemId).filter (·.seller = seller) with
  | some item => .ok item
  | none => .error (.http (.notFound (match seller with
      | .restaurant _ => "Menu item not found"
      | .store _ => "Product not found")))

end Catalog

namespace Listings

def createCategory (s : Listings) (seller : Seller) (requester : AccessTokenPayload)
    (dto : CreateCategoryDto) : Except ListingError Catalog := do
  let _ ← s.assertOwnership seller requester
  let parent := Catalog.parentGiven seller dto.parentCategoryId
  s.catalog.assertParent seller parent.toOption
  let name ← saved (some dto.name |>.filter (· ≠ ""))
  return { s.catalog with
    categories := s.catalog.categories.create (some ⟨seller, name, parent.toOption⟩) }

def updateCategory (s : Listings) (seller : Seller) (categoryId : CategoryId)
    (requester : AccessTokenPayload) (dto : UpdateCategoryDto) : Except ListingError Catalog := do
  let _ ← s.assertOwnership seller requester
  let category ← s.catalog.findCategoryOrThrow seller categoryId
  let parent := Catalog.parentGiven seller dto.parentCategoryId
  s.catalog.assertMayMove seller categoryId parent.toOption
  let name ← saved ((dto.name.onto (some category.name)).filter (· ≠ ""))
  return { s.catalog with
    categories := s.catalog.categories.modify categoryId fun _ =>
      some ⟨seller, name, parent.onto category.parentCategoryId⟩ }

/-- A store's category goes with all that is under it. -/
def deleteCategory (s : Listings) (seller : Seller) (categoryId : CategoryId)
    (requester : AccessTokenPayload) : Except ListingError Catalog := do
  let _ ← s.assertOwnership seller requester
  let _ ← s.catalog.findCategoryOrThrow seller categoryId
  let categoryIds := match seller with
    | .restaurant _ => [categoryId]
    | .store _ => s.catalog.collectDescendantIds seller categoryId ++ [categoryId]
  let itemIds := (s.catalog.items.findLive fun _ item =>
    item.seller = seller && item.categoryId ∈ categoryIds).map (·.1)
  return {
    items := itemIds.foldl Collection.remove s.catalog.items
    categories := categoryIds.foldl Collection.remove s.catalog.categories }

/-- What `createItem` and `createProduct` check and create. -/
def insertItem (s : Listings) (seller : Seller) (requester : AccessTokenPayload)
    (dto : CreateItemDto) : Except ListingError Catalog := do
  let _ ← s.assertOwnership seller requester
  s.catalog.assertItemCategory seller (some dto.categoryId)
  check (Catalog.assertDiscountBelowPrice dto.price dto.discountedPrice)
  let name ← saved (some dto.name |>.filter (· ≠ ""))
  return { s.catalog with
    items := s.catalog.items.create
      (some ⟨seller, dto.categoryId, name, dto.price, dto.discountedPrice, true⟩) }

/-- `createItem` and `createProduct`.  What `autoApproveIfEligible` throws is logged. -/
def createItem (s : Listings) (seller : Seller) (requester : AccessTokenPayload)
    (dto : CreateItemDto) : Except ListingError Listings := do
  let catalog ← s.insertItem seller requester dto
  return ((s.withCatalog catalog).autoApproveIfEligible seller).toOption.getD
    (s.withCatalog catalog)

/-- `updateItem` and `updateProduct`. -/
def updateItem (s : Listings) (seller : Seller) (itemId : CatalogItemId)
    (requester : AccessTokenPayload) (dto : UpdateItemDto) : Except ListingError Catalog := do
  let _ ← s.assertOwnership seller requester
  s.catalog.assertItemCategory seller dto.categoryId.toOption
  let item ← s.catalog.findItemOrThrow seller itemId
  let discountedPrice := dto.discountedPrice.onto item.discountedPrice
  check (Catalog.assertDiscountBelowPrice (dto.price.toOption.getD item.price) discountedPrice)
  let categoryId ← saved (dto.categoryId.onto (some item.categoryId))
  let name ← saved ((dto.name.onto (some item.name)).filter (· ≠ ""))
  let price ← saved (dto.price.onto (some item.price))
  return { s.catalog with
    items := s.catalog.items.modify itemId fun _ =>
      some ⟨seller, categoryId, name, price, discountedPrice, item.isAvailable⟩ }

/-- `deleteItem` and `deleteProduct`. -/
def deleteItem (s : Listings) (seller : Seller) (itemId : CatalogItemId)
    (requester : AccessTokenPayload) : Except ListingError Catalog := do
  let _ ← s.assertOwnership seller requester
  let _ ← s.catalog.findItemOrThrow seller itemId
  return { s.catalog with items := s.catalog.items.remove itemId }

/-- `toggleItemAvailability` and `toggleProductAvailability`. -/
def toggleItemAvailability (s : Listings) (seller : Seller) (itemId : CatalogItemId)
    (requester : AccessTokenPayload) : Except ListingError Catalog := do
  let _ ← s.assertOwnership seller requester
  let item ← s.catalog.findItemOrThrow seller itemId
  return { s.catalog with
    items := s.catalog.items.modify itemId fun _ =>
      some { item with isAvailable := !item.isAvailable } }

/-! ### `AdminService` -/

/-- How many items `approveRestaurant` and `approveStore` count.  A menu shows only what is in a
category. -/
def itemCount (s : Listings) (seller : Seller) : Nat :=
  (s.catalog.items.findLive fun _ item => item.seller = seller &&
    match seller with
    | .restaurant _ => (s.catalog.categories.live item.categoryId).any (·.seller = seller)
    | .store _ => true).length

/-- `approveRestaurant` and `approveStore`. -/
def approveByAdmin (s : Listings) (seller : Seller) : Except ListingError Listings :=
  if s.itemCount seller = 0 then
    .error (.http (.badRequest (match seller with
      | .restaurant _ => "This restaurant has no menu items yet — add at least one before approving"
      | .store _ => "This store has no products yet — add at least one before approving")))
  else s.approve seller

end Listings

/-! ## Requests -/

inductive ListingCall
  | create (sellerType : SellerType) (requester : AccessTokenPayload) (dto : CreateBusinessDto)
    (now : Time) (outcome : BusinessVerificationOutcome)
  | update (seller : Seller) (requester : AccessTokenPayload) (dto : UpdateBusinessDto)
  | toggleOpen (seller : Seller) (requester : AccessTokenPayload)
  | reverifyBusiness (seller : Seller) (requester : AccessTokenPayload)
    (registrationNumber : String) (now : Time) (outcome : BusinessVerificationOutcome)
  | approve (seller : Seller) (requester : AccessTokenPayload)
  | createCategory (seller : Seller) (requester : AccessTokenPayload) (dto : CreateCategoryDto)
  | updateCategory (seller : Seller) (categoryId : CategoryId) (requester : AccessTokenPayload)
    (dto : UpdateCategoryDto)
  | deleteCategory (seller : Seller) (categoryId : CategoryId) (requester : AccessTokenPayload)
  | createItem (seller : Seller) (requester : AccessTokenPayload) (dto : CreateItemDto)
  | updateItem (seller : Seller) (itemId : CatalogItemId) (requester : AccessTokenPayload)
    (dto : UpdateItemDto)
  | deleteItem (seller : Seller) (itemId : CatalogItemId) (requester : AccessTokenPayload)
  | toggleItemAvailability (seller : Seller) (itemId : CatalogItemId)
    (requester : AccessTokenPayload)

namespace Listings

/-- The `@Roles` of a route. -/
def roles (allowed : List UserRole) (requester : AccessTokenPayload)
    (call : Except ListingError Listings) : Except ListingError Listings :=
  if requester.role ∈ allowed then call
  else .error (.http (.forbidden "You do not have permission to perform this action"))

/-- The roles of the vendors' routes. -/
def vendorRoles : List UserRole := [.restaurantOwner, .admin]

def handle (s : Listings) : ListingCall → Except ListingError Listings
  | .create sellerType requester dto now outcome =>
    roles vendorRoles requester (s.create sellerType requester.sub dto now outcome)
  | .update seller requester dto => roles vendorRoles requester (s.update seller requester dto)
  | .toggleOpen seller requester => roles vendorRoles requester (s.toggleOpen seller requester)
  | .reverifyBusiness seller requester registrationNumber now outcome =>
    roles vendorRoles requester (s.reverifyBusiness seller requester registrationNumber now outcome)
  | .approve seller requester => roles [.admin] requester (s.approveByAdmin seller)
  | .createCategory seller requester dto =>
    roles vendorRoles requester ((s.createCategory seller requester dto).map s.withCatalog)
  | .updateCategory seller categoryId requester dto =>
    roles vendorRoles requester
      ((s.updateCategory seller categoryId requester dto).map s.withCatalog)
  | .deleteCategory seller categoryId requester =>
    roles vendorRoles requester ((s.deleteCategory seller categoryId requester).map s.withCatalog)
  | .createItem seller requester dto =>
    roles vendorRoles requester (s.createItem seller requester dto)
  | .updateItem seller itemId requester dto =>
    roles vendorRoles requester ((s.updateItem seller itemId requester dto).map s.withCatalog)
  | .deleteItem seller itemId requester =>
    roles vendorRoles requester ((s.deleteItem seller itemId requester).map s.withCatalog)
  | .toggleItemAvailability seller itemId requester =>
    roles vendorRoles requester
      ((s.toggleItemAvailability seller itemId requester).map s.withCatalog)

/-- A request that throws leaves the collections as they are. -/
def step (s : Listings) (call : ListingCall) : Listings :=
  match s.handle call with
  | .ok s' => s'
  | .error _ => s

end Listings

end FoodDelivery
