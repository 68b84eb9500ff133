import FoodDelivery.Lib.Collection
import FoodDelivery.Orders.Lifecycle
import Mathlib.Data.NNRat.Defs

/-!
# The catalog of a store

`ProductsService` with its categories and products.  An id comes as text: a look-up by `_id` casts
it, and takes capital letters for small ones, while `storeId`, `parentCategoryId` and `categoryId`
are stored and compared as they are spelled.

* `StoreCatalog.collectDescendantIds`: the walk down from a category.
* `StoreCatalog.handle`: one request, run to its end.
-/

namespace FoodDelivery

open Store

namespace ProductsService

/-! ## Ids as text -/

/-- An id of 24 hexadecimal digits: the document it is cast to, and which of its letters are
capitals. -/
structure IdText where
  id : Nat
  capitals : Nat
  deriving DecidableEq, Repr

/-- `_id.toString()`, in small letters. -/
def IdText.of (id : Nat) : IdText := ⟨id, 0⟩

/-! ## The documents -/

structure ProductCategory where
  storeId : IdText
  name : String
  parentCategoryId : Option IdText
  sortOrder : Option Int
  deriving DecidableEq

structure Product where
  storeId : IdText
  categoryId : IdText
  name : String
  price : ℚ≥0
  discountedPrice : Option ℚ≥0
  deriving DecidableEq

/-- Names come trimmed. -/
structure CreateProductCategoryDto where
  name : String
  parentCategoryId : Given IdText
  sortOrder : Given Int
  deriving DecidableEq

structure UpdateProductCategoryDto where
  name : Given String
  parentCategoryId : Given IdText
  sortOrder : Given Int
  deriving DecidableEq

structure CreateProductDto where
  categoryId : IdText
  name : String
  price : ℚ≥0
  discountedPrice : Option ℚ≥0
  deriving DecidableEq

structure UpdateProductDto where
  categoryId : Given IdText
  name : Given String
  price : Given ℚ≥0
  discountedPrice : Given ℚ≥0
  deriving DecidableEq

/-- The owners of the stores, and all categories and products. -/
structure StoreCatalog where
  owners : Collection UserId
  categories : Collection (Option ProductCategory)
  products : Collection (Option Product)
  deriving DecidableEq

/-- How a request fails; `endless` when it never ends. -/
inductive CatalogError
  | http (error : HttpError)
  | validation
  | endless
  deriving DecidableEq

def notFound {α : Type} (message : String) : Except CatalogError α :=
  .error (.http (.notFound message))

def badRequest {α : Type} (message : String) : Except CatalogError α :=
  .error (.http (.badRequest message))

/-- `save()`, on a path that is required. -/
def required {α : Type} : Option α → Except CatalogError α
  | none => .error .validation
  | some a => .ok a

namespace StoreCatalog

/-- Stores without categories. -/
def empty (owners : Collection UserId) : StoreCatalog :=
  ⟨owners, Collection.empty, Collection.empty⟩

def withCategories (c : StoreCatalog) (categories : Collection (Option ProductCategory)) :
    StoreCatalog :=
  { c with categories := categories }

def withProducts (c : StoreCatalog) (products : Collection (Option Product)) : StoreCatalog :=
  { c with products := products }

/-! ## The checks -/

def assertOwnership (c : StoreCatalog) (storeId : IdText) (requester : AccessTokenPayload) :
    Except CatalogError Unit :=
  match c.owners.get storeId.id with
  | none => notFound "Store not found"
  | some ownerId => (assertOwnerOrAdmin .store ownerId requester).mapError .http

def findCategoryOrThrow (c : StoreCatalog) (storeId categoryId : IdText) :
    Except CatalogError ProductCategory :=
  match (c.categories.live categoryId.id).filter (·.storeId = storeId) with
  | none => notFound "Product category not found"
  | some category => .ok category

def findProductOrThrow (c : StoreCatalog) (storeId productId : IdText) :
    Except CatalogError Product :=
  match (c.products.live productId.id).filter (·.storeId = storeId) with
  | none => notFound "Product not found"
  | some product => .ok product

/-- `find({ storeId, parentCategoryId: { $in: frontier } })`. -/
def childIds (c : StoreCatalog) (storeId : IdText) (frontier : List IdText) : List Nat :=
  (c.categories.findLive fun _ category => category.storeId = storeId &&
    category.parentCategoryId.any (· ∈ frontier)).map (·.1)

/-- The loop of `collectDescendantIds`; `none` when it is not over after so many rounds. -/
def collect (c : StoreCatalog) (storeId : IdText) : Nat → List IdText → Option (List IdText)
  | _, [] => some []
  | 0, _ :: _ => none
  | n + 1, t :: frontier =>
    let childIds := (c.childIds storeId (t :: frontier)).map IdText.of
    (c.collect storeId n childIds).map (childIds ++ ·)

/-- A walk that is not over after more rounds than there are categories has met one twice. -/
def collectDescendantIds (c : StoreCatalog) (storeId rootId : IdText) :
    Except CatalogError (List IdText) :=
  match c.collect storeId (c.categories.nextId + 1) [rootId] with
  | none => .error .endless
  | some ids => .ok ids

def isDescendant (c : StoreCatalog) (storeId candidateId ancestorId : IdText) :
    Except CatalogError Bool := do
  let descendantIds ← c.collectDescendantIds storeId ancestorId
  return candidateId ∈ descendantIds

/-- The category that a product is filed under has no subcategories. -/
def findLeafCategoryOrThrow (c : StoreCatalog) (storeId categoryId : IdText) :
    Except CatalogError ProductCategory := do
  let category ← c.findCategoryOrThrow storeId categoryId
  if c.childIds storeId [categoryId] ≠ [] then
    badRequest "This category has subcategories — file products under one of those instead"
  else return category

def assertDiscountBelowPrice (price : ℚ≥0) (discountedPrice : Option ℚ≥0) :
    Except CatalogError Unit :=
  if discountedPrice.any (price ≤ ·) then
    badRequest "discountedPrice must be lower than price"
  else .ok ()

/-- A new parent is there, and is neither the category itself nor below it. -/
def assertMayMove (c : StoreCatalog) (storeId categoryId newParentId : IdText) :
    Except CatalogError Unit :=
  if newParentId = categoryId then badRequest "A category cannot be its own parent"
  else do
    let _ ← c.findCategoryOrThrow storeId newParentId
    let below ← c.isDescendant storeId newParentId categoryId
    if below then badRequest "Cannot move a category under one of its own subcategories"
    else return ()

/-- What a request gives is checked, when it is there. -/
def whenGiven {α : Type} (check : α → Except CatalogError Unit) : Given α → Except CatalogError Unit
  | .value a => check a
  | _ => .ok ()

/-! ## The methods -/

def createCategory (c : StoreCatalog) (storeId : IdText) (requester : AccessTokenPayload)
    (dto : CreateProductCategoryDto) : Except CatalogError StoreCatalog := do
  c.assertOwnership storeId requester
  whenGiven (fun parentCategoryId => (c.findCategoryOrThrow storeId parentCategoryId).map
    fun _ => ()) dto.parentCategoryId
  let name ← required (some dto.name |>.filter (· ≠ ""))
  return c.withCategories (c.categories.create (some {
    storeId := storeId
    name := name
    parentCategoryId := dto.parentCategoryId.toOption
    sortOrder := dto.sortOrder.orDefault (some 0) }))

def updateCategory (c : StoreCatalog) (storeId categoryId : IdText)
    (requester : AccessTokenPayload) (dto : UpdateProductCategoryDto) :
    Except CatalogError StoreCatalog := do
  c.assertOwnership storeId requester
  let category ← c.findCategoryOrThrow storeId categoryId
  whenGiven (c.assertMayMove storeId categoryId) dto.parentCategoryId
  let name ← required ((dto.name.onto (some category.name)).filter (· ≠ ""))
  return c.withCategories (c.categories.modify categoryId.id (Option.map fun old => { old with
    name := name
    parentCategoryId := dto.parentCategoryId.onto old.parentCategoryId
    sortOrder := dto.sortOrder.onto old.sortOrder }))

/-- The two calls of `deleteMany`: `categoryId` is compared as it is spelled, `_id` is cast. -/
def deleteMany (c : StoreCatalog) (storeId : IdText) (categoryIds : List IdText) :
    StoreCatalog where
  owners := c.owners
  products := c.products.removeWhere fun _ product =>
    product.storeId = storeId && product.categoryId ∈ categoryIds
  categories := c.categories.removeWhere fun id category =>
    category.storeId = storeId && id ∈ categoryIds.map (·.id)

def deleteCategory (c : StoreCatalog) (storeId categoryId : IdText)
    (requester : AccessTokenPayload) : Except CatalogError StoreCatalog := do
  c.assertOwnership storeId requester
  let _ ← c.findCategoryOrThrow storeId categoryId
  let categoryIds ← c.collectDescendantIds storeId categoryId
  return c.deleteMany storeId (categoryIds ++ [categoryId])

def createProduct (c : StoreCatalog) (storeId : IdText) (requester : AccessTokenPayload)
    (dto : CreateProductDto) : Except CatalogError StoreCatalog := do
  c.assertOwnership storeId requester
  let _ ← c.findLeafCategoryOrThrow storeId dto.categoryId
  assertDiscountBelowPrice dto.price dto.discountedPrice
  let name ← required (some dto.name |>.filter (· ≠ ""))
  return c.withProducts (c.products.create (some {
    storeId := storeId
    categoryId := dto.categoryId
    name := name
    price := dto.price
    discountedPrice := dto.discountedPrice }))

def updateProduct (c : StoreCatalog) (storeId productId : IdText) (requester : AccessTokenPayload)
    (dto : UpdateProductDto) : Except CatalogError StoreCatalog := do
  c.assertOwnership storeId requester
  whenGiven (fun categoryId => (c.findLeafCategoryOrThrow storeId categoryId).map fun _ => ())
    dto.categoryId
  let product ← c.findProductOrThrow storeId productId
  let discountedPrice := dto.discountedPrice.onto product.discountedPrice
  assertDiscountBelowPrice (dto.price.toOption.getD product.price) discountedPrice
  let categoryId ← required (dto.categoryId.onto (some product.categoryId))
  let name ← required ((dto.name.onto (some product.name)).filter (· ≠ ""))
  let price ← required (dto.price.onto (some product.price))
  return c.withProducts (c.products.modify productId.id (Option.map fun old => { old with
    categoryId := categoryId
    name := name
    price := price
    discountedPrice := discountedPrice }))

def deleteProduct (c : StoreCatalog) (storeId productId : IdText)
    (requester : AccessTokenPayload) : Except CatalogError StoreCatalog := do
  c.assertOwnership storeId requester
  let _ ← c.findProductOrThrow storeId productId
  return c.withProducts (c.products.remove productId.id)

end StoreCatalog

/-! ## Requests -/

inductive CatalogCall
  | createCategory (storeId : IdText) (requester : AccessTokenPayload)
    (dto : CreateProductCategoryDto)
  | updateCategory (storeId categoryId : IdText) (requester : AccessTokenPayload)
    (dto : UpdateProductCategoryDto)
  | deleteCategory (storeId categoryId : IdText) (requester : AccessTokenPayload)
  | createProduct (storeId : IdText) (requester : AccessTokenPayload) (dto : CreateProductDto)
  | updateProduct (storeId productId : IdText) (requester : AccessTokenPayload)
    (dto : UpdateProductDto)
  | deleteProduct (storeId productId : IdText) (requester : AccessTokenPayload)

namespace StoreCatalog

def handle (c : StoreCatalog) : CatalogCall → Except CatalogError StoreCatalog
  | .createCategory storeId requester dto => c.createCategory storeId requester dto
  | .updateCategory storeId categoryId requester dto =>
    c.updateCategory storeId categoryId requester dto
  | .deleteCategory storeId categoryId requester => c.deleteCategory storeId categoryId requester
  | .createProduct storeId requester dto => c.createProduct storeId requester dto
  | .updateProduct storeId productId requester dto =>
    c.updateProduct storeId productId requester dto
  | .deleteProduct storeId productId requester => c.deleteProduct storeId productId requester

/-- A request that throws, or never ends, writes nothing. -/
def step (c : StoreCatalog) (call : CatalogCall) : StoreCatalog := (c.handle call).toOption.getD c

end StoreCatalog

end ProductsService

end FoodDelivery
