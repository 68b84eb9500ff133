import FoodDelivery.Auth.User
import FoodDelivery.Lib.Paging
import FoodDelivery.Lib.Regex
import FoodDelivery.Users.Addresses
import Mathlib.Algebra.Order.Ring.Rat
import Mathlib.Data.Prod.Lex
import Mathlib.Order.WithBot

/-!
# Search and pages

The listings with a search field and pages: `findAllApproved` of restaurants and of stores, and
`listAll` of users.  A request reads the documents in some order `rows`, which decides what the
database does with equal sort keys.  `fold` is what option `i` compares characters by.

* `searchPattern`: the pattern that a search becomes.
* `paginate`: the page and the count of what a filter finds.
-/

namespace FoodDelivery

open Paging

/-! ## The pattern of a search -/

/-- `escapeRegExp`. -/
def escapeRegExp (value : String) : List Char := Regex.escape value.toList

/-- The pattern that `query.search` becomes, where the database can read it: none with a NUL
character. -/
def searchPattern (search : String) : Option Regex.Pattern :=
  let pattern := escapeRegExp (UsersService.trim search)
  if Char.ofNat 0 ∈ pattern then none else Regex.parse pattern

section Listings

variable {α δ κ : Type} [DecidableEq δ] (fold : Char → δ)

/-- `{ $regex: pattern, $options: 'i' }` on one of the fields, where `query.search` is not empty. -/
def searchFilter (search : Option String) (fields : α → List String) : Option (α → Bool) :=
  match search.filter (· ≠ "") with
  | none => some fun _ => true
  | some s => (searchPattern s).map fun p d => (fields d).any fun f => Regex.finds fold f.toList p

/-! ## Pages -/

structure PaginatedResult (α : Type) where
  items : List α
  total : Nat
  page : Nat
  limit : Nat
  totalPages : Nat
  deriving DecidableEq

/-- `find(filter).skip((page - 1) * limit).limit(limit).sort(sort)`, and
`countDocuments(filter)`. -/
def paginate [LinearOrder κ] (filter : α → Bool) (key : α → κ) (rows : List α)
    (page limit : Option Nat) : PaginatedResult α :=
  let page := page.getD 1
  let limit := limit.getD 20
  let total := (rows.filter filter).length
  ⟨Paging.page (sortBy key (rows.filter filter)) page limit, total, page, limit,
    Paging.totalPages total limit⟩

/-! ## Restaurants and stores -/

inductive StoreType
  | groceries
  | pharmacyBeauty
  deriving DecidableEq, Repr

/-- A restaurant, or a store, whose `cuisineTypes` are its `tags`.  Only a restaurant has a
`priceLevel`, and only a store a `type`. -/
structure Listed where
  id : VendorId
  slug : String
  name : String
  cuisineTypes : List String
  type : Option StoreType
  isApproved : Bool
  avgRating : ℚ
  priceLevel : Nat
  estimatedDeliveryMinutes : Option Nat
  isSponsored : Bool
  createdAt : Time
  deriving DecidableEq

/-- `RESTAURANT_SORTS`. -/
inductive RestaurantSort
  | newest
  | rating
  | priceAsc
  | priceDesc
  | deliveryTime
  deriving DecidableEq, Repr

/-- `STORE_SORTS`. -/
inductive StoreSort
  | newest
  | rating
  | deliveryTime
  deriving DecidableEq, Repr

/-- What is compared: lower values first, and no value before all others. -/
abbrev SortKey := Bool ×ₗ WithBot ℚ

/-- `SORT_SPECS` of restaurants. -/
def RestaurantSort.spec : RestaurantSort → Listed → WithBot ℚ
  | newest, d => ((-(d.createdAt : ℚ) : ℚ) : WithBot ℚ)
  | rating, d => ((-d.avgRating : ℚ) : WithBot ℚ)
  | priceAsc, d => ((d.priceLevel : ℚ) : WithBot ℚ)
  | priceDesc, d => ((-(d.priceLevel : ℚ) : ℚ) : WithBot ℚ)
  | deliveryTime, d => d.estimatedDeliveryMinutes.map fun m => (m : ℚ)

/-- `SORT_SPECS` of stores. -/
def StoreSort.spec : StoreSort → Listed → WithBot ℚ
  | newest => RestaurantSort.newest.spec
  | rating => RestaurantSort.rating.spec
  | deliveryTime => RestaurantSort.deliveryTime.spec

/-- `{ isSponsored: -1, ...SORT_SPECS[sort] }`. -/
def sponsoredFirst (spec : Listed → WithBot ℚ) (d : Listed) : SortKey :=
  toLex (!d.isSponsored, spec d)

/-- `filter.estimatedDeliveryMinutes`. -/
def withinMinutes (maxDeliveryMinutes : Option Nat) (byTime : Bool) (d : Listed) : Bool :=
  match maxDeliveryMinutes with
  | some m => d.estimatedDeliveryMinutes.any (· ≤ m)
  | none => !byTime || d.estimatedDeliveryMinutes.isSome

structure ListRestaurantsDto where
  search : Option String
  cuisine : Option String
  minRating : Option Nat
  maxPriceLevel : Option Nat
  maxDeliveryMinutes : Option Nat
  sort : Option RestaurantSort
  sponsoredOnly : Option Bool
  page : Option Nat
  limit : Option Nat
  deriving DecidableEq

/-- The filter without its `$or`. -/
def ListRestaurantsDto.plainFilter (query : ListRestaurantsDto) (d : Listed) : Bool :=
  d.isApproved &&
  (query.cuisine.filter (· ≠ "")).all (d.cuisineTypes.contains ·) &&
  (query.minRating.filter (· ≠ 0)).all (fun m => (m : ℚ) ≤ d.avgRating) &&
  (query.maxPriceLevel.filter (· ≠ 0)).all (d.priceLevel ≤ ·) &&
  withinMinutes query.maxDeliveryMinutes (query.sort = some .deliveryTime) d &&
  (!query.sponsoredOnly.getD false || d.isSponsored)

def ListRestaurantsDto.filter (query : ListRestaurantsDto) : Option (Listed → Bool) :=
  (searchFilter fold query.search fun d : Listed => d.name :: d.cuisineTypes).map
    fun found d => query.plainFilter d && found d

def ListRestaurantsDto.key (query : ListRestaurantsDto) : Listed → SortKey :=
  sponsoredFirst (query.sort.getD .newest).spec

/-- `RestaurantsService.findAllApproved`. -/
def findAllApprovedRestaurants (rows : List Listed) (query : ListRestaurantsDto) :
    Option (PaginatedResult Listed) :=
  (query.filter fold).map fun filter => paginate filter query.key rows query.page query.limit

structure ListStoresDto where
  type : StoreType
  search : Option String
  tag : Option String
  minRating : Option Nat
  maxDeliveryMinutes : Option Nat
  sort : Option StoreSort
  sponsoredOnly : Option Bool
  page : Option Nat
  limit : Option Nat
  deriving DecidableEq

def ListStoresDto.plainFilter (query : ListStoresDto) (d : Listed) : Bool :=
  d.isApproved && d.type = some query.type &&
  (query.tag.filter (· ≠ "")).all (d.cuisineTypes.contains ·) &&
  (query.minRating.filter (· ≠ 0)).all (fun m => (m : ℚ) ≤ d.avgRating) &&
  withinMinutes query.maxDeliveryMinutes (query.sort = some .deliveryTime) d &&
  (!query.sponsoredOnly.getD false || d.isSponsored)

def ListStoresDto.filter (query : ListStoresDto) : Option (Listed → Bool) :=
  (searchFilter fold query.search fun d : Listed => [d.name]).map
    fun found d => query.plainFilter d && found d

def ListStoresDto.key (query : ListStoresDto) : Listed → SortKey :=
  sponsoredFirst (query.sort.getD .newest).spec

/-- `StoresService.findAllApproved`. -/
def findAllApprovedStores (rows : List Listed) (query : ListStoresDto) :
    Option (PaginatedResult Listed) :=
  (query.filter fold).map fun filter => paginate filter query.key rows query.page query.limit

/-! ## Users -/

/-- A user, and when it was created. -/
structure UserRow where
  user : User
  createdAt : Time
  deriving DecidableEq

structure ListUsersDto where
  search : Option String
  role : Option UserRole
  status : Option UserStatus
  page : Option Nat
  limit : Option Nat
  deriving DecidableEq

def ListUsersDto.plainFilter (query : ListUsersDto) (u : UserRow) : Bool :=
  query.role.all (u.user.role = ·) && query.status.all (u.user.status = ·)

def ListUsersDto.filter (query : ListUsersDto) : Option (UserRow → Bool) :=
  (searchFilter fold query.search fun u : UserRow => [u.user.name, u.user.email]).map
    fun found u => query.plainFilter u && found u

/-- `UsersService.listAll`. -/
def listAll (rows : List UserRow) (query : ListUsersDto) : Option (PaginatedResult UserRow) :=
  (query.filter fold).map fun filter =>
    paginate filter (fun u => (-(u.createdAt : ℤ))) rows query.page query.limit

end Listings
end FoodDelivery
