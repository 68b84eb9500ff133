import FoodDelivery.Carts.Modifiers
import FoodDelivery.Orders.Snapshots

/-!
# The stock check

`createStoreOrder` compares the stock of a product with the quantity of each line by itself, and
one product may be on any number of lines, one for each text of its notes.

* `stock_checked_iff`: the orders of a cart stay within the stock unless the store takes a cart with
  a product on several lines, each within the stock, that are above it together.
* `oversold`: a cart of one product with two notes.
-/

namespace FoodDelivery

open Store Interleave

/-- The quantity of a product over all lines. -/
def CreatedOrder.qtyOf (order : CreatedOrder) (productId : ItemId) : Nat :=
  ((order.items.filter fun item => item.productId = some productId).map (·.qty)).sum

namespace Cart

/-- The lines of a product. -/
def linesOf (cart : Cart) (productId : ItemId) : List CartItem :=
  cart.items.filter fun item => item.productId = some productId

/-- What is expected of the orders that a cart may become. -/
def WithinStock (cart : Cart) (c : Catalogue) : Prop :=
  ∀ (km : Coordinates → Coordinates → ℚ≥0) (userId : UserId) (dto : CreateOrderDto)
    (order : CreatedOrder), c.createStoreOrder km userId dto cart = .ok order →
    ∀ productId product stock, c.products productId = some product →
      product.stockQuantity = some stock → order.qtyOf productId ≤ stock

/-- A product in stock has several lines, each within its stock, but not so together. -/
def SplitsStock (cart : Cart) (c : Catalogue) : Prop :=
  ∃ productId product stock, c.products productId = some product ∧
    product.stockQuantity = some stock ∧ 2 ≤ (cart.linesOf productId).length ∧
      (∀ item ∈ cart.linesOf productId, item.qty ≤ stock) ∧
        stock < ((cart.linesOf productId).map (·.qty)).sum

/-- The store takes the cart: it is open and every line by itself can be had. -/
def IsTaken (cart : Cart) (c : Catalogue) : Prop :=
  ∃ storeId, cart.storeId = some storeId ∧ c.takesOrders (.store storeId) = true ∧
    ∀ item ∈ cart.items, c.productAvailable item = true

end Cart

section Stock

variable {km : Coordinates → Coordinates → ℚ≥0} {c : Catalogue} {userId : UserId}
  {dto : CreateOrderDto} {cart : Cart} {order : CreatedOrder} {productId : ItemId}
  {product : ProductSnapshot} {stock : Nat}

theorem qtyOf_eq (h : order.items = cart.items.map c.storeLine) :
    order.qtyOf productId = ((cart.linesOf productId).map (·.qty)).sum := by
  rw [CreatedOrder.qtyOf, h, List.filter_map, List.map_map]
  rfl

/-- A line that can be had is within the stock. -/
theorem qty_le_of_available {item : CartItem} (hid : item.productId = some productId)
    (hproduct : c.products productId = some product) (hstock : product.stockQuantity = some stock)
    (h : c.productAvailable item = true) : item.qty ≤ stock := by
  simp only [Catalogue.productAvailable, hid, Option.bind_some, hproduct, Option.any_some, hstock,
    Option.all_some, Bool.and_eq_true, decide_eq_true_eq] at h
  exact h.2

theorem qty_le_of_mem_linesOf {item : CartItem} (h : cart.IsTaken c)
    (hproduct : c.products productId = some product) (hstock : product.stockQuantity = some stock)
    (hitem : item ∈ cart.linesOf productId) : item.qty ≤ stock := by
  obtain ⟨storeId, _, _, hall⟩ := h
  obtain ⟨hmem, hid⟩ := List.mem_filter.mp hitem
  exact qty_le_of_available (of_decide_eq_true hid) hproduct hstock (hall item hmem)

/-- One line alone is never above the stock. -/
theorem two_le_length_of_lt_sum {lines : List CartItem} (heach : ∀ item ∈ lines, item.qty ≤ stock)
    (hsum : stock < (lines.map (·.qty)).sum) : 2 ≤ lines.length := by
  cases lines with
  | nil => exact absurd hsum (Nat.not_lt_zero _)
  | cons item rest =>
    cases rest with
    | nil =>
      have hle := heach item List.mem_cons_self
      simp only [List.map_cons, List.map_nil, List.sum_cons, List.sum_nil] at hsum
      omega
    | cons next rest => simp

/-- **The orders of a cart stay within the stock, exactly unless the store takes a cart that splits
the stock of a product**: for every cart and every table of products. -/
theorem stock_checked_iff (cart : Cart) (c : Catalogue) :
    cart.WithinStock c ↔ ¬ (cart.IsTaken c ∧ cart.SplitsStock c) := by
  constructor
  · rintro hwithin ⟨htaken, productId, product, stock, hproduct, hstock, hmany, _, hsum⟩
    obtain ⟨storeId, hid, hopen, hall⟩ := htaken
    have hitems : cart.items ≠ [] := by
      intro hnil
      rw [Cart.linesOf, hnil] at hmany
      exact absurd hmany (Nat.not_succ_le_zero 1)
    obtain ⟨order, horder⟩ := exists_createStoreOrder (fun _ _ => 0) 0 hid hopen hitems hall
    have hle := hwithin _ _ _ _ horder productId product stock hproduct hstock
    obtain ⟨_, _, _, _, _, hlines, _⟩ := createStoreOrder_eq_ok horder
    rw [qtyOf_eq hlines] at hle
    omega
  · intro hsplit km userId dto order horder productId product stock hproduct hstock
    obtain ⟨storeId, hid, hopen, hall, _, hlines, _⟩ := createStoreOrder_eq_ok horder
    have htaken : cart.IsTaken c := ⟨storeId, hid, hopen, hall⟩
    rw [qtyOf_eq hlines]
    by_contra hsum
    have heach : ∀ item ∈ cart.linesOf productId, item.qty ≤ stock :=
      fun item hitem => qty_le_of_mem_linesOf htaken hproduct hstock hitem
    exact hsplit ⟨htaken, productId, product, stock, hproduct, hstock,
      two_le_length_of_lt_sum heach (Nat.not_le.mp hsum), heach, Nat.not_le.mp hsum⟩

end Stock

/-! ## A run -/

/-- One product, of which 3 are left. -/
def threeLeft : CartReply where
  menuItems := fun _ => none
  products := fun _ => some ⟨"Palm oil", 30, none, none, true⟩
  catalogue := { lunchCatalogue .empty with products := fun _ => some ⟨true, none, some 3⟩ }

def addProduct (qty : Nat) (notes : String) : CartEvent :=
  .spawn (.addStoreItem ⟨0, some qty, some notes, false⟩)

/-- 2 for each of two neighbours. -/
def twoNotes : List CartEvent :=
  addProduct 2 "for Ada" :: List.replicate 4 (.run 0 threeLeft) ++
    addProduct 2 "for Obi" :: List.replicate 4 (.run 1 threeLeft)

/-- The product on two lines. -/
def twoLines : Cart :=
  ⟨.store, none, some 0, [⟨none, some 0, "Palm oil", 30, none, 2, [], "for Ada"⟩,
    ⟨none, some 0, "Palm oil", 30, none, 2, [], "for Obi"⟩]⟩

/-- **4 of a product are ordered, of which 3 are left.** -/
theorem oversold : ∃ s : CartPool,
    (carts twoRestaurants (fun _ _ => 0) 3).exec ⟨.empty, []⟩ twoNotes = some s ∧
      s.shared.find.any (fun found => found.2.toResponse = twoLines) = true ∧
        ¬ twoLines.WithinStock threeLeft.catalogue := by
  have hplay : ((carts twoRestaurants (fun _ _ => 0) 3).play (fun _ _ => true) ⟨.empty, []⟩
      twoNotes).any (fun s => s.shared.find.any fun found =>
        found.2.toResponse = twoLines) = true := by
    decide +kernel
  obtain ⟨s, hs, _, hp⟩ := Machine.exists_exec_of_play twoNotes hplay
  refine ⟨s, hs, hp, fun hwithin => ?_⟩
  obtain ⟨order, horder, hqty⟩ : ∃ order, threeLeft.catalogue.createStoreOrder (fun _ _ => 0) 3
      ⟨none, none, none, none⟩ twoLines = .ok order ∧ order.qtyOf 0 = 4 := ⟨_, rfl, rfl⟩
  have hle := hwithin _ _ _ _ horder 0 ⟨true, none, some 3⟩ 3 rfl rfl
  rw [hqty] at hle
  exact absurd hle (by decide)

end FoodDelivery
