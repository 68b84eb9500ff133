import FoodDelivery.Orders.Reconciliation

/-!
# One row of the report for each item sold

`itemStats` groups the lines by `menuItemId`, which a line of a store does not have.

* `rows_by_menuItem`: one row for each `menuItemId`, with the sums over its lines.
* `one_row_each_iff`: one row for each item sold, unless a store sold two products.
-/

namespace FoodDelivery

open Store Interleave Grouping

/-- The item of a line in the seller's catalogue. -/
def Seller.itemOf (line : OrderItem) : Seller → Option ItemId
  | .restaurant _ => line.menuItemId
  | .store _ => line.productId

/-- A row with the sums over these lines; its costs are incomplete only if those of a line are. -/
structure SalesReportItemBreakdown.Sums (row : SalesReportItemBreakdown) (lines : List OrderItem) :
    Prop where
  qtySold : row.qtySold = (lines.map (·.qty)).sum
  revenue : row.revenue = round2 ((lines.map OrderItem.revenue).sum : ℚ≥0)
  incomplete : row.hasIncompleteCostData = true → ∃ line ∈ lines, line.costPrice = none

/-- One row for each value that the key takes on the lines, with the sums over its lines. -/
def OneRowEach (key : OrderItem → Option ItemId) (lines : List OrderItem)
    (rows : List SalesReportItemBreakdown) : Prop :=
  ∃ items : List (Option ItemId), items.Perm (lines.map key).dedup ∧
    List.Forall₂ (fun item (row : SalesReportItemBreakdown) =>
      row.Sums (lines.filter fun line => key line = item)) items rows

section Rows

variable {km : Coordinates → Coordinates → ℚ≥0} {dateToString : Time → String}
  {orders : List FulfilledOrder} {seller : Seller} {currency : String}
  {fromDate toDate : Option Time} {lines : List OrderItem}

/-- A group's row has the sums over the group's lines. -/
theorem sums_of_mem_group {stat : ItemStat} (h : stat ∈ itemGrouper.group lines) :
    stat.breakdown.Sums (lines.filter fun line => line.menuItemId = stat.menuItemId) where
  qtySold := itemAdds_qtySold.of_mem_group h
  revenue := congrArg (fun x : ℚ≥0 => round2 x) (itemAdds_revenue.of_mem_group h)
  incomplete hflag := by
    have hmissing : stat.missingCostQty = ((lines.filter fun line =>
        line.menuItemId = stat.menuItemId).map OrderItem.missingCostQty).sum :=
      itemAdds_missingCostQty.of_mem_group h
    have hpos : 0 < stat.missingCostQty := of_decide_eq_true hflag
    by_contra hall
    have hzero : stat.missingCostQty = 0 := by
      rw [hmissing, List.sum_eq_zero_iff]
      intro x hx
      obtain ⟨line, hline, rfl⟩ := List.mem_map.mp hx
      exact if_neg fun hnone => hall ⟨line, hline, hnone⟩
    exact hpos.ne' hzero

/-- **One row for each `menuItemId`.** -/
theorem rows_by_menuItem :
    OneRowEach (·.menuItemId) (soldLines orders) (aggregate dateToString orders).byItem := by
  have hperm := List.mergeSort_perm (itemGrouper.group (soldLines orders))
    fun a b => b.revenue ≤ a.revenue
  refine ⟨(aggregate dateToString orders).itemStats.map itemGrouper.keyOf,
    (hperm.map itemGrouper.keyOf).trans Grouper.keys_perm, ?_⟩
  rw [SalesStats.byItem, List.forall₂_map_left_iff, List.forall₂_map_right_iff, List.forall₂_same]
  exact fun stat hstat => sums_of_mem_group (hperm.mem_iff.mp hstat)

/-- There are as many rows as values of the key. -/
theorem OneRowEach.length {key : OrderItem → Option ItemId} {rows : List SalesReportItemBreakdown}
    (h : OneRowEach key lines rows) : rows.length = (lines.map key).dedup.length := by
  obtain ⟨items, hperm, hrows⟩ := h
  exact hrows.length_eq.symm.trans hperm.length_eq

/-- A key that is the same on all lines has one value. -/
theorem dedup_of_same {key : OrderItem → Option ItemId} {k : Option ItemId}
    (hsame : ∀ line ∈ lines, key line = k) (hne : lines ≠ []) : (lines.map key).dedup = [k] := by
  have hmap : lines.map key = List.replicate lines.length k := by
    refine List.eq_replicate_iff.mpr ⟨List.length_map _, fun x hx => ?_⟩
    obtain ⟨line, hline, rfl⟩ := List.mem_map.mp hx
    exact hsame line hline
  rw [hmap, List.replicate_dedup (by simpa using hne)]

/-- Two keys that do not tell any lines apart have the same rows. -/
theorem OneRowEach.of_same {key key' : OrderItem → Option ItemId} {k k' : Option ItemId}
    {rows : List SalesReportItemBreakdown} (h : OneRowEach key lines rows)
    (hk : ∀ line ∈ lines, key line = k) (hk' : ∀ line ∈ lines, key' line = k') :
    OneRowEach key' lines rows := by
  obtain ⟨items, hperm, hrows⟩ := h
  by_cases hne : lines = []
  · subst hne
    obtain rfl := List.perm_nil.mp hperm
    cases hrows
    exact ⟨[], .refl _, .nil⟩
  · have hall : ∀ {f : OrderItem → Option ItemId} {x : Option ItemId},
        (∀ line ∈ lines, f line = x) → (lines.filter fun line => f line = x) = lines :=
      fun hf => List.filter_eq_self.mpr fun line hline => decide_eq_true (hf line hline)
    rw [dedup_of_same hk hne] at hperm
    obtain rfl := List.perm_singleton.mp hperm
    obtain ⟨row, rest, hsums, hrest, rfl⟩ := List.forall₂_cons_left_iff.mp hrows
    obtain rfl := List.forall₂_nil_left_iff.mp hrest
    refine ⟨[k'], ?_, .cons ?_ .nil⟩
    · rw [dedup_of_same hk' hne]
    · rw [hall hk] at hsums
      rw [hall hk']
      exact hsums

/-- A store's lines have no `menuItemId`. -/
theorem menuItemId_of_store (h : ∀ o ∈ orders, o.created.MadeOf km fun _ => True)
    {storeId : VendorId} {line : OrderItem}
    (hline : line ∈ soldLines (deliveredOrders orders (.store storeId) fromDate toDate)) :
    line.menuItemId = none := by
  obtain ⟨o, ho, hline⟩ := List.mem_flatMap.mp hline
  obtain ⟨hmem, hmatch⟩ := List.mem_filter.mp ho
  have hseller : o.created.seller = .store storeId := by
    simp only [FulfilledOrder.deliveredOrdersMatch, Bool.and_eq_true, decide_eq_true_eq] at hmatch
    exact hmatch.1.1.1
  obtain ⟨c, userId, dto, cart, _, hmade | hmade⟩ := h o hmem
  · obtain ⟨restaurantId, _, _, _, hrestaurant, _⟩ := createRestaurantOrder_eq_ok hmade
    cases hseller.symm.trans hrestaurant
  · obtain ⟨_, _, _, _, _, hitems, _⟩ := createStoreOrder_eq_ok hmade
    rw [hitems] at hline
    obtain ⟨item, _, rfl⟩ := List.mem_map.mp hline
    rfl

/-- **The report has one row for each item sold, unless it is a store's that sold two products.** -/
theorem one_row_each_iff (h : ∀ o ∈ orders, o.created.MadeOf km fun _ => True) :
    OneRowEach (Seller.itemOf · seller) (soldLines (deliveredOrders orders seller fromDate toDate))
        (getSalesReport dateToString orders seller currency fromDate toDate).byItem ↔
      ∀ storeId, seller = .store storeId →
        ∀ line ∈ soldLines (deliveredOrders orders seller fromDate toDate),
        ∀ line' ∈ soldLines (deliveredOrders orders seller fromDate toDate),
          line.productId = line'.productId := by
  have hrows : OneRowEach (·.menuItemId) (soldLines (deliveredOrders orders seller fromDate toDate))
      (getSalesReport dateToString orders seller currency fromDate toDate).byItem :=
    rows_by_menuItem
  cases seller with
  | restaurant restaurantId =>
    constructor
    · rintro _ _ ⟨⟩
    · exact fun _ => hrows
  | store storeId =>
    have hnone : ∀ line ∈ soldLines (deliveredOrders orders (.store storeId) fromDate toDate),
        line.menuItemId = none := fun line hline => menuItemId_of_store h hline
    constructor
    · rintro heach _ - line hline line' hline'
      have hlength := heach.length.symm.trans hrows.length
      rw [dedup_of_same hnone (List.ne_nil_of_mem hline), List.length_singleton,
        List.length_eq_one_iff] at hlength
      obtain ⟨p, hp⟩ := hlength
      have hproduct : ∀ x ∈ soldLines (deliveredOrders orders (.store storeId) fromDate toDate),
          x.productId = p := by
        intro x hx
        rw [← List.mem_singleton, ← hp, List.mem_dedup]
        exact List.mem_map_of_mem hx
      rw [hproduct line hline, hproduct line' hline']
    · intro hone
      obtain ⟨p, hp⟩ : ∃ p, ∀ line ∈
          soldLines (deliveredOrders orders (.store storeId) fromDate toDate),
            line.productId = p := by
        cases hlines : soldLines (deliveredOrders orders (.store storeId) fromDate toDate) with
        | nil => exact ⟨none, fun line hline => absurd hline List.not_mem_nil⟩
        | cons first rest =>
          refine ⟨first.productId, fun line hline => ?_⟩
          rw [← hlines] at hline
          exact hone storeId rfl line hline first (hlines ▸ List.mem_cons_self)
      exact hrows.of_same hnone hp

end Rows

/-! ## A store's order of two lines -/

/-- A store with every product. -/
def stocked : Catalogue :=
  { lunchCatalogue .empty with products := fun _ => some ⟨true, none, none⟩ }

/-- Two bottles of palm oil and two of another product, or of the same. -/
def oilAnd (productId : ItemId) (name : String) : Cart :=
  ⟨.store, none, some 0, [⟨none, some 0, "Palm oil", 35, none, 2, [], "for Ada"⟩,
    ⟨none, some productId, name, 35, none, 2, [], "for Obi"⟩]⟩

/-- The rows and the products of the report on an order. -/
def rowsAndProducts (order : CreatedOrder) : Nat × Nat :=
  ((getSalesReport (fun _ => "1970-01-01") [order.delivered] (.store 0) "NGN" none
    none).byItem.length,
    ((soldLines (deliveredOrders [order.delivered] (.store 0) none none)).map
      (Seller.itemOf · (.store 0))).dedup.length)

theorem madeOf_singleton {km : Coordinates → Coordinates → ℚ≥0} {cart : Cart} {order : CreatedOrder}
    (h : stocked.createStoreOrder km 3 ⟨none, none, none, none⟩ cart = .ok order) :
    ∀ o ∈ [order.delivered], o.created.MadeOf km fun _ => True := by
  intro o ho
  rw [List.mem_singleton.mp ho]
  exact ⟨_, _, _, cart, fun _ _ => trivial, Or.inr h⟩

theorem one_row_each_iff_oil : ∃ order : CreatedOrder,
    stocked.createStoreOrder (fun _ _ => 0) 3 ⟨none, none, none, none⟩ (oilAnd 0 "Palm oil") =
      .ok order ∧
    OneRowEach (Seller.itemOf · (.store 0))
      (soldLines (deliveredOrders [order.delivered] (.store 0) none none))
      (getSalesReport (fun _ => "1970-01-01") [order.delivered] (.store 0) "NGN" none
        none).byItem := by
  obtain ⟨order, horder, hproducts⟩ : ∃ order, stocked.createStoreOrder (fun _ _ => 0) 3
      ⟨none, none, none, none⟩ (oilAnd 0 "Palm oil") = .ok order ∧
        ((soldLines (deliveredOrders [order.delivered] (.store 0) none none)).all fun line =>
          line.productId = some 0) = true := ⟨_, rfl, by decide +kernel⟩
  refine ⟨order, horder, (one_row_each_iff (madeOf_singleton horder)).mpr ?_⟩
  intro _ _ line hline line' hline'
  have hall := List.all_eq_true.mp hproducts
  rw [of_decide_eq_true (hall line hline), of_decide_eq_true (hall line' hline')]

/-- **Palm oil and groundnut oil are one row.** -/
theorem two_products_one_row :
    ¬ ∀ (km : Coordinates → Coordinates → ℚ≥0) (dateToString : Time → String)
      (orders : List FulfilledOrder) (seller : Seller) (currency : String)
      (fromDate toDate : Option Time), (∀ o ∈ orders, o.created.MadeOf km fun _ => True) →
        OneRowEach (Seller.itemOf · seller)
          (soldLines (deliveredOrders orders seller fromDate toDate))
          (getSalesReport dateToString orders seller currency fromDate toDate).byItem := by
  intro hall
  obtain ⟨order, horder, hcounts⟩ : ∃ order, stocked.createStoreOrder (fun _ _ => 0) 3
      ⟨none, none, none, none⟩ (oilAnd 1 "Groundnut oil") = .ok order ∧
        rowsAndProducts order = (1, 2) := ⟨_, rfl, by decide +kernel⟩
  have hlength := (hall _ (fun _ => "1970-01-01") _ (.store 0) "NGN" none none
    (madeOf_singleton horder)).length
  have hrows : (rowsAndProducts order).1 = (rowsAndProducts order).2 := hlength
  rw [hcounts] at hrows
  exact absurd hrows (by decide)

end FoodDelivery
