import FoodDelivery.Orders.SalesReport

/-!
# Do the figures of a sales report add up

The totals and the days take an order at its subtotal, the items at the prices of its lines; what
modifiers cost is part of the one and not of the other.

* `exact_iff`: before rounding, the breakdowns add up exactly when no modifier was charged.
* `addsUp_of_exact`: what rounding leaves of that in the report.
* `sales_reconcile_iff`: both, for the orders of any customers.
-/

namespace FoodDelivery

open Store Interleave

/-- An order that a customer made of a cart, in some run of the calls to cart and orders. -/
def CreatedOrder.Placed (km : Coordinates → Coordinates → ℚ≥0) (order : CreatedOrder) : Prop :=
  ∃ (sellers : ItemSellers) (userId : UserId) (s : CartPool) (id : OrderId),
    (carts sellers km userId).Reach (fun _ _ => True) ⟨.empty, []⟩ s ∧
      s.shared.orders.get id = some order

/-- Before they are rounded, the revenue and the costs of the breakdowns add up to the totals. -/
structure SalesStats.Exact (stats : SalesStats) : Prop where
  itemsRevenue : (stats.itemStats.map fun item => (item.revenue : ℚ)).sum = stats.totals.revenue
  daysRevenue : (stats.dayStats.map fun d => d.revenue).sum = stats.totals.revenue
  daysCogs : (stats.dayStats.map fun d => (stats.cogsOn d.date : ℚ)).sum =
    (stats.itemStats.map fun item => (item.cogs : ℚ)).sum

/-- Figures that add up to a total, as nearly as figures and total are rounded. -/
def NearlyAddUp (figures : List ℚ) (total : ℚ) : Prop :=
  |figures.sum - total| ≤ (figures.length + 1) * (1 / 200 + EPSILON)

/-- The revenue and the costs of both breakdowns add up to the totals, up to rounding. -/
structure SalesReport.AddsUp (report : SalesReport) : Prop where
  itemsRevenue : NearlyAddUp (report.byItem.map (·.revenue)) report.totals.revenue
  daysRevenue : NearlyAddUp (report.byDay.map (·.revenue)) report.totals.revenue
  itemsCogs : NearlyAddUp (report.byItem.map (·.cogs)) report.totals.cogs
  daysCogs : NearlyAddUp (report.byDay.map (·.cogs)) report.totals.cogs

/-- A sum of amounts, as rationals. -/
theorem cast_sum {α : Type} (l : List α) (f : α → ℚ≥0) :
    (l.map fun a => (f a : ℚ)).sum = ((l.map f).sum : ℚ≥0) := by
  rw [NNRat.cast_listSum, List.map_map]
  rfl

section Sums

variable {km : Coordinates → Coordinates → ℚ≥0} {dateToString : Time → String}
  {orders : List FulfilledOrder} {seller : Seller} {currency : String}
  {fromDate toDate : Option Time}

/-- Carts keep modifiers to dishes, so their orders are priced by the lines. -/
theorem CreatedOrder.Placed.subtotal {order : CreatedOrder} (h : order.Placed km) :
    order.amounts.subtotal = linesTotal order.items := by
  obtain ⟨sellers, userId, s, id, hs, horder⟩ := h
  exact subtotal_of_madeOf ((lines_kept productsPlain sellers userId hs).orders id order horder)

theorem sum_subtotals (h : ∀ o ∈ orders, o.created.Placed km) :
    (orders.map (·.created.amounts.subtotal)).sum = (linesTotal (soldLines orders) : ℚ) := by
  induction orders with
  | nil => rfl
  | cons o orders ih =>
    have hrest := ih fun x hx => h x (List.mem_cons_of_mem _ hx)
    have hsold : linesTotal (soldLines (o :: orders)) =
        linesTotal o.created.items + linesTotal (soldLines orders) := by
      rw [soldLines, List.flatMap_cons, linesTotal, List.map_append, List.sum_append]
      rfl
    rw [List.map_cons, List.sum_cons, hrest, (h o List.mem_cons_self).subtotal, hsold,
      NNRat.cast_add]

/-- No modifier was charged. -/
theorem sum_modifiersRevenue_eq_zero_iff :
    ((soldLines orders).map OrderItem.modifiersRevenue).sum = 0 ↔
      ∀ o ∈ orders, ∀ line ∈ o.created.items, line.modifiersRevenue = 0 := by
  rw [List.sum_eq_zero_iff]
  constructor
  · intro hall o ho line hline
    exact hall _ (List.mem_map_of_mem (List.mem_flatMap.mpr ⟨o, ho, hline⟩))
  · intro hall x hx
    obtain ⟨line, hline, rfl⟩ := List.mem_map.mp hx
    obtain ⟨o, ho, hline⟩ := List.mem_flatMap.mp hline
    exact hall o ho line hline

/-- **Before rounding the breakdowns add up exactly when no modifier was charged.** -/
theorem exact_iff (h : ∀ o ∈ orders, o.created.Placed km) :
    (aggregate dateToString orders).Exact ↔
      ∀ o ∈ orders, ∀ line ∈ o.created.items, line.modifiersRevenue = 0 := by
  have hitems : ((aggregate dateToString orders).itemStats.map fun item =>
      (item.revenue : ℚ)).sum = (((soldLines orders).map OrderItem.revenue).sum : ℚ≥0) := by
    rw [cast_sum, sum_itemStats itemAdds_revenue]
  have htotal : (aggregate dateToString orders).totals.revenue =
      (linesTotal (soldLines orders) : ℚ) := sum_subtotals h
  rw [← sum_modifiersRevenue_eq_zero_iff]
  constructor
  · rintro ⟨hrevenue, _, _⟩
    rw [hitems, htotal, NNRat.cast_inj, linesTotal_eq] at hrevenue
    exact left_eq_add.mp hrevenue
  · intro hnone
    refine ⟨?_, sum_dayStats dayAdds_revenue, ?_⟩
    · rw [hitems, htotal, linesTotal_eq, hnone, add_zero]
    · rw [cast_sum, cast_sum, sum_cogsOn, sum_itemStats itemAdds_cogs]

end Sums

section Rounded

variable {dateToString : Time → String} {orders : List FulfilledOrder} {seller : Seller}
  {currency : String} {fromDate toDate : Option Time}

/-- Rounded figures of which the sum is rounded, too. -/
theorem nearlyAddUp {α : Type} (l : List α) (figure : α → ℚ) {total : ℚ}
    (h : (l.map figure).sum = total) :
    NearlyAddUp (l.map fun a => round2 (figure a)) (round2 total) := by
  have hnear := near_of_sum (l.map figure)
  rw [List.map_map, List.length_map, h] at hnear
  rw [NearlyAddUp, List.length_map]
  exact hnear

/-- **What adds up before rounding adds up in the report, up to rounding.** -/
theorem addsUp_of_exact
    (h : (aggregate dateToString (deliveredOrders orders seller fromDate toDate)).Exact) :
    (getSalesReport dateToString orders seller currency fromDate toDate).AddsUp := by
  revert h
  generalize hstats : aggregate dateToString (deliveredOrders orders seller fromDate toDate) = stats
  intro h
  have hitem : ∀ f : SalesReportItemBreakdown → ℚ,
      stats.byItem.map f = stats.itemStats.map fun item => f item.breakdown :=
    fun f => List.map_map
  have hday : ∀ f : SalesReportDayBreakdown → ℚ,
      stats.byDay.map f = stats.dayStats.map fun d => f (d.breakdown (stats.cogsOn d.date)) :=
    fun f => List.map_map
  rw [getSalesReport, hstats]
  constructor
  · exact hitem (·.revenue) ▸ nearlyAddUp stats.itemStats _ h.itemsRevenue
  · exact hday (·.revenue) ▸ nearlyAddUp stats.dayStats _ h.daysRevenue
  · exact hitem (·.cogs) ▸ nearlyAddUp stats.itemStats (fun item => (item.cogs : ℚ)) rfl
  · exact hday (·.cogs) ▸ nearlyAddUp stats.dayStats _ h.daysCogs

/-- **The breakdowns of a report add up to its totals exactly when no modifier was charged**: for
every seller, every range and the orders of any customers. -/
theorem sales_reconcile_iff {km : Coordinates → Coordinates → ℚ≥0}
    (h : ∀ o ∈ orders, o.created.Placed km) :
    ((aggregate dateToString (deliveredOrders orders seller fromDate toDate)).Exact ∧
        (getSalesReport dateToString orders seller currency fromDate toDate).AddsUp) ↔
      ∀ o ∈ deliveredOrders orders seller fromDate toDate, ∀ line ∈ o.created.items,
        line.modifiersRevenue = 0 := by
  have hdelivered : ∀ o ∈ deliveredOrders orders seller fromDate toDate, o.created.Placed km :=
    fun o ho => h o (List.mem_of_mem_filter ho)
  rw [← exact_iff hdelivered]
  exact ⟨fun hboth => hboth.1, fun hall => ⟨hall, addsUp_of_exact hall⟩⟩

end Rounded

/-! ## Orders with and without modifiers -/

/-- Rice for 50, with meat for 15 if wanted. -/
def riceWithMeat : CartReply where
  menuItems := fun _ => some ⟨"Rice", 50, none, none, true, [⟨"Extras", 0, 1, [⟨"Meat", 15⟩]⟩]⟩
  products := fun _ => none
  catalogue := lunchCatalogue .empty

/-- The call with this number adds a dish with these picks. -/
def addPlate (i : Nat) (menuItemId : ItemId) (picks : List ModifierSelection) : List CartEvent :=
  .spawn (.addItem ⟨menuItemId, none, picks, none, false⟩) :: List.replicate 4 (.run i riceWithMeat)

/-- And this one orders what is in the cart. -/
def orderDishes (i : Nat) : List CartEvent :=
  orderCartEvent :: List.replicate 4 (.run i riceWithMeat)

/-- A dish is added with these picks, and ordered. -/
def orderRice (picks : List ModifierSelection) : List CartEvent :=
  addPlate 0 0 picks ++ orderDishes 1

/-- Two dishes of a restaurant are ordered together, and then one of them alone. -/
def orderTwice : List CartEvent :=
  addPlate 0 0 [] ++ addPlate 1 2 [] ++ orderDishes 2 ++ addPlate 3 0 [] ++ orderDishes 4

/-- An order, once it is delivered. -/
def CreatedOrder.delivered (order : CreatedOrder) : FulfilledOrder := ⟨order, .delivered, some 0⟩

theorem CreatedOrder.Placed.singleton {km : Coordinates → Coordinates → ℚ≥0} {order : CreatedOrder}
    (h : order.Placed km) : ∀ o ∈ [order.delivered], o.created.Placed km := by
  intro o ho
  rw [List.mem_singleton.mp ho]
  exact h

theorem exists_placed (picks : List ModifierSelection) (P : CreatedOrder → Bool)
    (h : ((carts twoRestaurants (fun _ _ => 0) 3).play (fun _ _ => true) ⟨.empty, []⟩
      (orderRice picks)).any (fun s => (s.shared.orders.get 0).any P) = true) :
    ∃ order : CreatedOrder, order.Placed (fun _ _ => 0) ∧ P order = true := by
  obtain ⟨s, hs, hp⟩ := Machine.exists_reach_of_play (fun _ _ _ => trivial) (orderRice picks) h
  obtain ⟨order, horder, hP⟩ := (Option.any_eq_true _ _).mp hp
  exact ⟨order, ⟨_, _, s, 0, hs, horder⟩, hP⟩

/-- Two orders, the second delivered the day after the first. -/
def dayAfterDay (first second : CreatedOrder) : List FulfilledOrder :=
  [⟨first, .delivered, some 0⟩, ⟨second, .delivered, some 1⟩]

def firstDays (time : Time) : String := if time = 0 then "1970-01-01" else "1970-01-02"

theorem exists_twoOrders : ∃ first second : CreatedOrder,
    first.Placed (fun _ _ => 0) ∧ second.Placed (fun _ _ => 0) ∧
      (deliveredOrders (dayAfterDay first second) (.restaurant 0) none none).length = 2 ∧
      ((first.items ++ second.items).map fun line => (line.menuItemId, line.modifiersRevenue)) =
        [(some 0, 0), (some 2, 0), (some 0, 0)] := by
  have hrun : ((carts twoRestaurants (fun _ _ => 0) 3).play (fun _ _ => true) ⟨.empty, []⟩
      orderTwice).any (fun s => (s.shared.orders.get 0).any fun first =>
        (s.shared.orders.get 1).any fun second =>
          decide
            ((deliveredOrders (dayAfterDay first second) (.restaurant 0) none none).length = 2 ∧
              ((first.items ++ second.items).map fun line =>
                (line.menuItemId, line.modifiersRevenue)) =
                  [(some 0, 0), (some 2, 0), (some 0, 0)])) = true := by
    decide +kernel
  obtain ⟨s, hs, hp⟩ := Machine.exists_reach_of_play (fun _ _ _ => trivial) orderTwice hrun
  obtain ⟨first, hfirst, hp⟩ := (Option.any_eq_true _ _).mp hp
  obtain ⟨second, hsecond, hp⟩ := (Option.any_eq_true _ _).mp hp
  obtain ⟨hdelivered, hlines⟩ := of_decide_eq_true hp
  exact ⟨first, second, ⟨_, _, s, 0, hs, hfirst⟩, ⟨_, _, s, 1, hs, hsecond⟩, hdelivered, hlines⟩

/-- Three lines of two dishes, in two orders of two days. -/
theorem sales_reconcile_iff_rice : ∃ first second : CreatedOrder,
    first.Placed (fun _ _ => 0) ∧ second.Placed (fun _ _ => 0) ∧
      (deliveredOrders (dayAfterDay first second) (.restaurant 0) none none).length = 2 ∧
      ((first.items ++ second.items).map (·.menuItemId)) = [some 0, some 2, some 0] ∧
      (getSalesReport firstDays (dayAfterDay first second) (.restaurant 0) "NGN" none
        none).AddsUp := by
  obtain ⟨first, second, hfirst, hsecond, hdelivered, hlines⟩ := exists_twoOrders
  have hplaced : ∀ o ∈ dayAfterDay first second, o.created.Placed (fun _ _ => 0) := by
    simp [dayAfterDay, hfirst, hsecond]
  have hitems := congrArg (List.map Prod.fst) hlines
  have hplain := congrArg (List.map Prod.snd) hlines
  rw [List.map_map] at hitems hplain
  refine ⟨first, second, hfirst, hsecond, hdelivered, hitems,
    ((sales_reconcile_iff hplaced).mpr ?_).2⟩
  intro o ho line hline
  have hline : line ∈ first.items ++ second.items := by
    rcases List.mem_cons.mp (List.mem_of_mem_filter ho) with rfl | ho
    · exact List.mem_append_left _ hline
    · rw [List.mem_singleton.mp ho] at hline
      exact List.mem_append_right _ hline
  have hmem := hplain ▸ List.mem_map_of_mem hline
  simpa using hmem

/-- **Rice with meat is 50 by item and 65 in all.** -/
theorem meat_left_out :
    ¬ ∀ (km : Coordinates → Coordinates → ℚ≥0) (dateToString : Time → String)
      (orders : List FulfilledOrder) (seller : Seller) (currency : String)
      (fromDate toDate : Option Time), (∀ o ∈ orders, o.created.Placed km) →
        (aggregate dateToString (deliveredOrders orders seller fromDate toDate)).Exact ∧
          (getSalesReport dateToString orders seller currency fromDate toDate).AddsUp := by
  intro hall
  obtain ⟨order, hplaced, hfigures⟩ := exists_placed [⟨"Extras", "Meat"⟩] (fun order =>
    decide ((getSalesReport (fun _ => "1970-01-01") [order.delivered] (.restaurant 0) "NGN" none
      none).byItem.map (·.revenue) = [50] ∧
        (getSalesReport (fun _ => "1970-01-01") [order.delivered] (.restaurant 0) "NGN" none
          none).totals.revenue = 65)) (by decide +kernel)
  obtain ⟨hitems, htotal⟩ := of_decide_eq_true hfigures
  have hnear := (hall _ (fun _ => "1970-01-01") _ (.restaurant 0) "NGN" none none
    hplaced.singleton).2.itemsRevenue
  rw [hitems, htotal] at hnear
  norm_num [NearlyAddUp, EPSILON] at hnear

end FoodDelivery
