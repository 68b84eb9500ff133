import FoodDelivery.Carts.Lines
import FoodDelivery.Lib.Grouping
import FoodDelivery.Orders.PricingLaw
import FoodDelivery.Orders.Snapshots

/-!
# The sales report

`getSalesReport`: four aggregations over the delivered orders of a seller, two of them over the
orders and two over their unwound items, and the report that is made of them.

* `sum_itemStats`, `sum_dayStats`, `sum_cogsOn`: what each aggregation adds up to.
* `subtotal_of_madeOf`: the subtotal of an order in terms of its lines.
* `near_of_sum`: what rounding does to a breakdown and its total.
-/

namespace FoodDelivery

open Grouping

/-! ## What the report reads -/

/-- An order as it was created, and where it got. -/
structure FulfilledOrder where
  created : CreatedOrder
  status : OrderStatus
  deliveredAt : Option Time
  deriving DecidableEq

/-- `deliveredOrdersMatch`; a missing date is in no range. -/
def FulfilledOrder.deliveredOrdersMatch (seller : Seller) (fromDate toDate : Option Time)
    (o : FulfilledOrder) : Bool :=
  o.created.seller = seller && o.status = .delivered &&
    fromDate.all (fun t => o.deliveredAt.any (t ≤ ·)) &&
    toDate.all (fun t => o.deliveredAt.any (· ≤ t))

namespace OrderItem

/-- `price` times `qty`. -/
def revenue (line : OrderItem) : ℚ≥0 := line.price * line.qty

def cogs (line : OrderItem) : ℚ≥0 :=
  match line.costPrice with
  | none => 0
  | some costPrice => costPrice * line.qty

def missingCostQty (line : OrderItem) : Nat := if line.costPrice = none then line.qty else 0

/-- What the modifiers of a line cost. -/
def modifiersRevenue (line : OrderItem) : ℚ≥0 :=
  (line.selectedModifiers.map (·.priceDelta)).sum * line.qty

end OrderItem

/-- The items of the orders, each with its order. -/
def unwind (orders : List FulfilledOrder) : List (FulfilledOrder × OrderItem) :=
  orders.flatMap fun o => o.created.items.map (o, ·)

/-- The lines of the orders. -/
def soldLines (orders : List FulfilledOrder) : List OrderItem := orders.flatMap (·.created.items)

/-! ## The aggregations -/

structure SalesTotals where
  orders : Nat
  revenue : ℚ
  deliveryFeeTotal : ℚ
  serviceFeeTotal : ℚ
  taxTotal : ℚ
  discountTotal : ℚ
  platformFeeTotal : ℚ
  netEarned : ℚ
  totalCollected : ℚ
  deriving DecidableEq

/-- An item's group; `menuItemId` is its `_id`. -/
structure ItemStat where
  menuItemId : Option ItemId
  name : String
  qtySold : Nat
  revenue : ℚ≥0
  cogs : ℚ≥0
  missingCostQty : Nat
  deriving DecidableEq

structure DayStat where
  date : Option String
  orders : Nat
  revenue : ℚ
  deriving DecidableEq

structure DayCogsStat where
  date : Option String
  cogs : ℚ≥0
  deriving DecidableEq

structure SalesStats where
  totals : SalesTotals
  itemStats : List ItemStat
  dayStats : List DayStat
  dayCogsStats : List DayCogsStat
  deriving DecidableEq

/-- The `$group` of `itemStats`. -/
def itemGrouper : Grouper OrderItem ItemStat (Option ItemId) where
  keyOf stat := stat.menuItemId
  key line := line.menuItemId
  single line :=
    ⟨line.menuItemId, line.name, line.qty, line.revenue, line.cogs, line.missingCostQty⟩
  add stat line := { stat with
    qtySold := stat.qtySold + line.qty
    revenue := stat.revenue + line.revenue
    cogs := stat.cogs + line.cogs
    missingCostQty := stat.missingCostQty + line.missingCostQty }
  keyOf_single _ := rfl
  keyOf_add _ _ := rfl

section Aggregations

variable (dateToString : Time → String)

/-- The day of an order, as `$dateToString` prints it; that of a missing date is `null`. -/
def FulfilledOrder.day (o : FulfilledOrder) : Option String := o.deliveredAt.map dateToString

/-- The `$group` of `dayStats`. -/
def dayGrouper : Grouper FulfilledOrder DayStat (Option String) where
  keyOf stat := stat.date
  key o := o.day dateToString
  single o := ⟨o.day dateToString, 1, o.created.amounts.subtotal⟩
  add stat o := { stat with
    orders := stat.orders + 1
    revenue := stat.revenue + o.created.amounts.subtotal }
  keyOf_single _ := rfl
  keyOf_add _ _ := rfl

/-- The `$group` of `dayCogsStats`. -/
def dayCogsGrouper : Grouper (FulfilledOrder × OrderItem) DayCogsStat (Option String) where
  keyOf stat := stat.date
  key x := x.1.day dateToString
  single x := ⟨x.1.day dateToString, x.2.cogs⟩
  add stat x := { stat with cogs := stat.cogs + x.2.cogs }
  keyOf_single _ := rfl
  keyOf_add _ _ := rfl

/-- The `$group` of `totals`; the sums of no orders are the zeros that stand in for it. -/
def SalesTotals.of (orders : List FulfilledOrder) : SalesTotals where
  orders := orders.length
  revenue := (orders.map (·.created.amounts.subtotal)).sum
  deliveryFeeTotal := (orders.map (·.created.amounts.deliveryFee)).sum
  serviceFeeTotal := (orders.map (·.created.amounts.serviceFee)).sum
  taxTotal := (orders.map (·.created.amounts.tax)).sum
  discountTotal := (orders.map (·.created.amounts.discount)).sum
  platformFeeTotal := (orders.map (·.created.amounts.platformFeeAmount)).sum
  netEarned := (orders.map (·.created.amounts.restaurantPayoutAmount)).sum
  totalCollected := (orders.map (·.created.amounts.total)).sum

/-- The order of BSON: `null` comes before every string. -/
def dateLe : Option String → Option String → Bool
  | none, _ => true
  | some _, none => false
  | some a, some b => !decide (b < a)

/-- The `$facet`, over the orders that match. -/
def aggregate (orders : List FulfilledOrder) : SalesStats where
  totals := .of orders
  itemStats := (itemGrouper.group (soldLines orders)).mergeSort fun a b => b.revenue ≤ a.revenue
  dayStats := ((dayGrouper dateToString).group orders).mergeSort fun a b => dateLe a.date b.date
  dayCogsStats := (dayCogsGrouper dateToString).group (unwind orders)

end Aggregations

/-! ## The report -/

structure SalesReportItemBreakdown where
  menuItemId : Option ItemId
  name : String
  qtySold : Nat
  revenue : ℚ
  cogs : ℚ
  profit : ℚ
  marginPct : Option ℚ
  hasIncompleteCostData : Bool
  deriving DecidableEq

structure SalesReportDayBreakdown where
  date : Option String
  orders : Nat
  revenue : ℚ
  cogs : ℚ
  profit : ℚ
  deriving DecidableEq

structure SalesReportTotals extends SalesTotals where
  cogs : ℚ
  grossProfit : ℚ
  grossMarginPct : Option ℚ
  avgOrderValue : ℚ
  deriving DecidableEq

structure SalesReport where
  currency : String
  fromDate : Option Time
  toDate : Option Time
  totals : SalesReportTotals
  itemsMissingCostPrice : List String
  byItem : List SalesReportItemBreakdown
  byDay : List SalesReportDayBreakdown
  deriving DecidableEq

def ItemStat.breakdown (item : ItemStat) : SalesReportItemBreakdown where
  menuItemId := item.menuItemId
  name := item.name
  qtySold := item.qtySold
  revenue := round2 item.revenue
  cogs := round2 item.cogs
  profit := round2 (item.revenue - item.cogs)
  marginPct :=
    if 0 < item.revenue then some (round2 ((item.revenue - item.cogs) / item.revenue * 100))
    else none
  hasIncompleteCostData := 0 < item.missingCostQty

def DayStat.breakdown (cogs : ℚ) (d : DayStat) : SalesReportDayBreakdown where
  date := d.date
  orders := d.orders
  revenue := round2 d.revenue
  cogs := round2 cogs
  profit := round2 (d.revenue - round2 cogs)

namespace SalesStats

variable (stats : SalesStats)

/-- `cogsByDay.get(date) ?? 0`. -/
def cogsOn (date : Option String) : ℚ≥0 :=
  ((stats.dayCogsStats.find? fun d => d.date = date).map (·.cogs)).getD 0

def byItem : List SalesReportItemBreakdown := stats.itemStats.map ItemStat.breakdown

def byDay : List SalesReportDayBreakdown :=
  stats.dayStats.map fun d => d.breakdown (stats.cogsOn d.date)

def reportTotals : SalesReportTotals :=
  let totals := stats.totals
  let cogs := round2 (stats.itemStats.map fun item => (item.cogs : ℚ)).sum
  let grossProfit := round2 (totals.revenue - cogs)
  { orders := totals.orders
    revenue := round2 totals.revenue
    deliveryFeeTotal := round2 totals.deliveryFeeTotal
    serviceFeeTotal := round2 totals.serviceFeeTotal
    taxTotal := round2 totals.taxTotal
    discountTotal := round2 totals.discountTotal
    platformFeeTotal := round2 totals.platformFeeTotal
    netEarned := round2 totals.netEarned
    totalCollected := round2 totals.totalCollected
    cogs := cogs
    grossProfit := grossProfit
    grossMarginPct :=
      if 0 < totals.revenue then some (round2 (grossProfit / totals.revenue * 100)) else none
    avgOrderValue := if 0 < totals.orders then round2 (totals.revenue / totals.orders) else 0 }

end SalesStats

/-- The delivered orders of the seller in the range. -/
def deliveredOrders (orders : List FulfilledOrder) (seller : Seller)
    (fromDate toDate : Option Time) : List FulfilledOrder :=
  orders.filter (·.deliveredOrdersMatch seller fromDate toDate)

/-- `getSalesReport`, once `findSellerOrThrow` has found the seller, for all orders that are
stored.  The currency is the seller's. -/
def getSalesReport (dateToString : Time → String) (orders : List FulfilledOrder) (seller : Seller)
    (currency : String) (fromDate toDate : Option Time) : SalesReport :=
  let stats := aggregate dateToString (deliveredOrders orders seller fromDate toDate)
  { currency := currency
    fromDate := fromDate
    toDate := toDate
    totals := stats.reportTotals
    itemsMissingCostPrice :=
      ((stats.byItem.filter (·.hasIncompleteCostData)).map (·.name)).eraseDups
    byItem := stats.byItem
    byDay := stats.byDay }

/-! ## What the aggregations add up to -/

theorem itemAdds_qtySold : itemGrouper.Adds (·.qtySold) (·.qty) := ⟨fun _ => rfl, fun _ _ => rfl⟩

theorem itemAdds_revenue : itemGrouper.Adds (·.revenue) OrderItem.revenue :=
  ⟨fun _ => rfl, fun _ _ => rfl⟩

theorem itemAdds_cogs : itemGrouper.Adds (·.cogs) OrderItem.cogs := ⟨fun _ => rfl, fun _ _ => rfl⟩

theorem itemAdds_missingCostQty :
    itemGrouper.Adds (·.missingCostQty) OrderItem.missingCostQty :=
  ⟨fun _ => rfl, fun _ _ => rfl⟩

section Sums

variable {M : Type} [AddCommMonoid M] {dateToString : Time → String}
  {orders : List FulfilledOrder}

theorem dayAdds_revenue :
    (dayGrouper dateToString).Adds (·.revenue) (·.created.amounts.subtotal) :=
  ⟨fun _ => rfl, fun _ _ => rfl⟩

theorem dayCogsAdds : (dayCogsGrouper dateToString).Adds (·.cogs) (·.2.cogs) :=
  ⟨fun _ => rfl, fun _ _ => rfl⟩

theorem sum_mergeSort {α : Type} (l : List α) (le : α → α → Bool) (f : α → M) :
    ((l.mergeSort le).map f).sum = (l.map f).sum :=
  ((List.mergeSort_perm l le).map f).sum_eq

/-- The items' groups add up over the lines. -/
theorem sum_itemStats {f : ItemStat → M} {m : OrderItem → M} (h : itemGrouper.Adds f m) :
    ((aggregate dateToString orders).itemStats.map f).sum =
      ((soldLines orders).map m).sum :=
  (sum_mergeSort _ _ f).trans h.sum_group

/-- The days' groups add up over the orders. -/
theorem sum_dayStats {f : DayStat → M} {m : FulfilledOrder → M}
    (h : (dayGrouper dateToString).Adds f m) :
    ((aggregate dateToString orders).dayStats.map f).sum = (orders.map m).sum :=
  (sum_mergeSort _ _ f).trans h.sum_group

theorem map_snd_unwind : (unwind orders).map (·.2) = soldLines orders := by
  rw [unwind, soldLines, List.map_flatMap]
  congr 1
  funext o
  rw [List.map_map]
  exact List.map_id _

/-- **The costs of the days add up over the lines.** -/
theorem sum_cogsOn :
    ((aggregate dateToString orders).dayStats.map fun d =>
      (aggregate dateToString orders).cogsOn d.date).sum =
        ((soldLines orders).map OrderItem.cogs).sum := by
  have hdates := (List.mergeSort_perm ((dayGrouper dateToString).group orders)
    fun a b => dateLe a.date b.date).map (dayGrouper dateToString).keyOf
  have hnodup : ((aggregate dateToString orders).dayStats.map (·.date)).Nodup :=
    hdates.nodup_iff.mpr Grouper.nodup_keys
  have hcover : ∀ x ∈ unwind orders, (dayCogsGrouper dateToString).key x ∈
      (aggregate dateToString orders).dayStats.map (·.date) := by
    intro x hx
    obtain ⟨o, ho, hx⟩ := List.mem_flatMap.mp hx
    obtain ⟨line, _, rfl⟩ := List.mem_map.mp hx
    exact hdates.mem_iff.mpr (List.mem_map.mpr (Grouper.exists_group ho))
  have hday : ∀ date, (aggregate dateToString orders).cogsOn date =
      (((dayCogsGrouper dateToString).rowsOf date (unwind orders)).map (·.2.cogs)).sum :=
    fun date => dayCogsAdds.lookup date
  rw [← map_snd_unwind, List.map_map, ← Grouper.sum_rowsOf hnodup hcover, List.map_map]
  exact congrArg List.sum (List.map_congr_left fun d _ => hday d.date)

end Sums

/-! ## Rounding -/

/-- The roundings of the parts stay as near to the rounding of their sum as the number of roundings
allows. -/
theorem near_of_sum (figures : List ℚ) :
    |(figures.map round2).sum - round2 figures.sum| ≤
      (figures.length + 1) * (1 / 200 + EPSILON) := by
  have hparts : |(figures.map round2).sum - figures.sum| ≤
      figures.length * (1 / 200 + EPSILON) := by
    induction figures with
    | nil => simp
    | cons x figures ih =>
      have hx := abs_le.mp (round2_near x)
      have hrest := abs_le.mp ih
      rw [List.map_cons, List.sum_cons, List.sum_cons, List.length_cons, abs_le]
      push_cast
      constructor <;> linarith [hx.1, hx.2, hrest.1, hrest.2]
  have htotal := abs_le.mp (round2_near figures.sum)
  have hbounds := abs_le.mp hparts
  rw [abs_le]
  constructor <;> linarith [htotal.1, htotal.2, hbounds.1, hbounds.2]

/-! ## Subtotals -/

section Subtotals

variable {km : Coordinates → Coordinates → ℚ≥0} {order : CreatedOrder}

/-- What the lines of an order come to, modifiers included. -/
def linesTotal (lines : List OrderItem) : ℚ≥0 :=
  (lines.map fun line => line.revenue + line.modifiersRevenue).sum

theorem linesTotal_eq (lines : List OrderItem) : linesTotal lines =
    (lines.map OrderItem.revenue).sum + (lines.map OrderItem.modifiersRevenue).sum :=
  List.sum_map_add

theorem subtotal_eq_linesTotal {cart : Cart} {snapshot : CartItem → OrderItem}
    (h : ∀ item ∈ cart.items, (item.price + item.modifiersTotal) * (item.qty : ℚ≥0) =
      (snapshot item).revenue + (snapshot item).modifiersRevenue) :
    cart.subtotal = linesTotal (cart.items.map snapshot) := by
  rw [Cart.subtotal, linesTotal, List.map_map]
  exact congrArg List.sum (List.map_congr_left h)

/-- **The subtotal of an order is what its lines come to.** -/
theorem subtotal_of_madeOf (h : order.MadeOf km CartItem.ProductPlain) :
    order.amounts.subtotal = linesTotal order.items := by
  obtain ⟨c, userId, dto, cart, hplain, h | h⟩ := h
  · obtain ⟨_, _, _, _, _, hitems, hsubtotal⟩ := createRestaurantOrder_eq_ok h
    rw [hsubtotal, hitems, ← subtotal_eq_linesTotal]
    intro item _
    exact add_mul item.price item.modifiersTotal (item.qty : ℚ≥0)
  · obtain ⟨_, _, _, hall, _, hitems, hsubtotal⟩ := createStoreOrder_eq_ok h
    rw [hsubtotal, hitems, ← subtotal_eq_linesTotal]
    intro item hitem
    have hproduct : item.productId ≠ none := by
      intro hnone
      have havailable := hall item hitem
      rw [Catalogue.productAvailable, hnone] at havailable
      cases havailable
    have hnone : item.modifiersTotal = 0 := by
      rw [CartItem.modifiersTotal, hplain item hitem hproduct]
      rfl
    have hstored : (c.storeLine item).modifiersRevenue = 0 := zero_mul _
    rw [hnone, hstored, add_zero, add_zero]
    rfl

end Subtotals

end FoodDelivery
