import FoodDelivery.Discovery.Search
import FoodDelivery.Orders.SalesReport
import FoodDelivery.Payouts.Schema

/-!
# The books

What the platform and the sellers are shown of the orders beside the sales report: the overview of
`getAnalyticsSummary`, the ledger of `findAllForAdmin`, the earnings of `getEarningsSummary` and the
list of `getSalesReportTransactions`.  Each reads the orders anew, with a filter and a sum of its
own.  A `Record` is a function that has a value for its keys.

* `sum_ordersByStatus`, `totals_eq_revenue`, `totals_of_types`: the overview and the ledger.
* `report_eq_earnings`: the sales report of all time and the earnings.
* `books_agree`: all of them together.
-/

namespace FoodDelivery

open Grouping Paging

/-! ## What the books read -/

/-- An order as it was created, with where it and its payment got. -/
structure BookedOrder extends FulfilledOrder where
  id : OrderId
  orderNumber : String
  paymentStatus : OrderPaymentStatus
  createdAt : Time
  deriving DecidableEq

/-- Money that was collected at some point. -/
def BookedOrder.collected (o : BookedOrder) : Bool :=
  o.paymentStatus ∈ [OrderPaymentStatus.succeeded, .refunded]

/-- The `$group` by status. -/
def statusGrouper : Grouper BookedOrder (OrderStatus × Nat) OrderStatus where
  keyOf row := row.1
  key o := o.status
  single o := (o.status, 1)
  add row _ := (row.1, row.2 + 1)
  keyOf_single _ := rfl
  keyOf_add _ _ := rfl

/-- The `$group` by currency. -/
def currencyGrouper : Grouper BookedOrder (String × ℚ) String where
  keyOf row := row.1
  key o := o.created.currency
  single o := (o.created.currency, o.created.amounts.total)
  add row o := (row.1, row.2 + o.created.amounts.total)
  keyOf_single _ := rfl
  keyOf_add _ _ := rfl

/-- What the rows of an aggregation leave in a record. -/
def recordOf {κ α : Type} [DecidableEq κ] (rows : List (κ × α)) (key : κ) : Option α :=
  (rows.find? fun row => row.1 = key).map (·.2)

/-! ## The overview -/

structure AnalyticsSummary where
  totalOrders : Nat
  ordersByStatus : OrderStatus → Nat
  revenueByCurrency : String → Option ℚ

def getAnalyticsSummary (orders : List BookedOrder) : AnalyticsSummary where
  totalOrders := orders.length
  ordersByStatus status := (recordOf (statusGrouper.group orders) status).getD 0
  revenueByCurrency := recordOf (currencyGrouper.group (orders.filter (·.collected)))

/-! ## Transactions -/

structure FeeSchedule where
  platformCommissionRatePct : ℚ
  serviceFeeRatePct : ℚ
  taxRatesByCurrency : String → Option ℚ

def getFeeSchedule : FeeSchedule where
  platformCommissionRatePct := round2 (platformCommissionRate * 100)
  serviceFeeRatePct := round2 (serviceFeeRate * 100)
  taxRatesByCurrency currency :=
    (TaxResolver.taxRateTable currency).map fun rate => round2 (rate * 100)

structure OrderTransactionVendor where
  vendor : Seller
  name : String
  deriving DecidableEq

structure OrderTransactionItem where
  name : String
  qty : Nat
  price : ℚ≥0
  deriving DecidableEq

/-- `payoutAmount` is the `restaurantPayoutAmount` of the amounts. -/
structure OrderTransaction where
  id : OrderId
  orderNumber : String
  vendor : OrderTransactionVendor
  items : List OrderTransactionItem
  amounts : OrderAmounts
  platformFeeRatePct : ℚ
  serviceFeeRatePct : ℚ
  taxRatePct : ℚ
  deliveryFeeSharePct : ℚ
  currency : String
  status : OrderStatus
  paymentStatus : OrderPaymentStatus
  createdAt : Time
  deliveredAt : Option Time
  deriving DecidableEq

namespace OrderAmounts

/-- What the tax is worked out from, as the ledger has it. -/
def taxableBase (a : OrderAmounts) : ℚ :=
  round2 (a.subtotal + a.deliveryFee + a.serviceFee - a.discount)

def platformFeeRatePct (a : OrderAmounts) : ℚ :=
  if 0 < a.subtotal then round2 (a.platformFeeAmount / a.subtotal * 100)
  else round2 (platformCommissionRate * 100)

def serviceFeeRatePct (a : OrderAmounts) : ℚ :=
  if 0 < a.subtotal then round2 (a.serviceFee / a.subtotal * 100)
  else round2 (serviceFeeRate * 100)

def taxRatePct (a : OrderAmounts) (currency : String) : ℚ :=
  if 0 < a.taxableBase then round2 (a.tax / a.taxableBase * 100)
  else round2 (TaxResolver.getRate currency * 100)

def deliveryFeeSharePct (a : OrderAmounts) : ℚ :=
  if 0 < a.total then round2 (a.deliveryFee / a.total * 100) else 0

end OrderAmounts

/-- `toOrderTransactionCore`, with the vendor. -/
def BookedOrder.toOrderTransaction (vendorName : String) (o : BookedOrder) : OrderTransaction where
  id := o.id
  orderNumber := o.orderNumber
  vendor := ⟨o.created.seller, vendorName⟩
  items := o.created.items.map fun item => ⟨item.name, item.qty, item.price⟩
  amounts := o.created.amounts
  platformFeeRatePct := o.created.amounts.platformFeeRatePct
  serviceFeeRatePct := o.created.amounts.serviceFeeRatePct
  taxRatePct := o.created.amounts.taxRatePct o.created.currency
  deliveryFeeSharePct := o.created.amounts.deliveryFeeSharePct
  currency := o.created.currency
  status := o.status
  paymentStatus := o.paymentStatus
  createdAt := o.createdAt
  deliveredAt := o.deliveredAt

/-- A result with its items turned into something else. -/
def PaginatedResult.map {α β : Type} (f : α → β) (result : PaginatedResult α) :
    PaginatedResult β :=
  ⟨result.items.map f, result.total, result.page, result.limit, result.totalPages⟩

/-! ## The ledger -/

structure ListOrderTransactionsQueryDto where
  vendorType : Option SellerType
  fromDate : Option Time
  toDate : Option Time
  page : Option Nat
  limit : Option Nat
  deriving DecidableEq

def ListOrderTransactionsQueryDto.filter (query : ListOrderTransactionsQueryDto)
    (o : BookedOrder) : Bool :=
  query.vendorType.all (o.created.seller.sellerType = ·) &&
    (query.fromDate.all (· ≤ o.createdAt) && query.toDate.all (o.createdAt ≤ ·))

structure OrderLedger where
  result : PaginatedResult OrderTransaction
  totalsByCurrency : String → Option ℚ

/-- The name that the ledger shows of a seller; `names` are the businesses that are there. -/
def ledgerName (names : Seller → Option String) : Seller → String
  | .restaurant id => (names (.restaurant id)).getD "Unknown restaurant"
  | .store id => (names (.store id)).getD "Unknown store"

def findAllForAdmin (names : Seller → Option String) (orders : List BookedOrder)
    (query : ListOrderTransactionsQueryDto) : OrderLedger where
  result :=
    (paginate query.filter (fun o => OrderDual.toDual o.createdAt) orders query.page
      query.limit).map fun o => o.toOrderTransaction (ledgerName names o.created.seller)
  totalsByCurrency currency :=
    (recordOf (currencyGrouper.group (orders.filter fun o => query.filter o && o.collected))
      currency).map round2

/-! ## A seller's own -/

structure EarningsSummary where
  currency : String
  deliveredOrders : Nat
  grossRevenue : ℚ
  platformFeeTotal : ℚ
  netEarned : ℚ
  payoutSetupComplete : Bool
  deriving DecidableEq

/-- What matches `{ [sellerIdField]: seller._id, status: 'DELIVERED' }`. -/
def BookedOrder.earnedBy (seller : Seller) (o : BookedOrder) : Bool :=
  o.created.seller = seller && o.status = .delivered

/-- `getEarningsSummary`, once `findSellerOrThrow` has found the seller. -/
def getEarningsSummary (orders : List BookedOrder) (seller : Seller) (currency : String)
    (payoutAccounts : List PayoutAccount) : EarningsSummary :=
  let earned := orders.filter (·.earnedBy seller)
  { currency := currency
    deliveredOrders := earned.length
    grossRevenue := (earned.map (·.created.amounts.subtotal)).sum
    platformFeeTotal := (earned.map (·.created.amounts.platformFeeAmount)).sum
    netEarned := (earned.map (·.created.amounts.restaurantPayoutAmount)).sum
    payoutSetupComplete := payoutAccounts.any (·.status = .active) }

/-- `sort({ deliveredAt: -1 })`: a missing date comes last. -/
def BookedOrder.lastDelivered (o : BookedOrder) : OrderDual (WithBot Time) :=
  OrderDual.toDual (α := WithBot Time) o.deliveredAt

/-- `getSalesReportTransactions`, once `findSellerOrThrow` has found the seller. -/
def getSalesReportTransactions (orders : List BookedOrder) (seller : Seller) (sellerName : String)
    (fromDate toDate : Option Time) (page limit : Nat) : PaginatedResult OrderTransaction :=
  (paginate (fun o => o.deliveredOrdersMatch seller fromDate toDate)
    BookedOrder.lastDelivered orders (some page) (some limit)).map
      (BookedOrder.toOrderTransaction sellerName)

/-! ## What the books add up to -/

/-- An order that either method of `createOrder` has created. -/
def CreatedOrder.Priced (order : CreatedOrder) : Prop :=
  ∃ km c userId dto cart, Catalogue.Creates c km userId dto cart order

section Sums

variable {orders : List BookedOrder} {names : Seller → Option String} {seller : Seller}
  {query : ListOrderTransactionsQueryDto}

theorem isCents_zero : IsCents 0 := ⟨0, by simp⟩

theorem IsCents.max {x y : ℚ} (hx : IsCents x) (hy : IsCents y) : IsCents (max x y) := by
  rcases max_choice x y with h | h
  · rwa [h]
  · rwa [h]

theorem isCents_sum {l : List ℚ} (h : ∀ x ∈ l, IsCents x) : IsCents l.sum := by
  induction l with
  | nil => exact isCents_zero
  | cons x l ih =>
    rw [List.sum_cons]
    exact (h x List.mem_cons_self).add (ih fun y hy => h y (List.mem_cons_of_mem x hy))

theorem CreatedOrder.Priced.isCents {order : CreatedOrder} (h : order.Priced) :
    IsCents order.amounts.total ∧ IsCents order.amounts.platformFeeAmount ∧
      IsCents order.amounts.restaurantPayoutAmount := by
  obtain ⟨km, c, userId, dto, cart, hcreates⟩ := h
  obtain ⟨deliveryFee, discount, hamounts, -⟩ := priced_of_creates hcreates
  rw [hamounts]
  exact ⟨isCents_zero.max (isCents_round2 _), isCents_round2 _, isCents_round2 _⟩

/-- What is in cents for each order is in cents in all. -/
theorem isCents_sum_amounts (f : OrderAmounts → ℚ) (h : ∀ o ∈ orders, o.created.Priced)
    (hf : ∀ {order : CreatedOrder}, order.Priced → IsCents (f order.amounts)) :
    IsCents (orders.map fun o => f o.created.amounts).sum := by
  apply isCents_sum
  intro x hx
  obtain ⟨o, ho, rfl⟩ := List.mem_map.mp hx
  exact hf (h o ho)

theorem statusAdds : statusGrouper.Adds (·.2) fun _ => 1 := ⟨fun _ => rfl, fun _ _ => rfl⟩

theorem currencyAdds : currencyGrouper.Adds (·.2) (·.created.amounts.total) :=
  ⟨fun _ => rfl, fun _ _ => rfl⟩

/-- **The statuses of the overview add up to its orders.** -/
theorem sum_ordersByStatus (orders : List BookedOrder) :
    (orderStatuses.map (getAnalyticsSummary orders).ordersByStatus).sum =
      (getAnalyticsSummary orders).totalOrders := by
  have hcover : ∀ o ∈ orders, statusGrouper.key o ∈ orderStatuses := by
    intro o _
    show o.status ∈ orderStatuses
    cases o.status <;> decide
  have hlookup (status : OrderStatus) : (getAnalyticsSummary orders).ordersByStatus status =
      ((statusGrouper.rowsOf status orders).map fun _ => 1).sum := statusAdds.lookup status
  rw [List.map_congr_left fun status _ => hlookup status,
    Grouper.sum_rowsOf (by decide) hcover]
  show (orders.map fun _ => 1).sum = orders.length
  simp

/-- The total of a currency in the ledger: it is in cents, and rounding leaves it as it is. -/
theorem totals_eq_record (h : ∀ o ∈ orders, o.created.Priced) (currency : String) :
    (findAllForAdmin names orders query).totalsByCurrency currency =
      recordOf (currencyGrouper.group (orders.filter fun o => query.filter o && o.collected))
        currency := by
  show (recordOf _ currency).map round2 = _
  unfold recordOf
  cases hrow : (currencyGrouper.group (orders.filter fun o =>
      query.filter o && o.collected)).find? fun row => row.1 = currency with
  | none => rfl
  | some row =>
    have hmem := List.mem_of_find?_eq_some hrow
    have htotal : IsCents row.2 := by
      rw [currencyAdds.of_mem_group hmem]
      refine isCents_sum_amounts (·.total) (fun o ho => ?_) fun ho => ho.isCents.1
      exact h o (List.mem_of_mem_filter (List.mem_of_mem_filter ho))
    show some (round2 row.2) = some row.2
    rw [round2_of_isCents htotal]

/-- **The ledger of all orders shows the revenue of the overview.** -/
theorem totals_eq_revenue (h : ∀ o ∈ orders, o.created.Priced) (page limit : Option Nat)
    (currency : String) :
    (findAllForAdmin names orders ⟨none, none, none, page, limit⟩).totalsByCurrency currency =
      (getAnalyticsSummary orders).revenueByCurrency currency := by
  rw [totals_eq_record h]
  rfl

/-- What a list adds up to, by a property of its entries. -/
theorem sum_filter_split {α : Type} (l : List α) (p q : α → Bool) (f : α → ℚ) :
    ((l.filter p).map f).sum =
      ((l.filter fun a => p a && q a).map f).sum + ((l.filter fun a => p a && !q a).map f).sum := by
  induction l with
  | nil => simp
  | cons a l ih =>
    simp only [List.filter_cons]
    cases p a <;> cases q a <;> simp [ih] <;> ring

/-- What the ledger shows of a currency, as a sum over the orders. -/
theorem totals_getD (h : ∀ o ∈ orders, o.created.Priced) (currency : String) :
    ((findAllForAdmin names orders query).totalsByCurrency currency).getD 0 =
      ((orders.filter fun o => (query.filter o && o.collected) &&
        decide (o.created.currency = currency)).map (·.created.amounts.total)).sum := by
  rw [totals_eq_record h]
  refine Eq.trans (currencyAdds.lookup currency) ?_
  rw [Grouper.rowsOf, List.filter_filter]
  congr 2
  apply List.filter_congr
  intro o _
  exact Bool.and_comm _ _

/-- **The ledgers of the two kinds of sellers make up the ledger of both.** -/
theorem totals_of_types (h : ∀ o ∈ orders, o.created.Priced) (fromDate toDate : Option Time)
    (page limit : Option Nat) (currency : String) :
    ((findAllForAdmin names orders ⟨none, fromDate, toDate, page, limit⟩).totalsByCurrency
        currency).getD 0 =
      ((findAllForAdmin names orders ⟨some .restaurant, fromDate, toDate, page,
        limit⟩).totalsByCurrency currency).getD 0 +
      ((findAllForAdmin names orders ⟨some .store, fromDate, toDate, page,
        limit⟩).totalsByCurrency currency).getD 0 := by
  rw [totals_getD h, totals_getD h, totals_getD h,
    sum_filter_split _ _ fun o => decide (o.created.seller.sellerType = .restaurant)]
  congr 3
  · apply List.filter_congr
    intro o _
    simp only [ListOrderTransactionsQueryDto.filter, Option.all_none, Option.all_some]
    cases o.created.seller.sellerType <;> simp
  · apply List.filter_congr
    intro o _
    simp only [ListOrderTransactionsQueryDto.filter, Option.all_none, Option.all_some]
    cases o.created.seller.sellerType <;> simp

/-! ## A seller's books -/

/-- The orders of a seller's sales report. -/
def reportedOrders (orders : List BookedOrder) (seller : Seller) (fromDate toDate : Option Time) :
    List BookedOrder :=
  orders.filter fun o => o.deliveredOrdersMatch seller fromDate toDate

theorem deliveredOrders_map (fromDate toDate : Option Time) :
    deliveredOrders (orders.map (·.toFulfilledOrder)) seller fromDate toDate =
      (reportedOrders orders seller fromDate toDate).map (·.toFulfilledOrder) :=
  List.filter_map

/-- The report of all time is about the orders that the earnings are of. -/
theorem reportedOrders_always :
    reportedOrders orders seller none none = orders.filter (·.earnedBy seller) := by
  apply List.filter_congr
  intro o _
  simp [FulfilledOrder.deliveredOrdersMatch, BookedOrder.earnedBy]

/-- The totals of a report as sums over its orders. -/
theorem totals_of_report (dateToString : Time → String) (currency : String)
    (fromDate toDate : Option Time) :
    (getSalesReport dateToString (orders.map (·.toFulfilledOrder)) seller currency fromDate
      toDate).totals.toSalesTotals =
    let reported := reportedOrders orders seller fromDate toDate
    { orders := reported.length
      revenue := round2 (reported.map (·.created.amounts.subtotal)).sum
      deliveryFeeTotal := round2 (reported.map (·.created.amounts.deliveryFee)).sum
      serviceFeeTotal := round2 (reported.map (·.created.amounts.serviceFee)).sum
      taxTotal := round2 (reported.map (·.created.amounts.tax)).sum
      discountTotal := round2 (reported.map (·.created.amounts.discount)).sum
      platformFeeTotal := round2 (reported.map (·.created.amounts.platformFeeAmount)).sum
      netEarned := round2 (reported.map (·.created.amounts.restaurantPayoutAmount)).sum
      totalCollected := round2 (reported.map (·.created.amounts.total)).sum } := by
  simp only [getSalesReport, SalesStats.reportTotals, aggregate, SalesTotals.of,
    deliveredOrders_map, List.length_map, List.map_map, Function.comp_def]

theorem priced_reported (h : ∀ o ∈ orders, o.created.Priced) {fromDate toDate : Option Time} :
    ∀ o ∈ reportedOrders orders seller fromDate toDate, o.created.Priced :=
  fun o ho => h o (List.mem_of_mem_filter ho)

theorem round2_sum_amounts (f : OrderAmounts → ℚ) (h : ∀ o ∈ orders, o.created.Priced)
    (hf : ∀ {order : CreatedOrder}, order.Priced → IsCents (f order.amounts)) :
    round2 (orders.map fun o => f o.created.amounts).sum =
      (orders.map fun o => f o.created.amounts).sum :=
  round2_of_isCents (isCents_sum_amounts f h hf)

/-- **The seller's share and the commission make up the subtotals**, within half a cent an order. -/
theorem sum_split (h : ∀ o ∈ orders, o.created.Priced) :
    |(orders.map (·.created.amounts.platformFeeAmount)).sum +
      (orders.map (·.created.amounts.restaurantPayoutAmount)).sum -
        (orders.map (·.created.amounts.subtotal)).sum| ≤ orders.length * (1 / 200 + EPSILON) := by
  induction orders with
  | nil => simp
  | cons o orders ih =>
    have hrest := abs_le.mp (ih fun x hx => h x (List.mem_cons_of_mem o hx))
    obtain ⟨km, c, userId, dto, cart, hcreates⟩ := h o List.mem_cons_self
    have hone := abs_le.mp (pricing_law hcreates).2.1.within_epsilon.2
    rw [abs_le]
    simp only [List.map_cons, List.sum_cons, List.length_cons]
    push_cast
    constructor <;> linarith [hone.1, hone.2, hrest.1, hrest.2]

/-- The pages of the seller's transactions one after the other, each read from the orders as they
came for its request. -/
def browseTransactions (rows : Nat → List BookedOrder) (seller : Seller) (sellerName : String)
    (fromDate toDate : Option Time) (limit : Nat) : List OrderTransaction :=
  (List.range (getSalesReportTransactions (rows 1) seller sellerName fromDate toDate 1
    limit).totalPages).flatMap fun k =>
      (getSalesReportTransactions (rows (k + 1)) seller sellerName fromDate toDate (k + 1)
        limit).items

/-- No page ends between two orders that were delivered at the same time. -/
def TiesKeptTogether (orders : List BookedOrder) (seller : Seller) (fromDate toDate : Option Time)
    (limit : Nat) : Prop :=
  StepsUp ((sortBy BookedOrder.lastDelivered
    (reportedOrders orders seller fromDate toDate)).map BookedOrder.lastDelivered) limit

/-- So it is where no two of them were delivered at the same time. -/
theorem tiesKeptTogether_of_nodup {fromDate toDate : Option Time} {limit : Nat}
    (h : (orders.map BookedOrder.lastDelivered).Nodup) :
    TiesKeptTogether orders seller fromDate toDate limit :=
  stepsUp_of_nodup (h.sublist (List.filter_sublist.map _))

section Transactions

variable {rows : Nat → List BookedOrder} {fromDate toDate : Option Time} {limit : Nat}

theorem browseTransactions_eq (hrows : ∀ p, (rows p).Perm orders) (sellerName : String) :
    browseTransactions rows seller sellerName fromDate toDate limit =
      (browse (fun p => sortBy BookedOrder.lastDelivered
        (reportedOrders (rows p) seller fromDate toDate)) limit
          (totalPages (reportedOrders orders seller fromDate toDate).length limit)).map
            (BookedOrder.toOrderTransaction sellerName) := by
  have hfirst : (reportedOrders (rows 1) seller fromDate toDate).length =
      (reportedOrders orders seller fromDate toDate).length := ((hrows 1).filter _).length_eq
  rw [browse, List.map_flatMap, ← hfirst]
  rfl

/-- What the pages are cut from is sorted anew for each. -/
theorem lists_reported (hrows : ∀ p, (rows p).Perm orders) :
    Lists BookedOrder.lastDelivered (reportedOrders orders seller fromDate toDate) fun p =>
      sortBy BookedOrder.lastDelivered (reportedOrders (rows p) seller fromDate toDate) where
  perm p := (perm_sortBy _).trans ((hrows p).filter _)
  ordered _ := ordered_sortBy _

/-- **The pages list as many orders as the report has.** -/
theorem length_browseTransactions (hrows : ∀ p, (rows p).Perm orders) (hlimit : 0 < limit)
    (sellerName : String) :
    (browseTransactions rows seller sellerName fromDate toDate limit).length =
      (reportedOrders orders seller fromDate toDate).length := by
  have hkeys := congrArg List.length (map_browse
    (@lists_reported orders seller rows fromDate toDate hrows) limit
      (totalPages (reportedOrders orders seller fromDate toDate).length limit))
  rw [List.length_map, List.length_take, List.length_map, length_sortBy] at hkeys
  rw [browseTransactions_eq hrows, List.length_map, hkeys]
  exact min_eq_right (length_le_totalPages hlimit _)

/-- **Where no page ends in a tie, the pages list each order of the report once.** -/
theorem perm_browseTransactions (hrows : ∀ p, (rows p).Perm orders) (hlimit : 0 < limit)
    (hties : TiesKeptTogether orders seller fromDate toDate limit) (sellerName : String) :
    (browseTransactions rows seller sellerName fromDate toDate limit).Perm
      ((reportedOrders orders seller fromDate toDate).map
        (BookedOrder.toOrderTransaction sellerName)) := by
  rw [browseTransactions_eq hrows]
  exact ((lists_reported hrows).browse_perm hlimit hties).map _

end Transactions

end Sums

/-! ## All of them together -/

/-- The overview, the ledger, the earnings, the sales report and the list of a seller's transactions
tell of the same orders and the same money. -/
structure BooksAgree (orders : List BookedOrder) : Prop where
  statuses : (orderStatuses.map (getAnalyticsSummary orders).ordersByStatus).sum =
    (getAnalyticsSummary orders).totalOrders
  ledger : ∀ names page limit,
    (findAllForAdmin names orders ⟨none, none, none, page, limit⟩).result.total =
      (getAnalyticsSummary orders).totalOrders ∧
    ∀ currency,
      (findAllForAdmin names orders ⟨none, none, none, page, limit⟩).totalsByCurrency currency =
        (getAnalyticsSummary orders).revenueByCurrency currency
  types : ∀ names fromDate toDate page limit currency,
    ((findAllForAdmin names orders ⟨none, fromDate, toDate, page, limit⟩).totalsByCurrency
        currency).getD 0 =
      ((findAllForAdmin names orders ⟨some .restaurant, fromDate, toDate, page,
        limit⟩).totalsByCurrency currency).getD 0 +
      ((findAllForAdmin names orders ⟨some .store, fromDate, toDate, page,
        limit⟩).totalsByCurrency currency).getD 0
  earnings : ∀ dateToString seller currency payoutAccounts,
    let report := getSalesReport dateToString (orders.map (·.toFulfilledOrder)) seller currency
      none none
    let earned := getEarningsSummary orders seller currency payoutAccounts
    report.totals.orders = earned.deliveredOrders ∧
      report.totals.revenue = round2 earned.grossRevenue ∧
      report.totals.platformFeeTotal = earned.platformFeeTotal ∧
      report.totals.netEarned = earned.netEarned ∧
      |earned.platformFeeTotal + earned.netEarned - earned.grossRevenue| ≤
        earned.deliveredOrders * (1 / 200 + EPSILON)
  transactions : ∀ dateToString seller sellerName currency fromDate toDate limit, 0 < limit →
    ∀ rows : Nat → List BookedOrder, (∀ p, (rows p).Perm orders) →
    let report := getSalesReport dateToString (orders.map (·.toFulfilledOrder)) seller currency
      fromDate toDate
    let listed := browseTransactions rows seller sellerName fromDate toDate limit
    listed.length = report.totals.orders ∧
      (TiesKeptTogether orders seller fromDate toDate limit →
        (listed.map (·.amounts.platformFeeAmount)).sum = report.totals.platformFeeTotal ∧
        (listed.map (·.amounts.restaurantPayoutAmount)).sum = report.totals.netEarned ∧
        (listed.map (·.amounts.total)).sum = report.totals.totalCollected)

/-- **The books agree**, whatever has become of the orders and of their payments. -/
theorem books_agree {orders : List BookedOrder} (h : ∀ o ∈ orders, o.created.Priced) :
    BooksAgree orders where
  statuses := sum_ordersByStatus orders
  ledger names page limit := by
    refine ⟨?_, totals_eq_revenue h page limit⟩
    show (orders.filter fun _ => true && (true && true)).length = orders.length
    exact congrArg List.length (List.filter_eq_self.mpr fun _ _ => rfl)
  types _ := totals_of_types h
  earnings dateToString seller currency payoutAccounts := by
    have hreported : ∀ o ∈ reportedOrders orders seller none none, o.created.Priced :=
      priced_reported h
    have htotals := @totals_of_report orders seller dateToString currency none none
    have hsplit := sum_split hreported
    simp only [reportedOrders_always] at htotals hsplit hreported
    refine ⟨congrArg SalesTotals.orders htotals, congrArg SalesTotals.revenue htotals, ?_, ?_,
      hsplit⟩
    · exact (congrArg SalesTotals.platformFeeTotal htotals).trans
        (round2_sum_amounts (·.platformFeeAmount) hreported fun ho => ho.isCents.2.1)
    · exact (congrArg SalesTotals.netEarned htotals).trans
        (round2_sum_amounts (·.restaurantPayoutAmount) hreported fun ho => ho.isCents.2.2)
  transactions dateToString seller sellerName currency fromDate toDate limit hlimit rows hrows := by
    have htotals := @totals_of_report orders seller dateToString currency fromDate toDate
    refine ⟨?_, fun hties => ?_⟩
    · rw [length_browseTransactions hrows hlimit]
      exact (congrArg SalesTotals.orders htotals).symm
    have hperm := perm_browseTransactions hrows hlimit hties sellerName
    -- what the transactions add up to is in cents, so that the report does not round it
    have hsum (f : OrderAmounts → ℚ) (hf : ∀ {order : CreatedOrder}, order.Priced →
        IsCents (f order.amounts)) :
        ((browseTransactions rows seller sellerName fromDate toDate limit).map fun x =>
          f x.amounts).sum =
            round2 ((reportedOrders orders seller fromDate toDate).map fun o =>
              f o.created.amounts).sum := by
      rw [(hperm.map _).sum_eq, List.map_map]
      exact (round2_sum_amounts f (priced_reported h) hf).symm
    refine ⟨?_, ?_, ?_⟩
    · exact (hsum (·.platformFeeAmount) fun ho => ho.isCents.2.1).trans
        (congrArg SalesTotals.platformFeeTotal htotals).symm
    · exact (hsum (·.restaurantPayoutAmount) fun ho => ho.isCents.2.2).trans
        (congrArg SalesTotals.netEarned htotals).symm
    · exact (hsum (·.total) fun ho => ho.isCents.1).trans
        (congrArg SalesTotals.totalCollected htotals).symm

/-! ## Rates -/

/-- What rounding moves an amount by, at most. -/
def roundingError : ℚ := 1 / 200 + EPSILON

/-- The rate that the ledger makes of an amount is near the one that the amount was made with. -/
theorem near_rate {amount base rate error : ℚ} (hbase : 0 < base)
    (h : |amount - base * rate| ≤ error) :
    |round2 (amount / base * 100) - rate * 100| ≤ 100 * error / base + roundingError := by
  have hround := abs_le.mp (round2_near (amount / base * 100))
  have hratio : |amount / base * 100 - rate * 100| ≤ 100 * error / base := by
    have hsame : amount / base * 100 - rate * 100 = 100 * (amount - base * rate) / base := by
      field_simp
    rw [hsame, abs_div, abs_mul, abs_of_pos hbase, abs_of_nonneg (by norm_num : (0 : ℚ) ≤ 100)]
    gcongr
  have hnear := abs_le.mp hratio
  rw [roundingError, abs_le]
  constructor <;> linarith [hround.1, hround.2, hnear.1, hnear.2]

/-- A currency that the schedule does not show has no tax. -/
theorem getD_taxRates (currency : String) :
    (getFeeSchedule.taxRatesByCurrency currency).getD 0 =
      round2 (TaxResolver.getRate currency * 100) := by
  show ((TaxResolver.taxRateTable currency).map fun rate => round2 (rate * 100)).getD 0 =
    round2 ((TaxResolver.taxRateTable currency).getD 0 * 100)
  cases TaxResolver.taxRateTable currency with
  | none =>
    rw [Option.getD_none, zero_mul, round2_of_isCents isCents_zero]
    rfl
  | some rate => rfl

/-- The schedule shows the rates as they are: no percentage has more than two decimals. -/
theorem getFeeSchedule_exact :
    getFeeSchedule.platformCommissionRatePct = platformCommissionRate * 100 ∧
      getFeeSchedule.serviceFeeRatePct = serviceFeeRate * 100 ∧
      ∀ currency, (getFeeSchedule.taxRatesByCurrency currency).getD 0 =
        TaxResolver.getRate currency * 100 := by
  refine ⟨?_, ?_, ?_⟩
  · exact round2_of_isCents ⟨1500, by norm_num [platformCommissionRate]⟩
  · exact round2_of_isCents ⟨500, by norm_num [serviceFeeRate]⟩
  · intro currency
    have hcents : IsCents (TaxResolver.getRate currency * 100) := by
      unfold TaxResolver.getRate TaxResolver.taxRateTable
      split
      · exact ⟨750, by norm_num⟩
      · exact ⟨1500, by norm_num⟩
      · exact ⟨1600, by norm_num⟩
      · exact ⟨1500, by norm_num⟩
      · exact ⟨1800, by norm_num⟩
      · exact ⟨2000, by norm_num⟩
      · exact ⟨0, by norm_num⟩
    rw [getD_taxRates, round2_of_isCents hcents]

/-- **The rates of a transaction are those of the fee schedule**, as nearly as amounts in cents can
tell; and where an order shows no rate they are those of the schedule. -/
theorem rates_near_schedule {o : BookedOrder} (h : o.created.Priced) (vendorName : String) :
    let t := o.toOrderTransaction vendorName
    (if 0 < t.amounts.subtotal then
      |t.platformFeeRatePct - getFeeSchedule.platformCommissionRatePct| ≤
          100 * roundingError / t.amounts.subtotal + roundingError ∧
        |t.serviceFeeRatePct - getFeeSchedule.serviceFeeRatePct| ≤
          100 * roundingError / t.amounts.subtotal + roundingError
    else t.platformFeeRatePct = getFeeSchedule.platformCommissionRatePct ∧
      t.serviceFeeRatePct = getFeeSchedule.serviceFeeRatePct) ∧
    (if 0 < t.amounts.taxableBase then
      |t.taxRatePct - (getFeeSchedule.taxRatesByCurrency t.currency).getD 0| ≤
        100 * ((1 + TaxResolver.getRate t.currency) * roundingError) / t.amounts.taxableBase +
          roundingError
    else t.taxRatePct = (getFeeSchedule.taxRatesByCurrency t.currency).getD 0) := by
  obtain ⟨km, c, userId, dto, cart, hcreates⟩ := h
  obtain ⟨deliveryFee, discount, hamounts, -⟩ := priced_of_creates hcreates
  obtain ⟨hcommission, hservice, htaxes⟩ := getFeeSchedule_exact
  intro t
  have ht : t.amounts = o.created.amounts := rfl
  constructor
  · by_cases hsub : 0 < t.amounts.subtotal
    · rw [if_pos hsub]
      constructor
      · rw [hcommission]
        show |o.created.amounts.platformFeeRatePct - _| ≤ _
        rw [OrderAmounts.platformFeeRatePct, if_pos (ht ▸ hsub)]
        apply near_rate (ht ▸ hsub)
        rw [hamounts]
        exact round2_near _
      · rw [hservice]
        show |o.created.amounts.serviceFeeRatePct - _| ≤ _
        rw [OrderAmounts.serviceFeeRatePct, if_pos (ht ▸ hsub)]
        apply near_rate (ht ▸ hsub)
        rw [hamounts]
        exact round2_near _
    · rw [if_neg hsub]
      exact ⟨if_neg hsub, if_neg hsub⟩
  · by_cases hbase : 0 < t.amounts.taxableBase
    · rw [if_pos hbase, htaxes]
      show |o.created.amounts.taxRatePct o.created.currency - _| ≤ _
      rw [OrderAmounts.taxRatePct, if_pos (ht ▸ hbase)]
      apply near_rate (ht ▸ hbase)
      have hbase' : 0 < o.created.amounts.taxableBase := hbase
      set b := o.created.amounts.subtotal + o.created.amounts.deliveryFee +
        o.created.amounts.serviceFee - o.created.amounts.discount with hb
      set rate := TaxResolver.getRate o.created.currency with hrate
      have htax : o.created.amounts.tax = round2 (max 0 b * rate) := by
        rw [hb, hrate, hamounts]
        rfl
      -- a base that rounds to something positive is positive
      have hpos : 0 ≤ b := by
        by_contra hneg
        have hle : round2 b ≤ round2 0 := round2_mono (le_of_lt (not_le.mp hneg))
        rw [round2_of_isCents isCents_zero] at hle
        exact absurd hbase' (not_lt.mpr hle)
      have hnonneg : 0 ≤ rate := TaxResolver.getRate_nonneg _
      have hround := abs_le.mp (round2_near (b * rate))
      have hmoved := abs_le.mp (round2_near b)
      rw [htax, max_eq_right hpos]
      show |round2 (b * rate) - round2 b * rate| ≤ (1 + rate) * roundingError
      have hlow := mul_le_mul_of_nonneg_right hmoved.1 hnonneg
      have hhigh := mul_le_mul_of_nonneg_right hmoved.2 hnonneg
      rw [roundingError, abs_le]
      constructor <;> nlinarith [hround.1, hround.2, hlow, hhigh]
    · rw [if_neg hbase, getD_taxRates]
      exact if_neg hbase

/-! ## Two lunches -/

theorem exists_lunch : ∃ order : CreatedOrder, order.Priced ∧ 0 < order.amounts.subtotal := by
  obtain ⟨order, horder, hsubtotal⟩ : ∃ order, (lunchCatalogue .empty).createRestaurantOrder
      (fun _ _ => 0) 3 ⟨none, none, none, none⟩ lunchCart = .ok order ∧
        order.amounts.subtotal = lunchCart.subtotal := ⟨_, rfl, rfl⟩
  refine ⟨order, ⟨_, _, _, _, _, Or.inl horder⟩, ?_⟩
  rw [hsubtotal]
  norm_num [Cart.subtotal, lunchCart, CartItem.modifiersTotal]

/-- Two are delivered, the second of them first, and one is refunded. -/
def threeLunches (order : CreatedOrder) : List BookedOrder :=
  [⟨⟨order, .delivered, some 7⟩, 0, "FD-1", .succeeded, 1⟩,
    ⟨⟨order, .refunded, none⟩, 1, "FD-2", .refunded, 2⟩,
    ⟨⟨order, .delivered, some 5⟩, 2, "FD-3", .succeeded, 3⟩]

/-- The second page is read from the orders the other way round. -/
theorem books_agree_lunches : ∃ orders : List BookedOrder,
    orders.map (·.status) = [.delivered, .refunded, .delivered] ∧ BooksAgree orders ∧
      ((browseTransactions (fun p => if p = 1 then orders else orders.reverse) (.restaurant 0)
        "Mama's" none none 1).map (·.amounts.total)).sum =
          (getSalesReport (fun _ => "1970-01-01") (orders.map (·.toFulfilledOrder)) (.restaurant 0)
            "NGN" none none).totals.totalCollected := by
  obtain ⟨order, hpriced, -⟩ := exists_lunch
  have hagree : BooksAgree (threeLunches order) := by
    refine books_agree fun o ho => ?_
    simp only [threeLunches, List.mem_cons, List.not_mem_nil, or_false] at ho
    rcases ho with rfl | rfl | rfl <;> exact hpriced
  have hties : TiesKeptTogether (threeLunches order) (.restaurant 0) none none 1 := by
    apply tiesKeptTogether_of_nodup
    show ([some 7, none, some 5] : List (Option Nat)).Nodup
    decide
  refine ⟨threeLunches order, rfl, hagree, ?_⟩
  refine ((hagree.transactions (fun _ => "1970-01-01") (.restaurant 0) "Mama's" "NGN" none none 1
    one_pos _ fun p => ?_).2 hties).2.2
  split
  · exact List.Perm.refl _
  · exact List.reverse_perm _

theorem rates_near_schedule_lunch : ∃ o : BookedOrder, 0 < o.created.amounts.subtotal ∧
    |(o.toOrderTransaction "Mama's").platformFeeRatePct -
        getFeeSchedule.platformCommissionRatePct| ≤
      100 * roundingError / o.created.amounts.subtotal + roundingError := by
  obtain ⟨order, hpriced, hpos⟩ := exists_lunch
  have hrates := (rates_near_schedule (o := ⟨⟨order, .delivered, some 5⟩, 0, "FD-1", .succeeded, 1⟩)
    hpriced "Mama's").1
  exact ⟨_, hpos, (if_pos hpos ▸ hrates).1⟩

end FoodDelivery
