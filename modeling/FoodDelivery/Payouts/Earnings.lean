import FoodDelivery.World

/-!
# Unpaid earnings

`payouts/payouts.service.ts`: what a vendor or rider has coming, grouped by
provider and currency, and a vendor's groups netted against the pending
clawbacks.  `getUnpaidVendorEarnings` makes two queries, so it comes in two
steps: `unpaidVendorGroups` reads the orders, `applyClawbacks` the clawbacks.

* `mem_unpaidVendorGroups`: a group lists delivered orders nobody has claimed.
* `netClawbacks_sound`: every consumption names a pending clawback and takes a
  positive number of whole cents, at most what was left of it.
-/

namespace FoodDelivery

open Store

structure UnpaidEarningsGroup where
  provider : PaymentProvider
  currency : String
  grossAmount : ℚ
  orderIds : List OrderId
  rawGrossAmount : Option ℚ
  clawbackDeducted : Option ℚ
  clawbackConsumption : Option (List Consumption)
  deriving DecidableEq

/-- One selected order of the aggregation queries. -/
structure EarningsRow where
  id : OrderId
  provider : PaymentProvider
  currency : String
  amount : ℚ

namespace PayoutsService

/-- The loop body of `groupByProviderAndCurrency`; the groups are in the order
their keys were first seen. -/
def addRow (row : EarningsRow) : List UnpaidEarningsGroup → List UnpaidEarningsGroup
  | [] =>
    [{ provider := row.provider
       currency := row.currency
       grossAmount := round2 (0 + row.amount)
       orderIds := [row.id]
       rawGrossAmount := none
       clawbackDeducted := none
       clawbackConsumption := none }]
  | g :: gs =>
    if g.provider = row.provider ∧ g.currency = row.currency then
      { g with
        grossAmount := round2 (g.grossAmount + row.amount)
        orderIds := g.orderIds ++ [row.id] } :: gs
    else g :: addRow row gs

def groupByProviderAndCurrency (rows : List EarningsRow) : List UnpaidEarningsGroup :=
  rows.foldl (fun groups row => addRow row groups) []

/-- The filter of the query in `getUnpaidVendorEarnings`. -/
def isUnpaidVendorOrder (vendorType : SellerType) (vendorId : VendorId) (o : Order) : Bool :=
  o.seller.sellerType = vendorType && o.seller.vendorId = vendorId && o.status = .delivered &&
    o.vendorPayoutId = none && !o.settledViaInstantSplit

def vendorRow (x : OrderId × Order) : EarningsRow where
  id := x.1
  provider := x.2.paymentProvider
  currency := x.2.currency
  amount := x.2.restaurantPayoutAmount.val

/-- `rawGroups` of `getUnpaidVendorEarnings`. -/
def unpaidVendorGroups (w : World) (vendorType : SellerType) (vendorId : VendorId) :
    List UnpaidEarningsGroup :=
  groupByProviderAndCurrency
    ((w.orders.find fun _ o => isUnpaidVendorOrder vendorType vendorId o).map vendorRow)

/-- The loop of `applyClawbacks` over the matching clawbacks, oldest first: what
is consumed of each and what remains to be paid. -/
def netClawbacks : ℚ → List (ClawbackId × PayoutClawback) → List Consumption × ℚ
  | remaining, [] => ([], remaining)
  | remaining, (id, clawback) :: rest =>
    if remaining ≤ 0 then ([], remaining)
    else
      let consumed := round2 (min remaining clawback.remainingAmount)
      if consumed ≤ 0 then netClawbacks remaining rest
      else
        let (consumption, left) := netClawbacks (round2 (remaining - consumed)) rest
        (⟨id, consumed⟩ :: consumption, left)

/-- `pendingClawbacks` of `applyClawbacks`. -/
def pendingClawbacks (w : World) (vendorType : SellerType) (vendorId : VendorId) :
    List (ClawbackId × PayoutClawback) :=
  w.clawbacks.find fun _ c =>
    c.vendorType = vendorType && c.vendorId = vendorId && c.status = .pending

/-- Net one group against the pending clawbacks of its provider and currency. -/
def netGroup (pending : List (ClawbackId × PayoutClawback)) (group : UnpaidEarningsGroup) :
    UnpaidEarningsGroup :=
  let matching := pending.filter fun x =>
    x.2.provider = group.provider && x.2.currency = group.currency
  if matching.isEmpty then group
  else
    let (consumption, remaining) := netClawbacks group.grossAmount matching
    { group with
      rawGrossAmount := some group.grossAmount
      grossAmount := remaining
      clawbackDeducted := some (round2 (group.grossAmount - remaining))
      clawbackConsumption := some consumption }

def applyClawbacks (w : World) (vendorType : SellerType) (vendorId : VendorId)
    (rawGroups : List UnpaidEarningsGroup) : List UnpaidEarningsGroup :=
  rawGroups.map (netGroup (pendingClawbacks w vendorType vendorId))

def getUnpaidVendorEarnings (w : World) (vendorType : SellerType) (vendorId : VendorId) :
    List UnpaidEarningsGroup :=
  applyClawbacks w vendorType vendorId (unpaidVendorGroups w vendorType vendorId)

/-- The filter of the query in `getUnpaidRiderEarnings`. -/
def isUnpaidRiderOrder (riderUserId : UserId) (o : Order) : Bool :=
  o.riderId = some riderUserId && o.deliveredAt.isSome && o.riderPayoutId = none

def riderRow (x : OrderId × Order) : EarningsRow where
  id := x.1
  provider := x.2.paymentProvider
  currency := x.2.currency
  amount := x.2.deliveryFee.val

def getUnpaidRiderEarnings (w : World) (riderUserId : UserId) : List UnpaidEarningsGroup :=
  groupByProviderAndCurrency
    ((w.orders.find fun _ o => isUnpaidRiderOrder riderUserId o).map riderRow)

/-! ## Grouping -/

theorem mem_orderIds_addRow {row : EarningsRow} {o : OrderId} :
    ∀ {groups : List UnpaidEarningsGroup} {g : UnpaidEarningsGroup}, g ∈ addRow row groups →
      o ∈ g.orderIds → o = row.id ∨ ∃ g' ∈ groups, o ∈ g'.orderIds := by
  intro groups
  induction groups with
  | nil =>
    intro g hg ho
    rw [addRow, List.mem_singleton] at hg
    subst hg
    exact Or.inl (List.mem_singleton.mp ho)
  | cons h hs ih =>
    intro g hg ho
    rw [addRow] at hg
    split at hg
    · rcases List.mem_cons.mp hg with rfl | hg
      · rcases List.mem_append.mp ho with ho | ho
        · exact Or.inr ⟨h, List.mem_cons_self, ho⟩
        · exact Or.inl (List.mem_singleton.mp ho)
      · exact Or.inr ⟨g, List.mem_cons_of_mem _ hg, ho⟩
    · rcases List.mem_cons.mp hg with rfl | hg
      · exact Or.inr ⟨g, List.mem_cons_self, ho⟩
      · rcases ih hg ho with he | ⟨g', hg', ho'⟩
        · exact Or.inl he
        · exact Or.inr ⟨g', List.mem_cons_of_mem _ hg', ho'⟩

theorem mem_orderIds_group {o : OrderId} {g : UnpaidEarningsGroup} (rows : List EarningsRow)
    (hg : g ∈ groupByProviderAndCurrency rows) (ho : o ∈ g.orderIds) :
    ∃ row ∈ rows, row.id = o := by
  have aux : ∀ (rows : List EarningsRow) (acc : List UnpaidEarningsGroup),
      g ∈ rows.foldl (fun groups row => addRow row groups) acc →
      (∃ row ∈ rows, row.id = o) ∨ ∃ g' ∈ acc, o ∈ g'.orderIds := by
    intro rows
    induction rows with
    | nil => intro acc hg; exact Or.inr ⟨g, hg, ho⟩
    | cons row rest ih =>
      intro acc hg
      rw [List.foldl_cons] at hg
      rcases ih _ hg with ⟨r, hr, he⟩ | ⟨g', hg', ho'⟩
      · exact Or.inl ⟨r, List.mem_cons_of_mem _ hr, he⟩
      · rcases mem_orderIds_addRow hg' ho' with he | hex
        · exact Or.inl ⟨row, List.mem_cons_self, he.symm⟩
        · exact Or.inr hex
  rcases aux rows [] hg with h | ⟨_, h, _⟩
  · exact h
  · exact absurd h (List.not_mem_nil)

@[simp] theorem netGroup_orderIds (pending : List (ClawbackId × PayoutClawback))
    (g : UnpaidEarningsGroup) : (netGroup pending g).orderIds = g.orderIds := by
  simp only [netGroup]
  split <;> rfl

/-- **A vendor group lists only delivered orders that no payout has claimed.** -/
theorem mem_unpaidVendorGroups {w : World} {vendorType : SellerType} {vendorId : VendorId}
    {g : UnpaidEarningsGroup} {o : OrderId} (hg : g ∈ unpaidVendorGroups w vendorType vendorId)
    (ho : o ∈ g.orderIds) :
    ∃ d, w.orders.get o = some d ∧ isUnpaidVendorOrder vendorType vendorId d = true := by
  obtain ⟨row, hrow, rfl⟩ := mem_orderIds_group _ hg ho
  obtain ⟨x, hx, rfl⟩ := List.mem_map.mp hrow
  obtain ⟨hget, hp⟩ := Collection.mem_find.mp hx
  exact ⟨x.2, hget, hp⟩

theorem mem_getUnpaidVendorEarnings {w : World} {vendorType : SellerType} {vendorId : VendorId}
    {g : UnpaidEarningsGroup} {o : OrderId}
    (hg : g ∈ getUnpaidVendorEarnings w vendorType vendorId) (ho : o ∈ g.orderIds) :
    ∃ d, w.orders.get o = some d ∧ isUnpaidVendorOrder vendorType vendorId d = true := by
  obtain ⟨raw, hraw, rfl⟩ := List.mem_map.mp hg
  rw [netGroup_orderIds] at ho
  exact mem_unpaidVendorGroups hraw ho

/-! ## Netting -/

/-- What a consumption entry may look like: it names one of the clawbacks, and
takes a positive number of whole cents. -/
structure Sound (matching : List (ClawbackId × PayoutClawback)) (e : Consumption) : Prop where
  named : ∃ c, (e.clawbackId, c) ∈ matching
  positive : 0 < e.amountConsumed
  cents : IsCents e.amountConsumed

theorem Sound.mono {l l' : List (ClawbackId × PayoutClawback)} {e : Consumption} (h : Sound l e)
    (hsub : ∀ x ∈ l, x ∈ l') : Sound l' e :=
  ⟨h.named.imp fun _ hc => hsub _ hc, h.positive, h.cents⟩

/-- **What netting takes**: every entry names a matching clawback and is a
positive number of whole cents. -/
theorem netClawbacks_sound : ∀ (matching : List (ClawbackId × PayoutClawback)) (remaining : ℚ),
    ∀ e ∈ (netClawbacks remaining matching).1, Sound matching e := by
  intro matching
  induction matching with
  | nil => intro remaining e he; simp [netClawbacks] at he
  | cons x rest ih =>
    intro remaining e he
    obtain ⟨id, c⟩ := x
    have hsub : ∀ y ∈ rest, y ∈ (id, c) :: rest := fun y hy => List.mem_cons_of_mem _ hy
    simp only [netClawbacks] at he
    split at he
    · simp at he
    · split at he
      · exact (ih _ e he).mono hsub
      · rename_i hpos
        rcases List.mem_cons.mp he with rfl | he
        · exact ⟨⟨c, List.mem_cons_self⟩, lt_of_not_ge hpos, isCents_round2 _⟩
        · exact (ih _ e he).mono hsub

/-- Grouping consumes nothing. -/
theorem consumption_group {g : UnpaidEarningsGroup} (rows : List EarningsRow)
    (hg : g ∈ groupByProviderAndCurrency rows) : g.clawbackConsumption = none := by
  have add : ∀ (row : EarningsRow) (groups : List UnpaidEarningsGroup),
      (∀ g ∈ groups, g.clawbackConsumption = none) →
        ∀ g ∈ addRow row groups, g.clawbackConsumption = none := by
    intro row groups
    induction groups with
    | nil =>
      intro _ g hg
      rw [addRow, List.mem_singleton] at hg
      rw [hg]
    | cons h hs ih =>
      intro hall g hg
      rw [addRow] at hg
      split at hg
      · rcases List.mem_cons.mp hg with rfl | hg
        · exact hall h List.mem_cons_self
        · exact hall g (List.mem_cons_of_mem _ hg)
      · rcases List.mem_cons.mp hg with rfl | hg
        · exact hall _ List.mem_cons_self
        · exact ih (fun g hg => hall g (List.mem_cons_of_mem _ hg)) g hg
  have aux : ∀ (rows : List EarningsRow) (acc : List UnpaidEarningsGroup),
      (∀ g ∈ acc, g.clawbackConsumption = none) →
        ∀ g ∈ rows.foldl (fun groups row => addRow row groups) acc,
          g.clawbackConsumption = none := by
    intro rows
    induction rows with
    | nil => exact fun acc hacc => hacc
    | cons row rest ih => exact fun acc hacc => ih _ (add row acc hacc)
  exact aux rows [] (fun g hg => absurd hg List.not_mem_nil) g hg

/-- **What a netted group consumes**: what it did before, or sound entries on
pending clawbacks. -/
theorem consumption_applyClawbacks {w : World} {vendorType : SellerType} {vendorId : VendorId}
    {raw : List UnpaidEarningsGroup} {g : UnpaidEarningsGroup} {e : Consumption}
    (hg : g ∈ applyClawbacks w vendorType vendorId raw)
    (he : e ∈ g.clawbackConsumption.getD []) :
    (∃ g' ∈ raw, e ∈ g'.clawbackConsumption.getD []) ∨
      Sound (pendingClawbacks w vendorType vendorId) e := by
  obtain ⟨g', hg', rfl⟩ := List.mem_map.mp hg
  rw [netGroup] at he
  split at he
  · exact Or.inl ⟨g', hg', he⟩
  · exact Or.inr ((netClawbacks_sound _ _ e he).mono fun x hx => (List.mem_filter.mp hx).1)

end PayoutsService

end FoodDelivery
