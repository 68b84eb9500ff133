import FoodDelivery.Payouts.Earnings
import FoodDelivery.Lib.Grouping
import FoodDelivery.Lib.Waterfall

/-!
# Netting is exact

`groupByProviderAndCurrency` is a grouping fold, and the loop of `applyClawbacks` takes from a
group's amount in turn.  On whole cents the rounding at each step of either changes nothing.

* `groupByProviderAndCurrency_eq`, `netClawbacks_eq`: the two loops are instances of the general
  ones.
* `netting_exact`: each unpaid order is in one group, and each group is reduced by its clawbacks,
  oldest first, to the cent.
-/

namespace FoodDelivery

open Store

namespace PayoutsService

/-! ## Groups -/

/-- The loop of `groupByProviderAndCurrency`. -/
def earningsGrouper : Grouping.Grouper EarningsRow UnpaidEarningsGroup (PaymentProvider × String)
    where
  keyOf g := (g.provider, g.currency)
  key row := (row.provider, row.currency)
  single row :=
    { provider := row.provider
      currency := row.currency
      grossAmount := round2 (0 + row.amount)
      orderIds := [row.id]
      rawGrossAmount := none
      clawbackDeducted := none
      clawbackConsumption := none }
  add g row :=
    { g with
      grossAmount := round2 (g.grossAmount + row.amount)
      orderIds := g.orderIds ++ [row.id] }
  keyOf_single _ := rfl
  keyOf_add _ _ := rfl

theorem addRow_eq (row : EarningsRow) (groups : List UnpaidEarningsGroup) :
    addRow row groups = earningsGrouper.put row groups := by
  induction groups with
  | nil => rfl
  | cons g gs ih =>
    have hkey : (g.provider = row.provider ∧ g.currency = row.currency) ↔
        earningsGrouper.keyOf g = earningsGrouper.key row := Prod.mk.injEq .. ▸ Iff.rfl
    rw [addRow, Grouping.Grouper.put, ih]
    exact if_congr hkey rfl rfl

theorem groupByProviderAndCurrency_eq (rows : List EarningsRow) :
    groupByProviderAndCurrency rows = earningsGrouper.group rows := by
  rw [groupByProviderAndCurrency, Grouping.Grouper.group]
  simp only [addRow_eq]

/-- A group of these rows, before any netting. -/
structure Totals (rows : List EarningsRow) (g : UnpaidEarningsGroup) : Prop where
  orderIds : g.orderIds = rows.map (·.id)
  grossAmount : g.grossAmount = (rows.map (·.amount)).sum
  cents : IsCents g.grossAmount
  raw : g.rawGrossAmount = none
  consumption : g.clawbackConsumption = none

theorem Totals.add {rows : List EarningsRow} {g : UnpaidEarningsGroup} (h : Totals rows g)
    {row : EarningsRow} (hcents : IsCents row.amount) :
    Totals (rows ++ [row]) (earningsGrouper.add g row) := by
  have hround : round2 (g.grossAmount + row.amount) = g.grossAmount + row.amount :=
    round2_of_isCents (h.cents.add hcents)
  refine ⟨?_, ?_, ?_, h.raw, h.consumption⟩
  · rw [List.map_append, ← h.orderIds]
    rfl
  · rw [List.map_append, List.sum_append, ← h.grossAmount]
    exact hround.trans (by simp)
  · exact isCents_round2 _

/-- **A group adds up its rows, to the cent.** -/
theorem totals_of_group {rows : List EarningsRow} (hcents : ∀ row ∈ rows, IsCents row.amount)
    {g : UnpaidEarningsGroup} (h : g ∈ groupByProviderAndCurrency rows) :
    Totals (rows.filter fun row => (row.provider, row.currency) = (g.provider, g.currency)) g := by
  rw [groupByProviderAndCurrency_eq] at h
  refine Grouping.Grouper.group_induction (P := Totals) (fun first hfirst => ?_)
    (fun before g row hrow hg => hg.add (hcents row hrow)) h
  have hround : round2 (0 + first.amount) = first.amount := by
    rw [zero_add]
    exact round2_of_isCents (hcents first hfirst)
  exact ⟨rfl, hround.trans (by simp), isCents_round2 _, rfl, rfl⟩

/-! ## Clawbacks -/

/-- What is left of a clawback. -/
def capOf (x : ClawbackId × PayoutClawback) : ℚ := x.2.remainingAmount

/-- What is left of it is a whole number of cents, and not negative. -/
def WholeCents (x : ClawbackId × PayoutClawback) : Prop := IsCents (capOf x) ∧ 0 ≤ capOf x

/-- The entries of those that take something. -/
def entries (taken : List ((ClawbackId × PayoutClawback) × ℚ)) : List Consumption :=
  taken.filterMap fun x => if 0 < x.2 then some ⟨x.1.1, x.2⟩ else none

theorem mem_entries {taken : List ((ClawbackId × PayoutClawback) × ℚ)} {e : Consumption} :
    e ∈ entries taken ↔ ∃ x, (x, e.amountConsumed) ∈ taken ∧ x.1 = e.clawbackId ∧
      0 < e.amountConsumed := by
  rw [entries, List.mem_filterMap]
  constructor
  · rintro ⟨⟨x, t⟩, hmem, he⟩
    split at he
    · next hpos =>
      cases he
      exact ⟨x, hmem, rfl, hpos⟩
    · cases he
  · rintro ⟨x, hmem, hid, hpos⟩
    refine ⟨(x, e.amountConsumed), hmem, ?_⟩
    rw [if_pos hpos, hid]

/-- Those that take nothing add nothing. -/
theorem sum_entries {taken : List ((ClawbackId × PayoutClawback) × ℚ)}
    (hnonneg : ∀ x ∈ taken, 0 ≤ x.2) :
    ((entries taken).map (·.amountConsumed)).sum = (taken.map (·.2)).sum := by
  induction taken with
  | nil => rfl
  | cons x xs ih =>
    have hrest := ih fun y hy => hnonneg y (List.mem_cons_of_mem _ hy)
    rw [entries] at hrest ⊢
    rw [List.filterMap_cons, List.map_cons, List.sum_cons, ← hrest]
    rcases (hnonneg x List.mem_cons_self).eq_or_lt with hzero | hpos
    · rw [← hzero, if_neg (lt_irrefl _), zero_add]
    · rw [if_pos hpos, List.map_cons, List.sum_cons]

/-- **The loop over the clawbacks takes from the amount in turn.** -/
theorem netClawbacks_eq {matching : List (ClawbackId × PayoutClawback)} {remaining : ℚ}
    (hremaining : IsCents remaining) (hnonneg : 0 ≤ remaining)
    (hmatching : ∀ x ∈ matching, WholeCents x) :
    netClawbacks remaining matching = (entries (Waterfall.takes capOf remaining matching),
      Waterfall.left capOf remaining matching) := by
  induction matching generalizing remaining with
  | nil => rfl
  | cons x rest ih =>
    obtain ⟨id, c⟩ := x
    have hrest : ∀ x ∈ rest, WholeCents x := fun x hx => hmatching x (List.mem_cons_of_mem _ hx)
    have hx : WholeCents (id, c) := hmatching _ List.mem_cons_self
    have hround : round2 (min remaining c.remainingAmount) = min remaining (capOf (id, c)) :=
      round2_of_isCents (hremaining.min hx.1)
    rw [netClawbacks]
    by_cases hdone : remaining ≤ 0
    · -- nothing is left: nobody takes anything
      have hzero : remaining = 0 := le_antisymm hdone hnonneg
      have hcaps : ∀ x ∈ (id, c) :: rest, 0 ≤ capOf x := fun x hx => (hmatching x hx).2
      rw [if_pos hdone, hzero, Waterfall.left_zero hcaps]
      refine Prod.ext ?_ rfl
      refine (List.filterMap_eq_nil_iff.mpr fun x hx => ?_).symm
      rw [Waterfall.takes_zero hcaps hx, if_neg (lt_irrefl _)]
    · rw [if_neg hdone, Waterfall.takes, Waterfall.left, entries, List.filterMap_cons]
      dsimp only
      rw [hround]
      have hcents : IsCents (remaining - min remaining (capOf (id, c))) :=
        hremaining.sub (hremaining.min hx.1)
      have hleft : 0 ≤ remaining - min remaining (capOf (id, c)) :=
        sub_nonneg.mpr (min_le_left _ _)
      by_cases hnone : min remaining (capOf (id, c)) ≤ 0
      · have hzero : min remaining (capOf (id, c)) = 0 :=
          le_antisymm hnone (le_min hnonneg hx.2)
        rw [if_pos hnone, if_neg (not_lt.mpr hnone), hzero, sub_zero, ih hremaining hnonneg hrest]
        rfl
      · rw [if_neg hnone, if_pos (not_le.mp hnone), round2_of_isCents hcents,
          ih hcents hleft hrest]
        rfl

/-! ## The groups of a vendor -/

section Vendor

variable (w : World) (vendorType : SellerType) (vendorId : VendorId)

/-- The vendor's orders that are due to be paid. -/
def unpaidOrders : List (OrderId × Order) :=
  w.orders.find fun _ o => isUnpaidVendorOrder vendorType vendorId o

/-- Those that were charged through the provider of a group, in its currency. -/
def ordersOf (g : UnpaidEarningsGroup) : List (OrderId × Order) :=
  (unpaidOrders w vendorType vendorId).filter fun x =>
    (x.2.paymentProvider, x.2.currency) = (g.provider, g.currency)

/-- What the vendor has earned with them. -/
def rawSum (g : UnpaidEarningsGroup) : ℚ :=
  ((ordersOf w vendorType vendorId g).map fun x => x.2.restaurantPayoutAmount.val).sum

/-- The vendor's pending clawbacks with the provider and the currency of a group, oldest first. -/
def clawbacksOf (g : UnpaidEarningsGroup) : List (ClawbackId × PayoutClawback) :=
  (pendingClawbacks w vendorType vendorId).filter fun x =>
    x.2.provider = g.provider && x.2.currency = g.currency

def consumptionOf (g : UnpaidEarningsGroup) : List Consumption := g.clawbackConsumption.getD []

/-- **One group, netted to the cent.** -/
structure NettedExactly (g : UnpaidEarningsGroup) : Prop where
  orderIds : g.orderIds = (ordersOf w vendorType vendorId g).map (·.1)
  net : g.grossAmount = max 0 (rawSum w vendorType vendorId g -
    ((clawbacksOf w vendorType vendorId g).map capOf).sum)
  split : g.grossAmount + ((consumptionOf g).map (·.amountConsumed)).sum =
    rawSum w vendorType vendorId g
  bounded : ∀ e ∈ consumptionOf g, ∃ c,
    (e.clawbackId, c) ∈ clawbacksOf w vendorType vendorId g ∧
      0 < e.amountConsumed ∧ e.amountConsumed ≤ c.remainingAmount
  oldestFirst : ∀ x y, [x, y].Sublist (clawbacksOf w vendorType vendorId g) →
    (∃ e ∈ consumptionOf g, e.clawbackId = y.1) → capOf x = 0 ∨ ⟨x.1, capOf x⟩ ∈ consumptionOf g

/-- **The groups of one vendor.** -/
structure ExactGroups (groups : List UnpaidEarningsGroup) : Prop where
  keys : (groups.map fun g => (g.provider, g.currency)).Nodup
  orders : ∀ x ∈ unpaidOrders w vendorType vendorId, ∃! g, g ∈ groups ∧ x.1 ∈ g.orderIds
  netted : ∀ g ∈ groups, NettedExactly w vendorType vendorId g
  apart : (groups.flatMap fun g => (consumptionOf g).map (·.clawbackId)).Nodup

variable {w vendorType vendorId} {g raw : UnpaidEarningsGroup}

theorem keyOf_netGroup (pending : List (ClawbackId × PayoutClawback)) (g : UnpaidEarningsGroup) :
    (netGroup pending g).provider = g.provider ∧ (netGroup pending g).currency = g.currency := by
  simp only [netGroup]
  split <;> exact ⟨rfl, rfl⟩

theorem totals_of_unpaid (h : raw ∈ unpaidVendorGroups w vendorType vendorId) :
    Totals ((ordersOf w vendorType vendorId raw).map vendorRow) raw := by
  have hcents : ∀ row ∈ (unpaidOrders w vendorType vendorId).map vendorRow,
      IsCents row.amount := by
    intro row hrow
    obtain ⟨x, _, rfl⟩ := List.mem_map.mp hrow
    exact x.2.restaurantPayoutAmount.cents
  have htotals := totals_of_group hcents h
  rw [List.filter_map] at htotals
  exact htotals

theorem raw_eq_rawSum (h : Totals ((ordersOf w vendorType vendorId raw).map vendorRow) raw) :
    raw.grossAmount = rawSum w vendorType vendorId raw := by
  rw [h.grossAmount, List.map_map]
  rfl

theorem rawSum_nonneg : 0 ≤ rawSum w vendorType vendorId g := by
  refine List.sum_nonneg fun a ha => ?_
  obtain ⟨x, _, rfl⟩ := List.mem_map.mp ha
  exact x.2.restaurantPayoutAmount.nonneg

/-- A clawback is known by its id. -/
theorem clawback_of_id {x y : ClawbackId × PayoutClawback}
    (hx : x ∈ pendingClawbacks w vendorType vendorId)
    (hy : y ∈ pendingClawbacks w vendorType vendorId) (h : x.1 = y.1) : x = y := by
  have hgx := (Collection.mem_find.mp hx).1
  have hgy := (Collection.mem_find.mp hy).1
  rw [h, hgy] at hgx
  exact Prod.ext h (Option.some.inj hgx).symm

/-- **What a group is after netting.** -/
theorem netGroup_eq (hcents : ∀ x ∈ pendingClawbacks w vendorType vendorId, WholeCents x)
    (h : raw ∈ unpaidVendorGroups w vendorType vendorId)
    (hg : g = netGroup (pendingClawbacks w vendorType vendorId) raw) :
    g.grossAmount = Waterfall.left capOf (rawSum w vendorType vendorId g)
        (clawbacksOf w vendorType vendorId g) ∧
      consumptionOf g = entries (Waterfall.takes capOf (rawSum w vendorType vendorId g)
        (clawbacksOf w vendorType vendorId g)) := by
  have htotals := totals_of_unpaid h
  have hraw := raw_eq_rawSum htotals
  have hmatching : ∀ x ∈ clawbacksOf w vendorType vendorId raw, WholeCents x :=
    fun x hx => hcents x (List.mem_filter.mp hx).1
  have hnet := netClawbacks_eq htotals.cents (hraw ▸ rawSum_nonneg) hmatching
  have hkey := keyOf_netGroup (pendingClawbacks w vendorType vendorId) raw
  rw [← hg] at hkey
  have hsum : rawSum w vendorType vendorId g = raw.grossAmount := by
    rw [hraw, rawSum, rawSum, ordersOf, ordersOf, hkey.1, hkey.2]
  have hclawbacks : clawbacksOf w vendorType vendorId g =
      clawbacksOf w vendorType vendorId raw := by
    rw [clawbacksOf, clawbacksOf, hkey.1, hkey.2]
  rw [hsum, hclawbacks, hg, netGroup]
  dsimp only
  split
  · next hempty =>
    have hnil : clawbacksOf w vendorType vendorId raw = [] := List.isEmpty_iff.mp hempty
    rw [hnil, consumptionOf, htotals.consumption]
    exact ⟨rfl, rfl⟩
  · rw [clawbacksOf] at hnet ⊢
    rw [hnet]
    exact ⟨rfl, rfl⟩

/-- An entry is what one of the clawbacks gives. -/
theorem consumed_mem {e : Consumption} {amount : ℚ} {xs : List (ClawbackId × PayoutClawback)}
    (he : e ∈ entries (Waterfall.takes capOf amount xs)) :
    ∃ x ∈ xs, x.1 = e.clawbackId ∧ (x, e.amountConsumed) ∈ Waterfall.takes capOf amount xs := by
  obtain ⟨x, hmem, hid, _⟩ := mem_entries.mp he
  have hall : (Waterfall.takes capOf amount xs).map (·.1) = xs := Waterfall.map_fst_takes
  refine ⟨x, ?_, hid, hmem⟩
  rw [← hall]
  exact List.mem_map_of_mem (f := Prod.fst) hmem

/-- No clawback has two entries. -/
theorem nodup_entries {amount : ℚ} {xs : List (ClawbackId × PayoutClawback)}
    (hids : (xs.map (·.1)).Nodup) :
    ((entries (Waterfall.takes capOf amount xs)).map (·.clawbackId)).Nodup := by
  have hall : (Waterfall.takes capOf amount xs).map (·.1) = xs := Waterfall.map_fst_takes
  have hsub : ∀ taken : List ((ClawbackId × PayoutClawback) × ℚ),
      ((entries taken).map (·.clawbackId)).Sublist ((taken.map (·.1)).map (·.1)) := by
    intro taken
    induction taken with
    | nil => exact List.Sublist.slnil
    | cons x taken ih =>
      rw [entries] at ih ⊢
      rw [List.filterMap_cons]
      split
      · exact ih.trans (List.sublist_cons_self _ _)
      · next hsome =>
        split at hsome
        · cases hsome
          exact ih.cons_cons _
        · cases hsome
  refine List.Nodup.sublist (hsub _) ?_
  rwa [hall]

theorem nodup_clawbacksOf : ((clawbacksOf w vendorType vendorId g).map (·.1)).Nodup :=
  List.Nodup.sublist (List.filter_sublist.map _) Collection.nodup_find

/-- **Oldest first**: a clawback gives something only after every older one has given all. -/
theorem entries_oldest_first {amount : ℚ} {xs : List (ClawbackId × PayoutClawback)}
    (hids : (xs.map (·.1)).Nodup) (hcents : ∀ x ∈ xs, WholeCents x)
    {x y : ClawbackId × PayoutClawback} (hxy : [x, y].Sublist xs) {e : Consumption}
    (he : e ∈ entries (Waterfall.takes capOf amount xs)) (hid : e.clawbackId = y.1) :
    capOf x = 0 ∨ ⟨x.1, capOf x⟩ ∈ entries (Waterfall.takes capOf amount xs) := by
  obtain ⟨z, hz, hzid, htaken⟩ := consumed_mem he
  have hpos : 0 < e.amountConsumed := (mem_entries.mp he).choose_spec.2.2
  have hx : x ∈ xs := hxy.subset List.mem_cons_self
  have hy : y ∈ xs := hxy.subset (List.mem_cons_of_mem _ (List.mem_singleton.mpr rfl))
  have hzy : z = y := List.inj_on_of_nodup_map hids hz hy (hzid.trans hid)
  subst hzy
  have hfull := Waterfall.full_of_later (fun a ha => (hcents a ha).2) (List.Nodup.of_map _ hids)
    hxy htaken hpos.ne'
  rcases (hcents x hx).2.eq_or_lt with hzero | hsome
  · exact Or.inl hzero.symm
  · exact Or.inr (mem_entries.mpr ⟨x, hfull, rfl, hsome⟩)

/-- **A group is netted to the cent.** -/
theorem nettedExactly (hcents : ∀ x ∈ pendingClawbacks w vendorType vendorId, WholeCents x)
    (h : raw ∈ unpaidVendorGroups w vendorType vendorId) :
    NettedExactly w vendorType vendorId
      (netGroup (pendingClawbacks w vendorType vendorId) raw) := by
  obtain ⟨hgross, hconsumed⟩ := netGroup_eq hcents h rfl
  have hkey := keyOf_netGroup (pendingClawbacks w vendorType vendorId) raw
  have hids := netGroup_orderIds (pendingClawbacks w vendorType vendorId) raw
  generalize netGroup (pendingClawbacks w vendorType vendorId) raw = g at hgross hconsumed hkey hids
  have hcaps : ∀ x ∈ clawbacksOf w vendorType vendorId g, WholeCents x :=
    fun x hx => hcents x (List.mem_filter.mp hx).1
  have hnonneg : ∀ x ∈ clawbacksOf w vendorType vendorId g, 0 ≤ capOf x :=
    fun x hx => (hcaps x hx).2
  constructor
  · rw [hids, (totals_of_unpaid h).orderIds, ordersOf, ordersOf, hkey.1, hkey.2, List.map_map]
    rfl
  · rw [hgross]
    exact Waterfall.left_eq_max rawSum_nonneg hnonneg
  · have hraw : 0 ≤ rawSum w vendorType vendorId g := rawSum_nonneg
    have htaken := sum_entries fun x hx => (Waterfall.take_bounds hraw hnonneg hx).1
    rw [hconsumed, htaken, hgross, add_comm]
    exact Waterfall.sum_takes_add_left
  · intro e he
    rw [hconsumed] at he
    obtain ⟨x, hx, hid, hmem⟩ := consumed_mem he
    refine ⟨x.2, ?_, (mem_entries.mp he).choose_spec.2.2,
      (Waterfall.take_bounds rawSum_nonneg hnonneg hmem).2⟩
    rw [← hid]
    exact hx
  · rintro x y hxy ⟨e, he, hid⟩
    rw [hconsumed] at he ⊢
    exact entries_oldest_first nodup_clawbacksOf hcaps hxy he hid

theorem key_netGroup (pending : List (ClawbackId × PayoutClawback)) (g : UnpaidEarningsGroup) :
    ((netGroup pending g).provider, (netGroup pending g).currency) = (g.provider, g.currency) :=
  Prod.ext (keyOf_netGroup pending g).1 (keyOf_netGroup pending g).2

theorem nodup_keys_unpaid : ((getUnpaidVendorEarnings w vendorType vendorId).map fun g =>
    (g.provider, g.currency)).Nodup := by
  rw [getUnpaidVendorEarnings, applyClawbacks, List.map_map]
  have hsame : ((fun g : UnpaidEarningsGroup => (g.provider, g.currency)) ∘
      netGroup (pendingClawbacks w vendorType vendorId)) = earningsGrouper.keyOf :=
    funext fun g => key_netGroup _ g
  rw [hsame, unpaidVendorGroups, groupByProviderAndCurrency_eq]
  exact Grouping.Grouper.nodup_keys

/-- An order is in the group of its provider and currency. -/
theorem NettedExactly.mem_orderIds_iff (h : NettedExactly w vendorType vendorId g)
    {x : OrderId × Order} (hx : x ∈ unpaidOrders w vendorType vendorId) :
    x.1 ∈ g.orderIds ↔ (g.provider, g.currency) = (x.2.paymentProvider, x.2.currency) := by
  rw [h.orderIds]
  constructor
  · intro hin
    obtain ⟨y, hy, hyx⟩ := List.mem_map.mp hin
    have hyx : y = x := List.inj_on_of_nodup_map Collection.nodup_find
      (List.mem_filter.mp hy).1 hx hyx
    exact (of_decide_eq_true (hyx ▸ (List.mem_filter.mp hy).2)).symm
  · intro hsame
    exact List.mem_map_of_mem (f := Prod.fst)
      (List.mem_filter.mpr ⟨hx, decide_eq_true hsame.symm⟩)

/-- A group takes from clawbacks of its own provider and currency. -/
theorem NettedExactly.key_of_consumed (h : NettedExactly w vendorType vendorId g) {e : Consumption}
    (he : e ∈ consumptionOf g) : ∃ c,
      (e.clawbackId, c) ∈ pendingClawbacks w vendorType vendorId ∧
        (c.provider, c.currency) = (g.provider, g.currency) := by
  obtain ⟨c, hc, _⟩ := h.bounded e he
  obtain ⟨hpending, hkey⟩ := List.mem_filter.mp hc
  rw [Bool.and_eq_true, decide_eq_true_eq, decide_eq_true_eq] at hkey
  exact ⟨c, hpending, Prod.ext hkey.1 hkey.2⟩

/-- **Clawback netting is exact**: for any orders and any pending clawbacks of whole cents. -/
theorem netting_exact (w : World) (vendorType : SellerType) (vendorId : VendorId)
    (hcents : ∀ x ∈ pendingClawbacks w vendorType vendorId, WholeCents x) :
    ExactGroups w vendorType vendorId (getUnpaidVendorEarnings w vendorType vendorId) := by
  have hkeys : ((getUnpaidVendorEarnings w vendorType vendorId).map fun g =>
      (g.provider, g.currency)).Nodup := nodup_keys_unpaid
  have hnetted : ∀ g ∈ getUnpaidVendorEarnings w vendorType vendorId,
      NettedExactly w vendorType vendorId g := by
    intro g hg
    obtain ⟨raw, hraw, rfl⟩ := List.mem_map.mp hg
    exact nettedExactly hcents hraw
  refine ⟨hkeys, fun x hx => ?_, hnetted, ?_⟩
  · have hrow : vendorRow x ∈ (unpaidOrders w vendorType vendorId).map vendorRow :=
      List.mem_map_of_mem hx
    obtain ⟨raw, hraw, hkey⟩ := Grouping.Grouper.exists_group (G := earningsGrouper) hrow
    rw [← groupByProviderAndCurrency_eq] at hraw
    have hmem : netGroup (pendingClawbacks w vendorType vendorId) raw ∈
        getUnpaidVendorEarnings w vendorType vendorId := List.mem_map_of_mem hraw
    have hnetkey := (key_netGroup (pendingClawbacks w vendorType vendorId) raw).trans hkey
    refine ⟨_, ⟨hmem, ((hnetted _ hmem).mem_orderIds_iff hx).mpr hnetkey⟩, ?_⟩
    rintro g ⟨hg, hin⟩
    have hgkey := ((hnetted g hg).mem_orderIds_iff hx).mp hin
    exact List.inj_on_of_nodup_map hkeys hg hmem (hgkey.trans hnetkey.symm)
  · refine List.nodup_flatMap.mpr ⟨fun g hg => ?_, ?_⟩
    · obtain ⟨raw, hraw, rfl⟩ := List.mem_map.mp hg
      rw [(netGroup_eq hcents hraw rfl).2]
      exact nodup_entries nodup_clawbacksOf
    · refine (List.pairwise_map.mp hkeys).imp_of_mem fun {g g'} hg hg' hne id hid hid' => ?_
      obtain ⟨e, he, rfl⟩ := List.mem_map.mp hid
      obtain ⟨e', he', hsame⟩ := List.mem_map.mp hid'
      obtain ⟨c, hc, hkey⟩ := (hnetted g hg).key_of_consumed he
      obtain ⟨c', hc', hkey'⟩ := (hnetted g' hg').key_of_consumed he'
      obtain ⟨_, rfl⟩ := Prod.mk.inj (clawback_of_id hc hc' hsame.symm)
      exact hne (hkey.symm.trans hkey')

end Vendor

/-- Restaurant 7 has delivered two orders for 9.00 each, and owes 5.00 and 20.00. -/
def owingRestaurant : World :=
  { World.empty [] with
    orders := ⟨List.replicate 2
      { Order.created (.restaurant 7) 1 0 "NGN" .paystack (.ofCents 100) (.ofCents 1100)
          (.ofCents 900) with status := .delivered }⟩
    clawbacks := ⟨[500, 2000].map fun cents =>
      { vendorType := .restaurant, vendorId := 7, orderId := 0, originalPayoutId := 0
        provider := .paystack, currency := "NGN", amount := (Price.ofCents cents).val
        remainingAmount := (Price.ofCents cents).val, status := .pending }⟩ }

theorem netting_exact_owing :
    (getUnpaidVendorEarnings owingRestaurant .restaurant 7).map (fun g =>
      (g.orderIds, g.grossAmount, g.clawbackConsumption)) =
        [([0, 1], 0, some [⟨0, 5⟩, ⟨1, 13⟩])] ∧
      ExactGroups owingRestaurant .restaurant 7
        (getUnpaidVendorEarnings owingRestaurant .restaurant 7) := by
  refine ⟨by decide +kernel, netting_exact owingRestaurant .restaurant 7 fun x hx => ?_⟩
  have hpriced : ∃ cents, x.2.remainingAmount = (Price.ofCents cents).val := by
    obtain ⟨c, hc, hx⟩ := List.mem_map.mp (List.mem_of_getElem? (Collection.mem_find.mp hx).1)
    exact ⟨c, congrArg PayoutClawback.remainingAmount hx.symm⟩
  obtain ⟨cents, hcents⟩ := hpriced
  rw [WholeCents, capOf, hcents]
  exact ⟨(Price.ofCents cents).cents, (Price.ofCents cents).nonneg⟩

end PayoutsService

end FoodDelivery
