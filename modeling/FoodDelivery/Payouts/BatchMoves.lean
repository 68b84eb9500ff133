import FoodDelivery.Payouts.Settling

/-!
# The moves of a weekly batch

What a batch reads, which groups it takes up and what one of its steps does, when no database call
fails and nobody else claims or frees orders.

* `totals_of_rawGroups`: a group as it is read has its rows and nothing else.
* `nextGroup_cases`: the loop of `attemptGroup` goes on to the first group with an account.
* `Working.move`: an attempt leaves the other groups in hand as they are.
* `batch_move`: every step is one of the moves.
-/

namespace FoodDelivery

open Store Interleave PayoutsService

abbrev BatchTaken := Taken World BatchPc Reply

/-- A weekly batch, and what goes on beside it. -/
abbrev BatchRun (w₀ : World) : List BatchTaken → World → BatchPc → Prop :=
  Trace batchStep (fun w _ w' => w.KeepsClaims w') w₀ .start

namespace PayoutVendor

/-- The orders that are due to be paid, as the queries select them. -/
def unpaidRows (w : World) (v : PayoutVendor) : List EarningsRow :=
  match v.vendorType.sellerType with
  | some sellerType => (unpaidOrders w sellerType v.vendorId).map vendorRow
  | none => (w.orders.find fun _ o => isUnpaidRiderOrder v.userId o).map riderRow

def rawGroups (w : World) (v : PayoutVendor) : List UnpaidEarningsGroup :=
  groupByProviderAndCurrency (v.unpaidRows w)

def hasAccount (v : PayoutVendor) (provider : PaymentProvider) : Bool :=
  v.payoutAccounts.any fun a => a.provider = provider && a.status = .active

/-- An active account has the provider's reference, as onboarding stores it. -/
def Referenced (v : PayoutVendor) : Prop :=
  ∀ a ∈ v.payoutAccounts, a.status = .active → a.reference.getD "" ≠ ""

/-- What `attemptGroup` makes of a group. -/
def attempt (v : PayoutVendor) (g : UnpaidEarningsGroup) : Option Attempt :=
  attemptFor v.vendorType v.vendorId v.payoutAccounts g v.vendorType.claimField

end PayoutVendor

/-! ## What is read -/

section Read

variable {w : World} {v : PayoutVendor} {g raw : UnpaidEarningsGroup}

theorem rawGroups_of_seller {sellerType : SellerType}
    (h : v.vendorType.sellerType = some sellerType) :
    v.rawGroups w = unpaidVendorGroups w sellerType v.vendorId := by
  rw [PayoutVendor.rawGroups, PayoutVendor.unpaidRows, h]
  rfl

theorem rawGroups_of_rider (h : v.vendorType.sellerType = none) :
    v.rawGroups w = getUnpaidRiderEarnings w v.userId := by
  rw [PayoutVendor.rawGroups, PayoutVendor.unpaidRows, h]
  rfl

theorem claimField_of_seller {t : PayoutVendorType} {sellerType : SellerType}
    (h : t.sellerType = some sellerType) : t.claimField = .vendorPayoutId := by
  cases t with
  | rider => cases h
  | _ => rfl

theorem claimField_of_rider {t : PayoutVendorType} (h : t.sellerType = none) :
    t.claimField = .riderPayoutId := by
  cases t with
  | rider => rfl
  | _ => cases h

/-- Each selected order is unclaimed, and its amount is a price. -/
structure RowOk (w : World) (v : PayoutVendor) (row : EarningsRow) : Prop where
  free : w.unclaimed v.vendorType.claimField row.id = true
  cents : IsCents row.amount
  nonneg : 0 ≤ row.amount

theorem rowOk {row : EarningsRow} (h : row ∈ v.unpaidRows w) : RowOk w v row := by
  rw [PayoutVendor.unpaidRows] at h
  cases hs : v.vendorType.sellerType with
  | some sellerType =>
    simp only [hs] at h
    obtain ⟨⟨o, d⟩, hx, rfl⟩ := List.mem_map.mp h
    obtain ⟨hget, hp⟩ := Collection.mem_find.mp hx
    simp only [isUnpaidVendorOrder, Bool.and_eq_true, decide_eq_true_eq] at hp
    refine ⟨?_, d.restaurantPayoutAmount.cents, d.restaurantPayoutAmount.nonneg⟩
    rw [claimField_of_seller hs]
    exact World.unclaimed_iff.mpr ⟨d, hget, hp.1.2⟩
  | none =>
    simp only [hs] at h
    obtain ⟨⟨o, d⟩, hx, rfl⟩ := List.mem_map.mp h
    obtain ⟨hget, hp⟩ := Collection.mem_find.mp hx
    simp only [isUnpaidRiderOrder, Bool.and_eq_true, decide_eq_true_eq] at hp
    refine ⟨?_, d.deliveryFee.cents, d.deliveryFee.nonneg⟩
    rw [claimField_of_rider hs]
    exact World.unclaimed_iff.mpr ⟨d, hget, hp.2⟩

theorem nodup_unpaidRows : ((v.unpaidRows w).map (·.id)).Nodup := by
  rw [PayoutVendor.unpaidRows]
  split
  · rw [List.map_map]
    exact Collection.nodup_find
  · rw [List.map_map]
    exact Collection.nodup_find

/-- The rows of a group. -/
def PayoutVendor.rowsOf (w : World) (v : PayoutVendor) (g : UnpaidEarningsGroup) :
    List EarningsRow :=
  (v.unpaidRows w).filter fun row => (row.provider, row.currency) = (g.provider, g.currency)

/-- **A group as it is read**: its rows, in order, and nothing else. -/
theorem totals_of_rawGroups (h : raw ∈ v.rawGroups w) : Totals (v.rowsOf w raw) raw :=
  totals_of_group (fun _ hrow => (rowOk hrow).cents) h

theorem rowsOf_ne_nil (h : raw ∈ v.rawGroups w) : v.rowsOf w raw ≠ [] := by
  rw [PayoutVendor.rawGroups, groupByProviderAndCurrency_eq] at h
  exact Grouping.Grouper.rowsOf_ne_nil h

theorem mem_rowsOf {row : EarningsRow} (h : row ∈ v.rowsOf w g) :
    row ∈ v.unpaidRows w ∧ row.provider = g.provider ∧ row.currency = g.currency := by
  obtain ⟨hmem, hkey⟩ := List.mem_filter.mp h
  exact ⟨hmem, Prod.mk.inj (of_decide_eq_true hkey)⟩

theorem sound_of_rawGroups (h : raw ∈ v.rawGroups w) : raw.Sound := by
  have htotals := totals_of_rawGroups h
  refine sound_of_totals htotals (rowsOf_ne_nil h) ?_ ?_ (deducted_of_group h)
  · exact List.Nodup.sublist (List.filter_sublist.map _) nodup_unpaidRows
  · rw [htotals.grossAmount]
    refine List.sum_nonneg fun a ha => ?_
    obtain ⟨row, hrow, rfl⟩ := List.mem_map.mp ha
    exact (rowOk (mem_rowsOf hrow).1).nonneg

/-- A group has earned something if one of its rows has. -/
theorem grossAmount_pos_iff (h : raw ∈ v.rawGroups w) : 0 < raw.grossAmount ↔
    ∃ row ∈ v.unpaidRows w, row.provider = raw.provider ∧ row.currency = raw.currency ∧
      0 < row.amount := by
  rw [(totals_of_rawGroups h).pos_iff fun row hrow => (rowOk (mem_rowsOf hrow).1).nonneg]
  constructor
  · rintro ⟨row, hrow, hpos⟩
    obtain ⟨hmem, hprovider, hcurrency⟩ := mem_rowsOf hrow
    exact ⟨row, hmem, hprovider, hcurrency, hpos⟩
  · rintro ⟨row, hmem, hprovider, hcurrency, hpos⟩
    have hkey : (row.provider, row.currency) = (raw.provider, raw.currency) :=
      Prod.ext hprovider hcurrency
    exact ⟨row, List.mem_filter.mpr ⟨hmem, decide_eq_true hkey⟩, hpos⟩

/-- Every selected order is in a group. -/
theorem exists_rawGroup {row : EarningsRow} (h : row ∈ v.unpaidRows w) :
    ∃ raw ∈ v.rawGroups w, row ∈ v.rowsOf w raw := by
  obtain ⟨raw, hraw, hkey⟩ := Grouping.Grouper.exists_group (G := earningsGrouper) h
  rw [← groupByProviderAndCurrency_eq] at hraw
  exact ⟨raw, hraw, List.mem_filter.mpr ⟨h, decide_eq_true hkey.symm⟩⟩

/-- The groups of one reading have no order in common. -/
theorem apart_rawGroups :
    (v.rawGroups w).Pairwise fun g g' => ∀ o ∈ g.orderIds, o ∉ g'.orderIds := by
  have hkeys : ((v.rawGroups w).map earningsGrouper.keyOf).Nodup := by
    rw [PayoutVendor.rawGroups, groupByProviderAndCurrency_eq]
    exact Grouping.Grouper.nodup_keys
  refine (List.pairwise_map.mp hkeys).imp_of_mem fun {g g'} hg hg' hne o ho ho' => ?_
  rw [(totals_of_rawGroups hg).orderIds] at ho
  rw [(totals_of_rawGroups hg').orderIds] at ho'
  obtain ⟨row, hrow, rfl⟩ := List.mem_map.mp ho
  obtain ⟨row', hrow', hsame⟩ := List.mem_map.mp ho'
  obtain ⟨hmem, hkey⟩ := mem_rowsOf hrow
  obtain ⟨hmem', hkey'⟩ := mem_rowsOf hrow'
  obtain rfl := List.inj_on_of_nodup_map nodup_unpaidRows hmem' hmem hsame
  exact hne (Prod.ext (hkey.1.symm.trans hkey'.1) (hkey.2.symm.trans hkey'.2))

end Read

/-! ## The loops -/

/-- The kinds of vendors that come after one. -/
def PayoutVendorType.after : PayoutVendorType → List PayoutVendorType
  | .restaurant => [.store, .rider]
  | .store => [.rider]
  | .rider => []

namespace BatchPc

/-- The kinds of vendors that are still to be queried. -/
def types : BatchPc → List PayoutVendorType
  | .query t _ => t :: t.after
  | .readOrders _ frame => frame.vendorType.after
  | .readClawbacks _ _ _ frame => frame.vendorType.after
  | .execute _ _ _ _ frame => frame.vendorType.after
  | .returned _ => []
  | .threw => []

/-- The vendors whose orders are still to be read. -/
def unread : BatchPc → List PayoutVendor
  | .readOrders v frame => v :: frame.queue
  | .readClawbacks _ _ _ frame => frame.queue
  | .execute _ _ _ _ frame => frame.queue
  | _ => []

end BatchPc

section Loops

variable {frame : BatchFrame} {v : PayoutVendor} {groups : List UnpaidEarningsGroup}
  {g : UnpaidEarningsGroup} {a : Attempt}

theorem togo_nextVendor (frame : BatchFrame) : frame.nextVendor.types = frame.vendorType.after ∧
    frame.nextVendor.unread = frame.queue := by
  obtain ⟨t, queue, summary⟩ := frame
  cases queue with
  | cons v queue => exact ⟨rfl, rfl⟩
  | nil => cases t <;> exact ⟨rfl, rfl⟩

/-- After the groups of a vendor comes the next vendor. -/
inductive NextGroup (frame : BatchFrame) (v : PayoutVendor) (groups : List UnpaidEarningsGroup)
    (pc : BatchPc) : Prop
  | done (frame' : BatchFrame) (hframe : frame'.vendorType = frame.vendorType ∧
      frame'.queue = frame.queue) (hnone : ∀ g ∈ groups, v.attempt g = none)
    (hpc : pc = frame'.nextVendor)
  | begun (before : List UnpaidEarningsGroup) (g : UnpaidEarningsGroup)
    (later : List UnpaidEarningsGroup) (a : Attempt) (frame' : BatchFrame)
    (hframe : frame'.vendorType = frame.vendorType ∧ frame'.queue = frame.queue)
    (hgroups : groups = before ++ g :: later) (hnone : ∀ g ∈ before, v.attempt g = none)
    (ha : v.attempt g = some a) (hpc : pc = .execute a .create v later frame')

/-- **The loop of `attemptGroup`** goes on to the first group that there is an account for. -/
theorem nextGroup_cases (v : PayoutVendor) (groups : List UnpaidEarningsGroup) :
    ∀ frame : BatchFrame, NextGroup frame v groups (frame.nextGroup v groups) := by
  induction groups with
  | nil => exact fun frame => .done frame ⟨rfl, rfl⟩ (fun g hg => absurd hg List.not_mem_nil) rfl
  | cons g gs ih =>
    intro frame
    rw [BatchFrame.nextGroup]
    cases ha : attemptFor v.vendorType v.vendorId v.payoutAccounts g v.vendorType.claimField with
    | some a =>
      exact .begun [] g gs a frame ⟨rfl, rfl⟩ rfl (fun g hg => absurd hg List.not_mem_nil) ha rfl
    | none =>
      have hskip : (if g.orderIds = [] then frame else frame.skip).vendorType = frame.vendorType ∧
          (if g.orderIds = [] then frame else frame.skip).queue = frame.queue := by
        split <;> exact ⟨rfl, rfl⟩
      have hcons : ∀ gs' : List UnpaidEarningsGroup, (∀ g ∈ gs', v.attempt g = none) →
          ∀ g' ∈ g :: gs', v.attempt g' = none := by
        intro gs' hall g' hg'
        rcases List.mem_cons.mp hg' with rfl | hg'
        · exact ha
        · exact hall g' hg'
      cases ih (if g.orderIds = [] then frame else frame.skip) with
      | done frame' hframe hnone hpc =>
        exact .done frame' ⟨hframe.1.trans hskip.1, hframe.2.trans hskip.2⟩ (hcons gs hnone) hpc
      | begun before g' later a frame' hframe hgroups hnone ha' hpc =>
        exact .begun (g :: before) g' later a frame'
          ⟨hframe.1.trans hskip.1, hframe.2.trans hskip.2⟩ (by rw [hgroups, List.cons_append])
          (hcons before hnone) ha' hpc

theorem togo_nextGroup (frame : BatchFrame) (v : PayoutVendor)
    (groups : List UnpaidEarningsGroup) :
    (frame.nextGroup v groups).types = frame.vendorType.after ∧
      (frame.nextGroup v groups).unread = frame.queue := by
  cases nextGroup_cases v groups frame with
  | done frame' hframe _ hpc =>
    rw [hpc, (togo_nextVendor frame').1, (togo_nextVendor frame').2, hframe.1, hframe.2]
    exact ⟨rfl, rfl⟩
  | begun _ _ _ _ frame' hframe _ _ _ hpc =>
    rw [hpc]
    exact ⟨congrArg PayoutVendorType.after hframe.1, hframe.2⟩

/-- `attemptGroup` skips a group of orders only for want of an account. -/
theorem hasAccount_of_attempt (h : v.attempt g = some a) :
    v.hasAccount g.provider = true ∧ a.account ∈ v.payoutAccounts ∧ a.account.status = .active := by
  rw [PayoutVendor.attempt, attemptFor] at h
  split at h
  · cases h
  · rw [Option.map_eq_some_iff] at h
    obtain ⟨account, hfind, rfl⟩ := h
    have hmem := List.mem_of_find?_eq_some hfind
    have hp := List.find?_some hfind
    refine ⟨List.any_eq_true.mpr ⟨account, hmem, hp⟩, hmem, ?_⟩
    rw [Bool.and_eq_true, decide_eq_true_eq, decide_eq_true_eq] at hp
    exact hp.2

theorem attempt_ne_none (hg : g.Sound) (h : v.hasAccount g.provider = true) :
    v.attempt g ≠ none := by
  obtain ⟨account, hmem, hp⟩ := List.any_eq_true.mp h
  rw [PayoutVendor.attempt, attemptFor, if_neg hg.listed, Ne, Option.map_eq_none_iff, findAccount,
    List.find?_eq_none]
  exact fun hall => hall account hmem hp

/-- What is created for a sound group and an account with a reference validates. -/
theorem validates_of_attempt (h : v.attempt g = some a) (hv : v.Referenced) (hg : a.group.Sound) :
    a.newPayout.validates = true := by
  obtain ⟨_, hmem, hactive⟩ := hasAccount_of_attempt h
  simp only [Payout.validates, Attempt.newPayout, Bool.and_eq_true, bne_iff_ne]
  exact ⟨⟨hv _ hmem hactive, decide_eq_true hg.gross⟩, decide_eq_true hg.deducted⟩

end Loops

/-! ## Groups in hand -/

/-- Groups of a vendor that are still to be attempted. -/
structure InHand (w : World) (v : PayoutVendor) (groups : List UnpaidEarningsGroup) : Prop where
  referenced : v.Referenced
  sound : ∀ g ∈ groups, g.Sound
  free : ∀ g ∈ groups, ∀ o ∈ g.orderIds, w.unclaimed v.vendorType.claimField o = true
  apart : groups.Pairwise fun g g' => ∀ o ∈ g.orderIds, o ∉ g'.orderIds

/-- One that is being attempted, and those that come after it. -/
structure Working (w : World) (a : Attempt) (e : ExecPc) (v : PayoutVendor)
    (groups : List UnpaidEarningsGroup) : Prop where
  attempt : v.attempt a.group = some a
  sound : a.group.Sound
  stands : Stands a w e
  executes : ∀ st, e.stage = some st → Executes w a st
  runs : Runs a w e
  later : InHand w v groups
  apart : ∀ g ∈ groups, ∀ o ∈ a.group.orderIds, o ∉ g.orderIds

section Hand

variable {w w' : World} {v : PayoutVendor} {groups before later : List UnpaidEarningsGroup}
  {g : UnpaidEarningsGroup} {a : Attempt} {e e' : ExecPc} {r : Reply}

theorem InHand.keeps (h : InHand w v groups) (hk : w.KeepsClaims w') : InHand w' v groups :=
  ⟨h.referenced, h.sound, fun g hg o ho => hk.free _ o (h.free g hg o ho), h.apart⟩

theorem Working.keeps (h : Working w a e v groups) (hk : w.KeepsClaims w') :
    Working w' a e v groups where
  attempt := h.attempt
  sound := h.sound
  stands := by
    cases hid : e.payoutId with
    | some id => exact h.stands.spares hid hk.spares
    | none => cases e <;> trivial
  executes st hst := (h.executes st hst).congr fun _ hd => hk.payouts ▸ hd
  runs := h.runs.keeps hk
  later := h.later.keeps hk
  apart := h.apart

/-- The first group with an account is taken up. -/
theorem working_begun (h : InHand w v groups) (hgroups : groups = before ++ g :: later)
    (ha : v.attempt g = some a) : Working w a .create v later := by
  obtain ⟨hgroup, _, hfield⟩ := attemptFor_eq_some ha
  subst hgroups
  have hmem : g ∈ before ++ g :: later := List.mem_append_right _ List.mem_cons_self
  have hlater : ∀ g' ∈ later, g' ∈ before ++ g :: later := fun g' hg' =>
    List.mem_append_right _ (List.mem_cons_of_mem _ hg')
  have hpair := (List.pairwise_append.mp h.apart).2.1
  rw [List.pairwise_cons] at hpair
  refine ⟨hgroup ▸ ha, hgroup ▸ h.sound g hmem, trivial, fun st hst => (by cases hst), ?_,
    ⟨h.referenced, fun g' hg' => h.sound g' (hlater g' hg'),
      fun g' hg' => h.free g' (hlater g' hg'), hpair.2⟩, fun g' hg' => hgroup ▸ hpair.1 g' hg'⟩
  intro o ho
  rw [hfield]
  exact h.free g hmem o (hgroup ▸ ho)

/-- **One move of the attempt** leaves the other groups as they are. -/
theorem Working.move (h : Working w a e v groups) (hm : ExecMove a w e r w' e') :
    Working w' a e' v groups where
  attempt := h.attempt
  sound := h.sound
  stands := stands_move hm h.stands
  executes := exec_executes hm h.executes
  runs := runs_move hm (validates_of_attempt h.attempt h.later.referenced h.sound) h.sound.nodup
    h.runs
  later := by
    refine ⟨h.later.referenced, h.later.sound, fun g hg o ho => ?_, h.later.apart⟩
    have hfield := (attemptFor_eq_some h.attempt).2.2
    have hfree := h.later.free g hg o ho
    rw [← hfield] at hfree ⊢
    exact free_move hm h.stands (fun hin => h.apart g hg o hin ho) hfree
  apart := h.apart

end Hand

/-! ## The moves of a batch -/

/-- The moves of a batch when no database call fails. -/
inductive BatchMove (w : World) : BatchPc → Reply → World → BatchPc → Prop
  | queried (t : PayoutVendorType) (summary : PayoutBatchSummary) :
    BatchMove w (.query t summary) (.db .ok) w
      (BatchFrame.nextVendor ⟨t, w.payoutVendors t, summary⟩)
  | unsold (v : PayoutVendor) (frame : BatchFrame) (hnone : v.rawGroups w = []) :
    BatchMove w (.readOrders v frame) (.db .ok) w frame.nextVendor
  | sold (v : PayoutVendor) (sellerType : SellerType) (frame : BatchFrame)
    (hs : v.vendorType.sellerType = some sellerType) :
    BatchMove w (.readOrders v frame) (.db .ok) w
      (.readClawbacks v sellerType (v.rawGroups w) frame)
  | delivered (v : PayoutVendor) (frame : BatchFrame) (hs : v.vendorType.sellerType = none) :
    BatchMove w (.readOrders v frame) (.db .ok) w (frame.nextGroup v (v.rawGroups w))
  | netted (v : PayoutVendor) (sellerType : SellerType) (raw : List UnpaidEarningsGroup)
    (frame : BatchFrame) :
    BatchMove w (.readClawbacks v sellerType raw frame) (.db .ok) w
      (frame.nextGroup v (applyClawbacks w sellerType v.vendorId raw))
  | working {a : Attempt} {e e' : ExecPc} {r : Reply} {w' : World} {v : PayoutVendor}
    {groups : List UnpaidEarningsGroup} {frame frame' : BatchFrame} (hm : ExecMove a w e r w' e')
    (hend : e'.ended = false)
    (hframe : frame'.vendorType = frame.vendorType ∧ frame'.queue = frame.queue) :
    BatchMove w (.execute a e v groups frame) r w' (.execute a e' v groups frame')
  | worked {a : Attempt} {e e' : ExecPc} {r : Reply} {w' : World} {v : PayoutVendor}
    {groups : List UnpaidEarningsGroup} {frame frame' : BatchFrame} (hm : ExecMove a w e r w' e')
    (hend : e'.ended = true)
    (hframe : frame'.vendorType = frame.vendorType ∧ frame'.queue = frame.queue) :
    BatchMove w (.execute a e v groups frame) r w' (frame'.nextGroup v groups)

/-- **Every step without a database failure is one of the moves.** -/
theorem batch_move {w w' : World} {pc pc' : BatchPc} {r : Reply} (hr : r.faultless = true)
    (h : batchStep w pc r = some (w', pc')) : BatchMove w pc r w' pc' := by
  cases pc with
  | execute a e v groups frame =>
    simp only [batchStep, Option.map_eq_some_iff] at h
    obtain ⟨⟨w₁, e'⟩, he, heq⟩ := h
    obtain ⟨rfl, rfl⟩ := Prod.mk.inj heq
    have hm := exec_move hr he
    cases hend : e'.ended with
    | false =>
      rw [BatchFrame.proceed_of_not_ended hend]
      exact .working hm hend ⟨rfl, rfl⟩
    | true =>
      cases e' with
      | returned =>
        show BatchMove w _ r w₁
          (({ frame with summary := tally frame.summary e r } : BatchFrame).nextGroup v groups)
        exact .worked hm hend ⟨rfl, rfl⟩
      | threw =>
        show BatchMove w _ r w₁
          (({ frame with summary := tally frame.summary e r } : BatchFrame).fail.nextGroup v groups)
        exact .worked hm hend ⟨rfl, rfl⟩
      | _ => cases hend
  | query t summary =>
    cases r with
    | db db =>
      obtain rfl : db = .ok := of_decide_eq_true hr
      cases h
      exact .queried t summary
    | _ => cases h
  | readOrders v frame =>
    cases r with
    | db db =>
      obtain rfl : db = .ok := of_decide_eq_true hr
      cases hs : v.vendorType.sellerType with
      | none =>
        simp only [batchStep, hs, DbReply.settle_ok, ← rawGroups_of_rider hs] at h
        cases h
        exact .delivered v frame hs
      | some sellerType =>
        simp only [batchStep, hs, DbReply.settle_ok, ← rawGroups_of_seller hs,
          BatchPc.afterOrders] at h
        split at h
        · next hnone =>
          cases h
          exact .unsold v frame hnone
        · cases h
          exact .sold v sellerType frame hs
    | _ => cases h
  | readClawbacks v sellerType raw frame =>
    cases r with
    | db db =>
      obtain rfl : db = .ok := of_decide_eq_true hr
      cases h
      exact .netted v sellerType raw frame
    | _ => cases h
  | returned summary => cases r <;> cases h
  | threw => cases r <;> cases h

end FoodDelivery
