import FoodDelivery.Payouts.Faults
import FoodDelivery.Payouts.Netting

/-!
# Executing a payout undisturbed

`executePayout` when no database call fails and nobody else claims or frees orders: it takes all
orders of its group, and what becomes of these is decided by the amounts of the group alone.

* `UnpaidEarningsGroup.Sound`: what holds of every group that `getUnpaidVendorEarnings` and
  `getUnpaidRiderEarnings` give.
* `runs_move`: the call runs to the end without a race.
* `SettledBy`: a succeeded payout has claimed the orders, and keeps them.
-/

namespace FoodDelivery

open Store Interleave

/-- What the orders of a group add up to, before any clawback. -/
def UnpaidEarningsGroup.rawAmount (g : UnpaidEarningsGroup) : ℚ :=
  g.rawGrossAmount.getD g.grossAmount

/-- A group as the aggregation gives it. -/
structure UnpaidEarningsGroup.Sound (g : UnpaidEarningsGroup) : Prop where
  listed : g.orderIds ≠ []
  nodup : g.orderIds.Nodup
  gross : 0 ≤ g.grossAmount
  deducted : 0 ≤ g.clawbackDeducted.getD 0
  raw : g.grossAmount ≤ g.rawAmount

namespace PayoutsService

/-- What remains of an amount lies between nothing and all of it. -/
theorem netClawbacks_bounds (matching : List (ClawbackId × PayoutClawback)) {remaining : ℚ}
    (hcents : IsCents remaining) (hnonneg : 0 ≤ remaining) :
    0 ≤ (netClawbacks remaining matching).2 ∧
      (netClawbacks remaining matching).2 ≤ remaining := by
  induction matching generalizing remaining with
  | nil => exact ⟨hnonneg, le_refl _⟩
  | cons x rest ih =>
    obtain ⟨id, c⟩ := x
    rw [netClawbacks]
    split
    · exact ⟨hnonneg, le_refl _⟩
    · dsimp only
      split
      · exact ih hcents hnonneg
      · next hconsumed =>
        have hle : round2 (min remaining c.remainingAmount) ≤ remaining := by
          have hmono := round2_mono (min_le_left remaining c.remainingAmount)
          rwa [round2_of_isCents hcents] at hmono
        have hleft := hcents.sub (isCents_round2 (min remaining c.remainingAmount))
        rw [round2_of_isCents hleft]
        obtain ⟨hlow, hhigh⟩ := ih hleft (sub_nonneg.mpr hle)
        exact ⟨hlow, hhigh.trans (sub_le_self _ (not_le.mp hconsumed).le)⟩

section Groups

variable {rows : List EarningsRow} {raw : UnpaidEarningsGroup}

theorem rawAmount_of_totals (h : Totals rows raw) : raw.rawAmount = raw.grossAmount := by
  rw [UnpaidEarningsGroup.rawAmount, h.raw]
  rfl

/-- A group adds up to nothing only if all its rows are nothing. -/
theorem Totals.pos_iff (h : Totals rows raw) (hnonneg : ∀ row ∈ rows, 0 ≤ row.amount) :
    0 < raw.grossAmount ↔ ∃ row ∈ rows, 0 < row.amount := by
  have hall : ∀ a ∈ rows.map (·.amount), 0 ≤ a := by
    intro a ha
    obtain ⟨row, hrow, rfl⟩ := List.mem_map.mp ha
    exact hnonneg row hrow
  rw [h.grossAmount]
  constructor
  · intro hpos
    by_contra hnone
    have hzero : ∀ a ∈ rows.map (·.amount), a = 0 := by
      intro a ha
      obtain ⟨row, hrow, rfl⟩ := List.mem_map.mp ha
      exact le_antisymm (not_lt.mp fun hlt => hnone ⟨row, hrow, hlt⟩) (hnonneg row hrow)
    rw [List.sum_eq_zero hzero] at hpos
    exact lt_irrefl _ hpos
  · rintro ⟨row, hrow, hpos⟩
    exact hpos.trans_le (List.single_le_sum hall _ (List.mem_map_of_mem hrow))

theorem deducted_of_group {g : UnpaidEarningsGroup} (h : g ∈ groupByProviderAndCurrency rows) :
    g.clawbackDeducted = none := by
  rw [groupByProviderAndCurrency_eq] at h
  refine Grouping.Grouper.group_induction (P := fun _ g => g.clawbackDeducted = none)
    (fun row _ => ?_) (fun before g row _ hnone => ?_) h
  · rfl
  · exact hnone

/-- A group of the aggregation is sound, and stays so when it is netted. -/
theorem sound_of_totals (h : Totals rows raw) (hrows : rows ≠ [])
    (hnodup : (rows.map (·.id)).Nodup) (hnonneg : 0 ≤ raw.grossAmount)
    (hdeducted : raw.clawbackDeducted = none) : raw.Sound where
  listed := by
    rw [h.orderIds]
    exact fun hnil => hrows (List.map_eq_nil_iff.mp hnil)
  nodup := by
    rw [h.orderIds]
    exact hnodup
  gross := hnonneg
  deducted := by
    rw [hdeducted]
    exact le_refl _
  raw := (rawAmount_of_totals h).ge

theorem sound_netGroup (h : Totals rows raw) (hsound : raw.Sound)
    (pending : List (ClawbackId × PayoutClawback)) : (netGroup pending raw).Sound := by
  obtain ⟨hlow, hhigh⟩ := netClawbacks_bounds
    (pending.filter fun x => x.2.provider = raw.provider && x.2.currency = raw.currency)
    h.cents hsound.gross
  rw [netGroup]
  dsimp only
  split
  · exact hsound
  · exact ⟨hsound.listed, hsound.nodup, hlow, round2_nonneg (sub_nonneg.mpr hhigh), hhigh⟩

theorem rawAmount_netGroup (h : Totals rows raw) (pending : List (ClawbackId × PayoutClawback)) :
    (netGroup pending raw).rawAmount = raw.rawAmount := by
  rw [netGroup]
  dsimp only
  split
  · rfl
  · rw [rawAmount_of_totals h]
    rfl

end Groups

end PayoutsService

/-! ## One attempt -/

theorem Attempt.isZeroTransfer_iff {a : Attempt} :
    a.isZeroTransfer = true ↔ a.group.grossAmount = 0 ∧ 0 < a.group.rawAmount := by
  rw [Attempt.isZeroTransfer, Bool.and_eq_true, decide_eq_true_eq, decide_eq_true_eq,
    UnpaidEarningsGroup.rawAmount]
  refine and_congr_right fun hzero => ?_
  cases a.group.rawGrossAmount with
  | none => rw [Option.getD_none, Option.getD_none, hzero]
  | some raw => rfl

/-- Where `executePayout` stands when nobody else has claimed an order of its group: what it will
transfer, and on which side of the zero-transfer branch it is. -/
def Runs (a : Attempt) (w : World) : ExecPc → Prop
  | .create => ∀ o ∈ a.group.orderIds, w.unclaimed a.claimField o = true
  | .claim _ p rest n => rest.Nodup ∧ (∀ o ∈ rest, w.unclaimed a.claimField o = true) ∧
      n + rest.length = a.group.orderIds.length ∧ p.grossAmount = a.group.grossAmount
  | .zeroSave _ _ => a.isZeroTransfer = true
  | .consumeFind guarded _ _ _ _ => guarded = !a.isZeroTransfer
  | .consumeSave guarded _ _ _ _ _ => guarded = !a.isZeroTransfer
  | .processingSave _ p => a.isZeroTransfer = false ∧ p.grossAmount = a.group.grossAmount
  | .transfer _ p => a.isZeroTransfer = false ∧ p.grossAmount = a.group.grossAmount
  | .successSave _ _ => a.isZeroTransfer = false
  | .flagSave _ _ => a.isZeroTransfer = false
  | .failSave _ _ => a.isZeroTransfer = false
  | .release _ _ _ => a.isZeroTransfer = false
  | .raceRelease _ _ _ => False
  | .raceSave _ _ => False
  | .returned => True
  | .threw => False

/-- A succeeded payout has claimed these orders. -/
def World.SettledBy (w : World) (f : ClaimField) (orders : List OrderId) : Prop :=
  ∃ id d, w.payouts.get id = some d ∧ d.status = .succeeded ∧
    ∀ o ∈ orders, w.claimOf f o = some id

/-- What goes on beside a batch: payouts and claims stay as they are. -/
structure World.KeepsClaims (w w' : World) : Prop where
  payouts : w'.payouts = w.payouts
  claims : ∀ f o, w'.claimOf f o = w.claimOf f o
  free : ∀ f o, w.unclaimed f o = true → w'.unclaimed f o = true

section Moves

variable {a : Attempt} {w w' : World} {e e' : ExecPc} {r : Reply} {f : ClaimField} {o : OrderId}
  {orders : List OrderId} {id : PayoutId} {p : Payout}

theorem World.KeepsClaims.spares (h : w.KeepsClaims w') : w.Spares w' f id :=
  ⟨by rw [h.payouts], fun o => by rw [h.claims]⟩

theorem World.SettledBy.keeps (h : w.SettledBy f orders) (hk : w.KeepsClaims w') :
    w'.SettledBy f orders := by
  obtain ⟨id, d, hd, hst, hall⟩ := h
  exact ⟨id, d, hk.payouts ▸ hd, hst, fun o ho => (hk.claims f o).trans (hall o ho)⟩

theorem Runs.keeps (h : Runs a w e) (hk : w.KeepsClaims w') : Runs a w' e := by
  cases e with
  | create => exact fun o ho => hk.free _ o (h o ho)
  | claim id p rest n => exact ⟨h.1, fun o ho => hk.free _ o (h.2.1 o ho), h.2.2⟩
  | _ => exact h

theorem runs_consume {guarded : Bool} {rest : List Consumption}
    (h : guarded = !a.isZeroTransfer) : Runs a w (.consume guarded id p rest) := by
  cases rest with
  | nil => trivial
  | cons x rest => exact h

/-- An order that is not claimed stays so while another one is. -/
theorem unclaimed_claimOrder {o' : OrderId} (hne : o' ≠ o) (h : w.unclaimed f o' = true) :
    (w.claimOrder f o id).unclaimed f o' = true := by
  obtain ⟨d, hd, hnone⟩ := World.unclaimed_iff.mp h
  exact World.unclaimed_iff.mpr
    ⟨d, by rw [World.claimOrder, Collection.get_modify_ne hne.symm, hd], hnone⟩

/-- **The call runs to the end without a race.** -/
theorem runs_move (hm : ExecMove a w e r w' e') (hvalid : a.newPayout.validates = true)
    (hnodup : a.group.orderIds.Nodup) (h : Runs a w e) : Runs a w' e' := by
  cases hm with
  | created hv => exact ⟨hnodup, h, Nat.zero_add _, rfl⟩
  | invalid hv => exact absurd (hv.symm.trans hvalid) (by decide)
  | claimed id p o rest n =>
    obtain ⟨hrest, hfree, hlength, hgross⟩ := h
    rw [List.nodup_cons] at hrest
    refine ⟨hrest.2, fun o' ho' => unclaimed_claimOrder ?_
      (hfree o' (List.mem_cons_of_mem _ ho')), ?_, hgross⟩
    · rintro rfl
      exact hrest.1 ho'
    · rw [if_pos (hfree o List.mem_cons_self), ← hlength, List.length_cons]
      omega
  | raced id p n hn => exact absurd h.2.2.1 hn
  | absorbed id p hz => exact hz
  | claimedAll id p hz => exact ⟨hz, h.2.2.2⟩
  | raceReleased => exact h.elim
  | raceReleasedAll => exact h.elim
  | raceSaved => exact h.elim
  | zeroSaved id p => exact runs_consume (by rw [h]; rfl)
  | processingSaved id p => exact h
  | refused id p m r hm => exact h.1
  | transferred id p ref hm => exact h.1
  | unknown id p moved m hm => exact h.1
  | failed id p moved m hm => exact h.1
  | successSaved id p => exact runs_consume (by rw [h]; rfl)
  | entryGone guarded id p x rest hc => exact runs_consume h
  | entryFound guarded id p x c rest hc => exact h
  | entrySaved guarded id p x c rest => exact runs_consume h
  | flagSaved => trivial
  | failSaved => exact h
  | released => exact h
  | releasedAll => trivial

/-- **What a succeeded payout has claimed stays claimed**, whatever is attempted next. -/
theorem settledBy_move (hm : ExecMove a w e r w' e')
    (hx : ∀ st, e.stage = some st → Executes w a st) (h : w.SettledBy f orders) :
    w'.SettledBy f orders := by
  obtain ⟨id, d, hd, hsucceeded, hall⟩ := h
  have hother : ∀ st, e.stage = some st → st.stored ≠ .succeeded → id ≠ st.id := by
    rintro st hst hne rfl
    obtain ⟨d', hd', hstored, _⟩ := (hx st hst).stored
    obtain rfl := Option.some.inj (hd.symm.trans hd')
    exact hne (hstored.symm.trans hsucceeded)
  have saved : ∀ st, e.stage = some st → st.stored ≠ .succeeded → ∀ g,
      (w.modifyPayout st.id g).SettledBy f orders := by
    intro st hst hne g
    refine ⟨id, d, ?_, hsucceeded, hall⟩
    rw [World.modifyPayout, Collection.get_modify_ne (hother st hst hne).symm, hd]
  have released : ∀ st, e.stage = some st → st.stored ≠ .succeeded → ∀ o,
      (w.releaseOrder a.claimField o st.id).SettledBy f orders := by
    intro st hst hne o
    refine ⟨id, d, hd, hsucceeded, fun o' ho' => ?_⟩
    rw [World.claimOf_releaseOrder]
    split
    · next hfreed =>
      obtain ⟨hheld, rfl, rfl⟩ := hfreed
      exact absurd (Option.some.inj ((hall o' ho').symm.trans hheld)) (hother st hst hne)
    · exact hall o' ho'
  have sent : ∀ {id' : PayoutId} {moved : Bool}, (w.send id' moved).SettledBy f orders := by
    intro id' moved
    exact ⟨id, d, by rw [World.payouts_send, hd], hsucceeded, fun o ho =>
      (spares_send.claims o).mpr (hall o ho)⟩
  cases hm with
  | created hv => exact ⟨id, d, Collection.get_create_of_get hd, hsucceeded, hall⟩
  | claimed id' p o rest n =>
    refine ⟨id, d, hd, hsucceeded, fun o' ho' => ?_⟩
    rw [World.claimOf_claimOrder]
    split
    · next htaken =>
      obtain ⟨hfree, rfl, rfl⟩ := htaken
      cases (hall o' ho').symm.trans (World.claimOf_of_unclaimed hfree)
    · exact hall o' ho'
  | raceReleased id' p o rest => exact released _ rfl (fun he => by cases he) o
  | released id' p o rest => exact released _ rfl (fun he => by cases he) o
  | raceSaved id' p => exact saved _ rfl (fun he => by cases he) _
  | zeroSaved id' p => exact saved _ rfl (fun he => by cases he) _
  | processingSaved id' p => exact saved _ rfl (fun he => by cases he) _
  | successSaved id' p => exact saved _ rfl (fun he => by cases he) _
  | flagSaved id' p => exact saved _ rfl (fun he => by cases he) _
  | failSaved id' p => exact saved _ rfl (fun he => by cases he) _
  | transferred => exact sent
  | unknown => exact sent
  | failed => exact sent
  | _ => exact ⟨id, d, hd, hsucceeded, hall⟩

/-- An absorbed group is settled once its call comes back. -/
theorem settledBy_ended (hm : ExecMove a w e r w' e') (hst : Stands a w e)
    (h : Runs a w e) (hzero : a.isZeroTransfer = true) (hend : e'.ended = true)
    (hvalid : a.newPayout.validates = true) :
    w'.SettledBy a.claimField a.group.orderIds := by
  have hnot : a.isZeroTransfer ≠ false := by
    rw [hzero]
    decide
  have settled : ∀ {w' : World} {id : PayoutId}, w'.Stored id .succeeded → w'.ClaimsAll a id →
      w'.SettledBy a.claimField a.group.orderIds := by
    rintro w' id ⟨d, hd, hsucceeded, _⟩ hall
    exact ⟨id, d, hd, hsucceeded, hall⟩
  cases hm with
  | invalid hv => exact absurd (hv.symm.trans hvalid) (by decide)
  | raceSaved => exact h.elim
  | zeroSaved id p => exact settled (stored_save hst.1 hst.2.1) hst.2.2
  | successSaved => exact absurd h hnot
  | entryGone guarded id p x rest hc => exact settled hst.1 hst.2.2
  | entrySaved guarded id p x c rest => exact settled hst.1 hst.2.2
  | flagSaved => exact absurd h hnot
  | releasedAll => exact absurd h hnot
  | _ => cases hend

/-- An order that is not claimed is not freed either. -/
theorem unclaimed_releaseOrder {o' : OrderId} (h : w.unclaimed f o' = true) :
    (w.releaseOrder f o id).unclaimed f o' = true := by
  obtain ⟨d, hd, hnone⟩ := World.unclaimed_iff.mp h
  refine World.unclaimed_iff.mpr ⟨d, ?_, hnone⟩
  rw [World.releaseOrder, Collection.get_modify]
  split
  · rw [hd, Option.map_some, if_neg]
    rw [hnone]
    exact fun he => by cases he
  · exact hd

theorem unclaimed_send {moved : Bool} (h : w.unclaimed f o = true) :
    (w.send id moved).unclaimed f o = true := by
  rwa [World.unclaimed, World.orders_send]

/-- Orders outside of the group stay free. -/
theorem free_move (hm : ExecMove a w e r w' e') (hst : Stands a w e)
    (hout : o ∉ a.group.orderIds) (h : w.unclaimed a.claimField o = true) :
    w'.unclaimed a.claimField o = true := by
  cases hm with
  | claimed id p o' rest n =>
    obtain ⟨_, _, visited, heq, _⟩ := hst
    refine unclaimed_claimOrder ?_ h
    rintro rfl
    rw [heq] at hout
    exact hout (List.mem_append_right _ List.mem_cons_self)
  | raceReleased => exact unclaimed_releaseOrder h
  | released => exact unclaimed_releaseOrder h
  | transferred => exact unclaimed_send h
  | unknown => exact unclaimed_send h
  | failed => exact unclaimed_send h
  | _ => exact h

end Moves

end FoodDelivery
