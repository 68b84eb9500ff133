import FoodDelivery.Payouts.BatchMoves

/-!
# Earnings of nothing

A weekly batch from its first call to its last.  A group that nets to zero is settled without a
transfer only if it has earned something; one whose orders all come to nothing is sent to the
provider with an amount of zero.

* `deal_move`: a group that was handed over is dealt with, or still in hand.
* `zero_amounts_settle_iff`: zero amounts settle if and only if every order that is read is in a
  group that has earned something.
* `free_delivery_fails`: a rider who has delivered within a free zone.
-/

namespace FoodDelivery

open Store Interleave PayoutsService

namespace BatchPc

/-- The amount that an adapter's `transfer` is called with. -/
def sends : BatchPc → Option ℚ
  | .execute a (.transfer _ p) _ _ _ =>
    match a.accountError with
    | some _ => none
    | none => some p.grossAmount
  | _ => none

/-- The attempt that is saved as failed. -/
def reportsFailure : BatchPc → Option Attempt
  | .execute a (.raceSave _ _) _ _ _ => some a
  | .execute a (.failSave _ _) _ _ _ => some a
  | _ => none

end BatchPc

/-- The groups that are handed to `attemptGroup` after a step. -/
def handed (x : BatchTaken) : Option (PayoutVendor × List UnpaidEarningsGroup) :=
  match x.pc with
  | .readOrders v _ =>
    match v.vendorType.sellerType with
    | some _ => none
    | none => some (v, getUnpaidRiderEarnings x.store v.userId)
  | .readClawbacks v sellerType raw _ => some (v, applyClawbacks x.store sellerType v.vendorId raw)
  | _ => none

/-- **Zero amounts settle**: the orders of everyone with an active account are read, what is sent is
positive, and a group with nothing to send is settled and never reported as failed. -/
structure SettlesZero (tr : List BatchTaken) (w : World) : Prop where
  visited : ∀ t, ∃ x ∈ tr, ∃ summary, x.pc = .query t summary ∧
    ∀ v ∈ x.store.payoutVendors t, ∃ y ∈ tr, ∃ frame, y.pc = .readOrders v frame
  positive : ∀ x ∈ tr, ∀ amount, x.pc.sends = some amount → 0 < amount
  settled : ∀ x ∈ tr, ∀ v groups, handed x = some (v, groups) → ∀ g ∈ groups,
    v.hasAccount g.provider = true → g.grossAmount = 0 →
      w.SettledBy v.vendorType.claimField g.orderIds
  unfailed : ∀ x ∈ tr, ∀ a, x.pc.reportsFailure = some a → a.group.grossAmount ≠ 0

/-- Where orders are read, each one that there is an account for comes with one of the same provider
and currency that has earned something. -/
def EarnsSomething (x : BatchTaken) : Prop :=
  ∀ v frame, x.pc = .readOrders v frame → ∀ row ∈ v.unpaidRows x.store,
    v.hasAccount row.provider = true → ∃ row' ∈ v.unpaidRows x.store,
      row'.provider = row.provider ∧ row'.currency = row.currency ∧ 0 < row'.amount

/-! ## Everyone is visited -/

/-- Every kind of vendor is queried, and the orders of every vendor found are read, or will be. -/
def Covered (tr : List BatchTaken) (pc : BatchPc) : Prop :=
  ∀ t, t ∈ pc.types ∨ ∃ x ∈ tr, ∃ summary, x.pc = .query t summary ∧
    ∀ v ∈ x.store.payoutVendors t, v ∈ pc.unread ∨ ∃ y ∈ tr, ∃ frame, y.pc = .readOrders v frame

section Covered

variable {tr : List BatchTaken} {w w' : World} {pc pc' : BatchPc} {r : Reply}

theorem covered_step (h : Covered tr pc) (htypes : pc'.types = pc.types)
    (hunread : ∀ v ∈ pc.unread, v ∈ pc'.unread ∨ ∃ frame, pc = .readOrders v frame) :
    Covered (tr ++ [⟨w, pc, r⟩]) pc' := by
  intro t
  rcases h t with hto | ⟨x, hx, summary, hq, hall⟩
  · exact Or.inl (htypes ▸ hto)
  · refine Or.inr ⟨x, List.mem_append_left _ hx, summary, hq, fun v hv => ?_⟩
    rcases hall v hv with hto | ⟨y, hy, hread⟩
    · rcases hunread v hto with hto' | ⟨frame, rfl⟩
      · exact Or.inl hto'
      · exact Or.inr ⟨_, List.mem_concat_self, frame, rfl⟩
    · exact Or.inr ⟨y, List.mem_append_left _ hy, hread⟩

theorem covered_read {v : PayoutVendor} {frame : BatchFrame} (h : Covered tr (.readOrders v frame))
    (hto : pc'.types = frame.vendorType.after ∧ pc'.unread = frame.queue) :
    Covered (tr ++ [⟨w, .readOrders v frame, r⟩]) pc' := by
  refine covered_step h hto.1 fun v' hv' => ?_
  rcases List.mem_cons.mp hv' with rfl | hqueue
  · exact Or.inr ⟨frame, rfl⟩
  · exact Or.inl (hto.2 ▸ hqueue)

theorem covered_move (h : Covered tr pc) (hm : BatchMove w pc r w' pc') :
    Covered (tr ++ [⟨w, pc, r⟩]) pc' := by
  cases hm with
  | queried t summary =>
    have hto := togo_nextVendor ⟨t, w.payoutVendors t, summary⟩
    intro t'
    rcases h t' with hin | ⟨x, hx, s, hq, hall⟩
    · rcases List.mem_cons.mp hin with rfl | hafter
      · exact Or.inr ⟨_, List.mem_concat_self, summary, rfl,
          fun v hv => Or.inl (hto.2 ▸ hv)⟩
      · exact Or.inl (hto.1 ▸ hafter)
    · refine Or.inr ⟨x, List.mem_append_left _ hx, s, hq, fun v hv => ?_⟩
      rcases hall v hv with hunread | ⟨y, hy, hread⟩
      · cases hunread
      · exact Or.inr ⟨y, List.mem_append_left _ hy, hread⟩
  | unsold v frame => exact covered_read h (togo_nextVendor frame)
  | sold v sellerType frame hs => exact covered_read h ⟨rfl, rfl⟩
  | delivered v frame hs => exact covered_read h (togo_nextGroup frame v _)
  | netted v sellerType raw frame =>
    have hto := togo_nextGroup frame v (applyClawbacks w sellerType v.vendorId raw)
    exact covered_step h hto.1 fun v' hv' => Or.inl (hto.2 ▸ hv')
  | @working a e e' r w' v groups frame frame' hm hend hframe =>
    refine covered_step h (congrArg PayoutVendorType.after hframe.1) fun v' hv' => Or.inl ?_
    show v' ∈ frame'.queue
    rw [hframe.2]
    exact hv'
  | @worked a e e' r w' v groups frame frame' hm hend hframe =>
    have hto := togo_nextGroup frame' v groups
    refine covered_step h (hto.1.trans (congrArg PayoutVendorType.after hframe.1)) fun v' hv' =>
      Or.inl ?_
    rw [hto.2, hframe.2]
    exact hv'

end Covered

/-! ## What a batch knows -/

/-- What is known of the groups that a batch has in hand. -/
structure Batching (tr : List BatchTaken) (w : World) (pc : BatchPc) : Prop where
  working : ∀ a e v groups frame, pc = .execute a e v groups frame → Working w a e v groups ∧
    ∀ g ∈ a.group :: groups, ∃ x ∈ tr, ∃ gs, handed x = some (v, gs) ∧ g ∈ gs
  reading : ∀ v sellerType raw frame, pc = .readClawbacks v sellerType raw frame →
    InHand w v raw ∧ ∃ y ∈ tr, ∃ frame', y.pc = .readOrders v frame' ∧ raw = v.rawGroups y.store
  referenced : ∀ v ∈ pc.unread, v.Referenced

/-- Every active account has the provider's reference. -/
def World.Referenced (w : World) : Prop := ∀ v ∈ w.vendors, v.Referenced

section Batching

variable {tr : List BatchTaken} {w w' : World} {pc pc' : BatchPc} {r : Reply} {v : PayoutVendor}
  {frame : BatchFrame} {groups : List UnpaidEarningsGroup}

theorem inHand_rawGroups (hv : v.Referenced) : InHand w v (v.rawGroups w) where
  referenced := hv
  sound _ hg := sound_of_rawGroups hg
  free g hg o ho := by
    rw [(totals_of_rawGroups hg).orderIds] at ho
    obtain ⟨row, hrow, rfl⟩ := List.mem_map.mp ho
    exact (rowOk (mem_rowsOf hrow).1).free
  apart := apart_rawGroups

/-- Netting changes nothing of what is in hand. -/
theorem inHand_netted {w₀ : World} {sellerType : SellerType} {vendorId : VendorId}
    (h : InHand w v groups) (hraw : groups = v.rawGroups w₀) :
    InHand w v (applyClawbacks w' sellerType vendorId groups) where
  referenced := h.referenced
  sound g hg := by
    obtain ⟨raw, hmem, rfl⟩ := List.mem_map.mp hg
    exact sound_netGroup (totals_of_rawGroups (hraw ▸ hmem)) (h.sound raw hmem) _
  free g hg o ho := by
    obtain ⟨raw, hmem, rfl⟩ := List.mem_map.mp hg
    rw [netGroup_orderIds] at ho
    exact h.free raw hmem o ho
  apart := by
    rw [applyClawbacks, List.pairwise_map]
    refine h.apart.imp fun {g g'} hap o ho => ?_
    rw [netGroup_orderIds] at ho ⊢
    exact hap o ho

theorem batching_nextVendor (hqueue : ∀ v ∈ frame.queue, v.Referenced) :
    Batching tr w frame.nextVendor := by
  have hexec : frame.nextVendor.executing = none ∧
      ∀ v sellerType raw frame', frame.nextVendor ≠ .readClawbacks v sellerType raw frame' := by
    rw [BatchFrame.nextVendor]
    split
    · exact ⟨rfl, fun _ _ _ _ he => by cases he⟩
    · split <;> exact ⟨rfl, fun _ _ _ _ he => by cases he⟩
  refine ⟨fun a e v groups frame' he => ?_,
    fun v s raw frame' he => absurd he (hexec.2 _ _ _ _), ?_⟩
  · rw [he] at hexec
    cases hexec.1
  · rw [(togo_nextVendor frame).2]
    exact hqueue

/-- The groups that are handed to `attemptGroup` are in hand. -/
theorem batching_nextGroup (h : InHand w v groups)
    (hsource : ∀ g ∈ groups, ∃ x ∈ tr, ∃ gs, handed x = some (v, gs) ∧ g ∈ gs)
    (hqueue : ∀ v ∈ frame.queue, v.Referenced) : Batching tr w (frame.nextGroup v groups) := by
  cases nextGroup_cases v groups frame with
  | done frame' hframe hnone hpc =>
    rw [hpc]
    exact batching_nextVendor (hframe.2 ▸ hqueue)
  | begun before g later a frame' hframe hgroups hnone ha hpc =>
    rw [hpc]
    refine ⟨fun a' e v' groups' frame'' he => ?_, fun _ _ _ _ he => (by cases he), ?_⟩
    · cases he
      refine ⟨working_begun h hgroups ha, fun g' hg' => hsource g' ?_⟩
      rw [(attemptFor_eq_some ha).1] at hg'
      rw [hgroups]
      exact List.mem_append_right _ hg'
    · show ∀ v ∈ frame'.queue, v.Referenced
      rw [hframe.2]
      exact hqueue

/-- Handed groups are found in the trace. -/
theorem handed_last {x : BatchTaken} (h : handed x = some (v, groups)) :
    ∀ g ∈ groups, ∃ y ∈ tr ++ [x], ∃ gs, handed y = some (v, gs) ∧ g ∈ gs :=
  fun _ hg => ⟨x, List.mem_concat_self, groups, h, hg⟩

theorem handed_delivered (hs : v.vendorType.sellerType = none) :
    handed ⟨w, .readOrders v frame, r⟩ = some (v, v.rawGroups w) := by
  rw [handed]
  dsimp only
  rw [hs, rawGroups_of_rider hs]

/-- What is read is handed over as it is only for riders. -/
theorem handed_read {v' : PayoutVendor}
    (h : handed ⟨w, .readOrders v frame, r⟩ = some (v', groups)) :
    v.vendorType.sellerType = none ∧ v' = v ∧ groups = v.rawGroups w := by
  cases hs : v.vendorType.sellerType with
  | none =>
    rw [handed_delivered hs] at h
    cases h
    exact ⟨rfl, rfl, rfl⟩
  | some sellerType =>
    rw [handed] at h
    simp only [hs] at h
    cases h

theorem batching_move (h : Batching tr w pc) (hm : BatchMove w pc r w' pc')
    (hw : w.Referenced) : Batching (tr ++ [⟨w, pc, r⟩]) w' pc' := by
  have hqueue := h.referenced
  cases hm with
  | queried t summary =>
    exact batching_nextVendor fun v hv => hw v (List.mem_filter.mp hv).1
  | unsold v frame => exact batching_nextVendor fun v' hv' => hqueue v' (List.mem_cons_of_mem _ hv')
  | sold v sellerType frame hs =>
    refine ⟨fun _ _ _ _ _ he => (by cases he), fun _ _ _ _ he => ?_, fun v' hv' =>
      hqueue v' (List.mem_cons_of_mem _ hv')⟩
    cases he
    exact ⟨inHand_rawGroups (hqueue v List.mem_cons_self), _,
      List.mem_concat_self, frame, rfl, rfl⟩
  | delivered v frame hs =>
    exact batching_nextGroup (inHand_rawGroups (hqueue v List.mem_cons_self))
      (handed_last (handed_delivered hs)) fun v' hv' => hqueue v' (List.mem_cons_of_mem _ hv')
  | netted v sellerType raw frame =>
    obtain ⟨hin, y, _, _, _, hraw⟩ := h.reading v sellerType raw frame rfl
    exact batching_nextGroup (inHand_netted hin hraw) (handed_last rfl) hqueue
  | @working a e e' r w' v groups frame frame' hm hend hframe =>
    obtain ⟨hworking, hsource⟩ := h.working a e v groups frame rfl
    refine ⟨fun _ _ _ _ _ he => ?_, fun _ _ _ _ he => (by cases he), ?_⟩
    · cases he
      refine ⟨hworking.move hm, fun g hg => ?_⟩
      obtain ⟨x, hx, hhanded⟩ := hsource g hg
      exact ⟨x, List.mem_append_left _ hx, hhanded⟩
    · show ∀ v ∈ frame'.queue, v.Referenced
      rw [hframe.2]
      exact hqueue
  | @worked a e e' r w' v groups frame frame' hm hend hframe =>
    obtain ⟨hworking, hsource⟩ := h.working a e v groups frame rfl
    refine batching_nextGroup (hworking.move hm).later (fun g hg => ?_) ?_
    · obtain ⟨x, hx, hhanded⟩ := hsource g (List.mem_cons_of_mem _ hg)
      exact ⟨x, List.mem_append_left _ hx, hhanded⟩
    · rw [hframe.2]
      exact hqueue

theorem Batching.keeps (h : Batching tr w pc) (hk : w.KeepsClaims w') : Batching tr w' pc where
  working a e v groups frame he :=
    ⟨(h.working a e v groups frame he).1.keeps hk, (h.working a e v groups frame he).2⟩
  reading v sellerType raw frame he :=
    ⟨(h.reading v sellerType raw frame he).1.keeps hk, (h.reading v sellerType raw frame he).2⟩
  referenced := h.referenced

end Batching

/-! ## Every group is dealt with -/

/-- Where nothing is sent to an adapter, or a group with nothing to send is reported as failed. -/
def Fails (x : BatchTaken) : Prop :=
  (∃ amount, x.pc.sends = some amount ∧ ¬ 0 < amount) ∨
    ∃ a, x.pc.reportsFailure = some a ∧ a.group.grossAmount = 0

/-- Where the amount of an attempt has not shown yet. -/
def ExecPc.undecided : ExecPc → Bool
  | .create => true
  | .claim _ _ _ _ => true
  | .processingSave _ _ => true
  | .transfer _ _ => true
  | .failSave _ _ => true
  | _ => false

/-- A group is settled if clawbacks have absorbed it, and has failed if there was nothing in it. -/
structure Dealt (tr : List BatchTaken) (w : World) (v : PayoutVendor) (g : UnpaidEarningsGroup) :
    Prop where
  settled : g.grossAmount = 0 → 0 < g.rawAmount → w.SettledBy v.vendorType.claimField g.orderIds
  failed : g.rawAmount = 0 → ∃ y ∈ tr, Fails y

/-- A group is being attempted, or will be. -/
inductive ToDeal (tr : List BatchTaken) (pc : BatchPc) (v : PayoutVendor)
    (g : UnpaidEarningsGroup) : Prop
  | now (a : Attempt) (e : ExecPc) (groups : List UnpaidEarningsGroup) (frame : BatchFrame)
    (hpc : pc = .execute a e v groups frame) (hg : a.group = g)
    (hzero : g.rawAmount = 0 → (∃ y ∈ tr, Fails y) ∨ e.undecided = true)
  | later (a : Attempt) (e : ExecPc) (groups : List UnpaidEarningsGroup) (frame : BatchFrame)
    (hpc : pc = .execute a e v groups frame) (hg : g ∈ groups)

/-- What is known of the groups that were handed over. -/
structure Dealing (tr : List BatchTaken) (w : World) (pc : BatchPc) : Prop where
  dealt : ∀ x ∈ tr, ∀ v gs, handed x = some (v, gs) → ∀ g ∈ gs, v.hasAccount g.provider = true →
    Dealt tr w v g ∨ ToDeal tr pc v g
  fails : ∀ y ∈ tr, Fails y → ∃ x ∈ tr, ∃ v gs, handed x = some (v, gs) ∧
    ∃ g ∈ gs, v.hasAccount g.provider = true ∧ g.rawAmount = 0

section Dealing

variable {tr : List BatchTaken} {w w' : World} {pc pc' : BatchPc} {r : Reply} {v : PayoutVendor}
  {frame : BatchFrame} {groups : List UnpaidEarningsGroup} {g : UnpaidEarningsGroup} {a : Attempt}
  {e e' : ExecPc}

theorem Dealt.mono {x : BatchTaken} (h : Dealt tr w v g)
    (hsettled : ∀ f orders, w.SettledBy f orders → w'.SettledBy f orders) :
    Dealt (tr ++ [x]) w' v g where
  settled hzero hpos := hsettled _ _ (h.settled hzero hpos)
  failed hzero := by
    obtain ⟨y, hy, hfails⟩ := h.failed hzero
    exact ⟨y, List.mem_append_left _ hy, hfails⟩

/-- A group with an account that is in hand is attempted. -/
theorem toDeal_nextGroup (h : InHand w v groups) (hg : g ∈ groups)
    (hacc : v.hasAccount g.provider = true) : ToDeal tr (frame.nextGroup v groups) v g := by
  have hsome := attempt_ne_none (h.sound g hg) hacc
  cases nextGroup_cases v groups frame with
  | done frame' hframe hnone hpc => exact absurd (hnone g hg) hsome
  | begun before g' later a frame' hframe hgroups hnone ha hpc =>
    rw [hgroups] at hg
    rcases List.mem_append.mp hg with hbefore | hrest
    · exact absurd (hnone g hbefore) hsome
    · rcases List.mem_cons.mp hrest with rfl | hlater
      · exact .now a .create later frame' hpc (attemptFor_eq_some ha).1 fun _ => Or.inr rfl
      · exact .later a .create later frame' hpc hlater

theorem not_isZeroTransfer (hg : a.group.Sound) (hzero : a.group.grossAmount = 0)
    (h : a.isZeroTransfer = false) : a.group.rawAmount = 0 := by
  refine le_antisymm (not_lt.mp fun hpos => ?_) (hzero ▸ hg.raw)
  have htrue := Attempt.isZeroTransfer_iff.mpr ⟨hzero, hpos⟩
  rw [h] at htrue
  cases htrue

/-- **Only a group in which there is nothing fails at nothing.** -/
theorem raw_of_fails (h : Working w a e v groups)
    (hfails : Fails ⟨w, .execute a e v groups frame, r⟩) : a.group.rawAmount = 0 := by
  rcases hfails with ⟨amount, hsends, hpos⟩ | ⟨a', hreport, hzero⟩
  · cases e with
    | transfer id p =>
      obtain ⟨hnot, hgross⟩ := h.runs
      simp only [BatchPc.sends] at hsends
      split at hsends
      · cases hsends
      · cases hsends
        rw [hgross] at hpos
        exact not_isZeroTransfer h.sound (le_antisymm (not_lt.mp hpos) h.sound.gross) hnot
    | _ => cases hsends
  · cases e with
    | raceSave id p => exact h.runs.elim
    | failSave id p =>
      cases hreport
      exact not_isZeroTransfer h.sound hzero h.runs
    | _ => cases hreport

/-- **A group in which there is nothing fails at nothing.** -/
theorem fails_of_raw (h : Working w a e v groups) (hm : ExecMove a w e r w' e')
    (hraw : a.group.rawAmount = 0) (hundecided : e.undecided = true) :
    e'.undecided = true ∨ Fails ⟨w, .execute a e v groups frame, r⟩ := by
  have hzero : a.group.grossAmount = 0 := le_antisymm (hraw ▸ h.sound.raw) h.sound.gross
  have hnot : a.isZeroTransfer = false := by
    rw [Bool.eq_false_iff]
    intro htrue
    have hpos := (Attempt.isZeroTransfer_iff.mp htrue).2
    rw [hraw] at hpos
    exact lt_irrefl _ hpos
  have hvalid := validates_of_attempt h.attempt h.later.referenced h.sound
  have sent : ∀ {id : PayoutId} {p : Payout}, Runs a w (.transfer id p) → a.accountError = none →
      Fails ⟨w, .execute a (.transfer id p) v groups frame, r⟩ := by
    intro id p hruns hacc
    refine Or.inl ⟨p.grossAmount, ?_, ?_⟩
    · simp only [BatchPc.sends, hacc]
    · rw [hruns.2, hzero]
      exact lt_irrefl _
  cases hm with
  | created => exact Or.inl rfl
  | invalid hv => cases hv.symm.trans hvalid
  | claimed => exact Or.inl rfl
  | raced id p n hn => exact absurd h.runs.2.2.1 hn
  | absorbed id p hz => cases hz.symm.trans hnot
  | claimedAll => exact Or.inl rfl
  | processingSaved => exact Or.inl rfl
  | refused => exact Or.inl rfl
  | transferred id p ref hacc => exact Or.inr (sent h.runs hacc)
  | unknown id p moved m hacc => exact Or.inr (sent h.runs hacc)
  | failed id p moved m hacc => exact Or.inr (sent h.runs hacc)
  | failSaved => exact Or.inr (Or.inr ⟨a, rfl, hzero⟩)
  | _ => cases hundecided

theorem undecided_of_ended (h : e.ended = true) : e.undecided = false := by
  cases e <;> first
    | rfl
    | cases h

/-- What the zero branch of the last step of an attempt leaves of its group. -/
theorem dealt_ended {tr : List BatchTaken} (h : Working w a e v groups)
    (hm : ExecMove a w e r w' e') (hend : e'.ended = true)
    (hzero : a.group.rawAmount = 0 → (∃ y ∈ tr, Fails y) ∨ e.undecided = true) :
    Dealt (tr ++ [⟨w, .execute a e v groups frame, r⟩]) w' v a.group where
  settled hgross hpos := by
    have hvalid := validates_of_attempt h.attempt h.later.referenced h.sound
    rw [← (attemptFor_eq_some h.attempt).2.2]
    exact settledBy_ended hm h.stands h.runs (Attempt.isZeroTransfer_iff.mpr ⟨hgross, hpos⟩) hend
      hvalid
  failed hraw := by
    rcases hzero hraw with ⟨y, hy, hfails⟩ | hundecided
    · exact ⟨y, List.mem_append_left _ hy, hfails⟩
    · rcases fails_of_raw h hm hraw hundecided with hstill | hfails
      · cases hstill.symm.trans (undecided_of_ended hend)
      · exact ⟨_, List.mem_concat_self, hfails⟩

/-- **One move** deals with a group, or it is still to be dealt with. -/
theorem deal_move (hb : Batching tr w pc) (hm : BatchMove w pc r w' pc')
    (hacc : v.hasAccount g.provider = true) (h : Dealt tr w v g ∨ ToDeal tr pc v g) :
    Dealt (tr ++ [⟨w, pc, r⟩]) w' v g ∨ ToDeal (tr ++ [⟨w, pc, r⟩]) pc' v g := by
  cases hm with
  | @working a e e' r w' v' groups frame frame' hm hend hframe =>
    obtain ⟨hworking, _⟩ := hb.working a e v' groups frame rfl
    rcases h with hdealt | htodo
    · exact Or.inl (hdealt.mono fun _ _ hs => settledBy_move hm hworking.executes hs)
    · right
      cases htodo with
      | now a₁ e₁ groups₁ frame₁ hpc hg hzero =>
        cases hpc
        subst hg
        refine .now a e' groups frame' rfl rfl fun hraw => ?_
        rcases hzero hraw with ⟨y, hy, hfails⟩ | hundecided
        · exact Or.inl ⟨y, List.mem_append_left _ hy, hfails⟩
        · rcases fails_of_raw hworking hm hraw hundecided with hstill | hfails
          · exact Or.inr hstill
          · exact Or.inl ⟨_, List.mem_concat_self, hfails⟩
      | later a₁ e₁ groups₁ frame₁ hpc hg =>
        cases hpc
        exact .later a e' groups frame' rfl hg
  | @worked a e e' r w' v' groups frame frame' hm hend hframe =>
    obtain ⟨hworking, _⟩ := hb.working a e v' groups frame rfl
    rcases h with hdealt | htodo
    · exact Or.inl (hdealt.mono fun _ _ hs => settledBy_move hm hworking.executes hs)
    · cases htodo with
      | now a₁ e₁ groups₁ frame₁ hpc hg hzero =>
        cases hpc
        subst hg
        exact Or.inl (dealt_ended hworking hm hend hzero)
      | later a₁ e₁ groups₁ frame₁ hpc hg =>
        cases hpc
        exact Or.inr (toDeal_nextGroup (hworking.move hm).later hg hacc)
  | _ =>
    rcases h with hdealt | htodo
    · exact Or.inl (hdealt.mono fun _ _ hs => hs)
    · cases htodo with
      | now a₁ e₁ groups₁ frame₁ hpc => cases hpc
      | later a₁ e₁ groups₁ frame₁ hpc => cases hpc

/-- Groups are handed over as they are put in hand. -/
theorem toDeal_handed (hb : Batching tr w pc) (hm : BatchMove w pc r w' pc') {tr' : List BatchTaken}
    (hhanded : handed ⟨w, pc, r⟩ = some (v, groups)) (hg : g ∈ groups)
    (hacc : v.hasAccount g.provider = true) : ToDeal tr' pc' v g := by
  cases hm with
  | unsold v' frame hnone =>
    obtain ⟨_, rfl, rfl⟩ := handed_read hhanded
    rw [hnone] at hg
    cases hg
  | sold v' sellerType frame hs => cases hs.symm.trans (handed_read hhanded).1
  | delivered v' frame hs =>
    obtain ⟨_, rfl, rfl⟩ := handed_read hhanded
    exact toDeal_nextGroup (inHand_rawGroups (hb.referenced _ List.mem_cons_self)) hg hacc
  | netted v' sellerType raw frame =>
    cases hhanded
    obtain ⟨hin, y, _, _, _, hraw⟩ := hb.reading _ sellerType raw frame rfl
    exact toDeal_nextGroup (inHand_netted hin hraw) hg hacc
  | _ => cases hhanded

theorem dealing_move (hb : Batching tr w pc) (h : Dealing tr w pc) (hm : BatchMove w pc r w' pc') :
    Dealing (tr ++ [⟨w, pc, r⟩]) w' pc' where
  dealt x hx v gs hhanded g hg hacc := by
    rcases List.mem_append.mp hx with hx | hx
    · exact deal_move hb hm hacc (h.dealt x hx v gs hhanded g hg hacc)
    · rw [List.mem_singleton.mp hx] at hhanded
      exact Or.inr (toDeal_handed hb hm hhanded hg hacc)
  fails y hy hfails := by
    rcases List.mem_append.mp hy with hy | hy
    · obtain ⟨x, hx, hrest⟩ := h.fails y hy hfails
      exact ⟨x, List.mem_append_left _ hx, hrest⟩
    · rw [List.mem_singleton.mp hy] at hfails
      have hexec : ∃ a e v groups frame, pc = .execute a e v groups frame := by
        cases pc with
        | execute a e v groups frame => exact ⟨a, e, v, groups, frame, rfl⟩
        | _ => rcases hfails with ⟨_, hsends, _⟩ | ⟨_, hreport, _⟩ <;> first
          | cases hsends
          | cases hreport
      obtain ⟨a, e, v, groups, frame, rfl⟩ := hexec
      obtain ⟨hworking, hsource⟩ := hb.working a e v groups frame rfl
      obtain ⟨x, hx, gs, hhanded, hg⟩ := hsource a.group List.mem_cons_self
      exact ⟨x, List.mem_append_left _ hx, v, gs, hhanded, a.group, hg,
        (hasAccount_of_attempt hworking.attempt).1, raw_of_fails hworking hfails⟩

theorem Dealing.keeps (h : Dealing tr w pc) (hk : w.KeepsClaims w') : Dealing tr w' pc where
  dealt x hx v gs hhanded g hg hacc := by
    rcases h.dealt x hx v gs hhanded g hg hacc with hdealt | htodo
    · exact Or.inl ⟨fun hzero hpos => (hdealt.settled hzero hpos).keeps hk, hdealt.failed⟩
    · exact Or.inr htodo
  fails := h.fails

end Dealing

/-! ## From what is read to what is handed over -/

/-- The groups that are handed over are those that were read, netted. -/
structure Passing (tr : List BatchTaken) (pc : BatchPc) : Prop where
  origin : ∀ x ∈ tr, ∀ v gs, handed x = some (v, gs) → ∃ y ∈ tr, ∃ frame,
    y.pc = .readOrders v frame ∧ ∀ g ∈ gs, ∃ raw ∈ v.rawGroups y.store,
      g.rawAmount = raw.grossAmount ∧ g.provider = raw.provider
  passed : ∀ y ∈ tr, ∀ v frame, y.pc = .readOrders v frame → ∀ raw ∈ v.rawGroups y.store,
    (∃ x ∈ tr, ∃ gs, handed x = some (v, gs) ∧
      ∃ g ∈ gs, g.rawAmount = raw.grossAmount ∧ g.provider = raw.provider) ∨
    ∃ sellerType groups frame', pc = .readClawbacks v sellerType groups frame' ∧ raw ∈ groups

section Passing

variable {tr : List BatchTaken} {w w' : World} {pc pc' : BatchPc} {r : Reply} {v : PayoutVendor}
  {frame : BatchFrame}

theorem netted_raw {w₀ : World} {raw : UnpaidEarningsGroup} (h : raw ∈ v.rawGroups w₀)
    (pending : List (ClawbackId × PayoutClawback)) :
    (netGroup pending raw).rawAmount = raw.grossAmount ∧
      (netGroup pending raw).provider = raw.provider := by
  have htotals := totals_of_rawGroups h
  exact ⟨(rawAmount_netGroup htotals pending).trans (rawAmount_of_totals htotals),
    (keyOf_netGroup pending raw).1⟩

theorem handed_netted {w₀ : World} {sellerType : SellerType} {groups : List UnpaidEarningsGroup}
    (hraw : groups = v.rawGroups w₀) :
    (∀ g ∈ applyClawbacks w sellerType v.vendorId groups, ∃ raw ∈ groups,
      g.rawAmount = raw.grossAmount ∧ g.provider = raw.provider) ∧
    ∀ raw ∈ groups, ∃ g ∈ applyClawbacks w sellerType v.vendorId groups,
      g.rawAmount = raw.grossAmount ∧ g.provider = raw.provider := by
  constructor
  · intro g hg
    obtain ⟨raw, hmem, rfl⟩ := List.mem_map.mp hg
    exact ⟨raw, hmem, netted_raw (hraw ▸ hmem) _⟩
  · exact fun raw hmem => ⟨_, List.mem_map_of_mem hmem, netted_raw (hraw ▸ hmem) _⟩

/-- The groups of a rider are handed over as they were read. -/
theorem origin_of_read {v' : PayoutVendor} {gs : List UnpaidEarningsGroup}
    (hmem : ⟨w, .readOrders v frame, r⟩ ∈ tr)
    (h : handed ⟨w, .readOrders v frame, r⟩ = some (v', gs)) : ∃ y ∈ tr, ∃ frame,
      y.pc = .readOrders v' frame ∧ ∀ g ∈ gs, ∃ raw ∈ v'.rawGroups y.store,
        g.rawAmount = raw.grossAmount ∧ g.provider = raw.provider := by
  obtain ⟨_, rfl, rfl⟩ := handed_read h
  refine ⟨_, hmem, frame, rfl, fun g hg => ⟨g, hg, ?_, rfl⟩⟩
  exact rawAmount_of_totals (totals_of_rawGroups hg)

theorem passing_move (hb : Batching tr w pc) (h : Passing tr pc) (hm : BatchMove w pc r w' pc') :
    Passing (tr ++ [⟨w, pc, r⟩]) pc' := by
  have hlast : (⟨w, pc, r⟩ : BatchTaken) ∈ tr ++ [⟨w, pc, r⟩] := List.mem_concat_self
  constructor
  · intro x hx v gs hhanded
    rcases List.mem_append.mp hx with hx | hx
    · obtain ⟨y, hy, hrest⟩ := h.origin x hx v gs hhanded
      exact ⟨y, List.mem_append_left _ hy, hrest⟩
    · rw [List.mem_singleton.mp hx] at hhanded
      cases hm with
      | unsold v' frame hnone => exact origin_of_read hlast hhanded
      | sold v' sellerType frame hs => exact origin_of_read hlast hhanded
      | delivered v' frame hs => exact origin_of_read hlast hhanded
      | netted v' sellerType raw frame =>
        cases hhanded
        obtain ⟨_, y, hy, frame', hpc, hraw⟩ := hb.reading _ sellerType raw frame rfl
        exact ⟨y, List.mem_append_left _ hy, frame', hpc, hraw ▸ (handed_netted hraw).1⟩
      | _ => cases hhanded
  · intro y hy v frame hpc raw hraw
    rcases List.mem_append.mp hy with hy | hy
    · rcases h.passed y hy v frame hpc raw hraw with ⟨x, hx, hhanded⟩ | hread
      · exact Or.inl ⟨x, List.mem_append_left _ hx, hhanded⟩
      · obtain ⟨sellerType, groups, frame', rfl, hmem⟩ := hread
        obtain ⟨_, y', _, _, _, hgroups⟩ := hb.reading v sellerType groups frame' rfl
        exact Or.inl ⟨_, hlast, _, rfl, (handed_netted hgroups).2 raw hmem⟩
    · rw [List.mem_singleton.mp hy] at hpc hraw
      cases hpc
      cases hm with
      | unsold v' frame hnone =>
        rw [hnone] at hraw
        cases hraw
      | sold v' sellerType frame hs => exact Or.inr ⟨sellerType, _, frame, rfl, hraw⟩
      | delivered v' frame hs =>
        exact Or.inl ⟨_, hlast, _, handed_delivered hs, raw, hraw,
          rawAmount_of_totals (totals_of_rawGroups hraw), rfl⟩

end Passing

/-! ## Runs -/

/-- What is known along a batch. -/
structure Known (tr : List BatchTaken) (w : World) (pc : BatchPc) : Prop where
  covered : Covered tr pc
  batching : Batching tr w pc
  dealing : Dealing tr w pc
  passing : Passing tr pc

section Runs

variable {tr : List BatchTaken} {w₀ w : World} {pc : BatchPc} {summary : PayoutBatchSummary}

theorem known_start : Known [] w₀ .start where
  covered t := Or.inl (by cases t <;> decide)
  batching := ⟨fun _ _ _ _ _ he => (by cases he), fun _ _ _ _ he => (by cases he),
    fun _ hv => (by cases hv)⟩
  dealing := ⟨fun _ hx => (by cases hx), fun _ hx => (by cases hx)⟩
  passing := ⟨fun _ hx => (by cases hx), fun _ hx => (by cases hx)⟩

/-- **What is known along a batch** without a database failure. -/
theorem known_of_run (h : BatchRun w₀ tr w pc) (hdb : ∀ x ∈ tr, x.reply.faultless = true)
    (haccounts : ∀ x ∈ tr, x.store.Referenced) : Known tr w pc := by
  refine h.invariant (I := fun tr w pc => (∀ x ∈ tr, x.reply.faultless = true) →
    (∀ x ∈ tr, x.store.Referenced) → Known tr w pc) (fun _ _ => known_start) ?_ ?_ hdb haccounts
  · intro tr w pc r w' pc' ih hstep hdb haccounts
    have hlast : (⟨w, pc, r⟩ : BatchTaken) ∈ tr ++ [⟨w, pc, r⟩] := List.mem_concat_self
    have hknown := ih (fun x hx => hdb x (List.mem_append_left _ hx))
      fun x hx => haccounts x (List.mem_append_left _ hx)
    have hm := batch_move (hdb _ hlast) hstep
    exact ⟨covered_move hknown.covered hm,
      batching_move hknown.batching hm (haccounts _ hlast),
      dealing_move hknown.batching hknown.dealing hm,
      passing_move hknown.batching hknown.passing hm⟩
  · intro tr w pc w' ih hk hdb haccounts
    have hknown := ih hdb haccounts
    exact ⟨hknown.covered, hknown.batching.keeps hk, hknown.dealing.keeps hk, hknown.passing⟩

/-- At the end everything that was handed over has been dealt with. -/
theorem Known.dealt (h : Known tr w (.returned summary)) {x : BatchTaken} (hx : x ∈ tr)
    {v : PayoutVendor} {gs : List UnpaidEarningsGroup} (hhanded : handed x = some (v, gs))
    {g : UnpaidEarningsGroup} (hg : g ∈ gs) (hacc : v.hasAccount g.provider = true) :
    Dealt tr w v g := by
  rcases h.dealing.dealt x hx v gs hhanded g hg hacc with hdealt | htodo
  · exact hdealt
  · cases htodo with
    | now a e groups frame hpc => cases hpc
    | later a e groups frame hpc => cases hpc

/-- Where everyone has earned something, so has every group that is handed over. -/
theorem raw_pos (h : Known tr w pc) (hearns : ∀ x ∈ tr, EarnsSomething x) {x : BatchTaken}
    (hx : x ∈ tr) {v : PayoutVendor} {gs : List UnpaidEarningsGroup}
    (hhanded : handed x = some (v, gs)) {g : UnpaidEarningsGroup} (hg : g ∈ gs)
    (hacc : v.hasAccount g.provider = true) : 0 < g.rawAmount := by
  obtain ⟨y, hy, frame, hpc, hraws⟩ := h.passing.origin x hx v gs hhanded
  obtain ⟨raw, hraw, hamount, hprovider⟩ := hraws g hg
  obtain ⟨row, hrow⟩ := List.exists_mem_of_ne_nil _ (rowsOf_ne_nil hraw)
  obtain ⟨hmem, hrowProvider, hcurrency⟩ := mem_rowsOf hrow
  rw [hprovider, ← hrowProvider] at hacc
  obtain ⟨row', hrow', hsame, hsameCurrency, hpos⟩ := hearns y hy v frame hpc row hmem hacc
  rw [hamount, grossAmount_pos_iff hraw]
  exact ⟨row', hrow', hsame.trans hrowProvider, hsameCurrency.trans hcurrency, hpos⟩

/-- A group in which there is nothing has failed. -/
theorem earnsSomething_of_settles (h : Known tr w (.returned summary))
    (hsettles : SettlesZero tr w) : ∀ x ∈ tr, EarnsSomething x := by
  intro x hx v frame hpc row hrow hacc
  obtain ⟨raw, hraw, hin⟩ := exists_rawGroup hrow
  obtain ⟨_, hprovider, hcurrency⟩ := mem_rowsOf hin
  rw [hprovider] at hacc ⊢
  rw [hcurrency, ← grossAmount_pos_iff hraw]
  by_contra hnot
  have hzero : raw.grossAmount = 0 := le_antisymm (not_lt.mp hnot) (sound_of_rawGroups hraw).gross
  obtain ⟨x', hx', gs, hhanded, g, hg, hamount, hsame⟩ | ⟨_, _, _, hreading, _⟩ :=
    h.passing.passed x hx v frame hpc raw hraw
  · rw [← hsame] at hacc
    have hdealt := h.dealt hx' hhanded hg hacc
    obtain ⟨y, hy, ⟨amount, hsends, hnot⟩ | ⟨a, hreport, hgross⟩⟩ :=
      hdealt.failed (hamount.trans hzero)
    · exact hnot (hsettles.positive y hy amount hsends)
    · exact hsettles.unfailed y hy a hreport hgross
  · cases hreading

theorem never_fails (h : Known tr w pc) (hearns : ∀ x ∈ tr, EarnsSomething x) {y : BatchTaken}
    (hy : y ∈ tr) : ¬ Fails y := by
  intro hfails
  obtain ⟨x, hx, v, gs, hhanded, g, hg, hacc, hzero⟩ := h.dealing.fails y hy hfails
  have hpos := raw_pos h hearns hx hhanded hg hacc
  rw [hzero] at hpos
  exact lt_irrefl _ hpos

/-- Where everyone has earned something, clawbacks alone leave nothing to send. -/
theorem settlesZero_of_earns (h : Known tr w (.returned summary))
    (hearns : ∀ x ∈ tr, EarnsSomething x) : SettlesZero tr w where
  visited t := by
    rcases h.covered t with hto | ⟨x, hx, s, hq, hall⟩
    · cases hto
    · refine ⟨x, hx, s, hq, fun v hv => ?_⟩
      rcases hall v hv with hunread | hread
      · cases hunread
      · exact hread
  positive x hx amount hsends := by
    by_contra hpos
    exact never_fails h hearns hx (Or.inl ⟨amount, hsends, hpos⟩)
  settled x hx v gs hhanded g hg hacc hzero :=
    (h.dealt hx hhanded hg hacc).settled hzero (raw_pos h hearns hx hhanded hg hacc)
  unfailed x hx a hreport hzero := never_fails h hearns hx (Or.inr ⟨a, hreport, hzero⟩)

/-- **Zero amounts settle if and only if every order that is read is in a group that has earned
something**: for any orders, clawbacks and accounts, and whatever the providers answer. -/
theorem zero_amounts_settle_iff (h : BatchRun w₀ tr w (.returned summary))
    (hdb : ∀ x ∈ tr, x.reply.faultless = true) (haccounts : ∀ x ∈ tr, x.store.Referenced) :
    SettlesZero tr w ↔ ∀ x ∈ tr, EarnsSomething x := by
  have hknown := known_of_run h hdb haccounts
  exact ⟨earnsSomething_of_settles hknown, settlesZero_of_earns hknown⟩

end Runs

/-! ## Concrete runs -/

instance (w : World) : Decidable w.Referenced :=
  inferInstanceAs (Decidable (∀ v ∈ w.vendors, ∀ a ∈ v.payoutAccounts,
    a.status = .active → a.reference.getD "" ≠ ""))

/-- Every order that a step reads has earned something. -/
def allPositive (x : BatchTaken) : Bool :=
  match x.pc with
  | .readOrders v _ => (v.unpaidRows x.store).all fun row => 0 < row.amount
  | _ => true

theorem earnsSomething_of_allPositive {x : BatchTaken} (h : allPositive x = true) :
    EarnsSomething x := by
  intro v frame hpc row hrow _
  rw [allPositive, hpc] at h
  exact ⟨row, hrow, rfl, rfl, of_decide_eq_true (List.all_eq_true.mp h row hrow)⟩

/-- A concrete batch that checks out and ends as wanted. -/
theorem exists_batchRun (w₀ : World) {P : List BatchTaken × World × BatchPc → Bool}
    (rs : List Reply) (h : (play batchStep [] w₀ .start rs).any P = true) :
    ∃ tr w pc, BatchRun w₀ tr w pc ∧ P (tr, w, pc) = true :=
  exists_trace_of_play rs h

/-- The restaurant that owes more than it has earned, with an account. -/
def absorbedWorld : World :=
  { owingRestaurant with
    vendors := [⟨.restaurant, 7, 1, [⟨.paystack, .active, some "ACCT_1", some "058",
      some "0123456789"⟩]⟩] }

def dbReplies (n : Nat) : List Reply := List.replicate n (.db .ok)

theorem zero_amounts_settle_absorbed : ∃ (tr : List BatchTaken) (w : World),
    w.claimOf .vendorPayoutId 0 = some 0 ∧ w.claimOf .vendorPayoutId 1 = some 0 ∧
      SettlesZero tr w := by
  have hplay : ((play batchStep [] absorbedWorld .start (dbReplies 14)).any fun x =>
      x.2.2 = .returned ⟨1, 0, 0, 0⟩ && x.1.all (·.reply.faultless) &&
        x.1.all (decide ·.store.Referenced) && x.1.all allPositive &&
          x.2.1.claimOf .vendorPayoutId 0 = some 0 && x.2.1.claimOf .vendorPayoutId 1 = some 0) =
      true := by
    decide +kernel
  obtain ⟨tr, w, pc, hrun, hp⟩ := exists_batchRun absorbedWorld (dbReplies 14) hplay
  simp only [Bool.and_eq_true, decide_eq_true_eq, List.all_eq_true] at hp
  obtain ⟨⟨⟨⟨⟨rfl, hdb⟩, haccounts⟩, hpositive⟩, hfirst⟩, hsecond⟩ := hp
  exact ⟨tr, w, hfirst, hsecond, (zero_amounts_settle_iff hrun hdb haccounts).mpr fun x hx =>
    earnsSomething_of_allPositive (hpositive x hx)⟩

/-- A rider has delivered an order within a free zone. -/
def freeZone : World :=
  { World.empty [⟨.rider, 3, 9, [⟨.stripe, .active, some "acct_9", none, none⟩]⟩] with
    orders := ⟨[{ Order.created (.restaurant 7) 1 0 "USD" .stripe (.ofCents 0) (.ofCents 1000)
      (.ofCents 900) with status := .delivered, riderId := some 9, deliveredAt := some 5 }]⟩ }

/-- The provider refuses to transfer nothing. -/
def refusedReplies : List Reply :=
  dbReplies 8 ++ [.transfer (.failed false "Invalid positive integer")] ++ dbReplies 3

/-- **The rider's payout of nothing is sent, fails, and is due again** as it was before. -/
theorem free_delivery_fails : ∃ (tr : List BatchTaken) (w : World) (summary : PayoutBatchSummary),
    BatchRun freeZone tr w (.returned summary) ∧ (∀ x ∈ tr, x.reply.faultless = true) ∧
      (∀ x ∈ tr, x.store.Referenced) ∧ summary = ⟨0, 1, 0, 0⟩ ∧
        getUnpaidRiderEarnings w 9 = getUnpaidRiderEarnings freeZone 9 ∧ ¬ SettlesZero tr w := by
  have hplay : ((play batchStep [] freeZone .start refusedReplies).any fun x =>
      x.2.2 = .returned ⟨0, 1, 0, 0⟩ && x.1.all (·.reply.faultless) &&
        x.1.all (decide ·.store.Referenced) && x.1.any (·.pc.sends = some 0) &&
          getUnpaidRiderEarnings x.2.1 9 = getUnpaidRiderEarnings freeZone 9) = true := by
    decide +kernel
  obtain ⟨tr, w, pc, hrun, hp⟩ := exists_batchRun freeZone refusedReplies hplay
  simp only [Bool.and_eq_true, decide_eq_true_eq, List.all_eq_true, List.any_eq_true] at hp
  obtain ⟨⟨⟨⟨rfl, hdb⟩, haccounts⟩, x, hx, hsends⟩, hsame⟩ := hp
  refine ⟨tr, w, _, hrun, hdb, haccounts, rfl, hsame, fun hsettles => ?_⟩
  exact lt_irrefl _ (hsettles.positive x hx 0 hsends)

end FoodDelivery
