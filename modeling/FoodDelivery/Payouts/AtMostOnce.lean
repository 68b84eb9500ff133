import FoodDelivery.Payouts.Sent

/-!
# One payout per cut

* `one_payout_per_cut`: in every run the money for a cut of an order is sent by at
  most one payout and at most once, and while a payout covering it is in flight,
  succeeded or awaiting reconciliation no other payout reaches the adapter's
  `transfer` for it.  A payout stops awaiting reconciliation when an admin's no is
  taken up, not when its record is saved: `awaiting_payout_is_overtaken` is a run
  where the next batch comes in between.
-/

namespace FoodDelivery

open Store Interleave

/-- A payout has claimed the order and its outcome is not recorded yet. -/
def World.InFlight (w : World) (f : ClaimField) (o : OrderId) (id : PayoutId) : Prop :=
  ∃ d ∈ w.payouts.get id,
    d.status = .processing ∨ (d.status = .pending ∧ w.claimOf f o = some id)

/-- A payout awaits reconciliation, and no admin's no is being carried out. -/
def Sys.Awaiting (s : Sys) (id : PayoutId) : Prop :=
  s.Flagged id ∧ ∀ p ∈ s.procs, ¬ p.unwinds id

/-- The payout whose money a call is about to have an adapter transfer. -/
def Proc.transferring (p : Proc) : Option PayoutId :=
  match p.executing with
  | some (_, .transfer id _) => some id
  | _ => none

/-- A payout has reached the adapter's `transfer`. -/
def Sys.AtTransfer (s : Sys) (id : PayoutId) : Prop := ∃ p ∈ s.procs, p.transferring = some id

instance (s : Sys) (id : PayoutId) : Decidable (s.AtTransfer id) :=
  inferInstanceAs (Decidable (∃ p ∈ s.procs, p.transferring = some id))

/-- At most one payout per cut, where `awaiting` says what awaiting reconciliation
means. -/
structure OnePayoutPerCut (awaiting : Sys → PayoutId → Prop) (s : Sys) : Prop where
  once : s.shared.sent.Nodup
  sent : ∀ f o p q, s.shared.Covers f o p → s.shared.Covers f o q → p ∈ s.shared.sent →
    q ∈ s.shared.sent → p = q
  transfer : ∀ f o p q, s.shared.Covers f o p → s.shared.Covers f o q →
    s.shared.InFlight f o p ∨ s.shared.Succeeded p ∨ awaiting s p → s.AtTransfer q → p = q

section Holders

variable {s : Sys} {f : ClaimField} {o : OrderId} {p q : PayoutId}

theorem executing_of_transferring {pr : Proc} {id : PayoutId} (h : pr.transferring = some id) :
    ∃ a payout, pr.executing = some (a, .transfer id payout) := by
  rw [Proc.transferring] at h
  split at h
  · rename_i a id' payout he
    cases h
    exact ⟨a, payout, he⟩
  · cases h

/-- The payout whose money goes out next holds its orders. -/
theorem claimOf_of_atTransfer (hown : ownership.Holds s) (hok : ClaimsOk s.shared)
    (hc : s.shared.Covers f o q) (h : s.AtTransfer q) : s.shared.claimOf f o = some q := by
  obtain ⟨pr, hpr, ht⟩ := h
  obtain ⟨a, payout, he⟩ := executing_of_transferring ht
  obtain ⟨d, hd, hs, _⟩ := (((hown.procs pr hpr).executing a _ he).2 _ rfl).stored
  exact claimOf_of_holds hc hd (hok.held q d hd (Or.inl hs))

end Holders

/-- **At most one payout per cut**, in every run of batches, refunds and
resolutions without a database failure, with adapters that throw a plain error
only if no money moved and admins who answer truthfully. -/
theorem one_payout_per_cut {dir : Directory} {vendors : List PayoutVendor} {s : Sys}
    (h : (system dir).Reach Orderly (Sys.initial vendors) s) : OnePayoutPerCut Sys.Awaiting s := by
  have honest := h.mono fun _ _ he => he.1
  obtain ⟨hhold, hborne⟩ := holding_reach (civil_of_honest honest)
  have hok : ClaimsOk s.shared := hhold.shared
  have hown := ownership_reach (fun _ _ he => he.1) honest
  refine ⟨(money_reach h).shared.once, fun f o p q hp hq hps hqs => ?_,
    fun f o p q hp hq hbusy hat => ?_⟩
  · obtain ⟨d, hd, hh⟩ := holdsAll_of_sent h hps
    obtain ⟨d', hd', hh'⟩ := holdsAll_of_sent h hqs
    have hclaim := claimOf_of_holds hp hd hh
    rw [claimOf_of_holds hq hd' hh'] at hclaim
    exact (Option.some.inj hclaim).symm
  · have hclaim := claimOf_of_atTransfer hown hok hq hat
    have hp' : s.shared.claimOf f o = some p := by
      rcases hbusy with ⟨d, hd, hs | ⟨_, hc⟩⟩ | ⟨d, hd, hs⟩ | ⟨⟨d, hd, hf⟩, hno⟩
      · exact claimOf_of_holds hp hd (hok.held p d hd (Or.inl hs))
      · exact hc
      · exact claimOf_of_holds hp hd (hok.held p d hd (Or.inr hs))
      · refine claimOf_of_holds hp hd (not_not.mp fun hh => ?_)
        obtain ⟨pr, hpr, hu⟩ := hborne p ⟨d, hd, hf, hh⟩
        exact hno pr hpr hu
    rw [hclaim] at hp'
    exact (Option.some.inj hp').symm

/-! ## A run -/

/-- Batch 0 pays order 0 with an unknown outcome; the provider did not move the
money, an admin says so, and while that call has released the order but not saved
the payout, batch 2 comes to its own transfer. -/
def overtakenRun : List SysEvent :=
  deliveredOrder 0 ++
  [.spawn .runWeeklyBatch, .run 0 (.db .ok), .run 0 (.db .ok), .run 0 (.db .ok),
    .run 0 (.db .ok), .run 0 (.db .ok), .run 0 (.db .ok), .run 0 (.db .ok),
    .run 0 (.transfer (.unknown false "timeout")), .run 0 (.db .ok),
    .spawn (.resolveReconciliation 0 2 false), .run 1 (.db .ok), .run 1 (.db .ok),
    .spawn .runWeeklyBatch, .run 2 (.db .ok), .run 2 (.db .ok), .run 2 (.db .ok),
    .run 2 (.db .ok), .run 2 (.db .ok), .run 2 (.db .ok), .run 2 (.db .ok)]

/-- Payout 0 is flagged and payout 1 at its transfer, and both cover order 0. -/
theorem overtaken_reached : ∃ s : Sys,
    (system soleOwner).Reach Orderly (Sys.initial soleRestaurant) s ∧
    decide (s.shared.Covers .vendorPayoutId 0 0 ∧ s.shared.Covers .vendorPayoutId 0 1 ∧
      s.Flagged 0 ∧ s.AtTransfer 1) = true := by
  obtain ⟨s, hs, hp⟩ := exists_run orderlyB (fun s => decide (s.shared.Covers .vendorPayoutId 0 0 ∧
    s.shared.Covers .vendorPayoutId 0 1 ∧ s.Flagged 0 ∧ s.AtTransfer 1)) overtakenRun
    (by decide +kernel)
  exact ⟨s, hs.mono orderly_of_orderlyB, hp⟩

/-- **A payout stored as awaiting reconciliation can be overtaken.** -/
theorem awaiting_payout_is_overtaken :
    ¬ ∀ (dir : Directory) (vendors : List PayoutVendor) (s : Sys),
      (system dir).Reach Orderly (Sys.initial vendors) s → OnePayoutPerCut Sys.Flagged s := by
  intro hall
  obtain ⟨s, hs, hp⟩ := overtaken_reached
  obtain ⟨h0, h1, hf, ht⟩ := of_decide_eq_true hp
  exact absurd ((hall _ _ s hs).transfer _ _ _ _ h0 h1 (Or.inr (Or.inr hf)) ht) (by decide)

theorem one_payout_per_cut_overtaken : ∃ s : Sys, s.AtTransfer 1 ∧ s.Flagged 0 ∧
    OnePayoutPerCut Sys.Awaiting s := by
  obtain ⟨s, hs, hp⟩ := overtaken_reached
  obtain ⟨_, _, hf, ht⟩ := of_decide_eq_true hp
  exact ⟨s, ht, hf, one_payout_per_cut hs⟩

end FoodDelivery
