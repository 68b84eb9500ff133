import FoodDelivery.Campaigns.Moves

/-!
# Sponsorships under concurrency

`markPaid` and the sweep move a campaign by filtered updates, and write the vendor's sponsorship
in a second step.  `cancel` reads the campaign, checks it, and saves.

* `campaigns_coherent`: when every `cancel` saves over a campaign that can still be cancelled,
  and no sponsorship is written after its campaign ended, statuses follow the graph, and a
  sponsored vendor has an active campaign once every call is over.
* `sponsored_after_cancel`: a campaign is cancelled while it is live, and its vendor stays
  sponsored.
-/

namespace FoodDelivery

open Store Interleave OrdersService CampaignPc

/-! ## What is claimed -/

/-- No step throws. -/
def NoStepFails : CampaignEvent → Bool
  | .run _ r =>
    match r.db with
    | .ok => true
    | .threw _ _ => false
  | _ => true

/-- Statuses stay or go along edges of the graph. -/
def FollowsGraph (m m' : Marketplace) : Prop :=
  ∀ id c c', m.campaigns.get id = some c → m'.campaigns.get id = some c' →
    c'.status = c.status ∨ c.status.canTransition c'.status = true

namespace Marketplace

/-- The vendor has an active campaign. -/
def hasActive (m : Marketplace) (vendor : Seller) : Bool :=
  (m.campaigns.find fun _ c => c.vendor = some vendor && c.status = .active) ≠ []

/-- Every sponsored vendor has an active campaign. -/
def SponsorsActive (m : Marketplace) : Prop :=
  ∀ vendor doc, m.vendor vendor = some doc → doc.isSponsored = true →
    ∃ id c, m.campaigns.get id = some c ∧ c.vendor = some vendor ∧ c.status = .active

end Marketplace

/-- No call is in progress. -/
def Quiescent (s : CampaignPool) : Prop := ∀ pc ∈ s.procs, pc.isOver = true

/-- The call is about to take the vendor's sponsorship away. -/
def CampaignPc.clears (pc : CampaignPc) (vendor : Seller) : Bool :=
  match pc with
  | .setSponsorship campaign none _ => campaign.vendor = some vendor
  | _ => false

/-- A `cancel` saves over a campaign that can still be cancelled, or is; a sponsorship is
written while the vendor has an active campaign, or before another call takes it away. -/
def KeepsLive (s : CampaignPool) : CampaignEvent → Bool
  | .run i _ =>
    match s.procs[i]? with
    | some (.cancelSave id _ _) =>
      (s.shared.campaigns.get id).all fun c =>
        c.status = .cancelled || c.status.canTransition .cancelled
    | some (.setSponsorship campaign (some _) _) =>
      campaign.vendor.all fun vendor =>
        s.shared.hasActive vendor || s.procs.any fun pc => pc.clears vendor
    | _ => true
  | _ => true

section Steps

variable {m m' : Marketplace} {pc pc' : CampaignPc} {v : Seller}

theorem hasActive_iff : m.hasActive v = true ↔
    ∃ id c, m.campaigns.get id = some c ∧ c.vendor = some v ∧ c.status = .active := by
  rw [Marketplace.hasActive, decide_eq_true_eq, Collection.find_ne_nil]
  simp only [Bool.and_eq_true, decide_eq_true_eq]

theorem clears_of_sponsoring {c : AdCampaign} (h : pc.sponsoring = some (c, none))
    (hv : c.vendor = some v) : pc.clears v = true := by
  cases pc with
  | setSponsorship campaign sponsoredUntil next =>
    cases h
    exact decide_eq_true hv
  | _ => cases h

/-- What a cancellation may be saved over. -/
def Cancellable (m : Marketplace) (pc : CampaignPc) : Prop :=
  ∀ id reason loaded, pc = .cancelSave id reason loaded → ∀ c, m.campaigns.get id = some c →
    c.status = .cancelled ∨ c.status.canTransition .cancelled = true

theorem followsGraph_of_same (h : m'.campaigns = m.campaigns) : FollowsGraph m m' := by
  intro id c c' hget hget'
  rw [h, hget] at hget'
  obtain rfl := Option.some.inj hget'
  exact Or.inl rfl

/-- A write to one campaign. -/
theorem followsGraph_modify {id : CampaignId} {g : AdCampaign → AdCampaign}
    (h : ∀ c, m.campaigns.get id = some c →
      (g c).status = c.status ∨ c.status.canTransition (g c).status = true) :
    FollowsGraph m (m.modifyCampaign id g) := by
  intro i c c' hget hget'
  rcases Collection.get_modify_cases hget' with ⟨rfl, d, hd, rfl⟩ | ⟨_, hd⟩
  · obtain rfl := Option.some.inj (hget.symm.trans hd)
    exact h _ hget
  · obtain rfl := Option.some.inj (hget.symm.trans hd)
    exact Or.inl rfl

/-- **A step goes along an edge**, if it cancels nothing that can not be cancelled. -/
theorem CampaignMove.followsGraph (hm : CampaignMove m pc m' pc') (hc : Cancellable m pc) :
    FollowsGraph m m' := by
  cases hm with
  | waited _ _ => exact followsGraph_of_same rfl
  | inserted _ _ =>
    intro id c c' hget hget'
    obtain rfl := Option.some.inj ((Collection.get_create_of_get hget).symm.trans hget')
    exact Or.inl rfl
  | issued _ => exact followsGraph_of_same rfl
  | edited _ _ hg => exact followsGraph_modify fun c hget => Or.inl (hg c hget).1
  | advanced _ hget hedge _ _ =>
    refine followsGraph_modify fun d hd => ?_
    obtain rfl := Option.some.inj (hget.symm.trans hd)
    exact Or.inr hedge
  | cancelled =>
    refine followsGraph_modify fun c hget => ?_
    rcases hc _ _ _ rfl c hget with hs | hs
    · exact Or.inl hs.symm
    · exact Or.inr hs
  | sponsored => exact followsGraph_of_same (campaigns_setSponsorship _ _)

/-- **A vendor's active campaign ends only with a call that clears the sponsorship next**, if a
step cancels nothing that can not be cancelled. -/
theorem CampaignMove.keepsActive (hm : CampaignMove m pc m' pc') (hc : Cancellable m pc)
    (h : m.hasActive v = true) : m'.hasActive v = true ∨ pc'.clears v = true := by
  obtain ⟨id, c, hget, hv, hs⟩ := hasActive_iff.mp h
  have same : m'.campaigns = m.campaigns → m'.hasActive v = true := by
    intro he
    exact hasActive_iff.mpr ⟨id, c, by rw [he]; exact hget, hv, hs⟩
  have other : ∀ {i : CampaignId} {g : AdCampaign → AdCampaign}, i ≠ id →
      (m.modifyCampaign i g).hasActive v = true := by
    intro i g hne
    exact hasActive_iff.mpr ⟨id, c, (Collection.get_modify_ne hne).trans hget, hv, hs⟩
  have rewritten : ∀ {g : AdCampaign → AdCampaign},
      (m.modifyCampaign id g).campaigns.get id = some (g c) := by
    intro g
    show (m.campaigns.modify id g).get id = some (g c)
    rw [Collection.get_modify_self, hget]
    rfl
  cases hm with
  | waited _ _ => exact Or.inl (same rfl)
  | inserted _ _ =>
    exact Or.inl (hasActive_iff.mpr ⟨id, c, Collection.get_create_of_get hget, hv, hs⟩)
  | issued _ => exact Or.inl (same rfl)
  | @edited _ _ i g _ _ hg =>
    by_cases hi : i = id
    · subst hi
      obtain ⟨hstatus, hvendor⟩ := hg c hget
      exact Or.inl (hasActive_iff.mpr ⟨i, g c, rewritten, hvendor.trans hv, hstatus.trans hs⟩)
    · exact Or.inl (other hi)
  | @advanced _ _ i d d' _ hd hedge hvendor hnext =>
    by_cases hi : i = id
    · subst hi
      obtain rfl := Option.some.inj (hget.symm.trans hd)
      right
      have hended : d'.status = .ended := by
        rw [hs, AdCampaignStatus.canTransition_iff] at hedge
        simpa using hedge
      refine clears_of_sponsoring (c := d') ?_ (hvendor.trans hv)
      rw [hnext, AdCampaign.sponsorship, hended]
    · exact Or.inl (other hi)
  | @cancelled i _ _ _ _ =>
    by_cases hi : i = id
    · subst hi
      rcases hc _ _ _ rfl c hget with hcancelled | hedge
      · cases hs.symm.trans hcancelled
      · rw [hs] at hedge
        cases hedge
    · exact Or.inl (other hi)
  | sponsored => exact Or.inl (same (campaigns_setSponsorship _ _))

/-- A call clears only the sponsorship that it is about to write. -/
theorem not_clears (h : pc.sponsoring = none) : pc.clears v = false := by
  cases pc with
  | setSponsorship campaign sponsoredUntil next => cases h
  | _ => rfl

/-- The vendor is sponsored, and has no active campaign. -/
def Marketplace.Stale (m : Marketplace) (vendor : Seller) : Prop :=
  (∃ doc, m.vendor vendor = some doc ∧ doc.isSponsored = true) ∧ m.hasActive vendor = false

/-- A stale sponsorship has a call that is about to clear it. -/
def sponsorshipDuty : Duty Marketplace CampaignPc Seller where
  due := Marketplace.Stale
  bearer pc vendor := pc.clears vendor = true

/-- **A step makes a sponsorship stale only if the call clears it next, or it writes one
itself.** -/
theorem CampaignMove.stale (hm : CampaignMove m pc m' pc') (hc : Cancellable m pc)
    (hsp : pc.sponsoring = none) (h : m'.Stale v) : m.Stale v ∨ pc'.clears v = true := by
  obtain ⟨⟨doc, hdoc, hsponsored⟩, hnone⟩ := h
  have hvendors : m.vendor v = some doc := by
    cases hm with
    | sponsored => cases hsp
    | _ => exact hdoc
  by_cases hactive : m.hasActive v = true
  · rcases hm.keepsActive hc hactive with hstill | hclears
    · cases hnone.symm.trans hstill
    · exact Or.inr hclears
  · exact Or.inl ⟨⟨doc, hvendors, hsponsored⟩, Bool.not_eq_true _ ▸ hactive⟩

/-- What a sponsorship's write leaves stale: what was so before, or its own vendor. -/
theorem stale_setSponsorship {campaign : AdCampaign} {sponsoredUntil : Option Time}
    (h : (m.setSponsorship campaign sponsoredUntil).Stale v) :
    (campaign.vendor = some v ∧ sponsoredUntil.isSome = true ∧ m.hasActive v = false) ∨
      (campaign.vendor ≠ some v ∧ m.Stale v) := by
  obtain ⟨⟨doc, hdoc, hsponsored⟩, hnone⟩ := h
  have hnone' : m.hasActive v = false := by
    rw [Marketplace.hasActive, campaigns_setSponsorship] at hnone
    exact hnone
  rcases vendor_setSponsorship hdoc with ⟨hv, _, his⟩ | ⟨hv, hold⟩
  · exact Or.inl ⟨hv, his.symm.trans hsponsored, hnone'⟩
  · exact Or.inr ⟨hv, ⟨doc, hold, hsponsored⟩, hnone'⟩

end Steps

/-! ## Every run -/

section Runs

variable {s s' : CampaignPool} {i : Nat} {r : CampaignReply} {pc pc' : CampaignPc}
  {m' : Marketplace} {v : Seller}

/-- A step that does not throw. -/
theorem call_of_noStepFails {m : Marketplace} (h : NoStepFails (.run i r) = true)
    (hs : campaignStep m pc r = some (m', pc')) : campaignCall m pc r = some (m', pc') := by
  rw [NoStepFails] at h
  rw [campaignStep] at hs
  cases hdb : r.db with
  | ok =>
    rw [hdb] at hs
    cases ha : pc.asksAdapter with
    | true =>
      rw [ha] at hs
      exact hs
    | false =>
      rw [ha] at hs
      exact hs
  | threw written message =>
    rw [hdb] at h
    cases h

theorem cancellable_of_keepsLive (h : KeepsLive s (.run i r) = true) (hp : s.procs[i]? = some pc) :
    Cancellable s.shared pc := by
  rintro id reason loaded rfl c hget
  simp only [KeepsLive, hp, hget, Option.all_some] at h
  rw [Bool.or_eq_true, decide_eq_true_eq] at h
  exact h

theorem sponsors_of_keepsLive {campaign : AdCampaign} {sponsoredUntil : Time} {next : Resume}
    (h : KeepsLive s (.run i r) = true)
    (hp : s.procs[i]? = some (.setSponsorship campaign (some sponsoredUntil) next))
    (hv : campaign.vendor = some v) :
    s.shared.hasActive v = true ∨ sponsorshipDuty.Elsewhere s i v := by
  simp only [KeepsLive, hp, hv, Option.all_some] at h
  rw [Bool.or_eq_true, List.any_eq_true] at h
  rcases h with hactive | ⟨q, hq, hclears⟩
  · exact Or.inl hactive
  · obtain ⟨j, hj⟩ := List.mem_iff_getElem?.mp hq
    refine Or.inr ⟨j, q, ?_, hj, hclears⟩
    rintro rfl
    obtain rfl := Option.some.inj (hp.symm.trans hj)
    cases hclears

/-- What happens beside the calls sponsors nobody. -/
theorem envCampaigns_sponsors {m : Marketplace} {e : CampaignEnvEvent}
    (h : envCampaigns m e = some m') : m'.campaigns = m.campaigns ∧
      ∀ v doc, m'.vendor v = some doc → doc.isSponsored = true →
        ∃ d, m.vendor v = some d ∧ d.isSponsored = true := by
  cases e with
  | openRestaurant ownerId name currency =>
    cases h
    refine ⟨rfl, ?_⟩
    intro v doc hdoc hsponsored
    cases v with
    | restaurant id =>
      rcases Collection.get_create_cases hdoc with ⟨_, rfl⟩ | ⟨_, hold⟩
      · cases hsponsored
      · exact ⟨doc, hold, hsponsored⟩
    | store id => exact ⟨doc, hdoc, hsponsored⟩
  | openStore ownerId name currency =>
    cases h
    refine ⟨rfl, ?_⟩
    intro v doc hdoc hsponsored
    cases v with
    | restaurant id => exact ⟨doc, hdoc, hsponsored⟩
    | store id =>
      rcases Collection.get_create_cases hdoc with ⟨_, rfl⟩ | ⟨_, hold⟩
      · cases hsponsored
      · exact ⟨doc, hold, hsponsored⟩
  | editVendor vendor name currency =>
    cases h
    refine ⟨campaigns_modifyVendor _ _, ?_⟩
    intro v doc hdoc hsponsored
    rcases vendor_modifyVendor_cases hdoc with ⟨_, d, hd, rfl⟩ | ⟨_, hold⟩
    · exact ⟨d, hd, hsponsored⟩
    · exact ⟨doc, hold, hsponsored⟩

theorem no_stale_empty : sponsorshipDuty.Borne CampaignPool.initial := by
  rintro v ⟨⟨doc, hdoc, _⟩, _⟩
  cases v with
  | restaurant id =>
    have hnone : (Collection.empty : Collection Vendor).get id = none := Collection.get_empty
    cases hnone.symm.trans hdoc
  | store id =>
    have hnone : (Collection.empty : Collection Vendor).get id = none := Collection.get_empty
    cases hnone.symm.trans hdoc

theorem not_clears_of_isOver (h : pc.isOver = true) : ¬ pc.clears v = true := by
  cases pc with
  | setSponsorship campaign sponsoredUntil next => cases h
  | _ => exact Bool.false_ne_true

/-- **No stale sponsorship is left without a call that clears it.** -/
theorem sponsorship_kept : sponsorshipDuty.Kept campaigns
    (fun s e => NoStepFails e = true ∧ KeepsLive s e = true) fun _ => True where
  run s i r pc m' pc' _ hborne hok hp hstep v hdue := by
    obtain ⟨hfails, hlive⟩ := hok
    have hm := campaign_move (call_of_noStepFails hfails hstep)
    by_cases hsp : pc.sponsoring = none
    · rcases hm.stale (cancellable_of_keepsLive hlive hp) hsp hdue with hold | hclears
      · refine Or.inr (hborne.elsewhere hp hold ?_)
        show ¬ pc.clears v = true
        rw [not_clears hsp]
        exact Bool.false_ne_true
      · exact Or.inl hclears
    · cases hm with
      | @sponsored campaign sponsoredUntil next =>
        rcases stale_setSponsorship hdue with ⟨hv, hsome, hnone⟩ | ⟨hv, hold⟩
        · obtain ⟨date, rfl⟩ := Option.isSome_iff_exists.mp hsome
          rcases sponsors_of_keepsLive hlive hp hv with hactive | helse
          · cases hnone.symm.trans hactive
          · exact Or.inr helse
        · refine Or.inr (hborne.elsewhere hp hold ?_)
          intro hclears
          cases sponsoredUntil with
          | none => exact hv (of_decide_eq_true hclears)
          | some date => cases hclears
      | issued _ => exact absurd rfl hsp
      | cancelled => exact absurd rfl hsp
      | waited h _ => exact absurd h hsp
      | inserted h _ => exact absurd h hsp
      | edited h _ _ => exact absurd h hsp
      | advanced h _ _ _ _ => exact absurd h hsp
  env s e m' _ _ he v hdue := by
    obtain ⟨⟨doc, hdoc, hsponsored⟩, hnone⟩ := hdue
    obtain ⟨hcampaigns, hvendors⟩ := envCampaigns_sponsors he
    rw [Marketplace.hasActive, hcampaigns] at hnone
    exact ⟨hvendors v doc hdoc hsponsored, hnone⟩

/-- **Statuses follow the graph, and a sponsored vendor has an active campaign whenever no call
is in progress**, when no `cancel` saves over a campaign that has gone live meanwhile, and no
sponsorship is written that nobody will clear: for any number of calls on any campaigns, and any
interleaving of their steps. -/
theorem campaigns_coherent
    (h : campaigns.Reach (fun s e => NoStepFails e = true ∧ KeepsLive s e = true)
      CampaignPool.initial s) :
    (∀ e s', NoStepFails e = true → KeepsLive s e = true → campaigns.next s e = some s' →
      FollowsGraph s.shared s'.shared) ∧
    (Quiescent s → s.shared.SponsorsActive) := by
  refine ⟨?_, ?_⟩
  · intro e s' hfails hlive hnext
    cases e with
    | spawn k =>
      cases hnext
      exact followsGraph_of_same rfl
    | run i r =>
      obtain ⟨pc, m', pc', hp, hstep, rfl⟩ := Machine.next_run hnext
      have hm := campaign_move (call_of_noStepFails hfails hstep)
      exact hm.followsGraph (cancellable_of_keepsLive hlive hp)
    | env e =>
      obtain ⟨m', he, rfl⟩ := Machine.next_env hnext
      exact followsGraph_of_same (envCampaigns_sponsors he).1
  · intro hquiet v doc hdoc hsponsored
    have hborne := Duty.borne_of_reach sponsorship_kept (fun _ _ => trivial)
      (no_stale_empty : sponsorshipDuty.Borne CampaignPool.initial) h
    by_cases hactive : s.shared.hasActive v = true
    · exact hasActive_iff.mp hactive
    · obtain ⟨pc, hpc, hclears⟩ :=
        hborne v ⟨⟨doc, hdoc, hsponsored⟩, Bool.not_eq_true _ ▸ hactive⟩
      cases not_clears_of_isOver (hquiet pc hpc) hclears

/-- The calls take their next steps, in this order. -/
def campaignTurns (calls : List Nat) : List CampaignEvent :=
  calls.map fun i => .run i ⟨.ok, 0, .error "", none⟩

/-- A restaurant opens, and gets a campaign that starts at once. -/
def createdRun : List CampaignEvent :=
  [.env (.openRestaurant 1 "Grill" "NGN"), .spawn (.create ⟨some 0, none, 0, 7, none, none⟩ 5)] ++
    campaignTurns [0, 0, 0, 0]

/-- A run that checks out and ends as wanted. -/
theorem exists_campaignRun (okb : CampaignPool → CampaignEvent → Bool) (P : CampaignPool → Bool)
    (es : List CampaignEvent) (h : (campaigns.play okb CampaignPool.initial es).any P = true) :
    ∃ s, campaigns.Reach (fun s e => okb s e = true) CampaignPool.initial s ∧ P s = true :=
  Machine.exists_reach_of_play (fun _ _ h => h) es h

/-- The admin marks it paid. -/
def paidRun : List CampaignEvent :=
  createdRun ++ .spawn (.markPaidManually 0 "admin@example.com") :: campaignTurns [1, 1, 1, 1, 1]

theorem campaigns_coherent_paid : ∃ s : CampaignPool,
    campaigns.Reach (fun s e => NoStepFails e = true ∧ KeepsLive s e = true)
      CampaignPool.initial s ∧ Quiescent s ∧
      (∃ doc, s.shared.vendor (.restaurant 0) = some doc ∧ doc.isSponsored = true) ∧
      (∀ e s', NoStepFails e = true → KeepsLive s e = true → campaigns.next s e = some s' →
        FollowsGraph s.shared s'.shared) ∧
      s.shared.SponsorsActive := by
  obtain ⟨s, hs, hp⟩ := exists_campaignRun (fun s e => NoStepFails e && KeepsLive s e)
    (fun s => s.procs.all CampaignPc.isOver &&
      (s.shared.vendor (.restaurant 0)).any fun doc : Vendor => doc.isSponsored)
    paidRun (by decide +kernel)
  rw [Bool.and_eq_true, List.all_eq_true, Option.any_eq_true] at hp
  obtain ⟨hquiet, hsponsored⟩ := hp
  have hreach := hs.mono fun s e h => Bool.and_eq_true_iff.mp h
  obtain ⟨hgraph, hactive⟩ := campaigns_coherent hreach
  exact ⟨s, hreach, hquiet, hsponsored, hgraph, hactive hquiet⟩

/-- An admin cancels the campaign, and another one marks it paid in between. -/
def cancelledMeanwhileRun : List CampaignEvent :=
  createdRun ++ .spawn (.cancel 0 none) :: campaignTurns [1] ++
    .spawn (.markPaidManually 0 "admin@example.com") :: campaignTurns [2, 2, 2, 2, 2] ++
    campaignTurns [1, 1]

/-- **A live campaign is cancelled, and its vendor stays sponsored.** -/
theorem sponsored_after_cancel :
    ¬ ∀ s : CampaignPool, campaigns.Reach (fun _ e => NoStepFails e = true)
        CampaignPool.initial s →
      (∀ e s', NoStepFails e = true → campaigns.next s e = some s' →
        FollowsGraph s.shared s'.shared) ∧
      (Quiescent s → s.shared.SponsorsActive) := by
  intro hall
  obtain ⟨s, hs, hp⟩ := exists_campaignRun (fun _ e => NoStepFails e)
    (fun s => s.procs.all CampaignPc.isOver &&
      ((s.shared.vendor (.restaurant 0)).any (fun doc : Vendor => doc.isSponsored) &&
        !s.shared.hasActive (.restaurant 0)))
    cancelledMeanwhileRun (by decide +kernel)
  rw [Bool.and_eq_true, Bool.and_eq_true, List.all_eq_true, Option.any_eq_true,
    Bool.not_eq_true'] at hp
  obtain ⟨hquiet, ⟨doc, hdoc, hsponsored⟩, hnone⟩ := hp
  have hactive := hasActive_iff.mpr ((hall s hs).2 hquiet _ doc hdoc hsponsored)
  cases hnone.symm.trans hactive

end Runs

end FoodDelivery
