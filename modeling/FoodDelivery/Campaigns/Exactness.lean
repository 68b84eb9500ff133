import FoodDelivery.Campaigns.Operations

/-!
# Sponsorship, one operation at a time

When the calls do not overlap and no step throws, the sponsorship of a vendor is that of its
active campaign, but for the one that the present call is about to write.

* `exact_of_step`: what a step of a call by itself keeps.
* `sponsored_exactly`: after a sweep a vendor is sponsored exactly when it has a campaign that
  is running, and until the end of that campaign.
-/

namespace FoodDelivery

open Store Interleave OrdersService CampaignPc

/-! ## One operation after the other -/

/-- Calls that each come to their end before the next one starts, and vendors opened and edited
between them. -/
inductive Operated : Time → Marketplace → Prop
  | start : Operated 0 .empty
  | beside {t : Time} {m m' : Marketplace} {e : CampaignEnvEvent} (prior : Operated t m)
    (he : envCampaigns m e = some m') : Operated t m'
  | operation {t t' : Time} {m m' : Marketplace} {request : CampaignRequest} {pc : CampaignPc}
    (prior : Operated t m) (h : Alone t m (.start request) t' m' pc) (hover : pc.isOver = true) :
    Operated t' m'

/-- A sweep that reads the clock at `now`, by itself, from its start to its end. -/
def Swept (t : Time) (m : Marketplace) (now t' : Time) (m' : Marketplace) : Prop :=
  ∃ r m₁ pc₁ pc', t ≤ now ∧ r.now = now ∧ r.db = .ok ∧
    campaignStep m (.start .runLifecycleSweep) r = some (m₁, pc₁) ∧
    Alone now m₁ pc₁ t' m' pc' ∧ pc'.isOver = true

namespace Marketplace

/-- The vendor's campaign is running. -/
def Runs (m : Marketplace) (vendor : Seller) (now : Time) (c : AdCampaign) : Prop :=
  ∃ id, m.campaigns.get id = some c ∧ c.vendor = some vendor ∧ c.status = .active ∧
    c.startDate ≤ now ∧ now < c.endDate

/-- The vendor has an active campaign that ends then. -/
def ActiveUntil (m : Marketplace) (vendor : Seller) (date : Time) : Prop :=
  ∃ id c, m.campaigns.get id = some c ∧ c.vendor = some vendor ∧ c.status = .active ∧
    c.endDate = date

/-- The sponsorship that a vendor should have: that of its active campaign. -/
def Right (m : Marketplace) (vendor : Seller) (sponsoredUntil : Option Time) : Prop :=
  ∀ date, sponsoredUntil = some date ↔ m.ActiveUntil vendor date

/-- The active campaigns that are over are among these. -/
def Over (m : Marketplace) (now : Time) (ids : List CampaignId) : Prop :=
  ∀ id c, m.campaigns.get id = some c → c.status = .active → c.endDate ≤ now → id ∈ ids

end Marketplace

/-- The sponsorship of a vendor once the call has written what it is about to write. -/
def CampaignPc.sponsorshipOf (pc : CampaignPc) (vendor : Seller) (sponsoredUntil : Option Time) :
    Option Time :=
  match pc.sponsoring with
  | some (campaign, date) => if campaign.vendor = some vendor then date else sponsoredUntil
  | none => sponsoredUntil

/-- Every vendor has the right sponsorship, but for what the call writes next. -/
def Marketplace.Exact (m : Marketplace) (pc : CampaignPc) : Prop :=
  ∀ v doc, m.vendor v = some doc → doc.isSponsored = doc.sponsoredUntil.isSome ∧
    m.Right v (pc.sponsorshipOf v doc.sponsoredUntil)

/-- Where the sweep stands that read the clock at `now`, and which campaigns it has yet to
end. -/
def CampaignPc.Sweeping (now : Time) (m : Marketplace) : CampaignPc → Prop
  | .activate n _ _ => n = now
  | .setSponsorship _ _ (.activating n _) => n = now
  | .loadVendor _ (.activating n _) => n = now
  | .findOver n => n = now
  | .finish id rest => m.Over now (id :: rest)
  | .setSponsorship _ _ (.ending rest) => m.Over now rest
  | .loadVendor _ (.ending rest) => m.Over now rest
  | .returned => m.Over now []
  | _ => False

section Steps

variable {m m' : Marketplace} {pc pc' : CampaignPc} {r : CampaignReply} {t now : Time}
  {v : Seller} {c : AdCampaign} {id : CampaignId} {rest : List CampaignId}

/-! ## The sponsorships -/

theorem get_modifyCampaign {g : AdCampaign → AdCampaign} (hget : m.campaigns.get id = some c) :
    (m.modifyCampaign id g).campaigns.get id = some (g c) := by
  show (m.campaigns.modify id g).get id = some (g c)
  rw [Collection.get_modify_self, hget]
  rfl

/-- A step that rewrites a campaign keeps what no write changes. -/
theorem kept_of_step {g : AdCampaign → AdCampaign}
    (hs : campaignStep m pc r = some (m.modifyCampaign id g, pc'))
    (hget : m.campaigns.get id = some c) : c.Kept (g c) := by
  obtain ⟨c', hc', hk⟩ := exists_kept hs hget
  rwa [Option.some.inj (hc'.symm.trans (get_modifyCampaign hget))] at hk

theorem sponsorshipOf_of_none (h : pc.sponsoring = none) (v : Seller) (date : Option Time) :
    pc.sponsorshipOf v date = date := by
  rw [CampaignPc.sponsorshipOf, h]

theorem sponsorshipOf_of_vendor {date : Option Time} (h : pc.sponsoring = some (c, date))
    (hv : c.vendor = some v) (old : Option Time) : pc.sponsorshipOf v old = date := by
  rw [CampaignPc.sponsorshipOf, h]
  exact if_pos hv

theorem sponsorshipOf_of_ne {date : Option Time} (h : pc.sponsoring = some (c, date))
    (hv : c.vendor ≠ some v) (old : Option Time) : pc.sponsorshipOf v old = old := by
  rw [CampaignPc.sponsorshipOf, h]
  exact if_neg hv

/-- The active campaigns of a vendor are the same after a write that makes none of them active
and ends none of them. -/
theorem activeUntil_modify {g : AdCampaign → AdCampaign} {date : Time}
    (hg : ∀ d, m.campaigns.get id = some d → (g d).vendor = d.vendor ∧ (g d).endDate = d.endDate ∧
      (d.vendor = some v → ((g d).status = .active ↔ d.status = .active))) :
    (m.modifyCampaign id g).ActiveUntil v date ↔ m.ActiveUntil v date := by
  constructor
  · rintro ⟨i, c, hget, hv, hs, hend⟩
    rcases Collection.get_modify_cases hget with ⟨rfl, d, hd, rfl⟩ | ⟨_, hd⟩
    · obtain ⟨hvendor, hdate, hstatus⟩ := hg d hd
      have hdv := hvendor.symm.trans hv
      exact ⟨id, d, hd, hdv, (hstatus hdv).mp hs, hdate.symm.trans hend⟩
    · exact ⟨i, c, hd, hv, hs, hend⟩
  · rintro ⟨i, c, hget, hv, hs, hend⟩
    by_cases hi : id = i
    · subst hi
      obtain ⟨hvendor, hdate, hstatus⟩ := hg c hget
      refine ⟨id, g c, ?_, hvendor.trans hv, (hstatus hv).mpr hs, hdate.trans hend⟩
      show (m.campaigns.modify id g).get id = some (g c)
      rw [Collection.get_modify_self, hget]
      rfl
    · exact ⟨i, c, (Collection.get_modify_ne hi).trans hget, hv, hs, hend⟩

/-- A vendor with an active campaign has no other one. -/
theorem right_of_active (hone : m.OneLive) (hget : m.campaigns.get id = some c)
    (hv : c.vendor = some v) (hs : c.status = .active) : m.Right v (some c.endDate) := by
  intro date
  constructor
  · intro he
    exact ⟨id, c, hget, hv, hs, Option.some.inj he⟩
  · rintro ⟨j, d, hd, hdv, hds, rfl⟩
    obtain rfl := hone v id j c d hget hd hv hdv (by rw [hs]; decide) (by rw [hds]; decide)
    rw [Option.some.inj (hget.symm.trans hd)]

/-- A vendor whose only live campaign was active has none that is, once that one has ended. -/
theorem right_of_ended (hone : m.OneLive) (hget : m.campaigns.get id = some c)
    (hv : c.vendor = some v) (hs : c.status = .active) {c' : AdCampaign}
    (hs' : c'.status = .ended) : (m.modifyCampaign id fun _ => c').Right v none := by
  intro date
  constructor
  · rintro ⟨⟩
  · rintro ⟨j, d, hd, hdv, hds, rfl⟩
    rcases Collection.get_modify_cases hd with ⟨rfl, _, _, rfl⟩ | ⟨hne, hd⟩
    · cases hs'.symm.trans hds
    · exact absurd (hone v id j c d hget hd hv hdv (by rw [hs]; decide) (by rw [hds]; decide)) hne

/-- **The sponsorships are right, but for the one that the call writes next.** -/
theorem exact_of_step (hl : m.Lawful t) (hf : pc.Fresh t m) (he : m.Exact pc) (ht : t ≤ r.now)
    (hdb : r.db = .ok) (hs : campaignStep m pc r = some (m', pc')) : m'.Exact pc' := by
  have hone := (lawful_of_step hl hf ht hdb hs).oneLive
  have hm := campaign_move (call_of_ok hs hdb)
  cases hm with
  | waited h h' =>
    intro v doc hdoc
    have hold := he v doc hdoc
    rw [sponsorshipOf_of_none h] at hold
    rw [sponsorshipOf_of_none h']
    exact hold
  | @inserted _ campaign h hstatus =>
    intro v doc hdoc
    have hold := he v doc hdoc
    rw [sponsorshipOf_of_none h] at hold
    refine ⟨hold.1, fun date => (hold.2 date).trans ?_⟩
    constructor
    · rintro ⟨id, c, hget, hc⟩
      exact ⟨id, c, Collection.get_create_of_get hget, hc⟩
    · rintro ⟨id, c, hget, hv, hactive, hend⟩
      rcases Collection.get_create_cases hget with ⟨_, rfl⟩ | ⟨_, hget⟩
      · cases hstatus.symm.trans hactive
      · exact ⟨id, c, hget, hv, hactive, hend⟩
  | issued _ => exact he
  | @edited _ _ id g h h' hg =>
    intro v doc hdoc
    have hold := he v doc hdoc
    rw [sponsorshipOf_of_none h] at hold
    rw [sponsorshipOf_of_none h']
    refine ⟨hold.1, fun date => (hold.2 date).trans (activeUntil_modify ?_).symm⟩
    intro d hd
    obtain ⟨hstatus, hvendor⟩ := hg d hd
    exact ⟨hvendor, (kept_of_step hs hd).endDate, fun _ => by rw [hstatus]⟩
  | @advanced _ _ id c c' h hget hedge hvendor h' =>
    have hkept : c.Kept c' := kept_of_step hs hget
    intro v doc hdoc
    have hold := he v doc hdoc
    rw [sponsorshipOf_of_none h] at hold
    refine ⟨hold.1, ?_⟩
    -- the sponsorship stays right where neither status is active
    have same : (c.vendor = some v → (c'.status = .active ↔ c.status = .active)) →
        (m.modifyCampaign id fun _ => c').Right v doc.sponsoredUntil := by
      intro hiff date
      refine (hold.2 date).trans (activeUntil_modify ?_).symm
      intro d hd
      obtain rfl := Option.some.inj (hget.symm.trans hd)
      exact ⟨hvendor, hkept.endDate, hiff⟩
    by_cases hactive : c'.status = .active
    · rw [AdCampaign.sponsorship, hactive] at h'
      by_cases hv : c'.vendor = some v
      · rw [sponsorshipOf_of_vendor h' hv]
        exact right_of_active hone (get_modifyCampaign hget) hv hactive
      · rw [sponsorshipOf_of_ne h' hv]
        exact same fun hcv => absurd (hvendor.trans hcv) hv
    · by_cases hended : c'.status = .ended
      · rw [AdCampaign.sponsorship, hended] at h'
        have hwas : c.status = .active := by
          rw [hended, AdCampaignStatus.canTransition_iff] at hedge
          simpa using hedge
        by_cases hv : c'.vendor = some v
        · rw [sponsorshipOf_of_vendor h' hv]
          exact right_of_ended hl.oneLive hget (hvendor.symm.trans hv) hwas hended
        · rw [sponsorshipOf_of_ne h' hv]
          exact same fun hcv => absurd (hvendor.trans hcv) hv
      · rw [AdCampaignStatus.canTransition_iff] at hedge
        have hnone : c'.sponsorship = none := by
          rw [AdCampaign.sponsorship]
          split <;> trivial
        rw [sponsorshipOf_of_none (h'.trans hnone)]
        refine same fun _ => ⟨fun ha => absurd ha hactive, fun ha => ?_⟩
        rw [ha] at hedge
        simp [hended] at hedge
  | @cancelled id reason campaign loaded now =>
    intro v doc hdoc
    refine ⟨(he v doc hdoc).1, fun date => ((he v doc hdoc).2 date).trans
      (activeUntil_modify ?_).symm⟩
    intro d hd
    obtain rfl := Option.some.inj (hf.1.symm.trans hd)
    refine ⟨rfl, rfl, fun _ => ⟨fun ha => (by cases ha), fun ha => ?_⟩⟩
    have hcan := hf.2
    rw [ha] at hcan
    cases hcan
  | @sponsored campaign sponsoredUntil next =>
    intro v doc hdoc
    have hsame : ∀ date, (m.setSponsorship campaign sponsoredUntil).ActiveUntil v date ↔
        m.ActiveUntil v date := by
      intro date
      rw [Marketplace.ActiveUntil, campaigns_setSponsorship]
      rfl
    rcases vendor_setSponsorship hdoc with ⟨hv, huntil, his⟩ | ⟨hv, hold⟩
    · refine ⟨by rw [his, huntil], fun date => ?_⟩
      obtain ⟨old, hold⟩ := exists_vendor_of_setSponsorship hdoc
      have hright := (he v old hold).2 date
      rw [sponsorshipOf_of_vendor rfl hv] at hright
      show doc.sponsoredUntil = some date ↔ _
      rw [huntil, hsame]
      exact hright
    · have hright := he v doc hold
      rw [sponsorshipOf_of_ne rfl hv] at hright
      exact ⟨hright.1, fun date => (hright.2 date).trans (hsame date).symm⟩

/-! ## The sweep -/

theorem sweeping_activating (now : Time) (rest : List CampaignId) :
    ((Resume.activating now rest).pc).Sweeping now m := by
  cases rest <;> rfl

theorem sweeping_ending (h : m.Over now rest) : ((Resume.ending rest).pc).Sweeping now m := by
  cases rest <;> exact h

theorem over_setSponsorship {date : Option Time} (h : m.Over now rest) :
    (m.setSponsorship c date).Over now rest := by
  intro i d hget
  rw [campaigns_setSponsorship] at hget
  exact h i d hget

/-- **A sweep has ended every campaign that is over by the time it returns.** -/
theorem sweeping_of_step (hsw : pc.Sweeping now m) (hdb : r.db = .ok)
    (hs : campaignStep m pc r = some (m', pc')) : pc'.Sweeping now m' := by
  have h := call_of_ok hs hdb
  cases pc with
  | activate n id rest =>
    obtain rfl := hsw
    simp only [campaignCall] at h
    split at h
    · cases h
      exact sweeping_activating _ _
    · cases h
      rfl
  | findOver n =>
    obtain rfl := hsw
    cases h
    refine sweeping_ending ?_
    intro id c hget hactive hend
    refine List.mem_map.mpr ⟨(id, c), Collection.mem_find.mpr ⟨hget, ?_⟩, rfl⟩
    rw [Bool.and_eq_true, decide_eq_true_eq, decide_eq_true_eq]
    exact ⟨hactive, hend⟩
  | finish id rest =>
    simp only [campaignCall] at h
    split at h
    · rename_i hnone
      cases h
      refine sweeping_ending ?_
      intro j c hget hactive hend
      rcases List.mem_cons.mp (hsw j c hget hactive hend) with rfl | hmem
      · rw [hget, Option.bind_some, AdCampaign.finish, if_pos hactive] at hnone
        cases hnone
      · exact hmem
    · rename_i updated hw
      obtain ⟨d, _, hfinished⟩ := Option.bind_eq_some_iff.mp hw
      obtain ⟨_, rfl⟩ := AdCampaign.finish_eq_some hfinished
      cases h
      intro j c hget hactive hend
      rcases Collection.get_modify_cases hget with ⟨_, _, _, rfl⟩ | ⟨hne, hc⟩
      · cases hactive
      · rcases List.mem_cons.mp (hsw j c hc hactive hend) with rfl | hmem
        · exact absurd rfl hne
        · exact hmem
  | setSponsorship campaign sponsoredUntil next =>
    cases h
    cases next with
    | done => exact hsw
    | activating n rest => exact hsw
    | ending rest => exact over_setSponsorship hsw
  | loadVendor campaign next =>
    simp only [campaignCall] at h
    cases next with
    | done => exact absurd hsw id
    | activating n rest =>
      obtain rfl := hsw
      split at h <;> cases h <;> exact sweeping_activating _ _
    | ending rest => split at h <;> cases h <;> exact sweeping_ending hsw
  | returned => cases h
  | _ => exact absurd hsw id

/-- Nothing that the sweep makes active starts after the time it reads. -/
theorem allStarted_of_sweeping (h : m.AllStarted now) (hsw : pc.Sweeping now m)
    (hf : pc.Fresh t m) (hdb : r.db = .ok) (hs : campaignStep m pc r = some (m', pc')) :
    m'.AllStarted now := by
  refine allStarted_of_step h ?_ ?_ hf hdb hs
  · rintro i campaign rfl
    exact absurd hsw id
  · rintro n i rest rfl
    exact le_of_eq hsw

end Steps

section Runs

variable {m m' m₀ : Marketplace} {pc pc' pc₀ : CampaignPc} {t t' t₀ now : Time} {v : Seller}
  {doc : Vendor} {e : CampaignEnvEvent}

/-! ## Between the calls -/

theorem fresh_start (request : CampaignRequest) : (CampaignPc.start request).Fresh t m := by
  cases request with
  | create dto adminId =>
    simp only [CampaignPc.start]
    split <;> trivial
  | _ => trivial

theorem sponsoring_start (request : CampaignRequest) :
    (CampaignPc.start request).sponsoring = none := by
  cases request with
  | create dto adminId =>
    simp only [CampaignPc.start]
    split <;> rfl
  | _ => rfl

theorem sponsoring_of_isOver (h : pc.isOver = true) : pc.sponsoring = none := by
  cases pc with
  | setSponsorship campaign sponsoredUntil next => cases h
  | _ => rfl

theorem exact_of_none (he : m.Exact pc) (h : pc.sponsoring = none) (h' : pc'.sponsoring = none) :
    m.Exact pc' := by
  intro v doc hdoc
  have hold := he v doc hdoc
  rw [sponsorshipOf_of_none h] at hold
  rwa [sponsorshipOf_of_none h']

theorem campaigns_env (h : envCampaigns m e = some m') : m'.campaigns = m.campaigns :=
  (envCampaigns_sponsors h).1

/-- A vendor that opens is not sponsored, and an edit leaves the sponsorship. -/
theorem vendor_env (h : envCampaigns m e = some m') (hdoc : m'.vendor v = some doc) :
    (∃ d, m.vendor v = some d ∧ d.isSponsored = doc.isSponsored ∧
      d.sponsoredUntil = doc.sponsoredUntil) ∨
    (m.vendor v = none ∧ doc.isSponsored = false ∧ doc.sponsoredUntil = none) := by
  cases e with
  | openRestaurant ownerId name currency =>
    cases h
    cases v with
    | restaurant id =>
      rcases Collection.get_create_cases hdoc with ⟨rfl, rfl⟩ | ⟨_, hold⟩
      · exact Or.inr ⟨Collection.get_nextId, rfl, rfl⟩
      · exact Or.inl ⟨doc, hold, rfl, rfl⟩
    | store id => exact Or.inl ⟨doc, hdoc, rfl, rfl⟩
  | openStore ownerId name currency =>
    cases h
    cases v with
    | restaurant id => exact Or.inl ⟨doc, hdoc, rfl, rfl⟩
    | store id =>
      rcases Collection.get_create_cases hdoc with ⟨rfl, rfl⟩ | ⟨_, hold⟩
      · exact Or.inr ⟨Collection.get_nextId, rfl, rfl⟩
      · exact Or.inl ⟨doc, hold, rfl, rfl⟩
  | editVendor vendor name currency =>
    cases h
    rcases vendor_modifyVendor_cases hdoc with ⟨_, d, hd, rfl⟩ | ⟨_, hold⟩
    · exact Or.inl ⟨d, hd, rfl, rfl⟩
    · exact Or.inl ⟨doc, hold, rfl, rfl⟩

theorem isSome_vendor_env (h : envCampaigns m e = some m') (hv : (m.vendor v).isSome = true) :
    (m'.vendor v).isSome = true := by
  obtain ⟨d, hd⟩ := Option.isSome_iff_exists.mp hv
  cases e with
  | openRestaurant ownerId name currency =>
    cases h
    cases v with
    | restaurant id => exact Option.isSome_of_eq_some (Collection.get_create_of_get hd)
    | store id => exact hv
  | openStore ownerId name currency =>
    cases h
    cases v with
    | restaurant id => exact hv
    | store id => exact Option.isSome_of_eq_some (Collection.get_create_of_get hd)
  | editVendor vendor name currency =>
    cases h
    exact isSome_vendor_modifyVendor hv

theorem lawful_env (hl : m.Lawful t) (h : envCampaigns m e = some m') : m'.Lawful t where
  oneLive := by
    rw [Marketplace.OneLive, campaigns_env h]
    exact hl.oneLive
  strings := by
    rw [campaigns_env h]
    exact hl.strings
  vendors id c v hget hv := by
    rw [campaigns_env h] at hget
    exact isSome_vendor_env h (hl.vendors id c v hget hv)
  started := by
    rw [Marketplace.AllStarted, campaigns_env h]
    exact hl.started

theorem exact_env (hl : m.Lawful t) (he : m.Exact .returned) (h : envCampaigns m e = some m') :
    m'.Exact .returned := by
  intro v doc hdoc
  have hsame : ∀ date, m'.ActiveUntil v date ↔ m.ActiveUntil v date := by
    intro date
    rw [Marketplace.ActiveUntil, campaigns_env h]
    rfl
  rcases vendor_env h hdoc with ⟨d, hd, his, huntil⟩ | ⟨hnone, his, huntil⟩
  · have hold := he v d hd
    rw [his, huntil] at hold
    exact ⟨hold.1, fun date => (hold.2 date).trans (hsame date).symm⟩
  · rw [his, huntil]
    refine ⟨rfl, fun date => ⟨by rintro ⟨⟩, fun hactive => ?_⟩⟩
    obtain ⟨id, c, hget, hv, _⟩ := (hsame date).mp hactive
    have hsome := hl.vendors id c v hget hv
    rw [hnone] at hsome
    cases hsome

/-! ## Every sequence of calls -/

theorem alone_keeps (h : Alone t₀ m₀ pc₀ t m pc) (hl : m₀.Lawful t₀) (hf : pc₀.Fresh t₀ m₀)
    (he : m₀.Exact pc₀) : m.Lawful t ∧ pc.Fresh t m ∧ m.Exact pc := by
  induction h with
  | start => exact ⟨hl, hf, he⟩
  | step prior ht hdb hs ih =>
    obtain ⟨hl, hf, he⟩ := ih
    exact ⟨lawful_of_step hl hf ht hdb hs, fresh_of_step hl hf ht hdb hs,
      exact_of_step hl hf he ht hdb hs⟩

/-- **Between the calls every sponsorship is right.** -/
theorem operated_exact (h : Operated t m) : m.Lawful t ∧ m.Exact .returned := by
  induction h with
  | start =>
    have hnone : ∀ id, Marketplace.empty.campaigns.get id = none := fun _ => Collection.get_empty
    refine ⟨⟨?_, ?_, ?_, ?_⟩, ?_⟩
    · intro v i j c d hget
      cases (hnone i).symm.trans hget
    · intro id c n hget
      cases (hnone id).symm.trans hget
    · intro id c v hget
      cases (hnone id).symm.trans hget
    · intro id c hget
      cases (hnone id).symm.trans hget
    · intro v doc hdoc
      cases v <;> cases Collection.get_empty.symm.trans hdoc
  | beside prior he ih => exact ⟨lawful_env ih.1 he, exact_env ih.1 ih.2 he⟩
  | @operation t t' m m' request pc prior hrun hover ih =>
    obtain ⟨hl, _, he⟩ := alone_keeps hrun ih.1 (fresh_start request)
      (exact_of_none ih.2 rfl (sponsoring_start request))
    exact ⟨hl, exact_of_none he (sponsoring_of_isOver hover) rfl⟩

theorem alone_sweeps (h : Alone t₀ m₀ pc₀ t m pc) (hl : m₀.Lawful t₀) (hf : pc₀.Fresh t₀ m₀)
    (he : m₀.Exact pc₀) (hstarted : m₀.AllStarted now) (hsw : pc₀.Sweeping now m₀) :
    m.AllStarted now ∧ pc.Sweeping now m := by
  induction h with
  | start => exact ⟨hstarted, hsw⟩
  | step prior ht hdb hs ih =>
    obtain ⟨_, hf, _⟩ := alone_keeps prior hl hf he
    exact ⟨allStarted_of_sweeping ih.1 ih.2 hf hdb hs, sweeping_of_step ih.2 hdb hs⟩

theorem over_of_sweeping (hsw : pc.Sweeping now m) (hover : pc.isOver = true) : m.Over now [] := by
  cases pc with
  | returned => exact hsw
  | rejected error => exact absurd hsw id
  | threw => exact absurd hsw id
  | _ => cases hover

/-- After a sweep the sponsorships are right, and a campaign is active only while it runs. -/
theorem swept_exact (h : Operated t m) (hs : Swept t m now t' m') :
    m'.Exact .returned ∧ m'.AllStarted now ∧ m'.Over now [] := by
  obtain ⟨r, m₁, pc₁, pc', ht, rfl, hdb, hfirst, hrest, hover⟩ := hs
  obtain ⟨hl, he⟩ := operated_exact h
  have hf : (CampaignPc.start .runLifecycleSweep).Fresh t m := fresh_start _
  have he := exact_of_none he rfl (sponsoring_start .runLifecycleSweep)
  have hl₁ := lawful_of_step hl hf ht hdb hfirst
  have hf₁ := fresh_of_step hl hf ht hdb hfirst
  have he₁ := exact_of_step hl hf he ht hdb hfirst
  have hsw : pc₁.Sweeping r.now m₁ := by
    cases call_of_ok hfirst hdb
    exact sweeping_activating _ _
  obtain ⟨hstarted, hsw⟩ := alone_sweeps hrest hl₁ hf₁ he₁ hl₁.started hsw
  obtain ⟨_, _, he'⟩ := alone_keeps hrest hl₁ hf₁ he₁
  exact ⟨exact_of_none he' (sponsoring_of_isOver hover) rfl, hstarted, over_of_sweeping hsw hover⟩

/-- **Right after a sweep that read the clock at `now`, a vendor is sponsored exactly when it has
an active campaign that has started and has not reached its end, and until that end**: for any
sequence of calls that do not overlap and do not fail, and any vendor. -/
theorem sponsored_exactly (h : Operated t m) (hs : Swept t m now t' m')
    (hdoc : m'.vendor v = some doc) :
    (doc.isSponsored = true ↔ ∃ c, m'.Runs v now c) ∧
      ∀ c, m'.Runs v now c → doc.sponsoredUntil = some c.endDate := by
  obtain ⟨he, hstarted, hover⟩ := swept_exact h hs
  obtain ⟨his, hright⟩ := he v doc hdoc
  have until_end : ∀ c, m'.Runs v now c → doc.sponsoredUntil = some c.endDate := by
    rintro c ⟨id, hget, hv, hactive, _⟩
    exact (hright c.endDate).mpr ⟨id, c, hget, hv, hactive, rfl⟩
  refine ⟨⟨?_, ?_⟩, until_end⟩
  · intro hsponsored
    obtain ⟨date, hdate⟩ := Option.isSome_iff_exists.mp (his.symm.trans hsponsored)
    obtain ⟨id, c, hget, hv, hactive, _⟩ := (hright date).mp hdate
    refine ⟨c, id, hget, hv, hactive, hstarted id c hget hactive, ?_⟩
    by_contra hend
    cases hover id c hget hactive (Nat.le_of_not_lt hend)
  · rintro ⟨c, hruns⟩
    rw [his, until_end c hruns]
    rfl

/-! ## A campaign that starts later -/

/-- A call by itself, with the times at which its steps read the clock. -/
def playAlone (t : Time) (m : Marketplace) (pc : CampaignPc) :
    List Time → Option (Time × Marketplace × CampaignPc)
  | [] => some (t, m, pc)
  | u :: us =>
    if t ≤ u then (campaignStep m pc ⟨.ok, u, .error "", none⟩).bind fun o => playAlone u o.1 o.2 us
    else none

/-- One call after the other. -/
def playOperations (t : Time) (m : Marketplace) :
    List (CampaignRequest × List Time) → Option (Time × Marketplace)
  | [] => some (t, m)
  | (request, us) :: rest =>
    (playAlone t m (.start request) us).bind fun o =>
      if o.2.2.isOver then playOperations o.1 o.2.1 rest else none

theorem alone_of_play : ∀ {us : List Time} {t : Time} {m : Marketplace} {pc : CampaignPc},
    Alone t₀ m₀ pc₀ t m pc → playAlone t m pc us = some (t', m', pc') →
      Alone t₀ m₀ pc₀ t' m' pc' := by
  intro us
  induction us with
  | nil =>
    intro t m pc h hp
    cases hp
    exact h
  | cons u us ih =>
    intro t m pc h hp
    rw [playAlone] at hp
    split at hp
    · rename_i hu
      obtain ⟨o, ho, hp⟩ := Option.bind_eq_some_iff.mp hp
      exact ih (.step h hu rfl ho) hp
    · cases hp

theorem operated_of_play : ∀ {ops : List (CampaignRequest × List Time)} {t : Time}
    {m : Marketplace}, Operated t m → playOperations t m ops = some (t', m') →
      Operated t' m' := by
  intro ops
  induction ops with
  | nil =>
    intro t m h hp
    cases hp
    exact h
  | cons op ops ih =>
    intro t m h hp
    obtain ⟨request, us⟩ := op
    rw [playOperations, Option.bind_eq_some_iff] at hp
    obtain ⟨o, ho, hp⟩ := hp
    split at hp
    · rename_i hover
      exact ih (.operation h (alone_of_play .start ho) hover) hp
    · cases hp

/-- A restaurant. -/
def oneRestaurant : Marketplace :=
  { Marketplace.empty with restaurants := Collection.empty.create ⟨1, "Grill", "NGN", false, none⟩ }

/-- Its campaign is paid for before it starts. -/
def scheduledOperations : List (CampaignRequest × List Time) :=
  [(.create ⟨some 0, none, 10, 7, none, none⟩ 5, [1, 1, 1, 1]),
    (.markPaidManually 0 "admin@example.com", [2, 2, 2])]

theorem sponsored_when_started : ∃ t m m' doc, Operated t m ∧ Swept t m 12 12 m' ∧
    m'.vendor (.restaurant 0) = some doc ∧ doc.isSponsored = true ∧
    ((doc.isSponsored = true ↔ ∃ c, m'.Runs (.restaurant 0) 12 c) ∧
      ∀ c, m'.Runs (.restaurant 0) 12 c → doc.sponsoredUntil = some c.endDate) := by
  have hplay : ((playOperations 0 oneRestaurant scheduledOperations).any fun o =>
      decide (o.1 ≤ 12) && (campaignStep o.2 (.start .runLifecycleSweep)
        ⟨.ok, 12, .error "", none⟩).any fun first =>
          (playAlone 12 first.1 first.2 [12, 12, 12, 12]).any fun last =>
            decide (last.1 = 12) && last.2.2.isOver &&
              (last.2.1.vendor (.restaurant 0)).any fun doc : Vendor => doc.isSponsored) =
      true := by
    decide +kernel
  rw [Option.any_eq_true] at hplay
  obtain ⟨⟨t, m⟩, hops, hplay⟩ := hplay
  rw [Bool.and_eq_true, decide_eq_true_eq, Option.any_eq_true] at hplay
  obtain ⟨ht, ⟨m₁, pc₁⟩, hfirst, hplay⟩ := hplay
  rw [Option.any_eq_true] at hplay
  obtain ⟨⟨t', m', pc'⟩, hrest, hplay⟩ := hplay
  rw [Bool.and_eq_true, Bool.and_eq_true, decide_eq_true_eq, Option.any_eq_true] at hplay
  obtain ⟨⟨rfl, hover⟩, doc, hdoc, hsponsored⟩ := hplay
  have hopened : Operated 0 oneRestaurant :=
    .beside .start (e := .openRestaurant 1 "Grill" "NGN") rfl
  have hoperated := operated_of_play hopened hops
  have hswept : Swept t m 12 12 m' :=
    ⟨_, m₁, pc₁, pc', ht, rfl, rfl, hfirst, alone_of_play .start hrest, hover⟩
  exact ⟨t, m, m', doc, hoperated, hswept, hdoc, hsponsored,
    sponsored_exactly hoperated hswept hdoc⟩

end Runs

end FoodDelivery
