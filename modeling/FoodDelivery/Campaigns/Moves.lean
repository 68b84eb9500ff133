import FoodDelivery.Campaigns.Marketplace

/-!
# What the calls on campaigns may do

* `campaign_move`: what a step that does not throw does to the campaigns and the vendors.
* `vendor_setSponsorship`: what `setVendorSponsorship` does to a vendor.
-/

namespace FoodDelivery

open Store Interleave OrdersService CampaignPc

/-- The sponsorship that a call writes next. -/
def CampaignPc.sponsoring : CampaignPc → Option (AdCampaign × Option Time)
  | .setSponsorship campaign sponsoredUntil _ => some (campaign, sponsoredUntil)
  | _ => none

/-- The sponsorship that goes with a status just entered. -/
def AdCampaign.sponsorship (c : AdCampaign) : Option (AdCampaign × Option Time) :=
  match c.status with
  | .active => some (c, some c.endDate)
  | .ended => some (c, none)
  | _ => none

/-- The steps that do not throw: a call reads on or is over, a campaign is inserted, a session
is opened, a campaign is written off its status, it goes along an edge by a filtered update, it
is cancelled by a `save()`, or a sponsorship is written. -/
inductive CampaignMove (m : Marketplace) : CampaignPc → Marketplace → CampaignPc → Prop
  | waited {pc pc' : CampaignPc} (h : pc.sponsoring = none) (h' : pc'.sponsoring = none) :
    CampaignMove m pc m pc'
  | inserted {pc : CampaignPc} {campaign : AdCampaign} (h : pc.sponsoring = none)
    (hstatus : campaign.status = .pendingPayment) :
    CampaignMove m pc { m with campaigns := m.campaigns.create campaign }
      (.loadVendor campaign .done)
  | issued {id : CampaignId} {campaign : AdCampaign} {provider : PaymentProvider}
    {reference : String} (session : CampaignSession) :
    CampaignMove m (.initiating id campaign provider)
      { m with issued := m.issued ++ [session] } (.saveRef id campaign provider reference)
  | edited {pc pc' : CampaignPc} {id : CampaignId} {g : AdCampaign → AdCampaign}
    (h : pc.sponsoring = none) (h' : pc'.sponsoring = none)
    (hg : ∀ c, m.campaigns.get id = some c → (g c).status = c.status ∧ (g c).vendor = c.vendor) :
    CampaignMove m pc (m.modifyCampaign id g) pc'
  | advanced {pc pc' : CampaignPc} {id : CampaignId} {c c' : AdCampaign}
    (h : pc.sponsoring = none) (hget : m.campaigns.get id = some c)
    (hedge : c.status.canTransition c'.status = true) (hvendor : c'.vendor = c.vendor)
    (h' : pc'.sponsoring = c'.sponsorship) :
    CampaignMove m pc (m.modifyCampaign id fun _ => c') pc'
  | cancelled {id : CampaignId} {reason : Option String} {campaign loaded : AdCampaign}
    {now : Time} : CampaignMove m (.cancelSave id reason loaded)
      (m.modifyCampaign id (·.saveCancelled loaded reason now)) (.loadVendor campaign .done)
  | sponsored {campaign : AdCampaign} {sponsoredUntil : Option Time} {next : Resume} :
    CampaignMove m (.setSponsorship campaign sponsoredUntil next)
      (m.setSponsorship campaign sponsoredUntil) (.loadVendor campaign next)

section Moves

variable {m m' : Marketplace} {pc pc' : CampaignPc} {r : CampaignReply}

/-! ## Vendors -/

@[simp] theorem campaigns_modifyVendor (g : Vendor → Vendor) (vendor : Seller) :
    (m.modifyVendor g vendor).campaigns = m.campaigns := by
  cases vendor <;> rfl

@[simp] theorem campaigns_setSponsorship (campaign : AdCampaign) (sponsoredUntil : Option Time) :
    (m.setSponsorship campaign sponsoredUntil).campaigns = m.campaigns := by
  unfold Marketplace.setSponsorship
  split
  · exact campaigns_modifyVendor _ _
  · rfl

/-- A vendor present after a write is the written one or untouched. -/
theorem vendor_modifyVendor_cases {g : Vendor → Vendor} {v v' : Seller} {doc : Vendor}
    (h : (m.modifyVendor g v).vendor v' = some doc) :
    (v = v' ∧ ∃ d, m.vendor v' = some d ∧ doc = g d) ∨ (v ≠ v' ∧ m.vendor v' = some doc) := by
  cases v with
  | restaurant i =>
    cases v' with
    | restaurant j =>
      rcases Collection.get_modify_cases h with ⟨rfl, hd⟩ | ⟨hne, hd⟩
      · exact Or.inl ⟨rfl, hd⟩
      · exact Or.inr ⟨fun he => hne (Seller.restaurant.inj he), hd⟩
    | store j => exact Or.inr ⟨by rintro ⟨⟩, h⟩
  | store i =>
    cases v' with
    | restaurant j => exact Or.inr ⟨by rintro ⟨⟩, h⟩
    | store j =>
      rcases Collection.get_modify_cases h with ⟨rfl, hd⟩ | ⟨hne, hd⟩
      · exact Or.inl ⟨rfl, hd⟩
      · exact Or.inr ⟨fun he => hne (Seller.store.inj he), hd⟩

/-- **What `setVendorSponsorship` leaves of a vendor.** -/
theorem vendor_setSponsorship {campaign : AdCampaign} {sponsoredUntil : Option Time} {v : Seller}
    {doc : Vendor} (h : (m.setSponsorship campaign sponsoredUntil).vendor v = some doc) :
    (campaign.vendor = some v ∧ doc.sponsoredUntil = sponsoredUntil ∧
      doc.isSponsored = sponsoredUntil.isSome) ∨
    (campaign.vendor ≠ some v ∧ m.vendor v = some doc) := by
  unfold Marketplace.setSponsorship at h
  split at h
  · rename_i v' hv
    rcases vendor_modifyVendor_cases h with ⟨rfl, d, _, rfl⟩ | ⟨hne, hd⟩
    · exact Or.inl ⟨hv, rfl, rfl⟩
    · exact Or.inr ⟨fun he => hne (Option.some.inj (hv.symm.trans he)), hd⟩
  · rename_i hnone
    refine Or.inr ⟨fun he => ?_, h⟩
    cases hnone.symm.trans he

/-! ## Calls that read -/

section Checks

variable {P : CampaignPc → Prop} {id : CampaignId} {campaign : AdCampaign}

/-- The sweep's next step. -/
theorem resume_of (hover : P .returned) (hfind : ∀ now, P (.findOver now))
    (hactivate : ∀ now i rest, P (.activate now i rest)) (hfinish : ∀ i rest, P (.finish i rest))
    (next : Resume) : P next.pc := by
  cases next with
  | done => exact hover
  | activating now rest =>
    cases rest with
    | nil => exact hfind now
    | cons i rest => exact hactivate now i rest
  | ending rest =>
    cases rest with
    | nil => exact hover
    | cons i rest => exact hfinish i rest

theorem orElse_of (next : Resume) (hfailed : P pc) (hresume : P next.pc) : P (next.orElse pc) := by
  cases next with
  | done => exact hfailed
  | activating now rest => exact hresume
  | ending rest => exact hresume

theorem afterInitiateOwner_of (hrejected : ∀ e, P (.rejected e))
    (hinitiating : ∀ provider, P (.initiating id campaign provider))
    (o : Option PaymentProvider) : P (afterInitiateOwner id o campaign) := by
  unfold afterInitiateOwner
  split
  · exact hrejected _
  · split
    · exact hinitiating _
    · split
      · exact hinitiating _
      · exact hrejected _

theorem afterVerifyOwner_of (hreturned : P .returned) (hrejected : ∀ e, P (.rejected e))
    (hthrew : P .threw) (hverifying : ∀ provider, P (.verifying id campaign provider)) :
    P (afterVerifyOwner id campaign) := by
  unfold afterVerifyOwner
  split
  · exact hreturned
  · split
    · exact hrejected _
    · split
      · exact hverifying _
      · exact hthrew

theorem afterWebhookFind_of (hreturned : P .returned) (hpaid : P (.markPaid id campaign))
    (hfailed : P (.markPaymentFailed id)) (provider : PaymentProvider) (event : WebhookEvent) :
    P (afterWebhookFind provider event id campaign) := by
  unfold afterWebhookFind
  split
  · exact hreturned
  · split
    · exact hpaid
    · exact hfailed

theorem afterCancelRead_of {reason : Option String} (hrejected : ∀ e, P (.rejected e))
    (hsave : P (.cancelSave id reason campaign)) : P (afterCancelRead id reason campaign) := by
  unfold afterCancelRead
  split
  · exact hsave
  · exact hrejected _

theorem assertOwner_of (hrejected : ∀ e, P (.rejected e)) (requester : AccessTokenPayload)
    (h : P pc) : P (assertOwner m requester campaign pc) := by
  unfold assertOwner
  split
  · exact hrejected _
  · split
    · exact h
    · exact hrejected _

end Checks

@[simp] theorem sponsoring_resume (next : Resume) : next.pc.sponsoring = none :=
  resume_of (P := fun pc => pc.sponsoring = none) rfl (fun _ => rfl) (fun _ _ _ => rfl)
    (fun _ _ => rfl) next

theorem sponsoring_orElse (next : Resume) (h : pc.sponsoring = none) :
    (next.orElse pc).sponsoring = none :=
  orElse_of (P := fun pc => pc.sponsoring = none) next h (sponsoring_resume next)

theorem sponsoring_afterInitiateOwner (id : CampaignId) (o : Option PaymentProvider)
    (campaign : AdCampaign) : (afterInitiateOwner id o campaign).sponsoring = none :=
  afterInitiateOwner_of (P := fun pc => pc.sponsoring = none) (fun _ => rfl) (fun _ => rfl) o

theorem sponsoring_afterVerifyOwner (id : CampaignId) (campaign : AdCampaign) :
    (afterVerifyOwner id campaign).sponsoring = none :=
  afterVerifyOwner_of (P := fun pc => pc.sponsoring = none) rfl (fun _ => rfl) rfl fun _ => rfl

theorem sponsoring_afterWebhookFind (provider : PaymentProvider) (event : WebhookEvent)
    (id : CampaignId) (campaign : AdCampaign) :
    (afterWebhookFind provider event id campaign).sponsoring = none :=
  afterWebhookFind_of (P := fun pc => pc.sponsoring = none) rfl rfl rfl provider event

theorem sponsoring_afterCancelRead (id : CampaignId) (reason : Option String)
    (campaign : AdCampaign) : (afterCancelRead id reason campaign).sponsoring = none :=
  afterCancelRead_of (P := fun pc => pc.sponsoring = none) (fun _ => rfl) rfl

theorem sponsoring_assertOwner (requester : AccessTokenPayload) (campaign : AdCampaign)
    (h : pc.sponsoring = none) : (assertOwner m requester campaign pc).sponsoring = none :=
  assertOwner_of (P := fun pc => pc.sponsoring = none) (fun _ => rfl) requester h

/-! ## Calls that write -/

/-- The update of `markPaid` goes along an edge. -/
theorem move_markPaid {id : CampaignId} {campaign c c' : AdCampaign} {nextStatus : AdCampaignStatus}
    (hnext : nextStatus = .active ∨ nextStatus = .scheduled) (hget : m.campaigns.get id = some c)
    (h : c.markPaid nextStatus = some c') :
    CampaignMove m (.markPaid id campaign) (m.modifyCampaign id fun _ => c')
      (if nextStatus = .active then .setSponsorship c' (some c'.endDate) .done else .returned) := by
  obtain ⟨hpending, rfl⟩ := AdCampaign.markPaid_eq_some h
  refine .advanced rfl hget ?_ rfl ?_
  · rw [hpending]
    rcases hnext with rfl | rfl <;> rfl
  · rcases hnext with rfl | rfl <;> rfl

/-- So does the first update of the sweep. -/
theorem move_activate {id : CampaignId} {now : Time} {rest : List CampaignId} {c c' : AdCampaign}
    (hget : m.campaigns.get id = some c) (h : c.activate = some c') :
    CampaignMove m (.activate now id rest) (m.modifyCampaign id fun _ => c')
      (.setSponsorship c' (some c'.endDate) (.activating now rest)) := by
  obtain ⟨hscheduled, rfl⟩ := AdCampaign.activate_eq_some h
  refine .advanced rfl hget ?_ rfl rfl
  rw [hscheduled]
  rfl

/-- And its second one. -/
theorem move_finish {id : CampaignId} {rest : List CampaignId} {c c' : AdCampaign}
    (hget : m.campaigns.get id = some c) (h : c.finish = some c') :
    CampaignMove m (.finish id rest) (m.modifyCampaign id fun _ => c')
      (.setSponsorship c' none (.ending rest)) := by
  obtain ⟨hactive, rfl⟩ := AdCampaign.finish_eq_some h
  refine .advanced rfl hget ?_ rfl rfl
  rw [hactive]
  rfl

/-- **Every step that does not throw is one of the moves.** -/
theorem campaign_move (h : campaignCall m pc r = some (m', pc')) : CampaignMove m pc m' pc' := by
  cases pc with
  | createVendor dto adminId vendor =>
    simp only [campaignCall] at h
    split at h <;> cases h <;> exact .waited rfl rfl
  | createCheck dto adminId vendor currency =>
    simp only [campaignCall] at h
    split at h <;> cases h <;> exact .waited rfl rfl
  | createInsert dto adminId vendor currency =>
    simp only [campaignCall] at h
    split at h
    · cases h
      exact .inserted rfl rfl
    · cases h
      exact .waited rfl rfl
  | initiateRead id requester o =>
    simp only [campaignCall] at h
    split at h
    · cases h
      exact .waited rfl rfl
    · split at h
      · cases h
        exact .waited rfl (sponsoring_afterInitiateOwner _ _ _)
      · cases h
        exact .waited rfl rfl
  | initiateOwner id requester o campaign =>
    cases h
    exact .waited rfl (sponsoring_assertOwner _ _ (sponsoring_afterInitiateOwner _ _ _))
  | initiating id campaign provider =>
    simp only [campaignCall] at h
    split at h
    · cases h
      exact .issued _
    · cases h
      exact .waited rfl rfl
  | saveRef id campaign provider reference =>
    cases h
    exact .edited rfl rfl fun _ _ => ⟨rfl, rfl⟩
  | webhook provider request =>
    simp only [campaignCall] at h
    split at h <;> cases h <;> exact .waited rfl rfl
  | webhookFind provider event =>
    simp only [campaignCall] at h
    split at h
    · cases h
      exact .waited rfl rfl
    · cases h
      exact .waited rfl (sponsoring_afterWebhookFind _ _ _ _)
  | verifyRead id requester =>
    simp only [campaignCall] at h
    split at h
    · cases h
      exact .waited rfl rfl
    · split at h
      · cases h
        exact .waited rfl (sponsoring_afterVerifyOwner _ _)
      · cases h
        exact .waited rfl rfl
  | verifyOwner id requester campaign =>
    cases h
    exact .waited rfl (sponsoring_assertOwner _ _ (sponsoring_afterVerifyOwner _ _))
  | verifying id campaign provider =>
    simp only [campaignCall] at h
    split at h
    · cases h
      exact .waited rfl rfl
    · split at h <;> cases h <;> exact .waited rfl rfl
  | markPaid id campaign =>
    simp only [campaignCall] at h
    split at h
    · cases h
      exact .waited rfl rfl
    · rename_i updated hw
      obtain ⟨c, hget, hpaid⟩ := Option.bind_eq_some_iff.mp hw
      cases h
      refine move_markPaid ?_ hget hpaid
      split
      · exact Or.inl rfl
      · exact Or.inr rfl
  | markPaymentFailed id =>
    simp only [campaignCall] at h
    split at h
    · cases h
      exact .waited rfl rfl
    · rename_i updated hw
      obtain ⟨c, hget, hfailed⟩ := Option.bind_eq_some_iff.mp hw
      cases h
      obtain ⟨_, rfl⟩ := AdCampaign.markPaymentFailed_eq_some hfailed
      refine .edited rfl rfl fun d hd => ?_
      obtain rfl := Option.some.inj (hget.symm.trans hd)
      exact ⟨rfl, rfl⟩
  | reread id failed =>
    simp only [campaignCall] at h
    split at h <;> cases h <;> cases failed <;> exact .waited rfl rfl
  | manualRead id email =>
    simp only [campaignCall] at h
    split at h
    · cases h
      exact .waited rfl rfl
    · split at h <;> cases h <;> exact .waited rfl rfl
  | manualSave id email campaign =>
    cases h
    exact .edited rfl rfl fun _ _ => ⟨rfl, rfl⟩
  | cancelRead id reason =>
    simp only [campaignCall] at h
    split at h
    · cases h
      exact .waited rfl rfl
    · cases h
      exact .waited rfl (sponsoring_afterCancelRead _ _ _)
  | cancelSave id reason campaign =>
    cases h
    exact .cancelled
  | findDue =>
    cases h
    exact .waited rfl (sponsoring_resume _)
  | activate now id rest =>
    simp only [campaignCall] at h
    split at h
    · cases h
      exact .waited rfl (sponsoring_resume _)
    · rename_i updated hw
      obtain ⟨c, hget, hc⟩ := Option.bind_eq_some_iff.mp hw
      cases h
      exact move_activate hget hc
  | findOver now =>
    cases h
    exact .waited rfl (sponsoring_resume _)
  | finish id rest =>
    simp only [campaignCall] at h
    split at h
    · cases h
      exact .waited rfl (sponsoring_resume _)
    · rename_i updated hw
      obtain ⟨c, hget, hc⟩ := Option.bind_eq_some_iff.mp hw
      cases h
      exact move_finish hget hc
  | setSponsorship campaign sponsoredUntil next =>
    cases h
    exact .sponsored
  | loadVendor campaign next =>
    simp only [campaignCall] at h
    split at h
    · cases h
      exact .waited rfl (sponsoring_resume next)
    · cases h
      exact .waited rfl (sponsoring_orElse next rfl)
  | returned => cases h
  | rejected error => cases h
  | threw => cases h

end Moves

end FoodDelivery
