import FoodDelivery.Campaigns.OneLive

/-!
# One call on campaigns at a time

The calls on campaigns when they do not overlap and no step throws.  What a call has read stays
true while it goes on, a vendor has one live campaign, and a campaign that is active has started.

* `fresh_of_step`: what a call by itself still knows.
* `lawful_of_step`: what its steps keep of the collections.
-/

namespace FoodDelivery

open Store Interleave OrdersService CampaignPc

/-! ## One after the other -/

/-- A call by itself from one moment to another: no step throws, and the clock does not go
back. -/
inductive Alone (t₀ : Time) (m₀ : Marketplace) (pc₀ : CampaignPc) :
    Time → Marketplace → CampaignPc → Prop
  | start : Alone t₀ m₀ pc₀ t₀ m₀ pc₀
  | step {t : Time} {m m' : Marketplace} {pc pc' : CampaignPc} {r : CampaignReply}
    (prior : Alone t₀ m₀ pc₀ t m pc) (ht : t ≤ r.now) (hdb : r.db = .ok)
    (hs : campaignStep m pc r = some (m', pc')) : Alone t₀ m₀ pc₀ r.now m' pc'

/-! ## What holds between the steps -/

namespace Marketplace

/-- Every active campaign has started by then. -/
def AllStarted (m : Marketplace) (now : Time) : Prop :=
  ∀ id c, m.campaigns.get id = some c → c.status = .active → c.startDate ≤ now

/-- Of each vendor at most one campaign is live, campaigns hold the id of a vendor that exists,
as a string, and those that are active have started. -/
structure Lawful (m : Marketplace) (t : Time) : Prop where
  oneLive : m.OneLive
  strings : ∀ id c n, m.campaigns.get id = some c →
    c.restaurantId ≠ some (.objectId n) ∧ c.storeId ≠ some (.objectId n)
  vendors : ∀ id c v, m.campaigns.get id = some c → c.vendor = some v → (m.vendor v).isSome = true
  started : m.AllStarted t

/-- The campaign, if there is one, has started by then. -/
def Started (m : Marketplace) (now : Time) (id : CampaignId) : Prop :=
  ∀ c, m.campaigns.get id = some c → c.startDate ≤ now

end Marketplace

/-- What a call that is by itself still knows of what it has read. -/
def CampaignPc.Fresh (t : Time) (m : Marketplace) : CampaignPc → Prop
  | .createCheck _ _ vendor _ => (m.vendor vendor).isSome = true
  | .createInsert _ _ vendor _ => (m.vendor vendor).isSome = true ∧ m.hasLive vendor = false
  | .verifyOwner id _ campaign => m.campaigns.get id = some campaign
  | .verifying id campaign _ => m.campaigns.get id = some campaign
  | .manualSave id _ campaign => m.campaigns.get id = some campaign
  | .markPaid id campaign => ∀ c, m.campaigns.get id = some c → c.startDate = campaign.startDate
  | .cancelSave id _ campaign => m.campaigns.get id = some campaign ∧
    campaign.status.canTransition .cancelled = true
  | .activate now id rest => now ≤ t ∧ ∀ j ∈ id :: rest, m.Started now j
  | .setSponsorship _ _ (.activating now rest) => now ≤ t ∧ ∀ j ∈ rest, m.Started now j
  | .loadVendor _ (.activating now rest) => now ≤ t ∧ ∀ j ∈ rest, m.Started now j
  | _ => True

section Steps

variable {m m' : Marketplace} {pc pc' : CampaignPc} {r : CampaignReply} {t now : Time}
  {v : Seller} {c : AdCampaign} {id : CampaignId} {rest : List CampaignId}

/-! ## What a call still knows -/

theorem call_of_ok (hs : campaignStep m pc r = some (m', pc')) (hdb : r.db = .ok) :
    campaignCall m pc r = some (m', pc') := by
  rcases call_of_step hs with ⟨hcall, _⟩ | ⟨_, _, _, _, _, hthrew, _⟩
  · exact hcall
  · cases hdb.symm.trans hthrew

/-- `create` finds a live campaign by the string of its vendor's id. -/
theorem blocks_of_live (hr : ∀ n, c.restaurantId ≠ some (.objectId n))
    (hst : ∀ n, c.storeId ≠ some (.objectId n)) (hv : c.vendor = some v)
    (hs : c.status ∈ AdCampaignStatus.live) : c.blocks v = true := by
  unfold AdCampaign.blocks
  rw [Bool.and_eq_true, decide_eq_true_eq]
  refine ⟨hs, ?_⟩
  rw [AdCampaign.vendor] at hv
  split at hv
  · rename_i id hid
    obtain rfl := Option.some.inj hv
    cases id with
    | objectId n => exact absurd hid (hr n)
    | string n => exact decide_eq_true hid
  · obtain ⟨id, hid, rfl⟩ := Option.map_eq_some_iff.mp hv
    cases id with
    | objectId n => exact absurd hid (hst n)
    | string n => exact decide_eq_true hid

theorem hasLive_of_unblocked (hl : m.Lawful t) (h : (m.campaignIds (·.blocks v)).isEmpty = true) :
    m.hasLive v = false := by
  rw [Bool.eq_false_iff]
  intro hlive
  obtain ⟨id, c, hget, hv, hs⟩ := hasLive_iff.mp hlive
  have hblocks := blocks_of_live (fun n => (hl.strings id c n hget).1)
    (fun n => (hl.strings id c n hget).2) hv hs
  have hmem : id ∈ m.campaignIds (·.blocks v) :=
    List.mem_map.mpr ⟨(id, c), Collection.mem_find.mpr ⟨hget, hblocks⟩, rfl⟩
  rw [List.isEmpty_iff.mp h] at hmem
  cases hmem

theorem isSome_of_findVendor {doc : Vendor} (h : m.findVendor v = .ok doc) :
    (m.vendor v).isSome = true := by
  unfold Marketplace.findVendor at h
  split at h
  · rename_i d hd
    rw [hd]
    rfl
  · cases h

theorem started_of_step (hs : campaignStep m pc r = some (m', pc'))
    (hpc : ∀ dto adminId vendor currency, pc ≠ .createInsert dto adminId vendor currency)
    (h : m.Started now id) : m'.Started now id := by
  intro c' hget
  rcases origin_of_step hs hget with ⟨c, hc, hk⟩ | ⟨_, _, _, _, hinsert, _⟩
  · rw [hk.startDate]
    exact h c hc
  · exact absurd hinsert (hpc _ _ _ _)

theorem fresh_resume (hnow : now ≤ t) (h : ∀ j ∈ rest, m.Started now j) :
    ((Resume.activating now rest).pc).Fresh t m := by
  cases rest with
  | nil => trivial
  | cons id rest => exact ⟨hnow, h⟩

theorem fresh_ending (rest : List CampaignId) : ((Resume.ending rest).pc).Fresh t m := by
  cases rest <;> trivial

theorem fresh_afterInitiateOwner (id : CampaignId) (o : Option PaymentProvider)
    (campaign : AdCampaign) : (afterInitiateOwner id o campaign).Fresh t m :=
  afterInitiateOwner_of (P := fun pc => pc.Fresh t m) (fun _ => trivial) (fun _ => trivial) o

theorem fresh_afterVerifyOwner (hget : m.campaigns.get id = some c) :
    (afterVerifyOwner id c).Fresh t m :=
  afterVerifyOwner_of (P := fun pc => pc.Fresh t m) trivial (fun _ => trivial) trivial
    fun _ => hget

theorem fresh_assertOwner (requester : AccessTokenPayload) (campaign : AdCampaign)
    (h : pc.Fresh t m) : (assertOwner m requester campaign pc).Fresh t m :=
  assertOwner_of (P := fun pc => pc.Fresh t m) (fun _ => trivial) requester h

/-- **What a call by itself has read stays true while it goes on.** -/
theorem fresh_of_step (hl : m.Lawful t) (hf : pc.Fresh t m) (ht : t ≤ r.now) (hdb : r.db = .ok)
    (hs : campaignStep m pc r = some (m', pc')) : pc'.Fresh r.now m' := by
  have h := call_of_ok hs hdb
  cases pc with
  | createVendor dto adminId vendor =>
    simp only [campaignCall] at h
    split at h
    · cases h
      trivial
    · rename_i doc hfound
      cases h
      exact isSome_of_findVendor hfound
  | createCheck dto adminId vendor currency =>
    simp only [campaignCall] at h
    split at h
    · rename_i hempty
      cases h
      exact ⟨hf, hasLive_of_unblocked hl hempty⟩
    · cases h
      trivial
  | createInsert dto adminId vendor currency =>
    rw [createInsert_call] at h
    cases h
    trivial
  | initiateRead id requester o =>
    simp only [campaignCall] at h
    split at h
    · cases h
      trivial
    · split at h
      · cases h
        exact fresh_afterInitiateOwner _ _ _
      · cases h
        trivial
  | initiateOwner id requester o campaign =>
    cases h
    exact fresh_assertOwner _ _ (fresh_afterInitiateOwner _ _ _)
  | initiating id campaign provider =>
    simp only [campaignCall] at h
    split at h <;> cases h <;> trivial
  | saveRef id campaign provider reference =>
    cases h
    trivial
  | webhook provider request =>
    simp only [campaignCall] at h
    split at h <;> cases h <;> trivial
  | webhookFind provider event =>
    simp only [campaignCall] at h
    split at h
    · cases h
      trivial
    · rename_i id campaign hfind
      cases h
      have hget : m.campaigns.get id = some campaign := (Collection.head?_find_eq_some.mp hfind).1
      unfold afterWebhookFind
      split
      · trivial
      · split
        · intro c hc
          rw [Option.some.inj (hc.symm.trans hget)]
        · trivial
  | verifyRead id requester =>
    simp only [campaignCall] at h
    split at h
    · cases h
      trivial
    · rename_i campaign hget
      split at h
      · cases h
        exact fresh_afterVerifyOwner hget
      · cases h
        exact hget
  | verifyOwner id requester campaign =>
    cases h
    exact fresh_assertOwner _ _ (fresh_afterVerifyOwner hf)
  | verifying id campaign provider =>
    simp only [campaignCall] at h
    split at h
    · cases h
      trivial
    · split at h
      · cases h
        intro c hc
        rw [Option.some.inj (hc.symm.trans hf)]
      · cases h
        trivial
  | markPaid id campaign =>
    simp only [campaignCall] at h
    split at h
    · cases h
      trivial
    · cases h
      split
      · trivial
      · trivial
  | markPaymentFailed id =>
    simp only [campaignCall] at h
    split at h <;> cases h <;> trivial
  | reread id failed =>
    simp only [campaignCall] at h
    split at h <;> cases h <;> cases failed <;> trivial
  | manualRead id email =>
    simp only [campaignCall] at h
    split at h
    · cases h
      trivial
    · rename_i campaign hget
      split at h
      · cases h
        trivial
      · cases h
        exact hget
  | manualSave id email campaign =>
    obtain ⟨rfl, rfl⟩ := Prod.mk.inj (Option.some.inj h)
    intro c hc
    rcases Collection.get_modify_cases hc with ⟨_, d, hd, rfl⟩ | ⟨hne, _⟩
    · rw [Option.some.inj (hf.symm.trans hd)]
      rfl
    · exact absurd rfl hne
  | cancelRead id reason =>
    simp only [campaignCall] at h
    split at h
    · cases h
      trivial
    · rename_i campaign hget
      cases h
      unfold afterCancelRead
      split
      · rename_i hcan
        exact ⟨hget, hcan⟩
      · trivial
  | cancelSave id reason campaign =>
    cases h
    trivial
  | findDue =>
    cases h
    refine fresh_resume (Nat.le_refl _) ?_
    intro j hj c hget
    obtain ⟨⟨i, d⟩, hmem, rfl⟩ := List.mem_map.mp hj
    obtain ⟨hd, hdue⟩ := Collection.mem_find.mp hmem
    rw [Bool.and_eq_true, decide_eq_true_eq, decide_eq_true_eq] at hdue
    rw [Option.some.inj (hget.symm.trans hd)]
    exact hdue.2
  | activate now id rest =>
    obtain ⟨hnow, hstarted⟩ := hf
    have hrest : ∀ j ∈ rest, m'.Started now j := fun j hj =>
      started_of_step hs (by rintro _ _ _ _ ⟨⟩) (hstarted j (List.mem_cons_of_mem _ hj))
    simp only [campaignCall] at h
    split at h
    · cases h
      exact fresh_resume (Nat.le_trans hnow ht) hrest
    · cases h
      exact ⟨Nat.le_trans hnow ht, hrest⟩
  | findOver now =>
    cases h
    exact fresh_ending _
  | finish id rest =>
    simp only [campaignCall] at h
    split at h
    · cases h
      exact fresh_ending _
    · cases h
      trivial
  | setSponsorship campaign sponsoredUntil next =>
    cases h
    cases next with
    | done => trivial
    | activating now rest =>
      obtain ⟨hnow, hstarted⟩ := hf
      refine ⟨Nat.le_trans hnow ht, ?_⟩
      intro j hj
      exact started_of_step hs (by rintro _ _ _ _ ⟨⟩) (hstarted j hj)
    | ending rest => trivial
  | loadVendor campaign next =>
    simp only [campaignCall] at h
    split at h
    · cases h
      cases next with
      | done => trivial
      | activating now rest => exact fresh_resume (Nat.le_trans hf.1 ht) hf.2
      | ending rest => exact fresh_ending rest
    · cases h
      cases next with
      | done => trivial
      | activating now rest => exact fresh_resume (Nat.le_trans hf.1 ht) hf.2
      | ending rest => exact fresh_ending rest
  | returned => cases h
  | rejected error => cases h
  | threw => cases h

/-! ## What a step keeps -/

/-- **Only `markPaid` and the sweep's first update make a campaign active**, and both go by its
start date. -/
theorem active_of_call (h : campaignCall m pc r = some (m', pc'))
    (hget : m'.campaigns.get id = some c) (hs : c.status = .active) :
    (∃ d, m.campaigns.get id = some d ∧ d.status = .active) ∨
      (∃ campaign, pc = .markPaid id campaign ∧ campaign.startDate ≤ r.now) ∨
      ∃ now rest, pc = .activate now id rest := by
  have written : ∀ {i : CampaignId} {g : AdCampaign → AdCampaign},
      m'.campaigns = m.campaigns.modify i g →
      (∀ d, m.campaigns.get i = some d → (g d).status = .active → d.status = .active) →
      ∃ d, m.campaigns.get id = some d ∧ d.status = .active := by
    intro i g he hg
    rw [he] at hget
    rcases Collection.get_modify_cases hget with ⟨rfl, d, hd, rfl⟩ | ⟨_, hd⟩
    · exact ⟨d, hd, hg d hd hs⟩
    · exact ⟨c, hd, hs⟩
  cases pc with
  | createInsert dto adminId vendor currency =>
    rw [createInsert_call] at h
    cases h
    rcases Collection.get_create_cases hget with ⟨_, rfl⟩ | ⟨_, hd⟩
    · cases hs
    · exact Or.inl ⟨c, hd, hs⟩
  | saveRef i campaign provider reference =>
    cases h
    exact Or.inl (written rfl fun _ _ hd => hd)
  | markPaid i campaign =>
    simp only [campaignCall] at h
    split at h
    · cases h
      exact Or.inl ⟨c, hget, hs⟩
    · rename_i updated hw
      obtain ⟨d, hd, hpaid⟩ := Option.bind_eq_some_iff.mp hw
      obtain ⟨_, rfl⟩ := AdCampaign.markPaid_eq_some hpaid
      cases h
      rcases Collection.get_modify_cases hget with ⟨rfl, _, _, rfl⟩ | ⟨_, hc⟩
      · refine Or.inr (Or.inl ⟨campaign, rfl, ?_⟩)
        by_contra hlate
        simp [hlate] at hs
      · exact Or.inl ⟨c, hc, hs⟩
  | markPaymentFailed i =>
    simp only [campaignCall] at h
    split at h
    · cases h
      exact Or.inl ⟨c, hget, hs⟩
    · rename_i updated hw
      obtain ⟨d, hd, hfailed⟩ := Option.bind_eq_some_iff.mp hw
      obtain ⟨_, rfl⟩ := AdCampaign.markPaymentFailed_eq_some hfailed
      cases h
      refine Or.inl (written rfl ?_)
      intro d' hd' ha
      obtain rfl := Option.some.inj (hd.symm.trans hd')
      exact ha
  | manualSave i email campaign =>
    cases h
    exact Or.inl (written rfl fun _ _ hd => hd)
  | cancelSave i reason campaign =>
    cases h
    exact Or.inl (written rfl fun _ _ hd => by cases hd)
  | activate now i rest =>
    simp only [campaignCall] at h
    split at h
    · cases h
      exact Or.inl ⟨c, hget, hs⟩
    · cases h
      rcases Collection.get_modify_cases hget with ⟨rfl, _⟩ | ⟨_, hc⟩
      · exact Or.inr (Or.inr ⟨now, rest, rfl⟩)
      · exact Or.inl ⟨c, hc, hs⟩
  | finish i rest =>
    simp only [campaignCall] at h
    split at h
    · cases h
      exact Or.inl ⟨c, hget, hs⟩
    · rename_i updated hw
      obtain ⟨d, hd, hfinished⟩ := Option.bind_eq_some_iff.mp hw
      obtain ⟨_, rfl⟩ := AdCampaign.finish_eq_some hfinished
      cases h
      exact Or.inl (written rfl fun _ _ ha => by cases ha)
  | setSponsorship campaign sponsoredUntil next =>
    cases h
    rw [campaigns_setSponsorship] at hget
    exact Or.inl ⟨c, hget, hs⟩
  | _ =>
    refine Or.inl ⟨c, ?_, hs⟩
    simp only [campaignCall] at h
    repeat' split at h
    all_goals
      cases h
      try exact hget

/-- The campaigns that are active have started, also after a step. -/
theorem allStarted_of_step (h : m.AllStarted now)
    (hpaid : ∀ i campaign, pc = .markPaid i campaign → r.now ≤ now)
    (hactivate : ∀ n i rest, pc = .activate n i rest → n ≤ now) (hf : pc.Fresh t m)
    (hdb : r.db = .ok) (hs : campaignStep m pc r = some (m', pc')) : m'.AllStarted now := by
  intro id c hget hactive
  rcases origin_of_step hs hget with ⟨d, hd, hk⟩ | ⟨_, _, _, _, _, _, rfl⟩
  · rw [hk.startDate]
    rcases active_of_call (call_of_ok hs hdb) hget hactive with
      ⟨e, he, ha⟩ | ⟨campaign, rfl, hstart⟩ | ⟨n, rest, rfl⟩
    · obtain rfl := Option.some.inj (hd.symm.trans he)
      exact h id d hd ha
    · rw [hf d hd]
      exact Nat.le_trans hstart (hpaid _ _ rfl)
    · exact Nat.le_trans (hf.2 id List.mem_cons_self d hd) (hactivate _ _ _ rfl)
  · cases hactive

theorem isSome_vendor_modifyVendor {g : Vendor → Vendor} {u : Seller}
    (h : (m.vendor v).isSome = true) : ((m.modifyVendor g u).vendor v).isSome = true := by
  cases u with
  | restaurant i =>
    cases v with
    | restaurant j =>
      rw [Marketplace.vendor, Collection.get_isSome_iff] at h ⊢
      exact lt_of_lt_of_eq h Collection.nextId_modify.symm
    | store j => exact h
  | store i =>
    cases v with
    | restaurant j => exact h
    | store j =>
      rw [Marketplace.vendor, Collection.get_isSome_iff] at h ⊢
      exact lt_of_lt_of_eq h Collection.nextId_modify.symm

theorem isSome_vendor_setSponsorship {date : Option Time} (h : (m.vendor v).isSome = true) :
    ((m.setSponsorship c date).vendor v).isSome = true := by
  unfold Marketplace.setSponsorship
  split
  · exact isSome_vendor_modifyVendor h
  · exact h

theorem exists_vendor_of_setSponsorship {date : Option Time} {doc : Vendor}
    (h : (m.setSponsorship c date).vendor v = some doc) : ∃ old, m.vendor v = some old := by
  unfold Marketplace.setSponsorship at h
  split at h
  · rcases vendor_modifyVendor_cases h with ⟨_, old, hold, _⟩ | ⟨_, hold⟩
    · exact ⟨old, hold⟩
    · exact ⟨doc, hold⟩
  · exact ⟨doc, h⟩

theorem isSome_vendor_of_call (hs : campaignCall m pc r = some (m', pc'))
    (h : (m.vendor v).isSome = true) : (m'.vendor v).isSome = true := by
  have hm := campaign_move hs
  cases hm with
  | sponsored => exact isSome_vendor_setSponsorship h
  | _ => exact h

theorem isSome_vendor_of_step (hs : campaignStep m pc r = some (m', pc'))
    (h : (m.vendor v).isSome = true) : (m'.vendor v).isSome = true := by
  rcases call_of_step hs with ⟨hcall, _⟩ | ⟨_, _, written, _, _, _, hcall, rfl⟩
  · exact isSome_vendor_of_call hcall h
  · cases written with
    | true => exact isSome_vendor_of_call hcall h
    | false => exact h

theorem lawful_of_step (hl : m.Lawful t) (hf : pc.Fresh t m) (ht : t ≤ r.now) (hdb : r.db = .ok)
    (hs : campaignStep m pc r = some (m', pc')) : m'.Lawful r.now where
  oneLive := by
    have h := call_of_ok hs hdb
    cases pc with
    | createInsert dto adminId vendor currency =>
      rw [createInsert_call] at h
      cases h
      exact oneLive_of_insert hl.oneLive hf.2
    | _ => exact oneLive_of_step hl.oneLive hs (by rintro _ _ _ _ ⟨⟩)
  strings id c n hget := by
    rcases origin_of_step hs hget with ⟨d, hd, hk⟩ | ⟨_, _, vendor, _, _, _, rfl⟩
    · rw [hk.restaurantId, hk.storeId]
      exact hl.strings id d n hd
    · cases vendor <;> exact ⟨by rintro ⟨⟩, by rintro ⟨⟩⟩
  vendors id c v hget hv := by
    refine isSome_vendor_of_step hs ?_
    rcases origin_of_step hs hget with ⟨d, hd, hk⟩ | ⟨_, _, vendor, _, rfl, _, rfl⟩
    · exact hl.vendors id d v hd (hk.vendor.symm.trans hv)
    · rw [AdCampaign.vendor_created] at hv
      obtain rfl := Option.some.inj hv
      exact hf.1
  started := by
    refine allStarted_of_step ?_ (fun _ _ _ => Nat.le_refl _) ?_ hf hdb hs
    · intro id c hget hactive
      exact Nat.le_trans (hl.started id c hget hactive) ht
    · rintro n i rest rfl
      exact Nat.le_trans hf.1 ht

end Steps

end FoodDelivery
