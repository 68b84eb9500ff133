import FoodDelivery.Campaigns.Exactness

/-!
# A sponsorship write that throws

`markPaid` and the sweep commit a campaign's status first and write the sponsorship in a second
step, and both select campaigns by the status before.  A sponsorship write that is lost is never
made up for: no later sweep comes back to the campaign.

* `advertised_of_reach`: when every sponsorship write that is needed gets through, running
  campaigns are advertised and ended ones are not.
* `invisible_after_sweep`: a campaign is live, its vendor is not sponsored, and a sweep that runs
  without an error leaves it so.
-/

namespace FoodDelivery

open Store Interleave OrdersService CampaignPc

/-! ## What is claimed -/

/-- Only the write of a sponsorship, and the look at the vendor after it, may throw. -/
def FailsSponsoring (s : CampaignPool) : CampaignEvent → Bool
  | .run i r =>
    match r.db, s.procs[i]? with
    | .threw _ _, some (.setSponsorship _ _ _) => true
    | .threw _ _, some (.loadVendor _ _) => true
    | .threw _ _, _ => false
    | .ok, _ => true
  | _ => true

namespace Marketplace

def sponsored (m : Marketplace) (vendor : Seller) : Bool := (m.vendor vendor).any (·.isSponsored)

/-- The vendor has an active campaign that has not reached its end. -/
def running (m : Marketplace) (now : Time) (vendor : Seller) : Bool :=
  (m.campaigns.find fun _ c =>
    c.vendor = some vendor && (c.status = .active && decide (now < c.endDate))) ≠ []

/-- The vendor has a live campaign beside this one. -/
def hasLiveBeside (m : Marketplace) (id : CampaignId) (vendor : Seller) : Bool :=
  (m.campaigns.find fun i c =>
    i ≠ id && (c.vendor = some vendor && c.status ∈ AdCampaignStatus.live)) ≠ []

/-- A vendor whose campaign is running is sponsored, and one whose campaigns are all terminal is
not. -/
structure Advertised (m : Marketplace) (now : Time) : Prop where
  running : ∀ v doc id c, m.vendor v = some doc → m.campaigns.get id = some c →
    c.vendor = some v → c.status = .active → now < c.endDate → doc.isSponsored = true
  terminal : ∀ v doc, m.vendor v = some doc → (∀ id c, m.campaigns.get id = some c →
    c.vendor = some v → c.status.isTerminal = true) → doc.isSponsored = false

end Marketplace

/-- The call is about to sponsor the vendor. -/
def CampaignPc.sets (pc : CampaignPc) (vendor : Seller) : Bool :=
  match pc with
  | .setSponsorship campaign (some _) _ => campaign.vendor = some vendor
  | _ => false

/-- Another call than the `i`-th stands so. -/
def another (s : CampaignPool) (i : Nat) (p : CampaignPc → Bool) : Bool :=
  (s.procs.eraseIdx i).any p

/-- A sponsorship write is lost only when the flag is right without it, or another call is about
to set it right; one that gets through does not come too late; and a `cancel` does not end the
last live campaign of a sponsored vendor. -/
def KeepsAdvertised (now : Time) (s : CampaignPool) : CampaignEvent → Bool
  | .run i r =>
    match s.procs[i]? with
    | some (.setSponsorship campaign (some _) _) =>
      campaign.vendor.all fun v =>
        if r.db.wrote then s.shared.hasLive v || another s i (·.clears v)
        else s.shared.sponsored v || (!s.shared.running now v || another s i (·.sets v))
    | some (.setSponsorship campaign none _) =>
      campaign.vendor.all fun v =>
        if r.db.wrote then !s.shared.running now v || another s i (·.sets v)
        else !s.shared.sponsored v || (s.shared.hasLive v || another s i (·.clears v))
    | some (.cancelSave id _ _) =>
      (s.shared.campaigns.get id).all fun c => c.vendor.all fun v =>
        !s.shared.sponsored v || (s.shared.hasLiveBeside id v || another s i (·.clears v))
    | _ => true
  | _ => true

/-- The vendor that a `create` has found. -/
def CampaignPc.createsFor : CampaignPc → Option Seller
  | .createCheck _ _ vendor _ => some vendor
  | .createInsert _ _ vendor _ => some vendor
  | _ => none

section Steps

variable {m m' : Marketplace} {pc pc' : CampaignPc} {r : CampaignReply} {now : Time}
  {v : Seller} {c c' : AdCampaign} {id : CampaignId}

theorem running_iff : m.running now v = true ↔ ∃ id c, m.campaigns.get id = some c ∧
    c.vendor = some v ∧ c.status = .active ∧ now < c.endDate := by
  rw [Marketplace.running, decide_eq_true_eq, Collection.find_ne_nil]
  simp only [Bool.and_eq_true, decide_eq_true_eq]

theorem hasLiveBeside_iff : m.hasLiveBeside id v = true ↔ ∃ i c, i ≠ id ∧
    m.campaigns.get i = some c ∧ c.vendor = some v ∧ c.status ∈ AdCampaignStatus.live := by
  rw [Marketplace.hasLiveBeside, decide_eq_true_eq, Collection.find_ne_nil]
  simp only [Bool.and_eq_true, decide_eq_true_eq]
  constructor
  · rintro ⟨i, c, hget, hi, hc⟩
    exact ⟨i, c, hi, hget, hc⟩
  · rintro ⟨i, c, hi, hget, hc⟩
    exact ⟨i, c, hget, hi, hc⟩

theorem sponsored_of_get {doc : Vendor} (h : m.vendor v = some doc) :
    m.sponsored v = doc.isSponsored := by
  rw [Marketplace.sponsored, h]
  rfl

/-! ## What a step may end and start -/

/-- **A live campaign ends with a `cancel`, or with a call that clears the sponsorship next.** -/
theorem ended_of_call (h : campaignCall m pc r = some (m', pc'))
    (hget : m.campaigns.get id = some c) (hlive : c.status ∈ AdCampaignStatus.live)
    (hget' : m'.campaigns.get id = some c') (hs : c'.status ∉ AdCampaignStatus.live) :
    (∃ reason loaded, pc = .cancelSave id reason loaded) ∨ pc'.sponsoring = some (c', none) := by
  have same : m'.campaigns.get id = m.campaigns.get id → False := by
    intro he
    obtain rfl := Option.some.inj (hget.symm.trans (he.symm.trans hget'))
    exact hs hlive
  have written : ∀ {i : CampaignId} {g : AdCampaign → AdCampaign},
      m'.campaigns = m.campaigns.modify i g →
      (∀ d, m.campaigns.get i = some d → d.status ∈ AdCampaignStatus.live →
        (g d).status ∈ AdCampaignStatus.live) → False := by
    intro i g he hg
    by_cases hi : i = id
    · subst hi
      rw [he, Collection.get_modify_self, hget] at hget'
      obtain rfl := Option.some.inj hget'
      exact hs (hg c hget hlive)
    · exact same (by rw [he, Collection.get_modify_ne hi])
  cases pc with
  | createInsert dto adminId vendor currency =>
    rw [createInsert_call] at h
    cases h
    exact (same ((Collection.get_create_of_get hget).trans hget.symm)).elim
  | saveRef i campaign provider reference =>
    cases h
    exact (written rfl fun _ _ hd => hd).elim
  | markPaid i campaign =>
    simp only [campaignCall] at h
    split at h
    · cases h
      exact (same rfl).elim
    · rename_i updated hw
      obtain ⟨d, hd, hpaid⟩ := Option.bind_eq_some_iff.mp hw
      obtain ⟨_, rfl⟩ := AdCampaign.markPaid_eq_some hpaid
      cases h
      refine (written rfl ?_).elim
      intro e _ _
      dsimp only
      split <;> decide
  | markPaymentFailed i =>
    simp only [campaignCall] at h
    split at h
    · cases h
      exact (same rfl).elim
    · rename_i updated hw
      obtain ⟨d, hd, hfailed⟩ := Option.bind_eq_some_iff.mp hw
      obtain ⟨_, rfl⟩ := AdCampaign.markPaymentFailed_eq_some hfailed
      cases h
      refine (written rfl ?_).elim
      intro e he hlive
      rwa [Option.some.inj (hd.symm.trans he)]
  | manualSave i email campaign =>
    cases h
    exact (written rfl fun _ _ hd => hd).elim
  | cancelSave i reason campaign =>
    cases h
    by_cases hi : i = id
    · subst hi
      exact Or.inl ⟨reason, campaign, rfl⟩
    · exact (same (Collection.get_modify_ne hi)).elim
  | activate n i rest =>
    simp only [campaignCall] at h
    split at h
    · cases h
      exact (same rfl).elim
    · rename_i updated hw
      obtain ⟨d, hd, hactivated⟩ := Option.bind_eq_some_iff.mp hw
      obtain ⟨_, rfl⟩ := AdCampaign.activate_eq_some hactivated
      cases h
      exact (written rfl fun _ _ _ => List.mem_of_elem_eq_true rfl).elim
  | finish i rest =>
    simp only [campaignCall] at h
    split at h
    · cases h
      exact (same rfl).elim
    · cases h
      by_cases hi : i = id
      · subst hi
        right
        rcases Collection.get_modify_cases hget' with ⟨_, _, _, rfl⟩ | ⟨hne, _⟩
        · rfl
        · exact absurd rfl hne
      · exact (same (Collection.get_modify_ne hi)).elim
  | setSponsorship campaign sponsoredUntil next =>
    cases h
    exact (same (by rw [campaigns_setSponsorship])).elim
  | _ =>
    refine (same ?_).elim
    simp only [campaignCall] at h
    repeat' split at h
    all_goals
      cases h
      try rfl

/-- A campaign goes active only with a call that sponsors its vendor next. -/
theorem CampaignMove.activates (hm : CampaignMove m pc m' pc')
    (hget : m'.campaigns.get id = some c) (hs : c.status = .active) :
    (∃ d, m.campaigns.get id = some d ∧ d.status = .active) ∨
      pc'.sponsoring = some (c, some c.endDate) := by
  cases hm with
  | waited _ _ => exact Or.inl ⟨c, hget, hs⟩
  | inserted _ hstatus =>
    rcases Collection.get_create_cases hget with ⟨_, rfl⟩ | ⟨_, hold⟩
    · cases hs.symm.trans hstatus
    · exact Or.inl ⟨c, hold, hs⟩
  | issued _ => exact Or.inl ⟨c, hget, hs⟩
  | edited _ _ hg =>
    rcases Collection.get_modify_cases hget with ⟨rfl, d, hd, rfl⟩ | ⟨_, hold⟩
    · exact Or.inl ⟨d, hd, (hg d hd).1.symm.trans hs⟩
    · exact Or.inl ⟨c, hold, hs⟩
  | advanced _ _ _ _ h' =>
    rcases Collection.get_modify_cases hget with ⟨_, _, _, rfl⟩ | ⟨_, hold⟩
    · right
      rw [h', AdCampaign.sponsorship, hs]
    · exact Or.inl ⟨c, hold, hs⟩
  | cancelled =>
    rcases Collection.get_modify_cases hget with ⟨_, _, _, rfl⟩ | ⟨_, hold⟩
    · cases hs
    · exact Or.inl ⟨c, hold, hs⟩
  | sponsored =>
    rw [campaigns_setSponsorship] at hget
    exact Or.inl ⟨c, hget, hs⟩

theorem sets_of_sponsoring {date : Time} (h : pc.sponsoring = some (c, some date))
    (hv : c.vendor = some v) : pc.sets v = true := by
  cases pc with
  | setSponsorship campaign sponsoredUntil next =>
    cases h
    exact decide_eq_true hv
  | _ => cases h

theorem vendor_of_call (h : campaignCall m pc r = some (m', pc')) (hsp : pc.sponsoring = none) :
    m'.vendor v = m.vendor v := by
  have hm := campaign_move h
  cases hm with
  | sponsored => cases hsp
  | _ => rfl

/-- What the write of a sponsorship leaves, made or lost. -/
theorem setSponsorship_step {date : Option Time} {next : Resume}
    (h : campaignStep m (.setSponsorship c date next) r = some (m', pc')) :
    m' = if r.db.wrote then m.setSponsorship c date else m := by
  rcases call_of_step h with ⟨hcall, hok | hask⟩ | ⟨_, _, written, _, o, hdb, hcall, hm⟩
  · cases hcall
    rw [hok]
    rfl
  · cases hask
  · cases hcall
    rw [hdb]
    exact hm

theorem loadVendor_step {next : Resume}
    (h : campaignStep m (.loadVendor c next) r = some (m', pc')) : m' = m := by
  have hcall : ∀ o, campaignCall m (.loadVendor c next) r = some o → o.1 = m := by
    intro o ho
    simp only [campaignCall] at ho
    split at ho <;> cases ho <;> rfl
  rcases call_of_step h with ⟨hc, _⟩ | ⟨_, _, written, _, o, _, hc, hm⟩
  · exact hcall _ hc
  · rw [hm, hcall o hc, ite_self]

/-! ## Campaigns of vendors that exist -/

theorem createsFor_resume (next : Resume) : next.pc.createsFor = none :=
  resume_of (P := fun pc => pc.createsFor = none) rfl (fun _ => rfl) (fun _ _ _ => rfl)
    (fun _ _ => rfl) next

theorem createsFor_orElse (next : Resume) (h : pc.createsFor = none) :
    (next.orElse pc).createsFor = none :=
  orElse_of (P := fun pc => pc.createsFor = none) next h (createsFor_resume next)

theorem createsFor_afterInitiateOwner (id : CampaignId) (o : Option PaymentProvider)
    (campaign : AdCampaign) : (afterInitiateOwner id o campaign).createsFor = none :=
  afterInitiateOwner_of (P := fun pc => pc.createsFor = none) (fun _ => rfl) (fun _ => rfl) o

theorem createsFor_afterVerifyOwner (id : CampaignId) (campaign : AdCampaign) :
    (afterVerifyOwner id campaign).createsFor = none :=
  afterVerifyOwner_of (P := fun pc => pc.createsFor = none) rfl (fun _ => rfl) rfl fun _ => rfl

theorem createsFor_afterWebhookFind (provider : PaymentProvider) (event : WebhookEvent)
    (id : CampaignId) (campaign : AdCampaign) :
    (afterWebhookFind provider event id campaign).createsFor = none :=
  afterWebhookFind_of (P := fun pc => pc.createsFor = none) rfl rfl rfl provider event

theorem createsFor_afterCancelRead (id : CampaignId) (reason : Option String)
    (campaign : AdCampaign) : (afterCancelRead id reason campaign).createsFor = none :=
  afterCancelRead_of (P := fun pc => pc.createsFor = none) (fun _ => rfl) rfl

theorem createsFor_assertOwner (requester : AccessTokenPayload) (campaign : AdCampaign)
    (h : pc.createsFor = none) : (assertOwner m requester campaign pc).createsFor = none :=
  assertOwner_of (P := fun pc => pc.createsFor = none) (fun _ => rfl) requester h

theorem createsFor_onFailure (pc : CampaignPc) : pc.onFailure.createsFor = none := by
  cases pc with
  | activate now id rest => exact createsFor_resume _
  | finish id rest => exact createsFor_resume _
  | setSponsorship campaign sponsoredUntil next => exact createsFor_orElse next rfl
  | loadVendor campaign next => exact createsFor_orElse next rfl
  | _ => rfl

/-- `create` goes on for a vendor that it has found. -/
theorem createsFor_of_call (h : campaignCall m pc r = some (m', pc')) :
    pc'.createsFor = none ∨ pc'.createsFor = pc.createsFor ∨
      ∃ vendor, pc'.createsFor = some vendor ∧ (m.vendor vendor).isSome = true := by
  cases pc with
  | createVendor dto adminId vendor =>
    simp only [campaignCall] at h
    split at h
    · cases h
      exact Or.inl rfl
    · rename_i doc hfound
      cases h
      exact Or.inr (Or.inr ⟨vendor, rfl, isSome_of_findVendor hfound⟩)
  | createCheck dto adminId vendor currency =>
    simp only [campaignCall] at h
    split at h
    · cases h
      exact Or.inr (Or.inl rfl)
    · cases h
      exact Or.inl rfl
  | _ =>
    left
    simp only [campaignCall] at h
    repeat' split at h
    all_goals
      cases h <;> first
        | rfl
        | exact createsFor_resume _
        | exact createsFor_orElse _ rfl
        | exact createsFor_afterInitiateOwner _ _ _
        | exact createsFor_afterVerifyOwner _ _
        | exact createsFor_afterWebhookFind _ _ _ _
        | exact createsFor_afterCancelRead _ _ _
        | exact createsFor_assertOwner _ _ (createsFor_afterInitiateOwner _ _ _)
        | exact createsFor_assertOwner _ _ (createsFor_afterVerifyOwner _ _)

theorem createsFor_of_step (h : campaignStep m pc r = some (m', pc')) :
    pc'.createsFor = none ∨ pc'.createsFor = pc.createsFor ∨
      ∃ vendor, pc'.createsFor = some vendor ∧ (m.vendor vendor).isSome = true := by
  rcases call_of_step h with ⟨hcall, _⟩ | ⟨_, rfl, _⟩
  · exact createsFor_of_call hcall
  · exact Or.inl (createsFor_onFailure pc)

end Steps

/-- Campaigns are those of vendors that exist, and so are the ones about to be created. -/
def vendorsExist : Outline Marketplace CampaignPc where
  shared m := ∀ id c v, m.campaigns.get id = some c → c.vendor = some v →
    (m.vendor v).isSome = true
  proc m pc := ∀ v, pc.createsFor = some v → (m.vendor v).isSome = true
  compat _ _ := True
  symm _ _ _ := trivial

theorem vendorsExist_kept : vendorsExist.Kept campaigns (fun _ _ => True) fun _ => True where
  spawn s k _ _ _ := by
    refine ⟨?_, fun _ _ => trivial⟩
    intro v hv
    cases k with
    | create dto adminId =>
      have hnone : (CampaignPc.start (.create dto adminId)).createsFor = none := by
        simp only [CampaignPc.start]
        split <;> rfl
      cases hnone.symm.trans hv
    | _ => cases hv
  run s i r pc m' pc' _ _ hholds hp hstep := by
    have hs : campaignStep s.shared pc r = some (m', pc') := hstep
    refine ⟨?_, ?_, fun j q _ _ hq _ => ⟨fun v hv => ?_, trivial⟩⟩
    · intro id c v hget hv
      refine isSome_vendor_of_step hs ?_
      rcases origin_of_step hs hget with ⟨d, hd, hk⟩ | ⟨_, _, vendor, _, rfl, _, rfl⟩
      · exact hholds.shared id d v hd (hk.vendor.symm.trans hv)
      · rw [AdCampaign.vendor_created] at hv
        exact hholds.at hp v hv
    · intro v hv
      refine isSome_vendor_of_step hs ?_
      rcases createsFor_of_step hs with hnone | hsame | ⟨vendor, hfound, hsome⟩
      · cases hnone.symm.trans hv
      · exact hholds.at hp v (hsame.symm.trans hv)
      · obtain rfl := Option.some.inj (hfound.symm.trans hv)
        exact hsome
    · exact isSome_vendor_of_step hs (hq v hv)
  env s e m' _ _ hholds he := by
    refine ⟨?_, fun q hq v hv => isSome_vendor_env he (hholds.procs q hq v hv)⟩
    intro id c v hget hv
    rw [campaigns_env he] at hget
    exact isSome_vendor_env he (hholds.shared id c v hget hv)

/-! ## Who sets the flag right -/

/-- The vendor of a running campaign that is not sponsored, and the calls about to sponsor it. -/
def showDuty (now : Time) : Duty Marketplace CampaignPc Seller where
  due m vendor := m.running now vendor = true ∧ ∃ doc, m.vendor vendor = some doc ∧
    doc.isSponsored = false
  bearer pc vendor := pc.sets vendor = true

/-- A sponsored vendor without a live campaign, and the calls about to clear the flag. -/
def hideDuty : Duty Marketplace CampaignPc Seller where
  due m vendor := m.sponsored vendor = true ∧ m.hasLive vendor = false
  bearer pc vendor := pc.clears vendor = true

section Runs

variable {s : CampaignPool} {m m' : Marketplace} {pc pc' : CampaignPc} {r : CampaignReply}
  {now : Time} {i : Nat} {v : Seller}

theorem another_iff {p : CampaignPc → Bool} : another s i p = true ↔
    ∃ j q, i ≠ j ∧ s.procs[j]? = some q ∧ p q = true := by
  rw [another, List.any_eq_true]
  constructor
  · rintro ⟨q, hq, hp⟩
    obtain ⟨j, hj, hget⟩ := List.mem_eraseIdx_iff_getElem?.mp hq
    exact ⟨j, q, hj.symm, hget, hp⟩
  · rintro ⟨j, q, hj, hget, hp⟩
    exact ⟨q, List.mem_eraseIdx_iff_getElem?.mpr ⟨j, hj.symm, hget⟩, hp⟩

/-- A step other than the write of a sponsorship does not throw, or it only looks at a vendor. -/
theorem call_of_failsSponsoring (hok : FailsSponsoring s (.run i r) = true)
    (hp : s.procs[i]? = some pc) (hpc : pc.sponsoring = none)
    (hs : campaignStep s.shared pc r = some (m', pc')) :
    campaignCall s.shared pc r = some (m', pc') ∨ m' = s.shared := by
  rcases call_of_step hs with ⟨hcall, _⟩ | ⟨_, _, _, _, _, hdb, _⟩
  · exact Or.inl hcall
  · right
    simp only [FailsSponsoring, hp, hdb] at hok
    cases pc with
    | loadVendor campaign next => exact loadVendor_step hs
    | setSponsorship campaign sponsoredUntil next => cases hpc
    | _ => cases hok

theorem not_sets (h : pc.sponsoring = none) : ¬ pc.sets v = true := by
  cases pc with
  | setSponsorship campaign sponsoredUntil next => cases h
  | _ => exact Bool.false_ne_true

/-! ## Every run -/

/-- The flags after the write of a sponsorship: its own vendor's, and the others'. -/
theorem sponsored_setSponsorship {c : AdCampaign} {date : Option Time} {doc : Vendor}
    (hdoc : (m.setSponsorship c date).vendor v = some doc) :
    (c.vendor = some v ∧ doc.isSponsored = date.isSome) ∨
      (c.vendor ≠ some v ∧ m.vendor v = some doc) := by
  rcases vendor_setSponsorship hdoc with ⟨hv, _, his⟩ | hother
  · exact Or.inl ⟨hv, his⟩
  · exact Or.inr hother

/-- **A running campaign is never left without a call that sponsors its vendor.** -/
theorem showDuty_kept : (showDuty now).Kept campaigns
    (fun s e => FailsSponsoring s e = true ∧ KeepsAdvertised now s e = true)
    vendorsExist.Holds where
  run s i r pc m' pc' hexist hborne hok hp hstep v hdue := by
    obtain ⟨hfails, hkeeps⟩ := hok
    have hs : campaignStep s.shared pc r = some (m', pc') := hstep
    obtain ⟨hrunning, doc, hdoc, hunsponsored⟩ := hdue
    by_cases hsp : pc.sponsoring = none
    · -- a call that does not write the flag
      have elsewhere : s.shared.running now v = true → s.shared.vendor v = some doc →
          (showDuty now).Elsewhere s i v := fun hrun hd =>
        hborne.elsewhere hp ⟨hrun, doc, hd, hunsponsored⟩ (not_sets hsp)
      rcases call_of_failsSponsoring hfails hp hsp hs with hcall | rfl
      · rw [vendor_of_call hcall hsp] at hdoc
        obtain ⟨id, c, hget, hv, hactive, hend⟩ := running_iff.mp hrunning
        rcases (campaign_move hcall).activates hget hactive with ⟨d, hd, hda⟩ | hnext
        · obtain ⟨c', hc', hk⟩ := exists_kept hs hd
          obtain rfl := Option.some.inj (hget.symm.trans hc')
          refine Or.inr (elsewhere (running_iff.mpr ⟨id, d, hd, ?_, hda, ?_⟩) hdoc)
          · exact hk.vendor.symm.trans hv
          · rwa [← hk.endDate]
        · exact Or.inl (sets_of_sponsoring hnext hv)
      · exact Or.inr (elsewhere hrunning hdoc)
    · cases pc with
      | setSponsorship campaign date next =>
        rw [setSponsorship_step hs] at hrunning hdoc
        right
        cases hw : r.db.wrote with
        | true =>
          rw [hw, if_pos rfl] at hrunning hdoc
          rw [Marketplace.running, campaigns_setSponsorship] at hrunning
          rcases sponsored_setSponsorship hdoc with ⟨hv, his⟩ | ⟨hv, hold⟩
          · cases date with
            | some date => cases his.symm.trans hunsponsored
            | none =>
              simp only [KeepsAdvertised, hp, hv, Option.all_some, hw, if_true] at hkeeps
              rw [Bool.or_eq_true, Bool.not_eq_true'] at hkeeps
              rcases hkeeps with hnot | hother
              · cases hnot.symm.trans hrunning
              · exact another_iff.mp hother
          · refine hborne.elsewhere hp ⟨hrunning, doc, hold, hunsponsored⟩ ?_
            cases date with
            | none => exact Bool.false_ne_true
            | some date => exact fun hsets => hv (of_decide_eq_true hsets)
        | false =>
          rw [hw, if_neg Bool.false_ne_true] at hrunning hdoc
          by_cases hsets : (CampaignPc.setSponsorship campaign date next).sets v = true
          · cases date with
            | none => cases hsets
            | some date =>
              have hv : campaign.vendor = some v := of_decide_eq_true hsets
              simp only [KeepsAdvertised, hp, hv, Option.all_some, hw, Bool.false_eq_true,
                if_false, sponsored_of_get hdoc, hunsponsored, hrunning, Bool.not_true,
                Bool.false_or] at hkeeps
              exact another_iff.mp hkeeps
          · exact hborne.elsewhere hp ⟨hrunning, doc, hdoc, hunsponsored⟩ hsets
      | _ => exact absurd rfl hsp
  env s e m' hexist _ he v hdue := by
    obtain ⟨hrunning, doc, hdoc, hunsponsored⟩ := hdue
    rw [Marketplace.running, campaigns_env he] at hrunning
    rcases vendor_env he hdoc with ⟨d, hd, his, _⟩ | ⟨hnone, _⟩
    · exact ⟨hrunning, d, hd, his.trans hunsponsored⟩
    · obtain ⟨id, c, hget, hv, _⟩ := running_iff.mp hrunning
      have hsome := hexist.shared id c v hget hv
      rw [hnone] at hsome
      cases hsome

/-- **The flag of a vendor without a live campaign is never left without a call that clears
it.** -/
theorem hideDuty_kept : hideDuty.Kept campaigns
    (fun s e => FailsSponsoring s e = true ∧ KeepsAdvertised now s e = true) fun _ => True where
  run s i r pc m' pc' _ hborne hok hp hstep v hdue := by
    obtain ⟨hfails, hkeeps⟩ := hok
    have hs : campaignStep s.shared pc r = some (m', pc') := hstep
    obtain ⟨hsponsored, hnone⟩ := hdue
    by_cases hsp : pc.sponsoring = none
    · have hnot : ¬ pc.clears v = true := by
        rw [not_clears hsp]
        exact Bool.false_ne_true
      rcases call_of_failsSponsoring hfails hp hsp hs with hcall | rfl
      · rw [Marketplace.sponsored, vendor_of_call hcall hsp] at hsponsored
        by_cases hlive : s.shared.hasLive v = true
        · -- the last live campaign of the vendor ends with this step
          obtain ⟨id, c, hget, hv, hcl⟩ := hasLive_iff.mp hlive
          obtain ⟨c', hget', hk⟩ := exists_kept hs hget
          have hv' : c'.vendor = some v := hk.vendor.trans hv
          have hended : c'.status ∉ AdCampaignStatus.live := by
            intro hl
            cases hnone.symm.trans (hasLive_iff.mpr ⟨id, c', hget', hv', hl⟩)
          rcases ended_of_call hcall hget hcl hget' hended with ⟨reason, loaded, rfl⟩ | hnext
          · right
            simp only [KeepsAdvertised, hp, hget, Option.all_some, hv] at hkeeps
            rw [Bool.or_eq_true, Bool.or_eq_true, Bool.not_eq_true'] at hkeeps
            rcases hkeeps with hun | hbeside | hother
            · cases hun.symm.trans hsponsored
            · obtain ⟨j, d, hj, hd, hdv, hdl⟩ := hasLiveBeside_iff.mp hbeside
              have hlive' : m'.hasLive v = true := by
                cases hcall
                exact hasLive_iff.mpr
                  ⟨j, d, (Collection.get_modify_ne hj.symm).trans hd, hdv, hdl⟩
              cases hnone.symm.trans hlive'
            · exact another_iff.mp hother
          · exact Or.inl (clears_of_sponsoring hnext hv')
        · exact Or.inr (hborne.elsewhere hp
            ⟨hsponsored, Bool.not_eq_true _ ▸ hlive⟩ hnot)
      · exact Or.inr (hborne.elsewhere hp ⟨hsponsored, hnone⟩ hnot)
    · cases pc with
      | setSponsorship campaign date next =>
        rw [setSponsorship_step hs] at hsponsored hnone
        right
        cases hw : r.db.wrote with
        | true =>
          rw [hw, if_pos rfl] at hsponsored hnone
          rw [Marketplace.hasLive, campaigns_setSponsorship] at hnone
          obtain ⟨doc, hdoc, hflag⟩ := (Option.any_eq_true _ _).mp hsponsored
          rcases sponsored_setSponsorship hdoc with ⟨hv, his⟩ | ⟨hv, hold⟩
          · cases date with
            | none => cases his.symm.trans hflag
            | some date =>
              simp only [KeepsAdvertised, hp, hv, Option.all_some, hw, if_true] at hkeeps
              rw [Bool.or_eq_true] at hkeeps
              rcases hkeeps with hlive | hother
              · cases hnone.symm.trans hlive
              · exact another_iff.mp hother
          · refine hborne.elsewhere hp ⟨(sponsored_of_get hold).trans hflag, hnone⟩ ?_
            cases date with
            | none => exact fun hclears => hv (of_decide_eq_true hclears)
            | some date => exact Bool.false_ne_true
        | false =>
          rw [hw, if_neg Bool.false_ne_true] at hsponsored hnone
          by_cases hclears : (CampaignPc.setSponsorship campaign date next).clears v = true
          · cases date with
            | some date => cases hclears
            | none =>
              have hv : campaign.vendor = some v := of_decide_eq_true hclears
              simp only [KeepsAdvertised, hp, hv, Option.all_some, hw, Bool.false_eq_true,
                if_false, hsponsored, hnone, Bool.not_true, Bool.false_or] at hkeeps
              exact another_iff.mp hkeeps
          · exact hborne.elsewhere hp ⟨hsponsored, hnone⟩ hclears
      | _ => exact absurd rfl hsp
  env s e m' _ _ he v hdue := by
    obtain ⟨hsponsored, hnone⟩ := hdue
    rw [Marketplace.hasLive, campaigns_env he] at hnone
    obtain ⟨doc, hdoc, hflag⟩ := (Option.any_eq_true _ _).mp hsponsored
    obtain ⟨d, hd, hdflag⟩ := (envCampaigns_sponsors he).2 v doc hdoc hflag
    exact ⟨(sponsored_of_get hd).trans hdflag, hnone⟩

theorem vendorsExist_initial : vendorsExist.Holds CampaignPool.initial := by
  refine Outline.holds_nil ?_
  intro id c v hget
  cases Collection.get_empty.symm.trans hget

theorem nothing_shown : (showDuty now).Borne CampaignPool.initial := by
  rintro v ⟨hrunning, _⟩
  obtain ⟨id, c, hget, _⟩ := running_iff.mp hrunning
  cases Collection.get_empty.symm.trans hget

theorem nothing_hidden : hideDuty.Borne CampaignPool.initial := by
  rintro v ⟨hsponsored, _⟩
  obtain ⟨doc, hdoc, _⟩ := (Option.any_eq_true _ _).mp hsponsored
  cases v <;> cases Collection.get_empty.symm.trans hdoc

/-- **A vendor whose campaign is running is sponsored, and one whose campaigns are all terminal is
not, whenever no call is in progress**, so also after a sweep, if every sponsorship write that is
needed gets through: for any number of calls on any campaigns, any interleaving of their steps,
and any of the sponsorship writes throwing. -/
theorem advertised_of_reach (now : Time) {s : CampaignPool}
    (h : campaigns.Reach (fun s e => FailsSponsoring s e = true ∧ KeepsAdvertised now s e = true)
      CampaignPool.initial s) (hquiet : Quiescent s) : s.shared.Advertised now where
  running v doc id c hdoc hget hv hactive hend := by
    have hexist : ∀ t, campaigns.Reach (fun s e => FailsSponsoring s e = true ∧
        KeepsAdvertised now s e = true) CampaignPool.initial t → vendorsExist.Holds t := fun t ht =>
      Outline.holds_of_reach vendorsExist_kept (fun _ _ => trivial) vendorsExist_initial
        (ht.mono fun _ _ _ => trivial)
    by_contra hun
    obtain ⟨pc, hpc, hsets⟩ := Duty.borne_of_reach showDuty_kept hexist nothing_shown h v
      ⟨running_iff.mpr ⟨id, c, hget, hv, hactive, hend⟩, doc, hdoc, Bool.not_eq_true _ ▸ hun⟩
    exact not_sets (sponsoring_of_isOver (hquiet pc hpc)) hsets
  terminal v doc hdoc hall := by
    by_contra hflag
    rw [Bool.not_eq_false] at hflag
    have hnone : s.shared.hasLive v = false := by
      rw [Bool.eq_false_iff]
      intro hlive
      obtain ⟨id, c, hget, hv, hs⟩ := hasLive_iff.mp hlive
      cases (AdCampaignStatus.mem_live_iff.mp hs).symm.trans (hall id c hget hv)
    obtain ⟨pc, hpc, hclears⟩ := Duty.borne_of_reach hideDuty_kept (fun _ _ => trivial)
      nothing_hidden h v ⟨(sponsored_of_get hdoc).trans hflag, hnone⟩
    exact not_clears_of_isOver (hquiet pc hpc) hclears

/-- A database call of this call throws before it has written anything. -/
def campaignFailure (i : Nat) : CampaignEvent := .run i ⟨.threw false "", 0, .error "", none⟩

/-- The look at the vendor throws, once the sponsorship is written; then a sweep. -/
def lookFailedRun : List CampaignEvent :=
  createdRun ++ .spawn (.markPaidManually 0 "admin@example.com") :: campaignTurns [1, 1, 1, 1] ++
    campaignFailure 1 :: .spawn .runLifecycleSweep :: campaignTurns [2, 2]

theorem advertised_after_failure : ∃ s : CampaignPool,
    campaigns.Reach (fun s e => FailsSponsoring s e = true ∧ KeepsAdvertised 0 s e = true)
      CampaignPool.initial s ∧ Quiescent s ∧ s.shared.sponsored (.restaurant 0) = true ∧
      s.shared.Advertised 0 := by
  obtain ⟨s, hs, hp⟩ := exists_campaignRun (fun s e => FailsSponsoring s e && KeepsAdvertised 0 s e)
    (fun s => s.procs.all CampaignPc.isOver && s.shared.sponsored (.restaurant 0))
    lookFailedRun (by decide +kernel)
  rw [Bool.and_eq_true, List.all_eq_true] at hp
  have hreach := hs.mono fun s e h => Bool.and_eq_true_iff.mp h
  exact ⟨s, hreach, hp.1, hp.2, advertised_of_reach 0 hreach hp.1⟩

/-- The sponsorship write throws once the campaign is active. -/
def writeFailedRun : List CampaignEvent :=
  createdRun ++ .spawn (.markPaidManually 0 "admin@example.com") :: campaignTurns [1, 1, 1] ++
    [campaignFailure 1]

/-- **A campaign stays live and its vendor unseen**: the next sweep runs without an error, and
does not come back to it. -/
theorem invisible_after_sweep :
    ¬ ∀ (s : CampaignPool) (t now t' : Time) (m' : Marketplace),
      campaigns.Reach (fun s e => FailsSponsoring s e = true) CampaignPool.initial s →
      Quiescent s → Swept t s.shared now t' m' → m'.Advertised now := by
  intro hall
  obtain ⟨s, hs, hp⟩ := exists_campaignRun FailsSponsoring
    (fun s => s.procs.all CampaignPc.isOver && (campaignStep s.shared .findDue
      ⟨.ok, 0, .error "", none⟩).any fun first =>
        (playAlone 0 first.1 first.2 [0]).any fun last =>
          last.2.2.isOver && ((last.2.1.vendor (.restaurant 0)).any (fun doc : Vendor =>
            !doc.isSponsored) && last.2.1.running 0 (.restaurant 0)))
    writeFailedRun (by decide +kernel)
  rw [Bool.and_eq_true, List.all_eq_true, Option.any_eq_true] at hp
  obtain ⟨hquiet, ⟨m₁, pc₁⟩, hfirst, hp⟩ := hp
  rw [Option.any_eq_true] at hp
  obtain ⟨⟨t', m', pc'⟩, hrest, hp⟩ := hp
  rw [Bool.and_eq_true, Bool.and_eq_true, Option.any_eq_true] at hp
  obtain ⟨hover, ⟨doc, hdoc, hun⟩, hrunning⟩ := hp
  obtain ⟨id, c, hget, hv, hactive, hend⟩ := running_iff.mp hrunning
  have hadvertised := hall s 0 0 t' m' hs hquiet
    ⟨_, m₁, pc₁, pc', Nat.le_refl 0, rfl, rfl, hfirst, alone_of_play .start hrest, hover⟩
  rw [hadvertised.running _ doc id c hdoc hget hv hactive hend] at hun
  cases hun

end Runs

end FoodDelivery
