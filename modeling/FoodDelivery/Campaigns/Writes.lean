import FoodDelivery.Campaigns.Moves

/-!
# What the calls may do to a campaign

A campaign keeps its vendor and its dates for good, its references only grow, and its payment
status is settled once it has left `pending_payment`.  This holds of every awaited call, also of
one that throws.

* `write_of_step`: what a step does to the campaigns.
* `exists_kept`, `origin_of_step`: from a campaign before a step to the one after it, and back.
-/

namespace FoodDelivery

open Store Interleave OrdersService CampaignPc

/-- What no write changes of a campaign, and which way the rest goes. -/
structure AdCampaign.Kept (c c' : AdCampaign) : Prop where
  restaurantId : c'.restaurantId = c.restaurantId
  storeId : c'.storeId = c.storeId
  startDate : c'.startDate = c.startDate
  endDate : c'.endDate = c.endDate
  status : c'.status = c.status ∨ c.status.canTransition c'.status = true ∨ c'.status = .cancelled
  paymentRefs : c.paymentRefs <+: c'.paymentRefs
  payment : c.status ≠ .pendingPayment → c'.paymentStatus = c.paymentStatus
  succeeded : c'.paymentStatus = .succeeded → c'.status = .pendingPayment →
    c.paymentStatus = .succeeded

/-- What a step does to the campaigns: nothing, a write to one of them, or an insertion. -/
inductive CampaignsWrite (m : Marketplace) : CampaignPc → Collection AdCampaign → Prop
  | unchanged {pc : CampaignPc} : CampaignsWrite m pc m.campaigns
  | written {pc : CampaignPc} {id : CampaignId} {g : AdCampaign → AdCampaign}
    (hg : ∀ c, m.campaigns.get id = some c → c.Kept (g c)) :
    CampaignsWrite m pc (m.campaigns.modify id g)
  | inserted {dto : CreateAdCampaignDto} {adminId : UserId} {vendor : Seller} {currency : String} :
    CampaignsWrite m (.createInsert dto adminId vendor currency)
      (m.campaigns.create (.created dto adminId vendor currency))

section Writes

variable {m m' : Marketplace} {pc pc' : CampaignPc} {r : CampaignReply} {c c' d : AdCampaign}
  {id : CampaignId}

/-! ## The writes -/

namespace AdCampaign.Kept

@[simp] theorem vendor (h : c.Kept c') : c'.vendor = c.vendor := by
  rw [AdCampaign.vendor, AdCampaign.vendor, h.restaurantId, h.storeId]

theorem refl (c : AdCampaign) : c.Kept c where
  restaurantId := rfl
  storeId := rfl
  startDate := rfl
  endDate := rfl
  status := Or.inl rfl
  paymentRefs := List.prefix_rfl
  payment := fun _ => rfl
  succeeded := fun h _ => h

/-- A campaign that has been paid for or cancelled does not await payment again. -/
theorem status_ne (h : c.Kept c') (hs : c.status ≠ .pendingPayment) :
    c'.status ≠ .pendingPayment := by
  rcases h.status with he | he | he
  · rwa [he]
  · rw [AdCampaignStatus.canTransition_iff] at he
    rintro hp
    rw [hp] at he
    simp at he
  · rw [he]
    rintro ⟨⟩

/-- A campaign that is over stays over. -/
theorem live (h : c.Kept c') (hlive : c'.status ∈ AdCampaignStatus.live) :
    c.status ∈ AdCampaignStatus.live := by
  rcases h.status with he | he | he
  · rwa [he] at hlive
  · rw [AdCampaignStatus.canTransition_iff] at he
    rcases he with ⟨hs, _⟩ | ⟨hs, _⟩ | ⟨hs, _⟩ <;> rw [hs] <;> decide
  · rw [he] at hlive
    exact absurd hlive (by decide)

end AdCampaign.Kept

theorem kept_markPaid {nextStatus : AdCampaignStatus}
    (hnext : nextStatus = .active ∨ nextStatus = .scheduled) (h : c.markPaid nextStatus = some c') :
    c.Kept c' := by
  obtain ⟨hs, rfl⟩ := AdCampaign.markPaid_eq_some h
  refine ⟨rfl, rfl, rfl, rfl, Or.inr (Or.inl ?_), List.prefix_rfl, fun hne => absurd hs hne, ?_⟩
  · rw [hs]
    rcases hnext with rfl | rfl <;> rfl
  · intro _ hpending
    rcases hnext with rfl | rfl <;> cases hpending

theorem kept_markPaymentFailed (h : c.markPaymentFailed = some c') : c.Kept c' := by
  obtain ⟨hs, rfl⟩ := AdCampaign.markPaymentFailed_eq_some h
  exact ⟨rfl, rfl, rfl, rfl, Or.inl rfl, List.prefix_rfl, fun hne => absurd hs hne, by rintro ⟨⟩⟩

theorem kept_activate (h : c.activate = some c') : c.Kept c' := by
  obtain ⟨hs, rfl⟩ := AdCampaign.activate_eq_some h
  refine ⟨rfl, rfl, rfl, rfl, Or.inr (Or.inl ?_), List.prefix_rfl, fun _ => rfl, fun h _ => h⟩
  rw [hs]
  rfl

theorem kept_finish (h : c.finish = some c') : c.Kept c' := by
  obtain ⟨hs, rfl⟩ := AdCampaign.finish_eq_some h
  refine ⟨rfl, rfl, rfl, rfl, Or.inr (Or.inl ?_), List.prefix_rfl, fun _ => rfl, fun h _ => h⟩
  rw [hs]
  rfl

theorem kept_saveRef (c loaded : AdCampaign) (provider : PaymentProvider) (reference : String) :
    c.Kept (c.saveRef loaded provider reference) :=
  ⟨rfl, rfl, rfl, rfl, Or.inl rfl, List.prefix_append _ _, fun _ => rfl, fun h _ => h⟩

theorem kept_saveMarkedPaidManually (c loaded : AdCampaign) (email : String) :
    c.Kept (c.saveMarkedPaidManually loaded email) :=
  ⟨rfl, rfl, rfl, rfl, Or.inl rfl, List.prefix_rfl, fun _ => rfl, fun h _ => h⟩

theorem kept_saveCancelled (c loaded : AdCampaign) (reason : Option String) (now : Time) :
    c.Kept (c.saveCancelled loaded reason now) :=
  ⟨rfl, rfl, rfl, rfl, Or.inr (Or.inr rfl), List.prefix_rfl, fun _ => rfl, fun h _ => h⟩

/-! ## Every step -/

/-- A filtered update of one campaign. -/
theorem written_of_update {f : AdCampaign → Option AdCampaign}
    (hf : ∀ c c', f c = some c' → c.Kept c') (h : (m.campaigns.get id).bind f = some c') :
    CampaignsWrite m pc (m.campaigns.modify id fun _ => c') := by
  obtain ⟨d, hget, hd⟩ := Option.bind_eq_some_iff.mp h
  refine .written ?_
  intro c hc
  obtain rfl := Option.some.inj (hget.symm.trans hc)
  exact hf _ _ hd

/-- **What an awaited call does to the campaigns.** -/
theorem write_of_call (h : campaignCall m pc r = some (m', pc')) :
    CampaignsWrite m pc m'.campaigns := by
  cases pc with
  | createInsert dto adminId vendor currency =>
    simp only [campaignCall] at h
    split at h
    · cases h
      exact .inserted
    · cases h
      exact .unchanged
  | initiating id campaign provider =>
    simp only [campaignCall] at h
    split at h <;> cases h <;> exact .unchanged
  | saveRef id campaign provider reference =>
    cases h
    exact .written fun c _ => kept_saveRef c _ _ _
  | markPaid id campaign =>
    simp only [campaignCall] at h
    split at h
    · cases h
      exact .unchanged
    · rename_i updated hw
      cases h
      refine written_of_update ?_ hw
      intro c c' hc
      refine kept_markPaid ?_ hc
      split
      · exact Or.inl rfl
      · exact Or.inr rfl
  | markPaymentFailed id =>
    simp only [campaignCall] at h
    split at h
    · cases h
      exact .unchanged
    · rename_i updated hw
      cases h
      exact written_of_update (fun _ _ => kept_markPaymentFailed) hw
  | manualSave id email campaign =>
    cases h
    exact .written fun c _ => kept_saveMarkedPaidManually c _ _
  | cancelSave id reason campaign =>
    cases h
    exact .written fun c _ => kept_saveCancelled c _ _ _
  | activate now id rest =>
    simp only [campaignCall] at h
    split at h
    · cases h
      exact .unchanged
    · rename_i updated hw
      cases h
      exact written_of_update (fun _ _ => kept_activate) hw
  | finish id rest =>
    simp only [campaignCall] at h
    split at h
    · cases h
      exact .unchanged
    · rename_i updated hw
      cases h
      exact written_of_update (fun _ _ => kept_finish) hw
  | setSponsorship campaign sponsoredUntil next =>
    cases h
    rw [campaigns_setSponsorship]
    exact .unchanged
  | createVendor dto adminId vendor =>
    simp only [campaignCall] at h
    split at h <;> cases h <;> exact .unchanged
  | createCheck dto adminId vendor currency =>
    simp only [campaignCall] at h
    split at h <;> cases h <;> exact .unchanged
  | initiateRead id requester o =>
    simp only [campaignCall] at h
    split at h
    · cases h
      exact .unchanged
    · split at h <;> cases h <;> exact .unchanged
  | initiateOwner id requester o campaign =>
    cases h
    exact .unchanged
  | webhook provider request =>
    simp only [campaignCall] at h
    split at h <;> cases h <;> exact .unchanged
  | webhookFind provider event =>
    simp only [campaignCall] at h
    split at h <;> cases h <;> exact .unchanged
  | verifyRead id requester =>
    simp only [campaignCall] at h
    split at h
    · cases h
      exact .unchanged
    · split at h <;> cases h <;> exact .unchanged
  | verifyOwner id requester campaign =>
    cases h
    exact .unchanged
  | verifying id campaign provider =>
    simp only [campaignCall] at h
    split at h
    · cases h
      exact .unchanged
    · split at h <;> cases h <;> exact .unchanged
  | reread id failed =>
    simp only [campaignCall] at h
    split at h <;> cases h <;> exact .unchanged
  | manualRead id email =>
    simp only [campaignCall] at h
    split at h
    · cases h
      exact .unchanged
    · split at h <;> cases h <;> exact .unchanged
  | cancelRead id reason =>
    simp only [campaignCall] at h
    split at h <;> cases h <;> exact .unchanged
  | findDue =>
    cases h
    exact .unchanged
  | findOver now =>
    cases h
    exact .unchanged
  | loadVendor campaign next =>
    simp only [campaignCall] at h
    split at h <;> cases h <;> exact .unchanged
  | returned => cases h
  | rejected error => cases h
  | threw => cases h

/-- A step that throws leaves what the call would have left, or nothing. -/
theorem call_of_step (h : campaignStep m pc r = some (m', pc')) :
    (campaignCall m pc r = some (m', pc') ∧ (r.db = .ok ∨ pc.asksAdapter = true)) ∨
      (pc.asksAdapter = false ∧ pc' = pc.onFailure ∧ ∃ written message o,
        r.db = .threw written message ∧ campaignCall m pc r = some o ∧
          m' = if written then o.1 else m) := by
  rw [campaignStep] at h
  cases hask : pc.asksAdapter with
  | true =>
    rw [hask] at h
    exact Or.inl ⟨h, Or.inr rfl⟩
  | false =>
    rw [hask] at h
    cases hdb : r.db with
    | ok =>
      rw [hdb] at h
      exact Or.inl ⟨h, Or.inl rfl⟩
    | threw written message =>
      rw [hdb] at h
      obtain ⟨o, ho, he⟩ := Option.map_eq_some_iff.mp h
      obtain ⟨hm, hpc⟩ := Prod.mk.inj he
      exact Or.inr ⟨rfl, hpc.symm, written, message, o, rfl, ho, hm.symm⟩

/-- **What a step does to the campaigns.** -/
theorem write_of_step (h : campaignStep m pc r = some (m', pc')) :
    CampaignsWrite m pc m'.campaigns := by
  rcases call_of_step h with ⟨hcall, _⟩ | ⟨_, _, written, _, o, _, hcall, hm⟩
  · exact write_of_call hcall
  · rw [hm]
    cases written with
    | true => exact write_of_call hcall
    | false => exact .unchanged

/-- A campaign is still there after a step. -/
theorem exists_kept (h : campaignStep m pc r = some (m', pc'))
    (hget : m.campaigns.get id = some c) :
    ∃ c', m'.campaigns.get id = some c' ∧ c.Kept c' := by
  have hw := write_of_step h
  generalize m'.campaigns = campaigns at hw ⊢
  cases hw with
  | unchanged => exact ⟨c, hget, .refl c⟩
  | @written _ i g hg =>
    rw [Collection.get_modify]
    by_cases hi : i = id
    · subst hi
      exact ⟨g c, by rw [if_pos rfl, hget]; rfl, hg c hget⟩
    · exact ⟨c, by rw [if_neg hi, hget], .refl c⟩
  | inserted => exact ⟨c, Collection.get_create_of_get hget, .refl c⟩

/-- A campaign was there before a step, or the step inserted it. -/
theorem origin_of_step (h : campaignStep m pc r = some (m', pc'))
    (hget : m'.campaigns.get id = some c') :
    (∃ c, m.campaigns.get id = some c ∧ c.Kept c') ∨
      ∃ dto adminId vendor currency, pc = .createInsert dto adminId vendor currency ∧
        id = m.campaigns.nextId ∧ c' = .created dto adminId vendor currency := by
  have hw := write_of_step h
  generalize m'.campaigns = campaigns at hw hget
  cases hw with
  | unchanged => exact Or.inl ⟨c', hget, .refl c'⟩
  | written hg =>
    rcases Collection.get_modify_cases hget with ⟨rfl, d, hd, rfl⟩ | ⟨_, hd⟩
    · exact Or.inl ⟨d, hd, hg d hd⟩
    · exact Or.inl ⟨c', hd, .refl c'⟩
  | @inserted dto adminId vendor currency =>
    rcases Collection.get_create_cases hget with ⟨hid, rfl⟩ | ⟨_, hd⟩
    · exact Or.inr ⟨dto, adminId, vendor, currency, rfl, hid, rfl⟩
    · exact Or.inl ⟨c', hd, .refl c'⟩

end Writes

end FoodDelivery
