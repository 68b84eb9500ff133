import FoodDelivery.Campaigns.Sponsorship
import FoodDelivery.Campaigns.Writes

/-!
# One live campaign for each vendor

`create` looks for a live campaign of the vendor and inserts in a second step.  The partial
unique indexes of the schema hold documents whose vendor is an `ObjectId`, and `create` writes
the id as a string, so they hold none of its documents and turn no insertion down.

* `duplicates_created`: the indexes never see a campaign that `create` inserts.
* `one_live_iff`: a vendor has one live campaign at most all along a run exactly when every
  insertion comes while the vendor still has none.
* `two_live_campaigns`: two calls of `create` side by side.
-/

namespace FoodDelivery

open Store Interleave OrdersService CampaignPc

namespace Marketplace

/-- The vendor has a campaign that awaits payment, is scheduled or is active. -/
def hasLive (m : Marketplace) (vendor : Seller) : Bool :=
  (m.campaigns.find fun _ c => c.vendor = some vendor && c.status ∈ AdCampaignStatus.live) ≠ []

/-- No vendor has two live campaigns. -/
def OneLive (m : Marketplace) : Prop :=
  ∀ vendor i j c d, m.campaigns.get i = some c → m.campaigns.get j = some d →
    c.vendor = some vendor → d.vendor = some vendor → c.status ∈ AdCampaignStatus.live →
    d.status ∈ AdCampaignStatus.live → i = j

end Marketplace

/-- A campaign is inserted while its vendor has no live one. -/
def InsertsFirst (s : CampaignPool) : CampaignEvent → Bool
  | .run i r =>
    match s.procs[i]? with
    | some (.createInsert _ _ vendor _) => !r.db.wrote || !s.shared.hasLive vendor
    | _ => true
  | _ => true

section Steps

variable {m m' : Marketplace} {pc pc' : CampaignPc} {r : CampaignReply} {v : Seller}
  {dto : CreateAdCampaignDto} {adminId : UserId} {currency : String} {s s' : CampaignPool}
  {e : CampaignEvent}

theorem hasLive_iff : m.hasLive v = true ↔ ∃ id c, m.campaigns.get id = some c ∧
    c.vendor = some v ∧ c.status ∈ AdCampaignStatus.live := by
  rw [Marketplace.hasLive, decide_eq_true_eq, Collection.find_ne_nil]
  simp only [Bool.and_eq_true, decide_eq_true_eq]

/-- **The unique indexes hold no campaign that `create` inserts.** -/
theorem duplicates_created (dto : CreateAdCampaignDto) (adminId : UserId) (vendor : Seller)
    (currency : String) (c : AdCampaign) :
    (AdCampaign.created dto adminId vendor currency).duplicates c = false := by
  cases vendor <;> rfl

/-- The insertion of `create` always goes through. -/
theorem createInsert_call : campaignCall m (.createInsert dto adminId v currency) r =
    some ({ m with campaigns := m.campaigns.create (.created dto adminId v currency) },
      .loadVendor (.created dto adminId v currency) .done) := by
  have hnone : (m.campaignIds (AdCampaign.created dto adminId v currency).duplicates).isEmpty =
      true := by
    rw [List.isEmpty_iff, Marketplace.campaignIds, List.map_eq_nil_iff, Collection.find,
      List.filter_eq_nil_iff]
    rintro ⟨id, c⟩ _
    rw [duplicates_created]
    exact Bool.false_ne_true
  simp only [campaignCall, hnone, if_true]

/-- A step that inserts nothing makes no campaign live. -/
theorem oneLive_of_step (h : m.OneLive) (hs : campaignStep m pc r = some (m', pc'))
    (hpc : ∀ dto adminId vendor currency, pc ≠ .createInsert dto adminId vendor currency) :
    m'.OneLive := by
  intro vendor i j c d hc hd hvc hvd hlc hld
  rcases origin_of_step hs hc with ⟨c₀, hc₀, hkc⟩ | ⟨_, _, _, _, hinsert, _⟩
  · rcases origin_of_step hs hd with ⟨d₀, hd₀, hkd⟩ | ⟨_, _, _, _, hinsert, _⟩
    · exact h vendor i j c₀ d₀ hc₀ hd₀ (hkc.vendor.symm.trans hvc) (hkd.vendor.symm.trans hvd)
        (hkc.live hlc) (hkd.live hld)
    · exact absurd hinsert (hpc _ _ _ _)
  · exact absurd hinsert (hpc _ _ _ _)

/-- An insertion for a vendor without a live campaign. -/
theorem oneLive_of_insert (h : m.OneLive) (hnone : m.hasLive v = false) :
    ({ m with campaigns := m.campaigns.create (.created dto adminId v currency) } :
      Marketplace).OneLive := by
  have absent : ∀ {vendor : Seller} {i : CampaignId} {c d : AdCampaign},
      m.campaigns.get i = some c → c.vendor = some vendor → d = .created dto adminId v currency →
      d.vendor = some vendor → c.status ∉ AdCampaignStatus.live := by
    rintro vendor i c d hc hvc rfl hvd hlive
    rw [AdCampaign.vendor_created] at hvd
    obtain rfl := Option.some.inj hvd
    cases hnone.symm.trans (hasLive_iff.mpr ⟨i, c, hc, hvc, hlive⟩)
  intro vendor i j c d hc hd hvc hvd hlc hld
  rcases Collection.get_create_cases hc with ⟨hi, hec⟩ | ⟨_, hc₀⟩
  · rcases Collection.get_create_cases hd with ⟨hj, _⟩ | ⟨_, hd₀⟩
    · exact hi.trans hj.symm
    · exact absurd hld (absent hd₀ hvd hec hvc)
  · rcases Collection.get_create_cases hd with ⟨_, hed⟩ | ⟨_, hd₀⟩
    · exact absurd hlc (absent hc₀ hvc hed hvd)
    · exact h vendor i j c d hc₀ hd₀ hvc hvd hlc hld

/-- An insertion for a vendor with a live campaign makes two. -/
theorem not_oneLive_of_insert (hlive : m.hasLive v = true) :
    ¬ ({ m with campaigns := m.campaigns.create (.created dto adminId v currency) } :
      Marketplace).OneLive := by
  intro h
  obtain ⟨id, c, hget, hv, hs⟩ := hasLive_iff.mp hlive
  have hid := h v id m.campaigns.nextId c _ (Collection.get_create_of_get hget)
    Collection.get_create_self hv (AdCampaign.vendor_created _ _ _ _) hs List.mem_cons_self
  exact absurd hid (Nat.ne_of_lt (Collection.lt_nextId_of_get hget))

/-- What the insertion leaves, written or not. -/
theorem createInsert_step
    (h : campaignStep m (.createInsert dto adminId v currency) r = some (m', pc')) :
    m' = if r.db.wrote then
      { m with campaigns := m.campaigns.create (.created dto adminId v currency) } else m := by
  rcases call_of_step h with ⟨hcall, hok | hask⟩ | ⟨_, _, written, _, o, hdb, hcall, hm⟩
  · rw [createInsert_call] at hcall
    cases hcall
    rw [hok]
    rfl
  · cases hask
  · rw [createInsert_call] at hcall
    cases hcall
    rw [hdb]
    exact hm

theorem oneLive_next (h : s.shared.OneLive) (he : InsertsFirst s e = true)
    (hnext : campaigns.next s e = some s') : s'.shared.OneLive := by
  cases e with
  | spawn k =>
    cases hnext
    exact h
  | env e =>
    obtain ⟨m', he, rfl⟩ := Machine.next_env hnext
    have hsame := (envCampaigns_sponsors he).1
    show m'.OneLive
    rwa [Marketplace.OneLive, hsame]
  | run i r =>
    obtain ⟨pc, m', pc', hp, hrun, rfl⟩ := Machine.next_run hnext
    have hstep : campaignStep s.shared pc r = some (m', pc') := hrun
    show m'.OneLive
    cases pc with
    | createInsert dto adminId vendor currency =>
      simp only [InsertsFirst, hp] at he
      rw [createInsert_step hstep]
      cases hw : r.db.wrote with
      | false => exact h
      | true =>
        rw [hw] at he
        exact oneLive_of_insert h (by simpa using he)
    | _ => exact oneLive_of_step h hstep (by rintro _ _ _ _ ⟨⟩)

theorem not_oneLive_next (he : ¬ InsertsFirst s e = true) (hnext : campaigns.next s e = some s') :
    ¬ s'.shared.OneLive := by
  cases e with
  | spawn k => exact absurd rfl he
  | env e => exact absurd rfl he
  | run i r =>
    obtain ⟨pc, m', pc', hp, hstep, rfl⟩ := Machine.next_run hnext
    cases pc with
    | createInsert dto adminId vendor currency =>
      simp only [InsertsFirst, hp, Bool.or_eq_true, Bool.not_eq_true', not_or,
        Bool.not_eq_false] at he
      show ¬ m'.OneLive
      rw [createInsert_step hstep, he.1]
      exact not_oneLive_of_insert he.2
    | _ =>
      rw [InsertsFirst, hp] at he
      exact absurd rfl he

end Steps

/-! ## Every run -/

section Runs

/-- **A vendor has at most one live campaign, exactly when every insertion comes while the
vendor has none**: for any number of calls, any interleaving of their steps, and any of them
throwing.  The unique indexes decide nothing. -/
theorem one_live_iff (es : List CampaignEvent) {s : CampaignPool}
    (hs : campaigns.exec CampaignPool.initial es = some s) :
    (∀ p t, p <+: es → campaigns.exec CampaignPool.initial p = some t → t.shared.OneLive) ↔
      ∀ p e t, p ++ [e] <+: es → campaigns.exec CampaignPool.initial p = some t →
        InsertsFirst t e = true := by
  refine Machine.exec_good_iff (I := fun s => s.shared.OneLive) (G := fun s => s.shared.OneLive)
    (C := fun s e => InsertsFirst s e = true) (fun _ h => h) (fun _ _ _ => oneLive_next)
    (fun _ _ _ _ => not_oneLive_next) es _ s ?_ hs
  intro vendor i j c d hc
  have hnone : (Collection.empty : Collection AdCampaign).get i = none := Collection.get_empty
  cases hnone.symm.trans hc

/-- A second campaign, once the first has been cancelled. -/
def renewedRun : List CampaignEvent :=
  createdRun ++ .spawn (.cancel 0 none) :: campaignTurns [1, 1, 1] ++
    .spawn (.create ⟨some 0, none, 0, 7, none, none⟩ 5) :: campaignTurns [2, 2, 2, 2]

theorem one_live_renewed : ∃ s : CampaignPool,
    campaigns.exec CampaignPool.initial renewedRun = some s ∧ s.shared.campaigns.nextId = 2 ∧
      s.shared.OneLive := by
  have hplay : (campaigns.play InsertsFirst CampaignPool.initial renewedRun).any
      (fun s => decide (s.shared.campaigns.nextId = 2)) = true := by decide +kernel
  obtain ⟨s, hs, hall, hp⟩ := Machine.exists_exec_of_play renewedRun hplay
  exact ⟨s, hs, of_decide_eq_true hp,
    (one_live_iff renewedRun hs).mpr hall renewedRun s List.prefix_rfl hs⟩

/-- Two admins create a campaign for the same restaurant: both look before either inserts. -/
def createdTwiceRun : List CampaignEvent :=
  [.env (.openRestaurant 1 "Grill" "NGN"),
    .spawn (.create ⟨some 0, none, 0, 7, none, none⟩ 5),
    .spawn (.create ⟨some 0, none, 0, 7, none, none⟩ 6)] ++ campaignTurns [0, 0, 1, 1, 0, 1]

/-- **Two live campaigns for one restaurant**: the index lets the second insertion through. -/
theorem two_live_campaigns :
    ¬ ∀ (es : List CampaignEvent) (s : CampaignPool),
      campaigns.exec CampaignPool.initial es = some s → s.shared.OneLive := by
  intro hall
  have hplay : (campaigns.play (fun _ _ => true) CampaignPool.initial createdTwiceRun).any
      (fun s => (s.shared.campaigns.get 0).any (fun c : AdCampaign =>
        c.vendor = some (.restaurant 0) && c.status = .pendingPayment) &&
        (s.shared.campaigns.get 1).any fun c : AdCampaign =>
          c.vendor = some (.restaurant 0) && c.status = .pendingPayment) = true := by
    decide +kernel
  obtain ⟨s, hs, _, hp⟩ := Machine.exists_exec_of_play createdTwiceRun hplay
  rw [Bool.and_eq_true, Option.any_eq_true, Option.any_eq_true] at hp
  obtain ⟨⟨c, hc, hcp⟩, ⟨d, hd, hdp⟩⟩ := hp
  rw [Bool.and_eq_true, decide_eq_true_eq, decide_eq_true_eq] at hcp hdp
  have hsame := hall createdTwiceRun s hs (.restaurant 0) 0 1 c d hc hd hcp.1 hdp.1
    (by rw [hcp.2]; decide) (by rw [hdp.2]; decide)
  cases hsame

end Runs

end FoodDelivery
