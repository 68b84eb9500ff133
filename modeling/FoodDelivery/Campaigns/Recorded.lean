import FoodDelivery.Campaigns.Advertised

/-!
# A campaign's payment

A success for a session of a campaign reaches `markPaid` through the webhook of the provider
that issued it, or through `verifyPayment`.  The webhook compares the route with the provider of
the latest attempt only, and `markPaid` writes nothing to a campaign that has been cancelled.

* `payment_recorded`: when both checks let the success through, the campaign's `paymentStatus`
  is `succeeded` once the call is over, and stays so.
* `paid_after_cancel`, `paid_before_switch`: two payments that are lost.
-/

namespace FoodDelivery

open Store Interleave OrdersService CampaignPc

namespace Marketplace

/-- The payment of the campaign has been recorded. -/
def recorded (m : Marketplace) (id : CampaignId) : Bool :=
  (m.campaigns.get id).any (·.paymentStatus = .succeeded)

/-- A campaign whose payment has been recorded does not await it. -/
def Settled (m : Marketplace) : Prop :=
  ∀ id c, m.campaigns.get id = some c → c.paymentStatus = .succeeded →
    c.status ≠ .pendingPayment

end Marketplace

/-! ## What is claimed -/

/-- The step of a call that learns that a session of a campaign was paid: a webhook on the route
of the session's provider, or `verifyPayment`. -/
inductive Confirms (m : Marketplace) (session : CampaignSession) : CampaignPc → CampaignReply → Prop
  | webhook {request : WebhookRequest} {charge : Charge} {r : CampaignReply}
    (hissued : session ∈ m.issued)
    (h : session.provider.handleWebhook request = .event ⟨some session.reference, true⟩ charge) :
    Confirms m session (.webhook session.provider request) r
  | verify {campaign : AdCampaign} {response : VerifyResponse} {charge : Charge}
    {r : CampaignReply} (hissued : session ∈ m.issued)
    (href : campaign.paymentRef = some session.reference) (hr : r.verified = some response)
    (h : session.provider.verify response = some charge) :
    Confirms m session (.verifying session.campaignId campaign session.provider) r

/-- The look-up of the `i`-th call finds the campaign with this provider as that of its latest
attempt, and its update finds the campaign awaiting payment, unless the payment has been
recorded; neither is lost to a database error. -/
def KeepsPayment (session : CampaignSession) (i : Nat) (s : CampaignPool) : CampaignEvent → Bool
  | .run j r =>
    j ≠ i || (s.shared.recorded session.campaignId || match s.procs[i]? with
      | some (.webhookFind _ _) => r.db = .ok &&
        (s.shared.findByPaymentRef (some session.reference)).any fun found =>
          found.1 = session.campaignId && found.2.paymentProvider = some session.provider
      | some (.markPaid _ _) => r.db.wrote &&
        (s.shared.campaigns.get session.campaignId).any (·.status = .pendingPayment)
      | _ => true)
  | _ => true

/-- The `i`-th call has still to record the payment, or it has been recorded. -/
def Recording (session : CampaignSession) (i : Nat) (s : CampaignPool) : Prop :=
  s.shared.recorded session.campaignId = true ∨
    s.procs[i]? = some (.webhookFind session.provider ⟨some session.reference, true⟩) ∨
    ∃ campaign, s.procs[i]? = some (.markPaid session.campaignId campaign)

section Steps

variable {m m' : Marketplace} {pc pc' : CampaignPc} {r : CampaignReply} {id : CampaignId}
  {session : CampaignSession} {i : Nat} {s s' : CampaignPool} {e : CampaignEvent}

theorem recorded_iff : m.recorded id = true ↔
    ∃ c, m.campaigns.get id = some c ∧ c.paymentStatus = .succeeded := by
  rw [Marketplace.recorded, Option.any_eq_true]
  simp only [decide_eq_true_eq]

/-! ## A payment that is recorded stays recorded -/

theorem settled_of_step (h : m.Settled) (hs : campaignStep m pc r = some (m', pc')) :
    m'.Settled := by
  intro id c' hget hsucceeded
  rcases origin_of_step hs hget with ⟨c, hc, hk⟩ | ⟨_, _, _, _, _, _, rfl⟩
  · by_cases hpending : c.status = .pendingPayment
    · intro hp
      exact h id c hc (hk.succeeded hsucceeded hp) hpending
    · exact hk.status_ne hpending
  · cases hsucceeded

theorem recorded_of_step (h : m.Settled) (hr : m.recorded id = true)
    (hs : campaignStep m pc r = some (m', pc')) : m'.recorded id = true := by
  obtain ⟨c, hget, hsucceeded⟩ := recorded_iff.mp hr
  obtain ⟨c', hget', hk⟩ := exists_kept hs hget
  exact recorded_iff.mpr ⟨c', hget', (hk.payment (h id c hget hsucceeded)).trans hsucceeded⟩

theorem settled_next (h : s.shared.Settled) (hnext : campaigns.next s e = some s') :
    s'.shared.Settled := by
  cases e with
  | spawn k =>
    cases hnext
    exact h
  | run i r =>
    obtain ⟨pc, m', pc', _, hrun, rfl⟩ := Machine.next_run hnext
    exact settled_of_step h hrun
  | env e =>
    obtain ⟨m', he, rfl⟩ := Machine.next_env hnext
    show m'.Settled
    rwa [Marketplace.Settled, campaigns_env he]

theorem settled_of_reach {ok : CampaignPool → CampaignEvent → Prop}
    (h : campaigns.Reach ok CampaignPool.initial s) : s.shared.Settled := by
  refine Machine.Reach.invariant ?_ (fun _ _ _ _ hs _ hnext => settled_next hs hnext) h
  intro id c hget
  cases Collection.get_empty.symm.trans hget

/-! ## A call that records one -/

/-- The look-up of the webhook. -/
theorem recording_webhookFind (hp : s.procs[i]? = some
      (.webhookFind session.provider ⟨some session.reference, true⟩))
    (hnot : s.shared.recorded session.campaignId = false)
    (hk : KeepsPayment session i s (.run i r) = true)
    (hs : campaignStep s.shared (.webhookFind session.provider ⟨some session.reference, true⟩) r =
      some (m', pc')) : ∃ campaign, pc' = .markPaid session.campaignId campaign := by
  simp only [KeepsPayment, hp, hnot, ne_eq, not_true_eq_false, decide_false, Bool.false_or] at hk
  rw [Bool.and_eq_true, decide_eq_true_eq, Option.any_eq_true] at hk
  obtain ⟨hdb, ⟨id, c⟩, hfound, hc⟩ := hk
  rw [Bool.and_eq_true, decide_eq_true_eq, decide_eq_true_eq] at hc
  obtain ⟨rfl, hprovider⟩ := hc
  have hcall := call_of_ok hs hdb
  simp only [campaignCall, hfound, afterWebhookFind, ne_eq, if_true] at hcall
  cases hcall
  exact ⟨c, if_neg (not_not.mpr hprovider)⟩

/-- The update of `markPaid`. -/
theorem recorded_markPaid {campaign : AdCampaign}
    (hp : s.procs[i]? = some (.markPaid session.campaignId campaign))
    (hnot : s.shared.recorded session.campaignId = false)
    (hk : KeepsPayment session i s (.run i r) = true)
    (hs : campaignStep s.shared (.markPaid session.campaignId campaign) r = some (m', pc')) :
    m'.recorded session.campaignId = true := by
  simp only [KeepsPayment, hp, hnot, ne_eq, not_true_eq_false, decide_false, Bool.false_or] at hk
  rw [Bool.and_eq_true, Option.any_eq_true] at hk
  obtain ⟨hwrote, c, hget, hpending⟩ := hk
  have hcall : ∀ o, campaignCall s.shared (.markPaid session.campaignId campaign) r = some o →
      o.1.recorded session.campaignId = true := by
    intro o ho
    simp only [campaignCall, hget, Option.bind_some, AdCampaign.markPaid,
      of_decide_eq_true hpending, if_true] at ho
    cases ho
    exact recorded_iff.mpr ⟨_, get_modifyCampaign hget, rfl⟩
  rcases call_of_step hs with ⟨hc, _⟩ | ⟨_, _, written, _, o, hdb, hc, hm⟩
  · exact hcall _ hc
  · rw [hdb] at hwrote
    obtain rfl : written = true := hwrote
    rw [hm, if_pos rfl]
    exact hcall o hc

theorem recording_of_confirms (hc : Confirms s.shared session pc r) (hp : s.procs[i]? = some pc)
    (hnext : campaigns.next s (.run i r) = some s') : Recording session i s' := by
  obtain ⟨pc₀, m', pc', hp₀, hrun, rfl⟩ := Machine.next_run hnext
  obtain rfl := Option.some.inj (hp.symm.trans hp₀)
  have hs : campaignStep s.shared pc r = some (m', pc') := hrun
  have hi : i < s.procs.length := (List.getElem?_eq_some_iff.mp hp).1
  right
  cases hc with
  | @webhook request charge _ hissued h =>
    left
    have hcall : campaignCall s.shared (.webhook session.provider request) r = some (m', pc') := hs
    simp only [campaignCall, h] at hcall
    cases hcall
    exact List.getElem?_set_self hi
  | @verify campaign response charge _ hissued href hr h =>
    right
    have hcall : campaignCall s.shared
        (.verifying session.campaignId campaign session.provider) r = some (m', pc') := hs
    simp only [campaignCall, hr, h] at hcall
    cases hcall
    exact ⟨campaign, List.getElem?_set_self hi⟩

/-- **The success is on its way to the campaign, or recorded.** -/
theorem recording_next (hset : s.shared.Settled) (h : Recording session i s)
    (hk : KeepsPayment session i s e = true) (hnext : campaigns.next s e = some s') :
    Recording session i s' := by
  by_cases hr : s.shared.recorded session.campaignId = true
  · left
    cases e with
    | spawn k =>
      cases hnext
      exact hr
    | run j r =>
      obtain ⟨pc, m', pc', _, hrun, rfl⟩ := Machine.next_run hnext
      exact recorded_of_step hset hr hrun
    | env e =>
      obtain ⟨m', he, rfl⟩ := Machine.next_env hnext
      show m'.recorded _ = true
      rwa [Marketplace.recorded, campaigns_env he]
  · have hpc := h.resolve_left hr
    rw [Bool.not_eq_true] at hr
    cases e with
    | spawn k =>
      cases hnext
      right
      rcases hpc with hp | ⟨campaign, hp⟩
      · left
        exact List.getElem?_append_left (List.getElem?_eq_some_iff.mp hp).1 |>.trans hp
      · right
        exact ⟨campaign,
          List.getElem?_append_left (List.getElem?_eq_some_iff.mp hp).1 |>.trans hp⟩
    | run j r =>
      obtain ⟨pc, m', pc', hj, hrun, rfl⟩ := Machine.next_run hnext
      have hs : campaignStep s.shared pc r = some (m', pc') := hrun
      by_cases hij : j = i
      · subst hij
        have hlt : j < s.procs.length := (List.getElem?_eq_some_iff.mp hj).1
        rcases hpc with hp | ⟨campaign, hp⟩
        · obtain rfl := Option.some.inj (hj.symm.trans hp)
          obtain ⟨campaign, rfl⟩ := recording_webhookFind hp hr hk hs
          exact Or.inr (Or.inr ⟨campaign, List.getElem?_set_self hlt⟩)
        · obtain rfl := Option.some.inj (hj.symm.trans hp)
          exact Or.inl (recorded_markPaid hp hr hk hs)
      · right
        show (s.procs.set j pc')[i]? = _ ∨ ∃ campaign, (s.procs.set j pc')[i]? = _
        rw [List.getElem?_set_ne hij]
        exact hpc
    | env e =>
      obtain ⟨m', he, rfl⟩ := Machine.next_env hnext
      exact Or.inr hpc

end Steps

/-! ## Every run -/

section Runs

variable {s₁ s₂ s₃ : CampaignPool} {session : CampaignSession} {i : Nat} {r : CampaignReply}
  {pc pc' : CampaignPc}

/-- **A success for a session of a campaign is recorded once the call that brings it is over, and
for good**, if the look-up and the update of that call let it through: for any number of calls
on any campaigns, any interleaving of their steps, and any of them throwing. -/
theorem payment_recorded (h₁ : campaigns.Reach (fun _ _ => True) CampaignPool.initial s₁)
    (hp : s₁.procs[i]? = some pc) (hc : Confirms s₁.shared session pc r)
    (h₂ : campaigns.next s₁ (.run i r) = some s₂)
    (h₃ : campaigns.Reach (fun s e => KeepsPayment session i s e = true) s₂ s₃)
    (hp' : s₃.procs[i]? = some pc') (hover : pc'.isOver = true) :
    s₃.shared.recorded session.campaignId = true := by
  have hset₂ := settled_next (settled_of_reach h₁) h₂
  have hboth : s₃.shared.Settled ∧ Recording session i s₃ := by
    refine Machine.Reach.invariant (I := fun s => s.shared.Settled ∧ Recording session i s)
      ⟨hset₂, recording_of_confirms hc hp h₂⟩ ?_ h₃
    intro s e s' _ hs hk hnext
    exact ⟨settled_next hs.1 hnext, recording_next hs.1 hs.2 hk hnext⟩
  rcases hboth.2 with hrecorded | hfind | ⟨campaign, hmark⟩
  · exact hrecorded
  · obtain rfl := Option.some.inj (hp'.symm.trans hfind)
    cases hover
  · obtain rfl := Option.some.inj (hp'.symm.trans hmark)
    cases hover

/-- The restaurant's owner starts a checkout, and the adapter answers with this reference. -/
def checkoutRun (i : Nat) (providerOverride : Option PaymentProvider) (reference : String) :
    List CampaignEvent :=
  .spawn (.initiateCampaignPayment 0 ⟨1, .restaurantOwner⟩ providerOverride) ::
    campaignTurns [i, i] ++ .run i ⟨.ok, 0, .ok reference, none⟩ :: campaignTurns [i]

/-- A signed webhook of Paystack about a charge that was paid. -/
def paystackPaid (reference : String) : WebhookRequest :=
  ⟨true, some ⟨some "charge.success", some ⟨some reference, some "success", 3500000, "NGN"⟩⟩⟩

/-- A second checkout with the same provider, and the success of the first one. -/
def retriedCheckoutRun : List CampaignEvent :=
  createdRun ++ checkoutRun 1 none "ps_1" ++ checkoutRun 2 none "ps_2" ++
    [.spawn (.handleWebhook .paystack (paystackPaid "ps_1"))]

/-- The session of the first checkout. -/
def firstSession : CampaignSession := ⟨0, .paystack, "ps_1", 3500000, "NGN"⟩

theorem confirms_paystackPaid {m : Marketplace} (h : firstSession ∈ m.issued) (r : CampaignReply) :
    Confirms m firstSession (.webhook .paystack (paystackPaid "ps_1")) r := by
  have hevent : firstSession.provider.handleWebhook (paystackPaid "ps_1") =
      .event ⟨some firstSession.reference, true⟩ _ := rfl
  exact .webhook h hevent

/-- A run up to a webhook, the webhook's first step, and the run after it. -/
theorem exists_confirmedRun (i : Nat) (es₁ es₂ : List CampaignEvent) (P : CampaignPool → Bool)
    (okb : CampaignPool → CampaignEvent → Bool)
    (h : ((campaigns.play (fun _ _ => true) CampaignPool.initial es₁).any fun s₁ =>
      decide (s₁.procs[i]? = some (.webhook .paystack (paystackPaid "ps_1"))) &&
        (decide (firstSession ∈ s₁.shared.issued) &&
          (campaigns.next s₁ (.run i ⟨.ok, 0, .error "", none⟩)).any fun s₂ =>
            (campaigns.play okb s₂ es₂).any fun s₃ =>
              (s₃.procs[i]?).any CampaignPc.isOver && P s₃)) = true) :
    ∃ s₁ s₂ s₃ pc', campaigns.Reach (fun _ _ => True) CampaignPool.initial s₁ ∧
      s₁.procs[i]? = some (.webhook .paystack (paystackPaid "ps_1")) ∧
      Confirms s₁.shared firstSession (.webhook .paystack (paystackPaid "ps_1"))
        ⟨.ok, 0, .error "", none⟩ ∧
      campaigns.next s₁ (.run i ⟨.ok, 0, .error "", none⟩) = some s₂ ∧
      campaigns.Reach (fun s e => okb s e = true) s₂ s₃ ∧
      s₃.procs[i]? = some pc' ∧ pc'.isOver = true ∧ P s₃ = true := by
  rw [Option.any_eq_true] at h
  obtain ⟨s₁, h₁, h⟩ := h
  rw [Bool.and_eq_true, Bool.and_eq_true, decide_eq_true_eq, decide_eq_true_eq,
    Option.any_eq_true] at h
  obtain ⟨hp, hissued, s₂, h₂, h⟩ := h
  rw [Option.any_eq_true] at h
  obtain ⟨s₃, h₃, h⟩ := h
  rw [Bool.and_eq_true, Option.any_eq_true] at h
  obtain ⟨⟨pc', hp', hover⟩, hP⟩ := h
  exact ⟨s₁, s₂, s₃, pc', Machine.reach_of_play (fun _ _ _ => trivial) h₁, hp,
    confirms_paystackPaid hissued _, h₂, Machine.reach_of_play (fun _ _ he => he) h₃, hp', hover,
    hP⟩

theorem payment_recorded_retried : ∃ (s₁ s₂ s₃ : CampaignPool) (pc' : CampaignPc),
    Confirms s₁.shared firstSession (.webhook .paystack (paystackPaid "ps_1"))
        ⟨.ok, 0, .error "", none⟩ ∧
      campaigns.next s₁ (.run 3 ⟨.ok, 0, .error "", none⟩) = some s₂ ∧
      s₃.procs[3]? = some pc' ∧ pc'.isOver = true ∧
      s₃.shared.recorded firstSession.campaignId = true := by
  obtain ⟨s₁, s₂, s₃, pc', h₁, hp, hc, h₂, h₃, hp', hover, _⟩ := exists_confirmedRun 3
    retriedCheckoutRun (campaignTurns [3, 3, 3, 3]) (fun _ => true) (KeepsPayment firstSession 3)
    (by decide +kernel)
  exact ⟨s₁, s₂, s₃, pc', hc, h₂, hp', hover, payment_recorded h₁ hp hc h₂ h₃ hp' hover⟩

/-- A second checkout with another provider, and the success of the first one. -/
def switchedCheckoutRun : List CampaignEvent :=
  createdRun ++ checkoutRun 1 none "ps_1" ++ checkoutRun 2 (some .flutterwave) "tx_2" ++
    [.spawn (.handleWebhook .paystack (paystackPaid "ps_1"))]

/-- **A payment made before the vendor switched the provider is lost.** -/
theorem paid_before_switch :
    ¬ ∀ (s₁ s₂ s₃ : CampaignPool) (session : CampaignSession) (i : Nat) (r : CampaignReply)
      (pc pc' : CampaignPc), campaigns.Reach (fun _ _ => True) CampaignPool.initial s₁ →
      s₁.procs[i]? = some pc → Confirms s₁.shared session pc r →
      campaigns.next s₁ (.run i r) = some s₂ →
      campaigns.Reach (fun _ e => NoStepFails e = true) s₂ s₃ →
      s₃.procs[i]? = some pc' → pc'.isOver = true →
      s₃.shared.recorded session.campaignId = true := by
  intro hall
  obtain ⟨s₁, s₂, s₃, pc', h₁, hp, hc, h₂, h₃, hp', hover, hnot⟩ := exists_confirmedRun 3
    switchedCheckoutRun (campaignTurns [3]) (fun s => !s.shared.recorded firstSession.campaignId)
    (fun _ e => NoStepFails e) (by decide +kernel)
  rw [hall s₁ s₂ s₃ firstSession 3 _ _ pc' h₁ hp hc h₂ h₃ hp' hover] at hnot
  cases hnot

/-- The success of a checkout whose campaign an admin has cancelled meanwhile. -/
def cancelledCheckoutRun : List CampaignEvent :=
  createdRun ++ checkoutRun 1 none "ps_1" ++ .spawn (.cancel 0 none) :: campaignTurns [2, 2, 2] ++
    [.spawn (.handleWebhook .paystack (paystackPaid "ps_1"))]

/-- **So is one that arrives after an admin cancelled the campaign.** -/
theorem paid_after_cancel : ∃ (s₁ s₂ s₃ : CampaignPool) (pc' : CampaignPc),
    campaigns.Reach (fun _ _ => True) CampaignPool.initial s₁ ∧
      Confirms s₁.shared firstSession (.webhook .paystack (paystackPaid "ps_1"))
        ⟨.ok, 0, .error "", none⟩ ∧
      campaigns.next s₁ (.run 3 ⟨.ok, 0, .error "", none⟩) = some s₂ ∧
      campaigns.Reach (fun _ e => NoStepFails e = true) s₂ s₃ ∧ s₃.procs[3]? = some pc' ∧
      pc'.isOver = true ∧ s₃.shared.recorded firstSession.campaignId = false := by
  obtain ⟨s₁, s₂, s₃, pc', h₁, _, hc, h₂, h₃, hp', hover, hnot⟩ := exists_confirmedRun 3
    cancelledCheckoutRun (campaignTurns [3, 3, 3])
    (fun s => !s.shared.recorded firstSession.campaignId) (fun _ e => NoStepFails e)
    (by decide +kernel)
  exact ⟨s₁, s₂, s₃, pc', h₁, hc, h₂, h₃, hp', hover, Bool.not_eq_true' _ ▸ hnot⟩

end Runs

end FoodDelivery
