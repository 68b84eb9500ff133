import FoodDelivery.Payouts.ConnectMoves

/-!
# Whose Stripe account is paid

A payout goes to the Stripe account of a vendor once it is active.  Whatever requests and webhooks
are interleaved, it became active with an announcement of Stripe's about this very account, and it
was created at the request of this vendor's owner or of an admin, for no other vendor.

* `onboarded_next`: what each event keeps.
* `active_accounts_onboarded`: every run.
-/

namespace FoodDelivery

open Store Interleave

/-! ## What has been done -/

/-- The request is for this vendor, by its owner or an admin. -/
def PayoutSetup.Serves (p : PayoutSetup) (vendorType : PayoutVendorType) (id : VendorId)
    (owner : UserId) : Prop :=
  vendorType = p.vendorType ∧
    match p.holder with
    | .seller _ sellerId => id = sellerId ∧ (p.user.role = .admin ∨ owner = p.user.sub)
    | .rider => owner = p.user.sub

/-- Some request had the account created for this vendor, by its owner or an admin. -/
def Opened (procs : List ConnectPc) (vendorType : PayoutVendorType) (id : VendorId)
    (owner : UserId) (reference : String) : Prop :=
  ∃ p ∈ procs, ∃ request stage,
    p = .setup request (some reference) stage ∧ request.Serves vendorType id owner

/-- Stripe announced that the account may be paid. -/
def MayBePaid (procs : List ConnectPc) (reference : String) : Prop :=
  ∃ p ∈ procs, ∃ request stage notice, p = .webhook request stage ∧
    request.parse = some notice ∧ notice.accountId = reference ∧ notice.isActive = true

/-- A Stripe account was opened for the vendor, and is active because Stripe said so. -/
def AccountedFor (procs : List ConnectPc) (vendorType : PayoutVendorType) (id : VendorId)
    (owner : UserId) (account : PayoutAccount) : Prop :=
  ∃ reference, account.reference = some reference ∧ Opened procs vendorType id owner reference ∧
    (account.status = .active → MayBePaid procs reference)

/-- What a setup has made sure of. -/
structure SetupSound (holders : AccountHolders) (request : PayoutSetup) (created : Option String)
    (stage : SetupStage) : Prop where
  early : stage.early = true → created = none
  owned : stage.busy = true → request.Owned holders
  persist : ∀ call, stage = .persist call →
    call.update = (request.setPayoutAccount call.update.reference).update ∧
      (request.route = .stripe → created = some call.update.reference)

/-- What a webhook has made sure of. -/
structure WebhookSound (holders : AccountHolders) (procs : List ConnectPc)
    (request : AccountWebhook) (stage : WebhookStage) : Prop where
  notice : ∀ vendorType notice, stage = .findByReference vendorType notice →
    request.parse = some notice
  save : ∀ call, stage = .save call → ∃ id vendor, call.update.filter = .byId id ∧
    (holders call.update.vendorType).get id = some vendor ∧
    Opened procs call.update.vendorType id vendor.owner call.update.reference ∧
    (call.update.status = .active → MayBePaid procs call.update.reference)

def ConnectPc.Sound (holders : AccountHolders) (procs : List ConnectPc) : ConnectPc → Prop
  | .setup request created stage => SetupSound holders request created stage
  | .webhook request stage => WebhookSound holders procs request stage

/-- Every Stripe account is accounted for. -/
structure Onboarded (holders : AccountHolders) (procs : List ConnectPc) : Prop where
  accounts : ∀ vendorType id vendor account, (holders vendorType).get id = some vendor →
    account ∈ vendor.payoutAccounts → account.provider = .stripe →
    AccountedFor procs vendorType id vendor.owner account
  sound : ∀ p ∈ procs, p.Sound holders procs

/-- What has been done stays done. -/
structure DoneStays (holders holders' : AccountHolders) (procs procs' : List ConnectPc) :
    Prop where
  owners : KeepOwners holders holders'
  opened : ∀ vendorType id owner reference,
    Opened procs vendorType id owner reference → Opened procs' vendorType id owner reference
  paid : ∀ reference, MayBePaid procs reference → MayBePaid procs' reference

section Stays

variable {holders holders' : AccountHolders} {procs procs' : List ConnectPc}

theorem AccountedFor.mono {vendorType : PayoutVendorType} {id : VendorId} {owner : UserId}
    {account : PayoutAccount} (h : AccountedFor procs vendorType id owner account)
    (hstays : DoneStays holders holders' procs procs') :
    AccountedFor procs' vendorType id owner account := by
  obtain ⟨reference, hreference, hopened, hpaid⟩ := h
  exact ⟨reference, hreference, hstays.opened _ _ _ _ hopened,
    fun hactive => hstays.paid _ (hpaid hactive)⟩

theorem PayoutSetup.Owned.mono {request : PayoutSetup} (h : request.Owned holders)
    (hkeep : KeepOwners holders holders') : request.Owned holders' := by
  obtain ⟨route, holder, user⟩ := request
  cases holder with
  | rider => trivial
  | seller sellerType id =>
    obtain ⟨vendor, hget, hmay⟩ := h
    obtain ⟨vendor', hget', howner⟩ := hkeep _ _ _ hget
    exact ⟨vendor', hget', by rw [howner]; exact hmay⟩

theorem SetupSound.mono {request : PayoutSetup} {created : Option String} {stage : SetupStage}
    (h : SetupSound holders request created stage) (hkeep : KeepOwners holders holders') :
    SetupSound holders' request created stage :=
  ⟨h.early, fun hbusy => (h.owned hbusy).mono hkeep, h.persist⟩

theorem ConnectPc.Sound.mono {p : ConnectPc} (h : p.Sound holders procs)
    (hstays : DoneStays holders holders' procs procs') : p.Sound holders' procs' := by
  cases p with
  | setup request created stage => exact SetupSound.mono h hstays.owners
  | webhook request stage =>
    refine ⟨h.notice, ?_⟩
    intro call hcall
    obtain ⟨id, vendor, hfilter, hget, hopened, hpaid⟩ := h.save call hcall
    obtain ⟨vendor', hget', howner⟩ := hstays.owners _ _ _ hget
    refine ⟨id, vendor', hfilter, hget', ?_, fun hactive => hstays.paid _ (hpaid hactive)⟩
    rw [howner]
    exact hstays.opened _ _ _ _ hopened

/-- A request with the vendor's own filter serves the vendor. -/
theorem serves_of_owned {request : PayoutSetup} (h : request.Owned holders) {id : VendorId}
    {vendor : AccountHolder} {reference : String}
    (hget : (holders request.vendorType).get id = some vendor)
    (haccepts : (request.setPayoutAccount reference).update.filter.accepts id vendor = true) :
    request.Serves request.vendorType id vendor.owner := by
  obtain ⟨route, holder, user⟩ := request
  refine ⟨rfl, ?_⟩
  cases holder with
  | rider => simpa [PayoutSetup.setPayoutAccount, RidersService.setPayoutAccount,
      RidersService.applyPayoutAccountUpdate, VendorFilter.accepts] using haccepts
  | seller sellerType sellerId =>
    have hid : id = sellerId := by
      cases sellerType <;> simpa [PayoutSetup.setPayoutAccount, RestaurantsService.setPayoutAccount,
        RestaurantsService.applyPayoutAccountUpdate, StoresService.setPayoutAccount,
        StoresService.applyPayoutAccountUpdate, VendorFilter.accepts] using haccepts
    obtain ⟨found, hfound, hmay⟩ := h
    subst hid
    rw [hget, Option.some.injEq] at hfound
    exact ⟨rfl, hfound ▸ hmay⟩

theorem update_setPayoutAccount {request : PayoutSetup} {reference : String} :
    (request.setPayoutAccount reference).update.vendorType = request.vendorType ∧
      (request.setPayoutAccount reference).update.provider = request.route.provider ∧
      (request.setPayoutAccount reference).update.status = request.route.status ∧
      (request.setPayoutAccount reference).update.reference = reference := by
  obtain ⟨route, holder, user⟩ := request
  cases holder with
  | rider => exact ⟨rfl, rfl, rfl, rfl⟩
  | seller sellerType id => cases sellerType <;> exact ⟨rfl, rfl, rfl, rfl⟩

theorem update_fromWebhook {vendorType : PayoutVendorType} {id : VendorId}
    {status : PayoutAccountStatus} {reference : String} :
    (AccountWebhook.setPayoutAccountFromWebhook vendorType id status reference).update =
      ⟨vendorType, .byId id, .stripe, status, reference, none⟩ := by
  cases vendorType <;> rfl

theorem route_of_provider {route : SetupRoute} (h : route.provider = .stripe) :
    route = .stripe := by
  cases route <;> simp_all [SetupRoute.provider]

/-- The vendor that a webhook finds has the account. -/
theorem get_of_findByReference {vendorType : PayoutVendorType} {accountId : String} {id : VendorId}
    {vendor : AccountHolder}
    (h : AccountWebhook.findByReference holders vendorType accountId = some (id, vendor)) :
    (holders vendorType).get id = some vendor ∧ ∃ account ∈ vendor.payoutAccounts,
      account.provider = .stripe ∧ account.reference = some accountId := by
  obtain ⟨hget, hany⟩ := Collection.mem_find.mp (List.mem_of_mem_head? h)
  obtain ⟨account, hmem, hof⟩ := List.any_eq_true.mp hany
  simp only [Bool.and_eq_true, decide_eq_true_eq] at hof
  exact ⟨hget, account, hmem, hof⟩

end Stays

/-! ## What each event keeps -/

section Steps

variable {s s' : ConnectWorld} {procs : List ConnectPc} {i : Nat} {p p' : ConnectPc}

theorem keepOwners_refl (holders : AccountHolders) : KeepOwners holders holders :=
  fun _ _ vendor hget => ⟨vendor, hget, rfl⟩

/-- A call undoes nothing. -/
theorem done_stays (hp : procs[i]? = some p) (h : ConnectMove s p s' p')
    (hsound : p.Sound s.holders procs) :
    DoneStays s.holders s'.holders procs (procs.set i p') := by
  refine ⟨?_, ?_, ?_⟩
  · cases h with
    | persisted hstep => exact keepOwners_step hstep
    | saved hstep => exact keepOwners_step hstep
    | _ => exact keepOwners_refl _
  · intro vendorType id owner reference hopened
    refine exists_mem_set hp ?_ hopened
    rintro ⟨request, stage, rfl, hserves⟩
    cases h with
    | created _ _ =>
      -- nothing was created for the request before
      have hnone := hsound.early rfl
      cases hnone
    | goesOn _ _ _ => exact ⟨request, _, rfl, hserves⟩
    | banked _ => exact ⟨request, _, rfl, hserves⟩
    | persisted _ => exact ⟨request, _, rfl, hserves⟩
  · intro reference hpaid
    refine exists_mem_set hp ?_ hpaid
    rintro ⟨request, stage, notice, rfl, hparse⟩
    cases h with
    | ignored _ _ => exact ⟨request, _, notice, rfl, hparse⟩
    | found _ => exact ⟨request, _, notice, rfl, hparse⟩
    | saved _ => exact ⟨request, _, notice, rfl, hparse⟩

theorem afterPersist_eq {request : PayoutSetup} {call call' : PayoutAccountPc}
    (h : request.afterPersist call = .persist call') : call' = call := by
  simp only [PayoutSetup.afterPersist] at h
  split at h
  · split at h <;> cases h
  · cases h
  · cases h
    rfl

theorem afterPersist_early {request : PayoutSetup} {call : PayoutAccountPc} :
    (request.afterPersist call).early = false := by
  simp only [PayoutSetup.afterPersist]
  split
  · split <;> rfl
  · rfl
  · rfl

theorem afterSave_eq {call call' : PayoutAccountPc}
    (h : AccountWebhook.afterSave call = .save call') : call' = call := by
  simp only [AccountWebhook.afterSave] at h
  split at h
  · cases h
  · cases h
  · cases h
    rfl

theorem afterSave_ne {call : PayoutAccountPc} {vendorType : PayoutVendorType}
    {notice : AccountNotice} :
    AccountWebhook.afterSave call ≠ .findByReference vendorType notice := by
  simp only [AccountWebhook.afterSave]
  split <;> simp

/-- An account that a request is to save is the vendor's. -/
theorem sound_afterCreate {request : PayoutSetup} {created : Option String} {reference : String}
    (howned : request.Owned s.holders)
    (hstripe : request.route = .stripe → created = some reference) :
    SetupSound s.holders request created (request.afterCreate reference) := by
  refine ⟨?_, fun _ => howned, ?_⟩
  · intro hearly
    cases hearly
  · intro call hcall
    cases hcall
    rw [update_setPayoutAccount.2.2.2]
    exact ⟨rfl, hstripe⟩

/-- **What a request has made sure of by its next call.** -/
theorem sound_moved (hp : procs[i]? = some p) (h : ConnectMove s p s' p')
    (hon : Onboarded s.holders procs) : p'.Sound s'.holders (procs.set i p') := by
  have hsound := hon.sound p (List.mem_of_getElem? hp)
  have hstays := done_stays hp h hsound
  have hi : i < procs.length := (List.getElem?_eq_some_iff.mp hp).1
  cases h with
  | goesOn hearly hbusy hquiet =>
    refine ⟨fun h => hsound.early (hearly h), ?_, ?_⟩
    · intro h
      rcases hbusy h with hwas | howned
      · exact hsound.owned hwas
      · exact howned
    · intro call hcall
      exact absurd hcall (hquiet call)
  | created _ _ => exact sound_afterCreate (s := s) (hsound.owned rfl) fun _ => rfl
  | banked hroute =>
    exact sound_afterCreate (hsound.owned rfl) fun hstripe => absurd hstripe hroute
  | @persisted request created call call' holders reply hstep =>
    refine ⟨?_, fun _ => (hsound.owned rfl).mono hstays.owners, ?_⟩
    · simp [afterPersist_early]
    · intro next hnext
      rw [afterPersist_eq hnext, update_run hstep]
      exact hsound.persist call rfl
  | ignored hquiet hsame =>
    refine ⟨?_, fun call hcall => absurd hcall (hquiet call)⟩
    intro vendorType' notice' hstage
    rw [hsame _ _ hstage]
    exact hsound.notice _ _ rfl
  | @found request vendorType notice id vendor hfind =>
    refine ⟨by simp, ?_⟩
    intro call hcall
    cases hcall
    obtain ⟨hget, account, hmem, hprovider, hreference⟩ := get_of_findByReference hfind
    obtain ⟨reference, hsame, hopened, _⟩ := hon.accounts _ _ _ _ hget hmem hprovider
    rw [hreference, Option.some.injEq] at hsame
    subst hsame
    rw [update_fromWebhook]
    refine ⟨id, vendor, rfl, hget, hstays.opened _ _ _ _ hopened, ?_⟩
    intro hactive
    refine ⟨_, List.mem_set hi _, request, _, notice, rfl, hsound.notice _ _ rfl, rfl, ?_⟩
    by_contra hnot
    simp [hnot] at hactive
  | @saved request call call' holders reply hstep =>
    refine ⟨fun vendorType notice hstage => absurd hstage afterSave_ne, ?_⟩
    intro next hnext
    rw [afterSave_eq hnext, update_run hstep]
    obtain ⟨id, vendor, hfilter, hget, hopened, hpaid⟩ := hsound.save call rfl
    obtain ⟨vendor', hget', howner⟩ := hstays.owners _ _ _ hget
    refine ⟨id, vendor', hfilter, hget', ?_, fun hactive => hstays.paid _ (hpaid hactive)⟩
    rw [howner]
    exact hstays.opened _ _ _ _ hopened

/-- What is written to a Stripe account is what its vendor's request had created, or what Stripe
announced. -/
theorem written_account (hp : procs[i]? = some p) (h : ConnectMove s p s' p')
    (hon : Onboarded s.holders procs) {vendorType : PayoutVendorType} {id : VendorId}
    {vendor : AccountHolder} {account : PayoutAccount} {call : PayoutAccountPc}
    (hcall : (∃ request created, p = .setup request created (.persist call)) ∨
      ∃ request, p = .webhook request (.save call))
    (hget : (s.holders vendorType).get id = some vendor)
    (hwrites : call.update.Writes vendorType id vendor account)
    (hstripe : account.provider = .stripe) :
    AccountedFor (procs.set i p') vendorType id vendor.owner account := by
  have hsound := hon.sound p (List.mem_of_getElem? hp)
  have hstays := done_stays hp h hsound
  obtain ⟨htype, haccepts, hprovider, hstatus, hreference⟩ := hwrites
  refine ⟨call.update.reference, hreference, ?_⟩
  rcases hcall with ⟨request, created, rfl⟩ | ⟨request, rfl⟩
  · obtain ⟨hupdate, hcreated⟩ := hsound.persist call rfl
    obtain ⟨htypeOf, hproviderOf, hstatusOf, _⟩ :=
      @update_setPayoutAccount request call.update.reference
    have hroute : request.route = .stripe := by
      apply route_of_provider
      rw [← hproviderOf, ← hupdate, ← hprovider, hstripe]
    have htype' : vendorType = request.vendorType := by rw [htype, hupdate, htypeOf]
    subst htype'
    refine ⟨hstays.opened _ _ _ _ ?_, ?_⟩
    · refine ⟨_, List.mem_of_getElem? hp, request, .persist call, ?_, ?_⟩
      · rw [hcreated hroute]
      · apply serves_of_owned (hsound.owned rfl) hget
        rw [← hupdate]
        exact haccepts
    · intro hactive
      rw [hstatus, hupdate, hstatusOf, hroute] at hactive
      cases hactive
  · obtain ⟨foundId, found, hfilter, hfound, hopened, hpaid⟩ := hsound.save call rfl
    have hid : id = foundId := by simpa [hfilter, VendorFilter.accepts] using haccepts
    subst hid
    rw [← htype, hget, Option.some.injEq] at hfound
    subst hfound
    rw [← htype] at hopened
    refine ⟨hstays.opened _ _ _ _ hopened, ?_⟩
    intro hactive
    exact hstays.paid _ (hpaid (hstatus ▸ hactive))

/-- **Every Stripe account stays accounted for.** -/
theorem accounts_stay (hp : procs[i]? = some p) (h : ConnectMove s p s' p')
    (hon : Onboarded s.holders procs) {vendorType : PayoutVendorType} {id : VendorId}
    {vendor : AccountHolder} {account : PayoutAccount}
    (hget : (s'.holders vendorType).get id = some vendor) (hmem : account ∈ vendor.payoutAccounts)
    (hstripe : account.provider = .stripe) :
    AccountedFor (procs.set i p') vendorType id vendor.owner account := by
  have hstays := done_stays hp h (hon.sound p (List.mem_of_getElem? hp))
  have hold : ∀ old, (s.holders vendorType).get id = some old → old.owner = vendor.owner →
      account ∈ old.payoutAccounts →
      AccountedFor (procs.set i p') vendorType id vendor.owner account := by
    intro old hwas howner hthere
    rw [← howner]
    exact (hon.accounts _ _ _ _ hwas hthere hstripe).mono hstays
  cases h with
  | persisted hstep =>
    obtain ⟨old, hwas, howner, haccounts⟩ := holders_step hstep hget
    rcases haccounts account hmem with hthere | hwrites
    · exact hold old hwas howner hthere
    · rw [← howner]
      exact written_account hp (.persisted hstep) hon (Or.inl ⟨_, _, rfl⟩) hwas hwrites hstripe
  | saved hstep =>
    obtain ⟨old, hwas, howner, haccounts⟩ := holders_step hstep hget
    rcases haccounts account hmem with hthere | hwrites
    · exact hold old hwas howner hthere
    · rw [← howner]
      exact written_account hp (.saved hstep) hon (Or.inr ⟨_, rfl⟩) hwas hwrites hstripe
  | _ => exact hold vendor hget rfl hmem

/-- One call keeps every account accounted for. -/
theorem Onboarded.run (hp : procs[i]? = some p) (h : ConnectMove s p s' p')
    (hon : Onboarded s.holders procs) : Onboarded s'.holders (procs.set i p') := by
  refine ⟨fun vendorType id vendor account => accounts_stay hp h hon, ?_⟩
  intro q hq
  obtain ⟨j, hj⟩ := List.mem_iff_getElem?.mp hq
  by_cases hij : i = j
  · subst hij
    have hi : i < procs.length := (List.getElem?_eq_some_iff.mp hp).1
    rw [List.getElem?_set_self hi, Option.some.injEq] at hj
    exact hj ▸ sound_moved hp h hon
  · rw [List.getElem?_set_ne hij] at hj
    exact (hon.sound q (List.mem_of_getElem? hj)).mono
      (done_stays hp h (hon.sound p (List.mem_of_getElem? hp)))

theorem request_sound (request : ConnectRequest) : request.start.Sound s.holders procs := by
  cases request with
  | setup request =>
    refine ⟨fun _ => rfl, ?_, ?_⟩
    · split
      · intro hbusy
        cases hbusy
      · intro hbusy
        cases hbusy
    · split
      · intro call hcall
        cases hcall
      · intro call hcall
        cases hcall
  | accountWebhook request =>
    refine ⟨?_, ?_⟩
    · intro vendorType notice hstage
      cases hparse : request.parse with
      | none => simp [hparse] at hstage
      | some found =>
        simp only [hparse, WebhookStage.findByReference.injEq] at hstage
        rw [hstage.2]
    · intro call hcall
      split at hcall <;> cases hcall

theorem Onboarded.spawn (hon : Onboarded s.holders procs) (request : ConnectRequest) :
    Onboarded s.holders (procs ++ [request.start]) := by
  have hstays : DoneStays s.holders s.holders procs (procs ++ [request.start]) := by
    refine ⟨keepOwners_refl _, ?_, ?_⟩
    · rintro vendorType id owner reference ⟨q, hq, hdone⟩
      exact ⟨q, List.mem_append_left _ hq, hdone⟩
    · rintro reference ⟨q, hq, hdone⟩
      exact ⟨q, List.mem_append_left _ hq, hdone⟩
  refine ⟨?_, ?_⟩
  · intro vendorType id vendor account hget hmem hstripe
    exact (hon.accounts _ _ _ _ hget hmem hstripe).mono hstays
  · intro q hq
    rcases List.mem_append.mp hq with hold | hnew
    · exact (hon.sound q hold).mono hstays
    · rw [List.mem_singleton.mp hnew]
      exact request_sound request

theorem Onboarded.created {holders : AccountHolders} (hon : Onboarded holders procs)
    {e : VendorCreated} :
    Onboarded (Function.update holders e.vendorType
      ((holders e.vendorType).create ⟨e.owner, []⟩)) procs := by
  refine ⟨?_, ?_⟩
  · intro vendorType id vendor account hget hmem hstripe
    rcases get_created hget with hold | ⟨_, _, rfl⟩
    · exact hon.accounts _ _ _ _ hold hmem hstripe
    · cases hmem
  · intro q hq
    exact (hon.sound q hq).mono ⟨keepOwners_created, fun _ _ _ _ h => h, fun _ h => h⟩

end Steps

/-! ## Runs -/

section Runs

variable {s s' : Pool ConnectWorld ConnectPc}

/-- What each event keeps. -/
theorem onboarded_next {e : Event ConnectRequest ConnectReply ConnectEnv}
    (hon : Onboarded s.shared.holders s.procs) (h : connects.next s e = some s') :
    Onboarded s'.shared.holders s'.procs := by
  cases e with
  | spawn request =>
    cases h
    exact hon.spawn request
  | run i reply =>
    obtain ⟨p, w, p', hp, hstep, rfl⟩ := Machine.next_run h
    exact hon.run hp (connect_move hstep)
  | env e =>
    obtain ⟨w, hw, rfl⟩ := Machine.next_env h
    cases e with
    | user email =>
      cases hw
      exact hon
    | vendor e =>
      obtain ⟨holders, henv, rfl⟩ := Option.map_eq_some_iff.mp hw
      obtain ⟨_, rfl⟩ := holders_env henv
      exact hon.created

theorem onboarded_of_reach (h : connects.Reach (fun _ _ => True) noConnects s) :
    Onboarded s.shared.holders s.procs := by
  refine Machine.Reach.invariant (I := fun s => Onboarded s.shared.holders s.procs) ?_ ?_ h
  · refine ⟨?_, by simp [noConnects]⟩
    intro vendorType id vendor account hget
    simp [noConnects] at hget
  · intro s e s' _ hon _ hnext
    exact onboarded_next hon hnext

/-- An account is created for one request only. -/
theorem created_move {s s' : ConnectWorld} {p p' : ConnectPc} (h : ConnectMove s p s' p') :
    (p'.created? = p.created? ∧ s'.accounts = s.accounts) ∨ ∃ accountId, accountId ∉ s.accounts ∧
      p'.created? = some accountId ∧ s'.accounts = accountId :: s.accounts := by
  cases h with
  | created _ hfresh => exact Or.inr ⟨_, hfresh, rfl, rfl⟩
  | _ => exact Or.inl ⟨rfl, rfl⟩

/-- Stripe knows the accounts that it has created, and created no two of them under one id. -/
def createdApart : Outline ConnectWorld ConnectPc where
  shared _ := True
  proc s p := ∀ accountId, p.created? = some accountId → accountId ∈ s.accounts
  compat p q := ∀ accountId, p.created? = some accountId → q.created? ≠ some accountId
  symm _ _ h accountId hq hp := h accountId hp hq

theorem createdApart_kept : createdApart.Kept connects (fun _ _ => True) fun _ => True where
  spawn := by
    intro s request _ _ _
    have hnone : (connects.start s.shared request).created? = none := by
      cases request <;> rfl
    constructor
    · intro accountId h
      rw [hnone] at h
      cases h
    · intro q _ accountId h
      rw [hnone] at h
      cases h
  run := by
    intro s i reply p w p' _ _ hs hp hstep
    have hknown := hs.at hp
    refine ⟨trivial, ?_⟩
    rcases created_move (connect_move hstep) with
      ⟨hsame, haccounts⟩ | ⟨new, hfresh, hnew, haccounts⟩
    · refine ⟨?_, ?_⟩
      · intro accountId h
        rw [haccounts]
        exact hknown accountId (hsame ▸ h)
      · intro j q _ _ hq hapart
        refine ⟨?_, ?_⟩
        · intro accountId h
          rw [haccounts]
          exact hq accountId h
        · intro accountId h
          exact hapart accountId (hsame ▸ h)
    · refine ⟨?_, ?_⟩
      · intro accountId h
        rw [hnew, Option.some.injEq] at h
        simp [haccounts, h]
      · intro j q _ _ hq _
        refine ⟨?_, ?_⟩
        · intro accountId h
          rw [haccounts]
          exact List.mem_cons_of_mem new (hq accountId h)
        · intro accountId h hother
          rw [hnew, Option.some.injEq] at h
          exact hfresh (hq new (h ▸ hother))
  env := by
    intro s e w _ _ hs henv
    refine ⟨trivial, ?_⟩
    intro q hq accountId h
    have haccounts : w.accounts = s.shared.accounts := by
      cases e with
      | user email =>
        cases henv
        rfl
      | vendor e =>
        obtain ⟨holders, _, rfl⟩ := Option.map_eq_some_iff.mp henv
        rfl
    rw [haccounts]
    exact hs.procs q hq accountId h

/-- No user is two riders. -/
def OneRiderEach (holders : AccountHolders) : Prop :=
  ∀ id id' rider rider', (holders .rider).get id = some rider →
    (holders .rider).get id' = some rider' → rider.owner = rider'.owner → id = id'

theorem free_of_ownerTaken {holders : AccountHolders} {e : VendorCreated}
    (h : ownerTaken holders e = false) (hrider : .rider = e.vendorType) {id : VendorId}
    {rider : AccountHolder} (hget : (holders .rider).get id = some rider) :
    rider.owner ≠ e.owner := by
  intro howner
  have hmem : (id, rider) ∈ (holders .rider).find fun _ vendor => vendor.owner = e.owner :=
    Collection.mem_find.mpr ⟨hget, decide_eq_true howner⟩
  simp only [ownerTaken, ← hrider, decide_true, Bool.true_and, decide_eq_false_iff_not,
    not_not] at h
  rw [h] at hmem
  cases hmem

theorem OneRiderEach.created {holders : AccountHolders} (hone : OneRiderEach holders)
    {e : VendorCreated} (hfree : ownerTaken holders e = false) :
    OneRiderEach (Function.update holders e.vendorType
      ((holders e.vendorType).create ⟨e.owner, []⟩)) := by
  intro id id' rider rider' hget hget' howner
  rcases get_created hget with hold | ⟨htype, hid, rfl⟩
  · rcases get_created hget' with hold' | ⟨htype, _, rfl⟩
    · exact hone id id' rider rider' hold hold' howner
    · exact absurd howner (free_of_ownerTaken hfree htype hold)
  · rcases get_created hget' with hold' | ⟨_, hid', _⟩
    · exact absurd howner.symm (free_of_ownerTaken hfree htype hold')
    · exact hid.trans hid'.symm

theorem oneRiderEach_of_reach (h : connects.Reach (fun _ _ => True) noConnects s) :
    OneRiderEach s.shared.holders := by
  refine Machine.Reach.invariant (I := fun s => OneRiderEach s.shared.holders) ?_ ?_ h
  · intro id id' rider rider' hget
    simp [noConnects] at hget
  · intro s e s' _ hone _ hnext
    cases e with
    | spawn request =>
      cases hnext
      exact hone
    | run i reply =>
      obtain ⟨p, w, p', _, hstep, rfl⟩ := Machine.next_run hnext
      intro id id' rider rider' hget hget' howner
      obtain ⟨was, hwas, hsame⟩ := owner_before (connect_move hstep) hget
      obtain ⟨was', hwas', hsame'⟩ := owner_before (connect_move hstep) hget'
      exact hone id id' was was' hwas hwas' (hsame.trans (howner.trans hsame'.symm))
    | env e =>
      obtain ⟨w, hw, rfl⟩ := Machine.next_env hnext
      cases e with
      | user email =>
        cases hw
        exact hone
      | vendor e =>
        obtain ⟨holders, henv, rfl⟩ := Option.map_eq_some_iff.mp hw
        obtain ⟨hfree, rfl⟩ := holders_env henv
        exact hone.created hfree

/-- An account is created for one vendor only. -/
theorem opened_once (h : connects.Reach (fun _ _ => True) noConnects s)
    {vendorType vendorType' : PayoutVendorType} {id id' : VendorId}
    {vendor vendor' : AccountHolder} {reference : String}
    (hget : (s.shared.holders vendorType).get id = some vendor)
    (hget' : (s.shared.holders vendorType').get id' = some vendor')
    (hopened : Opened s.procs vendorType id vendor.owner reference)
    (hopened' : Opened s.procs vendorType' id' vendor'.owner reference) :
    vendorType' = vendorType ∧ id' = id := by
  have hapart := (Outline.holds_of_reach createdApart_kept (fun _ _ => trivial)
    (Outline.holds_nil trivial) h).compat
  obtain ⟨p, hp, request, stage, rfl, htype, hserves⟩ := hopened
  obtain ⟨p', hp', request', stage', rfl, htype', hserves'⟩ := hopened'
  obtain ⟨i, hi⟩ := List.mem_iff_getElem?.mp hp
  obtain ⟨j, hj⟩ := List.mem_iff_getElem?.mp hp'
  have hij : i = j := by
    by_contra hne
    exact hapart i j _ _ hne hi hj reference rfl rfl
  subst hij
  rw [hi, Option.some.injEq] at hj
  cases hj
  refine ⟨htype'.trans htype.symm, ?_⟩
  obtain ⟨route, holder, user⟩ := request
  cases holder with
  | seller sellerType sellerId => exact hserves'.1.trans hserves.1.symm
  | rider =>
    subst htype
    subst htype'
    exact oneRiderEach_of_reach h _ _ _ _ hget' hget (hserves'.trans hserves.symm)

/-- **An active Stripe account is its vendor's own.**  In every run, Stripe announced that this very
account may be paid, it was created at the request of the vendor's owner or of an admin, and no
other vendor has it. -/
theorem active_accounts_onboarded (h : connects.Reach (fun _ _ => True) noConnects s)
    {vendorType : PayoutVendorType} {id : VendorId} {vendor : AccountHolder}
    {account : PayoutAccount} (hget : (s.shared.holders vendorType).get id = some vendor)
    (hmem : account ∈ vendor.payoutAccounts) (hstripe : account.provider = .stripe)
    (hactive : account.status = .active) :
    ∃ reference, account.reference = some reference ∧
      Opened s.procs vendorType id vendor.owner reference ∧ MayBePaid s.procs reference ∧
      ∀ vendorType' id' vendor' account',
        (s.shared.holders vendorType').get id' = some vendor' →
        account' ∈ vendor'.payoutAccounts → account'.provider = .stripe →
        account'.reference = some reference → vendorType' = vendorType ∧ id' = id := by
  have hon := onboarded_of_reach h
  obtain ⟨reference, hreference, hopened, hpaid⟩ := hon.accounts _ _ _ _ hget hmem hstripe
  refine ⟨reference, hreference, hopened, hpaid hactive, ?_⟩
  intro vendorType' id' vendor' account' hget' hmem' hstripe' hsame
  obtain ⟨reference', hreference', hopened', _⟩ := hon.accounts _ _ _ _ hget' hmem' hstripe'
  rw [hsame, Option.some.injEq] at hreference'
  subst hreference'
  exact opened_once h hget hget' hopened hopened'

/-- A restaurant connects its account, and Stripe announces it before the link is given. -/
def kitchenConnects : List (Event ConnectRequest ConnectReply ConnectEnv) :=
  [.env (.user "kitchen"), .env (.vendor ⟨.restaurant, 0⟩),
    .spawn (.setup ⟨.stripe, .seller .restaurant 0, ⟨0, .restaurantOwner⟩⟩), .run 0 (.db .ok),
    .run 0 (.db .ok), .run 0 (.provider (.ok "acct_1")), .run 0 (.db .ok), .run 0 (.db .ok),
    .run 0 (.db .ok),
    .spawn (.accountWebhook ⟨some "t=1", some ⟨"account.updated", "acct_1", some true, some true⟩⟩),
    .run 1 (.db .ok), .run 1 (.db .ok), .run 1 (.db .ok), .run 0 (.provider (.ok "link"))]

theorem active_accounts_onboarded_kitchen : ∃ s vendor account,
    connects.Reach (fun _ _ => True) noConnects s ∧
      (s.shared.holders .restaurant).get 0 = some vendor ∧ account ∈ vendor.payoutAccounts ∧
      account.provider = .stripe ∧ account.status = .active ∧
      ∃ reference, account.reference = some reference ∧
        Opened s.procs .restaurant 0 vendor.owner reference := by
  have hrun : (connects.play (fun _ _ => true) noConnects kitchenConnects).any (fun s =>
      ((s.shared.holders .restaurant).get 0).any fun vendor => vendor.payoutAccounts.any
        fun account => account.provider = .stripe && account.status = .active) = true := by
    decide +kernel
  obtain ⟨s, h, hvendor⟩ := Machine.exists_reach_of_play (fun _ _ _ => trivial) _ hrun
  rw [Option.any_eq_true] at hvendor
  obtain ⟨vendor, hget, haccount⟩ := hvendor
  obtain ⟨account, hmem, hof⟩ := List.any_eq_true.mp haccount
  simp only [Bool.and_eq_true, decide_eq_true_eq] at hof
  obtain ⟨reference, hreference, hopened, _⟩ :=
    active_accounts_onboarded h hget hmem hof.1 hof.2
  exact ⟨s, vendor, account, h, hget, hmem, hof.1, hof.2, reference, hreference, hopened⟩

end Runs

end FoodDelivery
