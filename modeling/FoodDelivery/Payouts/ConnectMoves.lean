import FoodDelivery.Payouts.Connect

/-!
# What one call of a payout request can do

* `holders_step`: what one write does to the accounts.
* `connect_move`: all that one awaited call can do.
-/

namespace FoodDelivery

open Store Interleave

/-! ## One write -/

section Writes

variable {s s' : AccountHolders} {call call' : PayoutAccountPc} {reply : DbReply}

/-- An entry that is there after a write was there before, or is what the call was given. -/
theorem PayoutAccountUpdate.Puts.mem {u : PayoutAccountUpdate} {l l' : List PayoutAccount}
    (h : u.Puts l l') {account : PayoutAccount} (hmem : account ∈ l') :
    account ∈ l ∨ (account.provider = u.provider ∧ account.status = u.status ∧
      account.reference = some u.reference) := by
  cases h with
  | set _ =>
    rcases Keyed.mem_alter hmem with hold | ⟨b, _, hkey, rfl⟩
    · exact Or.inl hold
    · exact Or.inr ⟨hkey, rfl, rfl⟩
  | pushed _ =>
    rcases List.mem_append.mp hmem with hold | hnew
    · exact Or.inl hold
    · rw [List.mem_singleton.mp hnew]
      exact Or.inr ⟨rfl, rfl, rfl⟩

/-- What the call writes, to this vendor. -/
def PayoutAccountUpdate.Writes (u : PayoutAccountUpdate) (vendorType : PayoutVendorType)
    (id : VendorId) (vendor : AccountHolder) (account : PayoutAccount) : Prop :=
  vendorType = u.vendorType ∧ u.filter.accepts id vendor = true ∧
    account.provider = u.provider ∧ account.status = u.status ∧
      account.reference = some u.reference

/-- **What one write does to the accounts.** -/
theorem holders_step (h : payoutAccountStep s call reply = some (s', call'))
    {vendorType : PayoutVendorType} {id : VendorId} {vendor' : AccountHolder}
    (hget : (s' vendorType).get id = some vendor') :
    ∃ vendor, (s vendorType).get id = some vendor ∧ vendor.owner = vendor'.owner ∧
      ∀ account ∈ vendor'.payoutAccounts, account ∈ vendor.payoutAccounts ∨
        call.update.Writes vendorType id vendor account := by
  cases payout_account_move h with
  | idle _ => exact ⟨vendor', hget, rfl, fun account hmem => Or.inl hmem⟩
  | wrote hwas haccepts hputs _ =>
    rcases get_update_cases hwas hget with ⟨rfl, rfl, rfl⟩ | hold
    · refine ⟨_, hwas, rfl, ?_⟩
      intro account hmem
      rcases hputs.mem hmem with hold | ⟨hprovider, hstatus, hreference⟩
      · exact Or.inl hold
      · exact Or.inr ⟨rfl, haccepts, hprovider, hstatus, hreference⟩
    · exact ⟨vendor', hold, rfl, fun account hmem => Or.inl hmem⟩

/-- Every vendor is still there, and its owner's. -/
def KeepOwners (s s' : AccountHolders) : Prop :=
  ∀ vendorType id vendor, (s vendorType).get id = some vendor →
    ∃ vendor', (s' vendorType).get id = some vendor' ∧ vendor'.owner = vendor.owner

theorem keepOwners_step (h : payoutAccountStep s call reply = some (s', call')) :
    KeepOwners s s' := by
  intro vendorType id vendor hget
  cases payout_account_move h with
  | idle _ => exact ⟨vendor, hget, rfl⟩
  | @wrote i written l stage hwas _ _ _ =>
    by_cases htype : vendorType = call.update.vendorType
    · subst htype
      rw [Function.update_self, Collection.get_modify]
      by_cases hid : i = id
      · subst hid
        rw [hwas, Option.some.injEq] at hget
        rw [if_pos rfl, hwas]
        exact ⟨_, rfl, hget ▸ rfl⟩
      · rw [if_neg hid]
        exact ⟨vendor, hget, rfl⟩
    · rw [Function.update_of_ne htype]
      exact ⟨vendor, hget, rfl⟩

/-- What a new vendor does to the accounts. -/
theorem holders_env {e : VendorCreated} (h : payoutAccountCalls.env s e = some s') :
    ownerTaken s e = false ∧
      s' = Function.update s e.vendorType ((s e.vendorType).create ⟨e.owner, []⟩) := by
  have henv : (if ownerTaken s e then none
      else some (Function.update s e.vendorType ((s e.vendorType).create ⟨e.owner, []⟩))) =
        some s' := h
  split at henv
  · cases henv
  · rename_i hfree
    cases henv
    exact ⟨by simpa using hfree, rfl⟩

/-- A vendor is there after another one has been created as it was, or it is the new one. -/
theorem get_created {e : VendorCreated} {vendorType : PayoutVendorType} {id : VendorId}
    {vendor : AccountHolder}
    (h : (Function.update s e.vendorType ((s e.vendorType).create ⟨e.owner, []⟩)
      vendorType).get id = some vendor) :
    (s vendorType).get id = some vendor ∨
      (vendorType = e.vendorType ∧ id = (s e.vendorType).nextId ∧ vendor = ⟨e.owner, []⟩) := by
  by_cases htype : vendorType = e.vendorType
  · subst htype
    rw [Function.update_self] at h
    rcases Collection.get_create_cases h with ⟨hid, hnew⟩ | ⟨_, hold⟩
    · exact Or.inr ⟨rfl, hid, hnew⟩
    · exact Or.inl hold
  · rw [Function.update_of_ne htype] at h
    exact Or.inl h

theorem keepOwners_created {e : VendorCreated} :
    KeepOwners s (Function.update s e.vendorType ((s e.vendorType).create ⟨e.owner, []⟩)) := by
  intro vendorType id vendor hget
  refine ⟨vendor, ?_, rfl⟩
  by_cases htype : vendorType = e.vendorType
  · subst htype
    rw [Function.update_self]
    exact Collection.get_create_of_get hget
  · rw [Function.update_of_ne htype]
    exact hget

end Writes

/-! ## One call -/

/-- The account is still to be created. -/
def SetupStage.early : SetupStage → Bool
  | findVendor => true
  | findOwner _ _ => true
  | resolveAccount => true
  | createAccount => true
  | _ => false

/-- The vendor has been found. -/
def SetupStage.busy : SetupStage → Bool
  | findOwner _ _ => true
  | resolveAccount => true
  | createAccount => true
  | persist _ => true
  | _ => false

/-- The seller that a request is for is its user's; a rider's own account always is. -/
def PayoutSetup.Owned (p : PayoutSetup) (holders : AccountHolders) : Prop :=
  match p.holder with
  | .seller _ id => ∃ vendor, (holders p.vendorType).get id = some vendor ∧
      (p.user.role = .admin ∨ vendor.owner = p.user.sub)
  | .rider => True

/-- The Stripe account that a request has had created. -/
def ConnectPc.created? : ConnectPc → Option String
  | .setup _ created _ => created
  | .webhook _ _ => none

/-- All that one awaited call can do. -/
inductive ConnectMove (s : ConnectWorld) : ConnectPc → ConnectWorld → ConnectPc → Prop
  | goesOn {request : PayoutSetup} {created : Option String} {stage stage' : SetupStage}
      (hearly : stage'.early = true → stage.early = true)
      (hbusy : stage'.busy = true → stage.busy = true ∨ request.Owned s.holders)
      (hquiet : ∀ call, stage' ≠ .persist call) :
      ConnectMove s (.setup request created stage) s (.setup request created stage')
  | created {request : PayoutSetup} {created : Option String} {accountId : String}
      (hroute : request.route = .stripe) (hfresh : accountId ∉ s.accounts) :
      ConnectMove s (.setup request created .createAccount)
        { s with accounts := accountId :: s.accounts }
        (.setup request (some accountId) (request.afterCreate accountId))
  | banked {request : PayoutSetup} {created : Option String} {reference : String}
      (hroute : request.route ≠ .stripe) :
      ConnectMove s (.setup request created .createAccount) s
        (.setup request created (request.afterCreate reference))
  | persisted {request : PayoutSetup} {created : Option String} {call call' : PayoutAccountPc}
      {holders : AccountHolders} {reply : DbReply}
      (hstep : payoutAccountStep s.holders call reply = some (holders, call')) :
      ConnectMove s (.setup request created (.persist call)) { s with holders := holders }
        (.setup request created (request.afterPersist call'))
  | ignored {request : AccountWebhook} {vendorType : PayoutVendorType} {notice : AccountNotice}
      {stage' : WebhookStage}
      (hquiet : ∀ call, stage' ≠ .save call)
      (hsame : ∀ vendorType' notice', stage' = .findByReference vendorType' notice' →
        notice' = notice) :
      ConnectMove s (.webhook request (.findByReference vendorType notice)) s
        (.webhook request stage')
  | found {request : AccountWebhook} {vendorType : PayoutVendorType} {notice : AccountNotice}
      {id : VendorId} {vendor : AccountHolder}
      (hfind : AccountWebhook.findByReference s.holders vendorType notice.accountId =
        some (id, vendor)) :
      ConnectMove s (.webhook request (.findByReference vendorType notice)) s
        (.webhook request (.save (AccountWebhook.setPayoutAccountFromWebhook vendorType id
          (if notice.isActive then .active else .pending) notice.accountId)))
  | saved {request : AccountWebhook} {call call' : PayoutAccountPc} {holders : AccountHolders}
      {reply : DbReply}
      (hstep : payoutAccountStep s.holders call reply = some (holders, call')) :
      ConnectMove s (.webhook request (.save call)) { s with holders := holders }
        (.webhook request (AccountWebhook.afterSave call'))

section Moves

variable {s s' : ConnectWorld} {pc pc' : ConnectPc} {request : PayoutSetup}
  {created : Option String}

theorem proceed_quiet (existing : Option String) (call : PayoutAccountPc) :
    request.proceed existing ≠ .persist call := by
  rw [PayoutSetup.proceed]
  split
  · split <;> simp
  · simp

/-- A vendor that a request goes on with has been found, and is its user's. -/
theorem owned_of_afterFindVendor {holders : AccountHolders}
    (h : (request.afterFindVendor holders).busy = true) : request.Owned holders := by
  obtain ⟨route, holder, user⟩ := request
  cases holder with
  | rider => trivial
  | seller sellerType id =>
    simp only [PayoutSetup.afterFindVendor] at h
    cases hget : (holders sellerType.payoutVendorType).get id with
    | none => simp [hget, SetupStage.busy] at h
    | some vendor =>
      refine ⟨vendor, hget, ?_⟩
      by_contra hnot
      simp [hget, assertOwnerOrAdmin, hnot, SetupStage.busy] at h

theorem afterFindVendor_quiet {holders : AccountHolders} (call : PayoutAccountPc) :
    request.afterFindVendor holders ≠ .persist call := by
  rw [PayoutSetup.afterFindVendor]
  split
  · split
    · simp
    · split
      · simp
      · split
        · exact proceed_quiet _ _
        · simp
  · split
    · simp
    · exact proceed_quiet _ _

theorem afterFindOwner_quiet {users : Collection String} {owner : UserId}
    {existing : Option String} (call : PayoutAccountPc) :
    request.afterFindOwner users owner existing ≠ .persist call := by
  rw [PayoutSetup.afterFindOwner]
  split
  · simp [SetupStage.badRequest]
  · exact proceed_quiet _ _

theorem unlessThrown_cases (stage : SetupStage) (reply : DbReply) :
    stage.unlessThrown reply = stage ∨ ∃ error, stage.unlessThrown reply = .rejected error := by
  cases reply with
  | ok => exact Or.inl rfl
  | threw written message => exact Or.inr ⟨_, rfl⟩

/-- A stage that nothing is asked of. -/
theorem ConnectMove.ends {stage stage' : SetupStage} (hearly : stage'.early = false)
    (hbusy : stage'.busy = false) :
    ConnectMove s (.setup request created stage) s (.setup request created stage') := by
  refine .goesOn (by simp [hearly]) (by simp [hbusy]) ?_
  rintro call rfl
  simp [SetupStage.busy] at hbusy

/-- A stage that the database may keep a request from. -/
theorem ConnectMove.unlessThrown {stage stage' : SetupStage} {reply : DbReply}
    (hearly : stage'.early = true → stage.early = true)
    (hbusy : stage'.busy = true → stage.busy = true ∨ request.Owned s.holders)
    (hquiet : ∀ call, stage' ≠ .persist call) :
    ConnectMove s (.setup request created stage) s
      (.setup request created (stage'.unlessThrown reply)) := by
  rcases unlessThrown_cases stage' reply with h | ⟨error, h⟩
  · rw [h]
    exact .goesOn hearly hbusy hquiet
  · rw [h]
    exact .ends rfl rfl

/-- One call of a setup. -/
theorem setup_move {stage stage' : SetupStage} {created' : Option String} {reply : ConnectReply}
    (h : request.step s created stage reply = some (s', created', stage')) :
    ConnectMove s (.setup request created stage) s' (.setup request created' stage') := by
  cases reply with
  | db reply =>
    cases stage with
    | findVendor =>
      cases h
      exact .unlessThrown (fun _ => rfl) (fun hbusy => Or.inr (owned_of_afterFindVendor hbusy))
        afterFindVendor_quiet
    | findOwner owner existing =>
      cases h
      exact .unlessThrown (fun _ => rfl) (fun _ => Or.inl rfl) afterFindOwner_quiet
    | persist call =>
      simp only [PayoutSetup.step, Option.map_eq_some_iff] at h
      obtain ⟨⟨holders, call'⟩, hstep, heq⟩ := h
      cases heq
      exact .persisted hstep
    | _ => cases h
  | provider answer =>
    cases answer with
    | error message =>
      cases stage with
      | resolveAccount =>
        cases h
        exact .ends rfl rfl
      | createAccount =>
        cases h
        exact .ends rfl rfl
      | createLink accountId =>
        cases h
        exact .ends rfl rfl
      | _ => cases h
    | ok answer =>
      cases stage with
      | resolveAccount =>
        cases h
        exact .goesOn (fun _ => rfl) (fun _ => Or.inl rfl) (by simp)
      | createAccount =>
        simp only [PayoutSetup.step] at h
        split at h
        · rename_i hroute
          split at h
          · cases h
          · rename_i hfresh
            cases h
            exact .created hroute hfresh
        · rename_i hroute
          cases h
          exact .banked hroute
      | createLink accountId =>
        cases h
        exact .ends rfl rfl
      | _ => cases h

/-- One call of a webhook. -/
theorem webhook_move {request : AccountWebhook} {stage stage' : WebhookStage} {reply : DbReply}
    (h : AccountWebhook.step s stage reply = some (s', stage')) :
    ConnectMove s (.webhook request stage) s' (.webhook request stage') := by
  cases stage with
  | findByReference vendorType notice =>
    cases h
    cases reply with
    | threw written message => exact .ignored (by simp) (by simp)
    | ok =>
      simp only [AccountWebhook.afterFindByReference]
      cases hfind : AccountWebhook.findByReference s.holders vendorType notice.accountId with
      | none =>
        simp only
        split
        · exact .ignored (by simp) (by simp)
        · exact .ignored (by simp) (by simp)
        · exact .ignored (by simp) (by simp)
      | some found =>
        simp only
        split
        · exact .ignored (by simp) (by simp)
        · exact .found hfind
  | save call =>
    simp only [AccountWebhook.step, Option.map_eq_some_iff] at h
    obtain ⟨⟨holders, call'⟩, hstep, heq⟩ := h
    cases heq
    exact .saved hstep
  | _ => cases h

/-- **All that one awaited call can do.** -/
theorem connect_move {reply : ConnectReply} (h : connectStep s pc reply = some (s', pc')) :
    ConnectMove s pc s' pc' := by
  cases pc with
  | setup request created stage =>
    simp only [connectStep, Option.map_eq_some_iff] at h
    obtain ⟨⟨w, created', stage'⟩, hstep, heq⟩ := h
    cases heq
    exact setup_move hstep
  | webhook request stage =>
    cases reply with
    | provider answer => cases h
    | db reply =>
      simp only [connectStep, Option.map_eq_some_iff] at h
      obtain ⟨⟨w, stage'⟩, hstep, heq⟩ := h
      cases heq
      exact webhook_move hstep

/-- A vendor that is there after a call was there before, with its owner. -/
theorem owner_before {p p' : ConnectPc} (h : ConnectMove s p s' p') {vendorType : PayoutVendorType}
    {id : VendorId} {vendor' : AccountHolder}
    (hget : (s'.holders vendorType).get id = some vendor') :
    ∃ vendor, (s.holders vendorType).get id = some vendor ∧ vendor.owner = vendor'.owner := by
  cases h with
  | persisted hstep =>
    obtain ⟨vendor, hwas, howner, _⟩ := holders_step hstep hget
    exact ⟨vendor, hwas, howner⟩
  | saved hstep =>
    obtain ⟨vendor, hwas, howner, _⟩ := holders_step hstep hget
    exact ⟨vendor, hwas, howner⟩
  | _ => exact ⟨vendor', hget, rfl⟩

end Moves

end FoodDelivery
