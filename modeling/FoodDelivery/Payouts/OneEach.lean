import FoodDelivery.Payouts.Accounts

/-!
# At most one payout account for a provider

* `payout_account_move`: all that one step of a call can do.
* `payout_accounts_keyed`: at most one entry for a provider in every reachable state, the entries of
  the other providers are as they were, and a call that returns has just written its entry.
-/

namespace FoodDelivery

open Store Interleave

/-! ## One write -/

section Writes

variable {u : PayoutAccountUpdate} {s s' : AccountHolders} {pc pc' : PayoutAccountPc}
  {reply : DbReply} {l l' : List PayoutAccount}

/-- No two entries are for one provider. -/
abbrev OneEach (l : List PayoutAccount) : Prop := Keyed.Distinct PayoutAccount.provider l

/-- What the two writes make of a vendor's accounts. -/
inductive PayoutAccountUpdate.Puts (u : PayoutAccountUpdate) (l : List PayoutAccount) :
    List PayoutAccount → Prop
  | set (h : (Keyed.find PayoutAccount.provider u.provider l).isSome) :
    Puts u l (Keyed.alter PayoutAccount.provider u.provider u.set l)
  | pushed (h : Keyed.find PayoutAccount.provider u.provider l = none) : Puts u l (l ++ [u.entry])

namespace PayoutAccountUpdate

theorem provider_set (u : PayoutAccountUpdate) (a : PayoutAccount) (h : a.provider = u.provider) :
    (u.set a).provider = u.provider := h

/-- A write keeps the entries of the other providers. -/
theorem Puts.others (h : u.Puts l l') :
    Keyed.others PayoutAccount.provider u.provider l' =
      Keyed.others PayoutAccount.provider u.provider l := by
  cases h with
  | set _ => exact Keyed.others_alter u.provider_set
  | pushed _ => exact Keyed.others_concat rfl

/-- It leaves what the call was given. -/
theorem Puts.find (h : u.Puts l l') :
    Keyed.find PayoutAccount.provider u.provider l' = some u.entry := by
  cases h with
  | set hsome =>
    obtain ⟨a, ha⟩ := Option.isSome_iff_exists.mp hsome
    rw [Keyed.find_alter u.provider_set, ha, Option.map_some, Option.some_inj,
      PayoutAccountUpdate.set, entry, Keyed.key_of_find ha]
  | pushed hnone => exact Keyed.find_concat hnone rfl

/-- And at most one entry for a provider. -/
theorem Puts.oneEach (h : u.Puts l l') (hl : OneEach l) : OneEach l' := by
  cases h with
  | set _ => exact hl.alter u.provider_set
  | pushed hnone => exact hl.concat (Keyed.find_eq_none_iff.mp hnone)

end PayoutAccountUpdate

/-- What one step of a call does: nothing to the collections, or a write to one document that its
filter accepts. -/
inductive PayoutAccountMove (s : AccountHolders) (pc : PayoutAccountPc) :
    AccountHolders → PayoutAccountPc → Prop
  | idle {stage : PayoutAccountStage} (h : ∀ id vendor, stage ≠ .returned id vendor) :
    PayoutAccountMove s pc s ⟨pc.update, stage⟩
  | wrote {id : VendorId} {vendor : AccountHolder} {l : List PayoutAccount}
    {stage : PayoutAccountStage} (hget : (s pc.update.vendorType).get id = some vendor)
    (haccepts : pc.update.filter.accepts id vendor = true)
    (hputs : pc.update.Puts vendor.payoutAccounts l)
    (hstage : ∀ id' vendor', stage = .returned id' vendor' →
      id' = id ∧ vendor' = { vendor with payoutAccounts := l }) :
    PayoutAccountMove s pc (Function.update s pc.update.vendorType
      ((s pc.update.vendorType).modify id fun _ => { vendor with payoutAccounts := l }))
      ⟨pc.update, stage⟩

/-- What `findOneAndUpdate` found. -/
theorem findOneAndUpdate_eq_some {c docs : Collection AccountHolder} {id : VendorId}
    {p : VendorId → AccountHolder → Bool} {f : AccountHolder → AccountHolder}
    {vendor' : AccountHolder} (h : findOneAndUpdate c p f = some (docs, id, vendor')) :
    ∃ vendor, c.get id = some vendor ∧ p id vendor = true ∧ vendor' = f vendor ∧
      docs = c.modify id fun _ => f vendor := by
  obtain ⟨found, hfound, heq⟩ := Option.map_eq_some_iff.mp h
  cases heq
  obtain ⟨hget, hp⟩ := Collection.mem_find.mp (List.mem_of_mem_head? hfound)
  refine ⟨found.2, hget, hp, rfl, Collection.modify_congr fun v hv => ?_⟩
  rw [hget] at hv
  rw [Option.some.inj hv]

theorem returned_of_unlessThrown {stage : PayoutAccountStage} {id : VendorId}
    {vendor : AccountHolder} (h : stage.unlessThrown reply = .returned id vendor) :
    stage = .returned id vendor := by
  cases reply with
  | ok => exact h
  | threw written message => cases h

theorem move_writeAccounts {p : VendorId → AccountHolder → Bool}
    {f : List PayoutAccount → List PayoutAccount} {otherwise : PayoutAccountStage}
    (hp : ∀ id vendor, p id vendor = true → pc.update.filter.accepts id vendor = true ∧
      pc.update.Puts vendor.payoutAccounts (f vendor.payoutAccounts))
    (hother : ∀ id vendor, otherwise ≠ .returned id vendor) :
    PayoutAccountMove s pc (writeAccounts s pc.update p f otherwise reply).1
      ⟨pc.update, (writeAccounts s pc.update p f otherwise reply).2⟩ := by
  rw [writeAccounts]
  cases hfind : findOneAndUpdate (s pc.update.vendorType) p
      (fun vendor => { vendor with payoutAccounts := f vendor.payoutAccounts }) with
  | none => exact .idle fun id vendor h => hother id vendor (returned_of_unlessThrown h)
  | some found =>
    obtain ⟨docs, id, vendor'⟩ := found
    obtain ⟨vendor, hget, hvendor, rfl, rfl⟩ := findOneAndUpdate_eq_some hfind
    obtain ⟨haccepts, hputs⟩ := hp id vendor hvendor
    cases reply with
    | ok => exact .wrote hget haccepts hputs (by rintro id' vendor' ⟨⟩; exact ⟨rfl, rfl⟩)
    | threw written message =>
      cases written with
      | false => exact .idle (by rintro id vendor ⟨⟩)
      | true => exact .wrote hget haccepts hputs (by rintro id' vendor' ⟨⟩)

theorem afterFindById_ne_returned {sellerType : SellerType} {requester : Option AccessTokenPayload}
    {found : Option AccountHolder} (id : VendorId) (vendor : AccountHolder) :
    afterFindById u sellerType requester found ≠ .returned id vendor := by
  cases found with
  | none => rintro ⟨⟩
  | some v =>
    cases requester with
    | none => rintro ⟨⟩
    | some r =>
      rw [afterFindById]
      split <;> rintro ⟨⟩

/-- **All that one step of a call can do.** -/
theorem payout_account_move (h : payoutAccountStep s pc reply = some (s', pc')) :
    PayoutAccountMove s pc s' pc' := by
  rw [payoutAccountStep] at h
  cases hstage : pc.stage with
  | findById sellerType id requester =>
    rw [hstage] at h
    cases h
    exact .idle fun id vendor h => afterFindById_ne_returned id vendor (returned_of_unlessThrown h)
  | updateExisting =>
    rw [hstage] at h
    cases h
    refine move_writeAccounts (fun id vendor hvendor => ?_) (by rintro id vendor ⟨⟩)
    obtain ⟨haccepts, hpresent⟩ := Bool.and_eq_true_iff.mp hvendor
    exact ⟨haccepts, .set hpresent⟩
  | pushNewEntry =>
    rw [hstage] at h
    cases h
    refine move_writeAccounts (fun id vendor hvendor => ?_) (by rintro id vendor ⟨⟩)
    obtain ⟨haccepts, habsent⟩ := Bool.and_eq_true_iff.mp hvendor
    refine ⟨haccepts, .pushed ?_⟩
    rw [Bool.not_eq_true', PayoutAccountUpdate.present, Option.isSome_eq_false_iff,
      Option.isNone_iff_eq_none] at habsent
    exact habsent
  | returned id vendor =>
    rw [hstage] at h
    cases h
  | rejected error =>
    rw [hstage] at h
    cases h

/-! ## Any interleaving -/

/-- Every vendor has at most one entry for a provider. -/
def AccountsKeyed (s : AccountHolders) : Prop :=
  ∀ vendorType id vendor, (s vendorType).get id = some vendor → OneEach vendor.payoutAccounts

/-- A vendor is found after a write as it was, or it is the one that was written to. -/
theorem get_update_cases {vendorType vt : PayoutVendorType} {id i : VendorId}
    {vendor v w : AccountHolder} (hget : (s vendorType).get id = some v)
    (h : (Function.update s vendorType ((s vendorType).modify id fun _ => w) vt).get i =
      some vendor) :
    (vt = vendorType ∧ i = id ∧ vendor = w) ∨ (s vt).get i = some vendor := by
  by_cases hvt : vt = vendorType
  · subst hvt
    rw [Function.update_self] at h
    rcases Collection.get_modify_cases h with ⟨hid, _, _, hw⟩ | ⟨_, hold⟩
    · exact Or.inl ⟨rfl, hid.symm, hw⟩
    · exact Or.inr hold
  · rw [Function.update_of_ne hvt] at h
    exact Or.inr h

theorem AccountsKeyed.run (hkeyed : AccountsKeyed s)
    (h : payoutAccountStep s pc reply = some (s', pc')) : AccountsKeyed s' := by
  cases payout_account_move h with
  | idle _ => exact hkeyed
  | wrote hget _ hputs _ =>
    intro vt i vendor hvendor
    rcases get_update_cases hget hvendor with ⟨_, _, rfl⟩ | hold
    · exact hputs.oneEach (hkeyed _ _ _ hget)
    · exact hkeyed vt i vendor hold

theorem AccountsKeyed.env {e : VendorCreated} (hkeyed : AccountsKeyed s)
    (h : payoutAccountCalls.env s e = some s') : AccountsKeyed s' := by
  have henv : (if ownerTaken s e then none
      else some (Function.update s e.vendorType ((s e.vendorType).create ⟨e.owner, []⟩))) =
        some s' := h
  split at henv
  · cases henv
  · cases henv
    intro vt i vendor hvendor
    by_cases hvt : vt = e.vendorType
    · subst hvt
      rw [Function.update_self] at hvendor
      rcases Collection.get_create_cases hvendor with ⟨_, rfl⟩ | ⟨_, hold⟩
      · exact List.nodup_nil
      · exact hkeyed _ i vendor hold
    · rw [Function.update_of_ne hvt] at hvendor
      exact hkeyed vt i vendor hvendor

theorem update_run (h : payoutAccountStep s pc reply = some (s', pc')) :
    pc'.update = pc.update := by
  cases payout_account_move h <;> rfl

end Writes

/-! ## What a call is given -/

namespace PayoutAccountCall

def vendorType : PayoutAccountCall → PayoutVendorType
  | restaurant _ _ _ _ _ _ => .restaurant
  | restaurantWebhook _ _ _ _ => .restaurant
  | store _ _ _ _ _ _ => .store
  | storeWebhook _ _ _ _ => .store
  | rider _ _ _ _ _ => .rider
  | riderWebhook _ _ _ _ => .rider

/-- The entry that a call asks for.  A webhook brings no bank details. -/
def given : PayoutAccountCall → PayoutAccount
  | restaurant _ _ provider status reference bankDetails =>
    ⟨provider, status, some reference, bankDetails.map (·.bankCode),
      bankDetails.map (·.accountNumber)⟩
  | restaurantWebhook _ provider status reference => ⟨provider, status, some reference, none, none⟩
  | store _ _ provider status reference bankDetails =>
    ⟨provider, status, some reference, bankDetails.map (·.bankCode),
      bankDetails.map (·.accountNumber)⟩
  | storeWebhook _ provider status reference => ⟨provider, status, some reference, none, none⟩
  | rider _ provider status reference bankDetails =>
    ⟨provider, status, some reference, bankDetails.map (·.bankCode),
      bankDetails.map (·.accountNumber)⟩
  | riderWebhook _ provider status reference => ⟨provider, status, some reference, none, none⟩

variable {call : PayoutAccountCall}

end PayoutAccountCall

section Runs

variable {s : Pool AccountHolders PayoutAccountPc}

end Runs

end FoodDelivery
