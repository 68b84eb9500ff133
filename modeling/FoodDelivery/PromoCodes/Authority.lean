import FoodDelivery.Lib.Collection
import FoodDelivery.Lib.Sequence
import FoodDelivery.Orders.Lifecycle
import FoodDelivery.PromoCodes.PromoCode

/-!
# Who may change a promo code

`create` and `update` of `promo-codes/promo-codes.service.ts` behind the `@Roles` of their routes.
`assertSellerOwnership` checks the owner of the restaurant or the store that it is given, and
nothing when it is given neither.  `create` turns a vendor's platform-wide code down before that;
`update` does not.

* `step_update`: what `update` leaves of the codes.
* `authorised_iff`: the calls that keep vendors to their own codes.
* `platform_code_rewritten`: a vendor rewrites a platform-wide code.
-/

namespace FoodDelivery

open Store Sequence

/-! ## The service -/

/-- The codes, and the owners of restaurants and stores. -/
structure PromoCodes where
  codes : Collection PromoCode
  restaurants : Collection UserId
  stores : Collection UserId
  deriving DecidableEq

/-- What a call throws: an HTTP error, or what `create` and `save` throw when a validator or the
unique index on `code` turns the document down. -/
inductive PromoCodeError
  | http (error : HttpError)
  | validation
  | duplicateKey
  deriving DecidableEq, Repr

namespace PromoCodes

/-- No codes and no vendors. -/
def empty : PromoCodes := ⟨Collection.empty, Collection.empty, Collection.empty⟩

def assertSellerOwnership (s : PromoCodes) (restaurantId storeId : Option VendorId)
    (requester : AccessTokenPayload) : Except HttpError Unit :=
  match restaurantId, storeId with
  | some id, _ =>
    match s.restaurants.get id with
    | none => .error (.notFound "Restaurant not found")
    | some ownerId => assertOwnerOrAdmin .restaurant ownerId requester
  | none, some id =>
    match s.stores.get id with
    | none => .error (.notFound "Store not found")
    | some ownerId => assertOwnerOrAdmin .store ownerId requester
  | none, none => .ok ()

def assertAtMostOneSeller (restaurantId storeId : Option VendorId) : Except HttpError Unit :=
  if restaurantId.isSome && storeId.isSome then
    .error (.badRequest "A promo code can be scoped to a restaurant or a store, not both")
  else .ok ()

/-- The unique index on `code` holds this one for another document. -/
def taken (s : PromoCodes) (code : String) (id : PromoCodeId) : Bool :=
  (s.codes.find fun i p => i ≠ id && p.code = code) ≠ []

/-- `promoCodeModel.create`. -/
def insert (s : PromoCodes) (p : PromoCode) : Except PromoCodeError PromoCodes :=
  if p.code = "" then .error .validation
  else if s.taken p.code s.codes.nextId then .error .duplicateKey
  else .ok { s with codes := s.codes.create p }

/-- `promo.save()`. -/
def save (s : PromoCodes) (id : PromoCodeId) (saved : Option PromoCode) :
    Except PromoCodeError PromoCodes :=
  match saved with
  | none => .error .validation
  | some p =>
    if s.taken p.code id then .error .duplicateKey
    else .ok { s with codes := s.codes.modify id fun _ => p }

/-- What `create` asks of who is no admin. -/
def assertMayCreate (s : PromoCodes) (dto : CreatePromoCodeDto) (requester : AccessTokenPayload) :
    Except HttpError Unit :=
  if requester.role = .admin then .ok ()
  else if dto.restaurantId.toOption.isNone && dto.storeId.toOption.isNone then
    .error (.forbidden "You can only create a promo code scoped to your own restaurant or store")
  else s.assertSellerOwnership dto.restaurantId.toOption dto.storeId.toOption requester

def create (s : PromoCodes) (dto : CreatePromoCodeDto) (requester : AccessTokenPayload) :
    Except PromoCodeError PromoCodes :=
  match assertAtMostOneSeller dto.restaurantId.toOption dto.storeId.toOption with
  | .error e => .error (.http e)
  | .ok _ =>
    match s.assertMayCreate dto requester with
    | .error e => .error (.http e)
    | .ok _ => s.insert (.created dto)

/-- What `update` asks of who is no admin.  Of a platform-wide code, which has neither id, it asks
nothing. -/
def assertMayUpdate (s : PromoCodes) (promo : PromoCode) (dto : UpdatePromoCodeDto)
    (requester : AccessTokenPayload) : Except HttpError Unit :=
  if requester.role = .admin then .ok ()
  else if dto.restaurantId.isDefined || dto.storeId.isDefined then
    .error (.forbidden
      "Only an admin can change which restaurant or store a promo code belongs to")
  else s.assertSellerOwnership promo.restaurantId promo.storeId requester

def update (s : PromoCodes) (id : PromoCodeId) (dto : UpdatePromoCodeDto)
    (requester : AccessTokenPayload) : Except PromoCodeError PromoCodes :=
  match s.codes.get id with
  | none => .error (.http (.notFound "Promo code not found"))
  | some promo =>
    match s.assertMayUpdate promo dto requester with
    | .error e => .error (.http e)
    | .ok _ =>
      match assertAtMostOneSeller (dto.restaurantId.toOption.or promo.restaurantId)
        (dto.storeId.toOption.or promo.storeId) with
      | .error e => .error (.http e)
      | .ok _ => s.save id (promo.assign dto)

/-- `@Roles('admin', 'restaurant_owner')`. -/
def guarded (requester : AccessTokenPayload) (call : Except PromoCodeError PromoCodes) :
    Except PromoCodeError PromoCodes :=
  if requester.role = .admin ∨ requester.role = .restaurantOwner then call
  else .error (.http (.forbidden "You do not have permission to perform this action"))

end PromoCodes

/-- The requests to the two routes, and what happens beside them: orders redeem codes, and vendors
open. -/
inductive PromoCodeCall
  | create (dto : CreatePromoCodeDto) (requester : AccessTokenPayload)
  | update (id : PromoCodeId) (dto : UpdatePromoCodeDto) (requester : AccessTokenPayload)
  | redeem (id : PromoCodeId)
  | openRestaurant (ownerId : UserId)
  | openStore (ownerId : UserId)

namespace PromoCodes

def handle (s : PromoCodes) : PromoCodeCall → Except PromoCodeError PromoCodes
  | .create dto requester => guarded requester (s.create dto requester)
  | .update id dto requester => guarded requester (s.update id dto requester)
  | .redeem id => .ok { s with codes := s.codes.modify id PromoCode.redeem }
  | .openRestaurant ownerId => .ok { s with restaurants := s.restaurants.create ownerId }
  | .openStore ownerId => .ok { s with stores := s.stores.create ownerId }

/-- A call that throws leaves the collections as they are. -/
def step (s : PromoCodes) (call : PromoCodeCall) : PromoCodes :=
  match s.handle call with
  | .ok s' => s'
  | .error _ => s

/-- The code is scoped to a restaurant or a store of this user. -/
def Owns (s : PromoCodes) (user : UserId) (p : PromoCode) : Prop :=
  (∃ id, p.restaurantId = some id ∧ s.restaurants.get id = some user) ∨
    ∃ id, p.storeId = some id ∧ s.stores.get id = some user

end PromoCodes

/-- Who sends the request. -/
def PromoCodeCall.requester : PromoCodeCall → Option AccessTokenPayload
  | .create _ requester => some requester
  | .update _ _ requester => some requester
  | _ => none

/-! ## What is claimed -/

/-- Who is no admin changes only codes of a restaurant or a store of their own. -/
def Authorised (s : PromoCodes) (call : PromoCodeCall) : Prop :=
  ∀ requester, call.requester = some requester → requester.role ≠ .admin →
    ∀ id p p', s.codes.get id = some p → (s.step call).codes.get id = some p' → p' ≠ p →
      s.Owns requester.sub p

/-- An update by a vendor is of a code with a seller, is turned down on other grounds, or leaves
every field as it is. -/
def HasSeller (s : PromoCodes) : PromoCodeCall → Bool
  | .update id dto requester =>
    requester.role ≠ .restaurantOwner || (s.codes.get id).all fun p =>
      !p.platformWide || (dto.restaurantId.isDefined || dto.storeId.isDefined ||
        (!dto.accepted p || (dto.leaves p ||
          (dto.code.onto (some p.code)).any fun code => s.taken code id)))
  | _ => true

section Calls

variable {s s' : PromoCodes} {id i : PromoCodeId} {p p' : PromoCode} {dto : UpdatePromoCodeDto}
  {requester : AccessTokenPayload} {restaurantId storeId : Option VendorId}

/-! ## Who owns what -/

theorem owner_of_assertOwnerOrAdmin {ownerId : UserId} {sellerType : SellerType} {u : Unit}
    (h : assertOwnerOrAdmin sellerType ownerId requester = .ok u)
    (hrole : requester.role ≠ .admin) : ownerId = requester.sub := by
  unfold assertOwnerOrAdmin at h
  split at h
  · rename_i hor
    exact hor.resolve_left hrole
  · cases h

/-- **The check of a seller that is there.** -/
theorem owns_of_assertSellerOwnership {u : Unit}
    (h : s.assertSellerOwnership p.restaurantId p.storeId requester = .ok u)
    (hrole : requester.role ≠ .admin) (hp : p.platformWide = false) :
    s.Owns requester.sub p := by
  rw [PromoCode.platformWide] at hp
  unfold PromoCodes.assertSellerOwnership at h
  split at h
  · rename_i id hid
    split at h
    · cases h
    · rename_i ownerId hget
      rw [owner_of_assertOwnerOrAdmin h hrole] at hget
      exact Or.inl ⟨id, hid, hget⟩
  · rename_i id _ hid
    split at h
    · cases h
    · rename_i ownerId hget
      rw [owner_of_assertOwnerOrAdmin h hrole] at hget
      exact Or.inr ⟨id, hid, hget⟩
  · rename_i hr hst
    rw [hr, hst] at hp
    cases hp

/-! ## What a call changes -/

/-- An insertion changes no code that is there. -/
theorem get_insert {created : PromoCode} (h : s.insert created = .ok s')
    (hget : s.codes.get i = some p) : s'.codes.get i = some p := by
  unfold PromoCodes.insert at h
  split at h
  · cases h
  · split at h
    · cases h
    · cases h
      exact Collection.get_create_of_get hget

theorem get_create {dto : CreatePromoCodeDto} (h : s.create dto requester = .ok s')
    (hget : s.codes.get i = some p) : s'.codes.get i = some p := by
  unfold PromoCodes.create at h
  split at h
  · cases h
  · split at h
    · cases h
    · exact get_insert h hget

/-- **What `update` does when it goes through.** -/
theorem update_ok (h : s.update id dto requester = .ok s') : ∃ p p', s.codes.get id = some p ∧
    (∃ u, s.assertMayUpdate p dto requester = .ok u) ∧ p.assign dto = some p' ∧
    s.taken p'.code id = false ∧ s' = { s with codes := s.codes.modify id fun _ => p' } := by
  unfold PromoCodes.update at h
  split at h
  · cases h
  · rename_i p hget
    split at h
    · cases h
    · rename_i u hmay
      split at h
      · cases h
      · unfold PromoCodes.save at h
        split at h
        · cases h
        · rename_i p' hassign
          split at h
          · cases h
          · rename_i htaken
            cases h
            exact ⟨p, p', hget, ⟨u, hmay⟩, hassign, Bool.not_eq_true _ ▸ htaken, rfl⟩

/-- **A platform-wide code may be updated by any vendor.** -/
theorem update_platformWide (hget : s.codes.get id = some p) (hp : p.platformWide = true)
    (hr : dto.restaurantId.isDefined = false) (hst : dto.storeId.isDefined = false)
    (hassign : p.assign dto = some p') (htaken : s.taken p'.code id = false) :
    s.update id dto requester = .ok { s with codes := s.codes.modify id fun _ => p' } := by
  rw [PromoCode.platformWide, Bool.and_eq_true, Option.isNone_iff_eq_none,
    Option.isNone_iff_eq_none] at hp
  obtain ⟨hpr, hpst⟩ := hp
  have hmay : s.assertMayUpdate p dto requester = .ok () := by
    unfold PromoCodes.assertMayUpdate
    split
    · rfl
    · rw [hr, hst, hpr, hpst]
      rfl
  have hone : PromoCodes.assertAtMostOneSeller (dto.restaurantId.toOption.or p.restaurantId)
      (dto.storeId.toOption.or p.storeId) = .ok () := by
    have habsent : ∀ {g : Given VendorId}, g.isDefined = false → g.toOption = none := by
      intro g hg
      cases g with
      | absent => rfl
      | null => rfl
      | value a => cases hg
    rw [habsent hr, habsent hst, hpr, hpst]
    rfl
  simp only [PromoCodes.update, hget, hmay, hone, PromoCodes.save, hassign, htaken,
    Bool.false_eq_true, if_false]

theorem step_of_error {call : PromoCodeCall} {e : PromoCodeError} (h : s.handle call = .error e) :
    s.step call = s := by
  rw [PromoCodes.step, h]

theorem step_of_ok {call : PromoCodeCall} (h : s.handle call = .ok s') : s.step call = s' := by
  rw [PromoCodes.step, h]

theorem not_owns_of_platformWide (hp : p.platformWide = true) (user : UserId) :
    ¬ s.Owns user p := by
  rw [PromoCode.platformWide, Bool.and_eq_true, Option.isNone_iff_eq_none,
    Option.isNone_iff_eq_none] at hp
  rintro (⟨id, hid, _⟩ | ⟨id, hid, _⟩)
  · cases hp.1.symm.trans hid
  · cases hp.2.symm.trans hid

/-- A vendor whose update goes through owns the code, or the code has no seller. -/
theorem owns_of_assertMayUpdate {u : Unit} (h : s.assertMayUpdate p dto requester = .ok u)
    (hrole : requester.role ≠ .admin) :
    dto.restaurantId.isDefined = false ∧ dto.storeId.isDefined = false ∧
      (p.platformWide = false → s.Owns requester.sub p) := by
  rw [PromoCodes.assertMayUpdate, if_neg hrole] at h
  split at h
  · cases h
  · rename_i hdefined
    rw [Bool.or_eq_true, not_or, Bool.not_eq_true, Bool.not_eq_true] at hdefined
    exact ⟨hdefined.1, hdefined.2, owns_of_assertSellerOwnership h hrole⟩

theorem authorised_of_unchanged {call : PromoCodeCall}
    (h : ∀ id p, s.codes.get id = some p → (s.step call).codes.get id = some p) :
    Authorised s call := by
  intro requester _ _ id p p' hget hget' hne
  exact absurd (Option.some.inj (hget'.symm.trans (h id p hget))) hne

/-- **`update` by a vendor.** -/
theorem authorised_update (h : HasSeller s (.update id dto requester) = true) :
    Authorised s (.update id dto requester) := by
  intro _ hrequester hrole i p p' hget hget' hne
  obtain rfl := Option.some.inj hrequester
  cases hhandle : s.handle (.update id dto requester) with
  | error e =>
    rw [step_of_error hhandle] at hget'
    exact absurd (Option.some.inj (hget'.symm.trans hget)) hne
  | ok s' =>
    rw [step_of_ok hhandle] at hget'
    simp only [PromoCodes.handle, PromoCodes.guarded] at hhandle
    split at hhandle
    · rename_i hor
      obtain ⟨p₀, p₁, hget₀, ⟨u, hmay⟩, hassign, htaken, rfl⟩ := update_ok hhandle
      obtain ⟨hr, hst, howns⟩ := owns_of_assertMayUpdate hmay hrole
      rcases Collection.get_modify_cases hget' with ⟨rfl, _, _, rfl⟩ | ⟨_, hsame⟩
      · obtain rfl := Option.some.inj (hget.symm.trans hget₀)
        refine howns ?_
        have hleaves : dto.leaves p = false := by
          rw [Bool.eq_false_iff]
          exact fun hl => hne ((PromoCode.assign_eq_self_iff hassign).mpr hl)
        have haccepted : dto.accepted p = true := by
          rw [← PromoCode.isSome_assign, hassign]
          rfl
        simp only [HasSeller, hget, hor.resolve_left hrole, hr, hst, hleaves, haccepted,
          (PromoCode.assign_eq_some hassign).1, Option.all_some, Option.any_some, htaken, ne_eq,
          not_true_eq_false, decide_false, Bool.not_true, Bool.false_or, Bool.or_false,
          Bool.not_eq_true'] at h
        exact h
      · exact absurd (Option.some.inj (hsame.symm.trans hget)) hne
    · cases hhandle

/-- An update that has no seller to check goes through. -/
theorem not_authorised_update (h : ¬ HasSeller s (.update id dto requester) = true) :
    ¬ Authorised s (.update id dto requester) := by
  simp only [HasSeller, Bool.or_eq_true, decide_eq_true_eq, Option.all_eq_true, not_or, not_forall,
    ne_eq, not_not, Bool.not_eq_true, Bool.not_eq_true', Bool.not_eq_false] at h
  obtain ⟨hrole, p, hget, hp, ⟨hr, hst⟩, haccepted, hleaves, htaken⟩ := h
  obtain ⟨p', hassign⟩ := Option.isSome_iff_exists.mp
    ((PromoCode.isSome_assign p dto).trans haccepted)
  have hne : p' ≠ p := by
    intro he
    cases hleaves.symm.trans ((PromoCode.assign_eq_self_iff hassign).mp he)
  rw [(PromoCode.assign_eq_some hassign).1, Option.any_some] at htaken
  have hupdate := @update_platformWide s id p p' dto requester hget hp hr hst hassign htaken
  have hhandle : s.handle (.update id dto requester) =
      .ok { s with codes := s.codes.modify id fun _ => p' } := by
    rw [PromoCodes.handle, PromoCodes.guarded, if_pos (Or.inr hrole), hupdate]
  intro hauthorised
  refine not_owns_of_platformWide hp requester.sub
    (hauthorised requester rfl (by rw [hrole]; decide) id p p' hget ?_ hne)
  rw [step_of_ok hhandle]
  show (s.codes.modify id _).get id = _
  rw [Collection.get_modify_self, hget]
  rfl

/-- **A call keeps vendors to their own codes exactly when it meets the condition.** -/
theorem authorised_call_iff (s : PromoCodes) (call : PromoCodeCall) :
    Authorised s call ↔ HasSeller s call = true := by
  cases call with
  | create dto requester =>
    refine iff_of_true (authorised_of_unchanged ?_) rfl
    intro id p hget
    cases hhandle : s.handle (.create dto requester) with
    | error e =>
      rw [step_of_error hhandle]
      exact hget
    | ok s' =>
      rw [step_of_ok hhandle]
      simp only [PromoCodes.handle, PromoCodes.guarded] at hhandle
      split at hhandle
      · exact get_create hhandle hget
      · cases hhandle
  | update id dto requester =>
    refine ⟨fun h => ?_, authorised_update⟩
    by_contra hn
    exact not_authorised_update hn h
  | redeem id => exact iff_of_true (by rintro _ ⟨⟩) rfl
  | openRestaurant ownerId => exact iff_of_true (by rintro _ ⟨⟩) rfl
  | openStore ownerId => exact iff_of_true (by rintro _ ⟨⟩) rfl

end Calls

/-! ## Every sequence of calls -/

/-- **Along a sequence of calls only its own vendor, or an admin, changes a code, exactly when
every update by a vendor has a seller to check, or changes nothing.** -/
theorem authorised_iff (s : PromoCodes) (calls : List PromoCodeCall) :
    Along PromoCodes.step Authorised s calls ↔
      Along PromoCodes.step (fun s call => HasSeller s call = true) s calls :=
  along_iff authorised_call_iff calls s

/-- An admin's code for the whole platform. -/
def welcomeCode : CreatePromoCodeDto :=
  ⟨"WELCOME10", .percentage, 10, .absent, .absent, .absent, .absent, .absent, .absent, .absent⟩

/-- A vendor sets its discount to 90 percent. -/
def rewriting : List PromoCodeCall :=
  [.create welcomeCode ⟨5, .admin⟩,
    .update 0 { UpdatePromoCodeDto.empty with discountValue := .value 90 } ⟨1, .restaurantOwner⟩]

/-- **A vendor without any restaurant or store rewrites a platform-wide code.** -/
theorem platform_code_rewritten :
    ¬ ∀ calls : List PromoCodeCall, Along PromoCodes.step Authorised .empty calls := by
  intro hall
  have hseller := (along_iff authorised_call_iff rewriting .empty).mp (hall rewriting)
  revert hseller
  decide +kernel

end FoodDelivery
