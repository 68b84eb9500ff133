import FoodDelivery.Businesses.Listings
import FoodDelivery.Lib.Sequence

/-!
# The gate of re-approval

An update of the content of an approved business takes its approval back, and the business awaits a
new one.  Three requests set `isApproved`: the admin's approval, and the creation of an item or of a
product, which approves what Youverify has verified (`autoApproveIfEligible`) and does not ask
whether the business awaits an admin.

* `approves_or_tame`: what a request makes of approvals.
* `gate_holds_iff`: the sequences of requests along which the gate holds.
* `relisted_by_an_item`: an owner renames the restaurant, adds a dish and is live again.
-/

namespace FoodDelivery

open Store Sequence

/-! ## Awaiting an approval -/

/-- Youverify has verified it, and its document is there. -/
def Business.eligible (b : Business) : Bool :=
  b.businessVerification.status = .verified && !isBlank b.complianceDocumentUrl

namespace Listings

def approvedAt (s : Listings) (seller : Seller) : Bool := (s.business seller).any (·.isApproved)

/-- An update takes the approval of this business back. -/
def resets (s : Listings) (call : ListingCall) (seller : Seller) : Bool :=
  match call with
  | .update seller' _ _ => seller' = seller && (s.approvedAt seller &&
      !(s.step call).approvedAt seller)
  | _ => false

/-- An admin approves this business. -/
def approvedByAdmin (s : Listings) (call : ListingCall) (seller : Seller) : Bool :=
  match call with
  | .approve seller' _ => seller' = seller && (s.handle call).toOption.isSome
  | _ => false

/-- Adding an item approves this business. -/
def eligible (s : Listings) (seller : Seller) : Bool := (s.business seller).any (·.eligible)

end Listings

/-- The collections, and which businesses await an admin. -/
structure Review where
  listings : Listings
  awaiting : Seller → Bool

namespace Review

/-- Nothing has been reset yet. -/
def start (s : Listings) : Review := ⟨s, fun _ => false⟩

def step (r : Review) (call : ListingCall) : Review where
  listings := r.listings.step call
  awaiting := fun seller => (r.awaiting seller || r.listings.resets call seller) &&
    !r.listings.approvedByAdmin call seller

/-- An item is added to a business that awaits an admin, and the business is verified and has its
document. -/
def relists (r : Review) : ListingCall → Bool
  | .createItem seller requester dto =>
    r.awaiting seller && (r.listings.eligible seller &&
      (requester.role ∈ Listings.vendorRoles &&
        (r.listings.insertItem seller requester dto).toOption.isSome))
  | _ => false

end Review

/-! ## What is claimed -/

/-- Who awaits an admin is not approved. -/
def GateHolds (r : Review) : Prop :=
  ∀ seller, r.awaiting seller = true → r.listings.approvedAt seller = false

section Requests

variable {s s' : Listings} {seller x : Seller} {b b' : Business} {requester : AccessTokenPayload}
  {call : ListingCall}

/-! ## What a request leaves of the businesses -/

theorem business_modifyBusiness (s : Listings) (seller x : Seller) (f : Business → Business) :
    (s.modifyBusiness seller f).business x =
      if seller = x then (s.business x).map f else s.business x := by
  cases seller with
  | restaurant id =>
    cases x with
    | restaurant id' =>
      simp only [Listings.modifyBusiness, Listings.business, Collection.get_modify,
        Seller.restaurant.injEq]
    | store id' => rfl
  | store id =>
    cases x with
    | restaurant id' => rfl
    | store id' =>
      simp only [Listings.modifyBusiness, Listings.business, Collection.get_modify,
        Seller.store.injEq]

theorem business_insertBusiness {sellerType : SellerType} {d : Business}
    (h : (s.insertBusiness sellerType b).business x = some d) : d = b ∨ s.business x = some d := by
  cases sellerType <;> cases x
  · exact (Collection.get_create_cases h).imp And.right And.right
  · exact Or.inr h
  · exact Or.inr h
  · exact (Collection.get_create_cases h).imp And.right And.right

/-- No business is newly approved. -/
def Tame (s s' : Listings) : Prop := ∀ x, s'.approvedAt x = true → s.approvedAt x = true

theorem tame_of_business (h : ∀ x, s'.business x = s.business x) : Tame s s' := by
  intro x hx
  rw [Listings.approvedAt, h] at hx
  exact hx

theorem approvedAt_modifyBusiness (hget : s.business seller = some b) :
    (s.modifyBusiness seller fun _ => b').approvedAt seller = b'.isApproved := by
  rw [Listings.approvedAt, business_modifyBusiness, if_pos rfl, hget]
  rfl

theorem approvedAt_modifyBusiness_ne (h : seller ≠ x) :
    (s.modifyBusiness seller fun _ => b').approvedAt x = s.approvedAt x := by
  rw [Listings.approvedAt, business_modifyBusiness, if_neg h]
  rfl

theorem tame_modifyBusiness (hget : s.business seller = some b)
    (hb : b'.isApproved = true → b.isApproved = true) :
    Tame s (s.modifyBusiness seller fun _ => b') := by
  intro x hx
  by_cases he : seller = x
  · subst he
    rw [approvedAt_modifyBusiness hget] at hx
    rw [Listings.approvedAt, hget]
    exact hb hx
  · rwa [approvedAt_modifyBusiness_ne he] at hx

theorem tame_insertBusiness {sellerType : SellerType} (hb : b.isApproved = false) :
    Tame s (s.insertBusiness sellerType b) := by
  intro x hx
  obtain ⟨d, hget, happroved⟩ := (Option.any_eq_true _ _).mp hx
  rcases business_insertBusiness hget with rfl | hold
  · rw [hb] at happroved
    cases happroved
  · rw [Listings.approvedAt, hold]
    exact happroved

/-! ## Requests that touch a business -/

theorem business_of_findByIdOrThrow (h : s.findByIdOrThrow seller = .ok b) :
    s.business seller = some b := by
  unfold Listings.findByIdOrThrow at h
  split at h
  · cases h
  · next hget =>
    cases h
    exact hget

theorem business_of_assertOwnership (h : s.assertOwnership seller requester = .ok b) :
    s.business seller = some b := by
  obtain ⟨b₁, hfind, hrest⟩ := bind_eq_ok.mp h
  obtain ⟨_, _, hb⟩ := bind_eq_ok.mp hrest
  cases hb
  exact business_of_findByIdOrThrow hfind

theorem eq_some_of_saved {α : Type} {o : Option α} {a : α} (h : Listings.saved o = .ok a) :
    o = some a := by
  cases o with
  | none => cases h
  | some c =>
    cases h
    rfl

/-- **An update keeps an approval only when it gives no field of the content.** -/
theorem isApproved_update {dto : UpdateBusinessDto} (h : b.update dto = some b') :
    b'.isApproved = (b.isApproved && !dto.touchesContent) := by
  have hassign := (Option.filter_eq_some_iff.mp h).1
  simp only [Business.assign, Option.bind_eq_bind, Option.bind_eq_some_iff, Option.pure_def,
    Option.some.injEq] at hassign
  obtain ⟨_, _, _, _, _, _, rfl⟩ := hassign
  rfl

theorem tame_create {sellerType : SellerType} {ownerId : UserId} {dto : CreateBusinessDto}
    {now : Time} {outcome : BusinessVerificationOutcome}
    (h : s.create sellerType ownerId dto now outcome = .ok s') : Tame s s' := by
  obtain ⟨b, hb, hs⟩ := bind_eq_ok.mp h
  cases hs
  have hcreated : Business.created ownerId dto = b :=
    Option.some.inj (Option.filter_eq_some_iff.mp (eq_some_of_saved hb)).1
  exact tame_insertBusiness (by subst hcreated; rfl)

theorem tame_update {dto : UpdateBusinessDto} (h : s.update seller requester dto = .ok s') :
    Tame s s' := by
  obtain ⟨b, hb, hrest⟩ := bind_eq_ok.mp h
  obtain ⟨b', hb', hs⟩ := bind_eq_ok.mp hrest
  cases hs
  refine tame_modifyBusiness (business_of_assertOwnership hb) fun happroved => ?_
  rw [isApproved_update (eq_some_of_saved hb'), Bool.and_eq_true] at happroved
  exact happroved.1

theorem tame_toggleOpen (h : s.toggleOpen seller requester = .ok s') : Tame s s' := by
  obtain ⟨b, hb, hs⟩ := bind_eq_ok.mp h
  cases hs
  exact tame_modifyBusiness (business_of_assertOwnership hb) id

theorem tame_reverifyBusiness {registrationNumber : String} {now : Time}
    {outcome : BusinessVerificationOutcome}
    (h : s.reverifyBusiness seller requester registrationNumber now outcome = .ok s') :
    Tame s s' := by
  obtain ⟨b, hb, hs⟩ := bind_eq_ok.mp h
  cases hs
  exact tame_modifyBusiness (business_of_assertOwnership hb) id

theorem approvedAt_approve_ne (h : s.approve seller = .ok s') (hne : seller ≠ x) :
    s'.approvedAt x = s.approvedAt x := by
  obtain ⟨b, _, hrest⟩ := bind_eq_ok.mp h
  obtain ⟨b', _, hs⟩ := bind_eq_ok.mp hrest
  cases hs
  exact approvedAt_modifyBusiness_ne hne

/-! ## Requests -/

theorem tame_catalog {catalog : Except ListingError Catalog}
    (h : catalog.map s.withCatalog = .ok s') : Tame s s' := by
  cases catalog with
  | error e => cases h
  | ok c =>
    cases h
    exact tame_of_business fun x => by cases x <;> rfl

theorem ok_of_roles {allowed : List UserRole} {result : Except ListingError Listings}
    (h : Listings.roles allowed requester result = .ok s') :
    requester.role ∈ allowed ∧ result = .ok s' := by
  unfold Listings.roles at h
  split at h
  · next hrole => exact ⟨hrole, h⟩
  · cases h

/-- **Adding an item approves a business that is verified and has its document.** -/
theorem isApproved_autoApproveIfEligible (b : Business) (sellerType : SellerType) :
    ((b.autoApproveIfEligible sellerType).toOption.getD b).isApproved =
      (b.isApproved || b.eligible) := by
  unfold Business.autoApproveIfEligible Business.approve Business.eligible
  by_cases happroved : b.isApproved = true
  · rw [if_pos happroved, happroved, Bool.true_or]
    exact happroved
  · rw [if_neg happroved, Bool.eq_false_of_not_eq_true happroved, Bool.false_or]
    by_cases hstatus : b.businessVerification.status = .verified
    · rw [if_neg (not_not.mpr hstatus), decide_eq_true hstatus, Bool.true_and]
      cases isBlank b.complianceDocumentUrl with
      | true => exact Bool.eq_false_of_not_eq_true happroved
      | false => rfl
    · rw [if_pos hstatus, decide_eq_false hstatus, Bool.false_and]
      exact Bool.eq_false_of_not_eq_true happroved

theorem approvedAt_autoApproveIfEligible (hget : s.business seller = some b) :
    ((s.autoApproveIfEligible seller).toOption.getD s).approvedAt x =
      (s.approvedAt x || (decide (seller = x) && s.eligible x)) := by
  have hfind : s.findByIdOrThrow seller = .ok b := by
    unfold Listings.findByIdOrThrow
    rw [hget]
  have hauto : s.autoApproveIfEligible seller =
      Listings.check (b.autoApproveIfEligible seller.sellerType) >>=
        fun b' => .ok (s.modifyBusiness seller fun _ => b') := by
    rw [Listings.autoApproveIfEligible, hfind]
    rfl
  have hb := isApproved_autoApproveIfEligible b seller.sellerType
  have heligible : s.eligible seller = b.eligible := by
    rw [Listings.eligible, hget]
    rfl
  have happroved : s.approvedAt seller = b.isApproved := by
    rw [Listings.approvedAt, hget]
    rfl
  rw [hauto]
  by_cases he : seller = x
  · subst he
    rw [decide_eq_true rfl, Bool.true_and, heligible, happroved, ← hb]
    cases b.autoApproveIfEligible seller.sellerType with
    | error e => exact happroved
    | ok b' => exact approvedAt_modifyBusiness hget
  · rw [decide_eq_false he, Bool.false_and, Bool.or_false]
    cases b.autoApproveIfEligible seller.sellerType with
    | error e => rfl
    | ok b' => exact approvedAt_modifyBusiness_ne he

theorem business_of_insertItem {dto : CreateItemDto} {catalog : Catalog}
    (h : s.insertItem seller requester dto = .ok catalog) : ∃ b, s.business seller = some b := by
  obtain ⟨b, hb, _⟩ := bind_eq_ok.mp h
  exact ⟨b, business_of_assertOwnership hb⟩

theorem approvedAt_createItem {dto : CreateItemDto}
    (h : s.createItem seller requester dto = .ok s') :
    s'.approvedAt x = (s.approvedAt x || (decide (seller = x) && s.eligible x)) := by
  obtain ⟨catalog, hinsert, hs⟩ := bind_eq_ok.mp h
  cases hs
  have hsame : ∀ y, (s.withCatalog catalog).business y = s.business y := by
    intro y
    cases y <;> rfl
  obtain ⟨b, hb⟩ := business_of_insertItem hinsert
  rw [approvedAt_autoApproveIfEligible ((hsame seller).trans hb), Listings.approvedAt,
    Listings.eligible, hsame]
  rfl

/-! ## One request -/

theorem Listings.step_of_ok (h : s.handle call = .ok s') : s.step call = s' := by
  rw [Listings.step, h]

theorem Listings.step_of_error {e : ListingError} (h : s.handle call = .error e) :
    s.step call = s := by
  rw [Listings.step, h]

/-- **A request newly approves no business**, but for the admin's approval and the creation of an
item. -/
theorem approves_or_tame (h : s.handle call = .ok s') :
    Tame s s' ∨ (∃ seller requester, call = .approve seller requester ∧
      s.approveByAdmin seller = .ok s') ∨
    ∃ seller requester dto, call = .createItem seller requester dto ∧
      requester.role ∈ Listings.vendorRoles ∧ s.createItem seller requester dto = .ok s' := by
  cases call with
  | create sellerType requester dto now outcome => exact Or.inl (tame_create (ok_of_roles h).2)
  | update seller requester dto => exact Or.inl (tame_update (ok_of_roles h).2)
  | toggleOpen seller requester => exact Or.inl (tame_toggleOpen (ok_of_roles h).2)
  | reverifyBusiness seller requester registrationNumber now outcome =>
    exact Or.inl (tame_reverifyBusiness (ok_of_roles h).2)
  | approve seller requester =>
    exact Or.inr (Or.inl ⟨seller, requester, rfl, (ok_of_roles h).2⟩)
  | createCategory seller requester dto => exact Or.inl (tame_catalog (ok_of_roles h).2)
  | updateCategory seller categoryId requester dto =>
    exact Or.inl (tame_catalog (ok_of_roles h).2)
  | deleteCategory seller categoryId requester => exact Or.inl (tame_catalog (ok_of_roles h).2)
  | createItem seller requester dto =>
    obtain ⟨hrole, hitem⟩ := ok_of_roles h
    exact Or.inr (Or.inr ⟨seller, requester, dto, rfl, hrole, hitem⟩)
  | updateItem seller itemId requester dto => exact Or.inl (tame_catalog (ok_of_roles h).2)
  | deleteItem seller itemId requester => exact Or.inl (tame_catalog (ok_of_roles h).2)
  | toggleItemAvailability seller itemId requester =>
    exact Or.inl (tame_catalog (ok_of_roles h).2)

end Requests

section Gate

variable {r : Review} {call : ListingCall} {x : Seller}

/-! ## The gate -/

theorem not_approvedAt_of_resets (h : r.listings.resets call x = true) :
    (r.listings.step call).approvedAt x = false := by
  unfold Listings.resets at h
  split at h
  · simp only [Bool.and_eq_true, Bool.not_eq_true'] at h
    exact h.2.2
  · cases h

/-- A request that adds no item to an eligible business approves it only as an admin. -/
theorem not_approvedAt_of_awaiting {s' : Listings} (hcall : r.relists call = false)
    (hhandle : r.listings.handle call = .ok s') (hawaiting : r.awaiting x = true)
    (hold : r.listings.approvedAt x = false)
    (hadmin : r.listings.approvedByAdmin call x = false) : s'.approvedAt x = false := by
  rcases approves_or_tame hhandle with htame | ⟨seller, requester, rfl, happrove⟩ |
    ⟨seller, requester, dto, rfl, hrole, hitem⟩
  · by_contra hnew
    rw [htame x (Bool.eq_true_of_not_eq_false hnew)] at hold
    cases hold
  · by_cases he : seller = x
    · subst he
      rw [Listings.approvedByAdmin, hhandle, decide_eq_true rfl] at hadmin
      cases hadmin
    · unfold Listings.approveByAdmin at happrove
      split at happrove
      · cases happrove
      · rw [approvedAt_approve_ne happrove he, hold]
  · rw [approvedAt_createItem hitem, hold, Bool.false_or]
    by_cases he : seller = x
    · subst he
      obtain ⟨catalog, hinsert, _⟩ := bind_eq_ok.mp hitem
      rw [Review.relists, hawaiting, hinsert, decide_eq_true hrole] at hcall
      rw [decide_eq_true rfl, Bool.true_and]
      cases heligible : r.listings.eligible seller with
      | false => rfl
      | true =>
        rw [heligible] at hcall
        cases hcall
    · rw [decide_eq_false he, Bool.false_and]

/-- **The gate holds after a request that relists nobody.** -/
theorem gateHolds_step (hgate : GateHolds r) (hcall : r.relists call = false) :
    GateHolds (r.step call) := by
  intro x hx
  obtain ⟨hawaits, hadmin⟩ := Bool.and_eq_true_iff.mp hx
  rw [Bool.not_eq_true'] at hadmin
  rcases Bool.or_eq_true_iff.mp hawaits with hawaiting | hresets
  · have hold := hgate x hawaiting
    show (r.listings.step call).approvedAt x = false
    cases hhandle : r.listings.handle call with
    | error e => rw [Listings.step_of_error hhandle, hold]
    | ok s' =>
      rw [Listings.step_of_ok hhandle]
      exact not_approvedAt_of_awaiting hcall hhandle hawaiting hold hadmin
  · exact not_approvedAt_of_resets hresets

/-- **It does not after one that relists a business.** -/
theorem not_gateHolds_step (hcall : r.relists call = true) : ¬ GateHolds (r.step call) := by
  intro hgate
  cases call with
  | createItem seller requester dto =>
    simp only [Review.relists, Bool.and_eq_true, decide_eq_true_eq] at hcall
    obtain ⟨hawaiting, heligible, hrole, hinsert⟩ := hcall
    have hx : (r.step (.createItem seller requester dto)).awaiting seller = true := by
      show ((r.awaiting seller || _) && !false) = true
      rw [hawaiting]
      rfl
    have happroved := hgate seller hx
    cases hresult : r.listings.insertItem seller requester dto with
    | error e =>
      rw [hresult] at hinsert
      cases hinsert
    | ok catalog =>
      obtain ⟨s', hitem⟩ : ∃ s', r.listings.createItem seller requester dto = .ok s' := by
        rw [Listings.createItem, hresult]
        exact ⟨_, rfl⟩
      have hhandle : r.listings.handle (.createItem seller requester dto) = .ok s' := by
        rw [Listings.handle, Listings.roles, if_pos hrole, hitem]
      change (r.listings.step _).approvedAt seller = false at happroved
      rw [Listings.step_of_ok hhandle, approvedAt_createItem hitem, heligible,
        decide_eq_true rfl, Bool.and_true, Bool.or_true] at happroved
      cases happroved
  | create => cases hcall
  | update => cases hcall
  | toggleOpen => cases hcall
  | reverifyBusiness => cases hcall
  | approve => cases hcall
  | createCategory => cases hcall
  | updateCategory => cases hcall
  | deleteCategory => cases hcall
  | updateItem => cases hcall
  | deleteItem => cases hcall
  | toggleItemAvailability => cases hcall

end Gate

/-! ## Every sequence of requests -/

theorem gateHolds_start (s : Listings) : GateHolds (Review.start s) := by
  rintro x ⟨⟩

theorem throughout_gateHolds_iff (calls : List ListingCall) {r : Review} (hgate : GateHolds r) :
    Throughout Review.step GateHolds r calls ↔
      Along Review.step (fun r call => r.relists call = false) r calls :=
  throughout_iff_along (fun _ h => h) (fun _ _ => gateHolds_step)
    (fun _ _ _ hn => not_gateHolds_step (Bool.eq_true_of_not_eq_false hn)) calls r hgate

/-- **A business that awaits an admin stays unapproved all along, exactly when no item is added to
one that is verified and has its document.** -/
theorem gate_holds_iff (s : Listings) (calls : List ListingCall) :
    Throughout Review.step GateHolds (Review.start s) calls ↔
      Along Review.step (fun r call => r.relists call = false) (Review.start s) calls :=
  throughout_gateHolds_iff calls (gateHolds_start s)

/-- The owner. -/
def kitchenOwner : AccessTokenPayload := ⟨1, .restaurantOwner⟩

/-- Youverify verifies a restaurant, and its first dish lists it; then come a new name and a second
dish. -/
def newName : List ListingCall :=
  [.create .restaurant kitchenOwner
      ⟨"Burgundy Kitchen", .absent, .absent, .absent, .absent, "cac.pdf", "RC1234567", "NGN",
        "Nigeria"⟩ 0 (.verified "Burgundy Kitchen" none "ACTIVE"),
    .createCategory (.restaurant 0) kitchenOwner ⟨"Mains", .absent⟩,
    .createItem (.restaurant 0) kitchenOwner ⟨0, "Jollof", 1200, none⟩,
    .update (.restaurant 0) kitchenOwner
      { UpdateBusinessDto.empty with name := .value "Somebody Else" },
    .createItem (.restaurant 0) kitchenOwner ⟨0, "Suya", 1200, none⟩]

/-- **An owner renames the restaurant, adds a dish and is live again.** -/
theorem relisted_by_an_item : ¬ ∀ calls : List ListingCall,
    Throughout Review.step GateHolds (Review.start .empty) calls := by
  intro hall
  have halong := (throughout_gateHolds_iff newName (gateHolds_start .empty)).mp (hall newName)
  revert halong
  decide +kernel

end FoodDelivery
