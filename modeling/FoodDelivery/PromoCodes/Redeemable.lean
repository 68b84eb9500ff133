import FoodDelivery.Orders.Pricing

/-!
# What is advertised can be redeemed

`findActiveForSeller` and `findActivePlatformWide` ask the database which codes can be used;
`validate` looks a code up again and asks the document.  A document that is older than a path, or
was written past the schema, lacks the path: a filter on `null` finds it all the same, and the
checks on the document are made to.

* `advertised_redeemable`: what the two queries return is accepted by `validate`, and takes off no
  more than the subtotal and the cap of the code.
* `validate_document`: the document's checks are those of `PromoCode.validate`.
* `stored_step`, `Kept.collection`: the calls of the service keep the codes as the schema has them.
-/

namespace FoodDelivery

open Store

namespace Given

variable {α : Type}

/-- `{ path: null }` finds the document. -/
def isNull : Given α → Bool
  | value _ => false
  | _ => true

/-- `{ path: a }` finds the document. -/
def equals [DecidableEq α] (given : Given α) (a : α) : Bool := given = value a

theorem toOption_eq_none_of_isNull {given : Given α} (h : given.isNull = true) :
    given.toOption = none := by
  cases given with
  | value a => cases h
  | _ => rfl

theorem eq_value_of_equals [DecidableEq α] {given : Given α} {a : α} (h : given.equals a = true) :
    given = value a := of_decide_eq_true h

end Given

/-! ## Documents -/

/-- A code as the database holds it. -/
structure PromoCodeDocument where
  code : String
  discountType : DiscountType
  discountValue : ℚ≥0
  minOrderAmount : Given ℚ≥0
  maxDiscountAmount : Given ℚ≥0
  restaurantId : Given VendorId
  storeId : Given VendorId
  expiresAt : Given Time
  isActive : Given Bool
  usageLimit : Given Nat
  usedCount : Nat
  deriving DecidableEq

namespace PromoCodeDocument

/-- The document, whether a path is missing or `null`. -/
def read (d : PromoCodeDocument) : PromoCode where
  code := d.code
  discountType := d.discountType
  discountValue := d.discountValue
  minOrderAmount := d.minOrderAmount.toOption
  maxDiscountAmount := d.maxDiscountAmount.toOption
  restaurantId := d.restaurantId.toOption
  storeId := d.storeId.toOption
  expiresAt := d.expiresAt.toOption
  isActive := d.isActive.toOption
  usageLimit := d.usageLimit.toOption
  usedCount := d.usedCount

/-! ### As filters read it -/

/-- `{ expiresAt: { $gt: now } }`, of a date only. -/
def expiresAfter (d : PromoCodeDocument) (now : Time) : Bool :=
  match d.expiresAt with
  | .value t => now < t
  | _ => false

/-- `{ $lt: ['$usedCount', '$usageLimit'] }`: nothing and `null` are below every number. -/
def underLimit (d : PromoCodeDocument) : Bool :=
  match d.usageLimit with
  | .value n => d.usedCount < n
  | _ => false

/-- What both filters ask. -/
def isUsable (d : PromoCodeDocument) (now : Time) : Bool :=
  d.isActive.equals true && (d.expiresAt.isNull || d.expiresAfter now) &&
    (d.usageLimit.isNull || d.underLimit)

def isPlatformWide (d : PromoCodeDocument) : Bool := d.restaurantId.isNull && d.storeId.isNull

/-- `sellerFilter`. -/
def isOf (d : PromoCodeDocument) : Seller → Bool
  | .restaurant sellerId => d.restaurantId.equals sellerId && d.storeId.isNull
  | .store sellerId => d.storeId.equals sellerId && d.restaurantId.isNull

/-! ### As `validate` reads it -/

/-- `usageLimit !== null && usedCount >= usageLimit`: a comparison with `undefined` fails. -/
def limitReached (d : PromoCodeDocument) : Bool :=
  d.usageLimit ≠ .null &&
    match d.usageLimit with
    | .value n => n ≤ d.usedCount
    | _ => false

def validFor (d : PromoCodeDocument) (seller : Seller) : Option String :=
  if d.restaurantId.toOption.any (Seller.restaurant · ≠ seller) then
    some "This promo code is not valid for this restaurant"
  else if d.storeId.toOption.any (Seller.store · ≠ seller) then
    some "This promo code is not valid for this store"
  else none

def validate (d : PromoCodeDocument) (id : PromoCodeId) (now : Time) (seller : Seller)
    (subtotal : ℚ) : PromoCodeValidation :=
  if d.isActive ≠ .value true then .invalid "This promo code is no longer active" none
  else if d.expiresAt.toOption.any (· < now) then .invalid "This promo code has expired" none
  else
    match d.validFor seller with
    | some reason => .invalid reason none
    | none =>
      if subtotal < (d.minOrderAmount.toOption.getD 0 : ℚ≥0) then
        .invalid "This promo code requires a higher minimum order" d.minOrderAmount.toOption
      else if d.limitReached then .invalid "This promo code has reached its usage limit" none
      else .valid id (d.read.discountAmount subtotal)

end PromoCodeDocument

/-! ## The service -/

/-- The codes as the schema lets them be: as its setters leave them, and each only once. -/
structure PromoCodeCollection (toUpperCaseTrim : String → String) where
  codes : Collection PromoCodeDocument
  normal : ∀ id d, codes.get id = some d → toUpperCaseTrim d.code = d.code
  unique : ∀ id id' d d', codes.get id = some d → codes.get id' = some d' → d.code = d'.code →
    id = id'

namespace PromoCodesService

section Service

variable {toUpperCaseTrim : String → String} (c : PromoCodeCollection toUpperCaseTrim) (now : Time)

/-- Newest first. -/
def findActiveForSeller (seller : Seller) : List (PromoCodeId × PromoCodeDocument) :=
  (c.codes.find fun _ d => d.isUsable now && (d.isPlatformWide || d.isOf seller)).reverse

def findActivePlatformWide : List (PromoCodeId × PromoCodeDocument) :=
  (c.codes.find fun _ d => d.isUsable now && d.isPlatformWide).reverse

def validate (code : String) (seller : Seller) (subtotal : ℚ) : PromoCodeValidation :=
  match (c.codes.find fun _ d => d.code = toUpperCaseTrim code).head? with
  | none => .invalid "Invalid promo code" none
  | some (id, d) => d.validate id now seller subtotal

/-- The code is accepted from its minimum on, and its discount stays within its bounds. -/
def Redeemable (seller : Seller) (d : PromoCodeDocument) : Prop :=
  ∀ subtotal : ℚ, (d.minOrderAmount.toOption.getD 0 : ℚ≥0) ≤ subtotal →
    ∃ id discountAmount, validate c now d.code seller subtotal = .valid id discountAmount ∧
      0 ≤ discountAmount ∧ discountAmount ≤ subtotal ∧
        ∀ cap, d.maxDiscountAmount = .value cap → discountAmount ≤ cap

end Service

/-! ## The checks on the document -/

section Documents

variable {d : PromoCodeDocument} {id : PromoCodeId} {now : Time} {seller : Seller} {subtotal : ℚ}

theorem limitReached_eq : d.limitReached = d.usageLimit.toOption.any (· ≤ d.usedCount) := by
  unfold PromoCodeDocument.limitReached
  cases d.usageLimit <;> rfl

theorem isActive_iff : d.isActive ≠ .value true ↔ d.isActive.toOption ≠ some true := by
  cases d.isActive <;> simp [Given.toOption]

/-- **The document's checks are those of the code that is read from it**, missing paths or not. -/
theorem validate_document (d : PromoCodeDocument) (id : PromoCodeId) (now : Time) (seller : Seller)
    (subtotal : ℚ) :
    d.validate id now seller subtotal = d.read.validate id now seller subtotal := by
  unfold PromoCodeDocument.validate PromoCode.validate
  rw [limitReached_eq]
  simp only [isActive_iff]
  rfl

/-- What the filters ask is what the document's checks ask. -/
theorem checks_of_isUsable (h : d.isUsable now = true) : d.isActive = .value true ∧
    d.expiresAt.toOption.any (· < now) = false ∧ d.limitReached = false := by
  simp only [PromoCodeDocument.isUsable, Bool.and_eq_true, Bool.or_eq_true] at h
  obtain ⟨⟨hactive, hexpires⟩, hlimit⟩ := h
  refine ⟨Given.eq_value_of_equals hactive, ?_, ?_⟩
  · rcases hexpires with hnull | hafter
    · rw [Given.toOption_eq_none_of_isNull hnull]
      rfl
    · unfold PromoCodeDocument.expiresAfter at hafter
      split at hafter
      · next t ht =>
        rw [ht]
        exact decide_eq_false (Nat.lt_asymm (of_decide_eq_true hafter))
      · cases hafter
  · rw [limitReached_eq]
    rcases hlimit with hnull | hunder
    · rw [Given.toOption_eq_none_of_isNull hnull]
      rfl
    · unfold PromoCodeDocument.underLimit at hunder
      split at hunder
      · next n hn =>
        rw [hn]
        exact decide_eq_false (Nat.not_le.mpr (of_decide_eq_true hunder))
      · cases hunder

theorem validFor_of_isPlatformWide (h : d.isPlatformWide = true) (seller : Seller) :
    d.validFor seller = none := by
  obtain ⟨hr, hs⟩ := Bool.and_eq_true_iff.mp h
  rw [PromoCodeDocument.validFor, Given.toOption_eq_none_of_isNull hr,
    Given.toOption_eq_none_of_isNull hs]
  rfl

theorem validFor_of_isOf (h : d.isOf seller = true) : d.validFor seller = none := by
  cases seller with
  | restaurant sellerId =>
    obtain ⟨hr, hs⟩ := Bool.and_eq_true_iff.mp h
    rw [PromoCodeDocument.validFor, Given.eq_value_of_equals hr,
      Given.toOption_eq_none_of_isNull hs]
    simp [Given.toOption]
  | store sellerId =>
    obtain ⟨hs, hr⟩ := Bool.and_eq_true_iff.mp h
    rw [PromoCodeDocument.validFor, Given.eq_value_of_equals hs,
      Given.toOption_eq_none_of_isNull hr]
    simp [Given.toOption]

/-- **A usable code of this seller, or of none, is accepted from its minimum on.** -/
theorem validate_of_isUsable (husable : d.isUsable now = true)
    (hseller : (d.isPlatformWide || d.isOf seller) = true)
    (hmin : (d.minOrderAmount.toOption.getD 0 : ℚ≥0) ≤ subtotal) :
    d.validate id now seller subtotal = .valid id (d.read.discountAmount subtotal) := by
  obtain ⟨hactive, hexpires, hlimit⟩ := checks_of_isUsable husable
  have hvalid : d.validFor seller = none := by
    rcases Bool.or_eq_true_iff.mp hseller with hwide | hof
    · exact validFor_of_isPlatformWide hwide seller
    · exact validFor_of_isOf hof
  rw [PromoCodeDocument.validate, if_neg (not_not.mpr hactive), hexpires, if_neg Bool.false_ne_true,
    hvalid]
  simp only [hlimit, Bool.false_eq_true, if_false, if_neg (not_lt.mpr hmin)]

/-- A cap is kept to. -/
theorem discountAmount_le_cap {cap : ℚ≥0} (h : d.maxDiscountAmount = .value cap) :
    d.read.discountAmount subtotal ≤ cap := by
  unfold PromoCode.discountAmount
  simp only [PromoCodeDocument.read, h, Given.toOption, Option.map_some, Option.getD_some]
  exact (min_le_left _ _).trans (min_le_right _ _)

end Documents

/-! ## Both queries -/

section Queries

variable {toUpperCaseTrim : String → String} {c : PromoCodeCollection toUpperCaseTrim} {now : Time}
  {seller : Seller} {id : PromoCodeId} {d : PromoCodeDocument}

/-- **A stored code is found again.** -/
theorem find_code (hget : c.codes.get id = some d) :
    (c.codes.find fun _ e => e.code = toUpperCaseTrim d.code).head? = some (id, d) := by
  rw [c.normal id d hget]
  cases hfind : (c.codes.find fun _ e => e.code = d.code).head? with
  | none =>
    have hmem : (id, d) ∈ c.codes.find fun _ e => e.code = d.code :=
      Collection.mem_find.mpr ⟨hget, decide_eq_true rfl⟩
    rw [List.head?_eq_none_iff.mp hfind] at hmem
    exact absurd hmem List.not_mem_nil
  | some found =>
    obtain ⟨hfound, hcode⟩ := Collection.mem_find.mp (List.mem_of_mem_head? hfind)
    have hid := c.unique found.1 id found.2 d hfound hget (of_decide_eq_true hcode)
    have hd : found.2 = d := Option.some.inj ((hid ▸ hfound).symm.trans hget)
    rw [← hid, ← hd]

theorem redeemable_of_isUsable (hget : c.codes.get id = some d) (husable : d.isUsable now = true)
    (hseller : (d.isPlatformWide || d.isOf seller) = true) : Redeemable c now seller d := by
  intro subtotal hmin
  have hsubtotal : 0 ≤ subtotal := le_trans (NNRat.cast_nonneg _) hmin
  obtain ⟨hnonneg, hle⟩ := d.read.discountAmount_bounds hsubtotal
  refine ⟨id, d.read.discountAmount subtotal, ?_, hnonneg, hle, fun cap =>
    discountAmount_le_cap⟩
  rw [validate, find_code hget]
  exact validate_of_isUsable husable hseller hmin

/-- **Every code that is advertised is accepted from its minimum on, for a discount of at least
nothing and at most the subtotal and its cap**: for any codes, any seller and any time. -/
theorem advertised_redeemable (c : PromoCodeCollection toUpperCaseTrim) (now : Time)
    (seller : Seller) : (∀ x ∈ findActiveForSeller c now seller, Redeemable c now seller x.2) ∧
      ∀ x ∈ findActivePlatformWide c now, Redeemable c now seller x.2 := by
  constructor
  · intro x hx
    obtain ⟨hget, hp⟩ := Collection.mem_find.mp (List.mem_reverse.mp hx)
    obtain ⟨husable, hseller⟩ := Bool.and_eq_true_iff.mp hp
    exact redeemable_of_isUsable hget husable hseller
  · intro x hx
    obtain ⟨hget, hp⟩ := Collection.mem_find.mp (List.mem_reverse.mp hx)
    obtain ⟨husable, hwide⟩ := Bool.and_eq_true_iff.mp hp
    exact redeemable_of_isUsable hget husable (Bool.or_eq_true_iff.mpr (Or.inl hwide))

/-- `validate` of order creation, on the codes as they are read. -/
theorem validate_catalogue (c : PromoCodeCollection toUpperCaseTrim) {catalogue : Catalogue}
    (hcodes : catalogue.promoCodes = ⟨c.codes.docs.map PromoCodeDocument.read⟩)
    (hcase : catalogue.toUpperCaseTrim = toUpperCaseTrim) (code : String) (seller : Seller)
    (subtotal : ℚ) :
    validate c catalogue.now code seller subtotal = catalogue.validate code seller subtotal := by
  have hfind : (catalogue.promoCodes.find fun _ p => p.code = toUpperCaseTrim code).head? =
      (c.codes.find fun _ d => d.code = toUpperCaseTrim code).head?.map
        fun x => (x.1, x.2.read) := by
    rw [hcodes, Collection.find_map, List.head?_map]
    rfl
  rw [validate, Catalogue.validate, hcase, hfind]
  cases (c.codes.find fun _ d => d.code = toUpperCaseTrim code).head? with
  | none => rfl
  | some found => exact validate_document found.2 found.1 catalogue.now seller subtotal

end Queries

/-! ## What the service stores -/

section Stored

variable {toUpperCaseTrim : String → String} {s s' : PromoCodes} {id i : PromoCodeId}
  {p p' : PromoCode}

/-- The codes of a state are as the schema lets them be. -/
structure Kept (toUpperCaseTrim : String → String) (s : PromoCodes) : Prop where
  normal : ∀ id p, s.codes.get id = some p → toUpperCaseTrim p.code = p.code
  unique : ∀ id id' p p', s.codes.get id = some p → s.codes.get id' = some p' →
    p.code = p'.code → id = id'

/-- The codes that a request gives have gone through the schema's setters. -/
def Normal (toUpperCaseTrim : String → String) : PromoCodeCall → Prop
  | .create dto _ => toUpperCaseTrim dto.code = dto.code
  | .update _ dto _ => ∀ code, dto.code = .value code → toUpperCaseTrim code = code
  | _ => True

theorem not_taken {code : String} (h : s.taken code id = false) (hi : i ≠ id)
    (hget : s.codes.get i = some p) : p.code ≠ code := by
  intro hcode
  have hfound : (s.codes.find fun i p => i ≠ id && p.code = code) ≠ [] :=
    Collection.find_ne_nil.mpr ⟨i, p, hget, by rw [decide_eq_true hi, decide_eq_true hcode]; rfl⟩
  exact of_decide_eq_false h hfound

/-- A code that no other document has is written to one document. -/
theorem kept_write {written : PromoCode} (h : Kept toUpperCaseTrim s)
    (hnormal : toUpperCaseTrim written.code = written.code)
    (htaken : s.taken written.code id = false)
    (hget : ∀ j p, s'.codes.get j = some p → (j = id ∧ p = written) ∨
      (j ≠ id ∧ s.codes.get j = some p)) : Kept toUpperCaseTrim s' where
  normal j p hj := by
    rcases hget j p hj with ⟨_, rfl⟩ | ⟨_, hold⟩
    · exact hnormal
    · exact h.normal j p hold
  unique j k p q hj hk hcode := by
    rcases hget j p hj with ⟨rfl, rfl⟩ | ⟨hj', hold⟩
    · rcases hget k q hk with ⟨rfl, _⟩ | ⟨hk', hold'⟩
      · rfl
      · exact absurd hcode.symm (not_taken htaken hk' hold')
    · rcases hget k q hk with ⟨rfl, rfl⟩ | ⟨_, hold'⟩
      · exact absurd hcode (not_taken htaken hj' hold)
      · exact h.unique j k p q hold hold' hcode

theorem kept_insert (h : Kept toUpperCaseTrim s) (hnormal : toUpperCaseTrim p.code = p.code)
    (hs : s.insert p = .ok s') : Kept toUpperCaseTrim s' := by
  unfold PromoCodes.insert at hs
  split at hs
  · cases hs
  · split at hs
    · cases hs
    · next htaken =>
      cases hs
      exact kept_write h hnormal (Bool.not_eq_true _ ▸ htaken) fun j q hj =>
        Collection.get_create_cases hj

theorem kept_update {dto : UpdatePromoCodeDto} {requester : AccessTokenPayload}
    (h : Kept toUpperCaseTrim s) (hnormal : Normal toUpperCaseTrim (.update id dto requester))
    (hs : s.update id dto requester = .ok s') : Kept toUpperCaseTrim s' := by
  obtain ⟨p, p', hget, _, hassign, htaken, rfl⟩ := update_ok hs
  have hcode := (PromoCode.assign_eq_some hassign).1
  have hnormal' : toUpperCaseTrim p'.code = p'.code := by
    cases hdto : dto.code with
    | absent =>
      rw [hdto] at hcode
      rw [← Option.some.inj hcode]
      exact h.normal id p hget
    | null => rw [hdto] at hcode; cases hcode
    | value code =>
      rw [hdto] at hcode
      rw [← Option.some.inj hcode]
      exact hnormal code hdto
  refine kept_write h hnormal' htaken fun j q hj => ?_
  rcases Collection.get_modify_cases hj with ⟨hid, _, _, hq⟩ | ⟨hid, hold⟩
  · exact Or.inl ⟨hid.symm, hq⟩
  · exact Or.inr ⟨Ne.symm hid, hold⟩

theorem code_redeem (p : PromoCode) : p.redeem.code = p.code := by
  unfold PromoCode.redeem
  split <;> rfl

theorem kept_redeem (h : Kept toUpperCaseTrim s) (id : PromoCodeId) :
    Kept toUpperCaseTrim { s with codes := s.codes.modify id PromoCode.redeem } := by
  have hcodes : ∀ j p, (s.codes.modify id PromoCode.redeem).get j = some p →
      ∃ q, s.codes.get j = some q ∧ p.code = q.code := by
    intro j p hj
    rcases Collection.get_modify_cases hj with ⟨_, q, hq, rfl⟩ | ⟨_, hold⟩
    · exact ⟨q, hq, code_redeem q⟩
    · exact ⟨p, hold, rfl⟩
  refine ⟨fun j p hj => ?_, fun j k p q hj hk hcode => ?_⟩
  · obtain ⟨p₀, hp₀, he⟩ := hcodes j p hj
    rw [he]
    exact h.normal j p₀ hp₀
  · obtain ⟨p₀, hp₀, he⟩ := hcodes j p hj
    obtain ⟨q₀, hq₀, he'⟩ := hcodes k q hk
    exact h.unique j k p₀ q₀ hp₀ hq₀ (he.symm.trans (hcode.trans he'))

/-- **A call of the service keeps the codes as the schema has them.** -/
theorem stored_step {call : PromoCodeCall} (h : Kept toUpperCaseTrim s)
    (hnormal : Normal toUpperCaseTrim call) : Kept toUpperCaseTrim (s.step call) := by
  cases hhandle : s.handle call with
  | error e =>
    rw [step_of_error hhandle]
    exact h
  | ok s' =>
    rw [step_of_ok hhandle]
    cases call with
    | create dto requester =>
      simp only [PromoCodes.handle, PromoCodes.guarded] at hhandle
      split at hhandle
      · unfold PromoCodes.create at hhandle
        split at hhandle
        · cases hhandle
        · split at hhandle
          · cases hhandle
          · have hcode : toUpperCaseTrim (PromoCode.created dto).code = dto.code := hnormal
            exact kept_insert h hcode hhandle
      · cases hhandle
    | update id dto requester =>
      simp only [PromoCodes.handle, PromoCodes.guarded] at hhandle
      split at hhandle
      · exact kept_update h hnormal hhandle
      · cases hhandle
    | redeem id => cases hhandle; exact kept_redeem h id
    | openRestaurant ownerId => cases hhandle; exact ⟨h.normal, h.unique⟩
    | openStore ownerId => cases hhandle; exact ⟨h.normal, h.unique⟩

/-- What the service wrote: every path is there. -/
def document (p : PromoCode) : PromoCodeDocument where
  code := p.code
  discountType := p.discountType
  discountValue := p.discountValue
  minOrderAmount := p.minOrderAmount.elim .null .value
  maxDiscountAmount := p.maxDiscountAmount.elim .null .value
  restaurantId := p.restaurantId.elim .null .value
  storeId := p.storeId.elim .null .value
  expiresAt := p.expiresAt.elim .null .value
  isActive := p.isActive.elim .null .value
  usageLimit := p.usageLimit.elim .null .value
  usedCount := p.usedCount

theorem get_documents {d : PromoCodeDocument}
    (h : (Collection.mk (s.codes.docs.map document)).get id = some d) :
    ∃ p, s.codes.get id = some p ∧ d.code = p.code := by
  rw [Collection.get, List.getElem?_map] at h
  obtain ⟨p, hp, rfl⟩ := Option.map_eq_some_iff.mp h
  exact ⟨p, hp, rfl⟩

/-- The collection that the service has written. -/
def Kept.collection (h : Kept toUpperCaseTrim s) : PromoCodeCollection toUpperCaseTrim where
  codes := ⟨s.codes.docs.map document⟩
  normal id d hd := by
    obtain ⟨p, hp, hcode⟩ := get_documents hd
    rw [hcode]
    exact h.normal id p hp
  unique id id' d d' hd hd' hcode := by
    obtain ⟨p, hp, he⟩ := get_documents hd
    obtain ⟨p', hp', he'⟩ := get_documents hd'
    exact h.unique id id' p p' hp hp' (he.symm.trans (hcode.trans he'))

end Stored

end PromoCodesService

/-! ## Old documents -/

/-- Platform-wide from before codes had sellers and limits, and one of restaurant 0. -/
def oldDocuments : Collection PromoCodeDocument :=
  ⟨[⟨"WELCOME", .percentage, 20, .absent, .value 7, .absent, .absent, .absent, .value true,
      .absent, 3⟩,
    ⟨"LUNCH", .fixed, 2, .value 8, .null, .value 0, .null, .value 9, .value true, .value 4, 3⟩]⟩

def oldAndNew : PromoCodeCollection id where
  codes := oldDocuments
  normal _ _ _ := rfl
  unique i j d d' hi hj hcode := by
    have hall : ∀ i < 2, ∀ j < 2, (oldDocuments.get i).map (·.code) =
        (oldDocuments.get j).map (·.code) → i = j := by
      decide
    refine hall i (Collection.lt_nextId_of_get hi) j (Collection.lt_nextId_of_get hj) ?_
    rw [hi, hj]
    exact congrArg some hcode

/-- Both are advertised by the restaurant, and can be redeemed there. -/
theorem advertised_redeemable_old :
    (PromoCodesService.findActiveForSeller oldAndNew 1 (.restaurant 0)).map (·.2.code) =
        ["LUNCH", "WELCOME"] ∧
      ∀ x ∈ PromoCodesService.findActiveForSeller oldAndNew 1 (.restaurant 0),
        PromoCodesService.Redeemable oldAndNew 1 (.restaurant 0) x.2 :=
  ⟨by decide, (PromoCodesService.advertised_redeemable oldAndNew 1 (.restaurant 0)).1⟩

end FoodDelivery
