import FoodDelivery.Menu.Listed

/-!
# Discounts below the price

A new item's discount is below its price, and `updateItem` checks what the item is to have against
what it had when it was found.  `save` writes the paths that have changed, so two requests that
reprice one item at once can leave a discount that neither of them has seen with its price.

* `OneAtATime`: no two requests are to save prices of one item.
* `priced_kept`: what each event keeps.
* `discounts_below`: every run.
-/

namespace FoodDelivery

open Store Interleave ProductsService MenuPc

/-! ## Requests that reprice -/

/-- The item that a request is to save a price of. -/
def MenuPc.repricing (pc : MenuPc) : Option Nat :=
  match pc with
  | itemSave id dto _ =>
    if dto.price.isDefined || dto.discountedPrice.isDefined then some id else none
  | _ => none

/-- No two requests are to save prices of one item. -/
def OneAtATime (s : MenuPool) : MenuEvent → Bool
  | .run i r => (menus.next s (.run i r)).all fun t =>
    decide (t.procs.filterMap MenuPc.repricing).Nodup
  | _ => true

/-- The discount, if there is one, is below the price. -/
def BelowPrice (price : ℚ≥0) (discountedPrice : Option ℚ≥0) : Prop :=
  ∀ d, discountedPrice = some d → d < price

theorem below_of_assert {price : ℚ≥0} {discountedPrice : Option ℚ≥0}
    (h : StoreCatalog.assertDiscountBelowPrice price discountedPrice = .ok ()) :
    BelowPrice price discountedPrice := by
  rintro d rfl
  by_contra hle
  simp [StoreCatalog.assertDiscountBelowPrice, not_lt.mp hle, badRequest] at h

/-! ## What a save leaves -/

section Saves

variable {dto : UpdateMenuItemDto} {found current : MenuItemDocument}

/-- Nobody has repriced the item since it was found. -/
def MenuItemDocument.PricedAs (current found : MenuItemDocument) : Prop :=
  current.price = found.price ∧ current.discountedPrice = found.discountedPrice

theorem savedPath_self {α : Type} [DecidableEq α] (given : Given α) (found : Option α) :
    savedPath given found found = given.onto found := by
  by_cases hleaves : given.onto found = found
  · simp [savedPath, Given.leaves, hleaves]
  · simp only [savedPath, Given.leaves, hleaves, decide_false, Bool.false_eq_true, if_false]
    cases given <;> simp_all [Given.onto, Given.toOption]

theorem savedRequired_self {α : Type} [DecidableEq α] (given : Given α) (found : α) :
    savedRequired given found found = given.toOption.getD found := by
  rw [savedRequired, savedPath_self]
  cases given <;> rfl

theorem savedPath_absent {α : Type} [DecidableEq α] (found current : Option α) :
    savedPath .absent found current = current := by
  simp [savedPath, Given.leaves, Given.onto]

/-- **The check is on what the item gets**, where nobody has repriced it in between. -/
theorem below_of_save (hcheck : dto.checkDiscount found = .ok ()) (h : current.PricedAs found) :
    BelowPrice (dto.save found current).price (dto.save found current).discountedPrice := by
  simp only [UpdateMenuItemDto.save, h.1, h.2, savedRequired_self, savedPath_self]
  exact below_of_assert hcheck

/-- A save that gives no price leaves those that are there. -/
theorem pricedAs_save {id : Nat} (h : (itemSave id dto found).repricing = none) :
    (dto.save found current).PricedAs current := by
  simp only [repricing, ite_eq_right_iff, reduceCtorEq, imp_false, Bool.or_eq_true, not_or] at h
  have hprice : dto.price = .absent := by
    cases hgiven : dto.price <;> simp_all [Given.isDefined]
  have hdiscount : dto.discountedPrice = .absent := by
    cases hgiven : dto.discountedPrice <;> simp_all [Given.isDefined]
  constructor
  · simp [UpdateMenuItemDto.save, savedRequired, hprice, savedPath_absent]
  · simp [UpdateMenuItemDto.save, hdiscount, savedPath_absent]

end Saves

/-! ## What is checked -/

/-- Every discount is below its price. -/
def Menu.Priced (s : Menu) : Prop :=
  ∀ id item, s.items.live id = some item → BelowPrice item.price item.discountedPrice

/-- What a request has checked. -/
structure MenuPc.Priced (s : Menu) (pc : MenuPc) : Prop where
  creating : ∀ restaurantId dto, pc = .itemCreate restaurantId dto →
    BelowPrice dto.price dto.discountedPrice.toOption
  saving : ∀ id dto found, pc.saving = some (id, dto, found) →
    dto.checkDiscount found = .ok () ∧ id < s.items.nextId ∧
      (pc.repricing = some id →
        ∀ current, s.items.live id = some current → current.PricedAs found)

/-- Every discount is below its price, and no two requests reprice one item. -/
def priced : Outline Menu MenuPc where
  shared := Menu.Priced
  proc s pc := pc.Priced s
  compat p q := ∀ id, p.repricing = some id → q.repricing ≠ some id
  symm _ _ h id hq hp := h id hp hq

section Steps

variable {s s' : Menu} {pc pc' : MenuPc}

/-- A request that is about to create or save nothing has nothing to have checked. -/
theorem MenuPc.Priced.of_none (hcreating : ∀ restaurantId dto, pc ≠ .itemCreate restaurantId dto)
    (hsaving : pc.saving = none) : pc.Priced s := by
  constructor
  · intro restaurantId dto h
    exact absurd h (hcreating restaurantId dto)
  · intro id dto found h
    simp [hsaving] at h

/-- **What a request has checked by its next call.** -/
theorem priced_moved (h : MenuMove s pc s' pc') (hpc : pc.Priced s) : pc'.Priced s' := by
  cases h with
  | same hidle =>
    refine .of_none ?_ (of_idle hidle).2.2.2.2
    rintro restaurantId dto rfl
    simp [idle] at hidle
  | @begun request =>
    obtain ⟨restaurantId, requester, task⟩ := request
    cases task with
    | updateItem itemId dto =>
      simp only [MenuTask.begin]
      split
      · exact .of_none (by simp) rfl
      · exact .of_none (by simp) rfl
    | _ => exact .of_none (by simp [MenuTask.begin]) rfl
  | mayFile _ hdiscount =>
    constructor
    · intro restaurantId dto h
      cases h
      exact below_of_assert hdiscount
    · intro id dto found h
      cases h
  | @found restaurantId itemId dto item hitem hdiscount =>
    obtain ⟨hlive, _⟩ := findItem_eq_ok hitem
    constructor
    · intro restaurantId' dto' h
      cases h
    · intro id dto' found h
      cases h
      refine ⟨hdiscount, Collection.lt_nextId_of_live hlive, ?_⟩
      intro _ current hcurrent
      rw [hlive, Option.some.injEq] at hcurrent
      exact hcurrent ▸ ⟨rfl, rfl⟩
  | _ => exact .of_none (by simp) rfl

/-- An item that is there afterwards is new, is the one the request reprices, or has the prices that
it had. -/
theorem prices_stay (h : MenuMove s pc s' pc') {id : Nat} {item : MenuItemDocument}
    (hlive : s'.items.live id = some item) :
    (∃ old, s.items.live id = some old ∧ item.PricedAs old) ∨ pc.repricing = some id ∨
      id = s.items.nextId := by
  cases h with
  | itemsDeleted => exact Or.inl ⟨item, (live_of_removeWhere hlive).1, rfl, rfl⟩
  | removed => exact Or.inl ⟨item, (live_of_removeWhere hlive).1, rfl, rfl⟩
  | created =>
    rcases Collection.live_create_cases hlive with ⟨rfl, _⟩ | hold
    · exact Or.inr (Or.inr rfl)
    · exact Or.inl ⟨item, hold, rfl, rfl⟩
  | @saved savedId dto found =>
    rcases Collection.live_modify_cases hlive with ⟨rfl, current, hcurrent, rfl⟩ | ⟨_, hold⟩
    · cases hprices : (itemSave savedId dto found).repricing with
      | none => exact Or.inl ⟨current, hcurrent, pricedAs_save hprices⟩
      | some id =>
        right
        left
        simp only [repricing, Option.ite_none_right_eq_some] at hprices
        exact hprices.2.symm
    · exact Or.inl ⟨item, hold, rfl, rfl⟩
  | toggled =>
    rcases Collection.live_modify_cases hlive with ⟨rfl, current, hcurrent, rfl⟩ | ⟨_, hold⟩
    · exact Or.inl ⟨current, hcurrent, rfl, rfl⟩
    · exact Or.inl ⟨item, hold, rfl, rfl⟩
  | _ => exact Or.inl ⟨item, hlive, rfl, rfl⟩

/-- Every discount stays below its price. -/
theorem items_priced (h : MenuMove s pc s' pc') (hs : s.Priced) (hpc : pc.Priced s) :
    s'.Priced := by
  intro id item hlive
  rcases prices_stay h hlive with ⟨old, hold, hprice, hdiscount⟩ | hreprices | rfl
  · rw [hprice, hdiscount]
    exact hs id old hold
  · cases h with
    | saved =>
      rename_i savedId dto found
      simp only [repricing, Option.ite_none_right_eq_some, Option.some.injEq] at hreprices
      obtain ⟨hprices, rfl⟩ := hreprices
      obtain ⟨hcheck, _, hsame⟩ := hpc.saving _ _ _ rfl
      rcases Collection.live_modify_cases hlive with ⟨_, current, hcurrent, rfl⟩ | ⟨hne, _⟩
      · exact below_of_save hcheck (hsame (by simp [repricing, hprices]) current hcurrent)
      · exact absurd rfl hne
    | same _ => exact hs id item hlive
    | _ => cases hreprices
  · cases h with
    | created =>
      rcases Collection.live_create_cases hlive with ⟨_, hnew⟩ | hold
      · cases hnew
        exact hpc.creating _ _ rfl
      · exact absurd (Collection.lt_nextId_of_live hold) (lt_irrefl _)
    | _ => exact absurd (Collection.lt_nextId_of_live hlive) (by
        simp [Menu.deleteItemsOf, Menu.removeCategory, Menu.insertCategory, Menu.modifyCategory,
          Menu.modifyItem, Menu.removeItem])

/-- **What a request has checked stands beside a call of another one** that does not reprice the
item. -/
theorem priced_beside (h : MenuMove s pc s' pc') {q : MenuPc} (hq : q.Priced s)
    (hother : ∀ id, pc.repricing = some id → q.repricing ≠ some id) : q.Priced s' := by
  refine ⟨hq.creating, ?_⟩
  intro id dto found hsaving
  obtain ⟨hcheck, hlt, hsame⟩ := hq.saving id dto found hsaving
  refine ⟨hcheck, Nat.lt_of_lt_of_le hlt (items_nextId_le h), ?_⟩
  intro hreprices current hcurrent
  rcases prices_stay h hcurrent with ⟨old, hold, hprice, hdiscount⟩ | hpc | rfl
  · obtain ⟨hwas, hwasDiscount⟩ := hsame hreprices old hold
    exact ⟨hprice.trans hwas, hdiscount.trans hwasDiscount⟩
  · exact absurd hreprices (hother id hpc)
  · omega

end Steps

/-! ## Runs -/

section Runs

/-- Of requests that are apart, no two reprice one item. -/
theorem repricing_ne {procs : List MenuPc} (h : (procs.filterMap repricing).Nodup) {i j : Nat}
    {p q : MenuPc} (hij : i ≠ j) (hp : procs[i]? = some p) (hq : procs[j]? = some q) :
    ∀ id, p.repricing = some id → q.repricing ≠ some id := by
  intro id hpid hqid
  have hpairs := List.pairwise_filterMap.mp h
  obtain ⟨hi, rfl⟩ := List.getElem?_eq_some_iff.mp hp
  obtain ⟨hj, rfl⟩ := List.getElem?_eq_some_iff.mp hq
  rcases Nat.lt_or_gt_of_ne hij with hlt | hlt
  · exact List.pairwise_iff_getElem.mp hpairs i j hi hj hlt id hpid id hqid rfl
  · exact List.pairwise_iff_getElem.mp hpairs j i hj hi hlt id hqid id hpid rfl

/-- What each event keeps. -/
theorem priced_kept :
    priced.Kept menus (fun s e => OneAtATime s e = true) fun _ => True where
  spawn := by
    intro s request _ _ _
    constructor
    · exact .of_none (by simp [menus]) rfl
    · intro q _ id h
      cases h
  run := by
    intro s i r p w p' _ hok hs hp hstep
    have hmove := menu_move hstep
    have hpc := hs.at hp
    have hnext : menus.next s (.run i r) = some ⟨w, s.procs.set i p'⟩ := by
      simp [Machine.next, hp, hstep]
    have hapart : ((s.procs.set i p').filterMap repricing).Nodup := by
      simpa [OneAtATime, hnext] using hok
    have hi : i < s.procs.length := (List.getElem?_eq_some_iff.mp hp).1
    refine ⟨items_priced hmove hs.shared hpc, priced_moved hmove hpc, ?_⟩
    intro j q hij hq hpriced hcompat
    refine ⟨priced_beside hmove hpriced hcompat, ?_⟩
    exact repricing_ne hapart hij (List.getElem?_set_self hi) (by rw [List.getElem?_set_ne hij, hq])
  env := by
    intro s ownerId w _ _ hs henv
    cases henv
    refine ⟨hs.shared, ?_⟩
    intro q hq
    have h := hs.procs q hq
    exact ⟨h.creating, h.saving⟩

variable {s : MenuPool}

/-- A soup, and its category. -/
def soup : List MenuEvent :=
  [.env 1, asksFor (.createCategory ⟨"Soups", .absent⟩), .run 0 (), .run 0 (),
    asksFor (.createItem ⟨.of 0, "Miso", (10 : ℕ), .absent, .absent⟩), .run 1 (), .run 1 (),
    .run 1 ()]

/-- Give the soup a price, or a discount. -/
def reprice (price discountedPrice : Given ℚ≥0) : MenuEvent :=
  asksFor (.updateItem (.of 0) ⟨.absent, .absent, price, discountedPrice, .absent⟩)

/-- **Every discount is below its price**, in every run of any number of requests of which no two
reprice one item at once. -/
theorem discounts_below (h : menus.Reach (fun s e => OneAtATime s e = true) MenuPool.initial s)
    {id : Nat} {item : MenuItemDocument} {d : ℚ≥0} (hlive : s.shared.items.live id = some item)
    (hdiscount : item.discountedPrice = some d) : d < item.price := by
  have hholds := Outline.holds_of_reach priced_kept (fun _ _ => trivial)
    (Outline.holds_nil (by simp [priced, Menu.Priced, Menu.empty, Collection.live_empty])) h
  exact hholds.shared id item hlive d hdiscount

/-- The soup is repriced while it is renamed. -/
theorem discounts_below_soup :
    ∃ s item, menus.Reach (fun s e => OneAtATime s e = true) MenuPool.initial s ∧
      s.shared.items.live 0 = some item ∧ item.discountedPrice = some 8 ∧ 8 < item.price := by
  have hrun : (menus.play OneAtATime MenuPool.initial (soup ++ [reprice .absent (.value 8),
      asksFor (.updateItem (.of 0) ⟨.absent, .value "Tofu", .absent, .absent, .absent⟩),
      .run 2 (), .run 3 (), .run 2 (), .run 3 (), .run 3 (), .run 2 ()])).any (fun s =>
        (s.shared.items.live 0).any fun item => decide (item.discountedPrice = some 8)) = true := by
    decide +kernel
  obtain ⟨s, h, hitem⟩ := Machine.exists_reach_of_play (fun _ _ h => h) _ hrun
  rw [Option.any_eq_true] at hitem
  obtain ⟨item, hlive, hdiscount⟩ := hitem
  exact ⟨s, item, h, hlive, of_decide_eq_true hdiscount,
    discounts_below h hlive (of_decide_eq_true hdiscount)⟩

/-- Where one request lowers the price while another one gives a discount on the old price, the
discount is above it. -/
example : ((menus.exec MenuPool.initial (soup ++ [reprice (.value 5) .absent,
      reprice .absent (.value 8), .run 2 (), .run 3 (), .run 2 (), .run 3 (), .run 2 (),
      .run 3 ()])).bind fun s => s.shared.items.live 0).map (fun item =>
        (item.price, item.discountedPrice)) = some (5, some 8) := by
  decide +kernel

end Runs

end FoodDelivery
