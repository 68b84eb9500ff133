import FoodDelivery.Lib.Grouping
import FoodDelivery.Menu.Menu

/-!
# What a menu lists

`getMenu` shows an item under its category, so that one whose category is gone, or is spelled
otherwise than the server spells it, is in no menu.  `deleteCategory` deletes the items first and
the category then: an item that is filed in between stays behind.

* `OrderlyMenu`: ids come as the server spells them, and nothing is filed under a category that is
  being deleted.
* `filed_kept`: what each event keeps.
* `menu_lists_each`: every run.
-/

namespace FoodDelivery

open Store Interleave Paging ProductsService MenuPc

/-! ## Orderly runs -/

/-- The ids of restaurants and categories that a request names. -/
def MenuTask.texts : MenuTask → List IdText
  | .createCategory _ => []
  | .updateCategory categoryId _ => [categoryId]
  | .deleteCategory categoryId => [categoryId]
  | .createItem dto => [dto.categoryId]
  | .updateItem _ dto => dto.categoryId.toOption.toList
  | .deleteItem _ => []
  | .toggleItemAvailability _ => []

def MenuRequest.texts (request : MenuRequest) : List IdText :=
  request.restaurantId :: request.task.texts

/-- No request files an item under a category that another one is deleting. -/
def MenuPool.apart (s : MenuPool) : Bool :=
  s.procs.all fun p => s.procs.all fun q => p.filing.isNone || p.filing ≠ q.deleting

/-- Ids come as the server spells them, and nothing is filed under a category that is being
deleted. -/
def OrderlyMenu (s : MenuPool) : MenuEvent → Bool
  | .spawn request => request.texts.all fun t => t.capitals = 0
  | .run i r => (menus.next s (.run i r)).all MenuPool.apart
  | .env _ => true

/-! ## Items and their categories -/

/-- The category is there, and is the restaurant's. -/
def Menu.HasCategory (s : Menu) (restaurantId categoryId : IdText) : Prop :=
  ∃ category, s.categories.live categoryId.id = some category ∧
    category.restaurantId = restaurantId

/-- Every item is filed under a category of its restaurant. -/
structure Menu.Filed (s : Menu) : Prop where
  category : ∀ id item, s.items.live id = some item →
    s.HasCategory item.restaurantId item.categoryId
  plain : ∀ id item, s.items.live id = some item →
    item.restaurantId.capitals = 0 ∧ item.categoryId.capitals = 0

namespace MenuPc

/-- The ids of restaurants and categories that a request goes on with. -/
def texts : MenuPc → List IdText
  | owner request => request.texts
  | categoryCreate restaurantId _ => [restaurantId]
  | categoryFind restaurantId _ _ => [restaurantId]
  | deleteFind restaurantId categoryId => [restaurantId, categoryId]
  | itemsDelete restaurantId categoryId => [restaurantId, categoryId]
  | categoryDelete restaurantId categoryId => [restaurantId, categoryId]
  | filingFind restaurantId dto => [restaurantId, dto.categoryId]
  | itemCreate restaurantId dto => [restaurantId, dto.categoryId]
  | movingFind restaurantId _ categoryId dto =>
    restaurantId :: categoryId :: dto.categoryId.toOption.toList
  | itemFind restaurantId _ dto => restaurantId :: dto.categoryId.toOption.toList
  | itemSave _ dto found => found.restaurantId :: dto.categoryId.toOption.toList
  | _ => []

/-- What a request has made sure of. -/
structure Filed (s : Menu) (pc : MenuPc) : Prop where
  plain : ∀ t ∈ pc.texts, t.capitals = 0
  moving : ∀ categoryId dto, pc.moving = some (categoryId, dto) → dto.categoryId = .value categoryId
  filing : ∀ restaurantId categoryId, pc.filing = some (restaurantId, categoryId) →
    s.HasCategory restaurantId categoryId
  emptied : ∀ restaurantId categoryId, pc = .categoryDelete restaurantId categoryId →
    ∀ id item, s.items.live id = some item →
      item.restaurantId ≠ restaurantId ∨ item.categoryId ≠ categoryId
  saving : ∀ id dto found, pc.saving = some (id, dto, found) → id < s.items.nextId ∧
    ∀ current, s.items.live id = some current → current.restaurantId = found.restaurantId

/-- One files under what the other deletes. -/
def Clashes (p q : MenuPc) : Prop := ∃ x, p.filing = some x ∧ q.deleting = some x

end MenuPc

/-- Every item is filed, and nothing is filed under what is being deleted. -/
def filed : Outline Menu MenuPc where
  shared := Menu.Filed
  proc s pc := pc.Filed s
  compat p q := ¬ p.Clashes q ∧ ¬ q.Clashes p
  symm _ _ h := ⟨h.2, h.1⟩

section Steps

variable {s s' : Menu} {pc pc' : MenuPc}

theorem plain_eq {t : IdText} (h : t.capitals = 0) : t = IdText.of t.id := by
  cases t
  simp_all [IdText.of]

theorem of_idle (h : pc.idle = true) :
    pc.texts = [] ∧ pc.filing = none ∧ pc.moving = none ∧ pc.deleting = none ∧
      pc.saving = none := by
  cases pc <;> simp_all [idle, MenuPc.texts, filing, moving, deleting, saving]

/-- A request that files, moves and saves nothing has only its ids to be sure of. -/
theorem MenuPc.Filed.of_none (hplain : ∀ t ∈ pc.texts, t.capitals = 0) (hfiling : pc.filing = none)
    (hmoving : pc.moving = none) (hsaving : pc.saving = none)
    (hemptied : ∀ restaurantId categoryId, pc ≠ .categoryDelete restaurantId categoryId) :
    pc.Filed s := by
  refine ⟨hplain, ?_, ?_, ?_, ?_⟩
  · intro categoryId dto hp
    simp [hmoving] at hp
  · intro restaurantId categoryId hp
    simp [hfiling] at hp
  · intro restaurantId categoryId hp
    exact absurd hp (hemptied restaurantId categoryId)
  · intro id dto found hp
    simp [hsaving] at hp

theorem MenuPc.Filed.of_idle (h : pc.idle = true) : pc.Filed s := by
  obtain ⟨htexts, hfiling, hmoving, hdeleting, hsaving⟩ := FoodDelivery.of_idle h
  refine .of_none (by simp [htexts]) hfiling hmoving hsaving ?_
  intro restaurantId categoryId hp
  simp [hp, deleting] at hdeleting

theorem filed_begin {request : MenuRequest} (hplain : ∀ t ∈ request.texts, t.capitals = 0) :
    (request.task.begin request.restaurantId).Filed s := by
  obtain ⟨restaurantId, requester, task⟩ := request
  cases task with
  | updateItem itemId dto =>
    cases hcategory : dto.categoryId with
    | value categoryId =>
      simp only [MenuTask.begin, hcategory]
      refine ⟨?_, ?_, ?_, ?_, ?_⟩
      · simp_all [MenuRequest.texts, MenuTask.texts, MenuPc.texts, Given.toOption]
      · intro categoryId' dto' h
        simp only [moving, Option.some.injEq, Prod.mk.injEq] at h
        rw [← h.1, ← h.2, hcategory]
      · intro restaurantId' categoryId' h
        cases h
      · intro restaurantId' categoryId' h
        cases h
      · intro id dto' found h
        cases h
    | _ =>
      simp only [MenuTask.begin, hcategory]
      apply MenuPc.Filed.of_none
      · simp_all [MenuRequest.texts, MenuTask.texts, MenuPc.texts, Given.toOption]
      · simp [filing, hcategory, Given.toOption]
      · rfl
      · rfl
      · simp
  | _ =>
    apply MenuPc.Filed.of_none
    · simp_all [MenuTask.begin, MenuRequest.texts, MenuTask.texts, MenuPc.texts]
    · rfl
    · rfl
    · rfl
    · simp [MenuTask.begin]

/-- **What a request has made sure of by its next call.** -/
theorem filed_moved (h : MenuMove s pc s' pc') (hpc : pc.Filed s) : pc'.Filed s' := by
  cases h with
  | same hidle => exact .of_idle hidle
  | begun => exact filed_begin hpc.plain
  | mayFile hcategory _ =>
    obtain ⟨hlive, hof⟩ := findCategory_eq_ok hcategory
    refine ⟨hpc.plain, ?_, ?_, ?_, ?_⟩
    · intro categoryId dto h
      cases h
    · intro restaurantId categoryId h
      cases h
      exact ⟨_, hlive, hof⟩
    · intro restaurantId categoryId h
      cases h
    · intro id dto found h
      cases h
  | @mayMove restaurantId itemId categoryId dto category hcategory =>
    obtain ⟨hlive, hof⟩ := findCategory_eq_ok hcategory
    have hmoves := hpc.moving _ _ rfl
    refine ⟨?_, ?_, ?_, ?_, ?_⟩
    · have hplain := hpc.plain
      simp only [MenuPc.texts, List.forall_mem_cons] at hplain ⊢
      exact ⟨hplain.1, hplain.2.2⟩
    · intro categoryId' dto' h
      cases h
    · intro restaurantId' categoryId' h
      simp only [filing, hmoves, Given.toOption, Option.map_some, Option.some.injEq,
        Prod.mk.injEq] at h
      rw [← h.1, ← h.2]
      exact ⟨_, hlive, hof⟩
    · intro restaurantId' categoryId' h
      cases h
    · intro id dto' found h
      cases h
  | @found restaurantId itemId dto item hitem _ =>
    obtain ⟨hlive, hof⟩ := findItem_eq_ok hitem
    subst hof
    refine ⟨hpc.plain, ?_, hpc.filing, ?_, ?_⟩
    · intro categoryId dto' h
      cases h
    · intro restaurantId' categoryId' h
      cases h
    · intro id dto' found h
      cases h
      refine ⟨Collection.lt_nextId_of_live hlive, ?_⟩
      intro current hcurrent
      rw [hlive, Option.some.injEq] at hcurrent
      rw [hcurrent]
  | mayDelete _ => exact .of_none hpc.plain rfl rfl rfl (by simp)
  | @itemsDeleted restaurantId categoryId =>
    refine ⟨hpc.plain, ?_, ?_, ?_, ?_⟩
    · intro categoryId' dto h
      cases h
    · intro restaurantId' categoryId' h
      cases h
    · intro restaurantId' categoryId' h id item hlive
      cases h
      have hkept := (live_of_removeWhere hlive).2
      by_cases hof : item.restaurantId = restaurantId
      · right
        simpa [hof] using hkept
      · exact Or.inl hof
    · intro id dto found h
      cases h
  | _ => exact .of_idle rfl

theorem plain_filing (hpc : pc.Filed s) {restaurantId categoryId : IdText}
    (h : pc.filing = some (restaurantId, categoryId)) :
    restaurantId.capitals = 0 ∧ categoryId.capitals = 0 := by
  have hplain := hpc.plain
  cases pc <;> simp_all [filing, MenuPc.texts]

/-- The item was there, in its category or to be moved to it, or it is the new one. -/
def Menu.CameFrom (s : Menu) (pc : MenuPc) (id : Nat) (item : MenuItemDocument) : Prop :=
  (∃ old, s.items.live id = some old ∧ old.restaurantId = item.restaurantId ∧
    (old.categoryId = item.categoryId ∨
      pc.filing = some (item.restaurantId, item.categoryId))) ∨
  (id = s.items.nextId ∧ pc.filing = some (item.restaurantId, item.categoryId))

theorem Menu.CameFrom.same {id : Nat} {item : MenuItemDocument}
    (h : s.items.live id = some item) : s.CameFrom pc id item :=
  Or.inl ⟨item, h, rfl, Or.inl rfl⟩

/-- A category that is saved is the one that was there, or the one that is given. -/
theorem saved_category {dto : UpdateMenuItemDto} {found current : MenuItemDocument} :
    (dto.save found current).categoryId = current.categoryId ∨
      dto.categoryId = .value (dto.save found current).categoryId := by
  simp only [UpdateMenuItemDto.save, savedRequired, savedPath]
  split
  · exact Or.inl rfl
  · cases dto.categoryId with
    | value categoryId => exact Or.inr rfl
    | _ => exact Or.inl rfl

/-- **Where the items come from.** -/
theorem came_from (h : MenuMove s pc s' pc') (hpc : pc.Filed s) {id : Nat}
    {item : MenuItemDocument} (hlive : s'.items.live id = some item) :
    s.CameFrom pc id item := by
  cases h with
  | itemsDeleted => exact .same (live_of_removeWhere hlive).1
  | removed => exact .same (live_of_removeWhere hlive).1
  | created =>
    rcases Collection.live_create_cases hlive with ⟨rfl, hnew⟩ | hold
    · cases hnew
      exact Or.inr ⟨rfl, rfl⟩
    · exact .same hold
  | @saved savedId dto found =>
    rcases Collection.live_modify_cases hlive with ⟨rfl, current, hcurrent, rfl⟩ | ⟨_, hold⟩
    · have hof := (hpc.saving _ _ _ rfl).2 current hcurrent
      refine Or.inl ⟨current, hcurrent, rfl, ?_⟩
      rcases @saved_category dto found current with hsame | hgiven
      · exact Or.inl hsame.symm
      · right
        show dto.categoryId.toOption.map (found.restaurantId, ·) =
          some (current.restaurantId, (dto.save found current).categoryId)
        rw [hof]
        simp [hgiven, Given.toOption]
    · exact .same hold
  | toggled =>
    rcases Collection.live_modify_cases hlive with ⟨rfl, current, hcurrent, rfl⟩ | ⟨_, hold⟩
    · exact Or.inl ⟨current, hcurrent, rfl, Or.inl rfl⟩
    · exact .same hold
  | _ => exact .same hlive

theorem items_nextId_le (h : MenuMove s pc s' pc') : s.items.nextId ≤ s'.items.nextId := by
  cases h <;> simp [Menu.deleteItemsOf, Menu.removeCategory, Menu.insertCategory,
    Menu.modifyCategory, Menu.insertItem, Menu.modifyItem, Menu.removeItem]

/-- **A category stays until it is deleted.** -/
theorem has_category (h : MenuMove s pc s' pc') (hpc : pc.Filed s)
    {restaurantId categoryId : IdText} (hplain : categoryId.capitals = 0)
    (hhas : s.HasCategory restaurantId categoryId)
    (hother : pc ≠ .categoryDelete restaurantId categoryId) :
    s'.HasCategory restaurantId categoryId := by
  obtain ⟨category, hlive, hof⟩ := hhas
  cases h with
  | @categoryDeleted deletedOf deleted =>
    refine ⟨category, ?_, hof⟩
    show (s.categories.removeWhere _).live categoryId.id = some category
    rw [Collection.live_removeWhere, hlive, Option.filter_some, if_pos]
    simp only [Bool.not_eq_true', Bool.and_eq_false_imp, decide_eq_true_eq, decide_eq_false_iff_not]
    intro hid hsame
    apply hother
    rw [plain_eq hplain, hid, ← plain_eq (hpc.plain deleted (by simp [MenuPc.texts])), ← hof, hsame]
  | categoryCreated => exact ⟨category, Collection.live_create_of_live hlive, hof⟩
  | @categorySaved id dto found =>
    by_cases hid : id = categoryId.id
    · refine ⟨dto.save found category, ?_, hof⟩
      show (s.categories.modify id _).live categoryId.id = _
      rw [Collection.live_modify, if_pos hid, hlive]
      rfl
    · refine ⟨category, ?_, hof⟩
      show (s.categories.modify id _).live categoryId.id = _
      rw [Collection.live_modify, if_neg hid, hlive]
  | _ => exact ⟨category, hlive, hof⟩

/-- Every item stays filed. -/
theorem items_filed (h : MenuMove s pc s' pc') (hs : s.Filed) (hpc : pc.Filed s) : s'.Filed := by
  have hcame : ∀ id item, s'.items.live id = some item →
      s.HasCategory item.restaurantId item.categoryId ∧
        item.restaurantId.capitals = 0 ∧ item.categoryId.capitals = 0 := by
    intro id item hlive
    rcases came_from h hpc hlive with ⟨old, hold, hof, hsame | hfiling⟩ | ⟨_, hfiling⟩
    · rw [← hof, ← hsame]
      exact ⟨hs.category id old hold, hs.plain id old hold⟩
    · exact ⟨hpc.filing _ _ hfiling, plain_filing hpc hfiling⟩
    · exact ⟨hpc.filing _ _ hfiling, plain_filing hpc hfiling⟩
  refine ⟨?_, fun id item hlive => (hcame id item hlive).2⟩
  intro id item hlive
  obtain ⟨hhas, _, hplain⟩ := hcame id item hlive
  refine has_category h hpc hplain hhas ?_
  -- a category is only deleted once its items are gone
  rintro rfl
  rcases came_from h hpc hlive with ⟨old, hold, hof, hsame | hfiling⟩ | ⟨_, hfiling⟩
  · have := hpc.emptied _ _ rfl id old hold
    rw [hof, hsame] at this
    simp at this
  · cases hfiling
  · cases hfiling

/-- **What a request has made sure of stands beside a call of another one**, unless one files under
what the other deletes. -/
theorem filed_beside (h : MenuMove s pc s' pc') (hpc : pc.Filed s) {q : MenuPc} (hq : q.Filed s)
    (hdeletes : ¬ q.Clashes pc) (hfiles : ¬ pc.Clashes q) : q.Filed s' := by
  refine ⟨hq.plain, hq.moving, ?_, ?_, ?_⟩
  · intro restaurantId categoryId hfiling
    refine has_category h hpc (plain_filing hq hfiling).2 (hq.filing _ _ hfiling) ?_
    rintro rfl
    exact hdeletes ⟨_, hfiling, rfl⟩
  · rintro restaurantId categoryId rfl id item hlive
    have hnot : pc.filing ≠ some (restaurantId, categoryId) := by
      intro hfiling
      exact hfiles ⟨_, hfiling, rfl⟩
    rcases came_from h hpc hlive with ⟨old, hold, hof, hsame | hfiling⟩ | ⟨_, hfiling⟩
    · rw [← hof, ← hsame]
      exact hq.emptied _ _ rfl id old hold
    · by_contra hsame
      push Not at hsame
      exact hnot (hsame.1 ▸ hsame.2 ▸ hfiling)
    · by_contra hsame
      push Not at hsame
      exact hnot (hsame.1 ▸ hsame.2 ▸ hfiling)
  · intro id dto found hsaving
    obtain ⟨hlt, hof⟩ := hq.saving id dto found hsaving
    refine ⟨Nat.lt_of_lt_of_le hlt (items_nextId_le h), ?_⟩
    intro current hcurrent
    rcases came_from h hpc hcurrent with ⟨old, hold, hsame, _⟩ | ⟨rfl, _⟩
    · rw [← hsame]
      exact hof old hold
    · omega

/-- Requests that are apart do not clash. -/
theorem not_clashes {t : MenuPool} (h : t.apart = true) {p q : MenuPc} (hp : p ∈ t.procs)
    (hq : q ∈ t.procs) : ¬ p.Clashes q := by
  rintro ⟨x, hfiling, hdeleting⟩
  have := List.all_eq_true.mp (List.all_eq_true.mp h p hp) q hq
  simp [hfiling, hdeleting] at this

end Steps

/-! ## Runs -/

section Runs

/-- What each event keeps. -/
theorem filed_kept :
    filed.Kept menus (fun s e => OrderlyMenu s e = true) fun _ => True where
  spawn := by
    intro s request _ hok _
    constructor
    · have hplain : ∀ t ∈ request.texts, t.capitals = 0 := by
        simpa [OrderlyMenu, List.all_eq_true] using hok
      exact .of_none hplain rfl rfl rfl (by simp [menus])
    · intro q _
      simp [filed, MenuPc.Clashes, menus, filing, deleting]
  run := by
    intro s i r p w p' _ hok hs hp hstep
    have hmove := menu_move hstep
    have hpc := hs.at hp
    -- after the step no request clashes with another
    have hnext : menus.next s (.run i r) = some ⟨w, s.procs.set i p'⟩ := by
      simp [Machine.next, hp, hstep]
    have hapart : MenuPool.apart ⟨w, s.procs.set i p'⟩ = true := by
      simpa [OrderlyMenu, hnext] using hok
    have hi : i < s.procs.length := (List.getElem?_eq_some_iff.mp hp).1
    refine ⟨items_filed hmove hs.shared hpc, filed_moved hmove hpc, ?_⟩
    intro j q hij hq hfiled hcompat
    refine ⟨filed_beside hmove hpc hfiled hcompat.2 hcompat.1, ?_⟩
    have hmem : q ∈ s.procs.set i p' :=
      List.mem_iff_getElem?.mpr ⟨j, by rw [List.getElem?_set_ne hij, hq]⟩
    have hself : p' ∈ s.procs.set i p' := List.mem_set hi p'
    exact ⟨not_clashes hapart hself hmem, not_clashes hapart hmem hself⟩
  env := by
    intro s ownerId w _ _ hs henv
    cases henv
    refine ⟨⟨hs.shared.category, hs.shared.plain⟩, ?_⟩
    intro q hq
    have h := hs.procs q hq
    exact ⟨h.plain, h.moving, h.filing, h.emptied, h.saving⟩

variable {s : MenuPool}

theorem filed_of_reach (h : menus.Reach (fun s e => OrderlyMenu s e = true) MenuPool.initial s) :
    s.shared.Filed := by
  refine (Outline.holds_of_reach filed_kept (fun _ _ => trivial) (Outline.holds_nil ?_) h).shared
  constructor
  · intro id item hlive
    simp [Menu.empty, Collection.live_empty] at hlive
  · intro id item hlive
    simp [Menu.empty, Collection.live_empty] at hlive

/-- Where every item is filed, the sections hold each item of the restaurant once. -/
theorem Menu.Filed.perm_sections {s : Menu} (h : s.Filed) (r : Nat) :
    ((s.getMenu (IdText.of r)).flatMap (·.items)).Perm (s.itemsOf (IdText.of r)) := by
  have hsections : (s.getMenu (IdText.of r)).flatMap (·.items) =
      ((s.categoriesOf (IdText.of r)).map fun category => IdText.of category.1).flatMap
        fun k => (s.itemsOf (IdText.of r)).filter fun item => item.2.categoryId = k := by
    rw [Menu.getMenu, List.flatMap_map, List.flatMap_map]
  rw [hsections]
  apply Grouping.perm_flatMap_filter
  · have hids : ((s.categoriesOf (IdText.of r)).map (·.1)).Nodup :=
      ((perm_sortBy _).map _).nodup_iff.mpr Collection.nodup_findLive
    have hinj : Function.Injective IdText.of := by
      intro a b hab
      exact congrArg IdText.id hab
    have := hids.map hinj
    rwa [List.map_map] at this
  · intro item hitem
    obtain ⟨hlive, hof⟩ := Collection.mem_findLive.mp ((perm_sortBy _).mem_iff.mp hitem)
    obtain ⟨category, hcategory, hsame⟩ := h.category _ _ hlive
    rw [of_decide_eq_true hof] at hsame
    refine List.mem_map.mpr ⟨(item.2.categoryId.id, category), ?_, ?_⟩
    · exact (perm_sortBy _).mem_iff.mpr
        (Collection.mem_findLive.mpr ⟨hcategory, decide_eq_true hsame⟩)
    · exact (plain_eq (h.plain _ _ hlive).2).symm

/-- Ids that are spelled alike are compared as they are meant. -/
theorem Menu.Filed.itemsOf_perm {s : Menu} (h : s.Filed) (r : Nat) :
    (s.itemsOf (IdText.of r)).Perm (s.items.findLive fun _ item => item.restaurantId.id = r) := by
  refine (perm_sortBy _).trans ?_
  rw [List.perm_ext_iff_of_nodup (List.Nodup.of_map _ Collection.nodup_findLive)
    (List.Nodup.of_map _ Collection.nodup_findLive)]
  intro item
  simp only [Collection.mem_findLive, decide_eq_true_eq]
  refine and_congr_right fun hlive => ?_
  constructor
  · intro hof
    rw [hof]
    rfl
  · intro hid
    rw [plain_eq (h.plain _ _ hlive).1, hid]

/-- The owner of restaurant `0` and what it asks for. -/
def asksFor (task : MenuTask) : MenuEvent :=
  .spawn ⟨.of 0, ⟨1, .restaurantOwner⟩, task⟩

/-- Two dishes are filed under a category and one under another, which is deleted while the first
one is renamed. -/
def dishes : List MenuEvent :=
  [.env 1, asksFor (.createCategory ⟨"Soups", .absent⟩),
    asksFor (.createCategory ⟨"Pies", .absent⟩), .run 0 (), .run 1 (), .run 0 (), .run 1 (),
    asksFor (.createItem ⟨.of 0, "Miso", (5 : ℕ), .absent, .absent⟩),
    asksFor (.createItem ⟨.of 1, "Apple", (4 : ℕ), .absent, .absent⟩),
    asksFor (.createItem ⟨.of 0, "Pea", (5 : ℕ), .value (4 : ℕ), .absent⟩),
    .run 2 (), .run 3 (), .run 4 (), .run 4 (), .run 3 (), .run 2 (), .run 2 (), .run 3 (),
    .run 4 (),
    asksFor (.deleteCategory (.of 1)), asksFor (.updateCategory (.of 0) ⟨.value "Hot", .absent⟩),
    .run 5 (), .run 6 (), .run 5 (), .run 6 (), .run 5 (), .run 6 (), .run 5 ()]

/-- **A menu lists each item of its restaurant once**, in every run of any number of requests in
which nothing is filed under a category that is being deleted. -/
theorem menu_lists_each (h : menus.Reach (fun s e => OrderlyMenu s e = true) MenuPool.initial s)
    (r : Nat) :
    ((s.shared.getMenu (IdText.of r)).flatMap (·.items)).Perm
      (s.shared.items.findLive fun _ item => item.restaurantId.id = r) :=
  ((filed_of_reach h).perm_sections r).trans ((filed_of_reach h).itemsOf_perm r)

/-- A category with two dishes is renamed while another is deleted: the dishes are listed. -/
theorem menu_lists_each_dishes :
    ∃ s, menus.Reach (fun s e => OrderlyMenu s e = true) MenuPool.initial s ∧
      (s.shared.items.findLive fun _ item => item.restaurantId.id = 0).length = 2 ∧
      ((s.shared.getMenu (IdText.of 0)).flatMap (·.items)).Perm
        (s.shared.items.findLive fun _ item => item.restaurantId.id = 0) := by
  have hrun : (menus.play OrderlyMenu MenuPool.initial dishes).any (fun s =>
      decide ((s.shared.items.findLive fun _ item => item.restaurantId.id = 0).length = 2)) =
      true := by
    decide +kernel
  obtain ⟨s, h, hlength⟩ := Machine.exists_reach_of_play (fun _ _ h => h) dishes hrun
  exact ⟨s, h, of_decide_eq_true hlength, menu_lists_each h 0⟩

/-- A dish that is filed between the two deletions is in no menu. -/
example : ∃ s, menus.exec MenuPool.initial [.env 1, asksFor (.createCategory ⟨"Soups", .absent⟩),
      .run 0 (), .run 0 (), asksFor (.createItem ⟨.of 0, "Miso", (5 : ℕ), .absent, .absent⟩),
      asksFor (.deleteCategory (.of 0)), .run 1 (), .run 1 (), .run 2 (), .run 2 (), .run 2 (),
      .run 1 (), .run 2 ()] = some s ∧
    (s.shared.items.live 0).isSome ∧ s.shared.getMenu (IdText.of 0) = [] := by
  refine ⟨_, rfl, ?_⟩
  decide +kernel

end Runs

end FoodDelivery
