import FoodDelivery.Stores.Products
import FoodDelivery.Lib.Forest

/-!
# The categories of a store are a forest

Whether a category may be moved is decided by the walk that its deletion relies on, and the walk
comes to an end because no category has ever been moved under itself.

* `x_eq_ok`: what a request has checked and written when it is accepted.
* `Sound`: the categories are a forest, the walk ends and is exact, and so is deletion.
* `collect_map_of`: the loop of the code is the walk down the forest of the store.
* `Canonical.sound`: catalogs whose ids are spelled in small letters are sound.
-/

namespace FoodDelivery

open Store

namespace ProductsService

namespace StoreCatalog

variable {c c' : StoreCatalog} {storeId categoryId t p : IdText} {requester : AccessTokenPayload}
  {x y id : Nat}

/-- The category that a category stands right under. -/
def parentOf (c : StoreCatalog) (id : Nat) : Option Nat :=
  (c.categories.live id).bind fun category => category.parentCategoryId.map (·.id)

/-- The first is a subcategory of the second, at any depth. -/
abbrev Below (c : StoreCatalog) : Nat → Nat → Prop := Forest.Below c.parentOf

/-- The category with this id, or one below it. -/
def InSubtree (c : StoreCatalog) (id x : Nat) : Prop := x = id ∨ c.Below x id

/-- Exactly the subtree of the category is gone, with the products that are filed in it. -/
structure Pruned (c : StoreCatalog) (id : Nat) (c' : StoreCatalog) : Prop where
  gone : ∀ x, c.InSubtree id x → c'.categories.live x = none
  kept : ∀ x, ¬ c.InSubtree id x → c'.categories.live x = c.categories.live x
  products : ∀ i product, c'.products.live i = some product ↔
    c.products.live i = some product ∧ ¬ c.InSubtree id product.categoryId.id

/-- Every parent, and every category that a product is filed under, exists in the same store. -/
structure Linked (c : StoreCatalog) : Prop where
  parents : ∀ id category t, c.categories.live id = some category →
    category.parentCategoryId = some t →
      ∃ parent, c.categories.live t.id = some parent ∧ parent.storeId = category.storeId
  filed : ∀ i product, c.products.live i = some product →
    ∃ category, c.categories.live product.categoryId.id = some category ∧
      category.storeId = product.storeId

/-- **The categories are a forest**: parents exist and no category is below itself; the walk from
any category ends and returns what is below it, once; deletion removes the subtree and leaves no
orphan. -/
structure Sound (c : StoreCatalog) : Prop where
  linked : c.Linked
  acyclic : ∀ id, ¬ c.Below id id
  walks : ∀ id category, c.categories.live id = some category →
    ∃ ids : List Nat, c.collectDescendantIds category.storeId (.of id) = .ok (ids.map IdText.of) ∧
      ids.Nodup ∧ ∀ x, x ∈ ids ↔ c.Below x id
  deletes : ∀ id category requester, c.categories.live id = some category →
    c.assertOwnership category.storeId requester = .ok () →
      ∃ c', c.deleteCategory category.storeId (.of id) requester = .ok c' ∧ c.Pruned id c'

/-! ## What a request leaves -/

section Methods

theorem findCategoryOrThrow_eq_ok {category : ProductCategory} :
    c.findCategoryOrThrow storeId categoryId = .ok category ↔
      c.categories.live categoryId.id = some category ∧ category.storeId = storeId := by
  unfold findCategoryOrThrow
  split
  · next hnone =>
    refine iff_of_false (by rintro ⟨⟩) ?_
    rintro ⟨hlive, hstore⟩
    rw [hlive, Option.filter_some, decide_eq_true hstore] at hnone
    cases hnone
  · next found hsome =>
    rw [Option.filter_eq_some_iff, decide_eq_true_eq] at hsome
    rw [Except.ok.injEq, hsome.1]
    constructor
    · rintro rfl
      exact ⟨rfl, hsome.2⟩
    · rintro ⟨hlive, _⟩
      exact Option.some.inj hlive

theorem required_eq_ok {α : Type} {o : Option α} {a : α} : required o = .ok a ↔ o = some a := by
  cases o with
  | none => exact iff_of_false (by rintro ⟨⟩) (by rintro ⟨⟩)
  | some b => rw [required, Except.ok.injEq, Option.some.injEq]

theorem whenGiven_eq_ok {α : Type} {check : α → Except CatalogError Unit} {given : Given α}
    {u : Unit}
    (h : whenGiven check given = .ok u) (a : α) (ha : given = .value a) : check a = .ok () := by
  subst ha
  exact h

theorem map_eq_ok {α : Type} {e : Except CatalogError α} {u : Unit}
    (h : e.map (fun _ => ()) = .ok u) : ∃ a, e = .ok a := by
  cases e with
  | error _ => cases h
  | ok a => exact ⟨a, rfl⟩

theorem createCategory_eq_ok {dto : CreateProductCategoryDto}
    (h : c.createCategory storeId requester dto = .ok c') :
    (∀ t, dto.parentCategoryId = .value t → ∃ parent, c.categories.live t.id = some parent ∧
      parent.storeId = storeId) ∧
    ∃ category : ProductCategory, category.storeId = storeId ∧
      category.parentCategoryId = dto.parentCategoryId.toOption ∧
        c' = c.withCategories (c.categories.create (some category)) := by
  obtain ⟨_, _, h⟩ := bind_eq_ok.mp h
  obtain ⟨_, hparent, h⟩ := bind_eq_ok.mp h
  obtain ⟨name, _, h⟩ := bind_eq_ok.mp h
  cases h
  refine ⟨fun t ht => ?_, ⟨_, rfl, rfl, rfl⟩⟩
  obtain ⟨parent, hfound⟩ := map_eq_ok (whenGiven_eq_ok hparent t ht)
  exact ⟨parent, findCategoryOrThrow_eq_ok.mp hfound⟩

/-- What a category may be moved under, by the checks of the code. -/
theorem assertMayMove_eq_ok {u : Unit} (h : c.assertMayMove storeId categoryId t = .ok u) :
    t ≠ categoryId ∧ (∃ parent, c.categories.live t.id = some parent ∧ parent.storeId = storeId) ∧
      ∃ ids, c.collectDescendantIds storeId categoryId = .ok ids ∧ t ∉ ids := by
  unfold assertMayMove at h
  split at h
  · cases h
  · next hne =>
    obtain ⟨parent, hparent, h⟩ := bind_eq_ok.mp h
    obtain ⟨below, hbelow, h⟩ := bind_eq_ok.mp h
    obtain ⟨ids, hids, hmem⟩ := bind_eq_ok.mp hbelow
    cases hmem
    split at h
    · cases h
    · next hnot =>
      exact ⟨hne, ⟨parent, findCategoryOrThrow_eq_ok.mp hparent⟩, ids, hids, by simpa using hnot⟩

theorem updateCategory_eq_ok {dto : UpdateProductCategoryDto}
    (h : c.updateCategory storeId categoryId requester dto = .ok c') :
    (∃ category, c.categories.live categoryId.id = some category ∧ category.storeId = storeId) ∧
    (∀ t, dto.parentCategoryId = .value t → c.assertMayMove storeId categoryId t = .ok ()) ∧
    ∃ f : ProductCategory → ProductCategory, (∀ old, (f old).storeId = old.storeId ∧
      (f old).parentCategoryId = dto.parentCategoryId.onto old.parentCategoryId) ∧
        c' = c.withCategories (c.categories.modify categoryId.id (Option.map f)) := by
  obtain ⟨_, _, h⟩ := bind_eq_ok.mp h
  obtain ⟨category, hcategory, h⟩ := bind_eq_ok.mp h
  obtain ⟨_, hmove, h⟩ := bind_eq_ok.mp h
  obtain ⟨name, _, h⟩ := bind_eq_ok.mp h
  cases h
  refine ⟨⟨category, findCategoryOrThrow_eq_ok.mp hcategory⟩, whenGiven_eq_ok hmove, _, ?_, rfl⟩
  exact fun old => ⟨rfl, rfl⟩

theorem deleteCategory_eq_ok (h : c.deleteCategory storeId categoryId requester = .ok c') :
    (∃ category, c.categories.live categoryId.id = some category ∧ category.storeId = storeId) ∧
    ∃ ids, c.collectDescendantIds storeId categoryId = .ok ids ∧
      c' = c.deleteMany storeId (ids ++ [categoryId]) := by
  obtain ⟨_, _, h⟩ := bind_eq_ok.mp h
  obtain ⟨category, hcategory, h⟩ := bind_eq_ok.mp h
  obtain ⟨ids, hids, h⟩ := bind_eq_ok.mp h
  cases h
  exact ⟨⟨category, findCategoryOrThrow_eq_ok.mp hcategory⟩, ids, hids, rfl⟩

theorem findLeafCategoryOrThrow_eq_ok {category : ProductCategory}
    (h : c.findLeafCategoryOrThrow storeId categoryId = .ok category) :
    c.categories.live categoryId.id = some category ∧ category.storeId = storeId ∧
      c.childIds storeId [categoryId] = [] := by
  obtain ⟨found, hfound, h⟩ := bind_eq_ok.mp h
  obtain ⟨hlive, hstore⟩ := findCategoryOrThrow_eq_ok.mp hfound
  split at h
  · cases h
  · next hleaf =>
    cases h
    exact ⟨hlive, hstore, not_not.mp hleaf⟩

theorem createProduct_eq_ok {dto : CreateProductDto}
    (h : c.createProduct storeId requester dto = .ok c') :
    c.assertOwnership storeId requester = .ok () ∧
    (∃ category, c.findLeafCategoryOrThrow storeId dto.categoryId = .ok category) ∧
    ∃ product : Product, product.storeId = storeId ∧ product.categoryId = dto.categoryId ∧
      c' = c.withProducts (c.products.create (some product)) := by
  obtain ⟨_, howner, h⟩ := bind_eq_ok.mp h
  obtain ⟨category, hleaf, h⟩ := bind_eq_ok.mp h
  obtain ⟨_, _, h⟩ := bind_eq_ok.mp h
  obtain ⟨name, _, h⟩ := bind_eq_ok.mp h
  cases h
  exact ⟨howner, ⟨category, hleaf⟩, _, rfl, rfl, rfl⟩

theorem updateProduct_eq_ok {productId : IdText} {dto : UpdateProductDto}
    (h : c.updateProduct storeId productId requester dto = .ok c') :
    c.assertOwnership storeId requester = .ok () ∧
    (∀ t, dto.categoryId = .value t →
      ∃ category, c.findLeafCategoryOrThrow storeId t = .ok category) ∧
    ∃ (product : Product) (f : Product → Product), c.products.live productId.id = some product ∧
      product.storeId = storeId ∧ (f product).storeId = product.storeId ∧
        dto.categoryId.onto (some product.categoryId) = some (f product).categoryId ∧
          c' = c.withProducts (c.products.modify productId.id (Option.map f)) := by
  obtain ⟨_, howner, h⟩ := bind_eq_ok.mp h
  obtain ⟨_, hleaf, h⟩ := bind_eq_ok.mp h
  obtain ⟨product, hproduct, h⟩ := bind_eq_ok.mp h
  obtain ⟨_, _, h⟩ := bind_eq_ok.mp h
  obtain ⟨category, hcategory, h⟩ := bind_eq_ok.mp h
  obtain ⟨name, _, h⟩ := bind_eq_ok.mp h
  obtain ⟨price, _, h⟩ := bind_eq_ok.mp h
  cases h
  have hfound : c.products.live productId.id = some product ∧ product.storeId = storeId := by
    unfold findProductOrThrow at hproduct
    split at hproduct
    · cases hproduct
    · next found hsome =>
      cases hproduct
      rw [Option.filter_eq_some_iff, decide_eq_true_eq] at hsome
      exact hsome
  refine ⟨howner, fun t ht => map_eq_ok (whenGiven_eq_ok hleaf t ht), product, _, hfound.1,
    hfound.2, ?_, ?_, rfl⟩
  · rfl
  · exact required_eq_ok.mp hcategory

/-- After `updateProduct` a product is filed as it was, or under a leaf. -/
theorem filed_of_updateProduct {productId : IdText} {dto : UpdateProductDto} {i : Nat}
    {found : Product} (h : c.updateProduct storeId productId requester dto = .ok c')
    (hfound : c'.products.live i = some found) :
    (∃ old, c.products.live i = some old ∧ found.storeId = old.storeId ∧
      found.categoryId = old.categoryId) ∨
    ∃ t category, dto.categoryId = .value t ∧
      c.findLeafCategoryOrThrow storeId t = .ok category ∧ found.storeId = storeId ∧
        found.categoryId = t := by
  obtain ⟨_, hleaf, product, f, hlive, hstore, hsame, hfiled, rfl⟩ := updateProduct_eq_ok h
  rcases Collection.live_modify_cases hfound with ⟨rfl, old, hold, rfl⟩ | ⟨_, hold⟩
  · obtain rfl := Option.some.inj (hlive.symm.trans hold)
    cases hdto : dto.categoryId with
    | null =>
      rw [hdto] at hfiled
      cases hfiled
    | absent =>
      rw [hdto] at hfiled
      exact Or.inl ⟨product, hlive, hsame, (Option.some.inj hfiled).symm⟩
    | value t =>
      rw [hdto] at hfiled
      obtain ⟨category, hcategory⟩ := hleaf t hdto
      exact Or.inr ⟨t, category, rfl, hcategory, hsame.trans hstore, (Option.some.inj hfiled).symm⟩
  · exact Or.inl ⟨found, hold, rfl, rfl⟩

theorem deleteProduct_eq_ok {productId : IdText}
    (h : c.deleteProduct storeId productId requester = .ok c') :
    c' = c.withProducts (c.products.remove productId.id) := by
  obtain ⟨_, _, h⟩ := bind_eq_ok.mp h
  obtain ⟨_, _, h⟩ := bind_eq_ok.mp h
  cases h
  rfl

end Methods

/-! ## Ids that are spelled in small letters -/

theorem of_eq_iff : IdText.of t.id = t ↔ t.capitals = 0 := by
  obtain ⟨id, capitals⟩ := t
  simp only [IdText.of, IdText.mk.injEq, true_and]
  exact eq_comm

theorem mem_map_of {ids : List Nat} (h : t.capitals = 0) : t ∈ ids.map IdText.of ↔ t.id ∈ ids := by
  rw [List.mem_map]
  constructor
  · rintro ⟨x, hx, rfl⟩
    exact hx
  · intro hid
    exact ⟨t.id, hid, of_eq_iff.mpr h⟩

/-- What requests keep, as long as ids are spelled in small letters where it matters. -/
structure Canonical (c : StoreCatalog) : Prop where
  linked : c.Linked
  spelled : ∀ id category t, c.categories.live id = some category →
    category.parentCategoryId = some t → t.capitals = 0
  filedSpelled : ∀ i product, c.products.live i = some product → product.categoryId.capitals = 0
  rooted : ∀ x, Forest.Rooted c.parentOf x

theorem parentOf_eq_some : c.parentOf x = some y ↔ ∃ category t,
    c.categories.live x = some category ∧ category.parentCategoryId = some t ∧ t.id = y := by
  rw [parentOf, Option.bind_eq_some_iff]
  constructor
  · rintro ⟨category, hlive, hmap⟩
    obtain ⟨t, ht, rfl⟩ := Option.map_eq_some_iff.mp hmap
    exact ⟨category, t, hlive, ht, rfl⟩
  · rintro ⟨category, t, hlive, ht, rfl⟩
    exact ⟨category, hlive, by rw [ht]; rfl⟩

/-- The same for the categories of one store. -/
def parentIn (c : StoreCatalog) (storeId : IdText) (id : Nat) : Option Nat :=
  ((c.categories.live id).filter (·.storeId = storeId)).bind fun category =>
    category.parentCategoryId.map (·.id)

theorem parentIn_eq_some : c.parentIn storeId x = some y ↔ ∃ category t,
    c.categories.live x = some category ∧ category.storeId = storeId ∧
      category.parentCategoryId = some t ∧ t.id = y := by
  rw [parentIn, Option.bind_eq_some_iff]
  constructor
  · rintro ⟨category, hfilter, hmap⟩
    rw [Option.filter_eq_some_iff, decide_eq_true_eq] at hfilter
    obtain ⟨t, ht, rfl⟩ := Option.map_eq_some_iff.mp hmap
    exact ⟨category, t, hfilter.1, hfilter.2, ht, rfl⟩
  · rintro ⟨category, t, hlive, hstore, ht, rfl⟩
    refine ⟨category, ?_, by rw [ht]; rfl⟩
    rw [Option.filter_eq_some_iff, decide_eq_true_eq]
    exact ⟨hlive, hstore⟩

theorem parentIn_cut (c : StoreCatalog) (storeId : IdText) (x : Nat) :
    c.parentIn storeId x = none ∨ c.parentIn storeId x = c.parentOf x := by
  unfold parentIn parentOf
  cases c.categories.live x with
  | none => exact Or.inl rfl
  | some category =>
    by_cases hstore : category.storeId = storeId
    · exact Or.inr (by rw [Option.filter_some, decide_eq_true hstore, if_pos rfl])
    · exact Or.inl (by rw [Option.filter_some, decide_eq_false hstore]; rfl)

/-- **What is below a category is in its store.** -/
theorem store_of_below (h : c.Linked) {category : ProductCategory}
    (hlive : c.categories.live id = some category) (hbelow : c.Below x id) :
    ∃ found, c.categories.live x = some found ∧ found.storeId = category.storeId := by
  induction hbelow using Relation.TransGen.head_induction_on with
  | @single a hedge =>
    obtain ⟨found, t, hfound, ht, rfl⟩ := parentOf_eq_some.mp hedge
    obtain ⟨parent, hparent, hsame⟩ := h.parents a found t hfound ht
    rw [hlive, Option.some.injEq] at hparent
    exact ⟨found, hfound, by rw [hparent, hsame]⟩
  | @head a b hedge _ ih =>
    obtain ⟨above, habove, hstore⟩ := ih
    obtain ⟨found, t, hfound, ht, rfl⟩ := parentOf_eq_some.mp hedge
    obtain ⟨parent, hparent, hsame⟩ := h.parents a found t hfound ht
    rw [habove, Option.some.injEq] at hparent
    exact ⟨found, hfound, by rw [← hsame, ← hparent, hstore]⟩

theorem below_parentIn (h : c.Linked) {category : ProductCategory}
    (hlive : c.categories.live id = some category) :
    Forest.Below (c.parentIn category.storeId) x id ↔ c.Below x id := by
  constructor
  · refine fun hbelow => Relation.TransGen.mono (fun a b hab => ?_) x id hbelow
    obtain ⟨found, t, hfound, _, ht, hb⟩ := parentIn_eq_some.mp hab
    exact parentOf_eq_some.mpr ⟨found, t, hfound, ht, hb⟩
  · intro hbelow
    have hedge : ∀ a b, c.Below a id → c.parentOf a = some b →
        c.parentIn category.storeId a = some b := by
      intro a b ha hab
      obtain ⟨found, hfound, hstore⟩ := store_of_below h hlive ha
      obtain ⟨found', t, hfound', ht, hb⟩ := parentOf_eq_some.mp hab
      rw [hfound, Option.some.injEq] at hfound'
      exact parentIn_eq_some.mpr ⟨found, t, hfound, hstore, hfound' ▸ ht, hb⟩
    induction hbelow using Relation.TransGen.head_induction_on with
    | @single a hab => exact .single (hedge a id (.single hab) hab)
    | @head a b hab hrest ih => exact .head (hedge a b (.head hab hrest) hab) ih

/-! ### The walk -/

theorem mem_childIds {frontier : List IdText} : x ∈ c.childIds storeId frontier ↔
    ∃ category t, c.categories.live x = some category ∧ category.storeId = storeId ∧
      category.parentCategoryId = some t ∧ t ∈ frontier := by
  rw [childIds, Collection.map_fst_findLive, List.mem_filter, Option.any_eq_true]
  simp only [Bool.and_eq_true, decide_eq_true_eq, Option.any_eq_true, Collection.mem_ids]
  constructor
  · rintro ⟨_, category, hlive, hstore, t, ht, hmem⟩
    exact ⟨category, t, hlive, hstore, ht, hmem⟩
  · rintro ⟨category, t, hlive, hstore, ht, hmem⟩
    exact ⟨Collection.lt_nextId_of_live hlive, category, hlive, hstore, t, ht, hmem⟩

theorem childIds_map_of (storeId : IdText) (h : c.Canonical) (frontier : List Nat) :
    c.childIds storeId (frontier.map .of) =
      Forest.children (c.parentIn storeId) c.categories.ids frontier := by
  rw [childIds, Collection.map_fst_findLive, Forest.children]
  refine List.filter_congr fun x _ => ?_
  rw [Bool.eq_iff_iff, Option.any_eq_true, Option.any_eq_true]
  simp only [Bool.and_eq_true, decide_eq_true_eq, Option.any_eq_true]
  constructor
  · rintro ⟨category, hlive, hstore, t, ht, hmem⟩
    exact ⟨t.id, parentIn_eq_some.mpr ⟨category, t, hlive, hstore, ht, rfl⟩,
      (mem_map_of (h.spelled x category t hlive ht)).mp hmem⟩
  · rintro ⟨y, hy, hmem⟩
    obtain ⟨category, t, hlive, hstore, ht, rfl⟩ := parentIn_eq_some.mp hy
    exact ⟨category, hlive, hstore, t, ht,
      (mem_map_of (h.spelled x category t hlive ht)).mpr hmem⟩

/-- **The loop of the code is the walk down the forest of the store.** -/
theorem collect_map_of (storeId : IdText) (h : c.Canonical) (n : Nat) (frontier : List Nat) :
    c.collect storeId n (frontier.map .of) =
      (Forest.walk (c.parentIn storeId) c.categories.ids n frontier).map (List.map .of) := by
  induction n generalizing frontier with
  | zero => cases frontier <;> rfl
  | succ n ih =>
    cases frontier with
    | nil => rfl
    | cons x frontier =>
      have hchildren := childIds_map_of storeId h (x :: frontier)
      rw [List.map_cons] at hchildren ⊢
      rw [collect, Forest.walk, hchildren, ih, Option.map_map, Option.map_map]
      refine congrArg (fun f => Option.map f _) (funext fun ids => ?_)
      rw [Function.comp, Function.comp, List.map_append]

theorem Canonical.walks (h : c.Canonical) {category : ProductCategory}
    (hlive : c.categories.live id = some category) :
    ∃ ids : List Nat, c.collectDescendantIds category.storeId (.of id) = .ok (ids.map IdText.of) ∧
      ids.Nodup ∧ ∀ x, x ∈ ids ↔ c.Below x id := by
  have hclosed : ∀ x y, c.parentIn category.storeId x = some y → y ∈ c.categories.ids := by
    intro x y hy
    obtain ⟨found, t, hfound, _, ht, rfl⟩ := parentIn_eq_some.mp hy
    obtain ⟨parent, hparent, _⟩ := h.linked.parents x found t hfound ht
    exact Collection.mem_ids.mpr (Collection.lt_nextId_of_live hparent)
  have hsource : ∀ x y, c.parentIn category.storeId x = some y → x ∈ c.categories.ids := by
    intro x y hy
    obtain ⟨found, _, hfound, _⟩ := parentIn_eq_some.mp hy
    exact Collection.mem_ids.mpr (Collection.lt_nextId_of_live hfound)
  obtain ⟨ids, hwalk, hnodup, hmem⟩ := Forest.walk_eq_some hclosed hsource
    (fun x => (h.rooted x).cut (parentIn_cut c category.storeId)) List.nodup_range
    (Collection.mem_ids.mpr (Collection.lt_nextId_of_live hlive))
  refine ⟨ids, ?_, hnodup, fun x => (hmem x).trans (below_parentIn h.linked hlive)⟩
  have hlength : c.categories.ids.length = c.categories.nextId := List.length_range
  rw [hlength] at hwalk
  have hcollect := collect_map_of category.storeId h (c.categories.nextId + 1) [id]
  rw [Forest.walk_succ hwalk] at hcollect
  rw [collectDescendantIds, show [IdText.of id] = [id].map .of from rfl, hcollect]
  rfl

/-! ### Deletion -/

theorem live_deleteMany {categoryIds : List IdText} :
    (c.deleteMany storeId categoryIds).categories.live x =
      (c.categories.live x).filter fun category =>
        !(category.storeId = storeId && x ∈ categoryIds.map (·.id)) := by
  rw [deleteMany, Collection.live_removeWhere]

theorem products_deleteMany {categoryIds : List IdText} {i : Nat} {product : Product} :
    (c.deleteMany storeId categoryIds).products.live i = some product ↔
      c.products.live i = some product ∧
        ¬ (product.storeId = storeId ∧ product.categoryId ∈ categoryIds) := by
  rw [deleteMany, Collection.live_removeWhere, Option.filter_eq_some_iff]
  refine and_congr_right fun _ => ?_
  rw [Bool.not_eq_true', ← Bool.not_eq_true, Bool.and_eq_true, decide_eq_true_eq,
    decide_eq_true_eq]

/-- The categories that are deleted are those of one subtree. -/
theorem pruned_deleteMany (h : c.Linked) {category : ProductCategory}
    (hlive : c.categories.live id = some category) {categoryIds : List IdText}
    (hids : ∀ y, y ∈ categoryIds.map (·.id) ↔ c.InSubtree id y)
    (hproducts : ∀ i product, c.products.live i = some product →
      (product.categoryId ∈ categoryIds ↔ c.InSubtree id product.categoryId.id)) :
    c.Pruned id (c.deleteMany category.storeId categoryIds) := by
  have hstore : ∀ y found, c.InSubtree id y → c.categories.live y = some found →
      found.storeId = category.storeId := by
    rintro y found (rfl | hbelow) hfound
    · rw [hlive, Option.some.injEq] at hfound
      rw [hfound]
    · obtain ⟨other, hother, hsame⟩ := store_of_below h hlive hbelow
      rw [hfound, Option.some.injEq] at hother
      rw [hother, hsame]
  refine ⟨fun y hy => ?_, fun y hy => ?_, fun i product => ?_⟩
  · rw [live_deleteMany]
    cases hfound : c.categories.live y with
    | none => rfl
    | some found => simp [Option.filter_some, hstore y found hy hfound, (hids y).mpr hy]
  · rw [live_deleteMany]
    cases hfound : c.categories.live y with
    | none => rfl
    | some found =>
      have hnot : y ∉ categoryIds.map (·.id) := fun hmem => hy ((hids y).mp hmem)
      simp [Option.filter_some, hnot]
  · rw [products_deleteMany]
    refine and_congr_right fun hproduct => not_congr ?_
    rw [hproducts i product hproduct]
    refine and_iff_right_of_imp fun hin => ?_
    obtain ⟨found, hfound, hsame⟩ := h.filed i product hproduct
    rw [← hsame, hstore _ found hin hfound]

/-- **Deletion takes the subtree, and leaves a forest.** -/
theorem Canonical.pruned (h : c.Canonical) (hp : c.Pruned id c') : c'.Canonical := by
  have hback : ∀ y found, c'.categories.live y = some found →
      c.categories.live y = some found ∧ ¬ c.InSubtree id y := by
    intro y found hfound
    have hout : ¬ c.InSubtree id y := fun hin => by
      cases (hp.gone y hin).symm.trans hfound
    exact ⟨(hp.kept y hout) ▸ hfound, hout⟩
  refine ⟨⟨fun y found t hfound ht => ?_, fun i product hproduct => ?_⟩,
    fun y found t hfound => h.spelled y found t (hback y found hfound).1,
    fun i product hproduct => h.filedSpelled i product ((hp.products i product).mp hproduct).1,
    fun y => (h.rooted y).cut fun z => ?_⟩
  · obtain ⟨hold, hout⟩ := hback y found hfound
    obtain ⟨parent, hparent, hstore⟩ := h.linked.parents y found t hold ht
    have hedge : c.parentOf y = some t.id := parentOf_eq_some.mpr ⟨found, t, hold, ht, rfl⟩
    have hkept : ¬ c.InSubtree id t.id := by
      rintro (he | hbelow)
      · exact hout (Or.inr (.single (he ▸ hedge)))
      · exact hout (Or.inr (.head hedge hbelow))
    exact ⟨parent, (hp.kept t.id hkept).trans hparent, hstore⟩
  · obtain ⟨hold, hout⟩ := (hp.products i product).mp hproduct
    obtain ⟨category, hcategory, hstore⟩ := h.linked.filed i product hold
    exact ⟨category, (hp.kept _ hout).trans hcategory, hstore⟩
  · by_cases hin : c.InSubtree id z
    · exact Or.inl (by rw [parentOf, hp.gone z hin]; rfl)
    · exact Or.inr (by rw [parentOf, parentOf, hp.kept z hin])

theorem Canonical.pruned_of (h : c.Canonical) {category : ProductCategory}
    (hlive : c.categories.live id = some category) {ids : List Nat}
    (hids : ∀ x, x ∈ ids ↔ c.Below x id) :
    c.Pruned id (c.deleteMany category.storeId (ids.map IdText.of ++ [IdText.of id])) := by
  have hmap : (ids.map IdText.of ++ [IdText.of id]) = (ids ++ [id]).map IdText.of := by
    rw [List.map_append]
    rfl
  have hmem : ∀ y, y ∈ ids ++ [id] ↔ c.InSubtree id y := by
    intro y
    rw [List.mem_append, List.mem_singleton, hids y]
    exact or_comm
  rw [hmap]
  refine pruned_deleteMany h.linked hlive (fun y => ?_) fun i product hproduct => ?_
  · rw [List.map_map, show (fun t : IdText => t.id) ∘ IdText.of = fun y => y from rfl, List.map_id']
    exact hmem y
  · rw [mem_map_of (h.filedSpelled i product hproduct)]
    exact hmem _

/-- **Canonical catalogs are sound.** -/
theorem Canonical.sound (h : c.Canonical) : c.Sound where
  linked := h.linked
  acyclic x := (h.rooted x).not_below
  walks _ _ hlive := h.walks hlive
  deletes id category requester hlive howner := by
    obtain ⟨ids, hcollect, _, hids⟩ := h.walks hlive
    refine ⟨_, ?_, h.pruned_of hlive hids⟩
    have hfound : c.findCategoryOrThrow category.storeId (.of id) = .ok category :=
      findCategoryOrThrow_eq_ok.mpr ⟨hlive, rfl⟩
    rw [deleteCategory, howner, hfound, hcollect]
    rfl

end StoreCatalog

end ProductsService

end FoodDelivery
