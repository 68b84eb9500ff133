import FoodDelivery.Stores.Spelling

/-!
# Browsing nodes and leaves

A product is filed under a category that has no subcategories.  Nothing looks for products where a
subcategory is created or moved.

* `node_or_leaf_iff`: no category has both exactly when no accepted request puts a category under
  one that holds products, or files a product under one whose subcategories spell its id otherwise.
* `juice_under_drinks`: a subcategory under a category that holds a product.
-/

namespace FoodDelivery

open Store

namespace ProductsService

namespace StoreCatalog

variable {c c' : StoreCatalog} {storeId categoryId t : IdText} {requester : AccessTokenPayload}
  {x id : Nat}

/-- A category stands right under this one. -/
def HasSubcategory (c : StoreCatalog) (id : Nat) : Prop := ∃ x, c.parentOf x = some id

/-- A product is filed right under this category. -/
def HoldsProduct (c : StoreCatalog) (id : Nat) : Prop :=
  ∃ i product, c.products.live i = some product ∧ product.categoryId.id = id

/-- **A category is a browsing node or a product-holding leaf, never both.** -/
def NodeOrLeaf (c : StoreCatalog) : Prop := ∀ id, ¬ (c.HasSubcategory id ∧ c.HoldsProduct id)

/-- The subcategories of a category spell its id, and that of the store, as a request does. -/
def SubcategoriesSpelled (c : StoreCatalog) (storeId categoryId : IdText) : Prop :=
  ∀ x category t, c.categories.live x = some category → category.parentCategoryId = some t →
    t.id = categoryId.id → category.storeId = storeId ∧ t = categoryId

/-- No request that is accepted puts a category under one that holds a product, or files a product
under one with a subcategory that its check does not see. -/
def KeepsApart (c : StoreCatalog) (call : CatalogCall) : Prop :=
  ∀ c', c.handle call = .ok c' →
    match call with
    | .createCategory _ _ dto => ∀ t, dto.parentCategoryId = .value t → ¬ c.HoldsProduct t.id
    | .updateCategory _ _ _ dto => ∀ t, dto.parentCategoryId = .value t → ¬ c.HoldsProduct t.id
    | .createProduct storeId _ dto => c.SubcategoriesSpelled storeId dto.categoryId
    | .updateProduct storeId _ _ dto => ∀ t, dto.categoryId = .value t →
        c.SubcategoriesSpelled storeId t
    | _ => True

/-- Where the check of a product sees nothing, there is nothing, or it is spelled otherwise. -/
theorem spelled_iff_of_leaf (hleaf : c.childIds storeId [t] = []) :
    c.SubcategoriesSpelled storeId t ↔ ¬ c.HasSubcategory t.id := by
  constructor
  · rintro hspelled ⟨x, hx⟩
    obtain ⟨category, t', hlive, ht', hid⟩ := parentOf_eq_some.mp hx
    obtain ⟨hstore, rfl⟩ := hspelled x category t' hlive ht' hid
    have hmem : x ∈ c.childIds storeId [t'] :=
      mem_childIds.mpr ⟨category, t', hlive, hstore, ht', List.mem_singleton.mpr rfl⟩
    rw [hleaf] at hmem
    exact List.not_mem_nil hmem
  · intro hnone x category t' hlive ht' hid
    exact absurd ⟨x, parentOf_eq_some.mpr ⟨category, t', hlive, ht', hid⟩⟩ hnone

/-! ## Categories -/

/-- One category comes to point up otherwise. -/
theorem hasSubcategory_update {q : Option Nat} (hparent : c'.parentOf =
    Function.update c.parentOf x q) (h : c'.HasSubcategory id) :
    c.HasSubcategory id ∨ q = some id := by
  obtain ⟨y, hy⟩ := h
  rw [hparent, Function.update_apply] at hy
  split at hy
  · exact Or.inr hy
  · exact Or.inl ⟨y, hy⟩

theorem NodeOrLeaf.update (h : c.NodeOrLeaf) {q : Option Nat}
    (hparent : c'.parentOf = Function.update c.parentOf x q) (hproducts : c'.products = c.products)
    (hq : ∀ id, q = some id → c.HasSubcategory id ∨ ¬ c.HoldsProduct id) : c'.NodeOrLeaf := by
  rintro id ⟨hsub, hholds⟩
  have hold : c.HoldsProduct id := by
    rw [HoldsProduct, ← hproducts]
    exact hholds
  rcases hasSubcategory_update hparent hsub with hsub | hid
  · exact h id ⟨hsub, hold⟩
  · exact (hq id hid).elim (fun hsub => h id ⟨hsub, hold⟩) fun hnot => hnot hold

/-- A category that comes to stand under one that holds a product. -/
theorem not_nodeOrLeaf_update (hparent : c'.parentOf = Function.update c.parentOf x (some id))
    (hproducts : c'.products = c.products) (hholds : c.HoldsProduct id) : ¬ c'.NodeOrLeaf := by
  intro h
  refine h id ⟨⟨x, by rw [hparent, Function.update_self]⟩, ?_⟩
  rw [HoldsProduct, hproducts]
  exact hholds

theorem NodeOrLeaf.deleteMany (h : c.NodeOrLeaf) {categoryIds : List IdText} :
    (c.deleteMany storeId categoryIds).NodeOrLeaf := by
  rintro id ⟨⟨x, hx⟩, i, product, hproduct, hid⟩
  obtain ⟨category, t, hlive, ht, htid⟩ := parentOf_eq_some.mp hx
  rw [live_deleteMany, Option.filter_eq_some_iff] at hlive
  exact h id ⟨⟨x, parentOf_eq_some.mpr ⟨category, t, hlive.1, ht, htid⟩⟩, i, product,
    (products_deleteMany.mp hproduct).1, hid⟩

/-! ## Products -/

theorem NodeOrLeaf.withProducts (h : c.NodeOrLeaf) {products : Collection (Option Product)}
    (hproducts : ∀ i product, products.live i = some product →
      c.HoldsProduct product.categoryId.id ∨ ¬ c.HasSubcategory product.categoryId.id) :
    (c.withProducts products).NodeOrLeaf := by
  rintro id ⟨hsub, i, product, hlive, rfl⟩
  have hsub : c.HasSubcategory product.categoryId.id := hsub
  exact (hproducts i product hlive).elim (fun hholds => h _ ⟨hsub, hholds⟩) fun hnot => hnot hsub

/-- **A request that keeps nodes and leaves apart.** -/
theorem NodeOrLeaf.step (h : c.NodeOrLeaf) {call : CatalogCall} (hapart : c.KeepsApart call) :
    (c.step call).NodeOrLeaf := by
  cases hhandle : c.handle call with
  | error e =>
    rw [step_of_error hhandle]
    exact h
  | ok c' =>
    rw [step_of_ok hhandle]
    have hwell := hapart c' hhandle
    cases call with
    | createCategory storeId requester dto =>
      obtain ⟨_, category, _, hgiven, rfl⟩ := createCategory_eq_ok hhandle
      refine h.update parentOf_create rfl fun id hid => Or.inr ?_
      rw [hgiven] at hid
      cases hdto : dto.parentCategoryId with
      | value t => rw [hdto] at hid; cases hid; exact hwell t hdto
      | absent => rw [hdto] at hid; cases hid
      | null => rw [hdto] at hid; cases hid
    | updateCategory storeId categoryId requester dto =>
      obtain ⟨⟨category, hlive, _⟩, _, f, hf, rfl⟩ := updateCategory_eq_ok hhandle
      refine h.update (parentOf_modify hlive) rfl fun id hid => ?_
      rw [(hf category).2] at hid
      cases hdto : dto.parentCategoryId with
      | value t => rw [hdto] at hid; cases hid; exact Or.inr (hwell t hdto)
      | null => rw [hdto] at hid; cases hid
      | absent =>
        rw [hdto] at hid
        obtain ⟨t, ht, rfl⟩ := Option.map_eq_some_iff.mp hid
        exact Or.inl ⟨_, parentOf_eq_some.mpr ⟨category, t, hlive, ht, rfl⟩⟩
    | deleteCategory storeId categoryId requester =>
      obtain ⟨_, _, _, rfl⟩ := deleteCategory_eq_ok hhandle
      exact h.deleteMany
    | createProduct storeId requester dto =>
      obtain ⟨_, ⟨category, hleaf⟩, product, _, hfiled, rfl⟩ := createProduct_eq_ok hhandle
      refine h.withProducts fun i found hfound => ?_
      rcases Collection.live_create_cases hfound with ⟨_, hnew⟩ | hold
      · cases hnew
        rw [hfiled]
        exact Or.inr ((spelled_iff_of_leaf (findLeafCategoryOrThrow_eq_ok hleaf).2.2).mp hwell)
      · exact Or.inl ⟨i, found, hold, rfl⟩
    | updateProduct storeId productId requester dto =>
      obtain ⟨_, _, product, f, _, _, _, _, rfl⟩ := updateProduct_eq_ok hhandle
      refine h.withProducts fun i found hfound => ?_
      obtain ⟨old, hold, _, hfiled⟩ | ⟨t, category, hdto, hcategory, _, hfiled⟩ :=
        filed_of_updateProduct hhandle hfound
      · exact Or.inl ⟨i, old, hold, congrArg IdText.id hfiled.symm⟩
      · obtain ⟨_, _, hleaf⟩ := findLeafCategoryOrThrow_eq_ok hcategory
        rw [hfiled]
        exact Or.inr ((spelled_iff_of_leaf hleaf).mp (hwell t hdto))
    | deleteProduct storeId productId requester =>
      have hc' := deleteProduct_eq_ok hhandle
      subst hc'
      refine h.withProducts fun i found hfound => ?_
      exact Or.inl ⟨i, found, Collection.live_of_remove hfound, rfl⟩

/-- **A request that does not.** -/
theorem not_nodeOrLeaf_step {call : CatalogCall} (hapart : ¬ c.KeepsApart call) :
    ¬ (c.step call).NodeOrLeaf := by
  simp only [KeepsApart, not_forall] at hapart
  obtain ⟨c', hhandle, hbad⟩ := hapart
  rw [step_of_ok hhandle]
  cases call with
  | createCategory storeId requester dto =>
    simp only [not_forall, not_not] at hbad
    obtain ⟨t, ht, hholds⟩ := hbad
    obtain ⟨_, category, _, hgiven, rfl⟩ := createCategory_eq_ok hhandle
    rw [ht] at hgiven
    have hparent : (c.withCategories (c.categories.create (some category))).parentOf =
        Function.update c.parentOf c.categories.nextId (some t.id) := by
      rw [parentOf_create, hgiven]
      rfl
    exact not_nodeOrLeaf_update hparent rfl hholds
  | updateCategory storeId categoryId requester dto =>
    simp only [not_forall, not_not] at hbad
    obtain ⟨t, ht, hholds⟩ := hbad
    obtain ⟨⟨category, hlive, _⟩, _, f, hf, rfl⟩ := updateCategory_eq_ok hhandle
    have hparent := parentOf_modify (f := f) hlive
    rw [(hf category).2, ht] at hparent
    exact not_nodeOrLeaf_update hparent rfl hholds
  | createProduct storeId requester dto =>
    obtain ⟨_, ⟨category, hleaf⟩, product, _, hfiled, rfl⟩ := createProduct_eq_ok hhandle
    have hbad : ¬ c.SubcategoriesSpelled storeId dto.categoryId := hbad
    rw [spelled_iff_of_leaf (findLeafCategoryOrThrow_eq_ok hleaf).2.2, not_not] at hbad
    intro h
    refine h dto.categoryId.id ⟨hbad, c.products.nextId, product, ?_, by rw [hfiled]⟩
    rw [StoreCatalog.withProducts, Collection.live_create, if_pos rfl]
  | updateProduct storeId productId requester dto =>
    simp only [not_forall] at hbad
    obtain ⟨t, ht, hbad⟩ := hbad
    obtain ⟨_, hleaf, product, f, hlive, _, _, hfiled, rfl⟩ := updateProduct_eq_ok hhandle
    obtain ⟨category, hcategory⟩ := hleaf t ht
    rw [spelled_iff_of_leaf (findLeafCategoryOrThrow_eq_ok hcategory).2.2, not_not] at hbad
    rw [ht] at hfiled
    intro h
    refine h t.id ⟨hbad, productId.id, f product, ?_, ?_⟩
    · rw [StoreCatalog.withProducts, Collection.live_modify, if_pos rfl, hlive]
      rfl
    · rw [← Option.some.inj hfiled]
  | deleteCategory storeId categoryId requester => exact absurd trivial hbad
  | deleteProduct storeId productId requester => exact absurd trivial hbad

/-! ## Every sequence of requests -/

/-- **No category has both a subcategory and a product after any request of a sequence exactly when
every request keeps the two apart**: for any stores, and any requests on their categories and
products. -/
theorem node_or_leaf_iff (owners : Collection UserId) (calls : List CatalogCall) :
    Sequence.Throughout StoreCatalog.step NodeOrLeaf (empty owners) calls ↔
      Sequence.Along StoreCatalog.step KeepsApart (empty owners) calls := by
  refine Sequence.throughout_iff_along (I := NodeOrLeaf) (fun _ h => h) (fun _ _ h hc => h.step hc)
    (fun _ _ _ hc => not_nodeOrLeaf_step hc) calls (empty owners) ?_
  rintro id ⟨⟨x, hx⟩, _⟩
  obtain ⟨category, t, hlive, _⟩ := parentOf_eq_some.mp hx
  cases Collection.live_empty.symm.trans hlive

/-- The owner of store 0 files a product under a category, and then creates one under it. -/
def juiceCalls : List CatalogCall :=
  [.createCategory (.of 0) ⟨1, .restaurantOwner⟩ ⟨"Drinks", .absent, .absent⟩,
    .createProduct (.of 0) ⟨1, .restaurantOwner⟩ ⟨.of 0, "Water", 3, none⟩,
    .createCategory (.of 0) ⟨1, .restaurantOwner⟩ ⟨"Juice", .value (.of 0), .absent⟩]

/-- **A subcategory under a category that holds a product.** -/
theorem juice_under_drinks :
    ¬ Sequence.Throughout StoreCatalog.step NodeOrLeaf (empty ⟨[1]⟩) juiceCalls := by
  rintro ⟨_, _, _, h⟩
  have hsub : (juiceCalls.foldl StoreCatalog.step (empty ⟨[1]⟩)).parentOf 1 = some 0 := by
    decide +kernel
  have hproduct : ((juiceCalls.foldl StoreCatalog.step (empty ⟨[1]⟩)).products.live 0).map
      (·.categoryId.id) = some 0 := by
    decide +kernel
  obtain ⟨product, hlive, hid⟩ := Option.map_eq_some_iff.mp hproduct
  exact h 0 ⟨⟨1, hsub⟩, 0, product, hlive, hid⟩

end StoreCatalog

end ProductsService

end FoodDelivery
