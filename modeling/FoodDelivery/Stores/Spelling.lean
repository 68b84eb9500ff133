import FoodDelivery.Stores.CategoryForest
import FoodDelivery.Lib.Sequence

/-!
# How ids are spelled

The checks of a move and the two deletions compare ids as they are spelled, while a look-up takes
capital letters for small ones.

* `Canonical.step`, `Canonical.not_sound_step`: what a request leaves, spelled well or not.
* `sound_iff`: the catalog is sound all along exactly when no accepted request spells an id with
  capitals where that matters.
* `its_own_parent`: a category that is its own parent, and a walk that never ends.
-/

namespace FoodDelivery

open Store

namespace ProductsService

namespace StoreCatalog

variable {c c' : StoreCatalog} {storeId categoryId t : IdText} {requester : AccessTokenPayload}
  {x y id : Nat}

/-! ## Requests that spell ids well -/

/-- Nothing stands right under the category, and nothing is filed under it. -/
def Bare (c : StoreCatalog) (id : Nat) : Prop :=
  (∀ x, c.parentOf x ≠ some id) ∧
    ∀ i product, c.products.live i = some product → product.categoryId.id ≠ id

/-- The ids of a request that is accepted are spelled in small letters: that of a parent, that of a
category that something is filed under, that of a category that is deleted with something under it,
and that of a category that is moved under itself or under one of its own. -/
def SpelledWell (c : StoreCatalog) (call : CatalogCall) : Prop :=
  ∀ c', c.handle call = .ok c' →
    match call with
    | .createCategory _ _ dto => ∀ t, dto.parentCategoryId = .value t → t.capitals = 0
    | .updateCategory _ categoryId _ dto => ∀ t, dto.parentCategoryId = .value t →
        t.capitals = 0 ∧ (categoryId.capitals = 0 ∨ ¬ c.InSubtree categoryId.id t.id)
    | .deleteCategory _ categoryId _ => categoryId.capitals = 0 ∨ c.Bare categoryId.id
    | .createProduct _ _ dto => dto.categoryId.capitals = 0
    | .updateProduct _ _ _ dto => ∀ t, dto.categoryId = .value t → t.capitals = 0
    | .deleteProduct _ _ _ => True

/-- Only products are written, and each is filed under a category of its store. -/
theorem Canonical.withProducts (h : c.Canonical) {products : Collection (Option Product)}
    (hproducts : ∀ i product, products.live i = some product →
      product.categoryId.capitals = 0 ∧ ∃ category,
        c.categories.live product.categoryId.id = some category ∧
          category.storeId = product.storeId) : (c.withProducts products).Canonical where
  linked := ⟨h.linked.parents, fun i product hp => (hproducts i product hp).2⟩
  spelled := h.spelled
  filedSpelled i product hp := (hproducts i product hp).1
  rooted := h.rooted

/-- Nothing is below a category that is not there. -/
theorem not_below_fresh (h : c.Linked) (hdead : c.categories.live id = none) : ¬ c.Below x id := by
  intro hbelow
  induction hbelow with
  | single hedge =>
    obtain ⟨found, t, hfound, ht, rfl⟩ := parentOf_eq_some.mp hedge
    obtain ⟨parent, hparent, _⟩ := h.parents _ found t hfound ht
    cases hdead.symm.trans hparent
  | tail _ hedge _ =>
    obtain ⟨found, t, hfound, ht, rfl⟩ := parentOf_eq_some.mp hedge
    obtain ⟨parent, hparent, _⟩ := h.parents _ found t hfound ht
    cases hdead.symm.trans hparent

theorem live_nextId : c.categories.live c.categories.nextId = none := by
  rw [Collection.live, Collection.get_nextId]
  rfl

theorem parentOf_create {category : ProductCategory} :
    (c.withCategories (c.categories.create (some category))).parentOf =
      Function.update c.parentOf c.categories.nextId (category.parentCategoryId.map (·.id)) := by
  funext y
  rw [Function.update_apply, parentOf, withCategories, Collection.live_create]
  split
  · rfl
  · rfl

theorem parentOf_modify {f : ProductCategory → ProductCategory} {category : ProductCategory}
    (hlive : c.categories.live id = some category) :
    (c.withCategories (c.categories.modify id (Option.map f))).parentOf =
      Function.update c.parentOf id ((f category).parentCategoryId.map (·.id)) := by
  funext y
  rw [Function.update_apply, parentOf, withCategories, Collection.live_modify]
  by_cases hy : id = y
  · subst hy
    rw [if_pos rfl, if_pos rfl, hlive]
    rfl
  · rw [if_neg hy, if_neg (Ne.symm hy)]
    rfl

/-- **A new category under one of its store.** -/
theorem Canonical.create (h : c.Canonical) {category : ProductCategory}
    (hparent : ∀ t, category.parentCategoryId = some t → t.capitals = 0 ∧
      ∃ parent, c.categories.live t.id = some parent ∧ parent.storeId = category.storeId) :
    (c.withCategories (c.categories.create (some category))).Canonical := by
  have hcases : ∀ y found, (c.categories.create (some category)).live y = some found →
      (y = c.categories.nextId ∧ found = category) ∨ c.categories.live y = some found := by
    intro y found hfound
    rcases Collection.live_create_cases hfound with ⟨hy, hnew⟩ | hold
    · exact Or.inl ⟨hy, (Option.some.inj hnew).symm⟩
    · exact Or.inr hold
  have hkeep : ∀ {y found}, c.categories.live y = some found →
      (c.categories.create (some category)).live y = some found :=
    Collection.live_create_of_live
  refine ⟨⟨fun y found t hfound ht => ?_, fun i product hproduct => ?_⟩,
    fun y found t hfound ht => ?_, h.filedSpelled, fun y => ?_⟩
  · rcases hcases y found hfound with ⟨_, rfl⟩ | hold
    · obtain ⟨_, parent, hlive, hstore⟩ := hparent t ht
      exact ⟨parent, hkeep hlive, hstore⟩
    · obtain ⟨parent, hlive, hstore⟩ := h.linked.parents y found t hold ht
      exact ⟨parent, hkeep hlive, hstore⟩
  · obtain ⟨found, hlive, hstore⟩ := h.linked.filed i product hproduct
    exact ⟨found, hkeep hlive, hstore⟩
  · rcases hcases y found hfound with ⟨_, rfl⟩ | hold
    · exact (hparent t ht).1
    · exact h.spelled y found t hold ht
  · rw [parentOf_create]
    refine Forest.rooted_update h.rooted (fun p hp => ?_) y
    obtain ⟨t, ht, rfl⟩ := Option.map_eq_some_iff.mp hp
    obtain ⟨_, parent, hlive, _⟩ := hparent t ht
    exact ⟨Nat.ne_of_lt (Collection.lt_nextId_of_live hlive),
      not_below_fresh h.linked live_nextId⟩

/-- **A category is moved**, or stays, under one that is not in its subtree. -/
theorem Canonical.modify (h : c.Canonical) {f : ProductCategory → ProductCategory}
    {category : ProductCategory} (hlive : c.categories.live id = some category)
    (hf : (f category).storeId = category.storeId)
    (hparent : ∀ t, (f category).parentCategoryId = some t → t.capitals = 0 ∧
      (∃ parent, c.categories.live t.id = some parent ∧ parent.storeId = category.storeId) ∧
        ¬ c.InSubtree id t.id) :
    (c.withCategories (c.categories.modify id (Option.map f))).Canonical := by
  have hcases : ∀ y found, (c.categories.modify id (Option.map f)).live y = some found →
      (y = id ∧ found = f category) ∨ c.categories.live y = some found := by
    intro y found hfound
    rcases Collection.live_modify_cases hfound with ⟨rfl, old, hold, rfl⟩ | ⟨_, hold⟩
    · rw [Option.some.inj (hold.symm.trans hlive)]
      exact Or.inl ⟨rfl, rfl⟩
    · exact Or.inr hold
  have hkeep : ∀ {y found}, c.categories.live y = some found →
      ∃ found', (c.categories.modify id (Option.map f)).live y = some found' ∧
        found'.storeId = found.storeId := by
    intro y found hfound
    rw [Collection.live_modify, hfound]
    split
    · next hy =>
      subst hy
      rw [hlive, Option.some.injEq] at hfound
      exact ⟨f found, rfl, hfound ▸ hf⟩
    · exact ⟨found, rfl, rfl⟩
  refine ⟨⟨fun y found t hfound ht => ?_, fun i product hproduct => ?_⟩,
    fun y found t hfound ht => ?_, h.filedSpelled, fun y => ?_⟩
  · rcases hcases y found hfound with ⟨rfl, rfl⟩ | hold
    · obtain ⟨_, ⟨parent, hplive, hstore⟩, _⟩ := hparent t ht
      obtain ⟨parent', hplive', hsame⟩ := hkeep hplive
      exact ⟨parent', hplive', by rw [hsame, hstore, hf]⟩
    · obtain ⟨parent, hplive, hstore⟩ := h.linked.parents y found t hold ht
      obtain ⟨parent', hplive', hsame⟩ := hkeep hplive
      exact ⟨parent', hplive', hsame.trans hstore⟩
  · obtain ⟨found, hfound, hstore⟩ := h.linked.filed i product hproduct
    obtain ⟨found', hfound', hsame⟩ := hkeep hfound
    exact ⟨found', hfound', hsame.trans hstore⟩
  · rcases hcases y found hfound with ⟨rfl, rfl⟩ | hold
    · exact (hparent t ht).1
    · exact h.spelled y found t hold ht
  · rw [parentOf_modify hlive]
    refine Forest.rooted_update h.rooted (fun p hp => ?_) y
    obtain ⟨t, ht, rfl⟩ := Option.map_eq_some_iff.mp hp
    obtain ⟨_, _, hout⟩ := hparent t ht
    exact ⟨fun he => hout (Or.inl he), fun hbelow => hout (Or.inr hbelow)⟩

theorem step_of_ok {call : CatalogCall} (h : c.handle call = .ok c') : c.step call = c' := by
  rw [step, h]
  rfl

theorem step_of_error {call : CatalogCall} {e : CatalogError} (h : c.handle call = .error e) :
    c.step call = c := by
  rw [step, h]
  rfl

/-- The checks of a move, on ids in small letters, keep a category out of its own subtree. -/
theorem Canonical.not_inSubtree_of_mayMove (h : c.Canonical) {category : ProductCategory} {u : Unit}
    (hlive : c.categories.live categoryId.id = some category) (hstore : category.storeId = storeId)
    (hmove : c.assertMayMove storeId categoryId t = .ok u) (ht : t.capitals = 0)
    (hcategory : categoryId.capitals = 0) : ¬ c.InSubtree categoryId.id t.id := by
  obtain ⟨hne, _, texts, htexts, hnot⟩ := assertMayMove_eq_ok hmove
  obtain ⟨ids, hids, _, hmem⟩ := h.walks hlive
  rw [hstore, of_eq_iff.mpr hcategory, htexts, Except.ok.injEq] at hids
  rw [hids, mem_map_of ht] at hnot
  rintro (he | hbelow)
  · exact hne (by rw [← of_eq_iff.mpr ht, ← of_eq_iff.mpr hcategory, he])
  · exact hnot ((hmem t.id).mpr hbelow)

/-- A category is not in the subtree of one that stands right under it. -/
theorem Canonical.parent_not_inSubtree (h : c.Canonical) (hedge : c.parentOf x = some y) :
    ¬ c.InSubtree x y := by
  rintro (rfl | hbelow)
  · exact (h.rooted y).not_below (.single hedge)
  · exact (h.rooted x).not_below (.head hedge hbelow)

theorem collect_nil (n : Nat) : c.collect storeId n [] = some [] := by
  cases n <;> rfl

/-- A walk from an id in capitals finds nothing. -/
theorem Canonical.collect_of_capitals (h : c.Canonical) (ht : t.capitals ≠ 0) :
    c.collectDescendantIds storeId t = .ok [] := by
  have hnone : c.childIds storeId [t] = [] := by
    rw [List.eq_nil_iff_forall_not_mem]
    intro y hy
    obtain ⟨category, t', hlive, _, ht', hmem⟩ := mem_childIds.mp hy
    rw [List.mem_singleton.mp hmem] at ht'
    exact ht (h.spelled y category t hlive ht')
  rw [collectDescendantIds, collect, hnone, List.map_nil, collect_nil]
  rfl

/-- **A request that is spelled well keeps the catalog canonical.** -/
theorem Canonical.step (h : c.Canonical) {call : CatalogCall} (hspelled : c.SpelledWell call) :
    (c.step call).Canonical := by
  cases hhandle : c.handle call with
  | error e =>
    rw [step_of_error hhandle]
    exact h
  | ok c' =>
    rw [step_of_ok hhandle]
    have hwell := hspelled c' hhandle
    cases call with
    | createCategory storeId requester dto =>
      obtain ⟨hfound, category, hstore, hgiven, rfl⟩ := createCategory_eq_ok hhandle
      refine h.create fun t ht => ?_
      have hvalue : dto.parentCategoryId = .value t := by
        cases hdto : dto.parentCategoryId with
        | value a => rw [hdto, ht] at hgiven; cases hgiven; rfl
        | absent => rw [hdto, ht] at hgiven; cases hgiven
        | null => rw [hdto, ht] at hgiven; cases hgiven
      rw [hstore]
      exact ⟨hwell t hvalue, hfound t hvalue⟩
    | updateCategory storeId categoryId requester dto =>
      obtain ⟨⟨category, hlive, hstore⟩, hmove, f, hf, rfl⟩ := updateCategory_eq_ok hhandle
      refine h.modify hlive (hf category).1 fun t ht => ?_
      rw [(hf category).2] at ht
      cases hdto : dto.parentCategoryId with
      | null => rw [hdto] at ht; cases ht
      | absent =>
        rw [hdto] at ht
        refine ⟨h.spelled _ category t hlive ht, h.linked.parents _ category t hlive ht,
          h.parent_not_inSubtree (parentOf_eq_some.mpr ⟨category, t, hlive, ht, rfl⟩)⟩
      | value a =>
        rw [hdto] at ht
        cases ht
        obtain ⟨hcapitals, hout⟩ := hwell t hdto
        obtain ⟨_, hparent, _⟩ := assertMayMove_eq_ok (hmove t hdto)
        rw [hstore]
        exact ⟨hcapitals, hparent, hout.elim (fun hcategory =>
          h.not_inSubtree_of_mayMove hlive hstore (hmove t hdto) hcapitals hcategory) id⟩
    | deleteCategory storeId categoryId requester =>
      obtain ⟨⟨category, hlive, rfl⟩, texts, htexts, rfl⟩ := deleteCategory_eq_ok hhandle
      by_cases hcategory : categoryId.capitals = 0
      · obtain ⟨ids, hids, _, hmem⟩ := h.walks hlive
        rw [of_eq_iff.mpr hcategory, htexts, Except.ok.injEq] at hids
        rw [hids, ← of_eq_iff.mpr hcategory]
        exact h.pruned (h.pruned_of hlive hmem)
      · obtain ⟨hchildless, hempty⟩ := hwell.resolve_left hcategory
        rw [h.collect_of_capitals hcategory, Except.ok.injEq] at htexts
        subst htexts
        have halone : ∀ y, c.InSubtree categoryId.id y ↔ y = categoryId.id := by
          refine fun y => or_iff_left fun hbelow => ?_
          obtain ⟨z, _, hedge⟩ := Relation.TransGen.tail'_iff.mp hbelow
          exact hchildless z hedge
        refine h.pruned (pruned_deleteMany h.linked hlive (fun y => ?_) fun i product hp => ?_)
        · rw [halone]
          exact List.mem_singleton
        · rw [halone]
          refine iff_of_false (fun hmem => ?_) (hempty i product hp)
          exact hempty i product hp (congrArg IdText.id (List.mem_singleton.mp hmem))
    | createProduct storeId requester dto =>
      obtain ⟨_, ⟨category, hleaf⟩, product, hstore, hfiled, rfl⟩ := createProduct_eq_ok hhandle
      obtain ⟨hlive, hsame, _⟩ := findLeafCategoryOrThrow_eq_ok hleaf
      refine h.withProducts fun i found hfound => ?_
      rcases Collection.live_create_cases hfound with ⟨_, hnew⟩ | hold
      · cases hnew
        rw [hfiled, hstore]
        exact ⟨hwell, category, hlive, hsame⟩
      · exact ⟨h.filedSpelled i found hold, h.linked.filed i found hold⟩
    | updateProduct storeId productId requester dto =>
      obtain ⟨_, _, product, f, _, _, _, _, rfl⟩ := updateProduct_eq_ok hhandle
      refine h.withProducts fun i found hfound => ?_
      obtain ⟨old, hold, hstore, hfiled⟩ | ⟨t, category, hdto, hcategory, hstore, hfiled⟩ :=
        filed_of_updateProduct hhandle hfound
      · rw [hstore, hfiled]
        exact ⟨h.filedSpelled i old hold, h.linked.filed i old hold⟩
      · obtain ⟨hlive, hsame, _⟩ := findLeafCategoryOrThrow_eq_ok hcategory
        rw [hstore, hfiled]
        exact ⟨hwell t hdto, category, hlive, hsame⟩
    | deleteProduct storeId productId requester =>
      have hc' := deleteProduct_eq_ok hhandle
      subst hc'
      refine h.withProducts fun i found hfound => ?_
      have hold := Collection.live_of_remove hfound
      exact ⟨h.filedSpelled i found hold, h.linked.filed i found hold⟩

/-! ## Requests that do not -/

/-- A walk in small letters finds what points up in small letters. -/
theorem mem_collect : ∀ (n : Nat) (frontier ids : List IdText), (∀ t ∈ frontier, t.capitals = 0) →
    c.collect storeId n frontier = some ids → ∀ x, IdText.of x ∈ ids →
      ∃ category t, c.categories.live x = some category ∧ category.parentCategoryId = some t ∧
        t.capitals = 0 := by
  intro n
  induction n with
  | zero =>
    intro frontier ids _ h x hx
    cases frontier with
    | nil => cases h; cases hx
    | cons t frontier => cases h
  | succ n ih =>
    intro frontier ids hsmall h x hx
    cases frontier with
    | nil => cases h; cases hx
    | cons t frontier =>
      obtain ⟨rest, hrest, rfl⟩ := Option.map_eq_some_iff.mp h
      rcases List.mem_append.mp hx with hchild | hx
      · obtain ⟨y, hy, he⟩ := List.mem_map.mp hchild
        obtain ⟨category, t', hlive, _, ht', hmem⟩ := mem_childIds.mp hy
        cases he
        exact ⟨category, t', hlive, ht', hsmall t' hmem⟩
      · refine ih _ rest (fun t' ht' => ?_) hrest x hx
        obtain ⟨y, _, rfl⟩ := List.mem_map.mp ht'
        rfl

/-- **A parent that is spelled with capitals is not found by the walk from it.** -/
theorem not_sound_of_capitals {category : ProductCategory}
    (hlive : c.categories.live x = some category) (hparent : category.parentCategoryId = some t)
    (ht : t.capitals ≠ 0) : ¬ c.Sound := by
  intro h
  obtain ⟨parent, hplive, _⟩ := h.linked.parents x category t hlive hparent
  obtain ⟨ids, hcollect, _, hids⟩ := h.walks t.id parent hplive
  have hmem : x ∈ ids :=
    (hids x).mpr (.single (parentOf_eq_some.mpr ⟨category, t, hlive, hparent, rfl⟩))
  rw [collectDescendantIds] at hcollect
  split at hcollect
  · cases hcollect
  · next texts hwalk =>
    cases hcollect
    obtain ⟨found, t', hfound, ht', hsmall⟩ := mem_collect _ _ _ (fun t' ht' => by
      rw [List.mem_singleton.mp ht']
      rfl) hwalk x (List.mem_map_of_mem hmem)
    rw [hlive, Option.some.injEq] at hfound
    subst hfound
    rw [hparent, Option.some.injEq] at ht'
    exact ht (ht' ▸ hsmall)

/-- **A product that is filed under an id with capitals outlives its category.** -/
theorem not_sound_of_product {i : Nat} {product : Product}
    (hlive : c.products.live i = some product) (ht : product.categoryId.capitals ≠ 0)
    (howner : c.assertOwnership product.storeId requester = .ok ()) : ¬ c.Sound := by
  intro h
  obtain ⟨category, hcategory, hstore⟩ := h.linked.filed i product hlive
  obtain ⟨ids, hcollect, _, _⟩ := h.walks _ category hcategory
  obtain ⟨c', hdelete, hpruned⟩ := h.deletes _ category requester hcategory (hstore ▸ howner)
  obtain ⟨_, texts, htexts, rfl⟩ := deleteCategory_eq_ok hdelete
  rw [hcollect, Except.ok.injEq] at htexts
  subst htexts
  refine ((hpruned.products i product).mp (products_deleteMany.mpr ⟨hlive, ?_⟩)).2 (Or.inl rfl)
  rintro ⟨_, hmem⟩
  rcases List.mem_append.mp hmem with hmem | hmem
  · obtain ⟨y, _, he⟩ := List.mem_map.mp hmem
    exact ht (he ▸ rfl)
  · exact ht (List.mem_singleton.mp hmem ▸ rfl)

/-- A category that is deleted under an id with capitals leaves what is under it behind. -/
theorem Canonical.not_sound_of_delete (h : c.Canonical) {category : ProductCategory}
    (hlive : c.categories.live categoryId.id = some category)
    (hcapitals : categoryId.capitals ≠ 0) (hbare : ¬ c.Bare categoryId.id) :
    ¬ (c.deleteMany category.storeId [categoryId]).Sound := by
  intro hsound
  have hdead :
      (c.deleteMany category.storeId [categoryId]).categories.live categoryId.id = none := by
    rw [live_deleteMany, hlive]
    simp [Option.filter_some]
  refine hbare ⟨fun y hedge => ?_, fun i product hproduct hid => ?_⟩
  · obtain ⟨found, t, hfound, ht, hid⟩ := parentOf_eq_some.mp hedge
    have hne : y ≠ categoryId.id := by
      rintro rfl
      exact (h.rooted _).not_below (.single hedge)
    have hstill : (c.deleteMany category.storeId [categoryId]).categories.live y = some found := by
      rw [live_deleteMany, hfound]
      simp [Option.filter_some, hne]
    obtain ⟨parent, hparent, _⟩ := hsound.linked.parents y found t hstill ht
    rw [hid] at hparent
    cases hdead.symm.trans hparent
  · have hstill : (c.deleteMany category.storeId [categoryId]).products.live i = some product := by
      refine products_deleteMany.mpr ⟨hproduct, fun hmem => hcapitals ?_⟩
      rw [← List.mem_singleton.mp hmem.2]
      exact h.filedSpelled i product hproduct
    obtain ⟨found, hfound, _⟩ := hsound.linked.filed i product hstill
    rw [hid] at hfound
    cases hdead.symm.trans hfound

/-- **A request that is not spelled well leaves a catalog that is not sound.** -/
theorem Canonical.not_sound_step (h : c.Canonical) {call : CatalogCall}
    (hspelled : ¬ c.SpelledWell call) : ¬ (c.step call).Sound := by
  simp only [SpelledWell, not_forall] at hspelled
  obtain ⟨c', hhandle, hbad⟩ := hspelled
  rw [step_of_ok hhandle]
  cases call with
  | createCategory storeId requester dto =>
    simp only [not_forall] at hbad
    obtain ⟨t, ht, hcapitals⟩ := hbad
    obtain ⟨_, category, _, hgiven, rfl⟩ := createCategory_eq_ok hhandle
    rw [ht] at hgiven
    refine not_sound_of_capitals (x := c.categories.nextId) ?_ hgiven hcapitals
    rw [withCategories, Collection.live_create, if_pos rfl]
  | updateCategory storeId categoryId requester dto =>
    simp only [not_forall] at hbad
    obtain ⟨t, ht, hbad⟩ := hbad
    obtain ⟨⟨category, hlive, _⟩, _, f, hf, rfl⟩ := updateCategory_eq_ok hhandle
    have hparent : (f category).parentCategoryId = some t := by
      rw [(hf category).2, ht]
      rfl
    by_cases hcapitals : t.capitals = 0
    · have hin : c.InSubtree categoryId.id t.id := by
        by_contra hout
        exact hbad ⟨hcapitals, Or.inr hout⟩
      intro hsound
      refine hsound.acyclic categoryId.id ?_
      rw [Below, parentOf_modify hlive, hparent]
      exact Forest.below_update hin
    · refine not_sound_of_capitals (x := categoryId.id) ?_ hparent hcapitals
      rw [withCategories, Collection.live_modify, if_pos rfl, hlive]
      rfl
  | deleteCategory storeId categoryId requester =>
    rw [not_or] at hbad
    obtain ⟨hcapitals, hbare⟩ := hbad
    obtain ⟨⟨category, hlive, rfl⟩, texts, htexts, rfl⟩ := deleteCategory_eq_ok hhandle
    rw [h.collect_of_capitals hcapitals, Except.ok.injEq] at htexts
    subst htexts
    exact h.not_sound_of_delete hlive hcapitals hbare
  | createProduct storeId requester dto =>
    obtain ⟨howner, _, product, hstore, hfiled, rfl⟩ := createProduct_eq_ok hhandle
    refine not_sound_of_product (i := c.products.nextId) ?_ (hfiled ▸ hbad) (hstore ▸ howner)
    rw [StoreCatalog.withProducts, Collection.live_create, if_pos rfl]
  | updateProduct storeId productId requester dto =>
    simp only [not_forall] at hbad
    obtain ⟨t, ht, hcapitals⟩ := hbad
    obtain ⟨howner, _, product, f, hlive, hstore, hsame, hfiled, rfl⟩ :=
      updateProduct_eq_ok hhandle
    rw [ht] at hfiled
    have hfiled : t = (f product).categoryId := Option.some.inj hfiled
    have howner' : c.assertOwnership (f product).storeId requester = .ok () := by
      rw [hsame, hstore]
      exact howner
    refine not_sound_of_product (i := productId.id) ?_ (hfiled ▸ hcapitals) howner'
    · rw [StoreCatalog.withProducts, Collection.live_modify, if_pos rfl, hlive]
      rfl
  | deleteProduct storeId productId requester => exact absurd trivial hbad

/-! ## Every sequence of requests -/

theorem canonical_empty (owners : Collection UserId) : (empty owners).Canonical := by
  have hnone : ∀ x, (empty owners).categories.live x = none := fun _ => Collection.live_empty
  have hproducts : ∀ i, (empty owners).products.live i = none := fun _ => Collection.live_empty
  refine ⟨⟨fun x category t hlive => ?_, fun i product hlive => ?_⟩, fun x category t hlive => ?_,
    fun i product hlive => ?_, fun x => .top (by rw [parentOf, hnone]; rfl)⟩
  · cases (hnone x).symm.trans hlive
  · cases (hproducts i).symm.trans hlive
  · cases (hnone x).symm.trans hlive
  · cases (hproducts i).symm.trans hlive

/-- **The categories are a forest, the walk ends and is exact, and deletion leaves no orphan, after
every request of a sequence exactly when each request is spelled well**: for any stores, and any
requests on their categories and products. -/
theorem sound_iff (owners : Collection UserId) (calls : List CatalogCall) :
    Sequence.Throughout step Sound (empty owners) calls ↔
      Sequence.Along step SpelledWell (empty owners) calls :=
  Sequence.throughout_iff_along (I := Canonical) (fun _ h => h.sound) (fun _ _ h hc => h.step hc)
    (fun _ _ h hc => h.not_sound_step hc) calls (empty owners) (canonical_empty owners)

/-- The owner of store 0 moves its only category, in capitals, under itself. -/
def ownParentCalls : List CatalogCall :=
  [.createCategory (.of 0) ⟨1, .restaurantOwner⟩ ⟨"Drinks", .absent, .absent⟩,
    .updateCategory (.of 0) ⟨0, 1⟩ ⟨1, .restaurantOwner⟩ ⟨.absent, .value (.of 0), .absent⟩]

/-- The catalog after that. -/
def ownParent : StoreCatalog := ownParentCalls.foldl step (empty ⟨[1]⟩)

/-- **A category that is its own parent, and a walk that never ends.** -/
theorem its_own_parent : ¬ Sequence.Throughout step Sound (empty ⟨[1]⟩) ownParentCalls ∧
    ownParent.parentOf 0 = some 0 ∧ ∀ n, ownParent.collect (.of 0) n [.of 0] = none := by
  have hloop : ownParent.parentOf 0 = some 0 := by decide +kernel
  refine ⟨?_, hloop, fun n => ?_⟩
  · rintro ⟨_, _, hsound⟩
    exact Sound.acyclic (c := ownParent) hsound 0 (.single hloop)
  · have hchild : ownParent.childIds (.of 0) [.of 0] = [0] := by decide +kernel
    induction n with
    | zero => rfl
    | succ n ih =>
      rw [collect, hchild]
      exact congrArg (Option.map _) ih

end StoreCatalog

end ProductsService

end FoodDelivery
