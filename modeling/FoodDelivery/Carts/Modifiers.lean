import FoodDelivery.Carts.Lines

/-!
# Picks, and lines that are merged

`resolveModifiers` goes through the groups of an item and takes, for each, the selections that bear
its name.  Nothing keeps an owner from giving two groups one name.  `sameModifiers` compares texts
in which the names of the group and of the option are joined by `::`.

* `resolves_one_to_one_iff`: selections are resolved one to one unless a valid selection names two
  groups at once.
* `charged_twice`: one pick of a group that is there twice.
* `merges_identical_iff`: over any names, lists of picks are told apart, and only a line of the same
  picks grows, exactly when no two picks over these names are joined to one text.
* `merged_apart`: two different picks in one line.
-/

namespace FoodDelivery

open Store Interleave

/-! ## Lists -/

section Lists

variable {α β ε : Type}

/-- A loop that stops at the first error returns one result for each element. -/
theorem mapM_eq_ok_iff {f : α → Except ε β} {l : List α} {rs : List β} :
    l.mapM f = .ok rs ↔ List.Forall₂ (fun a b => f a = .ok b) l rs := by
  induction l generalizing rs with
  | nil =>
    rw [List.mapM_nil, List.forall₂_nil_left_iff]
    exact ⟨fun h => (Except.ok.inj h).symm, fun h => congrArg Except.ok h.symm⟩
  | cons a l ih =>
    rw [List.mapM_cons, bind_eq_ok, List.forall₂_cons_left_iff]
    constructor
    · rintro ⟨b, hb, h⟩
      obtain ⟨bs, hbs, h⟩ := bind_eq_ok.mp h
      exact ⟨b, bs, hb, ih.mp hbs, (Except.ok.inj h).symm⟩
    · rintro ⟨b, bs, hb, hbs, rfl⟩
      exact ⟨b, hb, bind_eq_ok.mpr ⟨bs, ih.mpr hbs, rfl⟩⟩

/-- A loop whose body never fails comes to its end. -/
theorem exists_mapM_eq_ok {f : α → Except ε β} {l : List α} (h : ∀ a ∈ l, ∃ b, f a = .ok b) :
    ∃ rs, l.mapM f = .ok rs := by
  induction l with
  | nil => exact ⟨[], rfl⟩
  | cons a l ih =>
    obtain ⟨b, hb⟩ := h a List.mem_cons_self
    obtain ⟨bs, hbs⟩ := ih fun x hx => h x (List.mem_cons_of_mem a hx)
    exact ⟨b :: bs, mapM_eq_ok_iff.mpr (.cons hb (mapM_eq_ok_iff.mp hbs))⟩

theorem exists_of_forall₂_left {R : α → β → Prop} {l : List α} {rs : List β}
    (h : List.Forall₂ R l rs) {b : β} (hb : b ∈ rs) : ∃ a ∈ l, R a b := by
  induction h with
  | nil => cases hb
  | @cons a b' l rs hab _ ih =>
    rcases List.mem_cons.mp hb with rfl | hb
    · exact ⟨a, List.mem_cons_self, hab⟩
    · obtain ⟨a', ha', h'⟩ := ih hb
      exact ⟨a', List.mem_cons_of_mem a ha', h'⟩

theorem exists_of_forall₂_right {R : α → β → Prop} {l : List α} {rs : List β}
    (h : List.Forall₂ R l rs) {a : α} (ha : a ∈ l) : ∃ b ∈ rs, R a b :=
  exists_of_forall₂_left h.flip ha

end Lists

/-! ## Resolving the picks -/

/-- `ModifierGroupDto`, with the `ModifierOptionDto`s in it. -/
def ModifierGroup.validates (group : ModifierGroup) : Bool :=
  group.name ≠ "" && 1 ≤ group.max && group.options.length ≤ 20 &&
    group.options.all fun option => option.name ≠ ""

/-- The selection that an entry stands for. -/
def SelectedModifier.pick (m : SelectedModifier) : ModifierSelection := ⟨m.groupName, m.optionName⟩

/-- Every selection names a group and one of its options, and every group is named as often as it
asks to be. -/
structure MenuItem.Accepts (menuItem : MenuItem) (selections : List ModifierSelection) : Prop where
  named : ∀ s ∈ selections, ∃ group ∈ menuItem.modifierGroups, group.name = s.groupName ∧
    ∃ option ∈ group.options, option.name = s.optionName
  counted : ∀ group ∈ menuItem.modifierGroups,
    group.min ≤ selections.countP (·.groupName = group.name) ∧
      selections.countP (·.groupName = group.name) ≤ group.max

/-- One entry for each selection, at what its option costs. -/
structure MenuItem.OneEach (menuItem : MenuItem) (selections : List ModifierSelection)
    (resolved : List SelectedModifier) : Prop where
  perm : (resolved.map (·.pick)).Perm selections
  priced : ∀ m ∈ resolved, ∃ group ∈ menuItem.modifierGroups, group.name = m.groupName ∧
    ∃ option, group.options.find? (fun o => o.name = m.optionName) = some option ∧
      option.priceDelta = m.priceDelta

/-- What is expected of `resolveModifiers`. -/
def MenuItem.ResolvesOneToOne (menuItem : MenuItem) (selections : List ModifierSelection) : Prop :=
  ((∃ resolved, resolveModifiers menuItem selections = .ok resolved) ↔
      menuItem.Accepts selections) ∧
    ∀ resolved, resolveModifiers menuItem selections = .ok resolved →
      menuItem.OneEach selections resolved

section Resolve

variable {menuItem : MenuItem} {group : ModifierGroup} {selections : List ModifierSelection}
  {pick : ModifierSelection} {m : SelectedModifier} {ms resolved : List SelectedModifier}

theorem name_of_find {options : List ModifierOption} {option : ModifierOption} {name : String}
    (h : options.find? (fun o => o.name = name) = some option) : option.name = name := by
  simpa using List.find?_some h

theorem ModifierGroup.resolvePick_eq_ok : group.resolvePick pick = .ok m ↔
    ∃ option, group.options.find? (fun o => o.name = pick.optionName) = some option ∧
      m = ⟨group.name, pick.optionName, option.priceDelta⟩ := by
  unfold ModifierGroup.resolvePick
  cases hfind : group.options.find? fun o => o.name = pick.optionName with
  | none => simp
  | some option =>
    simp only [Except.ok.injEq, Option.some.injEq, exists_eq_left', name_of_find hfind]
    exact eq_comm

/-- What one group makes of the selections. -/
theorem ModifierGroup.resolve_eq_ok : group.resolve selections = .ok ms ↔
    (group.min ≤ selections.countP (·.groupName = group.name) ∧
      selections.countP (·.groupName = group.name) ≤ group.max) ∧
      List.Forall₂ (fun pick m => group.resolvePick pick = .ok m)
        (selections.filter fun s => s.groupName = group.name) ms := by
  unfold ModifierGroup.resolve
  simp only [← List.countP_eq_length_filter]
  split
  · next h =>
    refine iff_of_false (by rintro ⟨⟩) fun hok => ?_
    omega
  · next h =>
    rw [mapM_eq_ok_iff]
    refine ⟨fun hall => ⟨⟨?_, ?_⟩, hall⟩, fun hall => hall.2⟩ <;> omega

/-- The entries of a group are the selections that bear its name, in their order. -/
theorem ModifierGroup.map_pick_resolve (h : group.resolve selections = .ok ms) :
    ms.map (·.pick) = selections.filter fun s => s.groupName = group.name := by
  obtain ⟨_, hall⟩ := ModifierGroup.resolve_eq_ok.mp h
  clear h
  have hnamed : ∀ pick ∈ selections.filter fun s => s.groupName = group.name,
      pick.groupName = group.name := fun pick hp => of_decide_eq_true (List.mem_filter.mp hp).2
  generalize selections.filter (fun s => s.groupName = group.name) = picks at hall hnamed
  induction hall with
  | nil => rfl
  | @cons pick m picks ms hpick _ ih =>
    obtain ⟨option, _, rfl⟩ := ModifierGroup.resolvePick_eq_ok.mp hpick
    rw [List.map_cons, ih fun p hp => hnamed p (List.mem_cons_of_mem _ hp),
      SelectedModifier.pick, ← hnamed pick List.mem_cons_self]

/-- **What `resolveModifiers` returns**: what the groups make of the selections, one after the
other, when every selection bears the name of a group. -/
theorem resolveModifiers_eq_ok : resolveModifiers menuItem selections = .ok resolved ↔
    (∃ parts, List.Forall₂ (fun group ms => group.resolve selections = .ok ms)
        menuItem.modifierGroups parts ∧ resolved = parts.flatten) ∧
      ∀ s ∈ selections, ∃ group ∈ menuItem.modifierGroups, group.name = s.groupName := by
  unfold resolveModifiers
  rw [bind_eq_ok]
  simp only [mapM_eq_ok_iff]
  have hknown : (selections.find? fun s =>
      !menuItem.modifierGroups.any fun g => g.name = s.groupName) = none ↔
      ∀ s ∈ selections, ∃ group ∈ menuItem.modifierGroups, group.name = s.groupName := by
    simp [List.find?_eq_none]
  constructor
  · rintro ⟨parts, hparts, h⟩
    split at h
    · cases h
    · next hnone =>
      exact ⟨⟨parts, hparts, (Except.ok.inj h).symm⟩, hknown.mp hnone⟩
  · rintro ⟨⟨parts, hparts, rfl⟩, hall⟩
    refine ⟨parts, hparts, ?_⟩
    rw [hknown.mpr hall]

/-- The entries, group by group. -/
theorem map_pick_resolveModifiers (h : resolveModifiers menuItem selections = .ok resolved) :
    resolved.map (·.pick) = menuItem.modifierGroups.flatMap fun group =>
      selections.filter fun s => s.groupName = group.name := by
  obtain ⟨⟨parts, hparts, rfl⟩, _⟩ := resolveModifiers_eq_ok.mp h
  clear h
  generalize menuItem.modifierGroups = groups at hparts
  induction hparts with
  | nil => rfl
  | cons hgroup _ ih =>
    rw [List.flatten_cons, List.map_append, ih, List.flatMap_cons,
      ModifierGroup.map_pick_resolve hgroup]

/-- A selection becomes an entry of every group that bears the name. -/
theorem count_resolveModifiers (h : resolveModifiers menuItem selections = .ok resolved)
    (pick : ModifierSelection) : (resolved.map (·.pick)).count pick =
      menuItem.modifierGroups.countP (·.name = pick.groupName) * selections.count pick := by
  rw [map_pick_resolveModifiers h]
  generalize menuItem.modifierGroups = groups
  induction groups with
  | nil => simp
  | cons group groups ih =>
    rw [List.flatMap_cons, List.count_append, ih, List.countP_cons, Nat.add_mul, Nat.add_comm]
    congr 1
    by_cases hname : group.name = pick.groupName
    · rw [List.count_filter (by simp [hname])]
      simp [hname]
    · rw [List.count_eq_zero_of_not_mem (by simp [Ne.symm hname])]
      simp [hname]

/-- **Only valid selections are resolved.** -/
theorem accepts_of_resolveModifiers (h : resolveModifiers menuItem selections = .ok resolved) :
    menuItem.Accepts selections := by
  obtain ⟨⟨parts, hparts, _⟩, hknown⟩ := resolveModifiers_eq_ok.mp h
  have hresolve : ∀ group ∈ menuItem.modifierGroups, ∃ ms, group.resolve selections = .ok ms := by
    intro group hgroup
    obtain ⟨ms, _, hms⟩ := exists_of_forall₂_right hparts hgroup
    exact ⟨ms, hms⟩
  refine ⟨fun s hs => ?_, fun group hgroup => ?_⟩
  · obtain ⟨group, hgroup, hname⟩ := hknown s hs
    obtain ⟨ms, hms⟩ := hresolve group hgroup
    obtain ⟨m, _, hm⟩ := exists_of_forall₂_right (ModifierGroup.resolve_eq_ok.mp hms).2
      (List.mem_filter.mpr ⟨hs, decide_eq_true hname.symm⟩)
    obtain ⟨option, hfind, _⟩ := ModifierGroup.resolvePick_eq_ok.mp hm
    exact ⟨group, hgroup, hname, option, List.mem_of_find?_eq_some hfind, name_of_find hfind⟩
  · obtain ⟨ms, hms⟩ := hresolve group hgroup
    exact (ModifierGroup.resolve_eq_ok.mp hms).1

/-- Every entry costs what the option of its name costs in its group. -/
theorem priced_of_resolveModifiers (h : resolveModifiers menuItem selections = .ok resolved)
    (hm : m ∈ resolved) : ∃ group ∈ menuItem.modifierGroups, group.name = m.groupName ∧
      ∃ option, group.options.find? (fun o => o.name = m.optionName) = some option ∧
        option.priceDelta = m.priceDelta := by
  obtain ⟨⟨parts, hparts, rfl⟩, _⟩ := resolveModifiers_eq_ok.mp h
  obtain ⟨ms, hms, hm⟩ := List.mem_flatten.mp hm
  obtain ⟨group, hgroup, hresolve⟩ := exists_of_forall₂_left hparts hms
  obtain ⟨pick, _, hpick⟩ :=
    exists_of_forall₂_left (ModifierGroup.resolve_eq_ok.mp hresolve).2 hm
  obtain ⟨option, hfind, rfl⟩ := ModifierGroup.resolvePick_eq_ok.mp hpick
  exact ⟨group, hgroup, rfl, option, hfind, rfl⟩

/-- The only group of a name. -/
theorem eq_of_countP_eq_one {groups : List ModifierGroup} {name : String} {g g' : ModifierGroup}
    (h : groups.countP (·.name = name) = 1) (hg : g ∈ groups) (hn : g.name = name)
    (hg' : g' ∈ groups) (hn' : g'.name = name) : g = g' := by
  rw [List.countP_eq_length_filter, List.length_eq_one_iff] at h
  obtain ⟨only, honly⟩ := h
  have hmem : ∀ x ∈ groups, x.name = name → x = only := fun x hx hname =>
    List.mem_singleton.mp (honly ▸ List.mem_filter.mpr ⟨hx, decide_eq_true hname⟩)
  exact (hmem g hg hn).trans (hmem g' hg' hn').symm

/-- Valid selections are resolved when no name among them is that of two groups. -/
theorem exists_resolveModifiers (h : menuItem.Accepts selections)
    (hone : ∀ s ∈ selections, menuItem.modifierGroups.countP (·.name = s.groupName) = 1) :
    ∃ resolved, resolveModifiers menuItem selections = .ok resolved := by
  have hresolve : ∀ group ∈ menuItem.modifierGroups, ∃ ms, group.resolve selections = .ok ms := by
    intro group hgroup
    have hpicks : ∀ pick ∈ selections.filter fun s => s.groupName = group.name,
        ∃ m, group.resolvePick pick = .ok m := by
      intro pick hpick
      obtain ⟨hpick, hname⟩ := List.mem_filter.mp hpick
      obtain ⟨group', hgroup', hname', option, hoption, hopt⟩ := h.named pick hpick
      obtain rfl := eq_of_countP_eq_one (hone pick hpick) hgroup (of_decide_eq_true hname).symm
        hgroup' hname'
      have hsome : (group.options.find? fun o => o.name = pick.optionName).isSome = true :=
        List.find?_isSome.mpr ⟨option, hoption, decide_eq_true hopt⟩
      obtain ⟨found, hfound⟩ := Option.isSome_iff_exists.mp hsome
      exact ⟨_, ModifierGroup.resolvePick_eq_ok.mpr ⟨found, hfound, rfl⟩⟩
    obtain ⟨ms, hms⟩ := exists_mapM_eq_ok hpicks
    exact ⟨ms, ModifierGroup.resolve_eq_ok.mpr ⟨h.counted group hgroup, mapM_eq_ok_iff.mp hms⟩⟩
  obtain ⟨parts, hparts⟩ := exists_mapM_eq_ok hresolve
  refine ⟨parts.flatten, resolveModifiers_eq_ok.mpr ⟨⟨parts, mapM_eq_ok_iff.mp hparts, rfl⟩, ?_⟩⟩
  intro s hs
  obtain ⟨group, hgroup, hname, _⟩ := h.named s hs
  exact ⟨group, hgroup, hname⟩

/-- **Selections are resolved one to one, exactly unless a valid selection bears the name of two
groups.** -/
theorem resolves_one_to_one_iff (menuItem : MenuItem) (selections : List ModifierSelection) :
    menuItem.ResolvesOneToOne selections ↔ (menuItem.Accepts selections →
      ∀ s ∈ selections, menuItem.modifierGroups.countP (·.name = s.groupName) = 1) := by
  constructor
  · rintro ⟨hiff, heach⟩ haccepts s hs
    obtain ⟨resolved, hresolved⟩ := hiff.mpr haccepts
    have hcount := (heach resolved hresolved).perm.count_eq s
    rw [count_resolveModifiers hresolved] at hcount
    exact Nat.eq_of_mul_eq_mul_right (List.count_pos_iff.mpr hs) (hcount.trans (Nat.one_mul _).symm)
  · intro hone
    refine ⟨⟨fun hok => hok.elim fun _ h => accepts_of_resolveModifiers h, fun h =>
      exists_resolveModifiers h (hone h)⟩, fun resolved hresolved => ⟨?_, fun m hm =>
        priced_of_resolveModifiers hresolved hm⟩⟩
    rw [List.perm_iff_count]
    intro pick
    rw [count_resolveModifiers hresolved]
    by_cases hpick : pick ∈ selections
    · rw [hone (accepts_of_resolveModifiers hresolved) pick hpick, Nat.one_mul]
    · rw [List.count_eq_zero_of_not_mem hpick, Nat.mul_zero]

end Resolve

/-- A dish whose menu has one group twice. -/
def twiceListed : MenuItem where
  name := "Suya"
  price := 40
  discountedPrice := none
  imageUrl := none
  isAvailable := true
  modifierGroups := [⟨"Extras", 0, 1, [⟨"Cheese", 5⟩]⟩, ⟨"Extras", 0, 1, [⟨"Cheese", 5⟩]⟩]

/-- **One pick is charged twice.** -/
theorem charged_twice : twiceListed.modifierGroups.all ModifierGroup.validates = true ∧
    resolveModifiers twiceListed [⟨"Extras", "Cheese"⟩] =
      .ok [⟨"Extras", "Cheese", 5⟩, ⟨"Extras", "Cheese", 5⟩] ∧
      ¬ twiceListed.ResolvesOneToOne [⟨"Extras", "Cheese"⟩] := by
  have hok : resolveModifiers twiceListed [⟨"Extras", "Cheese"⟩] =
      .ok [⟨"Extras", "Cheese", 5⟩, ⟨"Extras", "Cheese", 5⟩] := by
    decide
  refine ⟨by decide, hok, fun h => ?_⟩
  have hlength := (h.2 _ hok).perm.length_eq
  cases hlength

/-! ## Telling lists of picks apart -/

def ModifierSelection.key (s : ModifierSelection) : String := s.groupName ++ "::" ++ s.optionName

/-- Modifiers over these names. -/
def Over (names : Set ModifierSelection) (modifiers : List SelectedModifier) : Prop :=
  ∀ m ∈ modifiers, m.pick ∈ names

/-- Lists over these names are the same exactly if they are the same multiset of picks. -/
def SameOver (names : Set ModifierSelection) : Prop :=
  ∀ a b : List SelectedModifier, Over names a → Over names b →
    (sameModifiers a b = true ↔ (a.map (·.pick)).Perm (b.map (·.pick)))

/-- `addItem` lets a line grow only if it is the item: over carts and items with these names, the
call that finds the cart and the one that saves it. -/
def GrowsOver (names : Set ModifierSelection) : Prop :=
  ∀ (sellers : ItemSellers) (km : Coordinates → Coordinates → ℚ≥0) (userId : UserId)
    (s s₁ s₂ : Carts) (pc₁ pc₂ : CartPc) (r₁ r₂ : CartReply) (restaurantId : VendorId)
    (item : CartItem) (replace : Bool),
    (∀ id cart, s.carts.live id = some cart → ∀ line ∈ cart.items,
      line.Fits (fun item => Over names item.selectedModifiers) s) →
    Over names item.selectedModifiers →
    cartStep sellers km userId s (.addCart (.restaurant restaurantId) item replace) r₁ =
      some (s₁, pc₁) →
    cartStep sellers km userId s₁ pc₁ r₂ = some (s₂, pc₂) →
    ∀ (id : Nat) (cart cart' : CartDocument) (j : Nat) (line line' : CartLine),
      s.carts.live id = some cart → s₂.carts.live id = some cart' →
      cart.items[j]? = some line → cart'.items[j]? = some line' → line'.id = line.id →
      line.item.qty < line'.item.qty →
        line.item.menuItemId = item.menuItemId ∧ line.item.notes = item.notes ∧
          (line.item.selectedModifiers.map (·.pick)).Perm (item.selectedModifiers.map (·.pick))

section Same

variable {names : Set ModifierSelection} {a b : List SelectedModifier}

theorem map_key_eq (a : List SelectedModifier) :
    a.map SelectedModifier.key = (a.map (·.pick)).map ModifierSelection.key := by
  rw [List.map_map]
  rfl

/-- The two lists of texts are as long, and the same once both are sorted, whatever the order. -/
theorem sameModifiers_eq_sorted {le : String → String → Bool}
    (htrans : ∀ x y z, le x y = true → le y z = true → le x z = true)
    (htotal : ∀ x y, (le x y || le y x) = true)
    (hanti : ∀ x y, le x y = true → le y x = true → x = y) :
    sameModifiers a b = (decide (a.length = b.length) &&
      decide ((a.map SelectedModifier.key).mergeSort le =
        (b.map SelectedModifier.key).mergeSort le)) := by
  rw [Bool.eq_iff_iff, Bool.and_eq_true, decide_eq_true_eq, decide_eq_true_eq, sameModifiers,
    List.isPerm_iff]
  constructor
  · intro h
    have hlength := h.length_eq
    rw [List.length_map, List.length_map] at hlength
    refine ⟨hlength, List.Perm.eq_of_pairwise (fun x y _ _ => hanti x y)
      (List.pairwise_mergeSort htrans htotal _) (List.pairwise_mergeSort htrans htotal _) ?_⟩
    exact (List.mergeSort_perm _ _).trans (h.trans (List.mergeSort_perm _ _).symm)
  · rintro ⟨_, hsorted⟩
    exact (List.mergeSort_perm _ le).symm.trans (hsorted ▸ List.mergeSort_perm _ le)

/-- Texts that no two picks share tell the picks apart. -/
theorem perm_of_sameModifiers (hinj : Set.InjOn ModifierSelection.key names) (ha : Over names a)
    (hb : Over names b) (h : sameModifiers a b = true) :
    (a.map (·.pick)).Perm (b.map (·.pick)) := by
  have : Nonempty ModifierSelection := ⟨⟨"", ""⟩⟩
  have hback : ∀ l : List SelectedModifier, Over names l →
      (l.map SelectedModifier.key).map (Function.invFunOn ModifierSelection.key names) =
        l.map (·.pick) := by
    intro l hl
    rw [List.map_map]
    exact List.map_congr_left fun m hm => hinj.leftInvOn_invFunOn (hl m hm)
  rw [← hback a ha, ← hback b hb]
  exact (List.isPerm_iff.mp h).map _

theorem sameModifiers_of_perm (h : (a.map (·.pick)).Perm (b.map (·.pick))) :
    sameModifiers a b = true := by
  rw [sameModifiers, List.isPerm_iff, map_key_eq, map_key_eq]
  exact h.map _

/-- Names without a colon, of the groups at least, are told apart. -/
theorem key_injOn_of_no_colon :
    Set.InjOn ModifierSelection.key {s | ':' ∉ s.groupName.toList} := by
  have hgroup : ∀ s : ModifierSelection, ':' ∉ s.groupName.toList →
      s.key.toList.takeWhile (· ≠ ':') = s.groupName.toList := by
    intro s hs
    rw [ModifierSelection.key, String.toList_append, String.toList_append, List.append_assoc,
      List.takeWhile_append_of_pos fun c hc => decide_eq_true (by rintro rfl; exact hs hc)]
    simp
  intro x hx y hy hkey
  have hname : x.groupName = y.groupName := by
    rw [← String.toList_inj, ← hgroup x hx, ← hgroup y hy, hkey]
  have hoption : x.optionName = y.optionName := by
    rw [ModifierSelection.key, ModifierSelection.key, hname] at hkey
    exact String.append_right_inj _ |>.mp hkey
  obtain ⟨groupName, optionName⟩ := x
  obtain ⟨groupName', optionName'⟩ := y
  exact congrArg₂ ModifierSelection.mk hname hoption

end Same

/-! ## Merging lines -/

section Merge

variable {sellers : ItemSellers} {km : Coordinates → Coordinates → ℚ≥0} {userId : UserId}
  {s s₁ s₂ : Carts} {pc₁ pc₂ : CartPc} {r₁ r₂ : CartReply} {seller : Seller} {item : CartItem}
  {replace : Bool} {id j : Nat} {cart cart' : CartDocument} {line line' : CartLine}

/-- An edit in place lets no other line grow. -/
theorem edited_of_grown {at' index : Nat} {qty : Option Nat} {notes : Option String}
    (hlive : s.carts.live id = some cart)
    (hlive' : (s.modifyCart at' fun c => c.edit index qty notes).carts.live id = some cart')
    (hline : cart.items[j]? = some line) (hline' : cart'.items[j]? = some line')
    (hqty : line.item.qty < line'.item.qty) : at' = id ∧ index = j := by
  have differ : line' ≠ line := by
    rintro rfl
    exact Nat.lt_irrefl _ hqty
  rcases Carts.live_modifyCart hlive' with ⟨hat, old, hold, rfl⟩ | ⟨_, hother⟩
  · refine ⟨hat, Decidable.byContradiction fun hj => differ ?_⟩
    obtain rfl := Option.some.inj (hlive.symm.trans hold)
    simp only [CartDocument.edit, List.getElem?_modify, if_neg hj, Option.map_eq_map,
      Option.map_id'] at hline'
    exact Option.some.inj (hline'.symm.trans hline)
  · rw [Option.some.inj (hother.symm.trans hlive)] at hline'
    exact absurd (Option.some.inj (hline'.symm.trans hline)) differ

/-- A push lets no line grow. -/
theorem not_grown_pushItem {at' : Nat} (hlive : s.carts.live id = some cart)
    (hlive' : (s.pushItem at' item).carts.live id = some cart')
    (hline : cart.items[j]? = some line) (hline' : cart'.items[j]? = some line') :
    line' = line := by
  rcases Carts.live_modifyCart hlive' with ⟨_, old, hold, rfl⟩ | ⟨_, hother⟩
  · have hlt : j < cart.items.length := (List.getElem?_eq_some_iff.mp hline).1
    rw [← Option.some.inj (hlive.symm.trans hold), CartDocument.push,
      List.getElem?_append_left hlt] at hline'
    exact Option.some.inj (hline'.symm.trans hline)
  · rw [Option.some.inj (hother.symm.trans hlive)] at hline'
    exact Option.some.inj (hline'.symm.trans hline)

/-- The lines of a cart that starts over are new. -/
theorem not_grown_startOver {at' : Nat} {items : List CartItem}
    (hnew : ∀ line ∈ cart.items, line.id < s.nextLine) (hlive : s.carts.live id = some cart)
    (hlive' : (s.startOver at' seller items).carts.live id = some cart')
    (hline : cart.items[j]? = some line) (hline' : cart'.items[j]? = some line')
    (hid : line'.id = line.id) : line' = line := by
  rcases Carts.live_modifyCart hlive' with ⟨_, _, _, rfl⟩ | ⟨_, hother⟩
  · obtain ⟨x, _, rfl⟩ := List.mem_map.mp (List.mem_of_getElem? hline')
    have hlt := hnew line (List.mem_of_getElem? hline)
    rw [← hid] at hlt
    exact absurd hlt (Nat.not_lt.mpr (Nat.le_add_right _ _))
  · rw [Option.some.inj (hother.symm.trans hlive)] at hline'
    exact Option.some.inj (hline'.symm.trans hline)

/-- **The only line that grows is the one that the item is added to.** -/
theorem isLineOf_of_grown
    (hnew : ∀ id cart, s.carts.live id = some cart → ∀ line ∈ cart.items, line.id < s.nextLine)
    (hfind : cartStep sellers km userId s (.addCart seller item replace) r₁ = some (s₁, pc₁))
    (hsave : cartStep sellers km userId s₁ pc₁ r₂ = some (s₂, pc₂))
    (hlive : s.carts.live id = some cart) (hlive' : s₂.carts.live id = some cart')
    (hline : cart.items[j]? = some line) (hline' : cart'.items[j]? = some line')
    (hid : line'.id = line.id) (hqty : line.item.qty < line'.item.qty) :
    item.isLineOf line.item seller = true := by
  have differ : line' = line → item.isLineOf line.item seller = true := by
    rintro rfl
    exact absurd hqty (Nat.lt_irrefl _)
  have unwritten : s₂ = s → item.isLineOf line.item seller = true := by
    rintro rfl
    rw [Option.some.inj (hlive'.symm.trans hlive)] at hline'
    exact differ (Option.some.inj (hline'.symm.trans hline))
  simp only [cartStep, Option.some.injEq, Prod.mk.injEq] at hfind
  obtain ⟨rfl, rfl⟩ := hfind
  cases hfound : s.find with
  | none =>
    simp only [hfound, afterAddCart, cartStep] at hsave
    cases hsave
    rcases Carts.live_createCart hlive' with ⟨rfl, _⟩ | hold
    · exact absurd (Collection.lt_nextId_of_live hlive) (Nat.lt_irrefl _)
    · rw [Option.some.inj (hold.symm.trans hlive)] at hline'
      exact differ (Option.some.inj (hline'.symm.trans hline))
  | some found =>
    obtain ⟨at', old⟩ := found
    have hold := Carts.live_of_find hfound
    simp only [hfound, afterAddCart] at hsave
    split at hsave
    · split at hsave
      · cases hsave
      · rcases saveVersioned_cases (Option.some.inj hsave) with ⟨rfl, _, _⟩ | ⟨rfl, _⟩
        · exact differ (not_grown_startOver (hnew id cart hlive) hlive hlive' hline hline' hid)
        · exact unwritten rfl
    · split at hsave
      · simp only [cartStep] at hsave
        split at hsave
        · cases hsave
          exact differ (not_grown_pushItem hlive hlive' hline hline')
        · cases hsave
          exact unwritten rfl
      · next index hindex =>
        split at hsave
        · cases hsave
        · rcases saveVersioned_cases (Option.some.inj hsave) with ⟨rfl, _, _⟩ | ⟨rfl, _⟩
          · obtain ⟨rfl, rfl⟩ := edited_of_grown hlive hlive' hline hline' hqty
            obtain ⟨hlt, his, _⟩ := List.findIdx?_eq_some_iff_getElem.mp hindex
            rw [Option.some.inj (hlive.symm.trans hold), List.getElem?_eq_getElem hlt,
              Option.some.injEq] at hline
            exact hline ▸ his
          · exact unwritten rfl

/-- **Lists of picks are told apart, and only a line of the same dish, notes and picks grows,
exactly when no two picks over these names are joined to one text.** -/
theorem merges_identical_iff (names : Set ModifierSelection) :
    SameOver names ∧ GrowsOver names ↔ Set.InjOn ModifierSelection.key names := by
  constructor
  · rintro ⟨hsame, _⟩ x hx y hy hkey
    have hperm := (hsame [⟨x.groupName, x.optionName, 0⟩] [⟨y.groupName, y.optionName, 0⟩]
      (by simpa [Over, SelectedModifier.pick] using hx)
      (by simpa [Over, SelectedModifier.pick] using hy)).mp (by
        rw [sameModifiers, List.isPerm_iff, map_key_eq, map_key_eq]
        simpa [SelectedModifier.pick] using hkey)
    exact List.singleton_perm_singleton.mp hperm
  · intro hinj
    refine ⟨fun a b ha hb => ⟨perm_of_sameModifiers hinj ha hb, sameModifiers_of_perm⟩, ?_⟩
    intro sellers km userId s s₁ s₂ pc₁ pc₂ r₁ r₂ restaurantId item replace hfits hitem hfind hsave
      id cart cart' j line line' hlive hlive' hline hline' hid hqty
    have hof := isLineOf_of_grown (fun id cart h line hl => (hfits id cart h line hl).2) hfind hsave
      hlive hlive' hline hline' hid hqty
    simp only [CartItem.isLineOf, Bool.and_eq_true, decide_eq_true_eq] at hof
    exact ⟨hof.1, hof.2.1, perm_of_sameModifiers hinj
      (hfits id cart hlive line (List.mem_of_getElem? hline)).1 hitem hof.2.2⟩

end Merge

/-- A dish whose names of groups and options contain the separator. -/
def riceTwice : CartReply where
  menuItems := fun _ => some ⟨"Rice", 40, none, none, true,
    [⟨"Rice::Jollof", 0, 1, [⟨"Hot", 0⟩]⟩, ⟨"Rice", 0, 1, [⟨"Jollof::Hot", 0⟩]⟩]⟩
  products := fun _ => none
  catalogue := lunchCatalogue .empty

def addRice (pick : ModifierSelection) : CartEvent :=
  .spawn (.addItem ⟨0, none, [pick], none, false⟩)

/-- One of either kind. -/
def oneOfEither : List CartEvent :=
  addRice ⟨"Rice::Jollof", "Hot"⟩ :: List.replicate 4 (.run 0 riceTwice) ++
    addRice ⟨"Rice", "Jollof::Hot"⟩ :: List.replicate 4 (.run 1 riceTwice)

/-- **Two different picks are one to the cart**: two of the first kind are served. -/
theorem merged_apart :
    sameModifiers [⟨"Rice::Jollof", "Hot", 0⟩] [⟨"Rice", "Jollof::Hot", 0⟩] = true ∧
      ¬ SameOver Set.univ ∧ ∃ s : CartPool,
        (carts twoRestaurants (fun _ _ => 0) 3).exec ⟨.empty, []⟩ oneOfEither = some s ∧
          s.shared.find.any (fun found => found.2.items.map (fun line =>
            (line.item.qty, line.item.selectedModifiers)) =
              [(2, [⟨"Rice::Jollof", "Hot", 0⟩])]) = true := by
  have hsame : sameModifiers [⟨"Rice::Jollof", "Hot", 0⟩] [⟨"Rice", "Jollof::Hot", 0⟩] = true := by
    decide
  refine ⟨hsame, fun h => ?_, ?_⟩
  · have hperm := (h _ _ (fun _ _ => trivial) (fun _ _ => trivial)).mp hsame
    simp [SelectedModifier.pick] at hperm
  · have hplay : ((carts twoRestaurants (fun _ _ => 0) 3).play (fun _ _ => true) ⟨.empty, []⟩
        oneOfEither).any (fun s => s.shared.find.any fun found => found.2.items.map (fun line =>
          (line.item.qty, line.item.selectedModifiers)) =
            [(2, [⟨"Rice::Jollof", "Hot", 0⟩])]) = true := by
      decide +kernel
    obtain ⟨s, hs, _, hp⟩ := Machine.exists_exec_of_play oneOfEither hplay
    exact ⟨s, hs, hp⟩

end FoodDelivery
