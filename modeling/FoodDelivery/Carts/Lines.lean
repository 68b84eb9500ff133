import FoodDelivery.Carts.OneSeller

/-!
# What the lines of carts are made of

A line comes from a dish or a product of the catalogue, when it is added or carried over from an
order, and is edited in its quantity and its notes only.

* `lines_kept`: what holds of every new line and outlives an edit holds of every line of every cart,
  in every run, and of the carts that orders are made from.
* `productsPlain`: lines of products carry no modifiers.
-/

namespace FoodDelivery

open Store Interleave

/-- What holds of every new line, and still after an edit. -/
structure ItemRule (P : CartItem → Prop) : Prop where
  dish : ∀ (menuItem : MenuItem) (menuItemId : ItemId) (qty : Nat)
    (selectedModifiers : List SelectedModifier) (notes : String),
    P (menuItem.toCartItem menuItemId qty selectedModifiers notes)
  product : ∀ (product : Product) (productId : ItemId) (qty : Nat) (notes : String),
    P (product.toCartItem productId qty notes)
  edit : ∀ (item : CartItem) (qty : Nat) (notes : String), P item →
    P { item with qty := qty, notes := notes }

section Definitions

variable (km : Coordinates → Coordinates → ℚ≥0) (P : CartItem → Prop)

/-- An order that one of the two methods makes of a cart with such items. -/
def CreatedOrder.MadeOf (order : CreatedOrder) : Prop :=
  ∃ (c : Catalogue) (userId : UserId) (dto : CreateOrderDto) (cart : Cart),
    (∀ item ∈ cart.items, P item) ∧
      (c.createRestaurantOrder km userId dto cart = .ok order ∨
        c.createStoreOrder km userId dto cart = .ok order)

/-- Such an item, under an `_id` that was given out. -/
def CartLine.Fits (line : CartLine) (s : Carts) : Prop := P line.item ∧ line.id < s.nextLine

structure Carts.Lines (s : Carts) : Prop where
  carts : ∀ id cart, s.carts.live id = some cart → ∀ line ∈ cart.items, line.Fits P s
  orders : ∀ id order, s.orders.get id = some order → order.MadeOf km P

/-- What is known of a call. -/
def KnowsLines (s : Carts) : CartPc → Prop
  | .addCart _ item _ => P item
  | .reorderLine _ _ _ items _ => ∀ item ∈ items, P item
  | .insert _ items _ => ∀ item ∈ items, P item
  | .savePush _ item => P item
  | .saveOver _ _ _ items _ => ∀ item ∈ items, P item
  | .saveItems _ _ lines => ∀ line ∈ lines, line.Fits P s
  | .createRestaurantOrder _ cart => ∀ item ∈ cart.items, P item
  | .createStoreOrder _ cart => ∀ item ∈ cart.items, P item
  | _ => True

end Definitions

/-! ## Writes -/

section Writes

variable {km : Coordinates → Coordinates → ℚ≥0} {P : CartItem → Prop} {s s' : Carts} {id : Nat}
  {cart : CartDocument} {seller : Seller} {items : List CartItem} {line : CartLine}
  {f : CartDocument → CartDocument}

theorem CartLine.Fits.mono (h : line.Fits P s) (hle : s.nextLine ≤ s'.nextLine) :
    line.Fits P s' := ⟨h.1, Nat.lt_of_lt_of_le h.2 hle⟩

/-- New lines take the next `_id`s. -/
theorem fits_number (h : ∀ item ∈ items, P item) (hnext : s'.nextLine = s.nextLine + items.length) :
    ∀ line ∈ s.number items, line.Fits P s' := by
  intro line hline
  obtain ⟨x, hx, rfl⟩ := List.mem_map.mp hline
  refine ⟨h x.1 (List.fst_mem_of_mem_zipIdx hx), ?_⟩
  have hlt := (List.mem_zipIdx hx).2.1
  show s.nextLine + x.2 < s'.nextLine
  omega

/-- Lines written to one cart. -/
theorem Carts.Lines.modifyCart (h : s.Lines km P) (hcarts : s'.carts = (s.modifyCart id f).carts)
    (horders : s'.orders = s.orders) (hle : s.nextLine ≤ s'.nextLine)
    (hf : ∀ cart, s.carts.live id = some cart → ∀ line ∈ (f cart).items, line.Fits P s') :
    s'.Lines km P where
  carts i cart hi := by
    rw [hcarts] at hi
    rcases Carts.live_modifyCart hi with ⟨rfl, old, hold, rfl⟩ | ⟨_, hold⟩
    · exact hf old hold
    · exact fun line hline => (h.carts i cart hold line hline).mono hle
  orders i order hi := h.orders i order (horders ▸ hi)

theorem Carts.Lines.deleteCart (h : s.Lines km P) : (s.deleteCart id).Lines km P where
  carts i cart hi := h.carts i cart (Carts.live_deleteCart hi)
  orders := h.orders

theorem Carts.Lines.clear (h : s.Lines km P) : s.clear.Lines km P := by
  unfold Carts.clear
  split
  · exact h
  · exact h.deleteCart

theorem Carts.nextLine_clear (s : Carts) : s.clear.nextLine = s.nextLine := by
  unfold Carts.clear
  split <;> rfl

theorem Carts.Lines.createCart (h : s.Lines km P) (hitems : ∀ item ∈ items, P item) :
    (s.createCart seller items).Lines km P where
  carts i cart hi := by
    rcases Carts.live_createCart hi with ⟨_, rfl⟩ | hold
    · exact fits_number hitems rfl
    · exact fun line hline => (h.carts i cart hold line hline).mono (Nat.le_add_right _ _)
  orders := h.orders

theorem Carts.Lines.createOrder {order : CreatedOrder} (h : s.Lines km P)
    (horder : order.MadeOf km P) : (s.createOrder order).Lines km P where
  carts := h.carts
  orders i found hi := by
    rcases Collection.get_create_cases hi with ⟨_, rfl⟩ | ⟨_, hold⟩
    · exact horder
    · exact h.orders i found hold

/-- A line that is edited in place. -/
theorem fits_edit (hP : ItemRule P) {index : Nat} {qty : Option Nat} {notes : Option String}
    (h : ∀ line ∈ cart.items, line.Fits P s) :
    ∀ line ∈ (cart.edit index qty notes).items, line.Fits P s := by
  intro line hline
  rw [CartDocument.edit, List.mem_iff_getElem?] at hline
  obtain ⟨j, hj⟩ := hline
  rw [List.getElem?_modify] at hj
  obtain ⟨old, hold, rfl⟩ := Option.map_eq_some_iff.mp hj
  have hfits := h old (List.mem_of_getElem? hold)
  split
  · exact ⟨hP.edit _ _ _ hfits.1, hfits.2⟩
  · exact hfits

end Writes

/-! ## What a call knows -/

section Knowledge

variable {P : CartItem → Prop} {s s' : Carts} {seller : Seller} {items : List CartItem}
  {r : CartReply}

/-- What is carried over is made anew. -/
theorem of_reorderItem (hP : ItemRule P) {line : OrderItem} {item : CartItem}
    (h : reorderItem r seller line = some item) : P item := by
  cases seller with
  | restaurant restaurantId =>
    obtain ⟨menuItemId, _, hrest⟩ := Option.bind_eq_some_iff.mp h
    obtain ⟨menuItem, _, hmap⟩ := Option.bind_eq_some_iff.mp hrest
    obtain ⟨modifiers, _, rfl⟩ := Option.map_eq_some_iff.mp hmap
    exact hP.dish _ _ _ _ _
  | store storeId =>
    obtain ⟨productId, _, hrest⟩ := Option.bind_eq_some_iff.mp h
    obtain ⟨product, _, rfl⟩ := Option.map_eq_some_iff.mp hrest
    exact hP.product _ _ _ _

theorem KnowsLines.mono {pc : CartPc} (h : KnowsLines P s pc) (hle : s.nextLine ≤ s'.nextLine) :
    KnowsLines P s' pc := by
  cases pc with
  | saveItems id version lines => exact fun line hline => (h line hline).mono hle
  | _ => exact h

theorem toResponse_items {cart : CartDocument} (h : ∀ line ∈ cart.items, line.Fits P s) :
    ∀ item ∈ cart.toResponse.items, P item := by
  intro item hitem
  obtain ⟨line, hline, rfl⟩ := List.mem_map.mp hitem
  exact (h line hline).1

end Knowledge

/-! ## One database call -/

section Steps

variable {km : Coordinates → Coordinates → ℚ≥0} {P : CartItem → Prop} {sellers : ItemSellers}
  {s s' : Carts} {pc pc' : CartPc} {r : CartReply} {userId : UserId}

/-- **One database call keeps the lines.** -/
theorem lines_step (hP : ItemRule P) (h : s.Lines km P) (hknows : KnowsLines P s pc)
    (hstep : cartStep sellers km userId s pc r = some (s', pc')) :
    s'.Lines km P ∧ KnowsLines P s' pc' ∧ s.nextLine ≤ s'.nextLine := by
  have idle : ∀ {pc'}, KnowsLines P s pc' →
      s.Lines km P ∧ KnowsLines P s pc' ∧ s.nextLine ≤ s.nextLine :=
    fun hk => ⟨h, hk, Nat.le_refl _⟩
  cases cart_move hstep with
  | rejected => exact idle trivial
  | unchanged => exact idle trivial
  | dish => exact idle trivial
  | product => exact idle trivial
  | adds => exact idle (hP.dish _ _ _ _ _)
  | addsProduct => exact idle (hP.product _ _ _ _)
  | starts => exact idle fun item hitem => List.mem_singleton.mp hitem ▸ hknows
  | startsOver => exact idle fun item hitem => List.mem_singleton.mp hitem ▸ hknows
  | pushes => exact idle hknows
  | edits => exact idle trivial
  | order => exact idle trivial
  | cart => exact idle trivial
  | reorders => exact idle fun item hitem => absurd hitem List.not_mem_nil
  | skips => exact idle hknows
  | carries hitem =>
    refine idle fun x hx => ?_
    rcases List.mem_append.mp hx with hold | hnew
    · exact hknows x hold
    · rw [List.mem_singleton.mp hnew]
      exact of_reorderItem hP hitem
  | restarts => exact idle hknows
  | replaces => exact idle hknows
  | removes hlive =>
    exact idle fun line hline => h.carts _ _ hlive line (List.mem_of_mem_filter hline)
  | empties => exact idle trivial
  | created => exact ⟨h.createCart hknows, trivial, Nat.le_add_right _ _⟩
  | pushed =>
    refine ⟨h.modifyCart rfl rfl (Nat.le_succ _) fun cart hlive line hline => ?_, trivial,
      Nat.le_succ _⟩
    rcases List.mem_append.mp hline with hold | hnew
    · exact (h.carts _ cart hlive line hold).mono (Nat.le_succ _)
    · rw [List.mem_singleton.mp hnew]
      exact ⟨hknows, Nat.lt_succ_self _⟩
  | startedOver =>
    exact ⟨h.modifyCart rfl rfl (Nat.le_add_right _ _) fun _ _ => fits_number hknows rfl, trivial,
      Nat.le_add_right _ _⟩
  | saved =>
    exact ⟨h.modifyCart rfl rfl (Nat.le_refl _) fun _ _ => hknows, trivial, Nat.le_refl _⟩
  | edited =>
    exact ⟨h.modifyCart rfl rfl (Nat.le_refl _) fun cart hlive =>
      fits_edit hP (h.carts _ cart hlive), trivial, Nat.le_refl _⟩
  | deleted => exact ⟨h.deleteCart, trivial, Nat.le_refl _⟩
  | cleared => exact ⟨h.clear, trivial, Nat.le_of_eq (Carts.nextLine_clear s).symm⟩
  | ordersOfRestaurant => exact idle trivial
  | ordersOfStore hlive => exact idle (toResponse_items (h.carts _ _ hlive))
  | ordersCart hlive => exact idle (toResponse_items (h.carts _ _ hlive))
  | orderedFromRestaurant horder =>
    exact ⟨h.createOrder ⟨_, _, _, _, hknows, Or.inl horder⟩, trivial, Nat.le_refl _⟩
  | orderedFromStore horder =>
    exact ⟨h.createOrder ⟨_, _, _, _, hknows, Or.inr horder⟩, trivial, Nat.le_refl _⟩

end Steps

/-! ## Every run -/

section Runs

variable {km : Coordinates → Coordinates → ℚ≥0} {P : CartItem → Prop}

def cartLines (km : Coordinates → Coordinates → ℚ≥0) (P : CartItem → Prop) :
    Outline Carts CartPc where
  shared := Carts.Lines km P
  proc := KnowsLines P
  compat _ _ := True
  symm _ _ _ := trivial

theorem cartLines_kept (hP : ItemRule P) (sellers : ItemSellers) (userId : UserId) :
    (cartLines km P).Kept (carts sellers km userId) (fun _ _ => True) fun _ => True where
  spawn s k _ _ _ := ⟨by cases k <;> trivial, fun _ _ => trivial⟩
  env _ e := e.elim
  run s i r pc w pc' _ _ h hp hstep := by
    obtain ⟨hlines, hknows, hle⟩ := lines_step hP h.shared (h.at hp) hstep
    exact ⟨hlines, hknows, fun j q _ _ hq _ => ⟨KnowsLines.mono hq hle, trivial⟩⟩

theorem Carts.lines_empty : Carts.empty.Lines km P where
  carts id cart h := by cases Collection.live_empty.symm.trans h
  orders id order h := by cases Collection.get_empty.symm.trans h

/-- **What holds of every new line holds of all of them, in every run.** -/
theorem lines_kept (hP : ItemRule P) (sellers : ItemSellers) (userId : UserId) {s : CartPool}
    (h : (carts sellers km userId).Reach (fun _ _ => True) ⟨.empty, []⟩ s) :
    s.shared.Lines km P :=
  (Outline.holds_of_reach (cartLines_kept hP sellers userId) (fun _ _ => trivial)
    (Outline.holds_nil Carts.lines_empty) h).shared

/-- Only dishes carry modifiers. -/
def CartItem.ProductPlain (item : CartItem) : Prop :=
  item.productId ≠ none → item.selectedModifiers = []

/-- **Lines of products carry no modifiers.** -/
theorem productsPlain : ItemRule CartItem.ProductPlain where
  dish _ _ _ _ _ h := absurd rfl h
  product _ _ _ _ _ := rfl
  edit _ _ _ h := h

end Runs

end FoodDelivery
