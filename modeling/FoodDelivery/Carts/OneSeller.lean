import FoodDelivery.Carts.Moves
import FoodDelivery.Orders.Snapshots

/-!
# One seller per cart and per order

A call checks the seller of the cart it reads, and pushes later.  The push has no condition, so it
may land in a cart that another call has started over with another seller.

* `Follows`: what no write changes of a cart unless its version grows.
* `one_seller_iff`: carts and orders are of one seller all along a run exactly when every push
  lands in a cart of its own seller.
* `ordered_from_two`: an order of one restaurant with a dish of another.
-/

namespace FoodDelivery

open Store Interleave

variable (sellers : ItemSellers)

def CartDocument.OneSeller (cart : CartDocument) : Prop :=
  ∀ line ∈ cart.items, sellers.sells cart.seller line.item.menuItemId line.item.productId = true

def CreatedOrder.OneSeller (order : CreatedOrder) : Prop :=
  ∀ item ∈ order.items, sellers.sells order.seller item.menuItemId item.productId = true

/-- Every stored cart and every order contains items of its own seller only. -/
structure Carts.OneSeller (s : Carts) : Prop where
  carts : ∀ id cart, s.carts.live id = some cart → cart.OneSeller sellers
  orders : ∀ id order, s.orders.get id = some order → order.OneSeller sellers

/-- An item is pushed only to a cart that is, at that moment, of the seller of the item. -/
def PushFits (s : CartPool) : CartEvent → Bool
  | .run i _ =>
    match s.procs[i]? with
    | some (.savePush id item) => (s.shared.carts.live id).all fun cart =>
        sellers.sells cart.seller item.menuItemId item.productId
    | _ => true
  | _ => true

/-- Items that are all of one seller. -/
def AllSold (seller : Seller) (items : List CartItem) : Prop :=
  ∀ item ∈ items, sellers.sells seller item.menuItemId item.productId = true

/-- What is known of a call. -/
def KnowsCart (s : Carts) : CartPc → Prop
  | .addCart seller item _ => AllSold sellers seller [item]
  | .reorderCart order _ => order.OneSeller sellers
  | .reorderShop order _ => order.OneSeller sellers
  | .reorderLine seller _ lines items _ =>
    (∀ line ∈ lines, sellers.sells seller line.menuItemId line.productId = true) ∧
      AllSold sellers seller items
  | .insert seller items _ => AllSold sellers seller items
  | .saveOver _ _ seller items _ => AllSold sellers seller items
  | .saveItems id version items => id < s.carts.nextId ∧
    ∀ cart, s.carts.live id = some cart → version ≤ cart.version ∧
      (cart.version = version → AllSold sellers cart.seller (items.map (·.item)))
  | .createRestaurantOrder _ cart => ∀ id, cart.restaurantId = some id →
    AllSold sellers (.restaurant id) cart.items
  | .createStoreOrder _ cart => ∀ id, cart.storeId = some id →
    AllSold sellers (.store id) cart.items
  | _ => True

/-- A cart that was there keeps its seller, or gets a later version. -/
structure Carts.Follows (s s' : Carts) : Prop where
  nextId : s.carts.nextId ≤ s'.carts.nextId
  carts : ∀ id cart', id < s.carts.nextId → s'.carts.live id = some cart' →
    ∃ cart, s.carts.live id = some cart ∧ cart.version ≤ cart'.version ∧
      (cart'.version = cart.version → cart'.seller = cart.seller)

/-! ## Writes -/

section Writes

variable {sellers} {s s' : Carts} {id i version : Nat} {cart : CartDocument} {seller : Seller}
  {items : List CartItem} {f : CartDocument → CartDocument}

theorem Carts.live_modifyCart (h : (s.modifyCart id f).carts.live i = some cart) :
    (id = i ∧ ∃ old, s.carts.live i = some old ∧ cart = f old) ∨
      (id ≠ i ∧ s.carts.live i = some cart) :=
  Collection.live_modify_cases h

theorem Carts.live_deleteCart (h : (s.deleteCart id).carts.live i = some cart) :
    s.carts.live i = some cart :=
  Collection.live_of_remove h

theorem Carts.live_createCart (h : (s.createCart seller items).carts.live i = some cart) :
    (i = s.carts.nextId ∧ cart = ⟨seller, s.number items, 0⟩) ∨ s.carts.live i = some cart := by
  rcases Collection.live_create_cases h with ⟨hi, hnew⟩ | hold
  · exact Or.inl ⟨hi, (Option.some.inj hnew).symm⟩
  · exact Or.inr hold

/-! ### What a write leaves of the carts -/

theorem Carts.Follows.refl (s : Carts) : s.Follows s :=
  ⟨Nat.le_refl _, fun _ cart _ h => ⟨cart, h, Nat.le_refl _, fun _ => rfl⟩⟩

theorem Carts.follows_modifyCart
    (hf : ∀ cart, cart.version ≤ (f cart).version ∧
      ((f cart).version = cart.version → (f cart).seller = cart.seller)) :
    s.Follows (s.modifyCart id f) := by
  refine ⟨Nat.le_of_eq Collection.nextId_modify.symm, fun j cart' _ h => ?_⟩
  rcases Carts.live_modifyCart h with ⟨_, old, hold, rfl⟩ | ⟨_, hold⟩
  · exact ⟨old, hold, hf old⟩
  · exact ⟨cart', hold, Nat.le_refl _, fun _ => rfl⟩

/-- A write that lets the version grow. -/
theorem Carts.follows_later (hf : ∀ cart, (f cart).version = cart.version + 1) :
    s.Follows (s.modifyCart id f) := by
  refine Carts.follows_modifyCart fun cart => ?_
  rw [hf cart]
  exact ⟨Nat.le_succ _, fun h => absurd h (Nat.succ_ne_self _)⟩

theorem Carts.follows_edit {index : Nat} {qty : Option Nat} {notes : Option String} :
    s.Follows (s.modifyCart id fun cart => cart.edit index qty notes) :=
  Carts.follows_modifyCart fun _ => ⟨Nat.le_refl _, fun _ => rfl⟩

theorem Carts.follows_deleteCart : s.Follows (s.deleteCart id) :=
  ⟨Nat.le_of_eq Collection.nextId_modify.symm, fun _ cart' _ h =>
    ⟨cart', Carts.live_deleteCart h, Nat.le_refl _, fun _ => rfl⟩⟩

theorem Carts.follows_createCart : s.Follows (s.createCart seller items) := by
  refine ⟨Nat.le_of_lt (Nat.lt_of_lt_of_eq (Nat.lt_succ_self _) Collection.nextId_create.symm),
    fun j cart' hj h => ?_⟩
  rcases Carts.live_createCart h with ⟨rfl, _⟩ | hold
  · exact absurd hj (Nat.lt_irrefl _)
  · exact ⟨cart', hold, Nat.le_refl _, fun _ => rfl⟩

theorem Carts.follows_clear : s.Follows s.clear := by
  unfold Carts.clear
  split
  · exact .refl s
  · exact Carts.follows_deleteCart

/-! ### What a write leaves of the sellers -/

theorem allSold_number (h : AllSold sellers seller items) :
    ∀ line ∈ s.number items,
      sellers.sells seller line.item.menuItemId line.item.productId = true := by
  intro line hline
  obtain ⟨x, hx, rfl⟩ := List.mem_map.mp hline
  exact h x.1 (List.fst_mem_of_mem_zipIdx hx)

theorem Carts.OneSeller.modifyCart (h : s.OneSeller sellers)
    (hf : ∀ cart, s.carts.live id = some cart → (f cart).OneSeller sellers) :
    (s.modifyCart id f).OneSeller sellers where
  carts i cart hi := by
    rcases Carts.live_modifyCart hi with ⟨rfl, old, hold, rfl⟩ | ⟨_, hold⟩
    · exact hf old hold
    · exact h.carts i cart hold
  orders := h.orders

theorem Carts.OneSeller.deleteCart (h : s.OneSeller sellers) :
    (s.deleteCart id).OneSeller sellers where
  carts i cart hi := h.carts i cart (Carts.live_deleteCart hi)
  orders := h.orders

theorem Carts.OneSeller.clear (h : s.OneSeller sellers) : s.clear.OneSeller sellers := by
  unfold Carts.clear
  split
  · exact h
  · exact h.deleteCart

theorem Carts.OneSeller.createCart (h : s.OneSeller sellers)
    (hsold : AllSold sellers seller items) : (s.createCart seller items).OneSeller sellers where
  carts i cart hi := by
    rcases Carts.live_createCart hi with ⟨_, rfl⟩ | hold
    · exact allSold_number hsold
    · exact h.carts i cart hold
  orders := h.orders

theorem Carts.OneSeller.startOver (h : s.OneSeller sellers) (hsold : AllSold sellers seller items) :
    (s.startOver id seller items).OneSeller sellers :=
  have hmodify : (s.modifyCart id fun cart =>
      { cart.setItems (s.number items) with seller := seller }).OneSeller sellers :=
    h.modifyCart fun _ _ => allSold_number hsold
  ⟨hmodify.carts, hmodify.orders⟩

theorem Carts.OneSeller.createOrder {order : CreatedOrder} (h : s.OneSeller sellers)
    (horder : order.OneSeller sellers) : (s.createOrder order).OneSeller sellers where
  carts := h.carts
  orders i found hi := by
    rcases Collection.get_create_cases hi with ⟨_, rfl⟩ | ⟨_, hold⟩
    · exact horder
    · exact h.orders i found hold

/-- An edit in place leaves what is sold. -/
theorem CartDocument.OneSeller.edit {index : Nat} {qty : Option Nat} {notes : Option String}
    (h : cart.OneSeller sellers) : (cart.edit index qty notes).OneSeller sellers := by
  intro line hline
  rw [CartDocument.edit, List.mem_iff_getElem?] at hline
  obtain ⟨j, hj⟩ := hline
  rw [List.getElem?_modify] at hj
  obtain ⟨old, hold, rfl⟩ := Option.map_eq_some_iff.mp hj
  have hsold := h old (List.mem_of_getElem? hold)
  split <;> exact hsold

/-- **A push to a cart of the item's seller.** -/
theorem CartDocument.OneSeller.push {item : CartItem} (h : cart.OneSeller sellers)
    (hfit : sellers.sells cart.seller item.menuItemId item.productId = true) :
    (cart.push ⟨i, item⟩).OneSeller sellers := by
  intro line hline
  rcases List.mem_append.mp hline with hold | hnew
  · exact h line hold
  · rw [List.mem_singleton.mp hnew]
    exact hfit

/-- **A push to a cart of another seller.** -/
theorem CartDocument.not_oneSeller_push {item : CartItem}
    (hfit : sellers.sells cart.seller item.menuItemId item.productId ≠ true) :
    ¬ (cart.push ⟨i, item⟩).OneSeller sellers :=
  fun h => hfit (h ⟨i, item⟩ (List.mem_append_right _ (List.mem_singleton.mpr rfl)))

theorem Carts.OneSeller.pushItem {item : CartItem} (h : s.OneSeller sellers)
    (hfit : ∀ cart, s.carts.live id = some cart →
      sellers.sells cart.seller item.menuItemId item.productId = true) :
    (s.pushItem id item).OneSeller sellers :=
  have hmodify : (s.modifyCart id fun cart => cart.push ⟨s.nextLine, item⟩).OneSeller sellers :=
    h.modifyCart fun cart hlive => (h.carts id cart hlive).push (hfit cart hlive)
  ⟨hmodify.carts, hmodify.orders⟩

end Writes

/-! ## What a call knows -/

section Knowledge

variable {sellers} {s s' : Carts} {seller : Seller} {items : List CartItem} {r : CartReply}
  {km : Coordinates → Coordinates → ℚ≥0} {c : Catalogue} {userId : UserId} {dto : CreateOrderDto}
  {order : CreatedOrder} {response : Cart}

/-- What is ordered is of the seller if what is in the cart is. -/
theorem oneSeller_of_snapshot {snapshot : CartItem → OrderItem} (hseller : order.seller = seller)
    (hitems : order.items = items.map snapshot) (hsold : AllSold sellers seller items)
    (hsame : ∀ item, sellers.sells seller item.menuItemId item.productId = true →
      sellers.sells seller (snapshot item).menuItemId (snapshot item).productId = true) :
    order.OneSeller sellers := by
  intro line hline
  rw [hitems] at hline
  obtain ⟨item, hitem, rfl⟩ := List.mem_map.mp hline
  rw [hseller]
  exact hsame item (hsold item hitem)

/-- **A restaurant order is a snapshot of its cart.** -/
theorem oneSeller_of_createRestaurantOrder
    (h : c.createRestaurantOrder km userId dto response = .ok order)
    (hsold : ∀ id, response.restaurantId = some id →
      AllSold sellers (.restaurant id) response.items) : order.OneSeller sellers := by
  obtain ⟨restaurantId, hid, _, _, hseller, hitems, _⟩ := createRestaurantOrder_eq_ok h
  refine oneSeller_of_snapshot hseller hitems (hsold restaurantId hid) fun item hold => ?_
  simp only [ItemSellers.sells, Bool.and_eq_true, decide_eq_true_eq] at hold ⊢
  exact ⟨hold.1, rfl⟩

/-- **A store order is a snapshot of its cart.** -/
theorem oneSeller_of_createStoreOrder
    (h : c.createStoreOrder km userId dto response = .ok order)
    (hsold : ∀ id, response.storeId = some id → AllSold sellers (.store id) response.items) :
    order.OneSeller sellers := by
  obtain ⟨storeId, hid, _, _, hseller, hitems, _⟩ := createStoreOrder_eq_ok h
  refine oneSeller_of_snapshot hseller hitems (hsold storeId hid) fun item hold => ?_
  simp only [ItemSellers.sells, Bool.and_eq_true, decide_eq_true_eq] at hold ⊢
  exact ⟨hold.1, rfl⟩

theorem allSold_toResponse {cart : CartDocument} (h : cart.OneSeller sellers) :
    AllSold sellers cart.seller cart.toResponse.items := by
  intro item hitem
  obtain ⟨line, hline, rfl⟩ := List.mem_map.mp hitem
  exact h line hline

theorem toResponse_restaurantId {cart : CartDocument} {id : VendorId}
    (h : cart.toResponse.restaurantId = some id) : cart.seller = .restaurant id := by
  obtain ⟨seller, lines, version⟩ := cart
  cases seller with
  | restaurant v => cases h; rfl
  | store v => cases h

theorem toResponse_storeId {cart : CartDocument} {id : VendorId}
    (h : cart.toResponse.storeId = some id) : cart.seller = .store id := by
  obtain ⟨seller, lines, version⟩ := cart
  cases seller with
  | restaurant v => cases h
  | store v => cases h; rfl

/-- **A line that is carried over is of the seller of its order.** -/
theorem sells_reorderItem {line : OrderItem} {item : CartItem}
    (hline : sellers.sells seller line.menuItemId line.productId = true)
    (h : reorderItem r seller line = some item) :
    sellers.sells seller item.menuItemId item.productId = true := by
  cases seller with
  | restaurant restaurantId =>
    simp only [ItemSellers.sells, Bool.and_eq_true, decide_eq_true_eq] at hline ⊢
    obtain ⟨menuItemId, hid, hrest⟩ := Option.bind_eq_some_iff.mp h
    obtain ⟨menuItem, _, hmap⟩ := Option.bind_eq_some_iff.mp hrest
    obtain ⟨modifiers, _, rfl⟩ := Option.map_eq_some_iff.mp hmap
    rw [hid] at hline
    exact ⟨hline.1, rfl⟩
  | store storeId =>
    simp only [ItemSellers.sells, Bool.and_eq_true, decide_eq_true_eq] at hline ⊢
    obtain ⟨productId, hid, hrest⟩ := Option.bind_eq_some_iff.mp h
    obtain ⟨product, _, rfl⟩ := Option.map_eq_some_iff.mp hrest
    rw [hid] at hline
    exact ⟨hline.1, rfl⟩

/-- What is left of a cart without one item is of its seller, as long as its version lasts. -/
theorem knowsCart_removes (h : s.OneSeller sellers) {id cartItemId : Nat} {cart : CartDocument}
    (hlive : s.carts.live id = some cart) :
    KnowsCart sellers s (.saveItems id cart.version
      (cart.items.filter fun line => line.id ≠ cartItemId)) := by
  refine ⟨Collection.lt_nextId_of_live hlive, fun cart' hlive' => ?_⟩
  rw [hlive, Option.some.injEq] at hlive'
  subst hlive'
  refine ⟨Nat.le_refl _, fun _ item hitem => ?_⟩
  obtain ⟨line, hline, rfl⟩ := List.mem_map.mp hitem
  exact h.carts id cart hlive line (List.mem_of_mem_filter hline)

/-- Only `saveItems` depends on the stored carts. -/
theorem KnowsCart.follows {pc : CartPc} (h : KnowsCart sellers s pc) (hs : s.Follows s') :
    KnowsCart sellers s' pc := by
  cases pc with
  | saveItems id version lines =>
    obtain ⟨hid, hcarts⟩ := h
    refine ⟨Nat.lt_of_lt_of_le hid hs.nextId, fun cart' hlive' => ?_⟩
    obtain ⟨cart, hlive, hle, hseller⟩ := hs.carts id cart' hid hlive'
    obtain ⟨hversion, hsold⟩ := hcarts cart hlive
    refine ⟨Nat.le_trans hversion hle, fun he => ?_⟩
    have hsame : cart.version = version := by omega
    rw [hseller (he.trans hsame.symm)]
    exact hsold hsame
  | _ => exact h

end Knowledge

/-! ## One database call -/

section Steps

variable {sellers} {s s' : Carts} {pc pc' : CartPc} {r : CartReply} {userId : UserId}
  {km : Coordinates → Coordinates → ℚ≥0}

/-- **One database call**, a push to another seller's cart apart, keeps the sellers. -/
theorem cart_step (h : s.OneSeller sellers) (hknows : KnowsCart sellers s pc)
    (hfit : ∀ id item, pc = .savePush id item → ∀ cart, s.carts.live id = some cart →
      sellers.sells cart.seller item.menuItemId item.productId = true)
    (hstep : cartStep sellers km userId s pc r = some (s', pc')) :
    s'.OneSeller sellers ∧ KnowsCart sellers s' pc' ∧ s.Follows s' := by
  have idle : ∀ {pc'}, KnowsCart sellers s pc' →
      s.OneSeller sellers ∧ KnowsCart sellers s pc' ∧ s.Follows s := fun hk => ⟨h, hk, .refl s⟩
  cases cart_move hstep with
  | rejected => exact idle trivial
  | unchanged => exact idle trivial
  | dish => exact idle trivial
  | product => exact idle trivial
  | adds =>
    refine idle fun item hitem => ?_
    rw [List.mem_singleton.mp hitem]
    simp [ItemSellers.sells, MenuItem.toCartItem]
  | addsProduct =>
    refine idle fun item hitem => ?_
    rw [List.mem_singleton.mp hitem]
    simp [ItemSellers.sells, Product.toCartItem]
  | starts => exact idle hknows
  | startsOver => exact idle hknows
  | pushes => exact idle trivial
  | edits => exact idle trivial
  | order hget _ => exact idle (h.orders _ _ hget)
  | cart => exact idle hknows
  | reorders => exact idle ⟨hknows, by simp [AllSold]⟩
  | skips =>
    obtain ⟨hlines, hitems⟩ := hknows
    exact idle ⟨fun l hl => hlines l (List.mem_cons_of_mem _ hl), hitems⟩
  | carries hitem =>
    obtain ⟨hlines, hitems⟩ := hknows
    refine idle ⟨fun l hl => hlines l (List.mem_cons_of_mem _ hl), fun x hx => ?_⟩
    rcases List.mem_append.mp hx with hold | hnew
    · exact hitems x hold
    · rw [List.mem_singleton.mp hnew]
      exact sells_reorderItem (hlines _ List.mem_cons_self) hitem
  | restarts => exact idle hknows.2
  | replaces => exact idle hknows.2
  | removes hlive => exact idle (knowsCart_removes h hlive)
  | empties => exact idle trivial
  | created => exact ⟨h.createCart hknows, trivial, Carts.follows_createCart⟩
  | @pushed id item =>
    have hfollows : s.Follows (s.modifyCart id fun cart => cart.push ⟨s.nextLine, item⟩) :=
      Carts.follows_later fun _ => rfl
    exact ⟨h.pushItem (hfit id item rfl), trivial, hfollows.nextId, hfollows.carts⟩
  | @startedOver id _ seller items _ =>
    have hfollows : s.Follows (s.modifyCart id fun cart =>
        { cart.setItems (s.number items) with seller := seller }) :=
      Carts.follows_later fun _ => rfl
    exact ⟨h.startOver hknows, trivial, hfollows.nextId, hfollows.carts⟩
  | @saved id cart lines hlive =>
    refine ⟨h.modifyCart fun found hfound => ?_, trivial, Carts.follows_later fun _ => rfl⟩
    rw [hlive, Option.some.injEq] at hfound
    subst hfound
    intro line hline
    exact (hknows.2 cart hlive).2 rfl line.item (List.mem_map_of_mem hline)
  | edited =>
    exact ⟨h.modifyCart fun found hfound => (h.carts _ found hfound).edit, trivial,
      Carts.follows_edit⟩
  | deleted => exact ⟨h.deleteCart, trivial, Carts.follows_deleteCart⟩
  | cleared => exact ⟨h.clear, trivial, Carts.follows_clear⟩
  | ordersOfRestaurant => exact idle trivial
  | ordersOfStore hlive =>
    refine idle fun v hv => ?_
    rw [← toResponse_storeId hv]
    exact allSold_toResponse (h.carts _ _ hlive)
  | ordersCart hlive =>
    refine idle fun v hv => ?_
    rw [← toResponse_restaurantId hv]
    exact allSold_toResponse (h.carts _ _ hlive)
  | orderedFromRestaurant horder =>
    exact ⟨h.createOrder (oneSeller_of_createRestaurantOrder horder hknows), trivial,
      (Carts.Follows.refl s).nextId, (Carts.Follows.refl s).carts⟩
  | orderedFromStore horder =>
    exact ⟨h.createOrder (oneSeller_of_createStoreOrder horder hknows), trivial,
      (Carts.Follows.refl s).nextId, (Carts.Follows.refl s).carts⟩

end Steps

/-! ## Every run -/

section Runs

variable {sellers}

def cartSellers (sellers : ItemSellers) : Outline Carts CartPc where
  shared := Carts.OneSeller sellers
  proc := KnowsCart sellers
  compat _ _ := True
  symm _ _ _ := trivial

theorem fits_of_pushFits {s : CartPool} {i : Nat} {r : CartReply} {pc : CartPc}
    (h : PushFits sellers s (.run i r) = true) (hp : s.procs[i]? = some pc) (id : Nat)
    (item : CartItem) (hpc : pc = .savePush id item) (cart : CartDocument)
    (hlive : s.shared.carts.live id = some cart) :
    sellers.sells cart.seller item.menuItemId item.productId = true := by
  subst hpc
  simpa only [PushFits, hp, hlive, Option.all_some] using h

/-- **Pushes that fit keep the outline.** -/
theorem cartSellers_kept (sellers : ItemSellers) (km : Coordinates → Coordinates → ℚ≥0)
    (userId : UserId) : (cartSellers sellers).Kept (carts sellers km userId)
      (fun s e => PushFits sellers s e = true) fun _ => True where
  spawn s k _ _ _ := ⟨by cases k <;> trivial, fun _ _ => trivial⟩
  env _ e := e.elim
  run s i r pc w pc' _ hok h hp hstep := by
    obtain ⟨hone, hknows, hfollows⟩ :=
      cart_step h.shared (h.at hp) (fits_of_pushFits hok hp) hstep
    exact ⟨hone, hknows, fun j q _ _ hq _ => ⟨KnowsCart.follows hq hfollows, trivial⟩⟩

/-- **A push that does not fit** leaves a cart of two sellers. -/
theorem broken_of_push {km : Coordinates → Coordinates → ℚ≥0} {userId : UserId} {s s' : CartPool}
    {e : CartEvent} (hfit : ¬ PushFits sellers s e = true)
    (hs : (carts sellers km userId).next s e = some s') : ¬ s'.shared.OneSeller sellers := by
  intro hone
  cases e with
  | spawn k => exact hfit rfl
  | env e => exact e.elim
  | run i r =>
    obtain ⟨pc, w, pc', hp, hstep, rfl⟩ := Machine.next_run hs
    have hstep : cartStep sellers km userId s.shared pc r = some (w, pc') := hstep
    simp only [PushFits, hp] at hfit
    cases pc with
    | savePush id item =>
      cases hlive : s.shared.carts.live id with
      | none =>
        simp [hlive] at hfit
      | some cart =>
        simp only [hlive, Option.all_some] at hfit
        simp only [cartStep, hlive, Option.isSome_some, if_true] at hstep
        cases hstep
        have hpushed : (s.shared.pushItem id item).carts.live id =
            some (cart.push ⟨s.shared.nextLine, item⟩) := by
          rw [Carts.pushItem, Carts.modifyCart, Collection.live_modify, if_pos rfl, hlive]
          rfl
        exact CartDocument.not_oneSeller_push hfit (hone.carts id _ hpushed)
    | _ => exact hfit rfl

/-- **Every stored cart and every order of a run is of one seller exactly when every push of the
run lands in a cart of its own seller**: for any customer whose carts and orders are, and any number
of calls in any order of their steps. -/
theorem one_seller_iff (sellers : ItemSellers) (km : Coordinates → Coordinates → ℚ≥0)
    (userId : UserId) {w : Carts} (hw : w.OneSeller sellers) {es : List CartEvent} {s : CartPool}
    (h : (carts sellers km userId).exec ⟨w, []⟩ es = some s) :
    (∀ p t, p <+: es → (carts sellers km userId).exec ⟨w, []⟩ p = some t →
        t.shared.OneSeller sellers) ↔
      ∀ p e t, p ++ [e] <+: es → (carts sellers km userId).exec ⟨w, []⟩ p = some t →
        PushFits sellers t e = true :=
  Machine.exec_good_iff (I := (cartSellers sellers).Holds)
    (G := fun t => t.shared.OneSeller sellers) (C := fun t e => PushFits sellers t e = true)
    (fun _ hi => hi.shared)
    (fun _ _ _ hi hc hs => (cartSellers_kept sellers km userId).next trivial hi hc hs)
    (fun _ _ _ _ hn hs => broken_of_push hn hs) es ⟨w, []⟩ s (Outline.holds_nil hw) h

end Runs

/-! ## Concrete runs -/

/-- Dishes with even ids are of restaurant 0, the others of restaurant 1. -/
def twoRestaurants : ItemSellers := ⟨fun id => id % 2, fun id => id⟩

/-- Every dish can be had, and every restaurant is open. -/
def dishesServed : CartReply where
  menuItems := fun _ => some ⟨"Jollof", 45, none, none, true, []⟩
  products := fun _ => none
  catalogue := lunchCatalogue .empty

/-- The calls take their next steps in this order. -/
def cartTurns (calls : List Nat) : List CartEvent := calls.map fun i => .run i dishesServed

def addDish (menuItemId : ItemId) (replace : Bool) : CartEvent :=
  .spawn (.addItem ⟨menuItemId, none, [], none, replace⟩)

def orderCartEvent : CartEvent := .spawn (.createOrder ⟨none, none, none, none⟩)

/-- Two dishes of one restaurant, one after the other, and the order. -/
def orderedRun : List CartEvent :=
  [addDish 0 false, addDish 2 false] ++ cartTurns [0, 0, 0, 0, 1, 1, 1, 1] ++
    orderCartEvent :: cartTurns [2, 2, 2, 2]

theorem carts_empty_oneSeller (sellers : ItemSellers) : Carts.empty.OneSeller sellers where
  carts id cart h := by cases Collection.live_empty.symm.trans h
  orders id order h := by cases Collection.get_empty.symm.trans h

theorem one_seller_iff_ordered : ∃ s : CartPool,
    (s.shared.orders.get 0).any (fun order => order.items.length = 2) = true ∧
      s.shared.OneSeller twoRestaurants := by
  have hplay : ((carts twoRestaurants (fun _ _ => 0) 3).play (PushFits twoRestaurants)
      ⟨.empty, []⟩ orderedRun).any (fun s =>
        (s.shared.orders.get 0).any fun order => order.items.length = 2) = true := by
    decide +kernel
  obtain ⟨s, hs, hall, hp⟩ := Machine.exists_exec_of_play orderedRun hplay
  exact ⟨s, hp, (one_seller_iff twoRestaurants _ 3 (carts_empty_oneSeller _) hs).mpr hall
    orderedRun s (List.prefix_refl _) hs⟩

/-- A dish is added to the cart of its restaurant while another call starts the cart over. -/
def pushedLate : List CartEvent :=
  addDish 0 false :: cartTurns [0, 0, 0, 0] ++ [addDish 2 false, addDish 1 true] ++
    cartTurns [1, 1, 1, 2, 2, 2, 2, 1] ++ orderCartEvent :: cartTurns [3, 3, 3, 3]

/-- **An order of restaurant 1 with a dish of restaurant 0.** -/
theorem ordered_from_two : ∃ s : CartPool,
    (carts twoRestaurants (fun _ _ => 0) 3).exec ⟨.empty, []⟩ pushedLate = some s ∧
      (s.shared.orders.get 0).any (fun order => order.seller = .restaurant 1 &&
        order.items.map (·.menuItemId) = [some 1, some 2]) = true ∧
        ¬ s.shared.OneSeller twoRestaurants := by
  have hplay : ((carts twoRestaurants (fun _ _ => 0) 3).play (fun _ _ => true) ⟨.empty, []⟩
      pushedLate).any (fun s => (s.shared.orders.get 0).any fun order =>
        order.seller = .restaurant 1 && order.items.map (·.menuItemId) = [some 1, some 2]) =
          true := by
    decide +kernel
  obtain ⟨s, hs, _, hp⟩ := Machine.exists_exec_of_play pushedLate hplay
  refine ⟨s, hs, hp, fun hone => ?_⟩
  obtain ⟨order, horder, hmixed⟩ := (Option.any_eq_true _ _).mp hp
  rw [Bool.and_eq_true, decide_eq_true_eq, decide_eq_true_eq] at hmixed
  have hmem : some 2 ∈ order.items.map (·.menuItemId) := by
    rw [hmixed.2]
    exact List.mem_cons_of_mem _ (List.mem_singleton.mpr rfl)
  obtain ⟨item, hitem, hid⟩ := List.mem_map.mp hmem
  have hsells := hone.orders 0 order horder item hitem
  rw [hmixed.1, hid] at hsells
  simp [ItemSellers.sells, twoRestaurants] at hsells

end FoodDelivery
