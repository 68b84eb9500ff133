import FoodDelivery.Orders.Pricing

/-!
# The pricing law

What holds between the amounts of any order that `createRestaurantOrder` or `createStoreOrder`
creates.  `round2` adds `Number.EPSILON` before it rounds: `nearestCent` is the rounding without it.

* `nearestCent_near`, `round2_near`: how far either rounding goes.
* `priced_of_creates`: both methods price an order by `priceOrder`.
* `pricing_law`: the bounds, the split and the clamps, and the agreement of the two methods.
-/

namespace FoodDelivery

/-- To the nearest cent, halves up. -/
def nearestCent (value : ℚ) : ℚ := mathRound (value * 100) / 100

theorem nearestCent_near (x : ℚ) : |nearestCent x - x| ≤ 1 / 200 := by
  have hle : (mathRound (x * 100) : ℚ) ≤ x * 100 + 1 / 2 := Int.floor_le _
  have hlt : x * 100 + 1 / 2 < (mathRound (x * 100) : ℚ) + 1 := Int.lt_floor_add_one _
  rw [nearestCent, abs_le]
  constructor <;> linarith

/-- The rounding of the code goes no further than half a cent and `Number.EPSILON`. -/
theorem round2_near (x : ℚ) : |round2 x - x| ≤ 1 / 200 + EPSILON := by
  have hnear := abs_le.mp (nearestCent_near (x + EPSILON))
  have hround : round2 x = nearestCent (x + EPSILON) := rfl
  have heps : 0 ≤ EPSILON := by norm_num [EPSILON]
  rw [hround, abs_le]
  constructor <;> linarith [hnear.1, hnear.2]

section Law

variable {km : Coordinates → Coordinates → ℚ≥0} {c : Catalogue} {userId : UserId}
  {dto : CreateOrderDto} {cart : Cart} {order : CreatedOrder} {subtotal deliveryFee discount : ℚ}
  {currency : String}

/-- Either method creates this order from the cart. -/
def Catalogue.Creates (c : Catalogue) (km : Coordinates → Coordinates → ℚ≥0) (userId : UserId)
    (dto : CreateOrderDto) (cart : Cart) (order : CreatedOrder) : Prop :=
  c.createRestaurantOrder km userId dto cart = .ok order ∨
    c.createStoreOrder km userId dto cart = .ok order

/-- **What holds between the amounts of an order.** -/
structure OrderAmounts.Lawful (a : OrderAmounts) : Prop where
  total : a.total =
    max 0 (round2 (a.subtotal + a.deliveryFee + a.serviceFee + a.tax - a.discount))
  total_nonneg : 0 ≤ a.total
  tax_nonneg : 0 ≤ a.tax
  discount_nonneg : 0 ≤ a.discount
  /-- Where `round2` is the nearest-cent rounding of the subtotal. -/
  within_half_cent : round2 a.subtotal = nearestCent a.subtotal →
    a.discount ≤ a.subtotal + 1 / 200 ∧
      |a.platformFeeAmount + a.restaurantPayoutAmount - a.subtotal| ≤ 1 / 200
  within_epsilon : a.discount ≤ a.subtotal + 1 / 200 + EPSILON ∧
    |a.platformFeeAmount + a.restaurantPayoutAmount - a.subtotal| ≤ 1 / 200 + EPSILON
  /-- On whole cents nothing is lost, and neither clamp changes anything. -/
  exact_on_cents : IsCents a.subtotal → IsCents a.deliveryFee → IsCents a.serviceFee →
    a.discount ≤ a.subtotal ∧ a.platformFeeAmount + a.restaurantPayoutAmount = a.subtotal ∧
      0 ≤ a.subtotal + a.deliveryFee + a.serviceFee - a.discount ∧
        0 ≤ round2 (a.subtotal + a.deliveryFee + a.serviceFee + a.tax - a.discount)

theorem lawful_priceOrder (hsub : 0 ≤ subtotal) (hfee : 0 ≤ deliveryFee) (hdiscount : 0 ≤ discount)
    (hle : discount ≤ round2 subtotal) :
    (priceOrder subtotal deliveryFee discount currency).Lawful := by
  have hservice : 0 ≤ (priceOrder subtotal deliveryFee discount currency).serviceFee :=
    serviceFee_nonneg hsub
  have htax : 0 ≤ (priceOrder subtotal deliveryFee discount currency).tax :=
    TaxResolver.calculate_nonneg _ _
  have hsplit : (priceOrder subtotal deliveryFee discount currency).platformFeeAmount +
      (priceOrder subtotal deliveryFee discount currency).restaurantPayoutAmount =
        round2 subtotal := (add_comm _ _).trans payout_add_commission
  refine ⟨rfl, le_max_left _ _, htax, hdiscount, fun hnearest => ?_, ?_, fun hcents _ _ => ?_⟩
  · have hround : round2 subtotal = nearestCent subtotal := hnearest
    have hnear := nearestCent_near subtotal
    rw [← hround] at hnear
    have hfar : discount ≤ subtotal + 1 / 200 := by linarith [(abs_le.mp hnear).2]
    rw [hsplit]
    exact ⟨hfar, hnear⟩
  · have hnear := round2_near subtotal
    have hfar : discount ≤ subtotal + 1 / 200 + EPSILON := by linarith [(abs_le.mp hnear).2]
    rw [hsplit]
    exact ⟨hfar, hnear⟩
  · have hround : round2 subtotal = subtotal := round2_of_isCents hcents
    rw [hround] at hsplit hle
    have htaxed : 0 ≤ subtotal + deliveryFee +
        (priceOrder subtotal deliveryFee discount currency).serviceFee - discount := by linarith
    have hcharged : 0 ≤ subtotal + deliveryFee +
        (priceOrder subtotal deliveryFee discount currency).serviceFee +
          (priceOrder subtotal deliveryFee discount currency).tax - discount := by linarith
    exact ⟨hle, hsplit, htaxed, round2_nonneg hcharged⟩

theorem discountOf_nonneg {promoCode : Option String} {seller : Seller}
    {redeemed : Option PromoCodeId} (hsub : 0 ≤ subtotal)
    (h : c.discountOf promoCode seller subtotal = .ok (discount, redeemed)) : 0 ≤ discount := by
  rcases discountOf_cases h with rfl | ⟨promo, rfl⟩
  · exact le_rfl
  · exact round2_nonneg (promo.discountAmount_bounds hsub).1

/-- **Both methods price an order by `priceOrder`**, with a fee and a discount within bounds. -/
theorem priced_of_creates (h : c.Creates km userId dto cart order) : ∃ deliveryFee discount : ℚ,
    order.amounts = priceOrder cart.subtotal deliveryFee discount order.currency ∧
      0 ≤ deliveryFee ∧ 0 ≤ discount ∧ discount ≤ round2 cart.subtotal := by
  obtain ⟨seller, shop, items, hplaced⟩ :=
    h.elim placed_of_createRestaurantOrder placed_of_createStoreOrder
  obtain ⟨_, _, discount, redeemed, hdiscount, hamounts⟩ := placeOrder_eq_ok hplaced
  have hsub : (0 : ℚ) ≤ cart.subtotal := cart.subtotal.2
  exact ⟨_, discount, hamounts, (calculateFee_bounds _ _ _ _ hsub).1,
    discountOf_nonneg hsub hdiscount, (discountOf_bounds hsub hdiscount).2⟩

/-- **The pricing law**: for any catalogue, cart, delivery zones and promo codes, and either
method. -/
theorem pricing_law (h : c.Creates km userId dto cart order) :
    order.amounts.subtotal = cart.subtotal ∧ order.amounts.Lawful ∧
      ∀ {km' c' userId' dto' cart' order'}, Catalogue.Creates c' km' userId' dto' cart' order' →
        order'.amounts.subtotal = order.amounts.subtotal →
        order'.amounts.deliveryFee = order.amounts.deliveryFee →
        order'.amounts.discount = order.amounts.discount →
        order'.currency = order.currency → order'.amounts = order.amounts := by
  obtain ⟨deliveryFee, discount, hamounts, hfee, hdiscount, hle⟩ := priced_of_creates h
  refine ⟨by rw [hamounts]; rfl, ?_, ?_⟩
  · rw [hamounts]
    exact lawful_priceOrder cart.subtotal.2 hfee hdiscount hle
  · intro km' c' userId' dto' cart' order' h' hsub' hfee' hdiscount' hcurrency'
    obtain ⟨deliveryFee', discount', hamounts', _⟩ := priced_of_creates h'
    rw [hamounts] at hsub' hfee' hdiscount'
    rw [hamounts'] at hsub' hfee' hdiscount'
    have hsub : (cart'.subtotal : ℚ) = cart.subtotal := hsub'
    have hfee : deliveryFee' = deliveryFee := hfee'
    have hdiscount : discount' = discount := hdiscount'
    rw [hamounts, hamounts', hsub, hfee, hdiscount, hcurrency']

/-- Lunch with a code, brought into a zone. -/
theorem pricing_law_of_lunch : ∃ order, zonedLunch = .ok order ∧
    order.amounts.deliveryFee = 450 ∧ order.amounts.discount = 1000 ∧ order.amounts.Lawful := by
  obtain ⟨order, horder, hfee, hdiscount⟩ := exists_zonedLunch
  have hcreates : zonedCatalogue.Creates (fun _ _ => (3 : ℕ)) 3
      ⟨some ⟨6, 4⟩, some " Ring twice ", none, some "FREE"⟩ lunchCart order := Or.inl horder
  exact ⟨order, horder, hfee, hdiscount, (pricing_law hcreates).2.1⟩

end Law

end FoodDelivery
