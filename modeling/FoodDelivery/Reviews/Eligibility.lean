import FoodDelivery.Lib.Collection
import FoodDelivery.Lib.Sequence
import FoodDelivery.Reviews.Ratings

/-!
# Who may review what

`getEligibility` and `create` of `ReviewsService`, one call at a time.  An order is looked up by
what its id is cast to, hexadecimal digits with letters of either case; a review keeps the text of
the id as it was given, and is looked up by that text.

* `createReview_eq`: what `create` comes to.
* `eligible_iff_created`: an order is eligible for a review exactly if `create` accepts one next.
* `one_each_iff`: the targets of an order are reviewed once each, along any calls, exactly when a
  review spells the id as the stored review of that order and type does.
* `reviewed_twice`: one order under two spellings.
-/

namespace FoodDelivery

open Store Sequence

namespace ReviewsService

/-- An order with its `customerId`. -/
structure CustomerOrder where
  customerId : UserId
  order : Order

/-- The orders, and which id a text is cast to. -/
structure OrderLookup where
  idOf : String → Option OrderId
  orders : Collection CustomerOrder

/-- `OrdersService.findOne`. -/
def OrderLookup.findOne (l : OrderLookup) (userId : UserId) (orderId : String) :
    Except HttpError Order :=
  match (l.idOf orderId).bind l.orders.get with
  | none => .error (.notFound "Order not found")
  | some found =>
    if found.customerId ≠ userId then
      .error (.forbidden "You do not have access to this order")
    else .ok found.order

/-- What `getEligibility` returns. -/
structure Eligibility where
  restaurant : Bool
  store : Bool
  rider : Bool
  deriving DecidableEq

def Eligibility.of (e : Eligibility) : ReviewTargetType → Bool
  | .restaurant => e.restaurant
  | .store => e.store
  | .rider => e.rider

section Calls

variable (l : OrderLookup) (s : Ratings)

def getEligibility (requester : UserId) (orderId : String) : Except HttpError Eligibility :=
  match l.findOne requester orderId with
  | .error e => .error e
  | .ok order =>
    if order.status ≠ .delivered then .ok ⟨false, false, false⟩
    else
      let isRestaurant := match order.seller with
        | .restaurant _ => true
        | .store _ => false
      .ok {
        restaurant := isRestaurant && !s.reviewed orderId .restaurant
        store := !isRestaurant && !s.reviewed orderId .store
        rider := order.riderId.isSome && !s.reviewed orderId .rider }

/-- The next database calls of one call, with nothing in between. -/
def reviewAlone (s : Ratings) (pc : ReviewPc) (r : ReviewReply) : Nat → Ratings × ReviewPc
  | 0 => (s, pc)
  | n + 1 =>
    match reviewStep s pc r with
    | none => (s, pc)
    | some (s', pc') => reviewAlone s' pc' r n

/-- `create`: the order, an earlier review, the insertion, and the two calls for the rating. -/
def createReview (requester : UserId) (dto : CreateReviewDto) : Ratings × ReviewPc :=
  reviewAlone s (.findOrder requester dto) ⟨l.findOne requester dto.orderId⟩ 5

/-- What the caller may review of the order: a delivered order of their own has this target. -/
def OrderLookup.targetOf (requester : UserId) (dto : CreateReviewDto) : Option Nat :=
  match l.findOne requester dto.orderId with
  | .error _ => none
  | .ok order =>
    if order.status ≠ .delivered then none else (reviewTargetId order dto.targetType).toOption

/-- The caller's order is reported eligible exactly if `create` succeeds next. -/
def EligibilityExact : Prop :=
  ∀ (requester : UserId) (dto : CreateReviewDto) (order : Order),
    l.findOne requester dto.orderId = .ok order →
      ∃ e, getEligibility l s requester dto.orderId = .ok e ∧
        (e.of dto.targetType = true ↔ (createReview l s requester dto).2 = .returned)

/-- At most one review for each order and type, of a target of the order. -/
structure OneEach : Prop where
  once : s.reviews.Pairwise fun a b =>
    ¬ (l.idOf a.orderId = l.idOf b.orderId ∧ a.targetType = b.targetType)
  own : ∀ review ∈ s.reviews, ∃ found, (l.idOf review.orderId).bind l.orders.get = some found ∧
    reviewTargetId found.order review.targetType = .ok review.targetId

/-- One review after the other. -/
def reviewCall (call : UserId × CreateReviewDto) : Ratings := (createReview l s call.1 call.2).1

/-- A review that may be given spells the id as the stored review of that order and type does. -/
def SameSpelling (call : UserId × CreateReviewDto) : Prop :=
  (l.targetOf call.1 call.2).isSome = true → ∀ review ∈ s.reviews,
    l.idOf review.orderId = l.idOf call.2.orderId → review.targetType = call.2.targetType →
      review.orderId = call.2.orderId

end Calls

/-! ## One call -/

section Call

variable {l : OrderLookup} {s : Ratings} {requester : UserId} {dto : CreateReviewDto}
  {targetId : Nat} {orderId : String} {targetType : ReviewTargetType}

theorem targetOf_eq_some : l.targetOf requester dto = some targetId ↔
    ∃ order, l.findOne requester dto.orderId = .ok order ∧ order.status = .delivered ∧
      reviewTargetId order dto.targetType = .ok targetId := by
  unfold OrderLookup.targetOf
  cases l.findOne requester dto.orderId with
  | error e => simp
  | ok order =>
    by_cases h : order.status = .delivered
    · simp only [h, ne_eq, not_true_eq_false, if_false, Except.ok.injEq, exists_eq_left', true_and]
      cases reviewTargetId order dto.targetType with
      | error e => simp [Except.toOption]
      | ok id => simp [Except.toOption]
    · simp [h]

/-- With a target, `create` goes on to look for an earlier review. -/
theorem afterFindOrder_eq (h : l.targetOf requester dto = some targetId) :
    afterFindOrder requester dto (l.findOne requester dto.orderId) =
      .findExisting requester dto targetId := by
  obtain ⟨order, hfind, hstatus, htarget⟩ := targetOf_eq_some.mp h
  simp only [hfind, afterFindOrder, hstatus, htarget, ne_eq, not_true_eq_false, if_false]

theorem afterFindOrder_rejected (h : l.targetOf requester dto = none) :
    ∃ e, afterFindOrder requester dto (l.findOne requester dto.orderId) = .rejected (.http e) := by
  unfold OrderLookup.targetOf at h
  cases hfind : l.findOne requester dto.orderId with
  | error e => exact ⟨e, rfl⟩
  | ok order =>
    rw [hfind] at h
    rw [afterFindOrder]
    by_cases hstatus : order.status = .delivered
    · simp only [hstatus, ne_eq, not_true_eq_false, if_false] at h ⊢
      cases htarget : reviewTargetId order dto.targetType with
      | error e => exact ⟨e, rfl⟩
      | ok id => rw [htarget] at h; cases h
    · rw [if_pos hstatus]
      exact ⟨_, rfl⟩

/-- **What `create` comes to.** -/
theorem createReview_eq (h : l.targetOf requester dto = some targetId)
    (hnew : s.reviewed dto.orderId dto.targetType = false) :
    (createReview l s requester dto).2 = .returned ∧
      (createReview l s requester dto).1.reviews =
        s.reviews ++ [dto.review requester targetId] := by
  have hnew' : s.reviewed (dto.review requester targetId).orderId
      (dto.review requester targetId).targetType = false := hnew
  simp only [createReview, reviewAlone, reviewStep, afterFindOrder_eq h, hnew, hnew',
    Bool.false_eq_true, if_false]
  exact ⟨trivial, rfl⟩

/-- A review that is turned down. -/
theorem createReview_rejected (h : l.targetOf requester dto = none ∨
    s.reviewed dto.orderId dto.targetType = true) :
    (createReview l s requester dto).1 = s ∧ (createReview l s requester dto).2 ≠ .returned := by
  cases htarget : l.targetOf requester dto with
  | none =>
    obtain ⟨e, he⟩ := afterFindOrder_rejected htarget
    simp only [createReview, reviewAlone, reviewStep, he]
    exact ⟨trivial, by simp⟩
  | some targetId =>
    have hold : s.reviewed dto.orderId dto.targetType = true := by
      rcases h with hnone | hold
      · cases htarget.symm.trans hnone
      · exact hold
    simp only [createReview, reviewAlone, reviewStep, afterFindOrder_eq htarget, hold, if_true]
    exact ⟨trivial, by simp⟩

theorem created_iff : (createReview l s requester dto).2 = .returned ↔
    (l.targetOf requester dto).isSome = true ∧ s.reviewed dto.orderId dto.targetType = false := by
  cases htarget : l.targetOf requester dto with
  | none => exact iff_of_false (createReview_rejected (Or.inl htarget)).2 (by simp)
  | some targetId =>
    cases hreviewed : s.reviewed dto.orderId dto.targetType with
    | true => exact iff_of_false (createReview_rejected (Or.inr hreviewed)).2 (by simp)
    | false => exact iff_of_true (createReview_eq htarget hreviewed).1 ⟨rfl, rfl⟩

/-- **An order of the caller is eligible for a review exactly if `create` accepts one next**: for
any stored reviews. -/
theorem eligible_iff_created (l : OrderLookup) (s : Ratings) : EligibilityExact l s := by
  intro requester dto order hfind
  rw [created_iff, getEligibility, OrderLookup.targetOf, hfind]
  by_cases hstatus : order.status = .delivered
  · simp only [hstatus, ne_eq, not_true_eq_false, if_false]
    refine ⟨_, rfl, ?_⟩
    cases htype : dto.targetType with
    | restaurant =>
      cases hseller : order.seller <;>
        simp [Eligibility.of, reviewTargetId, hseller, Except.toOption]
    | store =>
      cases hseller : order.seller <;>
        simp [Eligibility.of, reviewTargetId, hseller, Except.toOption]
    | rider =>
      cases hrider : order.riderId <;>
        simp [Eligibility.of, reviewTargetId, hrider, Except.toOption]
  · simp only [hstatus, ne_eq, not_false_eq_true, if_true]
    refine ⟨_, rfl, ?_⟩
    cases dto.targetType <;> simp [Eligibility.of]

/-! ### Reviews for one order -/

theorem reviewed_eq_true : s.reviewed orderId targetType = true ↔
    ∃ review ∈ s.reviews, review.orderId = orderId ∧ review.targetType = targetType := by
  simp [Ratings.reviewed]

/-- A review of the caller's order is of a target of that order. -/
theorem own_of_targetOf (h : l.targetOf requester dto = some targetId) :
    ∃ found, (l.idOf dto.orderId).bind l.orders.get = some found ∧
      reviewTargetId found.order dto.targetType = .ok targetId := by
  obtain ⟨order, hfind, _, htarget⟩ := targetOf_eq_some.mp h
  unfold OrderLookup.findOne at hfind
  split at hfind
  · cases hfind
  · next found hfound =>
    split at hfind
    · cases hfind
    · cases hfind
      exact ⟨found, hfound, htarget⟩

/-- **A call that meets the condition leaves one review each.** -/
theorem oneEach_reviewCall (h : OneEach l s) {call : UserId × CreateReviewDto}
    (hsame : SameSpelling l s call) : OneEach l (reviewCall l s call) := by
  obtain ⟨requester, dto⟩ := call
  cases htarget : l.targetOf requester dto with
  | none =>
    rw [reviewCall, (createReview_rejected (Or.inl htarget)).1]
    exact h
  | some targetId =>
    cases hreviewed : s.reviewed dto.orderId dto.targetType with
    | true =>
      rw [reviewCall, (createReview_rejected (Or.inr hreviewed)).1]
      exact h
    | false =>
      have hreviews := (createReview_eq htarget hreviewed).2
      refine ⟨?_, fun review hreview => ?_⟩
      · rw [reviewCall, hreviews, List.pairwise_append]
        refine ⟨h.once, List.pairwise_singleton _ _, fun a ha b hb => ?_⟩
        rw [List.mem_singleton.mp hb]
        rintro ⟨hid, htype⟩
        have hspelled := hsame (by rw [htarget]; rfl) a ha hid htype
        have hfound : s.reviewed dto.orderId dto.targetType = true :=
          reviewed_eq_true.mpr ⟨a, ha, hspelled, htype⟩
        cases hreviewed.symm.trans hfound
      · rw [reviewCall, hreviews] at hreview
        rcases List.mem_append.mp hreview with hold | hnew
        · exact h.own review hold
        · rw [List.mem_singleton.mp hnew]
          exact own_of_targetOf htarget

/-- **A call that does not leaves two for one order and type.** -/
theorem not_oneEach_reviewCall (h : OneEach l s) {call : UserId × CreateReviewDto}
    (hsame : ¬ SameSpelling l s call) : ¬ OneEach l (reviewCall l s call) := by
  obtain ⟨requester, dto⟩ := call
  simp only [SameSpelling, not_forall] at hsame
  obtain ⟨htarget, review, hreview, hid, htype, hspelled⟩ := hsame
  obtain ⟨targetId, htarget⟩ := Option.isSome_iff_exists.mp htarget
  have hnew : s.reviewed dto.orderId dto.targetType = false := by
    rw [Bool.eq_false_iff]
    intro hreviewed
    obtain ⟨other, hother, hotherId, hotherType⟩ := reviewed_eq_true.mp hreviewed
    have hne : other ≠ review := by
      rintro rfl
      exact hspelled hotherId
    have hsymm : Std.Symm fun a b : Review =>
        ¬ (l.idOf a.orderId = l.idOf b.orderId ∧ a.targetType = b.targetType) :=
      ⟨fun _ _ hab hba => hab ⟨hba.1.symm, hba.2.symm⟩⟩
    exact h.once.forall hother hreview hne ⟨by rw [hotherId, hid], hotherType.trans htype.symm⟩
  intro htwo
  have hpairs := htwo.once
  rw [reviewCall, (createReview_eq htarget hnew).2, List.pairwise_append] at hpairs
  exact hpairs.2.2 review hreview _ (List.mem_singleton.mpr rfl) ⟨hid, htype⟩

/-- **Along any calls every order is reported eligible exactly for the reviews that `create`
accepts, and is reviewed at most once for each type, exactly when every review that may be given
spells the id as the stored review of that order and type does.** -/
theorem one_each_iff (h : OneEach l s) (calls : List (UserId × CreateReviewDto)) :
    Throughout (reviewCall l) (fun t => EligibilityExact l t ∧ OneEach l t) s calls ↔
      Along (reviewCall l) (SameSpelling l) s calls :=
  throughout_iff_along (I := OneEach l) (fun t ht => ⟨eligible_iff_created l t, ht⟩)
    (fun _ _ ht hc => oneEach_reviewCall ht hc)
    (fun _ _ ht hc hbad => not_oneEach_reviewCall ht hc hbad.2) calls s h

end Call

/-! ## Concrete calls -/

/-- One order, of customer 1. -/
def oneReviewable : OrderLookup where
  idOf text := if text.toLower = "65a1b2c3d4e5f60718293a4b" then some 0 else none
  orders := ⟨[⟨1, reviewedOrder⟩]⟩

/-- The customer reviews the restaurant. -/
def rateRestaurant (orderId : String) : UserId × CreateReviewDto :=
  (1, ⟨.restaurant, orderId, ⟨4, by decide⟩, none, none⟩)

theorem oneEach_empty (l : OrderLookup) : OneEach l .empty where
  once := List.Pairwise.nil
  own _ h := absurd h List.not_mem_nil

/-- The same text twice: the second call is turned down. -/
theorem one_each_iff_again : Throughout (reviewCall oneReviewable)
    (fun t => EligibilityExact oneReviewable t ∧ OneEach oneReviewable t) .empty
      [rateRestaurant "65a1b2c3d4e5f60718293a4b", rateRestaurant "65a1b2c3d4e5f60718293a4b"] := by
  refine (one_each_iff (oneEach_empty _) _).mpr
    ⟨fun _ _ h => absurd h List.not_mem_nil, ?_, trivial⟩
  have hreviews : (reviewCall oneReviewable .empty
      (rateRestaurant "65a1b2c3d4e5f60718293a4b")).reviews.all
        (fun review => review.orderId = "65a1b2c3d4e5f60718293a4b") = true := by
    decide +kernel
  intro _ review hreview _ _
  exact of_decide_eq_true (List.all_eq_true.mp hreviews review hreview)

/-- **A customer reviews the restaurant of an order twice**, in capital letters the second time. -/
theorem reviewed_twice : ¬ ∀ (l : OrderLookup) (calls : List (UserId × CreateReviewDto)),
    Throughout (reviewCall l) (fun t => EligibilityExact l t ∧ OneEach l t) .empty calls := by
  intro hclaim
  obtain ⟨_, _, _, htwo⟩ := hclaim oneReviewable
    [rateRestaurant "65a1b2c3d4e5f60718293a4b", rateRestaurant "65A1B2C3D4E5F60718293A4B"]
  have hreviews : ((reviewCall oneReviewable (reviewCall oneReviewable .empty
      (rateRestaurant "65a1b2c3d4e5f60718293a4b"))
        (rateRestaurant "65A1B2C3D4E5F60718293A4B")).reviews.map fun review =>
          (oneReviewable.idOf review.orderId, review.targetType)) =
            [(some 0, .restaurant), (some 0, .restaurant)] := by
    decide +kernel
  have hnodup : (List.map (fun review : Review => (oneReviewable.idOf review.orderId,
      review.targetType)) _).Nodup :=
    List.pairwise_map.mpr (htwo.once.imp fun hne he => hne (Prod.mk.inj he))
  rw [hreviews] at hnodup
  exact absurd hnodup (by decide)

end ReviewsService

end FoodDelivery
