import FoodDelivery.Riders.Fleet

/-!
# The nearest free rider

`findNearbyRiderCandidates` takes the first riders that `$geoNear` returns and leaves out those that
are mid-delivery; the cut comes first, so a free rider behind a limit's worth of busy ones is not
seen.

* `dispatchToNearestRider_spec`: with a free rider among those taken, the order goes to a free rider
  as near as any in the radius, and without one it stays as it is.
* `sixteenth_rider_unseen`: fifteen busy riders before a free one.
-/

namespace FoodDelivery

open Store OrdersService FleetPc

section Definitions

variable (distanceMeters : GeoPoint → GeoPoint → ℚ)

/-- The next awaited calls of one call, with nothing in between. -/
def fleetAlone (c : Fleet) (pc : FleetPc) (r : FleetReply) : Nat → Fleet × FleetPc
  | 0 => (c, pc)
  | n + 1 =>
    match fleetStep distanceMeters c pc r with
    | none => (c, pc)
    | some (c', pc') => fleetAlone c' pc' r n

/-- `dispatchToNearestRider`: the seller, the riders, their orders, and the assignment. -/
def dispatchToNearestRider (c : Fleet) (orderId : OrderId) (r : FleetReply) : Fleet × FleetPc :=
  fleetAlone distanceMeters c (.dispatchSeller orderId []) r 4

/-- Nobody's order is in delivery by this user. -/
def Fleet.FreeOf (c : Fleet) (userId : UserId) : Prop :=
  ∀ id d, c.orders.get id = some d → d.isActiveFor userId = false

/-- An online, verified rider in the radius, at this point, without an order in delivery. -/
structure FreeRider (c : Fleet) (near : GeoPoint) (rider : Rider) (point : GeoPoint) : Prop where
  stored : ∃ riderId, c.riders.get riderId = some rider
  isOnline : rider.isOnline = true
  isVerified : rider.isVerified = true
  currentLocation : rider.currentLocation = some point
  inRadius : distanceMeters near point ≤ nearbyRiderDispatchRadiusKm * 1000
  free : c.FreeOf rider.userId

/-- The order went to a free rider that no free rider is nearer than. -/
def AssignsNearest (c c' : Fleet) (near : GeoPoint) (orderId : OrderId) (order : Order)
    (now : Time) : Prop :=
  ∃ rider point updated, FreeRider distanceMeters c near rider point ∧
    (∀ rider' point', FreeRider distanceMeters c near rider' point' →
      distanceMeters near point ≤ distanceMeters near point') ∧
    order.assignToRider rider.userId now = some updated ∧
    c' = c.modifyOrder orderId fun _ => updated

/-- What is expected of a dispatch when riders are `seen`. -/
structure DispatchSpec (c : Fleet) (near : GeoPoint) (orderId : OrderId) (order : Order)
    (r : FleetReply) (seen : Prop) : Prop where
  returned : (dispatchToNearestRider distanceMeters c orderId r).2 = .returned
  assigned : seen → AssignsNearest distanceMeters c
    (dispatchToNearestRider distanceMeters c orderId r).1 near orderId order r.now
  unassigned : ¬ seen → (dispatchToNearestRider distanceMeters c orderId r).1 = c

end Definitions

/-! ## Candidates -/

/-- The first of those that are left of a sorted list is before all that would be left of it. -/
theorem le_of_head?_filter_take {α : Type} {key : α → ℚ} {l : List α} {n : Nat} {p : α → Bool}
    {a b : α} (hl : l.Pairwise fun x y => key x ≤ key y)
    (h : ((l.take n).filter p).head? = some a) (hb : b ∈ l) (hp : p b = true) : key a ≤ key b := by
  have hsplit := List.pairwise_append.mp ((List.take_append_drop n l).symm ▸ hl)
  have ha : a ∈ (l.take n).filter p := List.mem_of_mem_head? h
  rcases List.mem_append.mp ((List.take_append_drop n l).symm ▸ hb) with htake | hdrop
  · have hsorted : ((l.take n).filter p).Pairwise fun x y => key x ≤ key y := hsplit.1.filter p
    have hmem : b ∈ (l.take n).filter p := List.mem_filter.mpr ⟨htake, hp⟩
    cases hlist : (l.take n).filter p with
    | nil => rw [hlist] at ha; exact absurd ha List.not_mem_nil
    | cons x rest =>
      rw [hlist] at h hsorted hmem
      obtain rfl := Option.some.inj h
      rcases List.mem_cons.mp hmem with rfl | hrest
      · exact le_refl _
      · exact (List.pairwise_cons.mp hsorted).1 b hrest
  · exact hsplit.2.2 a (List.mem_of_mem_filter ha) b hdrop

section Candidates

variable {distanceMeters : GeoPoint → GeoPoint → ℚ} {c : Fleet} {near point : GeoPoint}
  {candidate : RiderCandidate} {rider : Rider}

theorem nearbyRider_eq_some : nearbyRider distanceMeters near rider = some candidate ↔
    ∃ point, rider.isOnline = true ∧ rider.isVerified = true ∧
      rider.currentLocation = some point ∧
      distanceMeters near point ≤ nearbyRiderDispatchRadiusKm * 1000 ∧
      candidate = ⟨rider.userId, distanceMeters near point⟩ := by
  unfold nearbyRider
  split
  · next h =>
    split
    · next hnone => simp [hnone]
    · next point hpoint =>
      split
      · next hle =>
        simp only [Option.some.injEq, h.1, h.2, hpoint, true_and, exists_eq_left', hle]
        exact eq_comm
      · next hgt => simp [hpoint, hgt]
  · next h =>
    refine iff_of_false (by simp) ?_
    rintro ⟨_, honline, hverified, _⟩
    exact h ⟨honline, hverified⟩

/-- A rider without an order in delivery is not busy, whoever is asked about. -/
theorem not_mem_busyRiderIds {userId : UserId} (h : c.FreeOf userId) (candidateIds : List UserId) :
    userId ∉ busyRiderIds c.orders candidateIds := by
  intro hbusy
  obtain ⟨x, hx, hrider⟩ := List.mem_filterMap.mp hbusy
  obtain ⟨hget, hfound⟩ := Collection.mem_find.mp hx
  obtain ⟨_, hstatus⟩ := Bool.and_eq_true_iff.mp hfound
  have hactive := h x.1 x.2 hget
  rw [Order.isActiveFor, hrider, decide_eq_true rfl, Bool.true_and] at hactive
  exact Bool.false_ne_true (hactive.symm.trans hstatus)

theorem mem_nearbyRiders_of_take {limit : Nat}
    (h : candidate ∈ nearbyRiders distanceMeters near limit c.riders) :
    candidate ∈ c.riders.docs.filterMap (nearbyRider distanceMeters near) :=
  (List.mem_insertionSort _).mp (List.mem_of_mem_take h)

/-- A free rider is a candidate of `$geoNear`. -/
theorem FreeRider.mem_candidates (h : FreeRider distanceMeters c near rider point) :
    (⟨rider.userId, distanceMeters near point⟩ : RiderCandidate) ∈
      c.riders.docs.filterMap (nearbyRider distanceMeters near) := by
  obtain ⟨riderId, hget⟩ := h.stored
  exact List.mem_filterMap.mpr ⟨rider, List.mem_of_getElem? hget, nearbyRider_eq_some.mpr
    ⟨point, h.isOnline, h.isVerified, h.currentLocation, h.inRadius, rfl⟩⟩

/-- A candidate without an order in delivery is a free rider. -/
theorem freeRider_of_candidate
    (h : candidate ∈ c.riders.docs.filterMap (nearbyRider distanceMeters near))
    (hfree : c.FreeOf candidate.userId) : ∃ rider point,
      FreeRider distanceMeters c near rider point ∧
        candidate = ⟨rider.userId, distanceMeters near point⟩ := by
  obtain ⟨rider, hmem, hnear⟩ := List.mem_filterMap.mp h
  obtain ⟨point, honline, hverified, hpoint, hle, rfl⟩ := nearbyRider_eq_some.mp hnear
  exact ⟨rider, point, ⟨List.mem_iff_getElem?.mp hmem, honline, hverified, hpoint, hle, hfree⟩, rfl⟩

end Candidates

/-! ## The call -/

section Dispatch

variable {distanceMeters : GeoPoint → GeoPoint → ℚ} {c : Fleet} {near : GeoPoint}
  {orderId : OrderId} {order : Order} {r : FleetReply}

/-- What the awaited calls come to. -/
theorem dispatchToNearestRider_eq (hfails : r.fails = false)
    (hlocation : r.sellerLocation = .ok (some near)) :
    dispatchToNearestRider distanceMeters c orderId r =
      ((((freeCandidates c.orders (nearbyRiders distanceMeters near nearbyRiderCandidateLimit
        c.riders)).head?.bind fun candidate =>
          (c.orders.get orderId).bind (·.assignToRider candidate.userId r.now)).elim c
            fun updated => c.modifyOrder orderId fun _ => updated), .returned) := by
  simp only [dispatchToNearestRider, fleetAlone, fleetStep, hfails, Bool.false_eq_true, if_false,
    fleetCall, hlocation]
  cases hnear : nearbyRiders distanceMeters near nearbyRiderCandidateLimit c.riders with
  | nil => rfl
  | cons first rest =>
    simp only []
    cases hfree : freeCandidates c.orders (first :: rest) with
    | nil => rfl
    | cons candidate others =>
      simp only [afterBusy, List.head?_cons, Option.bind_some]
      cases (c.orders.get orderId).bind (·.assignToRider candidate.userId r.now) <;> rfl

/-- The first free candidate, when one of those taken is free. -/
theorem exists_head?_freeCandidates {candidates : List RiderCandidate}
    (h : ∃ candidate ∈ candidates, c.FreeOf candidate.userId) :
    ∃ first, (freeCandidates c.orders candidates).head? = some first := by
  obtain ⟨candidate, hmem, hfree⟩ := h
  have hleft : candidate ∈ freeCandidates c.orders candidates :=
    List.mem_filter.mpr ⟨hmem, decide_eq_true (not_mem_busyRiderIds hfree _)⟩
  cases hlist : freeCandidates c.orders candidates with
  | nil => rw [hlist] at hleft; exact absurd hleft List.not_mem_nil
  | cons first rest => exact ⟨first, rfl⟩

/-- No free rider is nearer than the first candidate that is left. -/
theorem le_of_head?_freeCandidates {first : RiderCandidate} {limit : Nat} {rider : Rider}
    {point : GeoPoint} (hfirst : (freeCandidates c.orders
      (nearbyRiders distanceMeters near limit c.riders)).head? = some first)
    (hfree : FreeRider distanceMeters c near rider point) :
    first.distanceMeters ≤ distanceMeters near point := by
  have hsorted : ((c.riders.docs.filterMap (nearbyRider distanceMeters near)).insertionSort
      fun a b => a.distanceMeters ≤ b.distanceMeters).Pairwise
        fun a b => a.distanceMeters ≤ b.distanceMeters :=
    List.pairwise_insertionSort _ _
  exact le_of_head?_filter_take hsorted hfirst
    ((List.mem_insertionSort _).mpr hfree.mem_candidates)
    (decide_eq_true (not_mem_busyRiderIds hfree.free _))

/-- **The order goes to a free rider as near as any, if one is among the riders that are taken**,
and stays as it is if none is: for every seller location, riders and orders. -/
theorem dispatchToNearestRider_spec (hfails : r.fails = false)
    (hlocation : r.sellerLocation = .ok (some near)) (horder : c.orders.get orderId = some order)
    (hstatus : order.status = .readyForPickup) (hrider : order.riderId = none) :
    DispatchSpec distanceMeters c near orderId order r (∃ candidate ∈
      nearbyRiders distanceMeters near nearbyRiderCandidateLimit c.riders,
        c.FreeOf candidate.userId) := by
  have heq : dispatchToNearestRider distanceMeters c orderId r = _ :=
    dispatchToNearestRider_eq hfails hlocation
  refine ⟨by rw [heq], fun hseen => ?_, fun hunseen => ?_⟩
  · obtain ⟨first, hfirst⟩ := exists_head?_freeCandidates hseen
    obtain ⟨hmem, hfree⟩ := free_of_freeCandidates (List.mem_of_mem_head? hfirst)
    obtain ⟨rider, point, hrider', rfl⟩ :=
      freeRider_of_candidate (mem_nearbyRiders_of_take hmem) hfree
    refine ⟨rider, point, _, hrider', fun rider' point' h' =>
      le_of_head?_freeCandidates hfirst h', if_pos ⟨hstatus, hrider⟩, ?_⟩
    rw [heq, hfirst, Option.bind_some, horder, Option.bind_some, Order.assignToRider,
      if_pos ⟨hstatus, hrider⟩, Option.elim_some]
  · have hnone : (freeCandidates c.orders (nearbyRiders distanceMeters near
        nearbyRiderCandidateLimit c.riders)).head? = none := by
      rw [List.head?_eq_none_iff, List.eq_nil_iff_forall_not_mem]
      exact fun candidate h => hunseen ⟨candidate, free_of_freeCandidates h⟩
    rw [heq, hnone]
    rfl

end Dispatch

/-! ## Concrete fleets -/

/-- Rider `n`, verified and online, `n` steps from the seller. -/
def riderAt (n : Nat) : Rider where
  userId := n
  vehicleType := .bicycle
  isOnline := true
  currentLocation := some ⟨3 + (n : ℚ) / 1000, 6⟩
  isVerified := true
  dateOfBirth := none
  governmentIdDocumentUrl := none
  proofOfAddressDocumentUrl := none
  guarantorName := none
  nextOfKinName := none
  driversLicenseExpiry := none
  driversLicenseDocumentUrl := none
  vehiclePlateNumber := none
  vehicleRegistrationDocumentUrl := none

/-- An order of seller 1. -/
def orderOf (status : OrderStatus) (riderId : Option UserId) : Order :=
  { Order.created (.restaurant 1) 9 0 "USD" .stripe (.ofCents 200) (.ofCents 1500)
      (.ofCents 1000) with
    status := status
    riderId := riderId }

/-- So many riders; all but the last one have an order, and one order is ready. -/
def lastOneFree (n : Nat) : Fleet where
  orders := ⟨(List.range n).map (fun i => orderOf .pickedUp (some i)) ++
    [orderOf .readyForPickup none]⟩
  riders := ⟨(List.range (n + 1)).map riderAt⟩

theorem dispatchToNearestRider_spec_second :
    (nearbyRiders flatDistance kitchen nearbyRiderCandidateLimit (lastOneFree 1).riders).length =
        2 ∧
      DispatchSpec flatDistance (lastOneFree 1) kitchen 1 (orderOf .readyForPickup none)
        (fleetReply 0) (∃ candidate ∈ nearbyRiders flatDistance kitchen nearbyRiderCandidateLimit
          (lastOneFree 1).riders, (lastOneFree 1).FreeOf candidate.userId) :=
  ⟨by decide +kernel, dispatchToNearestRider_spec rfl rfl rfl rfl rfl⟩

/-- Rider 15 is free, and 1.7 km away. -/
theorem freeRider_fifteen :
    FreeRider flatDistance (lastOneFree 15) kitchen (riderAt 15) ⟨3 + (15 : Nat) / 1000, 6⟩ where
  stored := ⟨15, rfl⟩
  isOnline := rfl
  isVerified := rfl
  currentLocation := rfl
  inRadius := by decide +kernel
  free id d hd := by
    have hall : (lastOneFree 15).orders.docs.all (fun d => !d.isActiveFor 15) = true := by
      decide +kernel
    have hnot := List.all_eq_true.mp hall d (List.mem_of_getElem? hd)
    exact Bool.not_eq_true' _ ▸ hnot

/-- **A free rider is not seen behind fifteen busy ones**: the order stays unassigned. -/
theorem sixteenth_rider_unseen :
    ¬ ∀ (distanceMeters : GeoPoint → GeoPoint → ℚ) (c : Fleet) (near : GeoPoint)
      (orderId : OrderId) (order : Order) (r : FleetReply), r.fails = false →
      r.sellerLocation = .ok (some near) → c.orders.get orderId = some order →
      order.status = .readyForPickup → order.riderId = none →
      DispatchSpec distanceMeters c near orderId order r
        (∃ rider point, FreeRider distanceMeters c near rider point) := by
  intro hclaim
  have hspec := hclaim flatDistance (lastOneFree 15) kitchen 15 (orderOf .readyForPickup none)
    (fleetReply 0) rfl rfl rfl rfl rfl
  have hsame : (dispatchToNearestRider flatDistance (lastOneFree 15) 15 (fleetReply 0)).1 =
      lastOneFree 15 := by
    decide +kernel
  obtain ⟨rider, point, updated, _, _, hassign, heq⟩ := hspec.assigned ⟨_, _, freeRider_fifteen⟩
  rw [hsame] at heq
  have hget := congrArg (fun c : Fleet => (c.orders.get 15).bind (·.riderId)) heq
  cases hassign
  cases hget

end FoodDelivery
