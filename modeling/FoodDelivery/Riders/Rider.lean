import FoodDelivery.Lib.Collection
import FoodDelivery.Orders.Lifecycle
import Mathlib.Data.List.Sort

/-!
# Riders

`riders/schemas/rider.schema.ts`, the checks of `riders/riders.service.ts`, and the candidate
query of `OrdersService.findNearbyRiderCandidates`.

Of the schema's fields those are kept that an application, a verification, a dispatch or an
assignment reads.  The distance on the sphere is a parameter.

* `verified_of_nearbyRiders`: the nearby riders are verified.
* `free_of_freeCandidates`: and no free candidate is under way with an order.
-/

namespace FoodDelivery

open Store

abbrev RiderId := Nat

/-- What `getFullYear`, `getMonth` and `getDate` give of a `Date`. -/
structure CalendarDate where
  year : Nat
  month : Nat
  day : Nat
  deriving DecidableEq, Repr

/-- `VEHICLE_TYPES`. -/
inductive VehicleType
  | bicycle
  | motorcycle
  | car
  | van
  deriving DecidableEq, Repr

structure GeoPoint where
  longitude : ℚ
  latitude : ℚ
  deriving DecidableEq

/-- `Rider`; `guarantorName` is its `guarantor.fullName`. -/
structure Rider where
  userId : UserId
  vehicleType : VehicleType
  isOnline : Bool
  currentLocation : Option GeoPoint
  isVerified : Bool
  dateOfBirth : Option CalendarDate
  governmentIdDocumentUrl : Option String
  proofOfAddressDocumentUrl : Option String
  guarantorName : Option String
  nextOfKinName : Option String
  driversLicenseExpiry : Option Time
  driversLicenseDocumentUrl : Option String
  vehiclePlateNumber : Option String
  vehicleRegistrationDocumentUrl : Option String
  deriving DecidableEq

/-- `ApplyRiderDto`, as far as it is kept. -/
structure ApplyRiderDto where
  vehicleType : VehicleType
  dateOfBirth : CalendarDate
  governmentIdDocumentUrl : String
  proofOfAddressDocumentUrl : String
  guarantorName : String
  nextOfKinName : String
  driversLicenseExpiry : Option Time
  driversLicenseDocumentUrl : Option String
  vehiclePlateNumber : Option String
  vehicleRegistrationDocumentUrl : Option String
  deriving DecidableEq

/-- What `apply` inserts: everything not given is the schema's default. -/
def ApplyRiderDto.toRider (dto : ApplyRiderDto) (userId : UserId) : Rider where
  userId := userId
  vehicleType := dto.vehicleType
  isOnline := false
  currentLocation := none
  isVerified := false
  dateOfBirth := some dto.dateOfBirth
  governmentIdDocumentUrl := some dto.governmentIdDocumentUrl
  proofOfAddressDocumentUrl := some dto.proofOfAddressDocumentUrl
  guarantorName := some dto.guarantorName
  nextOfKinName := some dto.nextOfKinName
  driversLicenseExpiry := dto.driversLicenseExpiry
  driversLicenseDocumentUrl := dto.driversLicenseDocumentUrl
  vehiclePlateNumber := dto.vehiclePlateNumber
  vehicleRegistrationDocumentUrl := dto.vehicleRegistrationDocumentUrl

/-! ## The checks -/

namespace RidersService

/-- `MINIMUM_RIDER_AGE`. -/
def minimumRiderAge : Int := 18

def getAgeInYears (today dateOfBirth : CalendarDate) : Int :=
  let age : Int := today.year - dateOfBirth.year
  let hasHadBirthdayThisYear := today.month > dateOfBirth.month ∨
    (today.month = dateOfBirth.month ∧ today.day ≥ dateOfBirth.day)
  if hasHadBirthdayThisYear then age else age - 1

/-- Only a plain customer may apply. -/
def checkApplicantRole : UserRole → Except HttpError Unit
  | .customer => .ok ()
  | .rider => .error (.badRequest "You are already a rider")
  | .restaurantOwner =>
    .error (.badRequest "Restaurant owner accounts cannot also become riders")
  | .admin => .error (.badRequest "Admins do not need a rider profile")

/-- The checks of `apply` once there is no profile yet. -/
def checkApplication (today : CalendarDate) (now : Time) (dto : ApplyRiderDto) :
    Except HttpError Unit :=
  if getAgeInYears today dto.dateOfBirth < minimumRiderAge then
    .error (.badRequest
      s!"You must be at least {minimumRiderAge} years old to become a rider")
  else if dto.driversLicenseExpiry.any (· < now) then
    .error (.badRequest
      "Your driver's license has already expired — renew it before applying")
  else .ok ()

/-- The list that `assertKycComplete` collects. -/
def missingKyc (now : Time) (rider : Rider) : List String :=
  (if rider.dateOfBirth.isNone then ["date of birth"] else []) ++
  (if isBlank rider.governmentIdDocumentUrl then ["government ID document"] else []) ++
  (if isBlank rider.proofOfAddressDocumentUrl then ["proof of address document"] else []) ++
  (if isBlank rider.guarantorName then ["guarantor details"] else []) ++
  (if isBlank rider.nextOfKinName then ["next of kin details"] else []) ++
  (if rider.vehicleType = .bicycle then []
    else
      (if isBlank rider.driversLicenseDocumentUrl then ["driver's license document"] else []) ++
      (if isBlank rider.vehicleRegistrationDocumentUrl then ["vehicle registration document"]
        else []) ++
      (if isBlank rider.vehiclePlateNumber then ["vehicle plate number"] else []) ++
      (if rider.driversLicenseExpiry.any (· < now) then
        ["a valid (non-expired) driver's license"] else []))

def assertKycComplete (now : Time) (rider : Rider) : Except HttpError Unit :=
  if missingKyc now rider = [] then .ok ()
  else .error (.badRequest ("This rider is missing required information and cannot be " ++
    "verified yet: " ++ ", ".intercalate (missingKyc now rider)))

/-- `assertVerified`, on the profile it found. -/
def assertVerified : Option Rider → Except HttpError Unit
  | none => .error (.notFound "Rider profile not found")
  | some rider =>
    if rider.isVerified then .ok ()
    else .error (.forbidden ("Your rider account is not verified yet — you cannot accept " ++
      "orders until an admin verifies it"))

end RidersService

/-- `findOne({ userId })`. -/
def findRider (riders : Collection Rider) (userId : UserId) : Option (RiderId × Rider) :=
  (riders.find fun _ rider => rider.userId = userId).head?

/-! ## Candidates -/

/-- `ACTIVE_DELIVERY_STATUSES`. -/
def activeDeliveryStatuses : List OrderStatus := [.assignedToRider, .pickedUp, .outForDelivery]

/-- `NEARBY_RIDER_DISPATCH_RADIUS_KM`. -/
def nearbyRiderDispatchRadiusKm : ℚ := 15

/-- `NEARBY_RIDER_CANDIDATE_LIMIT`. -/
def nearbyRiderCandidateLimit : Nat := 15

/-- `RIDER_ASSIGNMENT_GRACE_PERIOD_MS`. -/
def riderAssignmentGracePeriodMs : Time := 3 * 60 * 1000

structure RiderCandidate where
  userId : UserId
  distanceMeters : ℚ
  deriving DecidableEq

section Candidates

variable (distanceMeters : GeoPoint → GeoPoint → ℚ)

/-- What `$geoNear` makes of a rider; one without a location is not found. -/
def nearbyRider (near : GeoPoint) (rider : Rider) : Option RiderCandidate :=
  if rider.isOnline ∧ rider.isVerified then
    match rider.currentLocation with
    | none => none
    | some point =>
      if distanceMeters near point ≤ nearbyRiderDispatchRadiusKm * 1000 then
        some ⟨rider.userId, distanceMeters near point⟩
      else none
  else none

/-- `$geoNear` and `$limit`: the nearest online, verified riders. -/
def nearbyRiders (near : GeoPoint) (limit : Nat) (riders : Collection Rider) :
    List RiderCandidate :=
  ((riders.docs.filterMap (nearbyRider distanceMeters near)).insertionSort
    fun a b => a.distanceMeters ≤ b.distanceMeters).take limit

end Candidates

/-- The rider has the order in an active delivery. -/
def Order.isActiveFor (o : Order) (userId : UserId) : Bool :=
  o.riderId = some userId && o.status ∈ activeDeliveryStatuses

/-- The riders among the candidates that are mid-delivery. -/
def busyRiderIds (orders : Collection Order) (candidateIds : List UserId) : List UserId :=
  (orders.find fun _ o => o.riderId.any (· ∈ candidateIds) && o.status ∈ activeDeliveryStatuses)
    |>.filterMap fun x => x.2.riderId

/-- The candidates that are not mid-delivery. -/
def freeCandidates (orders : Collection Order) (candidates : List RiderCandidate) :
    List RiderCandidate :=
  let busy := busyRiderIds orders (candidates.map (·.userId))
  candidates.filter (·.userId ∉ busy)

section Facts

variable {distanceMeters : GeoPoint → GeoPoint → ℚ} {near : GeoPoint} {limit : Nat}
  {riders : Collection Rider} {orders : Collection Order} {candidates : List RiderCandidate}
  {candidate : RiderCandidate} {userId : UserId} {riderId : RiderId} {rider : Rider}

theorem findRider_eq_some (h : findRider riders userId = some (riderId, rider)) :
    riders.get riderId = some rider ∧ rider.userId = userId := by
  obtain ⟨hget, huser⟩ := Collection.mem_find.mp (List.mem_of_mem_head? h)
  exact ⟨hget, of_decide_eq_true huser⟩

theorem findRider_eq_none (h : findRider riders userId = none)
    (hget : riders.get riderId = some rider) : rider.userId ≠ userId := by
  intro huser
  have hmem : (riderId, rider) ∈ riders.find fun _ rider => rider.userId = userId :=
    Collection.mem_find.mpr ⟨hget, decide_eq_true huser⟩
  rw [List.head?_eq_none_iff.mp h] at hmem
  exact absurd hmem List.not_mem_nil

/-- **The riders that `$geoNear` finds are verified.** -/
theorem verified_of_nearbyRiders (h : candidate ∈ nearbyRiders distanceMeters near limit riders) :
    ∃ riderId rider, riders.get riderId = some rider ∧ rider.userId = candidate.userId ∧
      rider.isVerified = true := by
  have hmem := List.mem_of_mem_take h
  rw [List.mem_insertionSort, List.mem_filterMap] at hmem
  obtain ⟨rider, hrider, hnear⟩ := hmem
  obtain ⟨riderId, hget⟩ := List.mem_iff_getElem?.mp hrider
  rw [nearbyRider] at hnear
  split at hnear
  · rename_i hok
    split at hnear
    · cases hnear
    · split at hnear
      · cases hnear
        exact ⟨riderId, rider, hget, rfl, hok.2⟩
      · cases hnear
  · cases hnear

/-- **A free candidate is no active order's rider.** -/
theorem free_of_freeCandidates (h : candidate ∈ freeCandidates orders candidates) :
    candidate ∈ candidates ∧ ∀ id d, orders.get id = some d →
      d.isActiveFor candidate.userId = false := by
  obtain ⟨hmem, hfree⟩ := List.mem_filter.mp h
  refine ⟨hmem, ?_⟩
  intro id d hd
  by_contra hactive
  rw [Bool.not_eq_false, Order.isActiveFor, Bool.and_eq_true, decide_eq_true_eq] at hactive
  obtain ⟨hrider, hstatus⟩ := hactive
  have hid : candidate.userId ∈ candidates.map (·.userId) := List.mem_map_of_mem hmem
  have hfound : (id, d) ∈ orders.find fun _ o =>
      o.riderId.any (· ∈ candidates.map (·.userId)) && o.status ∈ activeDeliveryStatuses := by
    refine Collection.mem_find.mpr ⟨hd, ?_⟩
    rw [hrider, Option.any_some, decide_eq_true hid]
    exact hstatus
  have hbusy : candidate.userId ∈ busyRiderIds orders (candidates.map (·.userId)) :=
    List.mem_filterMap.mpr ⟨(id, d), hfound, hrider⟩
  exact of_decide_eq_true hfree hbusy

end Facts

end FoodDelivery
