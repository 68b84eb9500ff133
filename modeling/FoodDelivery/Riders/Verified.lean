import FoodDelivery.Riders.Moves

/-!
# Only verified riders carry orders

A rider is attached to an order by `assignToRider` and by the reassignment of
`assignRiderByOwner`.  Neither looks at the rider's profile: each of the four callers does so
in a step before.  No call takes a verification back, so what was seen then still holds.

* `riders_verified`: in every run, the rider of every order has one profile, a verified one.
-/

namespace FoodDelivery

open Store Interleave OrdersService RidersService FleetPc

section Riders

variable {c c' : Fleet} {pc pc' : FleetPc}

/-- Every profile keeps its user, and its verification. -/
def Fleet.KeepsRiders (c c' : Fleet) : Prop :=
  ∀ riderId rider, c.riders.get riderId = some rider → ∃ rider',
    c'.riders.get riderId = some rider' ∧ rider'.userId = rider.userId ∧
      (rider.isVerified = true → rider'.isVerified = true)

/-- No two profiles of one user, and only verified riders on orders. -/
structure Fleet.Lawful (c : Fleet) : Prop where
  unique : ∀ i j rider rider', c.riders.get i = some rider → c.riders.get j = some rider' →
    rider.userId = rider'.userId → i = j
  verified : ∀ id o u, c.orders.get id = some o → o.riderId = some u → c.Verified u

theorem Fleet.KeepsRiders.refl (c : Fleet) : c.KeepsRiders c :=
  fun _ rider hget => ⟨rider, hget, rfl, id⟩

theorem Fleet.Verified.of_keeps {u : UserId} (h : c.Verified u) (hk : c.KeepsRiders c') :
    c'.Verified u := by
  obtain ⟨riderId, rider, hget, huser, hv⟩ := h
  obtain ⟨rider', hget', huser', hv'⟩ := hk riderId rider hget
  exact ⟨riderId, rider', hget', huser'.trans huser, hv' hv⟩

/-- A write to a profile that keeps its user and its verification. -/
theorem keepsRiders_modify {riderId : RiderId} {g : Rider → Rider}
    (hg : ∀ rider, (g rider).userId = rider.userId ∧
      (rider.isVerified = true → (g rider).isVerified = true)) :
    c.KeepsRiders (c.modifyRider riderId g) := by
  intro i rider hget
  by_cases hi : riderId = i
  · subst hi
    refine ⟨g rider, ?_, (hg rider).1, (hg rider).2⟩
    show (c.riders.modify riderId g).get riderId = some (g rider)
    rw [Collection.get_modify_self, hget]
    rfl
  · refine ⟨rider, ?_, rfl, id⟩
    show (c.riders.modify riderId g).get i = some rider
    rw [Collection.get_modify_ne hi, hget]

theorem keepsRiders_create (rider : Rider) :
    c.KeepsRiders { c with riders := c.riders.create rider } :=
  fun _ d hget => ⟨d, Collection.get_create_of_get hget, rfl, id⟩

/-- **A step keeps every profile.** -/
theorem FleetMove.keepsRiders (hm : FleetMove c pc c' pc') : c.KeepsRiders c' := by
  cases hm with
  | waited _ _ _ => exact .refl c
  | applied _ => exact keepsRiders_create _
  | verified => exact keepsRiders_modify fun _ => ⟨rfl, fun _ => rfl⟩
  | toggled => exact keepsRiders_modify fun _ => ⟨rfl, id⟩
  | attached _ _ _ _ _ _ => exact fun _ rider hget => ⟨rider, hget, rfl, id⟩
  | moved _ _ => exact fun _ rider hget => ⟨rider, hget, rfl, id⟩

namespace Fleet.Lawful

theorem empty : Lawful ⟨Collection.empty, Collection.empty⟩ := by
  refine ⟨?_, ?_⟩
  · intro i j rider rider' hget
    rw [Collection.get_empty] at hget
    cases hget
  · intro id o u hget
    rw [Collection.get_empty] at hget
    cases hget

/-- A write to a profile. -/
theorem modifyRider {riderId : RiderId} {g : Rider → Rider} (h : c.Lawful)
    (hg : ∀ rider, (g rider).userId = rider.userId ∧
      (rider.isVerified = true → (g rider).isVerified = true)) :
    (c.modifyRider riderId g).Lawful := by
  have before : ∀ i rider, (c.riders.modify riderId g).get i = some rider →
      ∃ d, c.riders.get i = some d ∧ rider.userId = d.userId := by
    intro i rider hget
    rcases Collection.get_modify_cases hget with ⟨_, d, hd, rfl⟩ | ⟨_, hd⟩
    · exact ⟨d, hd, (hg d).1⟩
    · exact ⟨rider, hd, rfl⟩
  refine ⟨?_, ?_⟩
  · intro i j rider rider' hi hj huser
    obtain ⟨d, hd, he⟩ := before i rider hi
    obtain ⟨d', hd', he'⟩ := before j rider' hj
    exact h.unique i j d d' hd hd' (he.symm.trans (huser.trans he'))
  · intro id o u hget hu
    exact (h.verified id o u hget hu).of_keeps (keepsRiders_modify hg)

/-- A new profile. -/
theorem createRider {rider : Rider} (h : c.Lawful)
    (hnew : ∀ id d, c.riders.get id = some d → d.userId ≠ rider.userId) :
    Lawful { c with riders := c.riders.create rider } := by
  refine ⟨?_, ?_⟩
  · intro i j d d' hi hj huser
    rcases Collection.get_create_cases hi with ⟨rfl, rfl⟩ | ⟨_, hold⟩
    · rcases Collection.get_create_cases hj with ⟨rfl, _⟩ | ⟨_, hold⟩
      · rfl
      · exact absurd huser.symm (hnew j d' hold)
    · rcases Collection.get_create_cases hj with ⟨rfl, rfl⟩ | ⟨_, hold'⟩
      · exact absurd huser (hnew i d hold)
      · exact h.unique i j d d' hold hold' huser
  · intro id o u hget hu
    exact (h.verified id o u hget hu).of_keeps (keepsRiders_create rider)

/-- A write to an order, whose rider is verified. -/
theorem modifyOrder {id : OrderId} {o' : Order} (h : c.Lawful)
    (ho : ∀ u, o'.riderId = some u → c.Verified u) : (c.modifyOrder id fun _ => o').Lawful := by
  refine ⟨h.unique, ?_⟩
  intro i d u hget hu
  rcases Collection.get_modify_cases hget with ⟨_, _, _, rfl⟩ | ⟨_, hd⟩
  · exact ho u hu
  · exact h.verified i d u hd hu

/-- A new order, which has no rider. -/
theorem createOrder {o : Order} (h : c.Lawful) (ho : o.riderId = none) :
    Lawful { c with orders := c.orders.create o } := by
  refine ⟨h.unique, ?_⟩
  intro i d u hget hu
  rcases Collection.get_create_cases hget with ⟨_, rfl⟩ | ⟨_, hd⟩
  · cases ho.symm.trans hu
  · exact h.verified i d u hd hu

end Fleet.Lawful

/-! ## One step -/

/-- A rider that a call may attach is verified. -/
def FleetPc.AttachesVerified (c : Fleet) (pc : FleetPc) : Prop :=
  ∀ u ∈ pc.attaching, c.Verified u

theorem FleetPc.AttachesVerified.of_keeps (h : pc.AttachesVerified c) (hk : c.KeepsRiders c') :
    pc.AttachesVerified c' := fun u hu => (h u hu).of_keeps hk

/-- **A step attaches only a verified rider, and goes on with verified ones.** -/
theorem FleetMove.lawful (hm : FleetMove c pc c' pc') (h : c.Lawful) (hsound : pc.Sound)
    (hv : pc.AttachesVerified c) : c'.Lawful ∧ pc'.AttachesVerified c' := by
  have none_attached : ∀ {c₁ : Fleet} {pc₁ : FleetPc}, pc₁.attaching = [] →
      pc₁.AttachesVerified c₁ := by
    intro c₁ pc₁ hnil u hu
    rw [hnil] at hu
    exact absurd hu List.not_mem_nil
  cases hm with
  | waited _ hverified _ => exact ⟨h, fun u hu => (hverified u hu).elim (hv u) id⟩
  | applied hnew => exact ⟨h.createRider hnew, none_attached rfl⟩
  | verified => exact ⟨h.modifyRider fun _ => ⟨rfl, fun _ => rfl⟩, none_attached rfl⟩
  | toggled => exact ⟨h.modifyRider fun _ => ⟨rfl, id⟩, none_attached rfl⟩
  | attached hget _ hu ho _ hpc =>
    refine ⟨h.modifyOrder fun u' hu' => ?_, none_attached hpc⟩
    obtain rfl := Option.some.inj (ho.symm.trans hu')
    exact hv _ hu
  | moved hget hstep =>
    obtain ⟨_, hrider, _⟩ := order_of_clientStep hsound.1 hsound.2 hstep
    refine ⟨h.modifyOrder fun u' hu' => ?_, none_attached rfl⟩
    exact h.verified _ _ u' hget (hrider.symm.trans hu')

/-- What happens beside the calls attaches nobody. -/
theorem envFleet_lawful {e : FleetEnvEvent} (h : c.Lawful) (he : envFleet c e = some c') :
    c'.Lawful ∧ c.KeepsRiders c' := by
  cases e with
  | place seller customer now currency provider deliveryFee total restaurantPayoutAmount =>
    cases he
    exact ⟨h.createOrder rfl, fun _ rider hget => ⟨rider, hget, rfl, id⟩⟩
  | locationUpdate userId point =>
    simp only [envFleet] at he
    split at he
    · cases he
      exact ⟨h, .refl c⟩
    · cases he
      exact ⟨h.modifyRider fun _ => ⟨rfl, id⟩, keepsRiders_modify fun _ => ⟨rfl, id⟩⟩

end Riders

/-! ## Every run -/

section Runs

variable {distanceMeters : GeoPoint → GeoPoint → ℚ}

/-- The collections are lawful, and every call attaches verified riders. -/
def verifiedOutline : Outline Fleet FleetPc where
  shared := Fleet.Lawful
  proc c pc := pc.Sound ∧ pc.AttachesVerified c
  compat _ _ := True
  symm _ _ _ := trivial

theorem verified_kept :
    verifiedOutline.Kept (fleet distanceMeters) (fun _ _ => True) fun _ => True where
  spawn s k _ _ _ := by
    refine ⟨⟨sound_start k, fun u hu => ?_⟩, fun _ _ => trivial⟩
    have hnil : ((fleet distanceMeters).start s.shared k).attaching = [] := attaching_start k
    rw [hnil] at hu
    exact absurd hu List.not_mem_nil
  run s i r pc c' pc' _ _ hs hp hstep := by
    have hm := fleet_move hstep
    have hkeeps := hm.keepsRiders
    have hpc := hs.at hp
    obtain ⟨hc, hpc'⟩ := hm.lawful hs.shared hpc.1 hpc.2
    exact ⟨hc, ⟨hm.sound hpc.1, hpc'⟩,
      fun j q _ _ hq _ => ⟨⟨hq.1, hq.2.of_keeps hkeeps⟩, trivial⟩⟩
  env s e c' _ _ hs he := by
    obtain ⟨hc, hkeeps⟩ := envFleet_lawful hs.shared he
    exact ⟨hc, fun q hq => ⟨(hs.procs q hq).1, (hs.procs q hq).2.of_keeps hkeeps⟩⟩

/-- **Only verified riders carry orders**: whatever applications, verifications, self-claims,
sweeps, assignments and reassignments by owners there are, and however their steps interleave,
the rider of an order has a profile, the only one of that user, and it is verified. -/
theorem riders_verified {s : FleetPool}
    (h : (fleet distanceMeters).Reach (fun _ _ => True) FleetPool.initial s)
    {id : OrderId} {o : Order} {u : UserId} (hget : s.shared.orders.get id = some o)
    (hu : o.riderId = some u) :
    ∃ riderId rider, s.shared.riders.get riderId = some rider ∧ rider.userId = u ∧
      rider.isVerified = true ∧ ∀ i rider', s.shared.riders.get i = some rider' →
        rider'.userId = u → i = riderId := by
  have hs := Outline.holds_of_reach verified_kept (fun _ _ => trivial)
    (Outline.holds_nil Fleet.Lawful.empty) h
  obtain ⟨riderId, rider, hrider, huser, hv⟩ := hs.shared.verified id o u hget hu
  exact ⟨riderId, rider, hrider, huser, hv, fun i rider' hi hi' =>
    hs.shared.unique i riderId rider' rider hi hrider (hi'.trans huser.symm)⟩

/-- Rider 7 takes the order. -/
def claimedRun : List FleetEvent :=
  onlineRider ++ readyOrder 0 3 ++ .spawn (.assign 7 0) :: fleetTurns 0 [7, 7]

theorem riders_verified_claimed : ∃ s : FleetPool,
    (fleet flatDistance).Reach (fun _ _ => True) FleetPool.initial s ∧
      (∃ o, s.shared.orders.get 0 = some o ∧ o.riderId = some 7) ∧
      ∃ riderId rider, s.shared.riders.get riderId = some rider ∧ rider.userId = 7 ∧
        rider.isVerified = true ∧ ∀ i rider', s.shared.riders.get i = some rider' →
          rider'.userId = 7 → i = riderId := by
  obtain ⟨s, hs, hp⟩ := exists_fleetRun (fun _ _ => true)
    (fun s => (s.shared.orders.get 0).any fun o : Order => decide (o.riderId = some 7)) claimedRun
    (by decide +kernel)
  rw [Option.any_eq_true] at hp
  obtain ⟨o, hget, hu⟩ := hp
  have hreach := hs.mono fun _ _ _ => trivial
  exact ⟨s, hreach, ⟨o, hget, of_decide_eq_true hu⟩,
    riders_verified hreach hget (of_decide_eq_true hu)⟩

end Runs

end FoodDelivery
