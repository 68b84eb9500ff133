import FoodDelivery.Riders.Moves

/-!
# Whom the sweep dispatches

`findNearbyRiderCandidates` leaves out the riders that are mid-delivery, and
`dispatchToNearestRider` then assigns the first one left.  The update's filter guards the
order, not the rider: what happens to the rider in between goes unseen.

* `dispatched_to_free_rider`: a rider whom nothing gives another order meanwhile is free of
  other deliveries when the order is assigned.
* `dispatched_twice`: a rider takes an order in between, and is given a second one.
-/

namespace FoodDelivery

open Store Interleave OrdersService FleetPc

/-- Nothing becomes the active delivery of a rider whom a sweep has picked for another order. -/
def LeavesPickedRiders (s : FleetPool) : FleetEvent → Bool
  | .run i r =>
    match s.procs[i]? with
    | none => true
    | some pc =>
      match pc.booking s.shared with
      | none => true
      | some (id, u) => r.fails ||
        s.procs.all fun q => q.dispatching.all fun picked => picked.1 = id || picked.2 ≠ u
  | _ => true

/-- The step of a sweep gives the order the rider it picked. -/
structure DispatchAssigns (s s' : FleetPool) (i : Nat) (id : OrderId) (u : UserId) : Prop where
  picked : ∃ rest, s.procs[i]? = some (.dispatchAssign id u rest)
  before : ∀ o, s.shared.orders.get id = some o → o.riderId = none
  after : ∃ o, s'.shared.orders.get id = some o ∧ o.riderId = some u

section Steps

variable {distanceMeters : GeoPoint → GeoPoint → ℚ} {c c' : Fleet} {pc pc' : FleetPc}
  {r : FleetReply} {s : FleetPool} {i : Nat} {id : OrderId} {u : UserId}

/-- A picked rider is booked for no other order. -/
theorem LeavesPickedRiders.same_order {q : FleetPc} {id' : OrderId}
    (h : LeavesPickedRiders s (.run i r) = true) (hp : s.procs[i]? = some pc)
    (hf : r.fails = false) (hb : pc.booking s.shared = some (id, u)) (hq : q ∈ s.procs)
    (hd : q.dispatching = some (id', u)) : id' = id := by
  rw [LeavesPickedRiders, hp] at h
  simp only [hb, hf, Bool.false_or, List.all_eq_true] at h
  have hall := h q hq
  rw [hd, Option.all_some, Bool.or_eq_true, decide_eq_true_eq, decide_eq_true_eq] at hall
  exact hall.resolve_right fun hne => hne rfl

/-- A call whose database fails writes nothing. -/
theorem fleetStep_fails (hf : r.fails = true)
    (h : fleetStep distanceMeters c pc r = some (c', pc')) : c' = c ∧ pc' = pc.onFailure := by
  rw [fleetStep, if_pos hf] at h
  obtain ⟨_, _, he⟩ := Option.map_eq_some_iff.mp h
  cases he
  exact ⟨rfl, rfl⟩

theorem Order.isActiveFor_eq_true {o : Order} :
    o.isActiveFor u = true ↔ o.riderId = some u ∧ o.status ∈ activeDeliveryStatuses := by
  rw [Order.isActiveFor, Bool.and_eq_true, decide_eq_true_eq, decide_eq_true_eq]

/-- **A step that books the rider for no other order leaves the rider free of other orders.** -/
theorem FleetMove.free (hm : FleetMove c pc c' pc') (hsound : pc.Sound) (h : c.Free id u)
    (hb : ∀ booked, pc.booking c = some (booked, u) → booked = id) : c'.Free id u := by
  cases hm with
  | waited _ _ _ => exact h
  | applied _ => exact h
  | verified => exact h
  | toggled => exact h
  | attached hget hbooking hu ho _ _ =>
    intro id' d hne hd
    rcases Collection.get_modify_cases hd with ⟨rfl, _, _, rfl⟩ | ⟨_, hold⟩
    · by_contra hactive
      rw [Bool.not_eq_false] at hactive
      obtain ⟨hrider, _⟩ := Order.isActiveFor_eq_true.mp hactive
      obtain rfl := Option.some.inj (ho.symm.trans hrider)
      exact hne (hb _ hbooking)
    · exact h id' d hne hold
  | @moved booked o o' q q' _ hget hstep =>
    intro id' d hne hd
    rcases Collection.get_modify_cases hd with ⟨rfl, _, _, rfl⟩ | ⟨_, hold⟩
    · by_contra hactive
      rw [Bool.not_eq_false] at hactive
      obtain ⟨hrider, hstatus⟩ := Order.isActiveFor_eq_true.mp hactive
      obtain ⟨_, hsame, hactivated⟩ := order_of_clientStep hsound.1 hsound.2 hstep
      have hrider' : o.riderId = some u := hsame.symm.trans hrider
      have hidle : o.status ∉ activeDeliveryStatuses := by
        intro hs
        have hfree := h booked o hne hget
        rw [Order.isActiveFor_eq_true.mpr ⟨hrider', hs⟩] at hfree
        cases hfree
      rcases hactivated hstatus with hs | ⟨v, t, rfl, ht⟩
      · exact hidle hs
      · refine hne (hb booked ?_)
        simp only [booking, hget, hrider', if_pos (And.intro ht hidle)]
        rfl
    · exact h id' d hne hold

/-- What a call goes on with is a rider free of other orders. -/
theorem FleetMove.picks_free (hm : FleetMove c pc c' pc')
    (hd : pc'.dispatching = some (id, u)) : c'.Free id u := by
  cases hm with
  | waited _ _ hfree => exact hfree id u hd
  | applied _ => cases hd
  | verified => cases hd
  | toggled => cases hd
  | attached _ _ _ _ _ hpc =>
    rw [dispatching_eq_none hpc] at hd
    cases hd
  | moved _ _ => cases hd

/-- What happens beside the calls books nobody. -/
theorem envFleet_free {e : FleetEnvEvent} (h : c.Free id u) (he : envFleet c e = some c') :
    c'.Free id u := by
  cases e with
  | place seller customer now currency provider deliveryFee total restaurantPayoutAmount =>
    cases he
    intro id' d hne hd
    rcases Collection.get_create_cases hd with ⟨_, rfl⟩ | ⟨_, hold⟩
    · rfl
    · exact h id' d hne hold
  | locationUpdate userId point =>
    simp only [envFleet] at he
    split at he <;> cases he <;> exact h

end Steps

section Runs

variable {distanceMeters : GeoPoint → GeoPoint → ℚ}

/-- The riders that sweeps have picked are free of other orders. -/
def dispatchOutline : Outline Fleet FleetPc where
  shared _ := True
  proc c pc := pc.Sound ∧ ∀ id u, pc.dispatching = some (id, u) → c.Free id u
  compat _ _ := True
  symm _ _ _ := trivial

theorem dispatch_kept :
    dispatchOutline.Kept (fleet distanceMeters) (fun s e => LeavesPickedRiders s e = true)
      fun _ => True where
  spawn s k _ _ _ := by
    refine ⟨⟨sound_start k, fun id u hd => ?_⟩, fun _ _ => trivial⟩
    have hnone : ((fleet distanceMeters).start s.shared k).dispatching = none :=
      dispatching_eq_none (attaching_start k)
    cases hnone.symm.trans hd
  run s i r pc c' pc' _ hok hs hp hstep := by
    have hm := fleet_move hstep
    obtain ⟨hsound, _⟩ := hs.at hp
    refine ⟨trivial, ⟨hm.sound hsound, fun id u hd => hm.picks_free hd⟩,
      fun j q _ hj hq _ => ⟨⟨hq.1, fun id u hd => ?_⟩, trivial⟩⟩
    have hfree := hq.2 id u hd
    cases hf : r.fails with
    | true =>
      obtain ⟨rfl, _⟩ := fleetStep_fails hf hstep
      exact hfree
    | false =>
      refine hm.free hsound hfree fun booked hb => ?_
      exact (LeavesPickedRiders.same_order hok hp hf hb (List.mem_of_getElem? hj) hd).symm
  env s e c' _ _ hs he := by
    exact ⟨trivial, fun q hq => ⟨(hs.procs q hq).1, fun id u hd =>
      envFleet_free ((hs.procs q hq).2 id u hd) he⟩⟩

/-- **Auto-dispatch assigns to a rider who is free of other deliveries**, when nothing becomes
the active delivery of a rider between a sweep's query and its assignment of another order to
that rider: for any number of sweeps and other calls, and any interleaving of their steps. -/
theorem dispatched_to_free_rider {s s' : FleetPool} {i : Nat} {r : FleetReply} {id id' : OrderId}
    {u : UserId} {d : Order}
    (h : (fleet distanceMeters).Reach (fun s e => LeavesPickedRiders s e = true)
      FleetPool.initial s)
    (hnext : (fleet distanceMeters).next s (.run i r) = some s')
    (hassigns : DispatchAssigns s s' i id u) (hne : id' ≠ id)
    (hget : s'.shared.orders.get id' = some d) : d.isActiveFor u = false := by
  have hs := Outline.holds_of_reach dispatch_kept (fun _ _ => trivial)
    (Outline.holds_nil (O := dispatchOutline) trivial) h
  obtain ⟨rest, hp⟩ := hassigns.picked
  obtain ⟨pc, c', pc', hp', hstep, rfl⟩ := Machine.next_run hnext
  cases hp.symm.trans hp'
  have hfree := (hs.at hp).2 id u rfl
  refine (fleet_move hstep).free trivial hfree (fun booked hb => ?_) id' d hne hget
  simp only [booking] at hb
  split at hb
  · cases hb
    rfl
  · cases hb

/-- The sweep picks rider 7 for order 0, which is ready for long. -/
def pickedRun (n : Nat) : List FleetEvent :=
  .spawn .autoDispatchStaleReadyOrders :: fleetTurns riderAssignmentGracePeriodMs [n, n, n, n]

/-- Call `n` is a sweep that gives order 0 to rider 7, who has what `other` says of order 1. -/
def dispatchesSeven (n : Nat) (rest : List OrderId) (other : Option Order → Bool)
    (s : FleetPool) : Bool :=
  decide (s.procs[n]? = some (.dispatchAssign 0 7 rest)) &&
    (s.shared.orders.get 0).all (fun o : Order => decide (o.riderId = none)) &&
    ((fleet flatDistance).next s (.run n (fleetReply 0))).any fun s' : FleetPool =>
      ((s'.shared.orders.get 0).any fun o : Order => decide (o.riderId = some 7)) &&
        other (s'.shared.orders.get 1)

theorem dispatchAssigns_of_dispatchesSeven {n : Nat} {rest : List OrderId}
    {other : Option Order → Bool} {s : FleetPool} (h : dispatchesSeven n rest other s = true) :
    ∃ s', (fleet flatDistance).next s (.run n (fleetReply 0)) = some s' ∧
      DispatchAssigns s s' n 0 7 ∧ other (s'.shared.orders.get 1) = true := by
  rw [dispatchesSeven, Bool.and_eq_true, Bool.and_eq_true, decide_eq_true_eq,
    Option.any_eq_true] at h
  obtain ⟨⟨hp, hbefore⟩, s', hnext, hafter⟩ := h
  rw [Bool.and_eq_true, Option.any_eq_true] at hafter
  obtain ⟨⟨o, hget, ho⟩, hother⟩ := hafter
  refine ⟨s', hnext, ⟨⟨rest, hp⟩, fun d hd => ?_, o, hget, of_decide_eq_true ho⟩, hother⟩
  rw [hd] at hbefore
  exact of_decide_eq_true hbefore

theorem dispatched_to_free_rider_seven : ∃ s s' : FleetPool,
    (fleet flatDistance).Reach (fun s e => LeavesPickedRiders s e = true) FleetPool.initial s ∧
      (fleet flatDistance).next s (.run 11 (fleetReply 0)) = some s' ∧
      DispatchAssigns s s' 11 0 7 ∧
      ∃ d, s'.shared.orders.get 1 = some d ∧ d.isActiveFor 7 = false := by
  obtain ⟨s, hs, hp⟩ := exists_fleetRun LeavesPickedRiders (dispatchesSeven 11 [1] Option.isSome)
    (onlineRider ++ readyOrder 0 3 ++ readyOrder 1 7 ++ pickedRun 11) (by decide +kernel)
  obtain ⟨s', hnext, hassigns, hother⟩ := dispatchAssigns_of_dispatchesSeven hp
  obtain ⟨d, hd⟩ := Option.isSome_iff_exists.mp hother
  exact ⟨s, s', hs, hnext, hassigns, d, hd,
    dispatched_to_free_rider hs hnext hassigns (by decide) hd⟩

/-- Rider 7 takes order 1 between the query and the assignment of order 0. -/
def takenMeanwhileRun : List FleetEvent :=
  onlineRider ++ readyOrder 0 3 ++ readyOrder 1 7 ++ pickedRun 11 ++
    .spawn (.assign 7 1) :: fleetTurns 0 [12, 12]

/-- **The sweep gives a second order to a rider who has just taken one.** -/
theorem dispatched_twice :
    ¬ ∀ (distanceMeters : GeoPoint → GeoPoint → ℚ) (s s' : FleetPool) (i : Nat) (r : FleetReply)
      (id id' : OrderId) (u : UserId) (d : Order),
      (fleet distanceMeters).Reach (fun _ _ => True) FleetPool.initial s →
        (fleet distanceMeters).next s (.run i r) = some s' → DispatchAssigns s s' i id u →
          id' ≠ id → s'.shared.orders.get id' = some d → d.isActiveFor u = false := by
  intro hall
  obtain ⟨s, hs, hp⟩ := exists_fleetRun (fun _ _ => true)
    (dispatchesSeven 11 [1] fun d => d.any fun o : Order => o.isActiveFor 7) takenMeanwhileRun
    (by decide +kernel)
  obtain ⟨s', hnext, hassigns, hother⟩ := dispatchAssigns_of_dispatchesSeven hp
  rw [Option.any_eq_true] at hother
  obtain ⟨d, hd, hactive⟩ := hother
  have hfree := hall flatDistance s s' 11 (fleetReply 0) 0 1 7 d
    (hs.mono fun _ _ _ => trivial) hnext hassigns (by decide) hd
  rw [hactive] at hfree
  cases hfree

end Runs

end FoodDelivery
