import FoodDelivery.Payouts.Faults
import FoodDelivery.Payouts.Holding

/-!
# Stranded earnings

After a run of `executePayout` every order of its group should be unclaimed, so that
the next batch collects it, or claimed by a payout that was made or that an admin can
resolve.

* `World.Settled`: the order is neither stranded nor in the hands of an open payout.
* `Harmless`: the steps that strand no order although their call throws.
* `no_order_stranded_iff`: a run strands no order if and only if all its steps are
  harmless.
* `stranded_before_transfer`: a payout that cannot be saved as processing.
-/

namespace FoodDelivery

open Store Interleave

/-- The order is unclaimed, or claimed by a payout that was made or is flagged. -/
def World.Settled (w : World) (f : ClaimField) (o : OrderId) : Prop :=
  ∀ id, w.claimOf f o = some id → ∃ d, w.payouts.get id = some d ∧
    (d.status = .succeeded ∨ d.reconciliationRequired = true)

/-- Other calls strand no order of the group. -/
def StrandsNone (a : Attempt) (w w' : World) : Prop :=
  ∀ o ∈ a.group.orderIds, w.Settled a.claimField o → w'.Settled a.claimField o

/-- A step that strands no order: its call comes back, or it throws where that does no
harm.  The claiming `updateMany` may throw as long as it has claimed nothing, the
releasing one once nothing is claimed any more.  The `save()` of a payout that needs no
transfer or whose transfer is ambiguous may throw when it has written, that of a failed
payout when it has not and the payout is stored as made. -/
def Harmless (a : Attempt) : Taken World ExecPc Reply → Prop
  | ⟨w, .claim id _ rest _, .db (.threw written _)⟩ =>
    ∀ o ∈ a.group.orderIds, w.claimOf a.claimField o ≠ some id ∧
      ¬ (written = true ∧ rest.head? = some o ∧ w.unclaimed a.claimField o = true)
  | ⟨w, .raceRelease id _ rest, .db (.threw written _)⟩ =>
    ∀ o ∈ a.group.orderIds, w.claimOf a.claimField o = some id →
      written = true ∧ rest.head? = some o
  | ⟨w, .release id _ rest, .db (.threw written _)⟩ =>
    ∀ o ∈ a.group.orderIds, w.claimOf a.claimField o = some id →
      written = true ∧ rest.head? = some o
  | ⟨_, .zeroSave _ _, .db (.threw written _)⟩ => written = true
  | ⟨_, .processingSave _ _, .db (.threw _ _)⟩ => False
  | ⟨_, .flagSave _ _, .db (.threw written _)⟩ => written = true
  | ⟨w, .failSave id _, .db (.threw written _)⟩ => written = false ∧ w.Stored id .succeeded
  | _ => True

section Settled

variable {a : Attempt} {w w' : World} {e e' : ExecPc} {r : Reply} {id : PayoutId} {o : OrderId}
  {f : ClaimField}

/-- The orders of the group that are not settled are claimed by the payout. -/
def OwnOrSettled (a : Attempt) (w : World) (id : PayoutId) : Prop :=
  ∀ o ∈ a.group.orderIds, w.claimOf a.claimField o = some id ∨ w.Settled a.claimField o

/-- Every order of the group is settled. -/
def AllSettled (a : Attempt) (w : World) : Prop :=
  ∀ o ∈ a.group.orderIds, w.Settled a.claimField o

theorem settled_of_claimOf (h : w.claimOf f o = some id) {d : Payout}
    (hd : w.payouts.get id = some d)
    (hok : d.status = .succeeded ∨ d.reconciliationRequired = true) : w.Settled f o := by
  intro id' hid'
  obtain rfl := Option.some.inj (h.symm.trans hid')
  exact ⟨d, hd, hok⟩

theorem not_settled {st : PayoutStatus} (h : w.claimOf f o = some id) (hd : w.Stored id st)
    (hst : st ≠ .succeeded) : ¬ w.Settled f o := by
  intro hs
  obtain ⟨d, hd, hstatus, hflag⟩ := hd
  obtain ⟨d', hd', hok⟩ := hs id h
  obtain rfl := Option.some.inj (hd.symm.trans hd')
  rcases hok with hok | hok
  · exact hst (hstatus.symm.trans hok)
  · cases hflag.symm.trans hok

/-- An order settled before a step on one payout is settled after it, unless that
payout has claimed it. -/
theorem World.Settled.touches (h : w.Settled f o) (ht : Touches id w w') :
    w'.claimOf f o = some id ∨ w'.Settled f o := by
  by_cases hc : w'.claimOf f o = some id
  · exact Or.inl hc
  · refine Or.inr fun id' hid' => ?_
    have hne : id' ≠ id := fun he => hc (he ▸ hid')
    obtain ⟨d, hd, hok⟩ := h id' ((ht.claims f o id' hne).mp hid')
    exact ⟨d, (ht.payouts id' hne).trans hd, hok⟩

theorem OwnOrSettled.touches (h : OwnOrSettled a w id) (ht : Touches id w w')
    (hc : ∀ o, w.claimOf a.claimField o = some id → w'.claimOf a.claimField o = some id ∨
      w'.claimOf a.claimField o = none) : OwnOrSettled a w' id := by
  intro o ho
  rcases h o ho with hown | hs
  · rcases hc o hown with hown | hnone
    · exact Or.inl hown
    · exact Or.inr fun id' hid' => by cases hnone.symm.trans hid'
  · exact hs.touches ht

/-- Nothing is claimed any more. -/
theorem OwnOrSettled.allSettled (h : OwnOrSettled a w id) (hc : w.ClaimsAmong a id []) :
    AllSettled a w := fun o ho =>
  (h o ho).resolve_left fun hown => absurd (hc o ho hown) List.not_mem_nil

/-- The payout was made or is flagged. -/
theorem OwnOrSettled.allSettled_of_ok (h : OwnOrSettled a w id) {d : Payout}
    (hd : w.payouts.get id = some d)
    (hok : d.status = .succeeded ∨ d.reconciliationRequired = true) : AllSettled a w := fun o ho =>
  (h o ho).elim (fun hown => settled_of_claimOf hown hd hok) fun hs => hs

theorem OwnOrSettled.allSettled_of_stored (h : OwnOrSettled a w id) (hd : w.Stored id .succeeded) :
    AllSettled a w :=
  hd.elim fun _ hd => h.allSettled_of_ok hd.1 (Or.inl hd.2.1)

theorem AllSettled.created (h : AllSettled a w) {p : Payout} : AllSettled a (w.createPayout p) := by
  intro o ho id hid
  obtain ⟨d, hd, hok⟩ := h o ho id hid
  exact ⟨d, Collection.get_create_of_get hd, hok⟩

/-- The orders of the group at a point of a run that has stranded none. -/
def NoneStranded (a : Attempt) (w : World) (e : ExecPc) : Prop :=
  (∀ id, e.payoutId = some id → OwnOrSettled a w id) ∧ (e.payoutId = none → AllSettled a w)

/-- The run is over and has stranded an order. -/
def OneStranded (a : Attempt) (w : World) (e : ExecPc) : Prop :=
  e = .threw ∧ ¬ AllSettled a w

theorem own_move (hm : ExecMove a w e r w' e') (hid : e.payoutId = some id)
    (h : OwnOrSettled a w id) : OwnOrSettled a w' id := by
  obtain ⟨id', ht, hid'⟩ := exec_touches hm
  have : id' = id := by
    rw [ExecPc.payoutId, Option.map_eq_some_iff] at hid
    obtain ⟨st, hst, rfl⟩ := hid
    rcases hid' with ⟨hnone, _⟩ | ⟨st', hst', rfl⟩
    · cases hnone.symm.trans hst
    · exact congrArg Stage.id (Option.some.inj (hst'.symm.trans hst))
  subst this
  refine h.touches ht fun o hc => ?_
  cases hm with
  | claimed id p o rest n =>
    rw [World.claimOf_claimOrder]
    split
    · cases hid
      exact Or.inl rfl
    · exact Or.inl hc
  | raceReleased id p o rest =>
    rw [World.claimOf_releaseOrder]
    split
    · exact Or.inr rfl
    · exact Or.inl hc
  | released id p o rest =>
    rw [World.claimOf_releaseOrder]
    split
    · exact Or.inr rfl
    · exact Or.inl hc
  | transferred => exact Or.inl (((spares_send (f := a.claimField)).claims o).mpr hc)
  | unknown => exact Or.inl (((spares_send (f := a.claimField)).claims o).mpr hc)
  | failed => exact Or.inl (((spares_send (f := a.claimField)).claims o).mpr hc)
  | _ => exact Or.inl hc

theorem noneStranded_consume {guarded : Bool} {p : Payout} {rest : List Consumption}
    (h : OwnOrSettled a w id) (hst : w.Stored id .succeeded) :
    NoneStranded a w (.consume guarded id p rest) := by
  cases rest with
  | nil => exact ⟨by rintro _ ⟨⟩, fun _ => h.allSettled_of_stored hst⟩
  | cons x rest =>
    refine ⟨fun id' hid' => ?_, by rintro ⟨⟩⟩
    cases hid'
    exact h

theorem harmless_of_move (hm : ExecMove a w e r w' e') : Harmless a ⟨w, e, r⟩ := by
  cases hm <;> trivial

/-- A step whose call comes back strands nothing. -/
theorem noneStranded_move (hm : ExecMove a w e r w' e') (hst : Stands a w e)
    (h : NoneStranded a w e) : NoneStranded a w' e' := by
  have own : ∀ id, e.payoutId = some id → OwnOrSettled a w' id := fun id hid =>
    own_move hm hid (h.1 id hid)
  cases hm with
  | created hv =>
    refine ⟨fun id hid o ho => ?_, by rintro ⟨⟩⟩
    exact Or.inr ((h.2 rfl).created o ho)
  | invalid hv => exact ⟨by rintro _ ⟨⟩, fun _ => h.2 rfl⟩
  | raceSaved id p => exact ⟨by rintro _ ⟨⟩, fun _ => (own id rfl).allSettled hst.2.2⟩
  | zeroSaved id p => exact noneStranded_consume (own id rfl) (stored_save hst.1 hst.2.1)
  | successSaved id p => exact noneStranded_consume (own id rfl) (stored_save hst.1 hst.2.1)
  | entryGone guarded id p x rest hc => exact noneStranded_consume (own id rfl) hst.1
  | entrySaved guarded id p x c rest => exact noneStranded_consume (own id rfl) hst.1
  | flagSaved id p =>
    obtain ⟨d, hd, _⟩ := hst.1
    refine ⟨by rintro _ ⟨⟩, fun _ => (own id rfl).allSettled_of_ok (d := p) ?_ (Or.inr hst.2.1.2)⟩
    rw [World.modifyPayout, Collection.get_modify_self, hd, Option.map_some]
  | releasedAll id p => exact ⟨by rintro _ ⟨⟩, fun _ => (own id rfl).allSettled hst.2.2⟩
  | _ =>
    refine ⟨fun id' hid' => ?_, fun h => by cases h⟩
    cases hid'
    exact own _ rfl

/-- **A call that throws where that is harmless strands nothing.** -/
theorem noneStranded_thrown {w₁ : World} {next : ExecPc} {written : Bool} {m : String}
    (hm : ExecMove a w e (.db .ok) w₁ next) (hst : Stands a w e) (h : NoneStranded a w e)
    (hok : Harmless a ⟨w, e, .db (.threw written m)⟩) :
    NoneStranded a (if written then w₁ else w) (e.thrown m) := by
  have own : ∀ id, e.payoutId = some id → OwnOrSettled a (if written then w₁ else w) id := by
    intro id hid
    cases written with
    | true => exact own_move hm hid (h.1 id hid)
    | false => exact h.1 id hid
  have stays : ∀ id, e.payoutId = some id → (if written then w₁ else w).ClaimsAmong a id [] →
      NoneStranded a (if written then w₁ else w) .threw := fun id hid hc =>
    ⟨by rintro _ ⟨⟩, fun _ => (own id hid).allSettled hc⟩
  have caught : ∀ {guarded : Bool} {id : PayoutId} {p : Payout}, e.payoutId = some id →
      (if written then w₁ else w).Stored id .succeeded →
      NoneStranded a (if written then w₁ else w) (.caught guarded id p m) := by
    intro guarded id p hid hstored
    cases guarded with
    | false => exact ⟨by rintro _ ⟨⟩, fun _ => (own id hid).allSettled_of_stored hstored⟩
    | true =>
      refine ⟨fun id' hid' => ?_, by rintro ⟨⟩⟩
      cases hid'
      exact own id hid
  have noneClaimed : ∀ {id : PayoutId} {P : OrderId → Prop},
      (∀ o' ∈ a.group.orderIds, w.claimOf a.claimField o' ≠ some id ∧ P o') →
      (if written then w else w).ClaimsAmong a id [] := by
    intro id P hok o' ho' hc
    rw [ite_self] at hc
    exact absurd hc (hok o' ho').1
  -- what the releasing `updateMany` leaves when it throws at its last claimed order
  have release : ∀ {id : PayoutId} {o : OrderId}, (∀ o' ∈ a.group.orderIds,
      w.claimOf a.claimField o' = some id → written = true ∧ some o = some o') →
      (if written then w.releaseOrder a.claimField o id else w).ClaimsAmong a id [] := by
    intro id o hok o' ho' hc
    cases written with
    | false => exact absurd (hok o' ho' hc).1 (by decide)
    | true =>
      rw [if_pos rfl, World.claimOf_releaseOrder] at hc
      split at hc
      · cases hc
      · rename_i hne
        obtain rfl := Option.some.inj (hok o' ho' hc).2
        exact absurd ⟨hc, rfl, rfl⟩ hne
  cases hm with
  | created hv =>
    refine ⟨by rintro _ ⟨⟩, fun _ => ?_⟩
    cases written with
    | true => exact (h.2 rfl).created
    | false => exact h.2 rfl
  | invalid hv => exact ⟨by rintro _ ⟨⟩, fun _ => by rw [ite_self]; exact h.2 rfl⟩
  | claimed id p o rest n =>
    refine stays id rfl fun o' ho' hc => ?_
    obtain ⟨hfree, hvisit⟩ := hok o' ho'
    cases written with
    | false => exact absurd hc hfree
    | true =>
      rw [if_pos rfl, World.claimOf_claimOrder] at hc
      split at hc
      · rename_i hun
        exact absurd ⟨rfl, congrArg some hun.2.2.symm, hun.2.2 ▸ hun.1⟩ hvisit
      · exact absurd hc hfree
  | raced id p n hn => exact stays id rfl (noneClaimed hok)
  | absorbed id p hz => exact stays id rfl (noneClaimed hok)
  | claimedAll id p hz => exact stays id rfl (noneClaimed hok)
  | raceReleased id p o rest => exact stays id rfl (release hok)
  | raceReleasedAll id p => exact stays id rfl (by rw [ite_self]; exact hst.2.2)
  | raceSaved id p =>
    refine stays id rfl fun o' ho' hc => hst.2.2 o' ho' ?_
    cases written <;> exact hc
  | zeroSaved id p =>
    obtain rfl : written = true := hok
    exact ⟨by rintro _ ⟨⟩, fun _ => (own id rfl).allSettled_of_stored (stored_save hst.1 hst.2.1)⟩
  | processingSaved id p => exact hok.elim
  | successSaved id p =>
    refine ⟨fun id' hid' => ?_, by rintro ⟨⟩⟩
    cases hid'
    exact own id rfl
  | entryGone guarded id p x rest hc => exact caught rfl (by rw [ite_self]; exact hst.1)
  | entryFound guarded id p x c rest hc => exact caught rfl (by rw [ite_self]; exact hst.1)
  | entrySaved guarded id p x c rest => exact caught rfl (by cases written <;> exact hst.1)
  | flagSaved id p =>
    obtain rfl : written = true := hok
    obtain ⟨d, hd, _⟩ := hst.1
    refine ⟨by rintro _ ⟨⟩, fun _ => (own id rfl).allSettled_of_ok (d := p) ?_ (Or.inr hst.2.1.2)⟩
    rw [if_pos rfl, World.modifyPayout, Collection.get_modify_self, hd, Option.map_some]
  | failSaved id p =>
    obtain ⟨rfl, hstored⟩ := hok
    exact ⟨by rintro _ ⟨⟩, fun _ => (own id rfl).allSettled_of_stored hstored⟩
  | released id p o rest => exact stays id rfl (release hok)
  | releasedAll id p => exact stays id rfl (by rw [ite_self]; exact hst.2.2)

/-- **A call that throws where that is harmful strands an order.** -/
theorem oneStranded_thrown {w₁ : World} {next : ExecPc} {written : Bool} {m : String}
    (hne : a.group.orderIds ≠ []) (hm : ExecMove a w e (.db .ok) w₁ next) (hst : Stands a w e)
    (hbad : ¬ Harmless a ⟨w, e, .db (.threw written m)⟩) :
    OneStranded a (if written then w₁ else w) (e.thrown m) := by
  obtain ⟨first, hfirst⟩ := List.exists_mem_of_ne_nil _ hne
  have stranded : ∀ (st : PayoutStatus) {id : PayoutId} {o : OrderId}, o ∈ a.group.orderIds →
      (if written then w₁ else w).claimOf a.claimField o = some id →
      (if written then w₁ else w).Stored id st → st ≠ .succeeded →
      OneStranded a (if written then w₁ else w) .threw := fun _ _ _ ho hc hd hs =>
    ⟨rfl, fun hall => not_settled hc hd hs (hall _ ho)⟩
  have claiming : ∀ {id : PayoutId} {rest : List OrderId}, (¬ ∀ o ∈ a.group.orderIds,
      w.claimOf a.claimField o ≠ some id ∧ ¬ (written = true ∧ rest.head? = some o ∧
        w.unclaimed a.claimField o = true)) →
      ∃ o ∈ a.group.orderIds, w.claimOf a.claimField o = some id ∨
        (written = true ∧ rest.head? = some o ∧ w.unclaimed a.claimField o = true) := by
    intro id rest hbad
    by_contra hno
    exact hbad fun o ho => ⟨fun hc => hno ⟨o, ho, Or.inl hc⟩, fun hv => hno ⟨o, ho, Or.inr hv⟩⟩
  have releasing : ∀ {id : PayoutId} {o : OrderId}, (¬ ∀ o' ∈ a.group.orderIds,
      w.claimOf a.claimField o' = some id → written = true ∧ some o = some o') →
      ∃ o' ∈ a.group.orderIds, (if written then w.releaseOrder a.claimField o id else w).claimOf
        a.claimField o' = some id := by
    intro id o hbad
    by_contra hno
    refine hbad fun o' ho' hc => ?_
    cases written with
    | false => exact absurd ⟨o', ho', hc⟩ hno
    | true =>
      refine ⟨rfl, ?_⟩
      by_contra hne
      refine hno ⟨o', ho', ?_⟩
      rw [if_pos rfl, World.claimOf_releaseOrder, if_neg fun h => hne (congrArg some h.2.2.symm)]
      exact hc
  cases hm with
  | claimed id p o rest n =>
    obtain ⟨o', ho', hc⟩ := claiming hbad
    refine stranded .pending ho' ?_ (by cases written <;> exact hst.1) (by decide)
    rcases hc with hc | ⟨rfl, hhead, hun⟩
    · cases written with
      | false => exact hc
      | true =>
        rw [if_pos rfl, World.claimOf_claimOrder]
        split
        · rfl
        · exact hc
    · rw [if_pos rfl, World.claimOf_claimOrder]
      obtain rfl := Option.some.inj hhead
      rw [if_pos ⟨hun, rfl, rfl⟩]
  | raced id p n hn =>
    obtain ⟨o', ho', hc | ⟨_, hhead, _⟩⟩ := claiming hbad
    · exact stranded .pending ho' (by rwa [ite_self]) (by rw [ite_self]; exact hst.1) (by decide)
    · cases hhead
  | absorbed id p hz =>
    obtain ⟨o', ho', hc | ⟨_, hhead, _⟩⟩ := claiming hbad
    · exact stranded .pending ho' (by rwa [ite_self]) (by rw [ite_self]; exact hst.1) (by decide)
    · cases hhead
  | claimedAll id p hz =>
    obtain ⟨o', ho', hc | ⟨_, hhead, _⟩⟩ := claiming hbad
    · exact stranded .pending ho' (by rwa [ite_self]) (by rw [ite_self]; exact hst.1) (by decide)
    · cases hhead
  | raceReleased id p o rest =>
    obtain ⟨o', ho', hc⟩ := releasing hbad
    exact stranded .pending ho' hc (by cases written <;> exact hst.1) (by decide)
  | raceReleasedAll id p =>
    exact absurd (fun o' ho' hc => absurd (hst.2.2 o' ho' hc) List.not_mem_nil) hbad
  | zeroSaved id p =>
    obtain rfl := Bool.not_eq_true _ ▸ hbad
    exact stranded _ hfirst (hst.2.2 first hfirst) hst.1 (by decide)
  | processingSaved id p =>
    cases written with
    | false => exact stranded _ hfirst (hst.2.2 first hfirst) hst.1 (by decide)
    | true => exact stranded _ hfirst (hst.2.2 first hfirst) (stored_save hst.1 hst.2.1) (by decide)
  | flagSaved id p =>
    obtain rfl := Bool.not_eq_true _ ▸ hbad
    exact stranded _ hfirst (hst.2.2 first hfirst) hst.1 (by decide)
  | failSaved id p =>
    cases written with
    | true =>
      exact stranded _ hfirst (hst.2.2 first hfirst)
        (hst.1.elim (stored_save · hst.2.1) (stored_save · hst.2.1)) (by decide)
    | false =>
      have hprocessing := hst.1.resolve_right fun hs => hbad ⟨rfl, hs⟩
      exact stranded _ hfirst (hst.2.2 first hfirst) hprocessing (by decide)
  | released id p o rest =>
    obtain ⟨o', ho', hc⟩ := releasing hbad
    exact stranded .failed ho' hc (by cases written <;> exact hst.1) (by decide)
  | releasedAll id p =>
    exact absurd (fun o' ho' hc => absurd (hst.2.2 o' ho' hc) List.not_mem_nil) hbad
  | _ => exact absurd trivial hbad

/-- What other calls do strands none either, and frees none. -/
theorem noneStranded_spares (h : NoneStranded a w e) (hid : e.payoutId = some id)
    (hs : w.Spares w' a.claimField id) (ho : StrandsNone a w w') : NoneStranded a w' e := by
  refine ⟨fun id' hid' o hmem => ?_, fun hnone => by cases hnone.symm.trans hid⟩
  obtain rfl := Option.some.inj (hid.symm.trans hid')
  exact (h.1 id hid o hmem).imp (fun hc => (hs.claims o).mpr hc) (ho o hmem)


/-- **No order of the group is stranded if and only if every step is harmless**: for
every group handed to `attemptGroup`, with any replies, when no order of it was stranded
before and no other call strands one. -/
theorem no_order_stranded_iff {vendorType : PayoutVendorType} {vendorId : VendorId}
    {payoutAccounts : List PayoutAccount} {group : UnpaidEarningsGroup} {f : ClaimField}
    (ha : attemptFor vendorType vendorId payoutAccounts group f = some a)
    (hfree : ∀ o ∈ group.orderIds, w.Settled f o) {tr : List (Taken World ExecPc Reply)}
    (h : ExecRun a (StrandsNone a) w .create tr w' e) (hend : e.ended = true) :
    (∀ o ∈ group.orderIds, w'.Settled f o) ↔ ∀ x ∈ tr, Harmless a x := by
  obtain ⟨rfl, _, rfl⟩ := attemptFor_eq_some ha
  have hne : a.group.orderIds ≠ [] := by
    intro hnil
    rw [attemptFor, if_pos hnil] at ha
    cases ha
  have h₀ : Stands a w .create ∧ NoneStranded a w .create :=
    ⟨trivial, by rintro _ ⟨⟩, fun _ => hfree⟩
  have hcases := h.intact_or_broken (I := fun w e => Stands a w e ∧ NoneStranded a w e)
    (B := OneStranded a) (S := Harmless a) h₀ ?_ ?_ ?_ ?_
  · have hnone : e.payoutId = none := by
      cases e <;> first | rfl | cases hend
    rcases hcases with ⟨⟨_, hI⟩, hall⟩ | ⟨hB, x, hx, hbad⟩
    · exact ⟨fun _ => hall, fun _ => hI.2 hnone⟩
    · exact ⟨fun hs => absurd hs hB.2, fun hall => absurd (hall x hx) hbad⟩
  · rintro w e r w' e' ⟨hst, hI⟩ hs hok
    refine ⟨stands_step hst hs, ?_⟩
    rcases exec_cases hs with hm | ⟨written, m, w₁, next, rfl, hm, rfl, rfl⟩
    · exact noneStranded_move hm hst hI
    · exact noneStranded_thrown hm hst hI hok
  · rintro w e r w' e' ⟨hst, hI⟩ hs hbad
    rcases exec_cases hs with hm | ⟨written, m, w₁, next, rfl, hm, rfl, rfl⟩
    · exact absurd (harmless_of_move hm) hbad
    · exact oneStranded_thrown hne hm hst hbad
  · rintro w e r w' e' ⟨rfl, _⟩ hs
    cases r <;> cases hs
  · rintro w e w' ⟨⟨id, hid, hs⟩, ho⟩
    constructor
    · rintro ⟨hst, hI⟩
      exact ⟨hst.spares hid hs, noneStranded_spares hI hid hs ho⟩
    · rintro ⟨rfl, _⟩
      cases hid

/-- The orders a batch reads are free. -/
theorem settled_of_unpaid {sellerType : SellerType} {vendorId : VendorId}
    {g : UnpaidEarningsGroup}
    (hg : g ∈ PayoutsService.getUnpaidVendorEarnings w sellerType vendorId) :
    ∀ o ∈ g.orderIds, w.Settled .vendorPayoutId o := by
  intro o ho id hid
  obtain ⟨d, hd, hunpaid⟩ := PayoutsService.mem_getUnpaidVendorEarnings hg ho
  rw [World.claimOf_of_get hd] at hid
  have hnone : d.vendorPayoutId = none := by
    simp only [PayoutsService.isUnpaidVendorOrder, Bool.and_eq_true, decide_eq_true_eq] at hunpaid
    exact hunpaid.1.2
  cases hnone.symm.trans hid

/-- A reply that is no failure, or a failure of the `save()` that records a success. -/
def Taken.forgiven (x : Taken World ExecPc Reply) : Bool :=
  x.reply.faultless || match x.pc with
    | .successSave _ _ => true
    | _ => false

theorem harmless_of_forgiven {x : Taken World ExecPc Reply} (h : Taken.forgiven x = true) :
    Harmless a x := by
  obtain ⟨w, e, r⟩ := x
  cases e with
  | successSave => trivial
  | _ =>
    cases r with
    | db db =>
      cases db with
      | ok => trivial
      | threw => cases h
    | _ => trivial

/-- The `save()` that records the success throws, and the failure is recorded. -/
theorem no_order_stranded_after_success : ∃ g ∈ PayoutsService.getUnpaidVendorEarnings
      deliveredWorld .restaurant 1, g.orderIds ≠ [] ∧ ∃ w : World,
        (w.payouts.get 0).any (fun d => d.status = .failed) = true ∧
          ∀ o ∈ g.orderIds, w.Settled .vendorPayoutId o := by
  obtain ⟨g, hg, a, tr, w, e, ha, hrun, hp⟩ := exists_execRun StrandsNone
    (fun a x => x.1.all Taken.forgiven && x.2.2.ended && !a.group.orderIds.isEmpty &&
      (x.2.1.payouts.get 0).any fun d => d.status = .failed)
    [.db .ok, .db .ok, .db .ok, .db .ok, .transfer (.transferred "tr_1"), .db (.threw false "down"),
      .db .ok, .db .ok, .db .ok] (by decide +kernel)
  simp only [Bool.and_eq_true, List.all_eq_true] at hp
  obtain ⟨⟨⟨hall, hend⟩, hne⟩, hfail⟩ := hp
  have hgroup := (attemptFor_eq_some ha).1
  refine ⟨g, hg, ?_, w, hfail, (no_order_stranded_iff ha (settled_of_unpaid hg) hrun hend).mpr
    fun x hx => harmless_of_forgiven (hall x hx)⟩
  rintro hnil
  rw [hgroup, hnil] at hne
  cases hne

/-- **A payout that cannot be saved as processing strands its orders.** -/
theorem stranded_before_transfer :
    ¬ ∀ (vendorType : PayoutVendorType) (vendorId : VendorId) (payoutAccounts : List PayoutAccount)
      (group : UnpaidEarningsGroup) (f : ClaimField) (a : Attempt) (w w' : World)
      (tr : List (Taken World ExecPc Reply)) (e : ExecPc),
      attemptFor vendorType vendorId payoutAccounts group f = some a →
        (∀ o ∈ group.orderIds, w.Settled f o) →
        ExecRun a (fun _ _ => False) w .create tr w' e → e.ended = true →
          ∀ o ∈ group.orderIds, w'.Settled f o := by
  intro hall
  obtain ⟨g, hg, a, tr, w, e, ha, hrun, hp⟩ := exists_execRun (fun _ _ _ => False)
    (fun a x => x.2.2.ended && a.group.orderIds.any fun o =>
      decide (x.2.1.claimOf a.claimField o = some 0) &&
        (x.2.1.payouts.get 0).any fun (d : Payout) => decide (d.status ≠ .succeeded ∧
          d.reconciliationRequired = false))
    [.db .ok, .db .ok, .db .ok, .db (.threw false "down")] (by decide +kernel)
  simp only [Bool.and_eq_true, List.any_eq_true, Option.any_eq_true, decide_eq_true_eq] at hp
  obtain ⟨hend, o, ho, hclaim, d, hd, hst, hflag⟩ := hp
  obtain ⟨rfl, _, hf⟩ := attemptFor_eq_some ha
  have hsettled := hall _ _ _ _ _ a _ w tr e ha (settled_of_unpaid hg) hrun hend o ho
  obtain ⟨d', hd', hok⟩ := hsettled 0 (hf ▸ hclaim)
  obtain rfl := Option.some.inj (hd.symm.trans hd')
  rcases hok with hok | hok
  · exact hst hok
  · cases hflag.symm.trans hok

end Settled

end FoodDelivery
