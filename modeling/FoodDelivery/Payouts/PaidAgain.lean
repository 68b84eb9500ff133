import FoodDelivery.Payouts.Faults
import FoodDelivery.Payouts.Holding

/-!
# After an accepted transfer

Once the provider has accepted a transfer its orders should never be put back up for
payment, whichever of the calls that follow throws.

* `StaysPaid`: the orders stay claimed by the payout, it is no plain failure, and no
  later run of `executePayout` gets to transfer one of them.
* `accepted_stays_paid_iff`: this is so if and only if all calls of the bookkeeping
  come back, or the `save()` of the failure that follows throws without writing.
* `accepted_paid_again`: a success that cannot be saved.
-/

namespace FoodDelivery

open Store Interleave

/-- The orders stay paid for by the payout: it keeps its claims and is no plain failure,
and while others leave it alone no run of `executePayout` gets to transfer them again. -/
structure StaysPaid (w : World) (f : ClaimField) (orders : List OrderId) (id : PayoutId) :
    Prop where
  claimed : ∀ o ∈ orders, w.claimOf f o = some id
  status : ∀ d, w.payouts.get id = some d →
    ¬ (d.status = .failed ∧ d.reconciliationRequired = false)
  notAgain : ∀ (b : Attempt) (w₁ w₂ : World) (tr : List (Taken World ExecPc Reply)) (e : ExecPc),
    w.Spares w₁ f id → b.claimField = f → (∃ o ∈ b.group.orderIds, o ∈ orders) →
    ExecRun b (fun w w' => w.Spares w' f id) w₁ .create tr w₂ e → ∀ id' p, e ≠ .transfer id' p

/-- The bookkeeping: the `save()` that records the success, and what
`applyClawbackConsumption` reads and saves. -/
def ExecPc.bookkeeping : ExecPc → Bool
  | .successSave _ _ => true
  | .consumeFind _ _ _ _ _ => true
  | .consumeSave _ _ _ _ _ _ => true
  | _ => false

/-- Whether a failure is saved next. -/
def ExecPc.failing : ExecPc → Bool
  | .failSave _ _ => true
  | _ => false

/-- Every call of the bookkeeping comes back. -/
def Bookkept (tr : List (Taken World ExecPc Reply)) : Prop :=
  ∀ x ∈ tr, x.pc.bookkeeping = true → x.reply = .db .ok

/-- The `save()` of a failure throws and has not written. -/
def FailureLost (tr : List (Taken World ExecPc Reply)) : Prop :=
  ∃ x ∈ tr, x.pc.failing = true ∧ ∃ m, x.reply = .db (.threw false m)

/-! ## No second transfer -/

section Again

variable {b : Attempt} {w w' : World} {e e' : ExecPc} {r : Reply} {id : PayoutId} {o : OrderId}

/-- Another payout holds an order of the group. -/
structure HeldByOther (b : Attempt) (id : PayoutId) (o : OrderId) (w : World) (e : ExecPc) :
    Prop where
  stands : Stands b w e
  known : ∃ d, w.payouts.get id = some d
  held : w.claimOf b.claimField o = some id
  other : ∀ id', e.payoutId = some id' → id' ≠ id

theorem payoutId_thrown {m : String} {id' : PayoutId} (h : (e.thrown m).payoutId = some id') :
    e.payoutId = some id' := by
  cases e with
  | successSave => exact h
  | consumeFind guarded => cases guarded <;> first | exact h | cases h
  | consumeSave guarded => cases guarded <;> first | exact h | cases h
  | _ => cases h

/-- A move keeps its payout, ends, or creates one. -/
theorem payoutId_move {a : Attempt} (hm : ExecMove a w e r w' e') {id' : PayoutId}
    (h : e'.payoutId = some id') : e.payoutId = some id' ∨ id' = w.payouts.nextId := by
  have consume : ∀ {guarded : Bool} {id : PayoutId} {p : Payout} {rest : List Consumption},
      (ExecPc.consume guarded id p rest).payoutId = some id' → id = id' := by
    intro guarded id p rest h
    cases rest <;> cases h
    rfl
  cases hm with
  | created hv => exact Or.inr (Option.some.inj h).symm
  | zeroSaved => exact Or.inl (congrArg some (consume h))
  | successSaved => exact Or.inl (congrArg some (consume h))
  | entryGone => exact Or.inl (congrArg some (consume h))
  | entrySaved => exact Or.inl (congrArg some (consume h))
  | _ => first | exact Or.inl h | cases h

theorem HeldByOther.move (h : HeldByOther b id o w e) (hm : ExecMove b w e r w' e') :
    HeldByOther b id o w' e' := by
  obtain ⟨d, hd⟩ := h.known
  obtain ⟨id₁, ht, hid₁⟩ := exec_touches hm
  have hnew : w.payouts.nextId ≠ id := (Collection.lt_nextId_of_get hd).ne'
  have hne : id ≠ id₁ := by
    rcases hid₁ with ⟨_, rfl⟩ | ⟨st, hst, rfl⟩
    · exact hnew.symm
    · exact (h.other st.id (by rw [ExecPc.payoutId, hst, Option.map_some])).symm
  refine ⟨stands_move hm h.stands, ⟨d, (ht.payouts id hne).trans hd⟩,
    (ht.claims _ o id hne).mpr h.held, fun id' hid' => ?_⟩
  rcases payoutId_move hm hid' with hold | rfl
  · exact h.other id' hold
  · exact hnew

theorem HeldByOther.step (h : HeldByOther b id o w e) (hs : execStep b w e r = some (w', e')) :
    HeldByOther b id o w' e' := by
  rcases exec_cases hs with hm | ⟨written, m, w₁, next, rfl, hm, rfl, rfl⟩
  · exact h.move hm
  · refine ⟨stands_thrown hm h.stands, ?_, ?_, fun id' hid' => h.other id' (payoutId_thrown hid')⟩
    · cases written with
      | true => exact (h.move hm).known
      | false => exact h.known
    · cases written with
      | true => exact (h.move hm).held
      | false => exact h.held

/-- **No run of `executePayout` transfers an order that another payout holds.** -/
theorem not_transferred_of_held (hd : ∃ d, w.payouts.get id = some d)
    (hc : w.claimOf b.claimField o = some id) (ho : o ∈ b.group.orderIds)
    {tr : List (Taken World ExecPc Reply)}
    (h : ExecRun b (fun w w' => w.Spares w' b.claimField id) w .create tr w' e) (id' : PayoutId)
    (p : Payout) : e ≠ .transfer id' p := by
  have h₀ : HeldByOther b id o w .create := ⟨trivial, hd, hc, by rintro _ ⟨⟩⟩
  have hheld : HeldByOther b id o w' e := by
    refine h.invariant (I := fun _ w e => HeldByOther b id o w e) h₀
      (fun _ _ _ _ _ _ hI hs => hI.step hs) ?_
    rintro _ w e w' hI ⟨⟨id', hid', hs'⟩, hs⟩
    exact ⟨hI.stands.spares hid' hs', hI.known.imp fun _ hd => hs.payout.trans hd,
      (hs.claims o).mpr hI.held, hI.other⟩
  rintro rfl
  have hown := hheld.stands.2.2 o ho
  exact hheld.other id' rfl (Option.some.inj (hown.symm.trans hheld.held))

end Again

/-! ## The bookkeeping -/

section Booking

variable {a : Attempt} {w w' : World} {e e' : ExecPc} {r : Reply} {id : PayoutId}
  {tr : List (Taken World ExecPc Reply)}

/-- The payout keeps its claims and is no plain failure. -/
structure Paid (a : Attempt) (id : PayoutId) (w : World) : Prop where
  claimed : w.ClaimsAll a id
  stored : w.Stored id .processing ∨ w.Stored id .succeeded

theorem ExecPc.eq_of_ended (h : e.ended = true) : e = .returned ∨ e = .threw := by
  cases e with
  | returned => exact Or.inl rfl
  | threw => exact Or.inr rfl
  | _ => cases h

/-- Where a run stands after an accepted transfer: the bookkeeping goes on or is done;
or a call of it threw, and the failure is to be saved, could not be, or is. -/
inductive Booking (a : Attempt) (id : PayoutId) (tr : List (Taken World ExecPc Reply)) (w : World) :
    ExecPc → Prop
  | keeping {e : ExecPc} (he : e.bookkeeping = true) (hc : ∀ m, (e.thrown m).failing = true)
    (hid : e.payoutId = some id) (hb : Bookkept tr) (hno : ∀ x ∈ tr, x.pc.failing = false) :
    Booking a id tr w e
  | kept (hb : Bookkept tr) (hp : Paid a id w) : Booking a id tr w .returned
  | failing (p : Payout) (hb : ¬ Bookkept tr) (hno : ∀ x ∈ tr, x.pc.failing = false) :
    Booking a id tr w (.failSave id p)
  | lost (hl : FailureLost tr) (hp : Paid a id w) : Booking a id tr w .threw
  | failed {e : ExecPc} (he : (∃ p rest, e = .release id p rest) ∨ e.ended = true)
    (hb : ¬ Bookkept tr) (hl : ¬ FailureLost tr) (hst : w.Stored id .failed) : Booking a id tr w e

theorem bookkept_append {x : Taken World ExecPc Reply} :
    Bookkept (tr ++ [x]) ↔ Bookkept tr ∧ (x.pc.bookkeeping = true → x.reply = .db .ok) := by
  simp [Bookkept, or_imp, forall_and]

theorem not_failureLost (h : ∀ x ∈ tr, x.pc.failing = false) : ¬ FailureLost tr := by
  rintro ⟨x, hx, hf, _⟩
  cases (h x hx).symm.trans hf

theorem failureLost_append {x : Taken World ExecPc Reply} :
    FailureLost (tr ++ [x]) ↔ FailureLost tr ∨
      (x.pc.failing = true ∧ ∃ m, x.reply = .db (.threw false m)) := by
  simp [FailureLost, or_and_right, exists_or]

theorem booking_consume {p : Payout} {rest : List Consumption} (hb : Bookkept tr)
    (hno : ∀ x ∈ tr, x.pc.failing = false) (hall : w.ClaimsAll a id)
    (hst : w.Stored id .succeeded) : Booking a id tr w (.consume true id p rest) := by
  cases rest with
  | nil => exact .kept hb ⟨hall, Or.inr hst⟩
  | cons x rest => exact .keeping rfl (fun _ => rfl) rfl hb hno

/-- A step of the bookkeeping: it goes on, or its call threw. -/
theorem booking_keeping (hm : e.bookkeeping = true) (hc : ∀ m, (e.thrown m).failing = true)
    (hid : e.payoutId = some id) (hb : Bookkept tr) (hno : ∀ x ∈ tr, x.pc.failing = false)
    (hst : Stands a w e) (hs : execStep a w e r = some (w', e')) :
    Booking a id (tr ++ [⟨w, e, r⟩]) w' e' := by
  have hno' : ∀ x ∈ tr ++ [⟨w, e, r⟩], x.pc.failing = false := by
    intro x hx
    rcases List.mem_append.mp hx with hx | hx
    · exact hno x hx
    · rw [List.mem_singleton.mp hx]
      cases e <;> first | rfl | cases hm
  rcases exec_cases hs with hmove | ⟨written, m, w₁, next, rfl, hmove, rfl, rfl⟩
  · have hb' : Bookkept (tr ++ [⟨w, e, r⟩]) :=
      bookkept_append.mpr ⟨hb, fun _ => by cases hmove <;> first | rfl | cases hm⟩
    cases hmove with
    | successSaved id p =>
      cases hid
      exact booking_consume hb' hno' hst.2.2 (stored_save hst.1 hst.2.1)
    | entryGone guarded id p x rest hgone =>
      cases hid
      cases guarded with
      | true => exact booking_consume hb' hno' hst.2.2 hst.1
      | false => cases hc ""
    | entryFound guarded id p x c rest hfound =>
      cases guarded with
      | true => exact .keeping rfl (fun _ => rfl) hid hb' hno'
      | false => cases hc ""
    | entrySaved guarded id p x c rest =>
      cases hid
      cases guarded with
      | true => exact booking_consume hb' hno' hst.2.2 hst.1
      | false => cases hc ""
    | _ => cases hm
  · have hb' : ¬ Bookkept (tr ++ [⟨w, e, .db (.threw written m)⟩]) := fun h =>
      by cases (bookkept_append.mp h).2 hm
    have hfail : ∃ p, e.thrown m = .failSave id p := by
      cases e with
      | successSave id₁ p =>
        cases hid
        exact ⟨_, rfl⟩
      | consumeFind guarded id₁ p x rest =>
        cases hid
        cases guarded with
        | true => exact ⟨_, rfl⟩
        | false => cases hc ""
      | consumeSave guarded id₁ p x c rest =>
        cases hid
        cases guarded with
        | true => exact ⟨_, rfl⟩
        | false => cases hc ""
      | _ => cases hm
    obtain ⟨p, hp⟩ := hfail
    rw [hp]
    exact .failing p hb' hno'

/-- The `save()` of the failure: it has written, or has not. -/
theorem booking_failing {p : Payout} (hb : ¬ Bookkept tr) (hno : ∀ x ∈ tr, x.pc.failing = false)
    (hst : Stands a w (.failSave id p)) (hs : execStep a w (.failSave id p) r = some (w', e')) :
    Booking a id (tr ++ [⟨w, .failSave id p, r⟩]) w' e' := by
  have hb' : ¬ Bookkept (tr ++ [⟨w, .failSave id p, r⟩]) := fun h => hb (bookkept_append.mp h).1
  have saved : (w.modifyPayout id fun _ => p).Stored id .failed :=
    hst.1.elim (stored_save · hst.2.1) (stored_save · hst.2.1)
  have written : (∀ m, r ≠ .db (.threw false m)) →
      ¬ FailureLost (tr ++ [⟨w, .failSave id p, r⟩]) := by
    intro hr hl
    rcases failureLost_append.mp hl with hl | ⟨_, m, hm⟩
    · exact not_failureLost hno hl
    · exact hr m hm
  rcases exec_cases hs with hmove | ⟨done, m, w₁, next, rfl, hmove, rfl, rfl⟩
  · cases hmove with
    | failSaved id p => exact .failed (Or.inl ⟨_, _, rfl⟩) hb' (written (by simp)) saved
  · cases hmove with
    | failSaved id p =>
      cases done with
      | true => exact .failed (Or.inr rfl) hb' (written (by simp)) saved
      | false => exact .lost (failureLost_append.mpr (Or.inr ⟨rfl, m, rfl⟩)) ⟨hst.2.2, hst.1⟩

/-- The release of a payout that is stored as failed. -/
theorem booking_failed {p : Payout} {rest : List OrderId} (hb : ¬ Bookkept tr)
    (hl : ¬ FailureLost tr) (hst : w.Stored id .failed)
    (hs : execStep a w (.release id p rest) r = some (w', e')) :
    Booking a id (tr ++ [⟨w, .release id p rest, r⟩]) w' e' := by
  have hb' : ¬ Bookkept (tr ++ [⟨w, .release id p rest, r⟩]) := fun h =>
    hb (bookkept_append.mp h).1
  have hl' : ¬ FailureLost (tr ++ [⟨w, .release id p rest, r⟩]) := fun h =>
    (failureLost_append.mp h).elim hl fun hf => absurd hf.1 (by rintro ⟨⟩)
  rcases exec_cases hs with hmove | ⟨done, m, w₁, next, rfl, hmove, rfl, rfl⟩
  · cases hmove with
    | released id p o rest => exact .failed (Or.inl ⟨_, _, rfl⟩) hb' hl' hst
    | releasedAll id p => exact .failed (Or.inr rfl) hb' hl' hst
  · refine .failed (Or.inr rfl) hb' hl' ?_
    cases hmove <;> cases done <;> exact hst

theorem booking_step (h : Booking a id tr w e) (hst : Stands a w e)
    (hs : execStep a w e r = some (w', e')) : Booking a id (tr ++ [⟨w, e, r⟩]) w' e' := by
  cases h with
  | keeping he hc hid hb hno => exact booking_keeping he hc hid hb hno hst hs
  | kept hb hp => cases r <;> cases hs
  | failing p hb hno => exact booking_failing hb hno hst hs
  | lost hl hp => cases r <;> cases hs
  | failed he hb hl hfail =>
    rcases he with ⟨p, rest, rfl⟩ | hend
    · exact booking_failed hb hl hfail hs
    · rcases ExecPc.eq_of_ended hend with rfl | rfl <;> cases r <;> cases hs

theorem booking_spares (h : Booking a id tr w e) {id' : PayoutId} (hid : e.payoutId = some id')
    (hs : w.Spares w' a.claimField id') : Booking a id tr w' e := by
  cases h with
  | keeping he hc hid hb hno => exact .keeping he hc hid hb hno
  | kept hb hp => cases hid
  | failing p hb hno => exact .failing p hb hno
  | lost hl hp => cases hid
  | failed he hb hl hfail =>
    rcases he with ⟨p, rest, rfl⟩ | hend
    · cases hid
      exact .failed (Or.inl ⟨p, rest, rfl⟩) hb hl (hfail.spares hs)
    · rcases ExecPc.eq_of_ended hend with rfl | rfl <;> cases hid

theorem Paid.staysPaid (h : Paid a id w) : StaysPaid w a.claimField a.group.orderIds id where
  claimed := h.claimed
  status d hd hfail := by
    rcases h.stored with ⟨d', hd', hst, _⟩ | ⟨d', hd', hst, _⟩ <;>
    · obtain rfl := Option.some.inj (hd.symm.trans hd')
      cases hst.symm.trans hfail.1
  notAgain b w₁ w₂ tr e hs hf hshare hrun id' p := by
    obtain ⟨o, ho, hmem⟩ := hshare
    have hd : ∃ d, w₁.payouts.get id = some d := by
      rcases h.stored with ⟨d, hd, _⟩ | ⟨d, hd, _⟩ <;> exact ⟨d, hs.payout.trans hd⟩
    have hc := (hs.claims o).mpr (h.claimed o hmem)
    rw [← hf] at hc hrun
    exact not_transferred_of_held hd hc ho hrun id' p

/-- **The orders of an accepted transfer stay paid for if and only if** every call of the
bookkeeping comes back, or the `save()` of the failure that follows throws and has not
written. -/
theorem accepted_stays_paid_iff {others : World → World → Prop} {w₀ w₁ : World}
    {tr₁ tr₂ : List (Taken World ExecPc Reply)} {p : Payout} {transferReference : String}
    {e₁ : ExecPc} (h₁ : ExecRun a others w₀ .create tr₁ w (.transfer id p))
    (hok : a.accountError = none)
    (hacc : execStep a w (.transfer id p) (.transfer (.transferred transferReference)) =
      some (w₁, e₁))
    (h₂ : ExecRun a others w₁ e₁ tr₂ w' e') (hend : e'.ended = true) :
    StaysPaid w' a.claimField a.group.orderIds id ↔ Bookkept tr₂ ∨ FailureLost tr₂ := by
  have hst₀ : Stands a w₀ .create := trivial
  have hst₁ : Stands a w₁ e₁ := stands_step (stands hst₀ h₁) hacc
  have hbooking : Booking a id tr₂ w' e' ∧ Stands a w' e' := by
    refine h₂.invariant (I := fun tr w e => Booking a id tr w e ∧ Stands a w e) ⟨?_, hst₁⟩
      (fun _ _ _ _ _ _ hI hs => ⟨booking_step hI.1 hI.2 hs, stands_step hI.2 hs⟩) ?_
    · simp only [execStep, hok, afterTransfer, Option.some.injEq, Prod.mk.injEq] at hacc
      obtain ⟨_, rfl⟩ := hacc
      exact .keeping rfl (fun _ => rfl) rfl (fun x hx => absurd hx List.not_mem_nil)
        fun x hx => absurd hx List.not_mem_nil
    · rintro _ w e w' hI ⟨⟨_, hid, hs⟩, _⟩
      exact ⟨booking_spares hI.1 hid hs, hI.2.spares hid hs⟩
  cases hbooking.1 with
  | keeping he => rcases ExecPc.eq_of_ended hend with rfl | rfl <;> cases he
  | kept hb hp => exact ⟨fun _ => Or.inl hb, fun _ => hp.staysPaid⟩
  | failing => cases hend
  | lost hl hp => exact ⟨fun _ => Or.inr hl, fun _ => hp.staysPaid⟩
  | failed _ hb hl hfail =>
    obtain ⟨d, hd, hstatus, hflag⟩ := hfail
    exact ⟨fun h => absurd ⟨hstatus, hflag⟩ (h.status d hd),
      fun h => (h.elim hb hl).elim⟩

/-- A run of the attempt on the delivered order whose transfer is accepted, that checks
out and ends as wanted. -/
theorem exists_acceptedRun (others : World → World → Prop)
    (P : Attempt → PayoutId → List (Taken World ExecPc Reply) × World × ExecPc → Bool)
    (rs : List Reply)
    (h : deliveredAttempt.any (fun a =>
      (play (execStep a) [] deliveredWorld .create (List.replicate 4 (.db .ok))).any fun x =>
        match x.2.2 with
        | .transfer id p => a.accountError = none &&
          (execStep a x.2.1 (.transfer id p) (.transfer (.transferred "tr_1"))).any fun y =>
            (play (execStep a) [] y.1 y.2 rs).any (P a id)
        | _ => false) = true) :
    ∃ a tr₁ w id p w₁ e₁ tr₂ w' e', ExecRun a others deliveredWorld .create tr₁ w (.transfer id p) ∧
      a.accountError = none ∧
      execStep a w (.transfer id p) (.transfer (.transferred "tr_1")) = some (w₁, e₁) ∧
      ExecRun a others w₁ e₁ tr₂ w' e' ∧ P a id (tr₂, w', e') = true := by
  obtain ⟨a, -, h⟩ := (Option.any_eq_true ..).mp h
  obtain ⟨tr₁, w, e, h₁, h⟩ := exists_trace_of_play _ h
  cases e with
  | transfer id p =>
    simp only [Bool.and_eq_true, decide_eq_true_eq] at h
    obtain ⟨hok, h⟩ := h
    obtain ⟨⟨w₁, e₁⟩, hacc, h⟩ := (Option.any_eq_true ..).mp h
    obtain ⟨tr₂, w', e', h₂, hp⟩ := exists_trace_of_play rs h
    exact ⟨a, tr₁, w, id, p, w₁, e₁, tr₂, w', e', h₁, hok, hacc, h₂, hp⟩
  | _ => cases h

/-- The success is saved, though the `save()` throws, and the failure is not. -/
theorem accepted_stays_paid_failure_lost : ∃ (a : Attempt) (w : World) (id : PayoutId),
    a.group.orderIds ≠ [] ∧ StaysPaid w a.claimField a.group.orderIds id := by
  obtain ⟨a, tr₁, w, id, p, w₁, e₁, tr₂, w', e', h₁, hok, hacc, h₂, hp⟩ :=
    exists_acceptedRun (fun _ _ => False)
      (fun a _ x => x.2.2.ended && !a.group.orderIds.isEmpty &&
        x.1.any fun y => y.pc.failing && y.reply = .db (.threw false "down"))
      [.db (.threw true "down"), .db (.threw false "down")] (by decide +kernel)
  simp only [Bool.and_eq_true, List.any_eq_true, decide_eq_true_eq, Bool.not_eq_true',
    List.isEmpty_eq_false_iff] at hp
  obtain ⟨⟨hend, hne⟩, x, hx, hf, hr⟩ := hp
  exact ⟨a, w', id, hne, (accepted_stays_paid_iff h₁ hok hacc h₂ hend).mpr
    (Or.inr ⟨x, hx, hf, "down", hr⟩)⟩

/-- **A success that cannot be saved is taken for a rejection**: the payout ends as a plain
failure, and its orders are released. -/
theorem accepted_paid_again :
    ¬ ∀ (a : Attempt) (w₀ w w₁ w' : World) (tr₁ tr₂ : List (Taken World ExecPc Reply))
      (id : PayoutId) (p : Payout) (transferReference : String) (e₁ e' : ExecPc),
      ExecRun a (fun _ _ => False) w₀ .create tr₁ w (.transfer id p) → a.accountError = none →
        execStep a w (.transfer id p) (.transfer (.transferred transferReference)) =
          some (w₁, e₁) →
        ExecRun a (fun _ _ => False) w₁ e₁ tr₂ w' e' → e'.ended = true →
          StaysPaid w' a.claimField a.group.orderIds id := by
  intro hall
  obtain ⟨a, tr₁, w, id, p, w₁, e₁, tr₂, w', e', h₁, hok, hacc, h₂, hp⟩ :=
    exists_acceptedRun (fun _ _ => False)
      (fun a id x => x.2.2.ended && a.group.orderIds.any fun o =>
        decide (x.2.1.claimOf a.claimField o ≠ some id))
      [.db (.threw false "down"), .db .ok, .db .ok, .db .ok] (by decide +kernel)
  simp only [Bool.and_eq_true, List.any_eq_true, decide_eq_true_eq] at hp
  obtain ⟨hend, o, ho, hfree⟩ := hp
  exact hfree ((hall a _ w w₁ w' tr₁ tr₂ id p _ e₁ e' h₁ hok hacc h₂ hend).claimed o ho)

end Booking

end FoodDelivery
