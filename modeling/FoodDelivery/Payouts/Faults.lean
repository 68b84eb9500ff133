import FoodDelivery.Lib.Trace
import FoodDelivery.Payouts.Ownership

/-!
# Executing a payout when database calls fail

A database call that throws may have written or not, and `executePayout` goes on in
its `catch` or is over.

* `exec_cases`: a step is one of the moves, or one whose call threw.
* `ExecRun`: a run of `executePayout` with any failures, and other calls in between
  that leave its payout and the orders it has claimed alone.
* `stands`: what the stored document and the claims are at each point of such a run.
-/

namespace FoodDelivery

open Store Interleave

/-- Where `executePayout` goes on when the awaited call throws. -/
def ExecPc.thrown (message : String) : ExecPc → ExecPc
  | .successSave id payout => caught true id payout message
  | .consumeFind guarded id payout _ _ => caught guarded id payout message
  | .consumeSave guarded id payout _ _ _ => caught guarded id payout message
  | _ => .threw

section Cases

variable {a : Attempt} {w w' : World} {e e' : ExecPc} {r : Reply}

/-- A call that throws does what it would have done, or nothing. -/
theorem exec_threw {written : Bool} {m : String}
    (h : execStep a w e (.db (.threw written m)) = some (w', e')) :
    ∃ o, execStep a w e (.db .ok) = some o ∧ w' = (if written then o.1 else w) ∧
      e' = e.thrown m := by
  cases e with
  | create =>
    simp only [execStep] at h ⊢
    split at h
    · rename_i hv
      cases h
      rw [if_pos hv]
      exact ⟨_, rfl, rfl, rfl⟩
    · rename_i hv
      cases h
      rw [if_neg hv]
      exact ⟨_, rfl, by cases written <;> rfl, rfl⟩
  | consumeFind guarded id p x rest =>
    simp only [execStep] at h ⊢
    split at h
    · cases h
      exact ⟨_, rfl, by cases written <;> rfl, rfl⟩
    · cases h
      exact ⟨_, rfl, by cases written <;> rfl, rfl⟩
  | claim id p rest n => cases rest <;> cases h <;> exact ⟨_, rfl, rfl, rfl⟩
  | raceRelease id p rest => cases rest <;> cases h <;> exact ⟨_, rfl, rfl, rfl⟩
  | release id p rest => cases rest <;> cases h <;> exact ⟨_, rfl, rfl, rfl⟩
  | transfer => cases h
  | returned => cases h
  | threw => cases h
  | _ =>
    cases h
    exact ⟨_, rfl, rfl, rfl⟩

/-- **Every step is one of the moves, or its call threw**: then it has the effect of
the move, or none. -/
theorem exec_cases (h : execStep a w e r = some (w', e')) :
    ExecMove a w e r w' e' ∨ ∃ written m w₁ next, r = .db (.threw written m) ∧
      ExecMove a w e (.db .ok) w₁ next ∧ w' = (if written then w₁ else w) ∧ e' = e.thrown m := by
  cases r with
  | transfer reply => exact Or.inl (exec_move rfl h)
  | refund reply => exact Or.inl (exec_move rfl h)
  | db db =>
    cases db with
    | ok => exact Or.inl (exec_move rfl h)
    | threw written m =>
      obtain ⟨o, ho, hw, he⟩ := exec_threw h
      exact Or.inr ⟨written, m, o.1, o.2, rfl, exec_move rfl ho, hw, he⟩

end Cases

/-! ## Runs -/

/-- What other calls do while a payout is executed: they leave its document alone, and
neither take nor free the orders it has claimed. -/
structure World.Spares (w w' : World) (f : ClaimField) (id : PayoutId) : Prop where
  payout : w'.payouts.get id = w.payouts.get id
  claims : ∀ o, w'.claimOf f o = some id ↔ w.claimOf f o = some id

/-- A run of `executePayout` with any replies.  While it goes on, other calls spare its
payout, and whatever else `others` allows happens to the rest. -/
abbrev ExecRun (a : Attempt) (others : World → World → Prop) (w : World) (e : ExecPc) :
    List (Taken World ExecPc Reply) → World → ExecPc → Prop :=
  Trace (execStep a) (fun w e w' => (∃ id, e.payoutId = some id ∧ w.Spares w' a.claimField id) ∧
    others w w') w e

namespace World

/-- A payout is stored with a status, and is not flagged. -/
def Stored (w : World) (id : PayoutId) (status : PayoutStatus) : Prop :=
  ∃ d, w.payouts.get id = some d ∧ d.status = status ∧ d.reconciliationRequired = false

/-- A payout has claimed all orders of its group. -/
def ClaimsAll (w : World) (a : Attempt) (id : PayoutId) : Prop :=
  ∀ o ∈ a.group.orderIds, w.claimOf a.claimField o = some id

/-- The orders of its group that a payout has claimed are among these. -/
def ClaimsAmong (w : World) (a : Attempt) (id : PayoutId) (rest : List OrderId) : Prop :=
  ∀ o ∈ a.group.orderIds, w.claimOf a.claimField o = some id → o ∈ rest

end World

/-- The document in memory has this status and flag. -/
def Payout.Has (p : Payout) (status : PayoutStatus) (flagged : Bool) : Prop :=
  p.status = status ∧ p.reconciliationRequired = flagged

open World in
/-- What is stored at each point of a run. -/
def Stands (a : Attempt) (w : World) : ExecPc → Prop
  | .claim id p rest n => w.Stored id .pending ∧ p.Has .pending false ∧
      ∃ visited, a.group.orderIds = visited ++ rest ∧ n ≤ visited.length ∧
        (n = visited.length → ∀ o ∈ visited, w.claimOf a.claimField o = some id)
  | .raceRelease id p rest =>
    w.Stored id .pending ∧ p.Has .failed false ∧ w.ClaimsAmong a id rest
  | .raceSave id p => w.Stored id .pending ∧ p.Has .failed false ∧ w.ClaimsAmong a id []
  | .zeroSave id p => w.Stored id .pending ∧ p.Has .succeeded false ∧ w.ClaimsAll a id
  | .processingSave id p => w.Stored id .pending ∧ p.Has .processing false ∧ w.ClaimsAll a id
  | .transfer id p => w.Stored id .processing ∧ p.Has .processing false ∧ w.ClaimsAll a id
  | .successSave id p => w.Stored id .processing ∧ p.Has .succeeded false ∧ w.ClaimsAll a id
  | .consumeFind _ id p _ _ => w.Stored id .succeeded ∧ p.Has .succeeded false ∧ w.ClaimsAll a id
  | .consumeSave _ id p _ _ _ => w.Stored id .succeeded ∧ p.Has .succeeded false ∧ w.ClaimsAll a id
  | .flagSave id p => w.Stored id .processing ∧ p.Has .failed true ∧ w.ClaimsAll a id
  | .failSave id p => (w.Stored id .processing ∨ w.Stored id .succeeded) ∧ p.Has .failed false ∧
      w.ClaimsAll a id
  | .release id p rest => w.Stored id .failed ∧ p.Has .failed false ∧ w.ClaimsAmong a id rest
  | _ => True

section Stands

variable {a : Attempt} {w w' : World} {e e' : ExecPc} {r : Reply} {id : PayoutId} {p : Payout}

theorem World.Stored.spares {st : PayoutStatus} {f : ClaimField} (h : w.Stored id st)
    (hs : w.Spares w' f id) : w'.Stored id st :=
  h.imp fun _ hd => ⟨hs.payout.trans hd.1, hd.2⟩

theorem World.ClaimsAll.spares (h : w.ClaimsAll a id) (hs : w.Spares w' a.claimField id) :
    w'.ClaimsAll a id := fun o ho => (hs.claims o).mpr (h o ho)

theorem World.ClaimsAmong.spares {rest : List OrderId} (h : w.ClaimsAmong a id rest)
    (hs : w.Spares w' a.claimField id) : w'.ClaimsAmong a id rest :=
  fun o ho hc => h o ho ((hs.claims o).mp hc)

/-- What other calls do changes nothing of it. -/
theorem Stands.spares (h : Stands a w e) (hid : e.payoutId = some id)
    (hs : w.Spares w' a.claimField id) : Stands a w' e := by
  cases e with
  | claim id₁ p rest n =>
    cases hid
    obtain ⟨hst, hp, visited, heq, hle, hall⟩ := h
    exact ⟨hst.spares hs, hp, visited, heq, hle, fun hn o ho => (hs.claims o).mpr (hall hn o ho)⟩
  | failSave id₁ p =>
    cases hid
    exact ⟨h.1.imp (·.spares hs) (·.spares hs), h.2.1, h.2.2.spares hs⟩
  | create => exact h
  | returned => exact h
  | threw => exact h
  | _ =>
    cases hid
    exact ⟨h.1.spares hs, h.2.1, h.2.2.spares hs⟩

/-- What a `save()` stores. -/
theorem stored_save {st st' : PayoutStatus} (h : w.Stored id st) (hp : p.Has st' false) :
    (w.modifyPayout id fun _ => p).Stored id st' := by
  obtain ⟨d, hd, _⟩ := h
  exact ⟨p, by rw [World.modifyPayout, Collection.get_modify_self, hd, Option.map_some], hp⟩

theorem claimsAmong_release {o : OrderId} {rest : List OrderId}
    (h : w.ClaimsAmong a id (o :: rest)) :
    (w.releaseOrder a.claimField o id).ClaimsAmong a id rest := by
  intro o' ho' hc
  rw [World.claimOf_releaseOrder] at hc
  split at hc
  · cases hc
  · rename_i hne
    rcases List.mem_cons.mp (h o' ho' hc) with rfl | hmem
    · exact absurd ⟨hc, rfl, rfl⟩ hne
    · exact hmem

theorem spares_send {moved : Bool} {id' : PayoutId} {f : ClaimField} :
    w.Spares (w.send id' moved) f id where
  payout := by rw [World.payouts_send]
  claims o := by rw [World.claimOf, World.claimOf, World.orders_send]

/-- Every claimed order is there to be released. -/
theorem claimsAmong_ids : w.ClaimsAmong a id w.orders.ids := fun _ _ hc =>
  Collection.mem_ids.mpr (World.lt_nextId_of_claimOf hc)

theorem stands_consume {guarded : Bool} {rest : List Consumption} (hst : w.Stored id .succeeded)
    (hp : p.Has .succeeded false) (hall : w.ClaimsAll a id) :
    Stands a w (.consume guarded id p rest) := by
  cases rest with
  | nil => trivial
  | cons x rest => exact ⟨hst, hp, hall⟩

theorem stands_move (hm : ExecMove a w e r w' e') (h : Stands a w e) : Stands a w' e' := by
  cases hm with
  | created hv =>
    refine ⟨⟨_, Collection.get_create_self, rfl, rfl⟩, ⟨rfl, rfl⟩, [], rfl, le_refl _, ?_⟩
    exact fun _ o ho => absurd ho List.not_mem_nil
  | invalid hv => trivial
  | claimed id p o rest n =>
    obtain ⟨hst, hp, visited, heq, hle, hall⟩ := h
    refine ⟨hst, hp, visited ++ [o], by rw [heq, List.append_assoc, List.singleton_append], ?_, ?_⟩
    · rw [List.length_append, List.length_singleton]
      split <;> omega
    · intro hn o' ho'
      rw [List.length_append, List.length_singleton] at hn
      split at hn
      · rename_i hun
        rw [World.claimOf_claimOrder]
        rcases List.mem_append.mp ho' with hmem | hmem
        · split
          · rfl
          · exact hall (by omega) o' hmem
        · rw [if_pos ⟨hun, rfl, List.mem_singleton.mp hmem⟩]
      · omega
  | raced id p n hn => exact ⟨h.1, ⟨rfl, h.2.1.2⟩, claimsAmong_ids⟩
  | absorbed id p hz =>
    obtain ⟨hst, hp, visited, heq, _, hall⟩ := h
    rw [List.append_nil] at heq
    exact ⟨hst, ⟨rfl, hp.2⟩, fun o ho => hall (by rw [heq]) o (heq ▸ ho)⟩
  | claimedAll id p hz =>
    obtain ⟨hst, hp, visited, heq, _, hall⟩ := h
    rw [List.append_nil] at heq
    exact ⟨hst, ⟨rfl, hp.2⟩, fun o ho => hall (by rw [heq]) o (heq ▸ ho)⟩
  | raceReleased id p o rest => exact ⟨h.1, h.2.1, claimsAmong_release h.2.2⟩
  | raceReleasedAll id p => exact h
  | raceSaved id p => trivial
  | zeroSaved id p => exact stands_consume (stored_save h.1 h.2.1) h.2.1 h.2.2
  | processingSaved id p => exact ⟨stored_save h.1 h.2.1, h.2.1, h.2.2⟩
  | refused id p m r hm => exact ⟨Or.inl h.1, ⟨rfl, h.2.1.2⟩, h.2.2⟩
  | transferred id p ref hm =>
    exact ⟨h.1.spares (spares_send (f := a.claimField)), ⟨rfl, h.2.1.2⟩, h.2.2.spares spares_send⟩
  | unknown id p moved m hm =>
    exact ⟨h.1.spares (spares_send (f := a.claimField)), ⟨rfl, rfl⟩, h.2.2.spares spares_send⟩
  | failed id p moved m hm =>
    exact ⟨Or.inl (h.1.spares (spares_send (f := a.claimField))), ⟨rfl, h.2.1.2⟩,
      h.2.2.spares spares_send⟩
  | successSaved id p => exact stands_consume (stored_save h.1 h.2.1) h.2.1 h.2.2
  | entryGone guarded id p x rest hc => exact stands_consume h.1 h.2.1 h.2.2
  | entryFound guarded id p x c rest hc => exact h
  | entrySaved guarded id p x c rest => exact stands_consume h.1 h.2.1 h.2.2
  | flagSaved id p => trivial
  | failSaved id p =>
    exact ⟨h.1.elim (stored_save · h.2.1) (stored_save · h.2.1), h.2.1, claimsAmong_ids⟩
  | released id p o rest => exact ⟨h.1, h.2.1, claimsAmong_release h.2.2⟩
  | releasedAll id p => trivial

theorem stands_thrown {w₁ : World} {next : ExecPc} {written : Bool} {m : String}
    (hm : ExecMove a w e (.db .ok) w₁ next) (h : Stands a w e) :
    Stands a (if written then w₁ else w) (e.thrown m) := by
  cases hm with
  | successSaved id p =>
    cases written with
    | true => exact ⟨Or.inr (stored_save h.1 h.2.1), ⟨rfl, h.2.1.2⟩, h.2.2⟩
    | false => exact ⟨Or.inl h.1, ⟨rfl, h.2.1.2⟩, h.2.2⟩
  | entryGone guarded id p x rest hc =>
    cases guarded with
    | true => cases written <;> exact ⟨Or.inr h.1, ⟨rfl, h.2.1.2⟩, h.2.2⟩
    | false => trivial
  | entryFound guarded id p x c rest hc =>
    cases guarded with
    | true => cases written <;> exact ⟨Or.inr h.1, ⟨rfl, h.2.1.2⟩, h.2.2⟩
    | false => trivial
  | entrySaved guarded id p x c rest =>
    cases guarded with
    | true => cases written <;> exact ⟨Or.inr h.1, ⟨rfl, h.2.1.2⟩, h.2.2⟩
    | false => trivial
  | _ => trivial

theorem stands_step (h : Stands a w e) (hs : execStep a w e r = some (w', e')) :
    Stands a w' e' := by
  rcases exec_cases hs with hm | ⟨written, m, w₁, next, rfl, hm, rfl, rfl⟩
  · exact stands_move hm h
  · exact stands_thrown hm h

/-- **What is stored at each point of a run**, with any failures. -/
theorem stands {others : World → World → Prop} {tr : List (Taken World ExecPc Reply)} {w₀ : World}
    {e₀ : ExecPc} (h₀ : Stands a w₀ e₀) (h : ExecRun a others w₀ e₀ tr w e) : Stands a w e := by
  refine h.invariant (I := fun _ w e => Stands a w e) h₀
    (fun _ _ _ _ _ _ hI hs => stands_step hI hs) ?_
  rintro _ w e w' hI ⟨⟨_, hid, hs⟩, _⟩
  exact hI.spares hid hs

end Stands

/-! ## A delivered order -/

/-- Order 0 of the sole restaurant is delivered. -/
def deliveredWorld : World :=
  (((system soleOwner).exec (Sys.initial soleRestaurant) (deliveredOrder 0)).map (·.shared)).getD
    (.empty [])

/-- The attempt that pays for it. -/
def deliveredAttempt : Option Attempt :=
  (PayoutsService.getUnpaidVendorEarnings deliveredWorld .restaurant 1).head?.bind fun g =>
    attemptFor .restaurant 1 [⟨.stripe, .active, some "acct_1", none, none⟩] g .vendorPayoutId

/-- A run of this attempt that checks out and ends as wanted. -/
theorem exists_execRun (others : Attempt → World → World → Prop)
    (P : Attempt → List (Taken World ExecPc Reply) × World × ExecPc → Bool) (rs : List Reply)
    (h : deliveredAttempt.any (fun a =>
      (play (execStep a) [] deliveredWorld .create rs).any (P a)) = true) :
    ∃ g ∈ PayoutsService.getUnpaidVendorEarnings deliveredWorld .restaurant 1, ∃ a tr w e,
      attemptFor .restaurant 1 [⟨.stripe, .active, some "acct_1", none, none⟩] g
        .vendorPayoutId = some a ∧
      ExecRun a (others a) deliveredWorld .create tr w e ∧ P a (tr, w, e) = true := by
  rw [Option.any_eq_true] at h
  obtain ⟨a, ha, h⟩ := h
  rw [deliveredAttempt, Option.bind_eq_some_iff] at ha
  obtain ⟨g, hg, ha⟩ := ha
  obtain ⟨tr, w, e, hrun, hp⟩ := exists_trace_of_play rs h
  exact ⟨g, List.mem_of_head? hg, a, tr, w, e, ha, hrun, hp⟩

end FoodDelivery
