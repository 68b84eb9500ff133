import FoodDelivery.Lib.Interleave
import FoodDelivery.Payouts.Faults
import FoodDelivery.Payouts.Resolve

/-!
# Reconciliation takes effect once

Any number of `resolveReconciliation` calls on one flagged payout, by any admins and with any
answers, each taking one database call at a time; any of these may throw.  Other calls do what they
like as long as they spare the payout and its claims.

* `ResolveEffect`: what the calls have written so far.
* `reconciled_once`: the consumption is applied once, the two answers exclude each other, and the
  stored status agrees with the claims, where no call reads the flag among the writes of another.
* `reconciled_twice`: two calls that overlap, and a call after one whose last `save()` threw.
-/

namespace FoodDelivery

open Store Interleave

/-- What a resolution writes: an entry of the consumption, the release of an order, the payout. -/
inductive ResolveEffect
  | consumed (clawbackId : ClawbackId)
  | freed (orderId : OrderId)
  | resolved (transferActuallySucceeded : Bool)
  deriving DecidableEq

namespace ResolveEffect

/-- The answer that is carried out by it. -/
def answer : ResolveEffect → Bool
  | .consumed _ => true
  | .freed _ => false
  | .resolved answer => answer

def frees : ResolveEffect → Bool
  | .freed _ => true
  | _ => false

end ResolveEffect

/-- What an awaited call writes, once its write is in. -/
def ResolvePc.effect (w : World) : ResolvePc → List ResolveEffect
  | .consumeSave _ entry _ _ => [.consumed entry.clawbackId]
  | .release c (o :: _) =>
    if w.claimOf c.payout.claimField o = some c.payoutId then [.freed o] else []
  | .save c => [.resolved c.transferActuallySucceeded]
  | _ => []

def Reply.wrote : Reply → Bool
  | .db r => r.wrote
  | _ => false

/-- The collections, and what the calls have written to them. -/
structure Reconciling where
  world : World
  effects : List ResolveEffect

/-- An admin's answer. -/
structure Finding where
  adminUserId : UserId
  transferActuallySucceeded : Bool

def Reconciling.step (s : Reconciling) (pc : ResolvePc) (r : Reply) :
    Option (Reconciling × ResolvePc) :=
  (resolveStep s.world pc r).map fun x =>
    (⟨x.1, s.effects ++ if r.wrote then pc.effect s.world else []⟩, x.2)

/-- Any number of calls for one payout. -/
def reconciling (id : PayoutId) : Machine Reconciling ResolvePc Finding Reply World where
  start _ k := .find id k.adminUserId k.transferActuallySucceeded
  step := Reconciling.step
  env s w := some { s with world := w }

abbrev ReconcilingPool := Pool Reconciling ResolvePc

abbrev ReconcilingEvent := Event Finding Reply World

/-- Two calls do not get in each other's way: they answer alike, and not both of them have clawbacks
to consume. -/
def Payout.allowsBoth (p : Payout) (answer answer' : Bool) : Bool :=
  answer == answer' && (!answer || p.clawbackConsumption.isEmpty)

/-- A call reads the flag only where nothing is written yet, or nothing but releases that it would
make too, and where no other call is under way that it would get in the way of. -/
def ReadsUntouched (s : ReconcilingPool) : ReconcilingEvent → Bool
  | .run i (.db .ok) =>
    match s.procs[i]? with
    | some (.find id _ answer) =>
      (s.shared.world.payouts.get id).all fun p =>
        !p.reconciliationRequired ||
          (s.shared.effects.all fun e => !answer && e.frees) &&
            s.procs.all fun q => q.resolution.all fun c =>
              p.allowsBoth answer c.transferActuallySucceeded
    | _ => true
  | _ => true

/-- What other calls do spares the payout and its claims. -/
def OthersSpare (id : PayoutId) (f : ClaimField) (s : ReconcilingPool) : ReconcilingEvent → Prop
  | .env w => s.shared.world.Spares w f id
  | _ => True

/-- Reconciliation has taken effect at most once, since the payout `p` was flagged in `w₀`. -/
structure Reconciling.Once (id : PayoutId) (p : Payout) (w₀ : World) (s : Reconciling) : Prop where
  applied : ∀ c, s.effects.count (.consumed c) ≤
    (p.clawbackConsumption.map (·.clawbackId)).count c
  exclusive : ∀ e ∈ s.effects, ∀ e' ∈ s.effects, e.answer = e'.answer
  agrees : ∀ d, s.world.payouts.get id = some d → d.reconciliationRequired = false →
    (d.status = .succeeded ∧
      ∀ o, s.world.claimOf p.claimField o = some id ↔ w₀.claimOf p.claimField o = some id) ∨
    (d.status = .failed ∧ ∀ o, s.world.claimOf p.claimField o ≠ some id)

/-! ## One awaited call -/

section Cases

variable {w w' : World} {pc pc' : ResolvePc} {r : Reply}

/-- A call that throws has written or not, and the resolution is over. -/
theorem resolve_threw {written : Bool} {m : String}
    (h : resolveStep w pc (.db (.threw written m)) = some (w', pc')) :
    pc' = .threw ∧ ∃ x, resolveStep w pc (.db .ok) = some x ∧
      w' = if written then x.1 else w := by
  have settle : ∀ {after : World} {next : ResolvePc},
      some (DbReply.settle (.threw written m) w after next fun _ => .threw) = some (w', pc') →
        pc' = .threw ∧ ∃ x, some (DbReply.settle .ok w after next fun _ => .threw) = some x ∧
          w' = if written then x.1 else w := by
    intro after next h
    cases written <;> cases h <;> exact ⟨rfl, _, rfl, rfl⟩
  cases pc with
  | find id admin answer =>
    simp only [resolveStep] at h ⊢
    split at h <;> exact settle h
  | consumeFind c e rest =>
    simp only [resolveStep] at h ⊢
    split at h <;> exact settle h
  | consumeSave c e b rest => exact settle h
  | release c rest => cases rest <;> exact settle h
  | save c => exact settle h
  | returned => cases h
  | rejected e => cases h
  | threw => cases h

/-- **A step is a move, or it throws**, with what the move would have written or without. -/
theorem resolve_cases (h : resolveStep w pc r = some (w', pc')) :
    (r = .db .ok ∧ ResolveMove w pc w' pc') ∨
    ∃ written m w₁ next, r = .db (.threw written m) ∧ ResolveMove w pc w₁ next ∧
      w' = (if written then w₁ else w) ∧ pc' = .threw := by
  cases r with
  | transfer r => cases pc <;> simp [resolveStep] at h
  | refund r => cases pc <;> simp [resolveStep] at h
  | db db =>
    cases db with
    | ok => exact Or.inl ⟨rfl, resolve_move rfl h⟩
    | threw written m =>
      obtain ⟨hpc, ⟨w₁, next⟩, hx, hw⟩ := resolve_threw h
      exact Or.inr ⟨written, m, w₁, next, rfl, resolve_move rfl hx, hw, hpc⟩

end Cases

/-! ## What is known along a run -/

namespace ResolvePc

/-- The entries that a call has still to consume. -/
def pending : ResolvePc → List Consumption
  | .consumeFind _ entry rest => entry :: rest
  | .consumeSave _ entry _ rest => entry :: rest
  | _ => []

/-- The orders that the releasing `updateMany` has still to visit. -/
def unvisited : ResolvePc → List OrderId
  | .release _ rest => rest
  | _ => []

/-- Clawbacks are consumed for a transfer that happened, orders released for one that did not. -/
def Sided : ResolvePc → Prop
  | .consumeFind c _ _ => c.transferActuallySucceeded = true
  | .consumeSave c _ _ _ => c.transferActuallySucceeded = true
  | .release c _ => c.transferActuallySucceeded = false
  | _ => True

end ResolvePc

/-- The status that an answer leads to. -/
def statusOf (answer : Bool) : PayoutStatus := if answer then .succeeded else .failed

section Outline

variable (id : PayoutId) (p : Payout) (w₀ : World)

/-- What is known of the payout as it is stored. -/
structure StoredOnce (s : Reconciling) (d : Payout) : Prop where
  vendorType : d.vendorType = p.vendorType
  consumption : d.clawbackConsumption = p.clawbackConsumption
  flagged : d.reconciliationRequired = true → d.status = p.status
  cleared : d.reconciliationRequired = false → ∃ answer, .resolved answer ∈ s.effects ∧
    d.status = statusOf answer ∧
    (answer = false → ∀ o, s.world.claimOf p.claimField o ≠ some id)

/-- What is known of the collections. -/
structure ReconcilesOnce (s : Reconciling) : Prop where
  stored : ∃ d, s.world.payouts.get id = some d ∧ StoredOnce id p s d
  exclusive : ∀ e ∈ s.effects, ∀ e' ∈ s.effects, e.answer = e'.answer
  kept : (∀ e ∈ s.effects, e.frees = false) →
    ∀ o, s.world.claimOf p.claimField o = some id ↔ w₀.claimOf p.claimField o = some id
  applied : ∀ c, s.effects.count (.consumed c) ≤
    (p.clawbackConsumption.map (·.clawbackId)).count c

/-- What is known of a call. -/
structure KnowsPayout (s : Reconciling) (pc : ResolvePc) : Prop where
  find : ∀ i admin answer, pc = .find i admin answer → i = id
  sided : pc.Sided
  live : ∀ c, pc.resolution = some c → c.payoutId = id ∧ c.payout.vendorType = p.vendorType ∧
    c.payout.status = p.status ∧ ∀ e ∈ s.effects, e.answer = c.transferActuallySucceeded
  applied : ∀ k, s.effects.count (.consumed k) + (pc.pending.map (·.clawbackId)).count k ≤
    (p.clawbackConsumption.map (·.clawbackId)).count k
  released : ∀ c, pc.resolution = some c → c.transferActuallySucceeded = false →
    ∀ o, s.world.claimOf p.claimField o = some id → o ∈ pc.unvisited

def reconcilingOutline : Outline Reconciling ResolvePc where
  shared := ReconcilesOnce id p w₀
  proc := KnowsPayout id p
  compat q q' := ∀ c c', q.resolution = some c → q'.resolution = some c' →
    c.transferActuallySucceeded = c'.transferActuallySucceeded ∧
      (c.transferActuallySucceeded = true → p.clawbackConsumption = [])
  symm _ _ h c c' hc hc' := by
    obtain ⟨hsame, hnone⟩ := h c' c hc' hc
    exact ⟨hsame.symm, fun ht => hnone (hsame.trans ht)⟩

end Outline

/-! ## One move -/

section Moves

variable {id : PayoutId} {p : Payout} {w₀ w w' : World} {s : Reconciling} {pc next : ResolvePc}
  {c : Resolution} {k : ClawbackId}

theorem effect_eq_nil (h : pc.resolution = none) : pc.effect w = [] := by
  cases pc <;> first | rfl | cases h

theorem pending_eq_nil (h : pc.resolution = none) : pc.pending = [] := by
  cases pc <;> first | rfl | cases h

/-- A call writes what its answer asks for. -/
theorem answer_of_effect (hs : pc.Sided) (hc : pc.resolution = some c) :
    ∀ e ∈ pc.effect w, e.answer = c.transferActuallySucceeded := by
  intro e he
  cases pc with
  | consumeSave c' entry clawback rest =>
    cases hc
    rw [List.mem_singleton.mp he]
    exact hs.symm
  | release c' rest =>
    cases hc
    cases rest with
    | nil => cases he
    | cons o rest =>
      rw [ResolvePc.effect] at he
      split at he
      · rw [List.mem_singleton.mp he]
        exact hs.symm
      · cases he
  | save c' =>
    cases hc
    rw [List.mem_singleton.mp he]
    rfl
  | _ => cases he

/-- It consumes no more than it has in hand. -/
theorem count_effect_le :
    (pc.effect w).count (.consumed k) ≤ (pc.pending.map (·.clawbackId)).count k := by
  cases pc with
  | consumeSave c entry clawback rest =>
    rw [ResolvePc.effect, ResolvePc.pending, List.map_cons, List.count_singleton, List.count_cons]
    by_cases hk : entry.clawbackId = k
    · subst hk
      simp
    · simp [hk]
  | release c rest =>
    cases rest with
    | nil => exact Nat.zero_le _
    | cons o rest =>
      rw [ResolvePc.effect]
      split <;> simp
  | _ => simp [ResolvePc.effect]

/-- Claims are only given up, and only as orders are freed. -/
theorem claims_move (hm : ResolveMove s.world pc w next)
    (hid : ∀ c, pc.resolution = some c → c.payoutId = id ∧ c.payout.claimField = p.claimField) :
    (∀ o, w.claimOf p.claimField o = some id → s.world.claimOf p.claimField o = some id) ∧
    ((∀ e ∈ pc.effect s.world, e.frees = false) → ∀ o,
      w.claimOf p.claimField o = some id ↔ s.world.claimOf p.claimField o = some id) := by
  cases hm with
  | released c o rest =>
    obtain ⟨rfl, hf⟩ := hid c rfl
    rw [hf]
    constructor
    · intro o' ho
      rw [World.claimOf_releaseOrder] at ho
      split at ho
      · cases ho
      · exact ho
    · intro hnone o'
      rw [World.claimOf_releaseOrder]
      split
      · next hfreed =>
        have hmem : ResolveEffect.freed o ∈ (ResolvePc.release c (o :: rest)).effect s.world := by
          rw [ResolvePc.effect, hf, if_pos hfreed.1]
          exact List.mem_singleton_self _
        cases hnone _ hmem
      · rfl
  | _ => exact ⟨fun _ ho => ho, fun _ _ => Iff.rfl⟩

/-- The payout is written by the last call alone. -/
theorem payouts_move (hm : ResolveMove s.world pc w next) (hpc : ∀ c, pc ≠ .save c) :
    w.payouts = s.world.payouts := by
  cases hm with
  | saved c => exact absurd rfl (hpc c)
  | _ => rfl

/-- The collections and the log once a call's write is in. -/
def Reconciling.after (s : Reconciling) (w : World) (pc : ResolvePc) : Reconciling :=
  ⟨w, s.effects ++ pc.effect s.world⟩

variable {q : ResolvePc}

/-- **A step of a call is a move of it, or it throws**, with its write in or without. -/
theorem reconciling_step {s' : Reconciling} {pc' : ResolvePc} {r : Reply}
    (h : s.step pc r = some (s', pc')) :
    (r = .db .ok ∧ ∃ w, ResolveMove s.world pc w pc' ∧ s' = s.after w pc) ∨
    (pc' = .threw ∧ (s' = s ∨ ∃ w next, ResolveMove s.world pc w next ∧ s' = s.after w pc)) := by
  obtain ⟨⟨w, next⟩, hx, he⟩ := Option.map_eq_some_iff.mp h
  cases he
  obtain ⟨rfl, hm⟩ | ⟨written, m, w₁, next', rfl, hm, rfl, rfl⟩ := resolve_cases hx
  · exact Or.inl ⟨rfl, w, hm, rfl⟩
  · cases written with
    | true => exact Or.inr ⟨rfl, Or.inr ⟨w₁, next', hm, rfl⟩⟩
    | false =>
      refine Or.inr ⟨rfl, Or.inl ?_⟩
      show (⟨s.world, s.effects ++ []⟩ : Reconciling) = s
      rw [List.append_nil]

theorem after_of_unwritten (h : pc.effect s.world = []) : s.after s.world pc = s := by
  rw [Reconciling.after, h, List.append_nil]

/-- What a call writes goes with its answer. -/
theorem answers_after (h : KnowsPayout id p s pc) (hc : pc.resolution = some c) :
    ∀ e ∈ (s.after w pc).effects, e.answer = c.transferActuallySucceeded := by
  intro e he
  rcases List.mem_append.mp he with hold | hnew
  · exact (h.live c hc).2.2.2 e hold
  · exact answer_of_effect h.sided hc e hnew

theorem KnowsPayout.claimField (h : KnowsPayout id p s pc) (c : Resolution)
    (hc : pc.resolution = some c) : c.payoutId = id ∧ c.payout.claimField = p.claimField := by
  obtain ⟨hid, htype, _⟩ := h.live c hc
  exact ⟨hid, congrArg PayoutVendorType.claimField htype⟩

/-- The status of a saved payout, whichever version of it the call had read. -/
theorem status_saveResolved {d : Payout} (hd : StoredOnce id p s d)
    (h : KnowsPayout id p s (.save c)) :
    (d.saveResolved c.payout c.transferActuallySucceeded c.adminUserId c.reconciledAt).status =
      statusOf c.transferActuallySucceeded := by
  obtain ⟨_, _, hread, hanswers⟩ := h.live c rfl
  show (if c.payout.status = statusOf c.transferActuallySucceeded then d.status
    else statusOf c.transferActuallySucceeded) = _
  split
  · next hunwritten =>
    cases hflag : d.reconciliationRequired with
    | true => exact (hd.flagged hflag).trans (hread.symm.trans hunwritten)
    | false =>
      obtain ⟨answer, hmem, hstatus, _⟩ := hd.cleared hflag
      rw [hstatus, ← hanswers _ hmem]
      rfl
  · rfl

theorem storedOnce_saved {d : Payout} (hd : StoredOnce id p s d)
    (h : KnowsPayout id p s (.save c))
    (hclaims : ∀ o, w.claimOf p.claimField o = some id → s.world.claimOf p.claimField o = some id) :
    StoredOnce id p (s.after w (.save c))
      (d.saveResolved c.payout c.transferActuallySucceeded c.adminUserId c.reconciledAt) where
  vendorType := hd.vendorType
  consumption := hd.consumption
  flagged hflag := by cases hflag
  cleared _ := by
    refine ⟨_, List.mem_append_right _ (List.mem_singleton_self _), status_saveResolved hd h,
      fun hfailed o ho => ?_⟩
    cases h.released c rfl hfailed o (hclaims o ho)

theorem reconcilesOnce_move (h : ReconcilesOnce id p w₀ s) (hpc : KnowsPayout id p s pc)
    (hm : ResolveMove s.world pc w next) : ReconcilesOnce id p w₀ (s.after w pc) where
  stored := by
    obtain ⟨d, hget, hd⟩ := h.stored
    have hclaims := (claims_move hm hpc.claimField).1
    by_cases hsave : ∃ c, pc = .save c
    · obtain ⟨c, rfl⟩ := hsave
      obtain ⟨rfl, _⟩ := hpc.live c rfl
      cases hm
      refine ⟨_, ?_, storedOnce_saved hd hpc hclaims⟩
      rw [Reconciling.after, World.modifyPayout, Collection.get_modify_self, hget]
      rfl
    · have hsame := payouts_move hm fun c he => hsave ⟨c, he⟩
      refine ⟨d, hsame ▸ hget, hd.vendorType, hd.consumption, hd.flagged, fun hflag => ?_⟩
      obtain ⟨answer, hmem, hstatus, hnone⟩ := hd.cleared hflag
      exact ⟨answer, List.mem_append_left _ hmem, hstatus, fun hfailed o ho =>
        hnone hfailed o (hclaims o ho)⟩
  exclusive := by
    cases hc : pc.resolution with
    | none =>
      rw [Reconciling.after, effect_eq_nil hc, List.append_nil]
      exact h.exclusive
    | some c =>
      intro e he e' he'
      exact (answers_after hpc hc e he).trans (answers_after hpc hc e' he').symm
  kept hnone o := by
    have hold := h.kept fun e he => hnone e (List.mem_append_left _ he)
    have hnew := (claims_move hm hpc.claimField).2 fun e he => hnone e (List.mem_append_right _ he)
    exact (hnew o).trans (hold o)
  applied k := by
    have hcount := hpc.applied k
    have hnew : (pc.effect s.world).count (.consumed k) ≤ _ := count_effect_le
    rw [Reconciling.after, List.count_append]
    exact Nat.le_trans (Nat.add_le_add_left hnew _) hcount

/-- What a call writes leaves what is known of another one. -/
theorem knowsPayout_other (hpc : KnowsPayout id p s pc) (hq : KnowsPayout id p s q)
    (hm : ResolveMove s.world pc w next) (hafter : ReconcilesOnce id p w₀ (s.after w pc))
    (hboth : ∀ c c', pc.resolution = some c → q.resolution = some c' →
      c.transferActuallySucceeded = c'.transferActuallySucceeded ∧
        (c.transferActuallySucceeded = true → p.clawbackConsumption = [])) :
    KnowsPayout id p (s.after w pc) q where
  find := hq.find
  sided := hq.sided
  live c' hc' := by
    obtain ⟨hid, htype, hread, hanswers⟩ := hq.live c' hc'
    refine ⟨hid, htype, hread, ?_⟩
    cases hc : pc.resolution with
    | none =>
      rw [Reconciling.after, effect_eq_nil hc, List.append_nil]
      exact hanswers
    | some c =>
      intro e he
      exact (answers_after hpc hc e he).trans (hboth c c' hc hc').1
  applied k := by
    cases hc' : q.resolution with
    | none =>
      rw [pending_eq_nil hc']
      exact hafter.applied k
    | some c' =>
      have hnew : (pc.effect s.world).count (.consumed k) = 0 := by
        cases hc : pc.resolution with
        | none =>
          rw [effect_eq_nil hc]
          rfl
        | some c =>
          rw [List.count_eq_zero]
          intro hmem
          have htrue := (answer_of_effect hpc.sided hc _ hmem).symm
          have hcount := hpc.applied k
          rw [(hboth c c' hc hc').2 htrue] at hcount
          have hone : 0 < (pc.effect s.world).count (.consumed k) := List.count_pos_iff.mpr hmem
          have hle : (pc.effect s.world).count (.consumed k) ≤ _ := count_effect_le
          exact absurd (Nat.lt_of_lt_of_le hone hle)
            (Nat.not_lt_of_le (Nat.le_trans (Nat.le_add_left _ _) hcount))
      rw [Reconciling.after, List.count_append, hnew, Nat.add_zero]
      exact hq.applied k
  released c' hc' hfailed o ho :=
    hq.released c' hc' hfailed o ((claims_move hm hpc.claimField).1 o ho)

/-- What a call has read, and that all that was written goes with its answer. -/
def Agrees (id : PayoutId) (p : Payout) (s : Reconciling) (c : Resolution) : Prop :=
  c.payoutId = id ∧ c.payout.vendorType = p.vendorType ∧ c.payout.status = p.status ∧
    ∀ e ∈ s.effects, e.answer = c.transferActuallySucceeded

theorem knowsPayout_live (hc : pc.resolution = some c) (hs : pc.Sided) (hlive : Agrees id p s c)
    (happlied : ∀ k, s.effects.count (.consumed k) + (pc.pending.map (·.clawbackId)).count k ≤
      (p.clawbackConsumption.map (·.clawbackId)).count k)
    (hreleased : c.transferActuallySucceeded = false →
      ∀ o, s.world.claimOf p.claimField o = some id → o ∈ pc.unvisited) :
    KnowsPayout id p s pc where
  find i admin answer he := by
    rw [he] at hc
    cases hc
  sided := hs
  live c' hc' := by
    obtain rfl := Option.some.inj (hc.symm.trans hc')
    exact hlive
  applied := happlied
  released c' hc' := by
    obtain rfl := Option.some.inj (hc.symm.trans hc')
    exact hreleased

/-- A call that confirms the transfer, with these entries left. -/
theorem knowsPayout_consume {rest : List Consumption} (hlive : Agrees id p s c)
    (htrue : c.transferActuallySucceeded = true)
    (happlied : ∀ k, s.effects.count (.consumed k) + (rest.map (·.clawbackId)).count k ≤
      (p.clawbackConsumption.map (·.clawbackId)).count k) :
    KnowsPayout id p s (.consume c rest) := by
  have hreleased : ∀ pc : ResolvePc, c.transferActuallySucceeded = false →
      ∀ o, s.world.claimOf p.claimField o = some id → o ∈ pc.unvisited := by
    intro pc hfalse
    rw [htrue] at hfalse
    cases hfalse
  cases rest with
  | nil => exact knowsPayout_live rfl trivial hlive happlied (hreleased _)
  | cons e rest => exact knowsPayout_live rfl htrue hlive happlied (hreleased _)

/-- A call that is over. -/
theorem knowsPayout_ended (h : ReconcilesOnce id p w₀ s)
    (hfind : ∀ i admin answer, pc ≠ .find i admin answer) (hc : pc.resolution = none) :
    KnowsPayout id p s pc where
  find i admin answer he := absurd he (hfind i admin answer)
  sided := by
    cases pc <;> trivial
  live c hlive := by
    rw [hc] at hlive
    cases hlive
  applied k := by
    rw [pending_eq_nil hc]
    exact h.applied k
  released c hlive := by
    rw [hc] at hlive
    cases hlive

/-- What a call that reads the flag has to find. -/
def Untouched (s : Reconciling) (answer : Bool) : Prop :=
  ∀ e ∈ s.effects, answer = false ∧ e.frees = true

theorem Untouched.answer {answer : Bool} (h : Untouched s answer) {e : ResolveEffect}
    (he : e ∈ s.effects) : e.answer = answer := by
  obtain ⟨rfl, hfrees⟩ := h e he
  cases e <;> first
    | rfl
    | cases hfrees

theorem Untouched.count {answer : Bool} (h : Untouched s answer) :
    s.effects.count (.consumed k) = 0 := by
  rw [List.count_eq_zero]
  intro hmem
  cases (h _ hmem).2

/-- A call that has just read the flag. -/
theorem knowsPayout_accepted {d : Payout} {answer : Bool} (admin : UserId)
    (hd : StoredOnce id p s d) (hflag : d.reconciliationRequired = true)
    (huntouched : Untouched s answer) :
    KnowsPayout id p s (if answer then
        .consume ⟨id, d, admin, answer, s.world.now⟩ d.clawbackConsumption
      else .release ⟨id, d, admin, answer, s.world.now⟩ s.world.orders.ids) := by
  have hlive : Agrees id p s ⟨id, d, admin, answer, s.world.now⟩ :=
    ⟨rfl, hd.vendorType, hd.flagged hflag, fun e he => huntouched.answer he⟩
  cases answer with
  | true =>
    refine knowsPayout_consume hlive rfl fun k => ?_
    rw [huntouched.count, hd.consumption, Nat.zero_add]
  | false =>
    refine knowsPayout_live rfl rfl hlive (fun k => ?_) fun _ o ho =>
      Collection.mem_ids.mpr (World.lt_nextId_of_claimOf ho)
    rw [huntouched.count]
    exact Nat.zero_le _

/-- What is known of a call after its next move. -/
theorem knowsPayout_move (h : ReconcilesOnce id p w₀ s) (hpc : KnowsPayout id p s pc)
    (hm : ResolveMove s.world pc w next)
    (hread : ∀ i admin answer d, pc = .find i admin answer → s.world.payouts.get id = some d →
      d.reconciliationRequired = true → Untouched s answer) :
    KnowsPayout id p (s.after w pc) next := by
  have hafter := reconcilesOnce_move h hpc hm
  have hlive : ∀ c, pc.resolution = some c → Agrees id p (s.after w pc) c := by
    intro c hc
    obtain ⟨hid, htype, hstatus, _⟩ := hpc.live c hc
    exact ⟨hid, htype, hstatus, answers_after hpc hc⟩
  have happlied := hafter.applied
  cases hm with
  | rejected => exact knowsPayout_ended hafter (fun _ _ _ he => by cases he) rfl
  | accepted i admin answer d hget hflag =>
    obtain rfl := hpc.find i admin answer rfl
    obtain ⟨d', hget', hd⟩ := h.stored
    obtain rfl := Option.some.inj (hget.symm.trans hget')
    have hown := knowsPayout_accepted admin hd hflag (hread _ admin answer d rfl hget hflag)
    rwa [after_of_unwritten rfl]
  | entryGone c e rest hgone =>
    refine knowsPayout_consume (hlive c rfl) hpc.sided fun k => ?_
    have hcount := hpc.applied k
    rw [ResolvePc.pending, List.map_cons] at hcount
    rw [after_of_unwritten rfl]
    exact Nat.le_trans (Nat.add_le_add_left List.count_le_count_cons _) hcount
  | entryFound c e b rest hfound =>
    refine knowsPayout_live rfl hpc.sided (hlive c rfl) ?_ ?_
    · rw [after_of_unwritten rfl]
      exact hpc.applied
    · exact fun hfalse o ho => hpc.released c rfl hfalse o ho
  | entrySaved c e b rest =>
    refine knowsPayout_consume (hlive c rfl) hpc.sided fun k => ?_
    have hcount := hpc.applied k
    rw [ResolvePc.pending, List.map_cons, List.count_cons] at hcount
    rw [Reconciling.after, ResolvePc.effect, List.count_append, List.count_singleton]
    simp only [beq_iff_eq, ResolveEffect.consumed.injEq] at hcount ⊢
    omega
  | released c o rest =>
    refine knowsPayout_live rfl hpc.sided (hlive c rfl) (fun k => happlied k)
      fun hfalse o' ho' => ?_
    obtain ⟨rfl, hfield⟩ := hpc.claimField c rfl
    rw [Reconciling.after, hfield, World.claimOf_releaseOrder] at ho'
    split at ho'
    · cases ho'
    · next hkept =>
      rcases List.mem_cons.mp (hpc.released c rfl hfalse o' ho') with rfl | hmem
      · exact absurd ⟨ho', rfl, rfl⟩ hkept
      · exact hmem
  | releasedAll c =>
    refine knowsPayout_live rfl trivial (hlive c rfl) (fun k => happlied k) fun hfalse o ho => ?_
    cases hpc.released c rfl hfalse o ho
  | saved c => exact knowsPayout_ended hafter (fun _ _ _ he => by cases he) rfl

/-- A call that has read the flag goes on with the same resolution. -/
theorem resolution_move (hm : ResolveMove w pc w' next)
    (hfind : ∀ i admin answer, pc ≠ .find i admin answer) :
    next.resolution = none ∨ next.resolution = pc.resolution := by
  cases hm with
  | rejected i admin answer => exact absurd rfl (hfind i admin answer)
  | accepted i admin answer => exact absurd rfl (hfind i admin answer)
  | entryGone c e rest => cases rest <;> exact Or.inr rfl
  | entryFound => exact Or.inr rfl
  | entrySaved c e b rest => cases rest <;> exact Or.inr rfl
  | released => exact Or.inr rfl
  | releasedAll => exact Or.inr rfl
  | saved => exact Or.inl rfl

end Moves

/-! ## Runs -/

section Runs

variable {id : PayoutId} {p : Payout} {w₀ : World} {s : ReconcilingPool}

theorem find_move {w : World} {i : PayoutId} {admin : UserId} {answer : Bool} {next : ResolvePc}
    (hm : ResolveMove s.shared.world (.find i admin answer) w next) :
    next.resolution = none ∨ ∃ d c, s.shared.world.payouts.get i = some d ∧
      d.reconciliationRequired = true ∧ next.resolution = some c ∧
        c.transferActuallySucceeded = answer := by
  cases hm with
  | rejected => exact Or.inl rfl
  | accepted i admin answer d hget hflag =>
    refine Or.inr ⟨d, ⟨i, d, admin, answer, s.shared.world.now⟩, hget, hflag, ?_, rfl⟩
    cases answer with
    | true => cases hrest : d.clawbackConsumption <;> rfl
    | false => rfl

/-- What the condition says of a call that finds the flag set. -/
theorem untouched_of_reads {i : Nat} {admin : UserId} {answer : Bool} {d : Payout}
    (hok : ReadsUntouched s (.run i (.db .ok)) = true)
    (hp : s.procs[i]? = some (.find id admin answer))
    (hget : s.shared.world.payouts.get id = some d) (hflag : d.reconciliationRequired = true) :
    Untouched s.shared answer ∧ ∀ q ∈ s.procs, ∀ c, q.resolution = some c →
      d.allowsBoth answer c.transferActuallySucceeded = true := by
  simp only [ReadsUntouched, hp, hget, Option.all_some, hflag, Bool.not_true, Bool.false_or,
    Bool.and_eq_true, List.all_eq_true, Bool.not_eq_true'] at hok
  refine ⟨hok.1, fun q hq c hc => ?_⟩
  have hall := hok.2 q hq
  rwa [hc, Option.all_some] at hall

/-- Other calls change nothing of what is known of the payout. -/
theorem ReconcilesOnce.spares {s : Reconciling} {w : World} (h : ReconcilesOnce id p w₀ s)
    (hs : s.world.Spares w p.claimField id) : ReconcilesOnce id p w₀ { s with world := w } where
  stored := by
    obtain ⟨d, hget, hd⟩ := h.stored
    refine ⟨d, hs.payout.trans hget, hd.vendorType, hd.consumption, hd.flagged, fun hflag => ?_⟩
    obtain ⟨answer, hmem, hstatus, hnone⟩ := hd.cleared hflag
    exact ⟨answer, hmem, hstatus, fun hfailed o ho => hnone hfailed o ((hs.claims o).mp ho)⟩
  exclusive := h.exclusive
  kept hnone o := (hs.claims o).trans (h.kept hnone o)
  applied := h.applied

theorem KnowsPayout.spares {s : Reconciling} {w : World} {pc : ResolvePc}
    (h : KnowsPayout id p s pc) (hs : s.world.Spares w p.claimField id) :
    KnowsPayout id p { s with world := w } pc where
  find := h.find
  sided := h.sided
  live := h.live
  applied := h.applied
  released c hc hfalse o ho := h.released c hc hfalse o ((hs.claims o).mp ho)

/-- A move of a call keeps the outline, once its write is in. -/
theorem reconcilingOutline_move {i : Nat} {pc next : ResolvePc} {w : World}
    (h : (reconcilingOutline id p w₀).Holds s) (hp : s.procs[i]? = some pc)
    (hm : ResolveMove s.shared.world pc w next) :
    ReconcilesOnce id p w₀ (s.shared.after w pc) ∧
      ∀ j q, i ≠ j → s.procs[j]? = some q → KnowsPayout id p (s.shared.after w pc) q := by
  have hafter := reconcilesOnce_move h.shared (h.at hp) hm
  exact ⟨hafter, fun j q hij hq =>
    knowsPayout_other (h.at hp) (h.at hq) hm hafter (h.compat i j pc q hij hp hq)⟩

/-- The next move of a call does not get in the way of another one. -/
theorem compat_move {i j : Nat} {pc next q : ResolvePc} {w : World}
    (hok : ReadsUntouched s (.run i (.db .ok)) = true)
    (h : (reconcilingOutline id p w₀).Holds s) (hp : s.procs[i]? = some pc)
    (hm : ResolveMove s.shared.world pc w next) (hij : i ≠ j) (hq : s.procs[j]? = some q) :
    (reconcilingOutline id p w₀).compat next q := by
  intro c c' hc hc'
  by_cases hfind : ∃ i admin answer, pc = .find i admin answer
  · obtain ⟨pid, admin, answer, rfl⟩ := hfind
    obtain rfl := (h.at hp).find _ _ _ rfl
    obtain hnone | ⟨d, c, hget, hflag, hsome, rfl⟩ := find_move hm
    · cases hnone.symm.trans hc
    · obtain rfl := Option.some.inj (hsome.symm.trans hc)
      obtain ⟨d', hget', hd⟩ := h.shared.stored
      obtain rfl := Option.some.inj (hget.symm.trans hget')
      have hboth := (untouched_of_reads hok hp hget hflag).2 q (List.mem_of_getElem? hq) c' hc'
      simp only [Payout.allowsBoth, hd.consumption, Bool.and_eq_true, beq_iff_eq, Bool.or_eq_true,
        Bool.not_eq_true', List.isEmpty_iff] at hboth
      refine ⟨hboth.1, fun htrue => ?_⟩
      simpa [htrue] using hboth.2
  · obtain hnone | hsame := resolution_move hm fun pid admin answer he =>
      hfind ⟨pid, admin, answer, he⟩
    · cases hnone.symm.trans hc
    · exact h.compat i j pc q hij hp hq c c' (hsame.symm.trans hc) hc'

theorem reconcilingOutline_kept :
    (reconcilingOutline id p w₀).Kept (reconciling id)
      (fun s e => ReadsUntouched s e = true ∧ OthersSpare id p.claimField s e)
      (fun _ => True) where
  spawn s k _ _ h := by
    refine ⟨⟨fun _ _ _ he => (by cases he; rfl), trivial, fun _ hc => (by cases hc), fun k => ?_,
      fun _ hc => (by cases hc)⟩, fun q _ c c' hc => by cases hc⟩
    exact h.shared.applied k
  env s w w' _ hok h hw := by
    cases hw
    exact ⟨h.shared.spares hok.2, fun q hq => (h.procs q hq).spares hok.2⟩
  run s i r pc w pc' _ hok h hp hstep := by
    obtain ⟨rfl, w, hm, rfl⟩ | ⟨rfl, hw⟩ := reconciling_step hstep
    · -- the call goes on, or it is over
      obtain ⟨hafter, hothers⟩ := reconcilingOutline_move h hp hm
      refine ⟨hafter, knowsPayout_move h.shared (h.at hp) hm ?_, fun j q hij hq _ _ =>
        ⟨hothers j q hij hq, compat_move hok.1 h hp hm hij hq⟩⟩
      rintro pid admin answer d rfl hget hflag
      obtain rfl := (h.at hp).find _ _ _ rfl
      exact (untouched_of_reads hok.1 hp hget hflag).1
    · -- it has thrown, and with it nothing is under way any more
      have hcompat : ∀ q : ResolvePc, (reconcilingOutline id p w₀).compat .threw q :=
        fun _ _ _ hc => by cases hc
      obtain rfl | ⟨w, next, hm, rfl⟩ := hw
      · exact ⟨h.shared, knowsPayout_ended h.shared (fun _ _ _ he => by cases he) rfl,
          fun j q _ _ hq _ => ⟨hq, hcompat q⟩⟩
      · obtain ⟨hafter, hothers⟩ := reconcilingOutline_move h hp hm
        exact ⟨hafter, knowsPayout_ended hafter (fun _ _ _ he => by cases he) rfl,
          fun j q hij hq _ _ => ⟨hothers j q hij hq, hcompat q⟩⟩

/-- **Reconciliation takes effect once**: for any number of calls with any answers, in any order of
their steps and whichever of these throw. -/
theorem reconciled_once (hp : w₀.payouts.get id = some p) (hflag : p.reconciliationRequired = true)
    (h : (reconciling id).Reach
      (fun s e => ReadsUntouched s e = true ∧ OthersSpare id p.claimField s e) ⟨⟨w₀, []⟩, []⟩ s) :
    s.shared.Once id p w₀ := by
  have hstart : ReconcilesOnce id p w₀ ⟨w₀, []⟩ := by
    refine ⟨⟨p, hp, rfl, rfl, fun _ => rfl, fun hcleared => ?_⟩, ?_, fun _ _ => Iff.rfl, ?_⟩
    · rw [hflag] at hcleared
      cases hcleared
    · exact fun e he => by cases he
    · exact fun _ => Nat.zero_le _
  have hkept := (Outline.holds_of_reach reconcilingOutline_kept (fun _ _ => trivial)
    (Outline.holds_nil hstart) h).shared
  refine ⟨hkept.applied, hkept.exclusive, fun d hget hcleared => ?_⟩
  obtain ⟨d', hget', hd⟩ := hkept.stored
  obtain rfl := Option.some.inj (hget.symm.trans hget')
  obtain ⟨answer, hmem, hstatus, hnone⟩ := hd.cleared hcleared
  cases answer with
  | false => exact Or.inr ⟨hstatus, hnone rfl⟩
  | true =>
    refine Or.inl ⟨hstatus, hkept.kept fun e he => ?_⟩
    have hanswer := hkept.exclusive e he _ hmem
    cases e <;> first
      | rfl
      | cases hanswer

end Runs

/-! ## Concrete runs -/

/-- A payout of one order that has to be reconciled.  It nets 3 of a clawback of 9. -/
def flaggedPayout : Payout where
  vendorType := .restaurant
  vendorId := 7
  orderIds := [0]
  grossAmount := 6
  clawbackDeducted := 3
  clawbackConsumption := [⟨0, 3⟩]
  currency := "NGN"
  provider := .paystack
  payoutAccountReference := "RCP_1"
  status := .failed
  providerTransferReference := none
  failureReason := some "socket hang up"
  reconciliationRequired := true
  reconciledAt := none
  reconciledBy := none

def flaggedWorld : World :=
  let order := Order.created (.restaurant 7) 1 0 "NGN" .paystack (.ofCents 100) (.ofCents 1100)
    (.ofCents 900)
  { World.empty [] with
    orders := ⟨[{ order with vendorPayoutId := some 0 }]⟩
    payouts := ⟨[flaggedPayout]⟩
    clawbacks := ⟨[⟨.restaurant, 7, 5, 4, .paystack, "NGN", 9, 9, .pending⟩]⟩ }

/-- Nothing happens beside the calls. -/
def callsAlone (_ : ReconcilingPool) : ReconcilingEvent → Bool
  | .env _ => false
  | _ => true

theorem othersSpare_of_alone {id : PayoutId} {f : ClaimField} {s : ReconcilingPool}
    {e : ReconcilingEvent} (h : callsAlone s e = true) : OthersSpare id f s e := by
  cases e <;> trivial

/-- The calls take their next steps in this order, and the database answers. -/
def resolveTurns (calls : List Nat) : List ReconcilingEvent :=
  calls.map fun i => .run i (.db .ok)

/-- One admin confirms the transfer, another one denies it afterwards. -/
def confirmedThenDenied : List ReconcilingEvent :=
  [.spawn ⟨1, true⟩] ++ resolveTurns [0, 0, 0, 0] ++ [.spawn ⟨2, false⟩] ++ resolveTurns [1]

theorem reconciled_once_confirmed : ∃ s : ReconcilingPool,
    s.procs = [.returned,
      .rejected (.badRequest "This payout is not flagged for reconciliation")] ∧
    s.shared.effects = [.consumed 0, .resolved true] ∧
    s.shared.Once 0 flaggedPayout flaggedWorld := by
  have hplay : ((reconciling 0).play (fun s e => ReadsUntouched s e && callsAlone s e)
      ⟨⟨flaggedWorld, []⟩, []⟩ confirmedThenDenied).any (fun s => s.procs = [.returned,
        .rejected (.badRequest "This payout is not flagged for reconciliation")] &&
          s.shared.effects = [.consumed 0, .resolved true]) = true := by
    decide +kernel
  have hok : ∀ s e, (ReadsUntouched s e && callsAlone s e) = true →
      ReadsUntouched s e = true ∧ OthersSpare 0 flaggedPayout.claimField s e := by
    intro s e h
    rw [Bool.and_eq_true] at h
    exact ⟨h.1, othersSpare_of_alone h.2⟩
  obtain ⟨s, hs, hp⟩ := Machine.exists_reach_of_play hok confirmedThenDenied hplay
  rw [Bool.and_eq_true, decide_eq_true_eq, decide_eq_true_eq] at hp
  exact ⟨s, hp.1, hp.2, reconciled_once rfl rfl hs⟩

/-- Two admins confirm the transfer at the same time. -/
def confirmedAtOnce : List ReconcilingEvent :=
  [.spawn ⟨1, true⟩, .spawn ⟨2, true⟩] ++ resolveTurns [0, 1, 0, 0, 0, 1, 1, 1]

/-- The `save()` of the payout throws, and the transfer is confirmed again. -/
def confirmedAgain : List ReconcilingEvent :=
  [.spawn ⟨1, true⟩] ++ resolveTurns [0, 0, 0] ++ [.run 0 (.db (.threw false "timed out")),
    .spawn ⟨1, true⟩] ++ resolveTurns [1, 1, 1, 1]

/-- One admin confirms the transfer while another one denies it. -/
def confirmedAndDenied : List ReconcilingEvent :=
  [.spawn ⟨1, true⟩, .spawn ⟨2, false⟩] ++ resolveTurns [0, 1, 0, 0, 0, 1, 1, 1]

/-- **Of the clawback of 9 only 3 are left, for a payout that nets 3 of it**: two calls at the same
time, and a call after one whose last `save()` threw.  **And a payout that has succeeded gives its
order back**: two calls that disagree. -/
theorem reconciled_twice :
    (∀ es ∈ [confirmedAtOnce, confirmedAgain], ∃ s : ReconcilingPool,
      (reconciling 0).exec ⟨⟨flaggedWorld, []⟩, []⟩ es = some s ∧
      (s.shared.world.clawbacks.get 0).map (·.remainingAmount) = some 3 ∧
      ¬ s.shared.Once 0 flaggedPayout flaggedWorld) ∧
    ∃ s : ReconcilingPool,
      (reconciling 0).exec ⟨⟨flaggedWorld, []⟩, []⟩ confirmedAndDenied = some s ∧
      (s.shared.world.payouts.get 0).map (·.status) = some .succeeded ∧
      s.shared.world.claimOf .vendorPayoutId 0 = none ∧
      ¬ s.shared.Once 0 flaggedPayout flaggedWorld := by
  refine ⟨fun es hes => ?_, ?_⟩
  · have hrun : ∀ es ∈ [confirmedAtOnce, confirmedAgain],
        (((reconciling 0).exec ⟨⟨flaggedWorld, []⟩, []⟩ es).any fun s =>
          (s.shared.world.clawbacks.get 0).map (·.remainingAmount) = some 3 &&
            s.shared.effects.count (.consumed 0) = 2) = true := by
      decide +kernel
    have hany := hrun es hes
    rw [Option.any_eq_true] at hany
    obtain ⟨s, hs, hp⟩ := hany
    rw [Bool.and_eq_true, decide_eq_true_eq, decide_eq_true_eq] at hp
    refine ⟨s, hs, hp.1, fun honce => ?_⟩
    have happlied := honce.applied 0
    rw [hp.2] at happlied
    exact absurd happlied (by decide)
  · have hrun : (((reconciling 0).exec ⟨⟨flaggedWorld, []⟩, []⟩ confirmedAndDenied).any fun s =>
        (s.shared.world.payouts.get 0).map (·.status) = some .succeeded &&
          s.shared.world.claimOf .vendorPayoutId 0 = none && .consumed 0 ∈ s.shared.effects &&
            .freed 0 ∈ s.shared.effects) = true := by
      decide +kernel
    rw [Option.any_eq_true] at hrun
    obtain ⟨s, hs, hp⟩ := hrun
    simp only [Bool.and_eq_true, decide_eq_true_eq] at hp
    obtain ⟨⟨⟨hstatus, hfree⟩, hconsumed⟩, hfreed⟩ := hp
    refine ⟨s, hs, hstatus, hfree, fun honce => ?_⟩
    cases honce.exclusive _ hconsumed _ hfreed

end FoodDelivery
