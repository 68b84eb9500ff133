import FoodDelivery.System

/-!
# Who writes a payout

While `executePayout` runs, its payout document is written by that call alone,
and `resolveReconciliation` can only take up a payout whose execution has ended.

* `exec_executes`: a move of `executePayout` keeps the document in memory and the
  stored one in step.
* `ownership_kept`: in every run without a database failure, no two calls execute
  one payout, and no payout is resolved while it is executed.
-/

namespace FoodDelivery

open Store Interleave

/-- What a payout is about is fixed when it is created. -/
structure SameTerms (p q : Payout) : Prop where
  vendorType : p.vendorType = q.vendorType
  orderIds : p.orderIds = q.orderIds
  consumption : p.clawbackConsumption = q.clawbackConsumption

theorem SameTerms.refl (p : Payout) : SameTerms p p := ⟨rfl, rfl, rfl⟩

theorem SameTerms.trans {p q r : Payout} (h : SameTerms p q) (h' : SameTerms q r) :
    SameTerms p r :=
  ⟨h.1.trans h'.1, h.2.trans h'.2, h.3.trans h'.3⟩

theorem SameTerms.symm {p q : Payout} (h : SameTerms p q) : SameTerms q p :=
  ⟨h.1.symm, h.2.symm, h.3.symm⟩

theorem SameTerms.claimField {p q : Payout} (h : SameTerms p q) : p.claimField = q.claimField :=
  congrArg PayoutVendorType.claimField h.1

/-- How far the execution of a payout is: the document in memory, the stored
status, and the status and flag in memory. -/
structure Stage where
  id : PayoutId
  payout : Payout
  stored : PayoutStatus
  memory : PayoutStatus
  flagged : Bool

def ExecPc.stage : ExecPc → Option Stage
  | .claim id p _ _ => some ⟨id, p, .pending, .pending, false⟩
  | .raceRelease id p _ => some ⟨id, p, .pending, .failed, false⟩
  | .raceSave id p => some ⟨id, p, .pending, .failed, false⟩
  | .zeroSave id p => some ⟨id, p, .pending, .succeeded, false⟩
  | .processingSave id p => some ⟨id, p, .pending, .processing, false⟩
  | .transfer id p => some ⟨id, p, .processing, .processing, false⟩
  | .successSave id p => some ⟨id, p, .processing, .succeeded, false⟩
  | .consumeFind _ id p _ _ => some ⟨id, p, .succeeded, .succeeded, false⟩
  | .consumeSave _ id p _ _ _ => some ⟨id, p, .succeeded, .succeeded, false⟩
  | .flagSave id p => some ⟨id, p, .processing, .failed, true⟩
  | .failSave id p => some ⟨id, p, .processing, .failed, false⟩
  | .release id p _ => some ⟨id, p, .failed, .failed, false⟩
  | _ => none

def ExecPc.payoutId (e : ExecPc) : Option PayoutId := e.stage.map Stage.id

/-- A flagged payout is a failed one. -/
theorem ExecPc.memory_of_flagged {e : ExecPc} {st : Stage} (h : e.stage = some st)
    (hf : st.flagged = true) : st.memory = .failed := by
  cases e <;> cases h <;> first | rfl | cases hf

/-- The stored document and the one in memory agree with the stage. -/
structure Executes (w : World) (a : Attempt) (st : Stage) : Prop where
  stored : ∃ d, w.payouts.get st.id = some d ∧ d.status = st.stored ∧
    d.reconciliationRequired = false ∧ SameTerms d a.newPayout
  terms : SameTerms st.payout a.newPayout
  status : st.payout.status = st.memory
  flag : st.payout.reconciliationRequired = st.flagged

theorem Executes.congr {w w' : World} {a : Attempt} {st : Stage} (h : Executes w a st)
    (hw : ∀ d, w.payouts.get st.id = some d → w'.payouts.get st.id = some d) :
    Executes w' a st :=
  ⟨h.stored.imp fun _ hd => ⟨hw _ hd.1, hd.2⟩, h.terms, h.status, h.flag⟩

/-- What the `save()` of a stage leaves. -/
theorem Executes.saved {w : World} {a : Attempt} {st : Stage} {s : PayoutStatus}
    (h : Executes w a st) (hs : s = st.memory) (hf : st.flagged = false) :
    Executes (w.modifyPayout st.id fun _ => st.payout) a ⟨st.id, st.payout, s, s, false⟩ := by
  obtain ⟨d, hd, _⟩ := h.stored
  refine ⟨⟨st.payout, ?_, ?_, ?_, h.terms⟩, h.terms, ?_, ?_⟩
  · rw [World.modifyPayout, Collection.get_modify_self, hd, Option.map_some]
  · rw [h.status, hs]
  · rw [h.flag, hf]
  · rw [h.status, hs]
  · rw [h.flag, hf]

section Exec

variable {a : Attempt} {w w' : World} {e e' : ExecPc} {r : Reply}

theorem stage_consume {guarded : Bool} {id : PayoutId} {p : Payout} {rest : List Consumption}
    {st : Stage} (h : (ExecPc.consume guarded id p rest).stage = some st) :
    st = ⟨id, p, .succeeded, .succeeded, false⟩ := by
  cases rest with
  | nil => cases h
  | cons entry rest => exact (Option.some.inj h).symm

/-- **The document in memory and the stored one stay in step.** -/
theorem exec_executes (hm : ExecMove a w e r w' e')
    (h : ∀ st, e.stage = some st → Executes w a st) :
    ∀ st, e'.stage = some st → Executes w' a st := by
  intro st hst
  cases hm with
  | created hv =>
    cases hst
    exact ⟨⟨a.newPayout, Collection.get_create_self, rfl, rfl, .refl _⟩, .refl _, rfl, rfl⟩
  | invalid hv => cases hst
  | claimed id p o rest n =>
    cases hst
    exact (h _ rfl).congr fun _ hd => hd
  | raced id p n hn =>
    cases hst
    obtain ⟨hd, ht, _, hf⟩ := h _ rfl
    exact ⟨hd, ⟨ht.1, ht.2, ht.3⟩, rfl, hf⟩
  | absorbed id p hz =>
    cases hst
    obtain ⟨hd, ht, _, hf⟩ := h _ rfl
    exact ⟨hd, ⟨ht.1, ht.2, ht.3⟩, rfl, hf⟩
  | claimedAll id p hz =>
    cases hst
    obtain ⟨hd, ht, _, hf⟩ := h _ rfl
    exact ⟨hd, ⟨ht.1, ht.2, ht.3⟩, rfl, hf⟩
  | raceReleased id p o rest =>
    cases hst
    exact (h _ rfl).congr fun _ hd => hd
  | raceReleasedAll id p =>
    cases hst
    exact h _ rfl
  | raceSaved id p => cases hst
  | zeroSaved id p =>
    obtain rfl := stage_consume hst
    exact (h _ rfl).saved rfl rfl
  | processingSaved id p =>
    cases hst
    exact (h _ rfl).saved rfl rfl
  | refused id p m r ha =>
    cases hst
    obtain ⟨hd, ht, _, hf⟩ := h _ rfl
    exact ⟨hd, ⟨ht.1, ht.2, ht.3⟩, rfl, hf⟩
  | transferred id p ref ha =>
    cases hst
    obtain ⟨hd, ht, _, hf⟩ := h _ rfl
    exact ⟨hd, ⟨ht.1, ht.2, ht.3⟩, rfl, hf⟩
  | unknown id p moved m ha =>
    cases hst
    have hsent := (h _ rfl).congr (w.get_payouts_send id moved)
    exact ⟨hsent.stored, ⟨hsent.terms.1, hsent.terms.2, hsent.terms.3⟩, rfl, rfl⟩
  | failed id p moved m ha =>
    cases hst
    have hsent := (h _ rfl).congr (w.get_payouts_send id moved)
    exact ⟨hsent.stored, ⟨hsent.terms.1, hsent.terms.2, hsent.terms.3⟩, rfl, hsent.flag⟩
  | successSaved id p =>
    obtain rfl := stage_consume hst
    exact (h _ rfl).saved rfl rfl
  | entryGone guarded id p c rest hc =>
    obtain rfl := stage_consume hst
    exact h _ rfl
  | entryFound guarded id p c b rest hc =>
    cases hst
    exact h _ rfl
  | entrySaved guarded id p c b rest =>
    obtain rfl := stage_consume hst
    exact (h _ rfl).congr fun _ hd => hd
  | flagSaved id p => cases hst
  | failSaved id p =>
    cases hst
    exact (h _ rfl).saved rfl rfl
  | released id p o rest =>
    cases hst
    exact (h _ rfl).congr fun _ hd => hd
  | releasedAll id p => cases hst

/-- **What a move does to the payouts**: nothing, it creates one, or it saves the
document in memory. -/
inductive PayoutsAfter (a : Attempt) (w : World) (e : ExecPc) (w' : World) (e' : ExecPc) : Prop
  | same (hp : w'.payouts = w.payouts)
    (hid : ∀ st, e'.stage = some st → ∃ st₀, e.stage = some st₀ ∧ st₀.id = st.id)
  | created (he : e = .create) (hp : w'.payouts = w.payouts.create a.newPayout)
    (hid : ∀ st, e'.stage = some st → st.id = w.payouts.nextId) (hst : e'.stage ≠ none)
  | saved (st : Stage) (hst : e.stage = some st)
    (hp : w'.payouts = w.payouts.modify st.id fun _ => st.payout) (ho : w'.orders = w.orders)
    (hid : ∀ st', e'.stage = some st' → st'.id = st.id)

theorem exec_payouts (hm : ExecMove a w e r w' e') : PayoutsAfter a w e w' e' := by
  cases hm with
  | created hv => exact .created rfl rfl (fun st hst => by cases hst; rfl) (by rintro ⟨⟩)
  | raceSaved id p => exact .saved _ rfl rfl rfl fun st hst => by cases hst
  | zeroSaved id p => exact .saved _ rfl rfl rfl fun st hst => by rw [stage_consume hst]
  | processingSaved id p => exact .saved _ rfl rfl rfl fun st hst => by cases hst; rfl
  | successSaved id p => exact .saved _ rfl rfl rfl fun st hst => by rw [stage_consume hst]
  | flagSaved id p => exact .saved _ rfl rfl rfl fun st hst => by cases hst
  | failSaved id p => exact .saved _ rfl rfl rfl fun st hst => by cases hst; rfl
  | invalid hv => exact .same rfl fun st hst => by cases hst
  | releasedAll id p => exact .same rfl fun st hst => by cases hst
  | unknown id p moved m ha =>
    exact .same World.payouts_send fun st hst => ⟨_, rfl, by cases hst; rfl⟩
  | failed id p moved m ha =>
    exact .same World.payouts_send fun st hst => ⟨_, rfl, by cases hst; rfl⟩
  | entryGone guarded id p c rest hc =>
    exact .same rfl fun st hst => ⟨_, rfl, by rw [stage_consume hst]⟩
  | entrySaved guarded id p c b rest =>
    exact .same rfl fun st hst => ⟨_, rfl, by rw [stage_consume hst]⟩
  | _ => exact .same rfl fun st hst => ⟨_, rfl, by cases hst; rfl⟩

theorem stage_of_ended (h : e.ended = true) : e.stage = none := by
  cases e <;> first | rfl | cases h

/-- An execution goes on with its payout, or has seen it through. -/
theorem exec_ended (hm : ExecMove a w e r w' e') (hx : ∀ st, e.stage = some st → Executes w a st)
    {st : Stage} (hst : e.stage = some st) : (∃ st', e'.stage = some st' ∧ st'.id = st.id) ∨
      ∀ d, w'.payouts.get st.id = some d → d.status = .failed ∨ d.status = .succeeded := by
  have saved : ∀ {st : Stage}, e.stage = some st → st.memory = .failed ∨ st.memory = .succeeded →
      ∀ d, (w.modifyPayout st.id fun _ => st.payout).payouts.get st.id = some d →
        d.status = .failed ∨ d.status = .succeeded := by
    intro st hst hs d hd
    obtain ⟨d₀, hd₀, _⟩ := (hx st hst).stored
    rw [World.modifyPayout, Collection.get_modify_self, hd₀, Option.map_some] at hd
    rw [← Option.some.inj hd, (hx st hst).status]
    exact hs
  have stored : ∀ {st : Stage}, e.stage = some st → st.stored = .failed ∨ st.stored = .succeeded →
      ∀ d, w.payouts.get st.id = some d → d.status = .failed ∨ d.status = .succeeded := by
    intro st hst hs d hd
    obtain ⟨d₀, hd₀, hs₀, _⟩ := (hx st hst).stored
    rw [← Option.some.inj (hd₀.symm.trans hd), hs₀]
    exact hs
  cases hm with
  | created hv => cases hst
  | invalid hv => cases hst
  | raceSaved id p =>
    cases hst
    exact Or.inr (saved rfl (Or.inl rfl))
  | flagSaved id p =>
    cases hst
    exact Or.inr (saved rfl (Or.inl rfl))
  | releasedAll id p =>
    cases hst
    exact Or.inr (stored rfl (Or.inl rfl))
  | zeroSaved id p =>
    cases hst
    exact Or.inr (saved rfl (Or.inr rfl))
  | successSaved id p =>
    cases hst
    exact Or.inr (saved rfl (Or.inr rfl))
  | entryGone guarded id p c rest hc =>
    cases hst
    exact Or.inr (stored rfl (Or.inr rfl))
  | entrySaved guarded id p c b rest =>
    cases hst
    exact Or.inr (stored rfl (Or.inr rfl))
  | _ =>
    cases hst
    exact Or.inl ⟨_, rfl, rfl⟩

end Exec

/-! ## The outline -/

/-- A resolution took up a flagged payout, which nobody executes any more. -/
structure Resolves (w : World) (c : Resolution) : Prop where
  failed : c.payout.status = .failed
  flagged : c.payout.reconciliationRequired = true
  stored : ∃ d, w.payouts.get c.payoutId = some d ∧ SameTerms d c.payout ∧
    (d.status = .failed ∨ d.status = .succeeded)

namespace Proc

/-- The payout a call executes. -/
def owns (p : Proc) : Option PayoutId := p.executing.bind fun x => x.2.payoutId

/-- The payout a call resolves. -/
def resolves (p : Proc) : Option PayoutId := p.resolving.map Resolution.payoutId

/-- What a call knows of the payout it executes or resolves. -/
structure Knows (w : World) (p : Proc) : Prop where
  executing : ∀ a e, p.executing = some (a, e) →
    a.claimField = a.vendorType.claimField ∧ ∀ st, e.stage = some st → Executes w a st
  resolving : ∀ c, p.resolving = some c → Resolves w c

end Proc

/-- No payout is executed by two calls, or resolved while it is executed. -/
structure Apart (p q : Proc) : Prop where
  left : ∀ id, p.owns = some id → q.owns ≠ some id ∧ q.resolves ≠ some id
  right : ∀ id, q.owns = some id → p.resolves ≠ some id

def ownership : Outline World Proc where
  shared w := ∀ id d, w.payouts.get id = some d → d.reconciliationRequired = true →
    d.status = .failed
  proc := Proc.Knows
  compat := Apart
  symm _ _ h := ⟨fun id hq => ⟨fun hp => (h.left id hp).1 hq, h.right id hq⟩,
    fun id hp => (h.left id hp).2⟩

section Outline

variable {w w' : World} {p p' q : Proc} {r : Reply}

theorem Proc.owns_of_stage {a : Attempt} {e : ExecPc} {st : Stage}
    (h : p.executing = some (a, e)) (hst : e.stage = some st) : p.owns = some st.id := by
  rw [Proc.owns, h, Option.bind_some, ExecPc.payoutId, hst, Option.map_some]

theorem Proc.stage_of_owns {id : PayoutId} (h : p.owns = some id) :
    ∃ a e st, p.executing = some (a, e) ∧ e.stage = some st ∧ st.id = id := by
  rw [Proc.owns, Option.bind_eq_some_iff] at h
  obtain ⟨⟨a, e⟩, he, hs⟩ := h
  rw [ExecPc.payoutId, Option.map_eq_some_iff] at hs
  obtain ⟨st, hst, hid⟩ := hs
  exact ⟨a, e, st, he, hst, hid⟩

/-- A call that has ended executes no payout. -/
theorem Proc.owns_of_ended (h : p.ended = true) : p.owns = none := by
  cases p with
  | batch pc => cases pc <;> first | rfl | cases h
  | refund pc => rfl
  | resolve pc => rfl

theorem Proc.resolving_of_resolves {id : PayoutId} (h : p.resolves = some id) :
    ∃ c, p.resolving = some c ∧ c.payoutId = id := by
  rw [Proc.resolves, Option.map_eq_some_iff] at h
  exact h

/-- The payout a call executes or resolves is in the collection. -/
theorem Proc.Knows.lt_nextId (h : p.Knows w) {id : PayoutId}
    (hid : p.owns = some id ∨ p.resolves = some id) : id < w.payouts.nextId := by
  rcases hid with hid | hid
  · obtain ⟨a, e, st, he, hst, rfl⟩ := Proc.stage_of_owns hid
    obtain ⟨d, hd, _⟩ := ((h.executing a e he).2 st hst).stored
    exact Collection.lt_nextId_of_get hd
  · obtain ⟨c, hc, rfl⟩ := Proc.resolving_of_resolves hid
    obtain ⟨d, hd, _⟩ := (h.resolving c hc).stored
    exact Collection.lt_nextId_of_get hd

/-- Writes to other payouts leave what a call knows alone. -/
theorem Proc.Knows.congr (h : p.Knows w)
    (hw : ∀ id d, p.owns = some id ∨ p.resolves = some id → w.payouts.get id = some d →
      w'.payouts.get id = some d) : p.Knows w' where
  executing a e he :=
    ⟨(h.executing a e he).1, fun st hst =>
      ((h.executing a e he).2 st hst).congr fun d =>
        hw _ d (Or.inl (Proc.owns_of_stage he hst))⟩
  resolving c hc := by
    obtain ⟨hfail, hflag, d, hd, hrest⟩ := h.resolving c hc
    exact ⟨hfail, hflag, d, hw _ d (Or.inr (by rw [Proc.resolves, hc, Option.map_some])) hd, hrest⟩

theorem Proc.Knows.same (h : p.Knows w) (hw : w'.payouts = w.payouts) : p.Knows w' :=
  h.congr fun _ _ _ hd => by rw [hw, hd]

theorem fresh_executing {pc : BatchPc} {groups : List UnpaidEarningsGroup} (h : pc.Fresh groups)
    {a : Attempt} {e : ExecPc} (he : pc.executing = some (a, e)) :
    e.stage = none ∧ a.claimField = a.vendorType.claimField := by
  obtain ⟨rfl, _, hf⟩ := h.2 a e he
  exact ⟨rfl, hf⟩

/-- A batch between payouts executes none. -/
theorem owns_of_fresh {pc : BatchPc} {groups : List UnpaidEarningsGroup} (h : pc.Fresh groups) :
    (Proc.batch pc).owns = none := by
  rw [Option.eq_none_iff_forall_not_mem]
  intro id hid
  obtain ⟨a, e, st, he, hst, _⟩ := Proc.stage_of_owns hid
  rw [(fresh_executing h he).1] at hst
  cases hst

theorem knows_of_fresh {pc : BatchPc} {groups : List UnpaidEarningsGroup} (h : pc.Fresh groups) :
    (Proc.batch pc).Knows w where
  executing a e he := ⟨(fresh_executing h he).2, fun st hst => by
    rw [(fresh_executing h he).1] at hst
    cases hst⟩
  resolving c hc := by cases hc

theorem Apart.of_none (h : p.owns = none) (h' : p.resolves = none) : Apart p q :=
  ⟨fun _ hid => (by cases h.symm.trans hid), fun _ _ hid => by cases h'.symm.trans hid⟩

theorem resolution_consume (c : Resolution) (l : List Consumption) :
    (ResolvePc.consume c l).resolution = some c := by cases l <;> rfl

/-- The `save()` of another resolution of the same payout. -/
theorem Resolves.saved {c c' : Resolution} (h : Resolves w c) (h' : Resolves w c') :
    Resolves (w.modifyPayout c'.payoutId fun d =>
      d.saveResolved c'.payout c'.transferActuallySucceeded c'.adminUserId c'.reconciledAt) c := by
  obtain ⟨hfail, hflag, d, hd, ht, hs⟩ := h
  refine ⟨hfail, hflag, ?_⟩
  by_cases hid : c'.payoutId = c.payoutId
  · refine ⟨d.saveResolved c'.payout c'.transferActuallySucceeded c'.adminUserId c'.reconciledAt,
      by rw [hid, World.modifyPayout, Collection.get_modify_self, hd, Option.map_some],
      ⟨ht.1, ht.2, ht.3⟩, ?_⟩
    simp only [Payout.saveResolved, h'.failed]
    cases c'.transferActuallySucceeded
    · simpa using hs
    · simp
  · exact ⟨d, by rw [World.modifyPayout, Collection.get_modify_ne hid, hd], ht, hs⟩

/-- What follows a move that leaves the payouts alone and takes up none. -/
theorem ownership_same {s : Sys} (h : ownership.Holds s)
    (hw : w'.payouts = s.shared.payouts) (hp' : p'.Knows w')
    (howns : ∀ id, p'.owns = some id → p.owns = some id)
    (hres : ∀ id, p'.resolves = some id → p.resolves = some id ∨
      ∃ d, s.shared.payouts.get id = some d ∧ d.reconciliationRequired = true) :
    ownership.shared w' ∧ p'.Knows w' ∧
      ∀ q, q.Knows s.shared → Apart p q → q.Knows w' ∧ Apart p' q := by
  refine ⟨fun id d hd => h.shared id d (hw ▸ hd), hp', fun q hq hc => ⟨hq.same hw, ?_⟩⟩
  refine ⟨fun id hid => hc.left id (howns id hid), fun id hid hid' => ?_⟩
  rcases hres id hid' with hr | ⟨d, hd, hf⟩
  · exact hc.right id hid hr
  · obtain ⟨a, e, st, he, hst, rfl⟩ := Proc.stage_of_owns hid
    obtain ⟨d', hd', _, hf', _⟩ := ((hq.executing a e he).2 st hst).stored
    rw [hd] at hd'
    cases hd'
    rw [hf] at hf'
    cases hf'

theorem ownership_resolve {s : Sys} {pc pc' : ResolvePc} (h : ownership.Holds s)
    (hk : (Proc.resolve pc).Knows s.shared) (hm : ResolveMove s.shared pc w' pc') :
    ownership.shared w' ∧ (Proc.resolve pc').Knows w' ∧
      ∀ q, q.Knows s.shared → Apart (.resolve pc) q →
        q.Knows w' ∧ Apart (.resolve pc') q := by
  have entries : ∀ {c : Resolution} {pc' : ResolvePc} {w' : World}, pc.resolution = some c →
      w'.payouts = s.shared.payouts → pc'.resolution = some c →
      ownership.shared w' ∧ (Proc.resolve pc').Knows w' ∧
        ∀ q, q.Knows s.shared → Apart (.resolve pc) q →
          q.Knows w' ∧ Apart (.resolve pc') q := by
    intro c pc' w' hc hw hc'
    have hsame : (Proc.resolve pc').resolving = (Proc.resolve pc).resolving := hc'.trans hc.symm
    refine ownership_same h hw ⟨fun _ _ he => (by cases he), fun c₁ hc₁ => ?_⟩
      (fun _ hid => by cases hid) (fun id hid => Or.inl ?_)
    · exact (hk.same hw).resolving c₁ (hsame ▸ hc₁)
    · rw [Proc.resolves, ← hsame]
      exact hid
  cases hm with
  | rejected id admin answer e =>
    exact ownership_same h rfl ⟨fun _ _ he => (by cases he), fun _ hc => by cases hc⟩
      (fun _ hid => by cases hid) (fun _ hid => by cases hid)
  | accepted id admin answer p hp hf =>
    have hc' : (Proc.resolve (if answer then
        ResolvePc.consume ⟨id, p, admin, answer, s.shared.now⟩ p.clawbackConsumption
        else .release ⟨id, p, admin, answer, s.shared.now⟩ s.shared.orders.ids)).resolving =
        some ⟨id, p, admin, answer, s.shared.now⟩ := by
      cases answer
      · rfl
      · exact resolution_consume _ _
    refine ownership_same h rfl ⟨fun _ _ he => (by cases he), fun c hc => ?_⟩
      (fun _ hid => by cases hid) (fun id' hid => Or.inr ?_)
    · rw [hc'] at hc
      cases hc
      exact ⟨h.shared id p hp hf, hf, p, hp, .refl p, Or.inl (h.shared id p hp hf)⟩
    · rw [Proc.resolves, hc'] at hid
      cases hid
      exact ⟨p, hp, hf⟩
  | entryGone c e rest hb => exact entries rfl rfl (resolution_consume c rest)
  | entryFound c e b rest hb => exact entries rfl rfl rfl
  | entrySaved c e b rest => exact entries rfl rfl (resolution_consume c rest)
  | released c o rest => exact entries rfl rfl rfl
  | releasedAll c => exact entries rfl rfl rfl
  | saved c =>
    have hc := hk.resolving c rfl
    refine ⟨fun id d hd hf => ?_, ⟨fun _ _ he => (by cases he), fun _ hc => by cases hc⟩,
      fun q hq hapart => ⟨⟨fun a e he => ?_, fun c' hc' => ?_⟩, .of_none rfl rfl⟩⟩
    · rcases Collection.get_modify_cases hd with ⟨_, d₀, _, rfl⟩ | ⟨_, hd₀⟩
      · cases hf
      · exact h.shared id d hd₀ hf
    · refine ⟨(hq.executing a e he).1, fun st hst => ((hq.executing a e he).2 st hst).congr ?_⟩
      intro d hd
      have hne : c.payoutId ≠ st.id := fun hid =>
        hapart.right st.id (Proc.owns_of_stage he hst) (congrArg some hid)
      rw [World.modifyPayout, Collection.get_modify_ne hne, hd]
    · exact (hq.resolving c' hc').saved hc

theorem ownership_exec {s : Sys} {pc pc' : BatchPc} {a : Attempt} {e e' : ExecPc}
    (h : ownership.Holds s) (hk : (Proc.batch pc).Knows s.shared)
    (hpc : pc.executing = some (a, e)) (he : ExecMove a s.shared e r w' e')
    (hpc' : (e'.ended = false ∧ pc'.executing = some (a, e') ∧
      pc'.pendingGroups = pc.pendingGroups) ∨ (e'.ended = true ∧ pc'.Fresh pc.pendingGroups)) :
    ownership.shared w' ∧ (Proc.batch pc').Knows w' ∧
      ∀ q, q.Knows s.shared → Apart (.batch pc) q →
        q.Knows w' ∧ Apart (.batch pc') q := by
  obtain ⟨hfield, hstage⟩ := hk.executing a e hpc
  have hk' : (Proc.batch pc').Knows w' := by
    rcases hpc' with ⟨_, hpc', _⟩ | ⟨_, hfresh⟩
    · refine ⟨fun a₁ e₁ he₁ => ?_, fun _ hc => by cases hc⟩
      obtain ⟨rfl, rfl⟩ : a = a₁ ∧ e' = e₁ := by
        rw [Proc.executing, hpc'] at he₁
        cases he₁
        exact ⟨rfl, rfl⟩
      exact ⟨hfield, exec_executes he hstage⟩
    · exact knows_of_fresh hfresh
  have howns : ∀ id, (Proc.batch pc').owns = some id →
      ∃ st, e'.stage = some st ∧ st.id = id := by
    intro id hid
    rcases hpc' with ⟨_, hpc', _⟩ | ⟨_, hfresh⟩
    · obtain ⟨a₁, e₁, st, he₁, hst, hst'⟩ := Proc.stage_of_owns hid
      rw [Proc.executing, hpc'] at he₁
      cases he₁
      exact ⟨st, hst, hst'⟩
    · rw [owns_of_fresh hfresh] at hid
      cases hid
  cases exec_payouts he with
  | same hp hid =>
    refine ownership_same h hp hk' (fun id hid' => ?_) (fun _ hid' => by cases hid')
    obtain ⟨st, hst, rfl⟩ := howns id hid'
    obtain ⟨st₀, hst₀, heq⟩ := hid st hst
    rw [← heq]
    exact Proc.owns_of_stage hpc hst₀
  | created hcreate hp hid _ =>
    refine ⟨fun id d hd hf => ?_, hk', fun q hq _ => ⟨hq.congr fun id d _ hd => ?_, ?_, ?_⟩⟩
    · rw [hp] at hd
      rcases Collection.get_create_cases hd with ⟨_, rfl⟩ | ⟨_, hd₀⟩
      · cases hf
      · exact h.shared id d hd₀ hf
    · rw [hp]
      exact Collection.get_create_of_get hd
    · intro id hid'
      obtain ⟨st, hst, rfl⟩ := howns id hid'
      have hnew := hid st hst
      exact ⟨fun hq' => Nat.ne_of_lt (hq.lt_nextId (Or.inl hq')) hnew,
        fun hq' => Nat.ne_of_lt (hq.lt_nextId (Or.inr hq')) hnew⟩
    · intro id _ hid'
      cases hid'
  | saved st hst hp _ hid =>
    have hexec := hstage st hst
    refine ⟨fun id d hd hf => ?_, hk', fun q hq hapart => ⟨hq.congr fun id d hid' hd => ?_, ?_, ?_⟩⟩
    · rw [hp] at hd
      rcases Collection.get_modify_cases hd with ⟨_, d₀, _, rfl⟩ | ⟨_, hd₀⟩
      · rw [hexec.status]
        exact ExecPc.memory_of_flagged hst (hexec.flag ▸ hf)
      · exact h.shared id d hd₀ hf
    · have hne : st.id ≠ id := by
        rintro rfl
        have := hapart.left st.id (Proc.owns_of_stage hpc hst)
        exact hid'.elim this.1 this.2
      rw [hp, Collection.get_modify_ne hne, hd]
    · intro id hid'
      obtain ⟨st', hst', rfl⟩ := howns id hid'
      rw [hid st' hst']
      exact hapart.left st.id (Proc.owns_of_stage hpc hst)
    · intro id _ hid'
      cases hid'

/-- **Every step without a database failure keeps the payouts apart.** -/
theorem ownership_kept (dir : Directory) :
    ownership.Kept (system dir) (fun _ e => Faultless e = true) fun _ => True where
  spawn s k _ _ h := by
    have hnone : (startCall s.shared k).owns = none ∧ (startCall s.shared k).resolves = none := by
      cases k with
      | runWeeklyBatch => exact ⟨rfl, rfl⟩
      | refund request => cases request <;> exact ⟨rfl, rfl⟩
      | resolveReconciliation id admin answer => exact ⟨rfl, rfl⟩
    refine ⟨⟨fun a e he => ?_, fun c hc => ?_⟩, fun q _ => .of_none hnone.1 hnone.2⟩
    · cases k <;> cases he
    · cases k <;> cases hc
  env s e w _ _ h hw := by
    have hsame := env_samePayouts hw
    exact ⟨fun id d hd => h.shared id d (hsame.payouts ▸ hd),
      fun q hq => (h.procs q hq).same hsame.payouts⟩
  run s i r p w p' _ hr h hp hstep := by
    have hknows := h.at hp
    have hmove : ownership.shared w ∧ p'.Knows w ∧
        ∀ q, q.Knows s.shared → Apart p q → q.Knows w ∧ Apart p' q := by
      cases call_move hr hstep with
      | quiet hpc hread hpc' =>
        exact ownership_same h rfl (knows_of_fresh hpc')
          (fun _ hid => by cases (owns_of_fresh hpc').symm.trans hid)
          (fun _ hid => by cases hid)
      | refund hm =>
        exact ownership_same h (refund_samePayouts hm).payouts ⟨fun _ _ he => (by cases he),
          fun _ hc => by cases hc⟩ (fun _ hid => by cases hid) (fun _ hid => by cases hid)
      | resolve hm => exact ownership_resolve h hknows hm
      | exec hpc he hpc' => exact ownership_exec h hknows hpc he hpc'
    exact ⟨hmove.1, hmove.2.1, fun j q _ _ => hmove.2.2 q⟩

theorem ownership_initial (vendors : List PayoutVendor) : ownership.Holds (Sys.initial vendors) :=
  Outline.holds_nil fun _ _ hd => by simp [World.empty] at hd

/-- In every run without a database failure the payouts are apart. -/
theorem ownership_reach {dir : Directory} {vendors : List PayoutVendor} {s : Sys}
    {ok : Sys → SysEvent → Prop} (hok : ∀ s e, ok s e → Faultless e = true)
    (h : (system dir).Reach ok (Sys.initial vendors) s) : ownership.Holds s :=
  Outline.holds_of_reach (ownership_kept dir) (fun _ _ => trivial) (ownership_initial vendors)
    (h.mono hok)

/-! ## Payouts under way -/

/-- A payout that is pending or being paid has a call that executes it. -/
def underway : Duty World Proc PayoutId where
  due w id := ∃ d, w.payouts.get id = some d ∧ (d.status = .pending ∨ d.status = .processing)
  bearer p id := p.owns = some id

/-- An execution stays with its payout as long as the payout is under way. -/
theorem underway_exec {a : Attempt} {e e' : ExecPc} {id : PayoutId} (hm : ExecMove a w e r w' e')
    (hx : ∀ st, e.stage = some st → Executes w a st) (h : underway.due w' id) :
    (∃ st, e'.stage = some st ∧ st.id = id) ∨
      (underway.due w id ∧ ∀ st, e.stage = some st → st.id ≠ id) := by
  obtain ⟨d, hd, hs⟩ := h
  by_cases hst : ∃ st, e.stage = some st ∧ st.id = id
  · obtain ⟨st, hst, rfl⟩ := hst
    rcases exec_ended hm hx hst with hnext | hend
    · exact Or.inl hnext
    · rcases hend d hd with he | he <;> rw [he] at hs <;> exact absurd hs (by decide)
  · have hne : ∀ st, e.stage = some st → st.id ≠ id := fun st h₁ h₂ => hst ⟨st, h₁, h₂⟩
    cases exec_payouts hm with
    | same hp _ => exact Or.inr ⟨⟨d, hp ▸ hd, hs⟩, hne⟩
    | created _ hp hid hsome =>
      rw [hp] at hd
      rcases Collection.get_create_cases hd with ⟨rfl, _⟩ | ⟨_, hd⟩
      · obtain ⟨st, hst⟩ := Option.ne_none_iff_exists'.mp hsome
        exact Or.inl ⟨st, hst, hid st hst⟩
      · exact Or.inr ⟨⟨d, hd, hs⟩, hne⟩
    | saved st hst hp _ _ =>
      rw [hp, Collection.get_modify_ne (hne st hst)] at hd
      exact Or.inr ⟨⟨d, hd, hs⟩, hne⟩

/-- The `save()` of a resolution puts no payout under way. -/
theorem underway_resolve {pc pc' : ResolvePc} {id : PayoutId} (hm : ResolveMove w pc w' pc')
    (hres : ∀ c, pc.resolution = some c → Resolves w c) (h : underway.due w' id) :
    underway.due w id := by
  cases hm with
  | saved c =>
    obtain ⟨d, hd, hs⟩ := h
    rcases Collection.get_modify_cases hd with ⟨_, d₀, hd₀, rfl⟩ | ⟨_, hd₀⟩
    · refine ⟨d₀, hd₀, ?_⟩
      cases ha : c.transferActuallySucceeded with
      | false => simpa [Payout.saveResolved, ha, (hres c rfl).failed] using hs
      | true => simp [Payout.saveResolved, ha, (hres c rfl).failed] at hs
    · exact ⟨d, hd₀, hs⟩
  | _ => exact h

/-- **No payout is left pending or processing** by a call that has ended. -/
theorem underway_kept (dir : Directory) :
    underway.Kept (system dir) (fun _ e => Faultless e = true) ownership.Holds where
  run s i r p w p' hown hb hr hp hstep id hdue := by
    have hknows := hown.at hp
    cases call_move hr hstep with
    | quiet hpc _ _ =>
      refine Or.inr (hb.elsewhere hp hdue fun ho => ?_)
      obtain ⟨a, e, _, he, _⟩ := Proc.stage_of_owns ho
      cases hpc.symm.trans he
    | refund hm =>
      obtain ⟨d, hd, hs⟩ := hdue
      exact Or.inr (hb.elsewhere hp ⟨d, (refund_samePayouts hm).payouts ▸ hd, hs⟩
        fun ho => by cases ho)
    | resolve hm =>
      exact Or.inr (hb.elsewhere hp (underway_resolve hm hknows.resolving hdue)
        fun ho => by cases ho)
    | @exec pc pc' a e e' _ hpc hm hpc' =>
      rcases underway_exec hm (hknows.executing a e hpc).2 hdue with ⟨st, hst, rfl⟩ | ⟨hdue, hne⟩
      · rcases hpc' with ⟨_, hpc', _⟩ | ⟨hend, _⟩
        · exact Or.inl (Proc.owns_of_stage hpc' hst)
        · cases hst.symm.trans (stage_of_ended hend)
      · refine Or.inr (hb.elsewhere hp hdue fun ho => ?_)
        obtain ⟨a₁, e₁, st, he, hst, hid⟩ := Proc.stage_of_owns ho
        cases hpc.symm.trans he
        exact hne st hst hid
  env s e w _ _ hw id hdue := by
    obtain ⟨d, hd, hs⟩ := hdue
    exact ⟨d, (env_samePayouts hw).payouts ▸ hd, hs⟩

theorem underway_reach {dir : Directory} {vendors : List PayoutVendor} {s : Sys}
    {ok : Sys → SysEvent → Prop} (hok : ∀ s e, ok s e → Faultless e = true)
    (h : (system dir).Reach ok (Sys.initial vendors) s) : underway.Borne s := by
  refine underway.borne_of_reach (underway_kept dir)
    (fun _ hs => ownership_reach (fun _ _ h => h) hs) (fun id hdue => ?_) (h.mono hok)
  obtain ⟨d, hd, _⟩ := hdue
  simp [Sys.initial, World.empty] at hd

end Outline

end FoodDelivery
