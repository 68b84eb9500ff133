import FoodDelivery.Payouts.Ownership

/-!
# Who holds an order

An order's `vendorPayoutId` and `riderPayoutId` name the payout that has claimed
the respective cut.

* `ClaimsOk`: a claim names a payout that covers the order, and a payout that is
  being paid or has been paid holds every order it covers.
* `holding_kept`: every step without a database failure keeps this, as long as no
  two admins resolve one payout with different answers.
* `unwinding_reach`: a flagged payout holds its orders unless an admin's no is
  being carried out.
-/

namespace FoodDelivery

open Store Interleave

/-- A payout covers a cut of an order. -/
def World.Covers (w : World) (f : ClaimField) (o : OrderId) (id : PayoutId) : Prop :=
  ∃ d ∈ w.payouts.get id, d.claimField = f ∧ o ∈ d.orderIds

def World.Succeeded (w : World) (id : PayoutId) : Prop :=
  ∃ d ∈ w.payouts.get id, d.status = .succeeded

/-- A payout is stored as awaiting reconciliation. -/
def Sys.Flagged (s : Sys) (id : PayoutId) : Prop :=
  ∃ d ∈ s.shared.payouts.get id, d.reconciliationRequired = true

instance (w : World) (f : ClaimField) (o : OrderId) (id : PayoutId) : Decidable (w.Covers f o id) :=
  inferInstanceAs (Decidable (∃ d ∈ w.payouts.get id, d.claimField = f ∧ o ∈ d.orderIds))

instance (s : Sys) (id : PayoutId) : Decidable (s.Flagged id) :=
  inferInstanceAs (Decidable (∃ d ∈ s.shared.payouts.get id, d.reconciliationRequired = true))

/-- A payout holds every order it covers. -/
def World.HoldsAll (w : World) (id : PayoutId) (p : Payout) : Prop :=
  ∀ o ∈ p.orderIds, w.claimOf p.claimField o = some id

theorem World.HoldsAll.congr {w : World} {id : PayoutId} {p q : Payout} (h : w.HoldsAll id p)
    (ht : SameTerms q p) : w.HoldsAll id q := by
  intro o ho
  rw [ht.claimField]
  exact h o (ht.orderIds ▸ ho)

theorem claimOf_of_holds {w : World} {f : ClaimField} {o : OrderId} {id : PayoutId} {d : Payout}
    (hc : w.Covers f o id) (hd : w.payouts.get id = some d) (h : w.HoldsAll id d) :
    w.claimOf f o = some id := by
  obtain ⟨d', hd', rfl, ho⟩ := hc
  obtain rfl := Option.some.inj (hd.symm.trans hd')
  exact h o ho

/-- What the claims say at any time. -/
structure ClaimsOk (w : World) : Prop where
  covered : ∀ f o id, w.claimOf f o = some id →
    ∃ d, w.payouts.get id = some d ∧ d.claimField = f ∧ o ∈ d.orderIds
  held : ∀ id d, w.payouts.get id = some d → d.status = .processing ∨ d.status = .succeeded →
    w.HoldsAll id d

/-- A step that touches the claims, the record and the money of one payout. -/
structure Touches (id : PayoutId) (w w' : World) : Prop where
  claims : ∀ f o id', id' ≠ id → (w'.claimOf f o = some id' ↔ w.claimOf f o = some id')
  sent : ∀ id', id' ≠ id → (id' ∈ w'.sent ↔ id' ∈ w.sent)
  payouts : ∀ id', id' ≠ id → w'.payouts.get id' = w.payouts.get id'

section Writes

variable {w w' : World} {f : ClaimField} {o : OrderId} {id : PayoutId} {p d : Payout}

theorem Touches.of_same (h : w.SamePayouts w') : Touches id w w' :=
  ⟨fun _ _ _ _ => by rw [h.claims], fun _ _ => by rw [h.sent], fun _ _ => by rw [h.payouts]⟩

theorem touches_claimOrder : Touches id w (w.claimOrder f o id) where
  claims g o' id' hne := by
    rw [World.claimOf_claimOrder]
    split
    · rename_i h
      obtain ⟨hu, rfl, rfl⟩ := h
      rw [World.claimOf_of_unclaimed hu]
      simp [hne.symm]
    · exact Iff.rfl
  sent _ _ := Iff.rfl
  payouts _ _ := rfl

theorem touches_releaseOrder : Touches id w (w.releaseOrder f o id) where
  claims g o' id' hne := by
    rw [World.claimOf_releaseOrder]
    split
    · rename_i h
      obtain ⟨hc, rfl, rfl⟩ := h
      rw [hc]
      simp [hne.symm]
    · exact Iff.rfl
  sent _ _ := Iff.rfl
  payouts _ _ := rfl

theorem touches_createPayout : Touches w.payouts.nextId w (w.createPayout p) where
  claims _ _ _ _ := Iff.rfl
  sent _ _ := Iff.rfl
  payouts id' hne := by rw [World.createPayout, Collection.get_create, if_neg hne]

theorem touches_modifyPayout {g : Payout → Payout} : Touches id w (w.modifyPayout id g) where
  claims _ _ _ _ := Iff.rfl
  sent _ _ := Iff.rfl
  payouts _ hne := Collection.get_modify_ne hne.symm

theorem touches_send {moved : Bool} : Touches id w (w.send id moved) := by
  cases moved with
  | false => exact .of_same (.refl w)
  | true => exact ⟨fun _ _ _ _ => Iff.rfl, fun _ hne => by simp [World.send, hne], fun _ _ => rfl⟩

/-- Claims on other payouts' orders and the money of other payouts stay. -/
theorem World.HoldsAll.touches (h : w.HoldsAll id p) {id' : PayoutId} (ht : Touches id' w w')
    (hne : id ≠ id') : w'.HoldsAll id p :=
  fun o ho => (ht.claims _ o id hne).mpr (h o ho)

theorem World.HoldsAll.claimOrder (h : w.HoldsAll id p) {id' : PayoutId} :
    (w.claimOrder f o id').HoldsAll id p := by
  intro o' ho'
  rw [claimOf_claimOrder]
  split
  · rename_i hc
    obtain ⟨hu, hf, rfl⟩ := hc
    have := h o' ho'
    rw [hf, claimOf_of_unclaimed hu] at this
    cases this
  · exact h o' ho'

/-- Steps that change neither claims nor payouts. -/
theorem ClaimsOk.same (h : ClaimsOk w) (hp : w'.payouts = w.payouts)
    (hc : ∀ f o, w'.claimOf f o = w.claimOf f o) : ClaimsOk w' where
  covered g o' id' hc' := by
    rw [hc] at hc'
    rw [hp]
    exact h.covered g o' id' hc'
  held id' d' hd' hst o' ho' := by
    rw [hc]
    exact h.held id' d' (hp ▸ hd') hst o' ho'

theorem ClaimsOk.claimOrder (h : ClaimsOk w) (hd : w.payouts.get id = some d)
    (hf : d.claimField = f) (ho : o ∈ d.orderIds) : ClaimsOk (w.claimOrder f o id) where
  covered g o' id' hc := by
    rw [World.claimOf_claimOrder] at hc
    split at hc
    · rename_i hu
      obtain ⟨_, rfl, rfl⟩ := hu
      cases hc
      exact ⟨d, hd, hf, ho⟩
    · exact h.covered g o' id' hc
  held id' d' hd' hst := (h.held id' d' hd' hst).claimOrder

theorem ClaimsOk.releaseOrder (h : ClaimsOk w)
    (hs : ∀ d, w.payouts.get id = some d → d.status ≠ .processing ∧ d.status ≠ .succeeded) :
    ClaimsOk (w.releaseOrder f o id) where
  covered g o' id' hc := by
    rw [World.claimOf_releaseOrder] at hc
    split at hc
    · cases hc
    · exact h.covered g o' id' hc
  held id' d' hd' hst := by
    refine (h.held id' d' hd' hst).touches touches_releaseOrder ?_
    rintro rfl
    exact hst.elim (hs d' hd').1 (hs d' hd').2

theorem ClaimsOk.createPayout (h : ClaimsOk w) (hp : p.status = .pending) :
    ClaimsOk (w.createPayout p) where
  covered g o' id' hc := by
    obtain ⟨d', hd', hrest⟩ := h.covered g o' id' hc
    exact ⟨d', Collection.get_create_of_get hd', hrest⟩
  held id' d' hd' hst := by
    rcases Collection.get_create_cases hd' with ⟨_, rfl⟩ | ⟨_, hd₀⟩
    · rw [hp] at hst
      exact absurd hst (by decide)
    · exact h.held id' d' hd₀ hst

theorem ClaimsOk.modifyPayout (h : ClaimsOk w) {g : Payout → Payout}
    (ht : ∀ d, w.payouts.get id = some d → SameTerms (g d) d)
    (hs : ∀ d, w.payouts.get id = some d →
      (g d).status = .processing ∨ (g d).status = .succeeded → w.HoldsAll id d) :
    ClaimsOk (w.modifyPayout id g) where
  covered f o' id' hc := by
    obtain ⟨d', hd', hf, ho⟩ := h.covered f o' id' hc
    by_cases hid : id = id'
    · subst hid
      refine ⟨g d', ?_, (ht d' hd').claimField.trans hf, (ht d' hd').orderIds ▸ ho⟩
      rw [World.modifyPayout, Collection.get_modify_self, hd', Option.map_some]
    · exact ⟨d', (Collection.get_modify_ne hid).trans hd', hf, ho⟩
  held id' d' hd' hst := by
    rcases Collection.get_modify_cases hd' with ⟨rfl, d₀, hd₀, rfl⟩ | ⟨_, hd₀⟩
    · exact (hs d₀ hd₀ hst).congr (ht d₀ hd₀)
    · exact h.held id' d' hd₀ hst

end Writes

/-! ## What each call knows of the claims -/

/-- All orders are claimed, and the stored payout does not show it yet. -/
def ExecPc.claimedAll : ExecPc → Bool
  | .zeroSave .. => true
  | .processingSave .. => true
  | _ => false

structure ExecHolds (w : World) (a : Attempt) (e : ExecPc) : Prop where
  claimedAll : e.claimedAll = true → ∀ id, e.payoutId = some id → w.HoldsAll id a.newPayout
  visited : ∀ id p rest n, e = .claim id p rest n → ∃ done, a.group.orderIds = done ++ rest ∧
    n ≤ done.length ∧ (n = done.length → ∀ o ∈ done, w.claimOf a.claimField o = some id)

structure ResolveHolds (w : World) (c : Resolution) : Prop where
  held : c.transferActuallySucceeded = true → ∀ d, w.payouts.get c.payoutId = some d →
    w.HoldsAll c.payoutId d
  failed : c.transferActuallySucceeded = false → ∀ d, w.payouts.get c.payoutId = some d →
    d.status = .failed

structure ProcHolds (w : World) (p : Proc) : Prop where
  executing : ∀ a e, p.executing = some (a, e) → ExecHolds w a e
  resolving : ∀ c, p.resolving = some c → ResolveHolds w c
  releasing : ∀ c rest, p = .resolve (.release c rest) → c.transferActuallySucceeded = false

/-- Admins who are resolving one payout give one answer. -/
def OneAnswer (p q : Proc) : Prop :=
  ∀ c c', p.resolving = some c → q.resolving = some c' → c.payoutId = c'.payoutId →
    c.transferActuallySucceeded = c'.transferActuallySucceeded

def holding : Outline World Proc where
  shared := ClaimsOk
  proc := ProcHolds
  compat := OneAnswer
  symm _ _ h c c' hc hc' hid := (h c' c hc' hc hid.symm).symm

/-- A call is releasing a payout's orders because an admin said it did not
happen. -/
def Proc.unwinds (p : Proc) (id : PayoutId) : Prop :=
  ∃ c, p.resolving = some c ∧ c.payoutId = id ∧ c.transferActuallySucceeded = false

/-- A flagged payout that does not hold all its orders is being unwound. -/
def unwinding : Duty World Proc PayoutId where
  due w id := ∃ d, w.payouts.get id = some d ∧ d.reconciliationRequired = true ∧ ¬ w.HoldsAll id d
  bearer := Proc.unwinds

/-- An admin's answer that is taken up agrees with those being carried out for the
payout. -/
def Agree (s : Sys) : SysEvent → Bool
  | .run i _ =>
    match s.procs[i]? with
    | some (.resolve (.find id _ answer)) =>
      match s.shared.payouts.get id with
      | some d => !d.reconciliationRequired || s.procs.all fun p =>
          match p.resolving with
          | some c => c.payoutId != id || c.transferActuallySucceeded == answer
          | none => true
      | none => true
    | _ => true
  | _ => true

/-- A run in which no database call fails and admins do not contradict each
other. -/
def Civil (s : Sys) (e : SysEvent) : Prop := Faultless e = true ∧ Agree s e = true

section Exec

variable {a : Attempt} {w w' : World} {e e' : ExecPc} {r : Reply} {id : PayoutId}

theorem ExecHolds.of_quiet (hc : e.claimedAll = false)
    (hv : ∀ id p rest n, e ≠ .claim id p rest n) : ExecHolds w a e where
  claimedAll h := by cases hc.symm.trans h
  visited id p rest n h := absurd h (hv id p rest n)

theorem ExecHolds.of_consume {guarded : Bool} {p : Payout} {rest : List Consumption} :
    ExecHolds w a (.consume guarded id p rest) := by
  cases rest with
  | nil => exact .of_quiet rfl fun _ _ _ _ he => by cases he
  | cons c rest => exact .of_quiet rfl fun _ _ _ _ he => by cases he

/-- Steps that touch other payouts leave what an execution knows alone. -/
theorem ExecHolds.touches (h : ExecHolds w a e) (ht : Touches id w w')
    (hne : ∀ i, e.payoutId = some i → i ≠ id) : ExecHolds w' a e where
  claimedAll hc i hi := (h.claimedAll hc i hi).touches ht (hne i hi)
  visited id' p rest n he := by
    obtain ⟨done, hsplit, hle, hall⟩ := h.visited id' p rest n he
    subst he
    exact ⟨done, hsplit, hle, fun hn o ho => (ht.claims _ o id' (hne _ rfl)).mpr (hall hn o ho)⟩

theorem ExecHolds.same (h : ExecHolds w a e) (hs : w.SamePayouts w') : ExecHolds w' a e where
  claimedAll hc i hi o ho := by rw [hs.claims, h.claimedAll hc i hi o ho]
  visited id p rest n he := by
    obtain ⟨done, hsplit, hle, hall⟩ := h.visited id p rest n he
    exact ⟨done, hsplit, hle, fun hn o ho => by rw [hs.claims, hall hn o ho]⟩

theorem ResolveHolds.same {c : Resolution} (h : ResolveHolds w c) (hs : w.SamePayouts w') :
    ResolveHolds w' c where
  held ha d hd o ho := by
    rw [hs.claims]
    exact h.held ha d (hs.payouts ▸ hd) o ho
  failed ha d hd := h.failed ha d (hs.payouts ▸ hd)

theorem ResolveHolds.touches {c : Resolution} (h : ResolveHolds w c) (ht : Touches id w w')
    (hne : c.payoutId ≠ id) : ResolveHolds w' c where
  held ha d hd := (h.held ha d (ht.payouts _ hne ▸ hd)).touches ht hne
  failed ha d hd := h.failed ha d (ht.payouts _ hne ▸ hd)

theorem ProcHolds.same {p : Proc} (h : ProcHolds w p) (hs : w.SamePayouts w') :
    ProcHolds w' p where
  executing a e he := (h.executing a e he).same hs
  resolving c hc := (h.resolving c hc).same hs
  releasing := h.releasing

/-- A visit of the claiming `updateMany`. -/
theorem claimed_visit {p : Payout} {o : OrderId} {rest : List OrderId} {n : Nat}
    (h : ExecHolds w a (.claim id p (o :: rest) n)) :
    ExecHolds (w.claimOrder a.claimField o id) a
      (.claim id p rest (if w.unclaimed a.claimField o then n + 1 else n)) := by
  refine ⟨fun hc => (by cases hc), fun id' p' rest' n' he => ?_⟩
  cases he
  obtain ⟨done, hsplit, hle, hall⟩ := h.visited _ _ _ _ rfl
  refine ⟨done ++ [o], by rw [hsplit]; simp, ?_, fun hn o' ho' => ?_⟩
  · rw [List.length_append, List.length_singleton]
    split <;> omega
  · rw [List.length_append, List.length_singleton] at hn
    split at hn
    · rename_i hu
      rw [World.claimOf_claimOrder]
      split
      · rfl
      · rename_i hno
        rcases List.mem_append.mp ho' with ho' | ho'
        · exact hall (by omega) o' ho'
        · exact absurd ⟨hu, rfl, List.mem_singleton.mp ho'⟩ hno
    · omega

/-- Once as many orders were modified as there are, all are claimed. -/
theorem claimed_all {p : Payout} (hfield : a.claimField = a.vendorType.claimField)
    (h : ExecHolds w a (.claim id p [] a.group.orderIds.length)) :
    w.HoldsAll id a.newPayout := by
  obtain ⟨done, hsplit, _, hall⟩ := h.visited _ _ _ _ rfl
  rw [List.append_nil] at hsplit
  intro o ho
  have := hall (by rw [hsplit]) o (hsplit ▸ ho)
  rwa [hfield] at this

/-- **A move of `executePayout` keeps the claims and what it knows of them.** -/
theorem exec_holds (hm : ExecMove a w e r w' e') (hok : ClaimsOk w)
    (hfield : a.claimField = a.vendorType.claimField)
    (hx : ∀ st, e.stage = some st → Executes w a st) (h : ExecHolds w a e) :
    ClaimsOk w' ∧ ExecHolds w' a e' := by
  have terms : ∀ {st : Stage} {d : Payout}, e.stage = some st →
      w.payouts.get st.id = some d → SameTerms st.payout d ∧ SameTerms a.newPayout d ∧
        d.status = st.stored := by
    intro st d hst hd
    obtain ⟨⟨d', hd', hs, _, ht⟩, hp, _, _⟩ := hx st hst
    rw [hd] at hd'
    cases hd'
    exact ⟨hp.trans ht.symm, ht.symm, hs⟩
  have release : ∀ {st : Stage} {o : OrderId}, e.stage = some st →
      st.stored = .pending ∨ st.stored = .failed →
      ClaimsOk (w.releaseOrder a.claimField o st.id) := by
    intro st o hst hs
    refine hok.releaseOrder fun d hd => ?_
    rw [(terms hst hd).2.2]
    rcases hs with hs | hs <;> rw [hs] <;> decide
  have save : ∀ {st : Stage}, e.stage = some st →
      (st.memory = .processing ∨ st.memory = .succeeded → w.HoldsAll st.id a.newPayout) →
      ClaimsOk (w.modifyPayout st.id fun _ => st.payout) := by
    intro st hst hheld
    refine hok.modifyPayout (fun d hd => (terms hst hd).1) fun d hd hs => ?_
    rw [(hx st hst).status] at hs
    exact (hheld hs).congr (terms hst hd).2.1.symm
  have quiet : ∀ {e' : ExecPc} {w' : World}, e'.claimedAll = false →
      (∀ id p rest n, e' ≠ .claim id p rest n) → ExecHolds w' a e' := fun hc hv => .of_quiet hc hv
  cases hm with
  | created hv =>
    refine ⟨hok.createPayout rfl, fun hc => (by cases hc), fun id p rest n he => ?_⟩
    cases he
    exact ⟨[], rfl, Nat.le_refl 0, fun _ o ho => absurd ho List.not_mem_nil⟩
  | invalid hv => exact ⟨hok, quiet rfl fun _ _ _ _ he => by cases he⟩
  | claimed id p o rest n =>
    obtain ⟨d, hd, _, _, ht⟩ := (hx _ rfl).stored
    obtain ⟨done, hsplit, _⟩ := h.visited _ _ _ _ rfl
    refine ⟨hok.claimOrder hd (ht.claimField.trans hfield.symm) ?_, claimed_visit h⟩
    rw [ht.orderIds]
    show o ∈ a.group.orderIds
    rw [hsplit]
    exact List.mem_append_right _ List.mem_cons_self
  | absorbed id p hz =>
    refine ⟨hok, fun _ i hi => ?_, fun _ _ _ _ he => (by cases he)⟩
    cases hi
    exact claimed_all hfield h
  | claimedAll id p hz =>
    refine ⟨hok, fun _ i hi => ?_, fun _ _ _ _ he => (by cases he)⟩
    cases hi
    exact claimed_all hfield h
  | raceReleased id p o rest =>
    exact ⟨release rfl (Or.inl rfl), quiet rfl fun _ _ _ _ he => by cases he⟩
  | raceSaved id p =>
    exact ⟨save rfl fun hs => hs.elim (by simp) (by simp), quiet rfl fun _ _ _ _ he => by cases he⟩
  | zeroSaved id p => exact ⟨save rfl fun _ => h.claimedAll rfl id rfl, .of_consume⟩
  | processingSaved id p =>
    exact ⟨save rfl fun _ => h.claimedAll rfl id rfl, quiet rfl fun _ _ _ _ he => by cases he⟩
  | transferred id p ref ha =>
    exact ⟨hok.same World.payouts_send fun _ _ => by rw [World.claimOf, World.orders_send]; rfl,
      quiet rfl fun _ _ _ _ he => by cases he⟩
  | unknown id p moved m ha =>
    exact ⟨hok.same World.payouts_send fun _ _ => by rw [World.claimOf, World.orders_send]; rfl,
      quiet rfl fun _ _ _ _ he => by cases he⟩
  | failed id p moved m ha =>
    exact ⟨hok.same World.payouts_send fun _ _ => by rw [World.claimOf, World.orders_send]; rfl,
      quiet rfl fun _ _ _ _ he => by cases he⟩
  | successSaved id p =>
    refine ⟨save rfl fun _ => ?_, .of_consume⟩
    obtain ⟨d, hd, hsd, _⟩ := (hx _ rfl).stored
    exact (hok.held id d hd (Or.inl hsd)).congr (terms rfl hd).2.1
  | entryGone guarded id p c rest hc => exact ⟨hok, .of_consume⟩
  | entrySaved guarded id p c b rest => exact ⟨hok.same rfl fun _ _ => rfl, .of_consume⟩
  | flagSaved id p =>
    exact ⟨save rfl fun hs => hs.elim (by simp) (by simp), quiet rfl fun _ _ _ _ he => by cases he⟩
  | failSaved id p =>
    exact ⟨save rfl fun hs => hs.elim (by simp) (by simp), quiet rfl fun _ _ _ _ he => by cases he⟩
  | released id p o rest =>
    exact ⟨release rfl (Or.inr rfl), quiet rfl fun _ _ _ _ he => by cases he⟩
  | _ => exact ⟨hok, quiet rfl fun _ _ _ _ he => by cases he⟩

/-- A move of `executePayout` touches its own payout only. -/
theorem exec_touches (hm : ExecMove a w e r w' e') :
    ∃ id, Touches id w w' ∧ (e.stage = none ∧ id = w.payouts.nextId ∨
      ∃ st, e.stage = some st ∧ st.id = id) := by
  cases hm with
  | created hv => exact ⟨_, touches_createPayout, Or.inl ⟨rfl, rfl⟩⟩
  | invalid hv => exact ⟨_, .of_same (.refl w), Or.inl ⟨rfl, rfl⟩⟩
  | claimed id p o rest n => exact ⟨id, touches_claimOrder, Or.inr ⟨_, rfl, rfl⟩⟩
  | raceReleased id p o rest => exact ⟨id, touches_releaseOrder, Or.inr ⟨_, rfl, rfl⟩⟩
  | released id p o rest => exact ⟨id, touches_releaseOrder, Or.inr ⟨_, rfl, rfl⟩⟩
  | raceSaved id p => exact ⟨id, touches_modifyPayout, Or.inr ⟨_, rfl, rfl⟩⟩
  | zeroSaved id p => exact ⟨id, touches_modifyPayout, Or.inr ⟨_, rfl, rfl⟩⟩
  | processingSaved id p => exact ⟨id, touches_modifyPayout, Or.inr ⟨_, rfl, rfl⟩⟩
  | successSaved id p => exact ⟨id, touches_modifyPayout, Or.inr ⟨_, rfl, rfl⟩⟩
  | flagSaved id p => exact ⟨id, touches_modifyPayout, Or.inr ⟨_, rfl, rfl⟩⟩
  | failSaved id p => exact ⟨id, touches_modifyPayout, Or.inr ⟨_, rfl, rfl⟩⟩
  | transferred id p ref ha => exact ⟨id, touches_send, Or.inr ⟨_, rfl, rfl⟩⟩
  | unknown id p moved m ha => exact ⟨id, touches_send, Or.inr ⟨_, rfl, rfl⟩⟩
  | failed id p moved m ha => exact ⟨id, touches_send, Or.inr ⟨_, rfl, rfl⟩⟩
  | entrySaved guarded id p c b rest =>
    exact ⟨id, .of_same ⟨rfl, rfl, fun _ _ => rfl⟩, Or.inr ⟨_, rfl, rfl⟩⟩
  | _ => exact ⟨_, .of_same (.refl w), Or.inr ⟨_, rfl, rfl⟩⟩

/-- No other call executes or resolves the payout a move touches. -/
theorem apart_of_touched {p q : Proc} (hq : q.Knows w) (hapart : Apart p q)
    (hp : p.executing = some (a, e)) (hid : e.stage = none ∧ id = w.payouts.nextId ∨
      ∃ st, e.stage = some st ∧ st.id = id) :
    ∀ i, q.owns = some i ∨ q.resolves = some i → i ≠ id := by
  rintro i hi rfl
  rcases hid with ⟨_, rfl⟩ | ⟨st, hst, rfl⟩
  · exact absurd (hq.lt_nextId hi) (Nat.lt_irrefl _)
  · have := hapart.left st.id (Proc.owns_of_stage hp hst)
    exact hi.elim this.1 this.2

end Exec

section Resolve

variable {w w' : World} {pc pc' : ResolvePc}

/-- A move of `resolveReconciliation` touches its own payout only. -/
theorem resolve_touches (hm : ResolveMove w pc w' pc') :
    w.SamePayouts w' ∨ ∃ c, pc.resolution = some c ∧ Touches c.payoutId w w' := by
  cases hm with
  | released c o rest => exact Or.inr ⟨c, rfl, touches_releaseOrder⟩
  | saved c => exact Or.inr ⟨c, rfl, touches_modifyPayout⟩
  | entrySaved c e b rest => exact Or.inl ⟨rfl, rfl, fun _ _ => rfl⟩
  | _ => exact Or.inl (.refl w)

/-- A resolution starts with a flagged payout that was found. -/
theorem resolve_accepted (hm : ResolveMove w pc w' pc') {c : Resolution}
    (hc : pc'.resolution = some c) (hold : pc.resolution ≠ some c) :
    ∃ admin, pc = .find c.payoutId admin c.transferActuallySucceeded ∧
      w.payouts.get c.payoutId = some c.payout ∧ c.payout.reconciliationRequired = true := by
  cases hm with
  | accepted id admin answer d hd hf =>
    have hc' : c = ⟨id, d, admin, answer, w.now⟩ := by
      cases answer
      · exact (Option.some.inj hc).symm
      · exact Option.some.inj (hc.symm.trans (resolution_consume _ _))
    subst hc'
    exact ⟨admin, rfl, hd, hf⟩
  | rejected => cases hc
  | saved => cases hc
  | entryGone c₁ e rest hb => exact absurd ((resolution_consume c₁ rest).symm.trans hc) hold
  | entrySaved c₁ e b rest => exact absurd ((resolution_consume c₁ rest).symm.trans hc) hold
  | _ => exact absurd hc hold

/-- What a resolution does to another one that gives the same answer. -/
theorem resolve_resolveHolds (hm : ResolveMove w pc w' pc') {c' : Resolution}
    (h : ProcHolds w (.resolve pc)) (hres : ∀ c, pc.resolution = some c → Resolves w c)
    (hagree : ∀ c, pc.resolution = some c → c.payoutId = c'.payoutId →
      c.transferActuallySucceeded = c'.transferActuallySucceeded)
    (h' : ResolveHolds w c') : ResolveHolds w' c' := by
  cases hm with
  | released c o rest =>
    refine ⟨fun ha d hd => (h'.held ha d hd).touches touches_releaseOrder fun hid => ?_, h'.failed⟩
    have hno := h.releasing c _ rfl
    rw [hagree c rfl hid.symm, ha] at hno
    cases hno
  | saved c =>
    refine ⟨fun ha d hd => ?_, fun ha d hd => ?_⟩
    · rcases Collection.get_modify_cases hd with ⟨_, d₀, hd₀, rfl⟩ | ⟨_, hd₀⟩
      · exact (h'.held ha d₀ hd₀).congr ⟨rfl, rfl, rfl⟩
      · exact h'.held ha d hd₀
    · rcases Collection.get_modify_cases hd with ⟨hid, d₀, hd₀, rfl⟩ | ⟨_, hd₀⟩
      · simp only [Payout.saveResolved, hagree c rfl hid, ha, (hres c rfl).failed]
        exact h'.failed ha d₀ hd₀
      · exact h'.failed ha d hd₀
  | entrySaved c e b rest => exact h'.same ⟨rfl, rfl, fun _ _ => rfl⟩
  | _ => exact h'

/-- **A move of `resolveReconciliation` keeps the claims.** -/
theorem resolve_holds (hm : ResolveMove w pc w' pc') (hok : ClaimsOk w)
    (hshared : ownership.shared w) (h : ProcHolds w (.resolve pc))
    (hres : ∀ c, pc.resolution = some c → Resolves w c)
    (hyes : ∀ id admin d, pc = .find id admin true → w.payouts.get id = some d →
      d.reconciliationRequired = true → w.HoldsAll id d) :
    ClaimsOk w' ∧ ProcHolds w' (.resolve pc') := by
  have keep : ∀ {c : Resolution}, pc.resolution = some c → pc'.resolution = some c →
      (∀ rest, pc' = .release c rest → c.transferActuallySucceeded = false) →
      ProcHolds w' (.resolve pc') := by
    intro c hc hc' hrel
    refine ⟨fun _ _ he => (by cases he), fun c₁ hc₁ => ?_, fun c₁ rest he => ?_⟩
    · obtain rfl := Option.some.inj (hc'.symm.trans hc₁)
      refine resolve_resolveHolds hm h hres (fun c₁ hc₁ _ => ?_) (h.resolving c hc)
      rw [Option.some.inj (hc.symm.trans hc₁)]
    · cases he
      cases hc'
      exact hrel rest rfl
  have done : ∀ {pc' : ResolvePc} {w' : World}, pc'.resolution = none →
      ProcHolds w' (.resolve pc') := by
    intro pc' w' hnone
    refine ⟨fun _ _ he => (by cases he), fun c hc => ?_, fun c rest he => ?_⟩
    · cases hnone.symm.trans hc
    · cases he
      cases hnone
  have hmove := hm
  cases hm with
  | rejected => exact ⟨hok, done rfl⟩
  | accepted id admin answer d hd hf =>
    refine ⟨hok, fun _ _ he => (by cases he), fun c hc => ?_, fun c rest he => ?_⟩
    · obtain ⟨_, heq, hd', hf'⟩ := resolve_accepted hmove hc (by rintro ⟨⟩)
      refine ⟨fun ha d₁ hd₁ => ?_, fun _ d₁ hd₁ => ?_⟩
      · obtain rfl := Option.some.inj (hd'.symm.trans hd₁)
        exact hyes _ _ _ (ha ▸ heq) hd' hf'
      · obtain rfl := Option.some.inj (hd'.symm.trans hd₁)
        exact hshared _ _ hd' hf'
    · cases answer
      · cases he
        rfl
      · cases hl : d.clawbackConsumption <;> simp [hl, ResolvePc.consume] at he
  | entryGone c e rest hb =>
    refine ⟨hok, keep rfl (resolution_consume c rest) fun l hl => ?_⟩
    cases rest <;> cases hl
  | entryFound c e b rest hb => exact ⟨hok, keep rfl rfl fun l hl => by cases hl⟩
  | entrySaved c e b rest =>
    refine ⟨hok.same rfl fun _ _ => rfl, keep rfl (resolution_consume c rest) fun l hl => ?_⟩
    cases rest <;> cases hl
  | released c o rest =>
    have hno := h.releasing c _ rfl
    refine ⟨hok.releaseOrder fun d hd => ?_, keep rfl rfl fun _ _ => hno⟩
    rw [(h.resolving c rfl).failed hno d hd]
    exact ⟨by decide, by decide⟩
  | releasedAll c => exact ⟨hok, keep rfl rfl fun l hl => by cases hl⟩
  | saved c =>
    have hc := h.resolving c rfl
    refine ⟨hok.modifyPayout (fun d _ => ⟨rfl, rfl, rfl⟩) fun d hd hs => ?_, done rfl⟩
    cases ha : c.transferActuallySucceeded with
    | true => exact hc.held ha d hd
    | false =>
      simp only [Payout.saveResolved, ha, (hres c rfl).failed] at hs
      exact hok.held _ d hd hs

end Resolve

/-! ## Payouts awaiting reconciliation -/

section Unwinding

theorem unwinding_touches {w w' : World} {id i : PayoutId} (ht : Touches i w w') (hne : id ≠ i)
    (h : unwinding.due w' id) : unwinding.due w id := by
  obtain ⟨d, hd, hf, hh⟩ := h
  refine ⟨d, ht.payouts id hne ▸ hd, hf, fun hall => hh (hall.touches ht hne)⟩

theorem unwinding_same {w w' : World} {id : PayoutId} (hs : w.SamePayouts w')
    (h : unwinding.due w' id) : unwinding.due w id := by
  obtain ⟨d, hd, hf, hh⟩ := h
  exact ⟨d, hs.payouts ▸ hd, hf, fun hall => hh fun o ho => by rw [hs.claims, hall o ho]⟩

/-- The payout a call executes is flagged only by the `save()` that ends it. -/
theorem unwinding_exec {a : Attempt} {w w' : World} {e e' : ExecPc} {r : Reply} {id : PayoutId}
    (hm : ExecMove a w e r w' e') (hok : ClaimsOk w)
    (hx : ∀ st, e.stage = some st → Executes w a st) (h : unwinding.due w' id) :
    unwinding.due w id := by
  obtain ⟨i, ht, hi⟩ := exec_touches hm
  by_cases hne : id = i
  · exfalso
    subst hne
    obtain ⟨d, hd, hf, hh⟩ := h
    cases exec_payouts hm with
    | same hp _ =>
      rw [hp] at hd
      rcases hi with ⟨_, rfl⟩ | ⟨st, hst, rfl⟩
      · rw [Collection.get_nextId] at hd
        cases hd
      · obtain ⟨d', hd', _, hf', _⟩ := (hx st hst).stored
        rw [hd] at hd'
        cases hd'
        rw [hf] at hf'
        cases hf'
    | created he hp _ _ =>
      rw [hp] at hd
      rcases Collection.get_create_cases hd with ⟨_, rfl⟩ | ⟨hn, _⟩
      · cases hf
      · rcases hi with ⟨_, rfl⟩ | ⟨st, hst, _⟩
        · exact hn rfl
        · subst he
          cases hst
    | saved st hst hp ho _ =>
      rcases hi with ⟨hnone, _⟩ | ⟨st', hst', rfl⟩
      · rw [hst] at hnone
        cases hnone
      · obtain rfl := Option.some.inj (hst.symm.trans hst')
        obtain ⟨d₀, hd₀, hs₀, _, ht₀⟩ := (hx st hst).stored
        rw [hp, Collection.get_modify_self, hd₀] at hd
        obtain rfl := Option.some.inj hd
        have hflag : st.flagged = true := (hx st hst).flag ▸ hf
        have hproc : st.stored = .processing := by
          cases e <;> cases hst <;> first | rfl | cases hflag
        have hall := (hok.held st.id d₀ hd₀ (Or.inl (hs₀.trans hproc))).congr
          ((hx st hst).terms.trans ht₀.symm)
        exact hh fun o hmem => by rw [World.claimOf, ho, ← World.claimOf, hall o hmem]
  · exact unwinding_touches ht hne h

/-- A resolution that answers no keeps unwinding its payout until it saves. -/
theorem unwinding_resolve {w w' : World} {pc pc' : ResolvePc} {id : PayoutId}
    (hm : ResolveMove w pc w' pc') (hp : ProcHolds w (.resolve pc))
    (h : unwinding.due w' id) :
    Proc.unwinds (.resolve pc') id ∨ (unwinding.due w id ∧ ¬ Proc.unwinds (.resolve pc) id) := by
  have keep : ∀ {c : Resolution}, pc.resolution = some c → pc'.resolution = some c →
      w.SamePayouts w' → Proc.unwinds (.resolve pc') id ∨
        (unwinding.due w id ∧ ¬ Proc.unwinds (.resolve pc) id) := by
    intro c hc hc' hs
    by_cases hu : Proc.unwinds (.resolve pc) id
    · obtain ⟨c₁, hc₁, hrest⟩ := hu
      obtain rfl := Option.some.inj (hc.symm.trans hc₁)
      exact Or.inl ⟨c, hc', hrest⟩
    · exact Or.inr ⟨unwinding_same hs h, hu⟩
  cases hm with
  | rejected => exact Or.inr ⟨h, by rintro ⟨c, hc, _⟩; cases hc⟩
  | accepted => exact Or.inr ⟨h, by rintro ⟨c, hc, _⟩; cases hc⟩
  | entryGone c e rest hb => exact keep rfl (resolution_consume c rest) (.refl w)
  | entryFound c e b rest hb => exact keep rfl rfl (.refl w)
  | entrySaved c e b rest => exact keep rfl (resolution_consume c rest) ⟨rfl, rfl, fun _ _ => rfl⟩
  | releasedAll c => exact keep rfl rfl (.refl w)
  | released c o rest =>
    by_cases hid : id = c.payoutId
    · exact Or.inl ⟨c, rfl, hid.symm, hp.releasing c _ rfl⟩
    · refine Or.inr ⟨unwinding_touches touches_releaseOrder hid h, ?_⟩
      rintro ⟨c', hc', hid', _⟩
      cases hc'
      exact hid hid'.symm
  | saved c =>
    by_cases hid : id = c.payoutId
    · exfalso
      obtain ⟨d, hd, hf, _⟩ := h
      rcases Collection.get_modify_cases hd with ⟨_, d₀, _, rfl⟩ | ⟨hne, _⟩
      · cases hf
      · exact hne hid.symm
    · refine Or.inr ⟨unwinding_touches touches_modifyPayout hid h, ?_⟩
      rintro ⟨c', hc', hid', _⟩
      cases hc'
      exact hid hid'.symm

/-- A resolution that is taken up has no other one of its payout giving another
answer. -/
theorem agree_of_run {s : Sys} {i : Nat} {r : Reply} {id : PayoutId} {admin : UserId}
    {answer : Bool} {d : Payout} (h : Agree s (.run i r) = true)
    (hp : s.procs[i]? = some (.resolve (.find id admin answer)))
    (hd : s.shared.payouts.get id = some d) (hf : d.reconciliationRequired = true) {q : Proc}
    (hq : q ∈ s.procs) {c : Resolution} (hc : q.resolving = some c) (hid : c.payoutId = id) :
    c.transferActuallySucceeded = answer := by
  simp only [Agree, hp, hd, hf, Bool.not_true, Bool.false_or, List.all_eq_true] at h
  simpa [hc, hid] using h q hq

/-- **No flagged payout is left without its orders** unless a call is releasing
them. -/
theorem unwinding_kept (dir : Directory) :
    unwinding.Kept (system dir) Civil fun s => ownership.Holds s ∧ holding.Holds s where
  run s i r p w p' hbase hb hr hp hstep id hdue := by
    have hk := hbase.1.at hp
    have hc := hbase.2.at hp
    cases call_move hr.1 hstep with
    | quiet => exact Or.inr (hb.elsewhere hp hdue (by rintro ⟨c, hc, _⟩; cases hc))
    | refund hm =>
      exact Or.inr (hb.elsewhere hp (unwinding_same (refund_samePayouts hm) hdue)
        (by rintro ⟨c, hc, _⟩; cases hc))
    | resolve hm =>
      exact (unwinding_resolve hm hc hdue).imp_right fun h => hb.elsewhere hp h.1 h.2
    | exec hpc hm _ =>
      exact Or.inr (hb.elsewhere hp
        (unwinding_exec hm hbase.2.shared (hk.executing _ _ hpc).2 hdue)
        (by rintro ⟨c, hc, _⟩; cases hc))
  env s e w _ _ hw id hdue := unwinding_same (env_samePayouts hw) hdue

end Unwinding

section Kept

theorem procHolds_of_fresh {w : World} {pc : BatchPc} {groups : List UnpaidEarningsGroup}
    (h : pc.Fresh groups) : ProcHolds w (.batch pc) where
  executing a e he := by
    obtain ⟨rfl, _⟩ := h.2 a e he
    exact .of_quiet rfl fun _ _ _ _ he => by cases he
  resolving c hc := by cases hc
  releasing c rest he := by cases he

theorem OneAnswer.of_none {p q : Proc} (h : p.resolving = none) : OneAnswer p q :=
  fun _ _ hc => by cases h.symm.trans hc

/-- **Every step keeps the claims**, when no database call fails and admins do not
contradict each other. -/
theorem holding_kept (dir : Directory) :
    holding.Kept (system dir) Civil fun s => ownership.Holds s ∧ unwinding.Borne s where
  spawn s k _ _ h := by
    refine ⟨⟨fun a e he => ?_, fun c hc => ?_, fun c rest he => ?_⟩, fun q _ => .of_none ?_⟩
    · cases k <;> cases he
    · cases k <;> cases hc
    · cases k <;> cases he
    · cases k <;> rfl
  env s e w _ _ h hw :=
    ⟨h.shared.same (env_samePayouts hw).payouts (env_samePayouts hw).claims,
      fun q hq => (h.procs q hq).same (env_samePayouts hw)⟩
  run s i r p w p' hbase hr h hp hstep := by
    obtain ⟨hown, hborne⟩ := hbase
    have hknows := hown.at hp
    have hproc := h.at hp
    have apart : ∀ j q, i ≠ j → s.procs[j]? = some q → Apart p q :=
      fun j q hij hq => hown.compat i j p q hij hp hq
    cases call_move hr.1 hstep with
    | quiet hpc hread hpc' =>
      exact ⟨h.shared, procHolds_of_fresh hpc', fun j q _ _ hq _ => ⟨hq, .of_none rfl⟩⟩
    | refund hm =>
      have hsame := refund_samePayouts hm
      exact ⟨h.shared.same hsame.payouts hsame.claims,
        ⟨fun _ _ he => (by cases he), fun _ hc => (by cases hc), fun _ _ he => by cases he⟩,
        fun j q _ _ hq _ => ⟨hq.same hsame, .of_none rfl⟩⟩
    | @resolve pc pc' _ hm =>
      have hres := hknows.resolving
      have hyes : ∀ id admin d, pc = .find id admin true → s.shared.payouts.get id = some d →
          d.reconciliationRequired = true → s.shared.HoldsAll id d := by
        rintro id admin d rfl hd hf
        by_contra hh
        obtain ⟨q, hq, c, hc, hid, hno⟩ := hborne id ⟨d, hd, hf, hh⟩
        rw [agree_of_run hr.2 hp hd hf hq hc hid] at hno
        cases hno
      obtain ⟨hok, hproc'⟩ := resolve_holds hm h.shared hown.shared hproc hres hyes
      refine ⟨hok, hproc', fun j q hij hjq hq hone => ⟨⟨fun a e he => ?_, fun c hc => ?_,
        hq.releasing⟩, fun c c' hc hc' hid => ?_⟩⟩
      · rcases resolve_touches hm with hsame | ⟨c, hc, ht⟩
        · exact (hq.executing a e he).same hsame
        · refine (hq.executing a e he).touches ht fun id hid => ?_
          rintro rfl
          refine (apart j q hij hjq).right c.payoutId ?_ (congrArg (Option.map _) hc)
          rw [Proc.owns, he, Option.bind_some, hid]
      · exact resolve_resolveHolds hm hproc hres (fun c₁ hc₁ hid => hone c₁ c hc₁ hc hid)
          (hq.resolving c hc)
      · by_cases hold : pc.resolution = some c
        · exact hone c c' hold hc' hid
        · obtain ⟨admin, rfl, hd, hf⟩ := resolve_accepted hm hc hold
          exact (agree_of_run hr.2 hp hd hf (List.mem_of_getElem? hjq) hc' hid.symm).symm
    | @exec pc pc' a e e' _ hpc hm hpc' =>
      obtain ⟨hfield, hstage⟩ := hknows.executing a e hpc
      obtain ⟨hok, hexec⟩ := exec_holds hm h.shared hfield hstage (hproc.executing a e hpc)
      refine ⟨hok, ?_, fun j q hij hjq hq _ => ⟨?_, .of_none rfl⟩⟩
      · rcases hpc' with ⟨_, hpc', _⟩ | ⟨_, hfresh⟩
        · refine ⟨fun a₁ e₁ he₁ => ?_, fun _ hc => (by cases hc), fun _ _ he => by cases he⟩
          rw [Proc.executing, hpc'] at he₁
          cases he₁
          exact hexec
        · exact procHolds_of_fresh hfresh
      · obtain ⟨id, ht, hid⟩ := exec_touches hm
        have hne := apart_of_touched (hown.at hjq) (apart j q hij hjq) hpc hid
        exact ⟨fun a₁ e₁ he₁ => (hq.executing a₁ e₁ he₁).touches ht fun i hi =>
            hne i (Or.inl (by rw [Proc.owns, he₁, Option.bind_some, hi])),
          fun c hc => (hq.resolving c hc).touches ht
            (hne _ (Or.inr (by rw [Proc.resolves, hc, Option.map_some]))), hq.releasing⟩

theorem holding_initial (vendors : List PayoutVendor) : holding.Holds (Sys.initial vendors) := by
  have hnone : ∀ f o, (World.empty vendors).claimOf f o = none := fun f o => by
    simp [World.claimOf, World.empty]
  exact Outline.holds_nil ⟨fun f o id hc => (by cases (hnone f o).symm.trans hc),
    fun _ _ hd => by simp [World.empty] at hd⟩

/-- In every run the claims are in order, and **a flagged payout holds its orders**
unless an admin's no is being carried out. -/
theorem holding_reach {dir : Directory} {vendors : List PayoutVendor} {s : Sys}
    (h : (system dir).Reach Civil (Sys.initial vendors) s) :
    holding.Holds s ∧ unwinding.Borne s := by
  refine Machine.Reach.invariant (I := fun s => holding.Holds s ∧ unwinding.Borne s)
    ⟨holding_initial vendors, fun id hdue => ?_⟩ (fun s e s' prior hs he hnext => ?_) h
  · obtain ⟨d, hd, _⟩ := hdue
    simp [Sys.initial, World.empty] at hd
  · have hown := ownership_reach (fun _ _ he => he.1) prior
    exact ⟨(holding_kept dir).next ⟨hown, hs.2⟩ hs.1 he hnext,
      (unwinding_kept dir).next ⟨hown, hs.1⟩ hs.2 he hnext⟩

end Kept

end FoodDelivery
