import FoodDelivery.Payouts.Holding

/-!
# Taking a payout's entries off the clawbacks

A payout computes what it withholds when the earnings are collected, and takes it
off the clawbacks entry by entry when it is made or confirmed, possibly weeks later.

* `Proc.applying`, `Proc.saving`, `Proc.confirming`: what a call is taking off, and
  the payout it is confirming as made.
* `AppliesOnce`: an entry is applied only to a clawback that still has the amount
  left and that no other call is about to save, and a payout is confirmed by one
  call at a time.
* `entries_kept`: under this condition every entry names a clawback there is and
  takes whole cents off it, and a clawback about to be saved is still as it was read.
-/

namespace FoodDelivery

open Store Interleave PayoutsService

/-! ## What is consumed -/

/-- How much of a clawback a list of entries names. -/
def taken (c : ClawbackId) (entries : List Consumption) : ℚ :=
  ((entries.filter fun e => e.clawbackId = c).map (·.amountConsumed)).sum

@[simp] theorem taken_nil (c : ClawbackId) : taken c [] = 0 := rfl

theorem taken_cons_self (e : Consumption) (rest : List Consumption) :
    taken e.clawbackId (e :: rest) = e.amountConsumed + taken e.clawbackId rest := by
  simp [taken]

theorem taken_cons_ne {c : ClawbackId} {e : Consumption} (rest : List Consumption)
    (h : e.clawbackId ≠ c) : taken c (e :: rest) = taken c rest := by
  simp [taken, h]

theorem taken_eq_zero {c : ClawbackId} {entries : List Consumption}
    (h : ∀ e ∈ entries, e.clawbackId ≠ c) : taken c entries = 0 := by
  have hnil : (entries.filter fun e => e.clawbackId = c) = [] :=
    List.filter_eq_nil_iff.mpr fun e he => by simpa using h e he
  rw [taken, hnil, List.map_nil, List.sum_nil]

theorem Payout.consumes_eq (p : Payout) (c : ClawbackId) :
    p.consumes c = taken c p.clawbackConsumption := rfl

/-! ## What the calls are applying -/

namespace ExecPc

/-- The entries `applyClawbackConsumption` has yet to save. -/
def applying : ExecPc → List Consumption
  | .consumeFind _ _ _ e rest => e :: rest
  | .consumeSave _ _ _ e _ rest => e :: rest
  | _ => []

/-- The entry whose clawback is looked up next. -/
def lookup : ExecPc → Option Consumption
  | .consumeFind _ _ _ e _ => some e
  | _ => none

/-- The entry that is saved next, with its clawback as it was found. -/
def saving : ExecPc → Option (Consumption × PayoutClawback)
  | .consumeSave _ _ _ e c _ => some (e, c)
  | _ => none

@[simp] theorem applying_consume (guarded : Bool) (id : PayoutId) (p : Payout)
    (entries : List Consumption) : (consume guarded id p entries).applying = entries := by
  cases entries <;> rfl

@[simp] theorem saving_consume (guarded : Bool) (id : PayoutId) (p : Payout)
    (entries : List Consumption) : (consume guarded id p entries).saving = none := by
  cases entries <;> rfl

end ExecPc

namespace ResolvePc

def applying : ResolvePc → List Consumption
  | .consumeFind _ e rest => e :: rest
  | .consumeSave _ e _ rest => e :: rest
  | _ => []

def lookup : ResolvePc → Option Consumption
  | .consumeFind _ e _ => some e
  | _ => none

def saving : ResolvePc → Option (Consumption × PayoutClawback)
  | .consumeSave _ e c _ => some (e, c)
  | _ => none

@[simp] theorem applying_consume (c : Resolution) (entries : List Consumption) :
    (consume c entries).applying = entries := by cases entries <;> rfl

@[simp] theorem saving_consume (c : Resolution) (entries : List Consumption) :
    (consume c entries).saving = none := by cases entries <;> rfl

end ResolvePc

namespace Proc

def applying : Proc → List Consumption
  | .batch pc => (pc.executing.map fun x => x.2.applying).getD []
  | .resolve pc => pc.applying
  | .refund _ => []

def lookup : Proc → Option Consumption
  | .batch pc => pc.executing.bind fun x => x.2.lookup
  | .resolve pc => pc.lookup
  | .refund _ => none

def saving : Proc → Option (Consumption × PayoutClawback)
  | .batch pc => pc.executing.bind fun x => x.2.saving
  | .resolve pc => pc.saving
  | .refund _ => none

/-- The payout that a call is confirming as made. -/
def confirming (p : Proc) : Option Resolution :=
  p.resolving.filter (·.transferActuallySucceeded)

/-- The payout a call takes up as made in its next step, with its entries. -/
def confirms (w : World) : Proc → Option (PayoutId × Payout)
  | .resolve (.find id _ true) =>
    (w.payouts.get id).bind fun d => if d.reconciliationRequired then some (id, d) else none
  | _ => none

end Proc

/-- An entry is applied to a clawback that still has the amount left and that no other
call is about to save, and a payout with entries is confirmed by one call at a time. -/
def AppliesOnce (s : Sys) : SysEvent → Bool
  | .run i _ =>
    match s.procs[i]? with
    | some p =>
      (p.lookup.all fun e =>
        ((s.shared.clawbacks.get e.clawbackId).all fun c => e.amountConsumed ≤ c.remainingAmount) &&
          s.procs.all fun q => q.saving.all fun x => x.1.clawbackId != e.clawbackId) &&
      (p.confirms s.shared).all fun x => x.2.clawbackConsumption.isEmpty ||
        s.procs.all fun q => q.confirming.all fun c => c.payoutId != x.1
    | none => true
  | _ => true

/-! ## Entries and clawbacks -/

/-- An entry takes a positive number of whole cents off a clawback there is. -/
structure SoundEntry (w : World) (e : Consumption) : Prop where
  known : e.clawbackId < w.clawbacks.nextId
  positive : 0 < e.amountConsumed
  cents : IsCents e.amountConsumed

/-- What a clawback document satisfies at any time. -/
structure ClawbackOk (c : PayoutClawback) : Prop where
  cents : IsCents c.remainingAmount
  nonneg : 0 ≤ c.remainingAmount
  applied : c.status = .fullyApplied → c.remainingAmount = 0
  pending : c.remainingAmount = 0 → 0 < c.amount → c.status = .fullyApplied

structure EntriesOk (w : World) : Prop where
  payouts : ∀ id d, w.payouts.get id = some d → ∀ e ∈ d.clawbackConsumption, SoundEntry w e
  clawbacks : ∀ i c, w.clawbacks.get i = some c → ClawbackOk c

structure ProcEntries (w : World) (p : Proc) : Prop where
  groups : ∀ g ∈ p.pendingGroups, ∀ e ∈ g.clawbackConsumption.getD [], SoundEntry w e
  attempt : ∀ a e, p.executing = some (a, e) →
    ∀ x ∈ a.group.clawbackConsumption.getD [], SoundEntry w x
  applying : ∀ e ∈ p.applying, SoundEntry w e
  saving : ∀ e b, p.saving = some (e, b) → ∃ d, w.clawbacks.get e.clawbackId = some d ∧
    d.remainingAmount = b.remainingAmount ∧ e.amountConsumed ≤ d.remainingAmount
  resolving : ∀ c, p.resolving = some c → ∀ e ∈ c.payout.clawbackConsumption, SoundEntry w e
  confirming : ∀ c, p.confirming = some c → c.payout.clawbackConsumption = [] ∨
    ∀ d, w.payouts.get c.payoutId = some d → d.status = .failed

/-- No two calls are about to save one clawback, or confirm one payout with entries. -/
structure ApplyApart (p q : Proc) : Prop where
  saving : ∀ e b e' b', p.saving = some (e, b) → q.saving = some (e', b') →
    e.clawbackId ≠ e'.clawbackId
  confirming : ∀ c c', p.confirming = some c → q.confirming = some c' →
    c.payoutId = c'.payoutId →
    c.payout.clawbackConsumption = [] ∧ c'.payout.clawbackConsumption = []

def entries : Outline World Proc where
  shared := EntriesOk
  proc := ProcEntries
  compat := ApplyApart
  symm _ _ h := ⟨fun e b e' b' hp hq => (h.saving e' b' e b hq hp).symm,
    fun c c' hp hq hid => (h.confirming c' c hq hp hid.symm).symm⟩

section Entries

variable {w w' : World} {p q : Proc} {e : Consumption}

theorem SoundEntry.mono (h : SoundEntry w e) (hw : w.clawbacks.nextId ≤ w'.clawbacks.nextId) :
    SoundEntry w' e := ⟨Nat.lt_of_lt_of_le h.known hw, h.positive, h.cents⟩

/-- A batch between payouts is applying nothing. -/
theorem applying_of_fresh {pc : BatchPc} {groups : List UnpaidEarningsGroup} (h : pc.Fresh groups) :
    (Proc.batch pc).applying = [] ∧ (Proc.batch pc).saving = none := by
  simp only [Proc.applying, Proc.saving]
  cases he : pc.executing with
  | none => exact ⟨rfl, rfl⟩
  | some x =>
    obtain ⟨a, e⟩ := x
    obtain ⟨rfl, _⟩ := h.2 a e he
    exact ⟨rfl, rfl⟩

/-- A batch that has read sound groups. -/
theorem procEntries_of_fresh {pc : BatchPc} {groups : List UnpaidEarningsGroup}
    (h : pc.Fresh groups) (hg : ∀ g ∈ groups, ∀ e ∈ g.clawbackConsumption.getD [], SoundEntry w e) :
    ProcEntries w (.batch pc) where
  groups g hmem := hg g (h.1 g hmem)
  attempt a e he := hg a.group (h.2 a e he).2.1
  applying x hx := by
    rw [(applying_of_fresh h).1] at hx
    exact absurd hx List.not_mem_nil
  saving x b hx := by cases (applying_of_fresh h).2.symm.trans hx
  resolving c hc := by cases hc
  confirming c hc := by cases hc

/-- A call that has read no group and applies nothing. -/
theorem procEntries_of_idle (hg : p.pendingGroups = []) (he : p.executing = none)
    (ha : p.applying = []) (hs : p.saving = none) (hr : p.resolving = none) : ProcEntries w p where
  groups g hmem := absurd (hg ▸ hmem) List.not_mem_nil
  attempt _ _ h := by cases he.symm.trans h
  applying e hmem := absurd (ha ▸ hmem) List.not_mem_nil
  saving _ _ h := by cases hs.symm.trans h
  resolving _ h := by cases hr.symm.trans h
  confirming c h := by
    rw [Proc.confirming, hr] at h
    cases h

/-- **The groups a batch reads have sound entries.** -/
theorem sound_of_groupsRead {raw groups : List UnpaidEarningsGroup} (h : GroupsRead w raw groups)
    (hraw : ∀ g ∈ raw, ∀ e ∈ g.clawbackConsumption.getD [], SoundEntry w e) :
    ∀ g ∈ groups, ∀ e ∈ g.clawbackConsumption.getD [], SoundEntry w e := by
  intro g hg e he
  cases h with
  | none => exact absurd hg List.not_mem_nil
  | rider userId =>
    rw [consumption_group _ hg] at he
    exact absurd he List.not_mem_nil
  | vendor sellerType vendorId =>
    rw [consumption_group _ hg] at he
    exact absurd he List.not_mem_nil
  | netted sellerType vendorId =>
    rcases consumption_applyClawbacks hg he with ⟨g', hg', he'⟩ | hs
    · exact hraw g' hg' e he'
    · obtain ⟨c, hc⟩ := hs.named
      exact ⟨Collection.lt_nextId_of_get (Collection.mem_find.mp hc).1, hs.positive, hs.cents⟩

/-- Steps that leave the clawbacks alone, and the payouts a call is confirming. -/
theorem ProcEntries.same (h : ProcEntries w p) (hc : w'.clawbacks = w.clawbacks)
    (hp : ∀ c, p.confirming = some c → c.payout.clawbackConsumption = [] ∨
      ∀ d', w'.payouts.get c.payoutId = some d' →
        ∃ d, w.payouts.get c.payoutId = some d ∧ d'.status = d.status) : ProcEntries w' p where
  groups g hg e he := (h.groups g hg e he).mono (by rw [hc])
  attempt a e he x hx := (h.attempt a e he x hx).mono (by rw [hc])
  applying e he := (h.applying e he).mono (by rw [hc])
  saving e b hs := by rw [hc]; exact h.saving e b hs
  resolving c hr e he := (h.resolving c hr e he).mono (by rw [hc])
  confirming c hcon := by
    rcases hp c hcon with hnil | hsame
    · exact Or.inl hnil
    · refine (h.confirming c hcon).imp_right fun hfail d' hd' => ?_
      obtain ⟨d, hd, he⟩ := hsame d' hd'
      rw [he, hfail d hd]

theorem EntriesOk.of_clawbacks (h : EntriesOk w) (hc : w'.clawbacks = w.clawbacks)
    (hp : ∀ id d, w'.payouts.get id = some d → ∀ e ∈ d.clawbackConsumption, SoundEntry w e) :
    EntriesOk w' where
  payouts id d hd e he := (hp id d hd e he).mono (by rw [hc])
  clawbacks i c hi := h.clawbacks i c (hc ▸ hi)

/-- What is left of a clawback after an entry was taken off it. -/
theorem ClawbackOk.saveRemaining {c b : PayoutClawback} (h : ClawbackOk c)
    (hb : c.remainingAmount = b.remainingAmount) (he : 0 < e.amountConsumed)
    (hcents : IsCents e.amountConsumed) (hle : e.amountConsumed ≤ c.remainingAmount) :
    ClawbackOk (c.saveRemaining (b.remainingAfter e.amountConsumed)) ∧
      (c.saveRemaining (b.remainingAfter e.amountConsumed)).remainingAmount =
        c.remainingAmount - e.amountConsumed := by
  have hafter : b.remainingAfter e.amountConsumed = c.remainingAmount - e.amountConsumed := by
    rw [hb] at hle ⊢
    exact PayoutClawback.remainingAfter_eq (hb ▸ h.cents) hcents hle
  rw [hafter]
  refine ⟨⟨h.cents.sub hcents, sub_nonneg.mpr hle, fun hs => ?_, fun hz _ => ?_⟩, rfl⟩
  · simp only [PayoutClawback.saveRemaining] at hs ⊢
    split at hs
    · rename_i hnp
      exact le_antisymm hnp (sub_nonneg.mpr hle)
    · have := h.applied hs
      linarith
  · simp only [PayoutClawback.saveRemaining] at hz ⊢
    rw [if_pos hz.le]

/-- Saving an entry leaves the other clawbacks alone. -/
theorem get_saveRemaining_ne {i j : ClawbackId} {x : ℚ} (h : i ≠ j) :
    (w.saveRemaining i x).clawbacks.get j = w.clawbacks.get j := Collection.get_modify_ne h

/-- **An entry is saved** by the only call that is about to save its clawback. -/
theorem entries_saved {b : PayoutClawback} (hok : EntriesOk w) (h : ProcEntries w p)
    (hs : p.saving = some (e, b)) (hmem : e ∈ p.applying) :
    EntriesOk (w.saveRemaining e.clawbackId (b.remainingAfter e.amountConsumed)) ∧
      ∀ q, ApplyApart p q → ProcEntries w q →
        ProcEntries (w.saveRemaining e.clawbackId (b.remainingAfter e.amountConsumed)) q := by
  obtain ⟨d, hd, hrem, hle⟩ := h.saving e b hs
  have hsound := h.applying e hmem
  have hnext : w.clawbacks.nextId ≤
      (w.saveRemaining e.clawbackId (b.remainingAfter e.amountConsumed)).clawbacks.nextId := by
    rw [World.saveRemaining, Collection.nextId_modify]
  refine ⟨⟨fun id d hd x hx => (hok.payouts id d hd x hx).mono hnext, fun i c hi => ?_⟩,
    fun q hapart hq => ⟨fun g hg x hx => (hq.groups g hg x hx).mono hnext,
      fun a x hx y hy => (hq.attempt a x hx y hy).mono hnext,
      fun x hx => (hq.applying x hx).mono hnext, fun x y hx => ?_,
      fun c hc x hx => (hq.resolving c hc x hx).mono hnext, hq.confirming⟩⟩
  · rcases Collection.get_modify_cases hi with ⟨_, d₁, hd₁, rfl⟩ | ⟨_, hi⟩
    · subst i
      obtain rfl := Option.some.inj (hd.symm.trans hd₁)
      exact ((hok.clawbacks _ d hd).saveRemaining hrem hsound.positive hsound.cents hle).1
    · exact hok.clawbacks i c hi
  · rw [get_saveRemaining_ne (hapart.saving e b x y hs hx)]
    exact hq.saving x y hx

end Entries

section Moves

variable {w w' : World} {r : Reply}

/-- What follows a move that does not save an entry. -/
theorem exec_entries {pc : BatchPc} {a : Attempt} {e e' : ExecPc} (hm : ExecMove a w e r w' e')
    (hx : ∀ st, e.stage = some st → Executes w a st) (hok : EntriesOk w)
    (h : ProcEntries w (.batch pc)) (hpc : pc.executing = some (a, e)) (hns : e.saving = none) :
    EntriesOk w' ∧ w'.clawbacks = w.clawbacks ∧ (∀ x ∈ e'.applying, SoundEntry w x) ∧
      ∀ x b, e'.saving = some (x, b) →
        e.lookup = some x ∧ w.clawbacks.get x.clawbackId = some b := by
  have hgroup := h.attempt a e hpc
  have happly : ∀ x ∈ e.applying, SoundEntry w x := fun x hmem => h.applying x (by
    rw [Proc.applying, hpc]
    exact hmem)
  have save : ∀ {st : Stage}, e.stage = some st →
      EntriesOk (w.modifyPayout st.id fun _ => st.payout) := by
    intro st hst
    refine hok.of_clawbacks rfl fun id d hd x hmem => ?_
    rcases Collection.get_modify_cases hd with ⟨_, _, _, rfl⟩ | ⟨_, hd⟩
    · rw [(hx st hst).terms.consumption] at hmem
      exact hgroup x hmem
    · exact hok.payouts id d hd x hmem
  have nothing : ∀ x ∈ ([] : List Consumption), SoundEntry w x :=
    fun x hmem => absurd hmem List.not_mem_nil
  cases hm with
  | created hv =>
    refine ⟨hok.of_clawbacks rfl fun id d hd x hmem => ?_, rfl, nothing, fun _ _ hs => by cases hs⟩
    rcases Collection.get_create_cases hd with ⟨_, rfl⟩ | ⟨_, hd⟩
    · exact hgroup x hmem
    · exact hok.payouts id d hd x hmem
  | raceSaved id p => exact ⟨save rfl, rfl, nothing, fun _ _ hs => by cases hs⟩
  | processingSaved id p => exact ⟨save rfl, rfl, nothing, fun _ _ hs => by cases hs⟩
  | flagSaved id p => exact ⟨save rfl, rfl, nothing, fun _ _ hs => by cases hs⟩
  | failSaved id p => exact ⟨save rfl, rfl, nothing, fun _ _ hs => by cases hs⟩
  | zeroSaved id p =>
    refine ⟨save rfl, rfl, ?_, ?_⟩
    · rw [ExecPc.applying_consume]
      exact hgroup
    · rw [ExecPc.saving_consume]
      rintro _ _ ⟨⟩
  | successSaved id p =>
    refine ⟨save rfl, rfl, ?_, ?_⟩
    · rw [ExecPc.applying_consume]
      exact hgroup
    · rw [ExecPc.saving_consume]
      rintro _ _ ⟨⟩
  | entryGone guarded id p x rest hb =>
    refine ⟨hok, rfl, fun y hmem => ?_, fun _ _ hs => ?_⟩
    · rw [ExecPc.applying_consume] at hmem
      exact happly y (List.mem_cons_of_mem _ hmem)
    · rw [ExecPc.saving_consume] at hs
      cases hs
  | entryFound guarded id p x b rest hb =>
    refine ⟨hok, rfl, happly, fun y b' hs => ?_⟩
    cases hs
    exact ⟨rfl, hb⟩
  | entrySaved => cases hns
  | transferred =>
    exact ⟨hok.of_clawbacks World.clawbacks_send fun id d hd => hok.payouts id d
      (World.payouts_send ▸ hd), World.clawbacks_send, nothing, fun _ _ hs => by cases hs⟩
  | unknown =>
    exact ⟨hok.of_clawbacks World.clawbacks_send fun id d hd => hok.payouts id d
      (World.payouts_send ▸ hd), World.clawbacks_send, nothing, fun _ _ hs => by cases hs⟩
  | failed =>
    exact ⟨hok.of_clawbacks World.clawbacks_send fun id d hd => hok.payouts id d
      (World.payouts_send ▸ hd), World.clawbacks_send, nothing, fun _ _ hs => by cases hs⟩
  | claimed => exact ⟨hok.of_clawbacks rfl hok.payouts, rfl, nothing, fun _ _ hs => by cases hs⟩
  | raceReleased =>
    exact ⟨hok.of_clawbacks rfl hok.payouts, rfl, nothing, fun _ _ hs => by cases hs⟩
  | released => exact ⟨hok.of_clawbacks rfl hok.payouts, rfl, nothing, fun _ _ hs => by cases hs⟩
  | _ => exact ⟨hok, rfl, nothing, fun _ _ hs => by cases hs⟩

/-- What follows a move of a resolution that does not save an entry. -/
theorem resolve_entries {pc pc' : ResolvePc} (hm : ResolveMove w pc w' pc') (hok : EntriesOk w)
    (h : ProcEntries w (.resolve pc)) (hns : pc.saving = none) :
    EntriesOk w' ∧ w'.clawbacks = w.clawbacks ∧ (∀ x ∈ pc'.applying, SoundEntry w x) ∧
      ∀ x b, pc'.saving = some (x, b) →
        pc.lookup = some x ∧ w.clawbacks.get x.clawbackId = some b := by
  have nothing : ∀ x ∈ ([] : List Consumption), SoundEntry w x :=
    fun x hmem => absurd hmem List.not_mem_nil
  cases hm with
  | rejected => exact ⟨hok, rfl, nothing, fun _ _ hs => by cases hs⟩
  | accepted id admin answer p hp hf =>
    cases answer with
    | false => exact ⟨hok, rfl, nothing, fun _ _ hs => by cases hs⟩
    | true =>
      refine ⟨hok, rfl, fun x hmem => ?_, fun _ _ hs => ?_⟩
      · rw [if_pos rfl, ResolvePc.applying_consume] at hmem
        exact hok.payouts id p hp x hmem
      · rw [if_pos rfl, ResolvePc.saving_consume] at hs
        cases hs
  | entryGone c e rest hb =>
    refine ⟨hok, rfl, fun y hmem => ?_, fun _ _ hs => ?_⟩
    · rw [ResolvePc.applying_consume] at hmem
      exact h.applying y (List.mem_cons_of_mem _ hmem)
    · rw [ResolvePc.saving_consume] at hs
      cases hs
  | entryFound c e b rest hb =>
    refine ⟨hok, rfl, h.applying, fun y b' hs => ?_⟩
    cases hs
    exact ⟨rfl, hb⟩
  | entrySaved => cases hns
  | released => exact ⟨hok.of_clawbacks rfl hok.payouts, rfl, nothing, fun _ _ hs => by cases hs⟩
  | releasedAll => exact ⟨hok, rfl, nothing, fun _ _ hs => by cases hs⟩
  | saved c =>
    refine ⟨hok.of_clawbacks rfl fun id d hd x hmem => ?_, rfl, nothing, fun _ _ hs => by cases hs⟩
    rcases Collection.get_modify_cases hd with ⟨_, d₀, hd₀, rfl⟩ | ⟨_, hd⟩
    · exact hok.payouts id d₀ hd₀ x hmem
    · exact hok.payouts id d hd x hmem

/-- What `executePayout` does when it saves an entry. -/
theorem exec_saves {a : Attempt} {e e' : ExecPc} (hm : ExecMove a w e r w' e') {x : Consumption}
    {b : PayoutClawback} (hs : e.saving = some (x, b)) :
    w' = w.saveRemaining x.clawbackId (b.remainingAfter x.amountConsumed) ∧
      e.applying = x :: e'.applying ∧ e'.saving = none := by
  cases hm with
  | entrySaved guarded id p y c rest =>
    cases hs
    exact ⟨rfl, by rw [ExecPc.applying_consume, ExecPc.applying], ExecPc.saving_consume _ _ _ _⟩
  | _ => cases hs

/-- What a resolution does when it saves an entry. -/
theorem resolve_saves {pc pc' : ResolvePc} (hm : ResolveMove w pc w' pc') {x : Consumption}
    {b : PayoutClawback} (hs : pc.saving = some (x, b)) :
    w' = w.saveRemaining x.clawbackId (b.remainingAfter x.amountConsumed) ∧
      pc.applying = x :: pc'.applying ∧ pc'.saving = none ∧ pc'.resolution = pc.resolution := by
  cases hm with
  | entrySaved c y c' rest =>
    cases hs
    exact ⟨rfl, by rw [ResolvePc.applying_consume, ResolvePc.applying],
      ResolvePc.saving_consume _ _, resolution_consume c rest⟩
  | _ => cases hs

/-- A refund leaves the clawbacks alone, or records one. -/
theorem refund_creates {pc pc' : RefundPc} (hm : RefundMove w pc r w' pc') :
    w'.clawbacks = w.clawbacks ∨
      ∃ id order payoutId, w'.clawbacks = w.clawbacks.create (.ofOrder id order payoutId) := by
  cases hm with
  | recorded => exact Or.inr ⟨_, _, _, rfl⟩
  | _ => exact Or.inl rfl

/-- A clawback as it is recorded. -/
theorem clawbackOk_ofOrder (id : OrderId) (order : Order) (payoutId : PayoutId) :
    ClawbackOk (.ofOrder id order payoutId) where
  cents := order.restaurantPayoutAmount.cents
  nonneg := order.restaurantPayoutAmount.nonneg
  applied h := by cases h
  pending hz hpos := absurd hz hpos.ne'

theorem EntriesOk.created (h : EntriesOk w) {id : OrderId} {order : Order} {payoutId : PayoutId}
    (hc : w'.clawbacks = w.clawbacks.create (.ofOrder id order payoutId))
    (hp : w'.payouts = w.payouts) : EntriesOk w' where
  payouts i d hd e he := (h.payouts i d (hp ▸ hd) e he).mono (by
    rw [hc, Collection.nextId_create]
    exact Nat.le_succ _)
  clawbacks i c hi := by
    rw [hc] at hi
    rcases Collection.get_create_cases hi with ⟨_, rfl⟩ | ⟨_, hi⟩
    · exact clawbackOk_ofOrder id order payoutId
    · exact h.clawbacks i c hi

theorem ProcEntries.created {p : Proc} (h : ProcEntries w p) {id : OrderId} {order : Order}
    {payoutId : PayoutId} (hc : w'.clawbacks = w.clawbacks.create (.ofOrder id order payoutId))
    (hp : w'.payouts = w.payouts) : ProcEntries w' p := by
  have hnext : w.clawbacks.nextId ≤ w'.clawbacks.nextId := by
    rw [hc, Collection.nextId_create]
    exact Nat.le_succ _
  refine ⟨fun g hg e he => (h.groups g hg e he).mono hnext,
    fun a e he x hx => (h.attempt a e he x hx).mono hnext,
    fun e he => (h.applying e he).mono hnext, fun e b hs => ?_,
    fun c hr e he => (h.resolving c hr e he).mono hnext, fun c hcon => ?_⟩
  · obtain ⟨d, hd, hrest⟩ := h.saving e b hs
    exact ⟨d, hc ▸ Collection.get_create_of_get hd, hrest⟩
  · rw [hp]
    exact h.confirming c hcon

end Moves

section Kept

variable {s : Sys} {i : Nat} {r : Reply} {p q : Proc}

/-- What the condition says of an entry that is looked up. -/
theorem applies_of_lookup (h : AppliesOnce s (.run i r) = true) (hp : s.procs[i]? = some p)
    {e : Consumption} (he : p.lookup = some e) {c : PayoutClawback}
    (hc : s.shared.clawbacks.get e.clawbackId = some c) :
    e.amountConsumed ≤ c.remainingAmount ∧ ∀ q ∈ s.procs, ∀ x b, q.saving = some (x, b) →
      x.clawbackId ≠ e.clawbackId := by
  simp only [AppliesOnce, hp, he, hc, Option.all_some, Bool.and_eq_true, decide_eq_true_eq,
    List.all_eq_true] at h
  refine ⟨h.1.1, fun q hq x b hs => ?_⟩
  have := h.1.2 q hq
  rwa [hs, Option.all_some, bne_iff_ne] at this

/-- What the condition says of a payout that is taken up as made. -/
theorem applies_of_confirms (h : AppliesOnce s (.run i r) = true) (hp : s.procs[i]? = some p)
    {id : PayoutId} {d : Payout} (hc : p.confirms s.shared = some (id, d)) :
    d.clawbackConsumption = [] ∨ ∀ q ∈ s.procs, ∀ c, q.confirming = some c → c.payoutId ≠ id := by
  simp only [AppliesOnce, hp, hc, Option.all_some, Bool.and_eq_true, Bool.or_eq_true,
    List.isEmpty_iff, List.all_eq_true] at h
  refine h.2.imp_right fun hall q hq c hcon => ?_
  have := hall q hq
  rwa [hcon, Option.all_some, bne_iff_ne] at this

theorem confirming_iff {c : Resolution} : p.confirming = some c ↔
    p.resolving = some c ∧ c.transferActuallySucceeded = true := by
  rw [Proc.confirming, Option.filter_eq_some_iff]

theorem ApplyApart.of_none (hs : p.saving = none) (hc : p.confirming = none) : ApplyApart p q :=
  ⟨fun _ _ _ _ h => (by cases hs.symm.trans h), fun _ _ h => by cases hc.symm.trans h⟩

/-- What a batch knows of its entries when it moves on with the same payout. -/
theorem procEntries_of_exec {w : World} {pc pc' : BatchPc} {a : Attempt} {e' : ExecPc}
    (h : ∀ g ∈ pc.pendingGroups, ∀ x ∈ g.clawbackConsumption.getD [], SoundEntry w x)
    (hgroup : ∀ x ∈ a.group.clawbackConsumption.getD [], SoundEntry w x)
    (happly : ∀ x ∈ e'.applying, SoundEntry w x)
    (hsave : ∀ x b, e'.saving = some (x, b) → ∃ d, w.clawbacks.get x.clawbackId = some d ∧
      d.remainingAmount = b.remainingAmount ∧ x.amountConsumed ≤ d.remainingAmount)
    (hpc' : (e'.ended = false ∧ pc'.executing = some (a, e') ∧
        pc'.pendingGroups = pc.pendingGroups) ∨ (e'.ended = true ∧ pc'.Fresh pc.pendingGroups)) :
    ProcEntries w (.batch pc') := by
  rcases hpc' with ⟨_, hpc', hgroups⟩ | ⟨_, hfresh⟩
  · refine ⟨fun g hg => h g (hgroups ▸ hg), fun a₁ e₁ he => ?_, fun x hx => ?_, fun x b hs => ?_,
      fun c hc => (by cases hc), fun c hc => by cases hc⟩
    · rw [Proc.executing, hpc'] at he
      cases he
      exact hgroup
    · rw [Proc.applying, hpc'] at hx
      exact happly x hx
    · rw [Proc.saving, hpc', Option.bind_some] at hs
      exact hsave x b hs
  · exact procEntries_of_fresh hfresh h

theorem entries_exec {w : World} {pc pc' : BatchPc} {a : Attempt} {e e' : ExecPc}
    (hr : AppliesOnce s (.run i r) = true) (hown : ownership.Holds s) (h : entries.Holds s)
    (hp : s.procs[i]? = some (.batch pc)) (hpc : pc.executing = some (a, e))
    (hm : ExecMove a s.shared e r w e') (hpc' : (e'.ended = false ∧ pc'.executing = some (a, e') ∧
        pc'.pendingGroups = pc.pendingGroups) ∨ (e'.ended = true ∧ pc'.Fresh pc.pendingGroups)) :
    entries.shared w ∧ entries.proc w (.batch pc') ∧ ∀ (j : Nat) (q : Proc), i ≠ j →
      s.procs[j]? = some q → entries.proc s.shared q → entries.compat (.batch pc) q →
        entries.proc w q ∧ entries.compat (.batch pc') q := by
  have hproc : ProcEntries s.shared (.batch pc) := h.at hp
  have hx := ((hown.at hp).executing a e hpc).2
  have hsaving : (Proc.batch pc').saving = none ∨ (Proc.batch pc').saving = e'.saving := by
    rcases hpc' with ⟨_, hpc', _⟩ | ⟨_, hfresh⟩
    · exact Or.inr (by rw [Proc.saving, hpc', Option.bind_some])
    · exact Or.inl (applying_of_fresh hfresh).2
  cases hs : e.saving with
  | some xb =>
    obtain ⟨x, b⟩ := xb
    obtain ⟨rfl, happly, hnone⟩ := exec_saves hm hs
    have happly' : (Proc.batch pc).applying = x :: e'.applying := by
      rw [Proc.applying, hpc]
      exact happly
    obtain ⟨hok, hothers⟩ := entries_saved h.shared hproc
      (by rw [Proc.saving, hpc, Option.bind_some, hs]) (happly' ▸ List.mem_cons_self)
    have hnext : s.shared.clawbacks.nextId ≤ (s.shared.saveRemaining x.clawbackId
        (b.remainingAfter x.amountConsumed)).clawbacks.nextId := by
      rw [World.saveRemaining, Collection.nextId_modify]
    refine ⟨hok, procEntries_of_exec (fun g hg y hy => (hproc.groups g hg y hy).mono hnext)
      (fun y hy => (hproc.attempt a e hpc y hy).mono hnext)
      (fun y hy => (hproc.applying y (happly' ▸ List.mem_cons_of_mem _ hy)).mono hnext)
      (fun y c hsy => by cases hnone.symm.trans hsy) hpc',
      fun j q _ _ hq hapart => ⟨hothers q hapart hq, .of_none ?_ rfl⟩⟩
    rcases hsaving with h0 | h0
    · exact h0
    · exact h0.trans hnone
  | none =>
    obtain ⟨hok, hclaw, happly, hsave⟩ := exec_entries hm hx h.shared hproc hpc hs
    have hnext : s.shared.clawbacks.nextId ≤ w.clawbacks.nextId := by rw [hclaw]
    have hlook : ∀ x b, e'.saving = some (x, b) → s.shared.clawbacks.get x.clawbackId = some b ∧
        x.amountConsumed ≤ b.remainingAmount ∧
        ∀ q ∈ s.procs, ∀ y c, q.saving = some (y, c) → y.clawbackId ≠ x.clawbackId := by
      intro x b hsx
      obtain ⟨hl, hb⟩ := hsave x b hsx
      exact ⟨hb, applies_of_lookup hr hp (by rw [Proc.lookup, hpc, Option.bind_some, hl]) hb⟩
    refine ⟨hok, procEntries_of_exec (fun g hg y hy => (hproc.groups g hg y hy).mono hnext)
      (fun y hy => (hproc.attempt a e hpc y hy).mono hnext) (fun y hy => (happly y hy).mono hnext)
      (fun x b hsx => ?_) hpc', fun j q hij hjq hq _ => ⟨?_, fun x b y c hsx hsy => ?_,
        fun _ _ hc => by cases hc⟩⟩
    · obtain ⟨hb, hle, _⟩ := hlook x b hsx
      exact ⟨b, hclaw ▸ hb, rfl, hle⟩
    · refine ProcEntries.same hq hclaw fun c hc => Or.inr fun d hd => ⟨d, ?_, rfl⟩
      obtain ⟨id, ht, hid⟩ := exec_touches hm
      rw [← ht.payouts _ (apart_of_touched (hown.at hjq) (hown.compat i j _ q hij hp hjq) hpc hid _
        (Or.inr (by rw [Proc.resolves, (confirming_iff.mp hc).1, Option.map_some])))]
      exact hd
    · rcases hsaving with h0 | h0
      · cases h0.symm.trans hsx
      · exact ((hlook x b (h0.symm.trans hsx)).2.2 q (List.mem_of_getElem? hjq) y c hsy).symm

/-- A resolution writes its payout with its last step only. -/
theorem resolve_payouts {w w' : World} {pc pc' : ResolvePc} (hm : ResolveMove w pc w' pc') :
    w'.payouts = w.payouts ∨ ∃ c, pc = .save c ∧ pc' = .returned ∧
      w' = w.modifyPayout c.payoutId fun p =>
        p.saveResolved c.payout c.transferActuallySucceeded c.adminUserId c.reconciledAt := by
  cases hm with
  | saved c => exact Or.inr ⟨c, rfl, rfl, rfl⟩
  | _ => exact Or.inl rfl

/-- What a resolution knows of its entries when it moves on. -/
theorem procEntries_of_resolve {w : World} {pc pc' : ResolvePc}
    (hm : ResolveMove s.shared pc w pc') (hown : ownership.shared s.shared)
    (hok : EntriesOk s.shared) (h : ProcEntries s.shared (.resolve pc))
    (hnext : s.shared.clawbacks.nextId ≤ w.clawbacks.nextId)
    (happly : ∀ x ∈ pc'.applying, SoundEntry w x)
    (hsave : ∀ x b, pc'.saving = some (x, b) → ∃ d, w.clawbacks.get x.clawbackId = some d ∧
      d.remainingAmount = b.remainingAmount ∧ x.amountConsumed ≤ d.remainingAmount) :
    ProcEntries w (.resolve pc') := by
  refine ⟨fun g hg => absurd hg List.not_mem_nil, fun _ _ he => (by cases he), happly, hsave,
    fun c hc x hx => ?_, fun c hc => ?_⟩
  · by_cases hold : pc.resolution = some c
    · exact (h.resolving c hold x hx).mono hnext
    · obtain ⟨_, _, hd, _⟩ := resolve_accepted hm hc hold
      exact (hok.payouts _ _ hd x hx).mono hnext
  · obtain ⟨hc', htrue⟩ := confirming_iff.mp hc
    have hpay : w.payouts = s.shared.payouts := by
      rcases resolve_payouts hm with hp | ⟨_, _, rfl, _⟩
      · exact hp
      · cases hc'
    rw [hpay]
    by_cases hold : pc.resolution = some c
    · exact h.confirming c (confirming_iff.mpr ⟨hold, htrue⟩)
    · obtain ⟨_, _, hd, hf⟩ := resolve_accepted hm hc' hold
      refine Or.inr fun d hd' => ?_
      obtain rfl := Option.some.inj (hd.symm.trans hd')
      exact hown _ _ hd hf

/-- A resolution that is taken up confirms a payout that no other one does. -/
theorem applyApart_of_resolve {w : World} {pc pc' : ResolvePc}
    (hr : AppliesOnce s (.run i r) = true) (hp : s.procs[i]? = some (.resolve pc))
    (hm : ResolveMove s.shared pc w pc') (hq : q ∈ s.procs) (hres : q.Knows s.shared)
    (hapart : ApplyApart (.resolve pc) q) {c c' : Resolution}
    (hc : (Proc.resolve pc').confirming = some c) (hc' : q.confirming = some c')
    (hid : c.payoutId = c'.payoutId) :
    c.payout.clawbackConsumption = [] ∧ c'.payout.clawbackConsumption = [] := by
  obtain ⟨hcr, htrue⟩ := confirming_iff.mp hc
  by_cases hold : pc.resolution = some c
  · exact hapart.confirming c c' (confirming_iff.mpr ⟨hold, htrue⟩) hc' hid
  · obtain ⟨admin, rfl, hd, hf⟩ := resolve_accepted hm hcr hold
    have hcon : (Proc.resolve (.find c.payoutId admin c.transferActuallySucceeded)).confirms
        s.shared = some (c.payoutId, c.payout) := by
      simp [Proc.confirms, htrue, hd, hf]
    rcases applies_of_confirms hr hp hcon with hnil | hno
    · obtain ⟨_, _, d, hd', ht, _⟩ := hres.resolving c' (confirming_iff.mp hc').1
      rw [← hid] at hd'
      obtain rfl := Option.some.inj (hd.symm.trans hd')
      exact ⟨hnil, ht.consumption ▸ hnil⟩
    · exact absurd hid.symm (hno q hq c' hc')

/-- What a resolution's last step does to the payouts others are confirming. -/
theorem confirming_resolve {w : World} {pc pc' : ResolvePc} (hm : ResolveMove s.shared pc w pc')
    (hres : ∀ c, pc.resolution = some c → Resolves s.shared c)
    (hapart : ApplyApart (.resolve pc) q) {c' : Resolution} (hc' : q.confirming = some c') :
    c'.payout.clawbackConsumption = [] ∨ ∀ d', w.payouts.get c'.payoutId = some d' →
      ∃ d, s.shared.payouts.get c'.payoutId = some d ∧ d'.status = d.status := by
  rcases resolve_payouts hm with hp | ⟨c, rfl, _, rfl⟩
  · exact Or.inr fun d hd => ⟨d, hp ▸ hd, rfl⟩
  · by_cases hid : c.payoutId = c'.payoutId
    · cases ha : c.transferActuallySucceeded with
      | true => exact Or.inl (hapart.confirming c c' (confirming_iff.mpr ⟨rfl, ha⟩) hc' hid).2
      | false =>
        refine Or.inr fun d' hd' => ?_
        rcases Collection.get_modify_cases hd' with ⟨_, d, hd, rfl⟩ | ⟨hne, _⟩
        · exact ⟨d, hd, by simp [Payout.saveResolved, (hres c rfl).failed]⟩
        · exact absurd hid hne
    · refine Or.inr fun d' hd' => ⟨d', ?_, rfl⟩
      rwa [World.modifyPayout, Collection.get_modify_ne hid] at hd'

theorem entries_resolve {w : World} {pc pc' : ResolvePc} (hr : AppliesOnce s (.run i r) = true)
    (hown : ownership.Holds s) (h : entries.Holds s) (hp : s.procs[i]? = some (.resolve pc))
    (hm : ResolveMove s.shared pc w pc') :
    entries.shared w ∧ entries.proc w (.resolve pc') ∧ ∀ (j : Nat) (q : Proc), i ≠ j →
      s.procs[j]? = some q → entries.proc s.shared q → entries.compat (.resolve pc) q →
        entries.proc w q ∧ entries.compat (.resolve pc') q := by
  have hproc : ProcEntries s.shared (.resolve pc) := h.at hp
  cases hs : pc.saving with
  | some xb =>
    obtain ⟨x, b⟩ := xb
    obtain ⟨rfl, happly, hnone, _⟩ := resolve_saves hm hs
    have hmem : ∀ y, y ∈ x :: pc'.applying → y ∈ (Proc.resolve pc).applying := fun y hy => by
      rw [Proc.applying, happly]
      exact hy
    obtain ⟨hok, hothers⟩ := entries_saved h.shared hproc hs (hmem x List.mem_cons_self)
    have hnext : s.shared.clawbacks.nextId ≤ (s.shared.saveRemaining x.clawbackId
        (b.remainingAfter x.amountConsumed)).clawbacks.nextId := by
      rw [World.saveRemaining, Collection.nextId_modify]
    refine ⟨hok, procEntries_of_resolve hm hown.shared h.shared hproc hnext (fun y hy => ?_)
      (fun y c hsy => by cases hnone.symm.trans hsy), fun j q hij hjq hq hapart =>
        ⟨hothers q hapart hq, fun y c _ _ hsy => (by cases hnone.symm.trans hsy),
          fun c c' => applyApart_of_resolve hr hp hm (List.mem_of_getElem? hjq) (hown.at hjq)
            hapart⟩⟩
    exact (hproc.applying y (hmem y (List.mem_cons_of_mem _ hy))).mono hnext
  | none =>
    obtain ⟨hok, hclaw, happly, hsave⟩ := resolve_entries hm h.shared hproc hs
    have hnext : s.shared.clawbacks.nextId ≤ w.clawbacks.nextId := by rw [hclaw]
    have hlook : ∀ x b, pc'.saving = some (x, b) → s.shared.clawbacks.get x.clawbackId = some b ∧
        x.amountConsumed ≤ b.remainingAmount ∧
        ∀ q ∈ s.procs, ∀ y c, q.saving = some (y, c) → y.clawbackId ≠ x.clawbackId := by
      intro x b hsx
      obtain ⟨hl, hb⟩ := hsave x b hsx
      exact ⟨hb, applies_of_lookup hr hp hl hb⟩
    refine ⟨hok, procEntries_of_resolve hm hown.shared h.shared hproc hnext
      (fun y hy => (happly y hy).mono hnext) (fun x b hsx => ?_), fun j q hij hjq hq hapart =>
        ⟨ProcEntries.same hq hclaw fun c hc =>
          confirming_resolve hm (hown.at hp).resolving hapart hc, fun x b y c hsx hsy => ?_,
          fun c c' => applyApart_of_resolve hr hp hm (List.mem_of_getElem? hjq) (hown.at hjq)
            hapart⟩⟩
    · obtain ⟨hb, hle, _⟩ := hlook x b hsx
      exact ⟨b, hclaw ▸ hb, rfl, hle⟩
    · exact ((hlook x b hsx).2.2 q (List.mem_of_getElem? hjq) y c hsy).symm

/-- **Entries stay sound and are saved one at a time.** -/
theorem entries_kept (dir : Directory) :
    entries.Kept (system dir) (fun s e => Faultless e = true ∧ AppliesOnce s e = true)
      ownership.Holds where
  spawn s k _ _ _ := by
    refine ⟨?_, fun q _ => .of_none ?_ ?_⟩
    · cases k <;> exact procEntries_of_idle rfl rfl rfl rfl rfl
    · cases k <;> rfl
    · cases k <;> rfl
  env s e w _ _ h hw := by
    have hp := (env_samePayouts hw).payouts
    have hc : w.clawbacks = s.shared.clawbacks := by
      rcases env_cases hw with ⟨d, _, _, _, _, rfl⟩ | ⟨_, _, _, _, _, rfl⟩ | ⟨_, _, hc, _⟩
      · rfl
      · rfl
      · exact hc
    exact ⟨EntriesOk.of_clawbacks h.shared hc fun id d hd => h.shared.payouts id d (hp ▸ hd),
      fun q hq => (h.procs q hq).same hc fun c _ => Or.inr fun d hd => ⟨d, hp ▸ hd, rfl⟩⟩
  run s i r p w p' hown hr h hp hstep := by
    have hproc := h.at hp
    have hknows := hown.at hp
    cases call_move hr.1 hstep with
    | quiet hpc hread hpc' =>
      refine ⟨h.shared, procEntries_of_fresh hpc' (sound_of_groupsRead hread hproc.groups),
        fun j q _ _ hq _ => ⟨hq, .of_none (applying_of_fresh hpc').2 rfl⟩⟩
    | refund hm =>
      have hpay := (refund_samePayouts hm).payouts
      have hidle : ∀ pc, ProcEntries w (.refund pc) := fun pc =>
        procEntries_of_idle rfl rfl rfl rfl rfl
      rcases refund_creates hm with hc | ⟨id, order, payoutId, hc⟩
      · exact ⟨EntriesOk.of_clawbacks h.shared hc fun id d hd => h.shared.payouts id d (hpay ▸ hd),
          hidle _, fun j q _ _ hq _ => ⟨ProcEntries.same hq hc fun c _ => Or.inr fun d hd =>
            ⟨d, hpay ▸ hd, rfl⟩, .of_none rfl rfl⟩⟩
      · exact ⟨EntriesOk.created h.shared hc hpay, hidle _,
          fun j q _ _ hq _ => ⟨ProcEntries.created hq hc hpay, .of_none rfl rfl⟩⟩
    | @exec pc pc' a e e' _ hpc hm hpc' => exact entries_exec hr.2 hown h hp hpc hm hpc'
    | @resolve pc pc' _ hm => exact entries_resolve hr.2 hown h hp hm

theorem entries_initial (vendors : List PayoutVendor) : entries.Holds (Sys.initial vendors) :=
  Outline.holds_nil ⟨fun _ _ hd => by simp [World.empty] at hd,
    fun _ _ hc => by simp [World.empty] at hc⟩

end Kept

end FoodDelivery
