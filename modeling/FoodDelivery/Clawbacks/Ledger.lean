import FoodDelivery.Clawbacks.Consumption

/-!
# The clawback ledger

* `World.withheld`: what the payouts that were made have withheld for a clawback.
* `Proc.debt`: what a call has yet to take off it, or has taken off it before its
  payout counts as made.
* `balanced_step`: the two and what is left of a clawback add up to its amount, as
  long as every entry is applied once.
* `ledger_conserved`: the runs in which it stays so; `withheld_twice` is one in which
  an ambiguous payout is confirmed after another one has withheld the same amount.
-/

namespace FoodDelivery

open Store Interleave

/-! ## What was withheld -/

/-- What a payout has withheld for a clawback: nothing, unless it was made. -/
def Payout.withholds (c : ClawbackId) (p : Payout) : ℚ :=
  if p.status = .succeeded then p.consumes c else 0

theorem Payout.withholds_of_ne {c : ClawbackId} {p : Payout} (h : p.status ≠ .succeeded) :
    p.withholds c = 0 := if_neg h

theorem Payout.withholds_of_eq {c : ClawbackId} {p : Payout} (h : p.status = .succeeded) :
    p.withholds c = p.consumes c := if_pos h

/-- What the payouts that were made have withheld for a clawback. -/
def World.withheld (w : World) (c : ClawbackId) : ℚ := w.payouts.sum (Payout.withholds c)

/-- **The ledger is conserved**: what is gone from a clawback is what the payouts that
were made have withheld for it, this is never more than its amount, and it is fully
applied exactly when nothing is left of it. -/
def World.LedgerConserved (w : World) : Prop :=
  ∀ i c, w.clawbacks.get i = some c → 0 < c.amount →
    c.amount - c.remainingAmount = w.withheld i ∧ w.withheld i ≤ c.amount ∧
      (c.status = .fullyApplied ↔ c.remainingAmount = 0)

/-! ## The balance -/

/-- What a call has yet to take off a clawback for a payout that counts as made, less
what it has taken off for one that does not. -/
def Proc.debt (c : ClawbackId) (p : Proc) : ℚ :=
  taken c p.applying - ((p.confirming.map fun x => x.payout.consumes c).getD 0)

/-- What is gone from a clawback is what was withheld for it, less what the calls in
progress owe. -/
def Balanced (s : Sys) : Prop :=
  ∀ c b, s.shared.clawbacks.get c = some b →
    b.amount - b.remainingAmount = s.shared.withheld c - (s.procs.map (Proc.debt c)).sum

/-- A step of one call keeps the balance of a clawback there was. -/
structure Shifts (w w' : World) (p p' : Proc) (c : ClawbackId) (b' : PayoutClawback) : Prop where
  shift : ∃ b, w.clawbacks.get c = some b ∧ b'.amount = b.amount ∧
    b.remainingAmount - b'.remainingAmount =
      (w'.withheld c - w.withheld c) - (p'.debt c - p.debt c)

section Shift

variable {w w' : World} {r : Reply} {c : ClawbackId} {b' : PayoutClawback}

theorem debt_batch (pc : BatchPc) : (Proc.batch pc).debt c = taken c (Proc.batch pc).applying := by
  rw [Proc.debt]
  exact sub_zero _

theorem debt_refund (pc : RefundPc) : (Proc.refund pc).debt c = 0 := sub_zero 0

theorem shifts_same {p p' : Proc} (hc : w'.clawbacks = w.clawbacks)
    (hw : w'.withheld c = w.withheld c) (hd : p'.debt c = p.debt c)
    (hb : w'.clawbacks.get c = some b') : Shifts w w' p p' c b' :=
  ⟨b', hc ▸ hb, rfl, by rw [hw, hd]; ring⟩

/-- Saving an entry takes off the clawback what the call owed it. -/
theorem shifts_saved {p p' : Proc} {x : Consumption} {b : PayoutClawback} (hok : EntriesOk w)
    (h : ProcEntries w p) (hs : p.saving = some (x, b)) (ha : p.applying = x :: p'.applying)
    (hcon : p'.confirming = p.confirming)
    (hb : (w.saveRemaining x.clawbackId (b.remainingAfter x.amountConsumed)).clawbacks.get c =
      some b') :
    Shifts w (w.saveRemaining x.clawbackId (b.remainingAfter x.amountConsumed)) p p' c b' := by
  have hdebt : p'.debt c - p.debt c = taken c p'.applying - taken c (x :: p'.applying) := by
    rw [Proc.debt, Proc.debt, hcon, ha]
    ring
  have hwith : (w.saveRemaining x.clawbackId (b.remainingAfter x.amountConsumed)).withheld c =
      w.withheld c := rfl
  obtain ⟨d, hd, hrem, hle⟩ := h.saving x b hs
  have hsound := h.applying x (ha ▸ List.mem_cons_self)
  rcases Collection.get_modify_cases hb with ⟨rfl, d₁, hd₁, rfl⟩ | ⟨hne, hb⟩
  · obtain rfl := Option.some.inj (hd.symm.trans hd₁)
    refine ⟨d, hd, rfl, ?_⟩
    rw [((hok.clawbacks _ d hd).saveRemaining hrem hsound.positive hsound.cents hle).2, hwith,
      hdebt, taken_cons_self]
    ring
  · refine ⟨b', hb, rfl, ?_⟩
    rw [hwith, hdebt, taken_cons_ne _ hne]
    ring

/-- Saving a payout that is not made by it withholds nothing. -/
theorem withheld_save {a : Attempt} {st : Stage} (hx : Executes w a st)
    (hs : st.stored ≠ .succeeded) (hm : st.memory ≠ .succeeded) :
    (w.modifyPayout st.id fun _ => st.payout).withheld c = w.withheld c := by
  refine Collection.sum_modify_eq _ fun d hd => ?_
  obtain ⟨d₀, hd₀, hs₀, _⟩ := hx.stored
  obtain rfl := Option.some.inj (hd₀.symm.trans hd)
  rw [Payout.withholds_of_ne (by rw [hx.status]; exact hm),
    Payout.withholds_of_ne (by rw [hs₀]; exact hs)]

/-- Saving a payout as made withholds what it consumes. -/
theorem withheld_made {a : Attempt} {st : Stage} (hx : Executes w a st)
    (hs : st.stored ≠ .succeeded) (hm : st.memory = .succeeded) :
    (w.modifyPayout st.id fun _ => st.payout).withheld c =
      w.withheld c + taken c (a.group.clawbackConsumption.getD []) := by
  obtain ⟨d, hd, hs₀, _⟩ := hx.stored
  rw [World.withheld, World.modifyPayout, Collection.sum_modify _ hd,
    Payout.withholds_of_ne (by rw [hs₀]; exact hs),
    Payout.withholds_of_eq (by rw [hx.status]; exact hm), Payout.consumes_eq, hx.terms.consumption,
    sub_zero, World.withheld]
  rfl

theorem exec_shifts {pc pc' : BatchPc} {a : Attempt} {e e' : ExecPc} (hm : ExecMove a w e r w' e')
    (hx : ∀ st, e.stage = some st → Executes w a st) (hok : EntriesOk w)
    (h : ProcEntries w (.batch pc)) (happly : (Proc.batch pc).applying = e.applying)
    (hsave : (Proc.batch pc).saving = e.saving) (happly' : (Proc.batch pc').applying = e'.applying)
    (hb : w'.clawbacks.get c = some b') : Shifts w w' (.batch pc) (.batch pc') c b' := by
  have debt : (Proc.batch pc).debt c = taken c e.applying ∧
      (Proc.batch pc').debt c = taken c e'.applying := by
    rw [debt_batch, debt_batch, happly, happly']
    exact ⟨rfl, rfl⟩
  have same : w'.clawbacks = w.clawbacks → w'.withheld c = w.withheld c →
      taken c e'.applying = taken c e.applying → Shifts w w' (.batch pc) (.batch pc') c b' :=
    fun hc hw ht => shifts_same hc hw (by rw [debt.1, debt.2, ht]) hb
  have made : ∀ {st : Stage}, e.stage = some st → w' = w.modifyPayout st.id (fun _ => st.payout) →
      st.stored ≠ .succeeded → st.memory = .succeeded → e.applying = [] →
      e'.applying = a.group.clawbackConsumption.getD [] →
      Shifts w w' (.batch pc) (.batch pc') c b' := by
    rintro st hst rfl hs hmem hnil hfull
    refine ⟨b', hb, rfl, ?_⟩
    rw [debt.1, debt.2, withheld_made (hx st hst) hs hmem, hnil, hfull, taken_nil]
    ring
  cases hm with
  | created hv =>
    refine same rfl ?_ rfl
    rw [World.withheld, World.createPayout, Collection.sum_create,
      Payout.withholds_of_ne (p := a.newPayout) (by rintro ⟨⟩), add_zero, World.withheld]
  | raceSaved id p => exact same rfl (withheld_save (hx _ rfl) (by simp) (by simp)) rfl
  | processingSaved id p => exact same rfl (withheld_save (hx _ rfl) (by simp) (by simp)) rfl
  | flagSaved id p => exact same rfl (withheld_save (hx _ rfl) (by simp) (by simp)) rfl
  | failSaved id p => exact same rfl (withheld_save (hx _ rfl) (by simp) (by simp)) rfl
  | zeroSaved id p =>
    exact made rfl rfl (by simp) rfl rfl (ExecPc.applying_consume _ _ _ _)
  | successSaved id p =>
    exact made rfl rfl (by simp) rfl rfl (ExecPc.applying_consume _ _ _ _)
  | entryGone guarded id p x rest hnone =>
    refine same rfl rfl ?_
    have hne : x.clawbackId ≠ c := fun he => by cases (he ▸ hnone).symm.trans hb
    rw [ExecPc.applying_consume, ExecPc.applying, taken_cons_ne rest hne]
  | entryFound => exact same rfl rfl rfl
  | entrySaved guarded id p x b rest =>
    refine shifts_saved hok h (hsave.trans rfl) ?_ rfl hb
    rw [happly, happly', ExecPc.applying_consume, ExecPc.applying]
  | transferred =>
    exact same World.clawbacks_send (by rw [World.withheld, World.payouts_send]; rfl) rfl
  | unknown => exact same World.clawbacks_send (by rw [World.withheld, World.payouts_send]; rfl) rfl
  | failed => exact same World.clawbacks_send (by rw [World.withheld, World.payouts_send]; rfl) rfl
  | _ => exact same rfl rfl rfl

/-- Confirming a payout as made withholds what it consumes, if it had not been made. -/
theorem withheld_resolved {x : Resolution} (hres : Resolves w x)
    (h : x.transferActuallySucceeded = true → x.payout.clawbackConsumption = [] ∨
      ∀ d, w.payouts.get x.payoutId = some d → d.status = .failed) :
    (w.modifyPayout x.payoutId fun p =>
      p.saveResolved x.payout x.transferActuallySucceeded x.adminUserId x.reconciledAt).withheld c =
        w.withheld c + if x.transferActuallySucceeded then x.payout.consumes c else 0 := by
  obtain ⟨d, hd, ht, _⟩ := hres.stored
  have hterms : d.consumes c = x.payout.consumes c := by
    rw [Payout.consumes_eq, Payout.consumes_eq, ht.consumption]
  rw [World.withheld, World.modifyPayout, Collection.sum_modify _ hd, World.withheld]
  have hwritten : ∀ answer,
      (d.saveResolved x.payout answer x.adminUserId x.reconciledAt).withholds c =
        if answer = true then x.payout.consumes c else d.withholds c := by
    intro answer
    cases answer with
    | true =>
      rw [if_pos rfl, Payout.withholds_of_eq (by simp [Payout.saveResolved, hres.failed])]
      exact hterms
    | false => simp [Payout.withholds, Payout.saveResolved, hres.failed, Payout.consumes]
  rw [hwritten]
  cases ha : x.transferActuallySucceeded with
  | false =>
    simp
  | true =>
    have hzero : d.withholds c = 0 ∨ x.payout.consumes c = 0 := by
      rcases h ha with hnil | hfail
      · exact Or.inr (by rw [Payout.consumes_eq, hnil, taken_nil])
      · exact Or.inl (Payout.withholds_of_ne (by simp [hfail d hd]))
    rcases hzero with hz | hz
    · rw [hz]
      simp
    · rw [if_pos rfl, if_pos rfl, hz, Payout.withholds, hterms, hz, ite_self]
      ring

theorem resolve_shifts {pc pc' : ResolvePc} (hm : ResolveMove w pc w' pc')
    (hres : ∀ x, pc.resolution = some x → Resolves w x) (hok : EntriesOk w)
    (h : ProcEntries w (.resolve pc)) (hb : w'.clawbacks.get c = some b') :
    Shifts w w' (.resolve pc) (.resolve pc') c b' := by
  have debt : ∀ pc : ResolvePc, (Proc.resolve pc).debt c = taken c pc.applying -
      ((Proc.resolve pc).confirming.map fun x => x.payout.consumes c).getD 0 := fun _ => rfl
  have same : w'.clawbacks = w.clawbacks → w'.withheld c = w.withheld c →
      taken c pc'.applying = taken c pc.applying → pc'.resolution = pc.resolution →
      Shifts w w' (.resolve pc) (.resolve pc') c b' := by
    intro hc hw ht hr
    refine shifts_same hc hw ?_ hb
    have hcon : (Proc.resolve pc').confirming = (Proc.resolve pc).confirming :=
      congrArg (Option.filter _) hr
    rw [debt, debt, ht, hcon]
  cases hm with
  | rejected => exact same rfl rfl rfl rfl
  | accepted id admin answer p hp hf =>
    refine shifts_same rfl rfl ?_ hb
    cases answer with
    | false => rfl
    | true =>
      have hcon : (Proc.resolve (ResolvePc.consume ⟨id, p, admin, true, w.now⟩
          p.clawbackConsumption)).confirming = some ⟨id, p, admin, true, w.now⟩ := by
        rw [Proc.confirming]
        exact congrArg (Option.filter _) (resolution_consume _ _)
      have hfind : (Proc.resolve (ResolvePc.find id admin true)).debt c = 0 := sub_zero 0
      rw [hfind, if_pos rfl, debt, hcon, ResolvePc.applying_consume]
      exact sub_self (p.consumes c)
  | entryGone x e rest hnone =>
    have hne : e.clawbackId ≠ c := fun he => by cases (he ▸ hnone).symm.trans hb
    refine same rfl rfl ?_ (resolution_consume x rest)
    rw [ResolvePc.applying_consume, ResolvePc.applying, taken_cons_ne rest hne]
  | entryFound => exact same rfl rfl rfl rfl
  | entrySaved x e b rest =>
    refine shifts_saved hok h rfl ?_ ?_ hb
    · rw [Proc.applying, Proc.applying, ResolvePc.applying_consume, ResolvePc.applying]
    · exact congrArg (Option.filter _) (resolution_consume x rest)
  | released => exact same rfl rfl rfl rfl
  | releasedAll => exact same rfl rfl rfl rfl
  | saved x =>
    refine ⟨b', hb, rfl, ?_⟩
    rw [withheld_resolved (hres x rfl) fun ha => h.confirming x (confirming_iff.mpr ⟨rfl, ha⟩),
      debt, debt]
    cases ha : x.transferActuallySucceeded <;>
      simp [Proc.confirming, Proc.resolving, ResolvePc.resolution, ResolvePc.applying,
        Option.filter, ha]

end Shift

section Balance

variable {s : Sys} {c : ClawbackId}

/-- Nothing is withheld for a clawback that is not there yet, and nothing owed. -/
theorem unnamed_of_new {w : World} (hc : w.clawbacks.nextId ≤ c) :
    (EntriesOk w → w.withheld c = 0) ∧ ∀ p, ProcEntries w p → p.debt c = 0 := by
  have untaken : ∀ {es : List Consumption}, (∀ e ∈ es, SoundEntry w e) → taken c es = 0 :=
    fun h => taken_eq_zero fun e he => Nat.ne_of_lt (Nat.lt_of_lt_of_le (h e he).known hc)
  refine ⟨fun h => Collection.sum_eq_zero _ fun id d hd => ?_, fun p h => ?_⟩
  · rw [Payout.withholds, Payout.consumes_eq, untaken (h.payouts id d hd), ite_self]
  · rw [Proc.debt, untaken h.applying]
    cases hcon : p.confirming with
    | none => exact sub_zero 0
    | some x =>
      rw [Option.map_some, Option.getD_some, Payout.consumes_eq,
        untaken (h.resolving x (confirming_iff.mp hcon).1), sub_zero]

/-- **A step of a call shifts the balance** of any clawback that was there. -/
theorem call_shifts {i : Nat} {r : Reply} {p p' : Proc} {w : World} (hown : ownership.Holds s)
    (h : entries.Holds s) (hp : s.procs[i]? = some p) (hm : CallMove s.shared r p w p')
    {b' : PayoutClawback} (hb : w.clawbacks.get c = some b')
    (hc : c < s.shared.clawbacks.nextId) : Shifts s.shared w p p' c b' := by
  have hproc : ProcEntries s.shared p := h.at hp
  cases hm with
  | quiet hpc hread hpc' =>
    refine shifts_same rfl rfl ?_ hb
    rw [debt_batch, debt_batch, (applying_of_fresh hpc').1, Proc.applying, hpc]
    rfl
  | refund hm =>
    have hw : w.withheld c = s.shared.withheld c := by
      rw [World.withheld, (refund_samePayouts hm).payouts, World.withheld]
    have hd : ∀ pc pc', (Proc.refund pc').debt c = (Proc.refund pc).debt c := fun pc pc' => by
      rw [debt_refund, debt_refund]
    rcases refund_creates hm with hsame | ⟨id, order, payoutId, hnew⟩
    · exact shifts_same hsame hw (hd _ _) hb
    · rw [hnew] at hb
      rcases Collection.get_create_cases hb with ⟨hlast, _⟩ | ⟨_, hb⟩
      · exact absurd hlast hc.ne
      · exact ⟨b', hb, rfl, by rw [hw, hd]; ring⟩
  | @exec pc pc' a e e' _ hpc hm hpc' =>
    have happly' : (Proc.batch pc').applying = e'.applying := by
      rcases hpc' with ⟨_, hpc', _⟩ | ⟨hend, hfresh⟩
      · rw [Proc.applying, hpc']
        rfl
      · rw [(applying_of_fresh hfresh).1]
        cases e' <;> first | rfl | cases hend
    exact exec_shifts hm ((hown.at hp).executing a e hpc).2 h.shared hproc
      (by rw [Proc.applying, hpc]; rfl) (by rw [Proc.saving, hpc, Option.bind_some]) happly' hb
  | resolve hm => exact resolve_shifts hm (hown.at hp).resolving h.shared hproc hb

/-- A clawback that a call has just recorded is left in full. -/
theorem call_records {r : Reply} {p p' : Proc} {w w' : World} (hr : r.faultless = true)
    (hs : stepCall w p r = some (w', p')) {b : PayoutClawback}
    (hb : w'.clawbacks.get c = some b) (hc : w.clawbacks.nextId ≤ c) :
    b.remainingAmount = b.amount ∧ w'.payouts = w.payouts ∧ p.debt c = 0 ∧ p'.debt c = 0 := by
  have gone : ∀ {d : PayoutClawback}, w.clawbacks.get c = some d → False := fun hd =>
    absurd (Collection.lt_nextId_of_get hd) (Nat.not_lt.mpr hc)
  have same : w.SameRefunds w' → False := fun h =>
    (h.symm.clawback hb).elim fun _ hd => gone hd.1
  cases call_move hr hs with
  | quiet => exact absurd hb gone
  | exec hpc hm =>
    obtain ⟨_, hs, _⟩ := step_batch hs
    exact (same (batch_sameRefunds hs)).elim
  | resolve hm =>
    obtain ⟨_, hs, _⟩ := step_resolve hs
    exact (same (resolve_sameRefunds hs)).elim
  | refund hm =>
    refine ⟨?_, (refund_samePayouts hm).payouts, debt_refund _, debt_refund _⟩
    rcases refund_creates hm with hsame | ⟨id, order, payoutId, hcreate⟩
    · exact (gone (hsame ▸ hb)).elim
    · rw [hcreate] at hb
      rcases Collection.get_create_cases hb with ⟨_, rfl⟩ | ⟨_, hb⟩
      · rfl
      · exact (gone hb).elim

/-- **Every step keeps the balance.** -/
theorem balanced_step {dir : Directory} {e : SysEvent} {s' : Sys} (hown : ownership.Holds s)
    (h : entries.Holds s) (hb : Balanced s) (he : Faultless e = true)
    (hs : (system dir).next s e = some s') : Balanced s' := by
  cases e with
  | spawn k =>
    simp only [Machine.next, Option.some.injEq] at hs
    subst hs
    intro c b hc
    have hnew : (startCall s.shared k).debt c = 0 := by
      cases k <;> exact sub_zero 0
    have hold := hb c b hc
    rw [List.map_append, List.sum_append, List.map_singleton, List.sum_singleton]
    exact hold.trans (by rw [show ((system dir).start s.shared k).debt c = 0 from hnew, add_zero])
  | env a =>
    obtain ⟨w, hw, rfl⟩ := Machine.next_env hs
    intro c b hc
    have hclaw : w.clawbacks = s.shared.clawbacks := by
      rcases env_cases hw with ⟨d, _, _, _, _, rfl⟩ | ⟨_, _, _, _, _, rfl⟩ | ⟨_, _, hc, _⟩
      · rfl
      · rfl
      · exact hc
    rw [World.withheld, (env_samePayouts hw).payouts]
    exact hb c b (hclaw ▸ hc)
  | run i r =>
    obtain ⟨p, w, p', hp, hstep, rfl⟩ := Machine.next_run hs
    have hm := call_move he hstep
    intro c b' hc
    by_cases hold : c < s.shared.clawbacks.nextId
    · obtain ⟨b, hb', hamount, hshift⟩ := (call_shifts hown h hp hm hc hold).shift
      have hbal := hb c b hb'
      rw [sum_map_set _ p' hp, hamount]
      linarith
    · obtain ⟨hfull, hpay, hd, hd'⟩ := call_records he hstep hc (Nat.le_of_not_lt hold)
      obtain ⟨hwith, hdebt⟩ := unnamed_of_new (Nat.le_of_not_lt hold)
      have hdebts : (s.procs.map (Proc.debt c)).sum = 0 := List.sum_eq_zero fun x hx => by
        obtain ⟨q, hq, rfl⟩ := List.mem_map.mp hx
        exact hdebt q (h.procs q hq)
      rw [sum_map_set _ p' hp, hdebts, hd, hd', World.withheld, hpay, ← World.withheld,
        hwith h.shared, hfull]
      ring

/-- No payout is being executed or resolved. -/
def Sys.Idle (s : Sys) : Prop := ∀ p ∈ s.procs, p.owns = none ∧ p.resolves = none

theorem debt_of_idle {p : Proc} (ho : p.owns = none) (hr : p.resolves = none) :
    p.debt c = 0 := by
  have hcon : p.confirming = none := by
    rw [Proc.resolves, Option.map_eq_none_iff] at hr
    rw [Proc.confirming, hr, Option.filter_none]
  have happly : p.applying = [] := by
    cases p with
    | refund pc => rfl
    | resolve pc => cases pc <;> first | rfl | cases hr
    | batch pc =>
      cases he : pc.executing with
      | none => rw [Proc.applying, he]; rfl
      | some x =>
        obtain ⟨a, e⟩ := x
        rw [Proc.applying, he]
        simp only [Proc.owns, Proc.executing, he] at ho
        cases e <;> first | rfl | cases ho
  rw [Proc.debt, happly, hcon]
  exact sub_zero 0

/-- **The clawback ledger is conserved** in every run without a database failure in
which every entry is applied once: in each state in which no payout is being executed
or resolved. -/
theorem ledger_conserved {dir : Directory} {vendors : List PayoutVendor} {s : Sys}
    (h : (system dir).Reach (fun s e => Faultless e = true ∧ AppliesOnce s e = true)
      (Sys.initial vendors) s) (hidle : s.Idle) : s.shared.LedgerConserved := by
  have howns : ∀ s, (system dir).Reach (fun s e => Faultless e = true ∧ AppliesOnce s e = true)
      (Sys.initial vendors) s → ownership.Holds s := fun s hs =>
    ownership_reach (fun _ _ he => he.1) hs
  have hentries : ∀ s, (system dir).Reach (fun s e => Faultless e = true ∧
      AppliesOnce s e = true) (Sys.initial vendors) s → entries.Holds s := fun s hs =>
    Outline.holds_of_reach (entries_kept dir) howns (entries_initial vendors) hs
  have hbalanced : Balanced s := Machine.Reach.invariant
    (fun c b hb => by simp [Sys.initial, World.empty] at hb)
    (fun s e s' hs hb he => balanced_step (howns s hs) (hentries s hs) hb he.1) h
  intro i c hc hpos
  have hok : ClawbackOk c := (hentries s h).shared.clawbacks i c hc
  have hdebts : (s.procs.map (Proc.debt i)).sum = 0 := List.sum_eq_zero fun x hx => by
    obtain ⟨q, hq, rfl⟩ := List.mem_map.mp hx
    exact debt_of_idle (hidle q hq).1 (hidle q hq).2
  have hbal := hbalanced i c hc
  rw [hdebts, sub_zero] at hbal
  exact ⟨hbal, hbal ▸ sub_le_self _ hok.nonneg, hok.applied, fun hz => hok.pending hz hpos⟩

/-- Whether no payout is being executed or resolved. -/
def Sys.idle (s : Sys) : Bool := s.procs.all fun p => p.owns = none && p.resolves = none

theorem idle_of_idle {s : Sys} (h : s.idle = true) : s.Idle := by
  simpa [Sys.idle, Sys.Idle] using h

/-- Order 0 is paid out and refunded, and two more orders are delivered. -/
def owingRun : List SysEvent :=
  deliveredOrder 0 ++ [.spawn .runWeeklyBatch] ++ databaseCalls 0 7 ++
  [.run 0 (.transfer (.transferred "tr_1"))] ++ databaseCalls 0 3 ++
  [.spawn (.refund (.refundOrder 0))] ++ databaseCalls 1 2 ++ [.run 1 (.refund .resolved)] ++
  databaseCalls 1 3 ++ deliveredOrder 1 ++ deliveredOrder 2

/-- The next payout withholds the refund, and is made. -/
def recoveredRun : List SysEvent :=
  owingRun ++ [.spawn .runWeeklyBatch] ++ databaseCalls 2 8 ++
  [.run 2 (.transfer (.transferred "tr_2"))] ++ databaseCalls 2 5

theorem ledger_conserved_recovered : ∃ s : Sys, (∃ c, s.shared.clawbacks.get 0 = some c ∧
    0 < c.amount ∧ c.status = .fullyApplied) ∧ s.shared.LedgerConserved := by
  obtain ⟨s, hs, hp⟩ := exists_run (fun s e => Faultless e && AppliesOnce s e)
    (fun s => s.idle && (s.shared.clawbacks.get 0).any fun (c : PayoutClawback) =>
      decide (0 < c.amount) && decide (c.status = .fullyApplied)) recoveredRun (by decide +kernel)
  rw [Bool.and_eq_true, Option.any_eq_true] at hp
  obtain ⟨hidle, c, hc, hp⟩ := hp
  rw [Bool.and_eq_true, decide_eq_true_iff, decide_eq_true_iff] at hp
  exact ⟨s, ⟨c, hc, hp⟩, ledger_conserved (hs.mono fun s e he => by simpa using he)
    (idle_of_idle hidle)⟩

/-- Payout 1 withholds the refund with an unknown outcome, payout 2 withholds it and
is made, and payout 1 is confirmed. -/
def confirmedLateRun : List SysEvent :=
  owingRun ++ [.spawn .runWeeklyBatch] ++ databaseCalls 2 8 ++
  [.run 2 (.transfer (.unknown true "timeout"))] ++ databaseCalls 2 3 ++
  deliveredOrder 3 ++ deliveredOrder 4 ++ [.spawn .runWeeklyBatch] ++ databaseCalls 3 8 ++
  [.run 3 (.transfer (.transferred "tr_3"))] ++ databaseCalls 3 5 ++
  [.spawn (.resolveReconciliation 1 1 true)] ++ databaseCalls 4 4

/-- **Two payouts withhold one refund**: an ambiguous one, and one that was made before
it is confirmed. -/
theorem withheld_twice :
    ¬ ∀ (dir : Directory) (vendors : List PayoutVendor) (s : Sys),
      (system dir).Reach (fun _ e => Faultless e = true) (Sys.initial vendors) s → s.Idle →
        s.shared.LedgerConserved := by
  intro hall
  obtain ⟨s, hs, hp⟩ := exists_run (fun _ e => Faultless e)
    (fun s => s.idle && (s.shared.clawbacks.get 0).any fun (c : PayoutClawback) =>
      decide (0 < c.amount) && decide (c.amount < s.shared.withheld 0))
    confirmedLateRun (by decide +kernel)
  rw [Bool.and_eq_true, Option.any_eq_true] at hp
  obtain ⟨hidle, c, hc, hp⟩ := hp
  rw [Bool.and_eq_true, decide_eq_true_iff, decide_eq_true_iff] at hp
  exact absurd (hall _ _ s hs (idle_of_idle hidle) 0 c hc hp.1).2.1 (not_le_of_gt hp.2)

end Balance

end FoodDelivery
