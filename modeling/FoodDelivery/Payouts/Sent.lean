import FoodDelivery.Payouts.Holding

/-!
# Money that went out

* `answers`: what admins answer of a payout is what the provider did.
* `money`: money goes out at most once for a payout, and a payout it went out for
  is being paid, has been paid, or awaits reconciliation.
* `holdsAll_of_sent`: such a payout holds its orders.
-/

namespace FoodDelivery

open Store Interleave

/-- An adapter throws a plain error only when no money moved. -/
def SoundAdapter : SysEvent → Bool
  | .run _ (.transfer (.failed moved _)) => !moved
  | _ => true

/-- An admin who takes up a flagged payout says what the provider did. -/
def Truthful (s : Sys) : SysEvent → Bool
  | .run i _ =>
    match s.procs[i]? with
    | some (.resolve (.find id _ answer)) =>
      match s.shared.payouts.get id with
      | some d => !d.reconciliationRequired || answer == decide (id ∈ s.shared.sent)
      | none => true
    | _ => true
  | _ => true

/-- A run in which no database call fails and admins answer truthfully. -/
def Honest (s : Sys) (e : SysEvent) : Prop := Faultless e = true ∧ Truthful s e = true

/-- A run in which, besides, adapters throw a plain error only if no money moved. -/
def Orderly (s : Sys) (e : SysEvent) : Prop := Honest s e ∧ SoundAdapter e = true

/-- `Honest` on concrete events. -/
def honestB (s : Sys) (e : SysEvent) : Bool := Faultless e && Truthful s e

theorem honest_of_honestB (s : Sys) (e : SysEvent) (h : honestB s e = true) : Honest s e := by
  simpa [honestB, Honest] using h

/-- `Orderly` on concrete events. -/
def orderlyB (s : Sys) (e : SysEvent) : Bool := honestB s e && SoundAdapter e

theorem orderly_of_orderlyB (s : Sys) (e : SysEvent) (h : orderlyB s e = true) : Orderly s e := by
  rw [orderlyB, Bool.and_eq_true] at h
  exact ⟨honest_of_honestB s e h.1, h.2⟩

/-! ## What the admins answer -/

/-- The answers that are being carried out are what the provider did. -/
def answers : Outline World Proc where
  shared _ := True
  proc w p := ∀ c, p.resolving = some c → (c.transferActuallySucceeded = true ↔ c.payoutId ∈ w.sent)
  compat _ _ := True
  symm _ _ h := h

section Answers

theorem resolve_sent {w w' : World} {pc pc' : ResolvePc} (hm : ResolveMove w pc w' pc') :
    w'.sent = w.sent := by cases hm <;> rfl

/-- An answer that is taken up is what the provider did. -/
theorem truthful_of_run {s : Sys} {i : Nat} {r : Reply} {id : PayoutId} {admin : UserId}
    {answer : Bool} {d : Payout} (h : Truthful s (.run i r) = true)
    (hp : s.procs[i]? = some (.resolve (.find id admin answer)))
    (hd : s.shared.payouts.get id = some d) (hf : d.reconciliationRequired = true) :
    answer = true ↔ id ∈ s.shared.sent := by
  simp only [Truthful, hp, hd, hf, Bool.not_true, Bool.false_or, beq_iff_eq] at h
  rw [h, decide_eq_true_iff]

theorem answers_kept (dir : Directory) : answers.Kept (system dir) Honest ownership.Holds where
  spawn s k _ _ _ := by
    refine ⟨fun c hc => ?_, fun _ _ => trivial⟩
    cases k <;> cases hc
  env s e w _ _ h hw :=
    ⟨trivial, fun q hq c hc => by rw [(env_samePayouts hw).sent]; exact h.procs q hq c hc⟩
  run s i r p w p' hown hr h hp hstep := by
    have others : w.sent = s.shared.sent → ∀ (j : Nat) (q : Proc), i ≠ j → s.procs[j]? = some q →
        answers.proc s.shared q → answers.compat p q → answers.proc w q ∧ answers.compat p' q :=
      fun hsent j q _ _ hq _ => ⟨fun c hc => hsent ▸ hq c hc, trivial⟩
    cases call_move hr.1 hstep with
    | quiet => exact ⟨trivial, fun _ hc => (by cases hc), others rfl⟩
    | refund hm => exact ⟨trivial, fun _ hc => (by cases hc), others (refund_samePayouts hm).sent⟩
    | @resolve pc pc' _ hm =>
      refine ⟨trivial, fun c hc => ?_, others (resolve_sent hm)⟩
      rw [resolve_sent hm]
      by_cases hold : pc.resolution = some c
      · exact h.at hp c hold
      · obtain ⟨_, rfl, hd, hf⟩ := resolve_accepted hm hc hold
        exact truthful_of_run hr.2 hp hd hf
    | exec hpc hm _ =>
      refine ⟨trivial, fun _ hc => (by cases hc), fun j q hij hjq hq _ => ⟨fun c hc => ?_, trivial⟩⟩
      obtain ⟨id, ht, hid⟩ := exec_touches hm
      have hne := apart_of_touched (hown.at hjq) (hown.compat i j _ q hij hp hjq) hpc hid
      rw [ht.sent _ (hne _ (Or.inr (by rw [Proc.resolves, hc, Option.map_some])))]
      exact hq c hc

theorem answers_reach {dir : Directory} {vendors : List PayoutVendor} {s : Sys}
    (h : (system dir).Reach Honest (Sys.initial vendors) s) : answers.Holds s :=
  Outline.holds_of_reach (answers_kept dir) (fun _ hs => ownership_reach (fun _ _ he => he.1) hs)
    (Outline.holds_nil trivial) h

/-- Admins who tell the truth do not contradict each other. -/
theorem civil_of_honest {dir : Directory} {vendors : List PayoutVendor} {s : Sys}
    (h : (system dir).Reach Honest (Sys.initial vendors) s) :
    (system dir).Reach Civil (Sys.initial vendors) s := by
  refine h.imp fun s e hs he => ⟨he.1, ?_⟩
  have hans := answers_reach hs
  cases e with
  | spawn k => rfl
  | env a => rfl
  | run i r =>
    simp only [Agree]
    split
    · rename_i id admin answer hp
      split
      · rename_i d hd
        cases hf : d.reconciliationRequired with
        | false => rfl
        | true =>
          rw [Bool.not_true, Bool.false_or, List.all_eq_true]
          intro q hq
          split
          · rename_i c hc
            rw [Bool.or_eq_true, bne_iff_ne, beq_iff_eq]
            by_cases hid : c.payoutId = id
            · have hsame := (hans.procs q hq c hc).trans
                (hid ▸ (truthful_of_run he.2 hp hd hf).symm)
              exact Or.inr (Bool.eq_iff_iff.mpr hsame)
            · exact Or.inl hid
          · rfl
      · rfl
    · rfl

end Answers

/-! ## For which payouts money went out -/

/-- No money has moved for the payout. -/
def ExecPc.unsent : ExecPc → Bool
  | .claim .. => true
  | .raceRelease .. => true
  | .raceSave .. => true
  | .zeroSave .. => true
  | .processingSave .. => true
  | .transfer .. => true
  | .failSave .. => true
  | .release .. => true
  | _ => false

/-- A payout that is being paid, has been paid, or awaits reconciliation. -/
def Payout.Alive (p : Payout) : Prop :=
  p.status = .processing ∨ p.status = .succeeded ∨ p.reconciliationRequired = true

structure MoneyOk (w : World) : Prop where
  alive : ∀ id ∈ w.sent, ∃ d, w.payouts.get id = some d ∧ d.Alive
  once : w.sent.Nodup

def money : Outline World Proc where
  shared := MoneyOk
  proc w p := ∀ a e, p.executing = some (a, e) → e.unsent = true → ∀ id, e.payoutId = some id →
    id ∉ w.sent
  compat _ _ := True
  symm _ _ h := h

section Money

variable {a : Attempt} {w w' : World} {e e' : ExecPc} {r : Reply} {id : PayoutId}

theorem MoneyOk.same (h : MoneyOk w) (hp : w'.payouts = w.payouts) (hs : w'.sent = w.sent) :
    MoneyOk w' where
  alive i hi := by
    rw [hp]
    exact h.alive i (hs ▸ hi)
  once := hs ▸ h.once

/-- The money of a payout that is being paid goes out, or it does not. -/
theorem MoneyOk.send (h : MoneyOk w) {moved : Bool} {d : Payout} (hd : w.payouts.get id = some d)
    (hs : d.status = .processing) (hu : id ∉ w.sent) : MoneyOk (w.send id moved) := by
  cases moved with
  | false => exact h
  | true =>
    refine ⟨fun i hi => ?_, List.nodup_cons.mpr ⟨hu, h.once⟩⟩
    rcases List.mem_cons.mp hi with rfl | hi
    · exact ⟨d, hd, Or.inl hs⟩
    · exact h.alive i hi

theorem MoneyOk.modifyPayout (h : MoneyOk w) {g : Payout → Payout}
    (hg : ∀ d, w.payouts.get id = some d → id ∈ w.sent → (g d).Alive) :
    MoneyOk (w.modifyPayout id g) where
  alive i hi := by
    obtain ⟨d, hd, ha⟩ := h.alive i hi
    by_cases hid : id = i
    · subst hid
      refine ⟨g d, ?_, hg d hd hi⟩
      rw [World.modifyPayout, Collection.get_modify_self, hd, Option.map_some]
    · exact ⟨d, (Collection.get_modify_ne hid).trans hd, ha⟩
  once := h.once

theorem unsent_consume {guarded : Bool} {p : Payout} {rest : List Consumption} :
    (ExecPc.consume guarded id p rest).unsent = false := by cases rest <;> rfl

/-- **A move of `executePayout` sends money at most once**, and only for a payout
that is being paid. -/
theorem exec_money (hm : ExecMove a w e r w' e') (hok : MoneyOk w)
    (hx : ∀ st, e.stage = some st → Executes w a st)
    (h : e.unsent = true → ∀ id, e.payoutId = some id → id ∉ w.sent)
    (hsound : ∀ moved m, r = .transfer (.failed moved m) → moved = false) :
    MoneyOk w' ∧ (e'.unsent = true → ∀ id, e'.payoutId = some id → id ∉ w'.sent) := by
  have processing : ∀ {id : PayoutId} {p : Payout}, e = .transfer id p →
      ∃ d, w.payouts.get id = some d ∧ d.status = .processing ∧ id ∉ w.sent := by
    rintro id p rfl
    obtain ⟨d, hd, hs, _⟩ := (hx _ rfl).stored
    exact ⟨d, hd, hs, h rfl id rfl⟩
  have quiet : ∀ {w' : World} {e' : ExecPc}, e'.unsent = false →
      e'.unsent = true → ∀ id, e'.payoutId = some id → id ∉ w'.sent :=
    fun hf ht => by cases hf.symm.trans ht
  cases hm with
  | created hv =>
    refine ⟨⟨fun i hi => ?_, hok.once⟩, fun _ i hi hmem => ?_⟩
    · obtain ⟨d, hd, ha⟩ := hok.alive i hi
      exact ⟨d, Collection.get_create_of_get hd, ha⟩
    · cases hi
      obtain ⟨d, hd, _⟩ := hok.alive _ hmem
      rw [Collection.get_nextId] at hd
      cases hd
  | invalid hv => exact ⟨hok, quiet rfl⟩
  | claimed id p o rest n => exact ⟨hok.same rfl rfl, fun _ => h rfl⟩
  | raced id p n hn => exact ⟨hok, fun _ => h rfl⟩
  | absorbed id p hz => exact ⟨hok, fun _ => h rfl⟩
  | claimedAll id p hz => exact ⟨hok, fun _ => h rfl⟩
  | raceReleased id p o rest => exact ⟨hok.same rfl rfl, fun _ => h rfl⟩
  | raceReleasedAll id p => exact ⟨hok, fun _ => h rfl⟩
  | raceSaved id p =>
    exact ⟨hok.modifyPayout fun _ _ hmem => absurd hmem (h rfl id rfl), quiet rfl⟩
  | zeroSaved id p =>
    exact ⟨hok.modifyPayout fun _ _ hmem => absurd hmem (h rfl id rfl), quiet unsent_consume⟩
  | processingSaved id p =>
    exact ⟨hok.modifyPayout fun _ _ hmem => absurd hmem (h rfl id rfl), fun _ => h rfl⟩
  | refused id p m r ha => exact ⟨hok, fun _ => h rfl⟩
  | transferred id p ref ha =>
    obtain ⟨d, hd, hs, hu⟩ := processing rfl
    exact ⟨hok.send hd hs hu, quiet rfl⟩
  | unknown id p moved m ha =>
    obtain ⟨d, hd, hs, hu⟩ := processing rfl
    exact ⟨hok.send hd hs hu, quiet rfl⟩
  | failed id p moved m ha =>
    obtain rfl := hsound moved m rfl
    exact ⟨hok, fun _ => h rfl⟩
  | successSaved id p =>
    exact ⟨hok.modifyPayout fun _ _ _ => Or.inr (Or.inl (hx _ rfl).status), quiet unsent_consume⟩
  | entryGone guarded id p c rest hc => exact ⟨hok, quiet unsent_consume⟩
  | entryFound guarded id p c b rest hc => exact ⟨hok, quiet rfl⟩
  | entrySaved guarded id p c b rest => exact ⟨hok.same rfl rfl, quiet unsent_consume⟩
  | flagSaved id p =>
    exact ⟨hok.modifyPayout fun _ _ _ => Or.inr (Or.inr (hx _ rfl).flag), quiet rfl⟩
  | failSaved id p =>
    exact ⟨hok.modifyPayout fun _ _ hmem => absurd hmem (h rfl id rfl), fun _ => h rfl⟩
  | released id p o rest => exact ⟨hok.same rfl rfl, fun _ => h rfl⟩
  | releasedAll id p => exact ⟨hok, quiet rfl⟩

/-- A move of `resolveReconciliation` leaves alive what money went out for. -/
theorem resolve_money {pc pc' : ResolvePc} (hm : ResolveMove w pc w' pc') (hok : MoneyOk w)
    (hres : ∀ c, pc.resolution = some c → Resolves w c)
    (hans : ∀ c, pc.resolution = some c →
      (c.transferActuallySucceeded = true ↔ c.payoutId ∈ w.sent)) : MoneyOk w' := by
  cases hm with
  | saved c =>
    refine hok.modifyPayout fun d _ hmem => Or.inr (Or.inl ?_)
    have hyes := (hans c rfl).mpr hmem
    simp [Payout.saveResolved, hyes, (hres c rfl).failed]
  | released c o rest => exact hok.same rfl rfl
  | entrySaved c e b rest => exact hok.same rfl rfl
  | _ => exact hok

theorem money_kept (dir : Directory) :
    money.Kept (system dir) Orderly fun s => ownership.Holds s ∧ answers.Holds s where
  spawn s k _ _ h := by
    refine ⟨fun a e he => ?_, fun _ _ => trivial⟩
    cases k <;> cases he
  env s e w _ _ h hw := by
    have hsame := env_samePayouts hw
    exact ⟨MoneyOk.same h.shared hsame.payouts hsame.sent,
      fun q hq a e he hu id hid => hsame.sent ▸ h.procs q hq a e he hu id hid⟩
  run s i r p w p' hbase hr h hp hstep := by
    obtain ⟨hown, hans⟩ := hbase
    have hknows := hown.at hp
    have others : w.sent = s.shared.sent → ∀ (j : Nat) (q : Proc), i ≠ j → s.procs[j]? = some q →
        money.proc s.shared q → money.compat p q → money.proc w q ∧ money.compat p' q :=
      fun hsent j q _ _ hq _ => ⟨fun a e he hu id hid => hsent ▸ hq a e he hu id hid, trivial⟩
    cases call_move hr.1.1 hstep with
    | quiet hpc hread hpc' =>
      refine ⟨h.shared, fun a e he hu => ?_, others rfl⟩
      obtain ⟨rfl, _⟩ := hpc'.2 a e he
      cases hu
    | refund hm =>
      have hsame := refund_samePayouts hm
      exact ⟨MoneyOk.same h.shared hsame.payouts hsame.sent, fun _ _ he => (by cases he),
        others hsame.sent⟩
    | resolve hm =>
      exact ⟨resolve_money hm h.shared hknows.resolving (hans.at hp), fun _ _ he => (by cases he),
        others (resolve_sent hm)⟩
    | exec hpc hm hpc' =>
      obtain ⟨hok, hunsent⟩ := exec_money hm h.shared (hknows.executing _ _ hpc).2
        (h.at hp _ _ hpc) fun moved m he => by
          subst he
          simpa [SoundAdapter] using hr.2
      refine ⟨hok, fun a₁ e₁ he₁ => ?_, fun j q hij hjq hq _ => ⟨fun a₁ e₁ he₁ hu k hk => ?_,
        trivial⟩⟩
      · rcases hpc' with ⟨_, hpc', _⟩ | ⟨_, hfresh⟩
        · rw [Proc.executing, hpc'] at he₁
          cases he₁
          exact hunsent
        · obtain ⟨rfl, _⟩ := hfresh.2 a₁ e₁ he₁
          exact fun hu => by cases hu
      · obtain ⟨id, ht, hid⟩ := exec_touches hm
        have hne := apart_of_touched (hown.at hjq) (hown.compat i j _ q hij hp hjq) hpc hid
        rw [ht.sent _ (hne k (Or.inl (by rw [Proc.owns, he₁, Option.bind_some, hk])))]
        exact hq a₁ e₁ he₁ hu k hk

theorem money_initial (vendors : List PayoutVendor) : money.Holds (Sys.initial vendors) :=
  Outline.holds_nil ⟨fun _ hi => absurd hi List.not_mem_nil, List.nodup_nil⟩

theorem money_reach {dir : Directory} {vendors : List PayoutVendor} {s : Sys}
    (h : (system dir).Reach Orderly (Sys.initial vendors) s) : money.Holds s := by
  refine Outline.holds_of_reach (money_kept dir) (fun s hs => ?_) (money_initial vendors) h
  have hs' := hs.mono fun _ _ he => he.1
  exact ⟨ownership_reach (fun _ _ he => he.1) hs', answers_reach hs'⟩

/-- **A payout that money went out for holds its orders.** -/
theorem holdsAll_of_sent {dir : Directory} {vendors : List PayoutVendor} {s : Sys}
    (h : (system dir).Reach Orderly (Sys.initial vendors) s) (hid : id ∈ s.shared.sent) :
    ∃ d, s.shared.payouts.get id = some d ∧ s.shared.HoldsAll id d := by
  have honest := h.mono fun _ _ he => he.1
  obtain ⟨hhold, hborne⟩ := holding_reach (civil_of_honest honest)
  obtain ⟨d, hd, halive⟩ := (money_reach h).shared.alive id hid
  refine ⟨d, hd, ?_⟩
  rcases halive with hs | hs | hf
  · exact hhold.shared.held id d hd (Or.inl hs)
  · exact hhold.shared.held id d hd (Or.inr hs)
  · by_contra hh
    obtain ⟨q, hq, c, hc, rfl, hno⟩ := hborne id ⟨d, hd, hf, hh⟩
    rw [((answers_reach honest).procs q hq c hc).mpr hid] at hno
    cases hno

end Money

end FoodDelivery
