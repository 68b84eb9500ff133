import FoodDelivery.PromoCodes.Redemptions

/-!
# What is redeemed, and what is not

* `redemptions_accounted`: each discounted order is counted by its code, or one of the processes
  has not redeemed it.
* `limits_kept_iff`: the updates that keep every code within its limit.
* `overshoot_bounded`: how far the discounted orders go past a limit.
-/

namespace FoodDelivery

open Store Interleave

section Moves

variable {s s' : PromoOrders} {pc pc' : PromoOrderPc} {id : PromoCodeId}

/-! ## The ledger -/

/-- **One call keeps the balance** of the discounted orders, the count of the code, and the orders
that it has not been redeemed for. -/
theorem balance_step (hpc : pc.KeepsCount) (h : PromoOrderMove s pc s' pc') (id : PromoCodeId) :
    s'.discounted id + s.usedCount id + (pc.unredeemed id).toNat =
      s.discounted id + s'.usedCount id + (pc'.unredeemed id).toNat := by
  cases h with
  | made => rfl
  | inserted order =>
    have hcount : (s.insert order).usedCount id = s.usedCount id := rfl
    rw [discounted_insert, unredeemed_afterInsert, hcount]
    simp only [PromoOrderPc.unredeemed, PromoOrderPc.redeeming, PromoOrderPc.refused,
      PromoOrderPc.lost, PromoOrderPc.redemption]
    simp
    omega
  | unheard order hover =>
    have hcount : (s.insert order).usedCount id = s.usedCount id := rfl
    rw [discounted_insert, hover.unredeemed, hcount]
    simp only [PromoOrderPc.unredeemed, PromoOrderPc.redeeming, PromoOrderPc.refused,
      PromoOrderPc.lost, PromoOrderPc.redemption, lostRedemption_eq_lost, lostRedemption_ne_refused]
    simp
    omega
  | redeemed order i hover =>
    rw [discounted_redeem, usedCount_redeem, hover.unredeemed]
    simp only [PromoOrderPc.unredeemed, PromoOrderPc.redeeming, PromoOrderPc.refused,
      PromoOrderPc.lost, PromoOrderPc.redemption]
    rcases redemption_cases (s := s) i with ⟨hred, _⟩ | ⟨hred, _⟩
    · rw [hred]
      simp
      omega
    · rw [hred]
      simp
  | lost order i hover =>
    rw [hover.unredeemed]
    simp [PromoOrderPc.unredeemed, PromoOrderPc.redeeming, PromoOrderPc.refused, PromoOrderPc.lost,
      PromoOrderPc.redemption]
  | cleared order redemption hover =>
    rw [hover.unredeemed]
    rfl
  | found => rfl
  | saved i promo saved hover =>
    have hdiscounted : (s.save i promo saved).discounted id = s.discounted id := rfl
    rw [usedCount_save hpc, hdiscounted, hover.unredeemed]
    rfl
  | turnedDown hun hover =>
    rw [hun.unredeemed, hover.unredeemed]
    rfl

end Moves

/-- Nothing at all yet. -/
def noPromoOrders : PromoOrderPool := ⟨.empty, []⟩

section Runs

variable {ok : PromoOrderPool → PromoOrderEvent → Prop} {s s' : PromoOrderPool}
  {e : PromoOrderEvent} {id : PromoCodeId}

/-- What is about to be saved has the count that was read. -/
def CountsKept (s : PromoOrderPool) : Prop := ∀ pc ∈ s.procs, pc.KeepsCount

theorem keepsCount_start (k : PromoOrderCall) : (startPromoOrder k).KeepsCount := by
  cases k with
  | createOrder => trivial
  | update id dto requester =>
    rw [startPromoOrder]
    split <;> trivial

theorem keepsCount_move {s s' : PromoOrders} {pc pc' : PromoOrderPc}
    (h : PromoOrderMove s pc s' pc') : pc'.KeepsCount := by
  cases h with
  | made => trivial
  | inserted order =>
    unfold afterInsert
    split <;> trivial
  | found id dto requester promo saved hassign => exact usedCount_assign hassign
  | unheard _ hover => exact hover.keepsCount
  | redeemed _ _ hover => exact hover.keepsCount
  | lost _ _ hover => exact hover.keepsCount
  | cleared _ _ hover => exact hover.keepsCount
  | saved _ _ _ hover => exact hover.keepsCount
  | turnedDown _ hover => exact hover.keepsCount

theorem countsKept_next (hs : CountsKept s) (h : promoOrders.next s e = some s') :
    CountsKept s' := by
  cases e with
  | spawn k =>
    cases h
    intro pc hpc
    rcases List.mem_append.mp hpc with hold | hnew
    · exact hs pc hold
    · exact List.mem_singleton.mp hnew ▸ keepsCount_start k
  | run i r =>
    obtain ⟨pc, w, pc', _, hstep, rfl⟩ := Machine.next_run h
    intro q hq
    rcases List.mem_or_eq_of_mem_set hq with hold | rfl
    · exact hs q hold
    · exact keepsCount_move (promo_order_move hstep)
  | env a =>
    obtain ⟨w, _, rfl⟩ := Machine.next_env h
    exact hs

/-! ### Every run -/

/-- Each discounted order is counted by its code, or one of the processes has not redeemed it. -/
def Accounted (s : PromoOrderPool) (id : PromoCodeId) : Prop :=
  s.shared.discounted id = s.shared.usedCount id + s.procs.countP (·.unredeemed id)

theorem usedCount_env {s s' : PromoOrders} {a : PromoOrderEnv} (h : promoOrderEnv s a = some s')
    (id : PromoCodeId) : s'.usedCount id = s.usedCount id := by
  unfold PromoOrders.usedCount
  rcases (promoOrderEnv_cases h).2 with hcodes | ⟨dto, hcodes⟩
  · rw [hcodes]
  · rw [hcodes, Collection.get_create]
    split
    · rename_i hid
      subst hid
      rw [Collection.get_nextId]
      rfl
    · rfl

theorem unredeemed_start (k : PromoOrderCall) (id : PromoCodeId) :
    (startPromoOrder k).unredeemed id = false := by
  cases k with
  | createOrder => rfl
  | update i dto requester =>
    rw [startPromoOrder]
    split <;> rfl

theorem accounted_next (hs : CountsKept s) (ha : Accounted s id)
    (h : promoOrders.next s e = some s') : Accounted s' id := by
  unfold Accounted at ha ⊢
  cases e with
  | spawn k =>
    cases h
    have hstart : (promoOrders.start s.shared k).unredeemed id = false := unredeemed_start k id
    simpa [hstart] using ha
  | run i r =>
    obtain ⟨pc, w, pc', hpc, hstep, rfl⟩ := Machine.next_run h
    have hbalance := balance_step (hs pc (List.mem_of_getElem? hpc)) (promo_order_move hstep) id
    have hcount := countP_set (f := (·.unredeemed id)) pc' hpc
    dsimp only at hcount ⊢
    omega
  | env a =>
    obtain ⟨w, hw, rfl⟩ := Machine.next_env h
    have hdiscounted : w.discounted id = s.shared.discounted id := by
      rw [PromoOrders.discounted, (promoOrderEnv_cases hw).1]
      rfl
    rw [hdiscounted, usedCount_env hw id]
    exact ha

/-- **Every redemption is accounted for**: in every run, whatever fails and whatever is updated
meanwhile, the orders with the discount of a code are the code's count and the orders whose
processes have still to redeem it, were refused it, or lost it. -/
theorem redemptions_accounted (h : promoOrders.Reach ok noPromoOrders s) (id : PromoCodeId) :
    s.shared.discounted id = s.shared.usedCount id + s.procs.countP (·.unredeemed id) := by
  have hboth : CountsKept s ∧ Accounted s id := by
    refine Machine.Reach.invariant (I := fun s => CountsKept s ∧ Accounted s id) ?_ ?_ h
    · exact ⟨fun pc hpc => absurd hpc List.not_mem_nil, rfl⟩
    · rintro s e s' _ ⟨hkept, hacc⟩ _ hnext
      exact ⟨countsKept_next hkept hnext, accounted_next hkept hacc hnext⟩
  exact hboth.2

/-! ### Limits -/

/-- No code has been redeemed more often than it may be. -/
def WithinLimits (s : PromoOrderPool) : Prop :=
  ∀ id p, s.shared.promo.codes.get id = some p → p.usageLimit.all (p.usedCount ≤ ·) = true

/-- An update that is about to write a limit writes one that the code is within. -/
def LimitAdmits (s : PromoOrderPool) : PromoOrderEvent → Bool
  | .run i r =>
    match s.procs[i]? with
    | some (.save id promo saved) =>
      saved.usageLimit = promo.usageLimit || (!r.db.wrote || (s.shared.promo.taken saved.code id ||
        (s.shared.promo.codes.get id).all fun p => saved.usageLimit.all (p.usedCount ≤ ·)))
    | _ => true
  | _ => true

theorem withinLimit_redeem {p : PromoCode} (h : p.usageLimit.all (p.usedCount ≤ ·) = true) :
    p.redeem.usageLimit.all (p.redeem.usedCount ≤ ·) = true := by
  rw [redeem_eq]
  split
  · rename_i hunder
    rw [PromoCode.underLimit] at hunder
    dsimp only
    cases hl : p.usageLimit with
    | none => rfl
    | some limit =>
      rw [hl, Option.all_some, decide_eq_true_eq] at hunder
      exact decide_eq_true hunder
  · exact h

theorem withinLimit_writeModified {promo saved p : PromoCode}
    (hcount : saved.usedCount = promo.usedCount) :
    (promo.writeModified saved p).usageLimit.all ((promo.writeModified saved p).usedCount ≤ ·) =
      if saved.usageLimit = promo.usageLimit then p.usageLimit.all (p.usedCount ≤ ·)
      else saved.usageLimit.all (p.usedCount ≤ ·) := by
  rw [usedCount_writeModified hcount]
  show Option.all _ (FoodDelivery.writeModified _ _ _) = _
  unfold FoodDelivery.writeModified
  split <;> rfl

/-- A save that goes through is the one that the update is about to do. -/
theorem save_eq {s s' : PromoOrders} {pc' : PromoOrderPc} {r : PromoOrderReply} {i : PromoCodeId}
    {promo saved : PromoCode} (h : promoOrderStep s (.save i promo saved) r = some (s', pc')) :
    s' = if r.db.wrote = true ∧ s.promo.taken saved.code i = false then s.save i promo saved
      else s := by
  simp only [promoOrderStep] at h
  split at h
  · rename_i htaken
    cases h
    rw [htaken, if_neg (by simp)]
  · rename_i htaken
    rw [Bool.not_eq_true] at htaken
    split at h
    · rename_i hdb
      cases h
      rw [hdb, if_pos ⟨rfl, htaken⟩]
    · rename_i message hdb
      cases h
      rw [hdb, if_pos ⟨rfl, htaken⟩]
    · rename_i message hdb
      cases h
      rw [hdb, if_neg (by simp)]

/-- Only a save and a redemption write to a code. -/
theorem codes_move {s s' : PromoOrders} {pc pc' : PromoOrderPc} (h : PromoOrderMove s pc s' pc') :
    (∃ i promo saved, pc = .save i promo saved) ∨ s'.promo.codes = s.promo.codes ∨
      ∃ i, s'.promo.codes = s.promo.codes.modify i PromoCode.redeem := by
  cases h with
  | saved i promo saved => exact Or.inl ⟨i, promo, saved, rfl⟩
  | redeemed order i => exact Or.inr (Or.inr ⟨i, rfl⟩)
  | _ => exact Or.inr (Or.inl rfl)

theorem withinLimits_next (hkept : CountsKept s) (hs : WithinLimits s)
    (hadmits : LimitAdmits s e = true) (h : promoOrders.next s e = some s') :
    WithinLimits s' := by
  cases e with
  | spawn k =>
    cases h
    exact hs
  | env a =>
    obtain ⟨w, hw, rfl⟩ := Machine.next_env h
    intro id p hget
    rcases (promoOrderEnv_cases hw).2 with hcodes | ⟨dto, hcodes⟩
    · rw [hcodes] at hget
      exact hs id p hget
    · rw [hcodes] at hget
      rcases Collection.get_create_cases hget with ⟨_, rfl⟩ | ⟨_, hold⟩
      · show (PromoCode.created dto).usageLimit.all (0 ≤ ·) = true
        cases (PromoCode.created dto).usageLimit <;> simp
      · exact hs id p hold
  | run i r =>
    obtain ⟨pc, w, pc', hpc, hstep, rfl⟩ := Machine.next_run h
    intro id p hget
    rcases codes_move (promo_order_move hstep) with ⟨j, promo, saved, rfl⟩ | hcodes | ⟨j, hcodes⟩
    · have hcount : saved.usedCount = promo.usedCount := hkept _ (List.mem_of_getElem? hpc)
      rw [save_eq hstep] at hget
      split at hget
      · rename_i hdone
        rcases Collection.get_modify_cases hget with ⟨rfl, d, hd, rfl⟩ | ⟨_, hold⟩
        · rw [withinLimit_writeModified hcount]
          simp only [LimitAdmits, hpc, hdone.1, hdone.2, hd, Bool.not_true, Bool.false_or,
            Option.all_some, Bool.or_eq_true, decide_eq_true_eq] at hadmits
          split
          · exact hs _ d hd
          · rename_i hne
            exact hadmits.resolve_left hne
        · exact hs id p hold
      · exact hs id p hget
    · rw [hcodes] at hget
      exact hs id p hget
    · rw [hcodes] at hget
      rcases Collection.get_modify_cases hget with ⟨rfl, d, hd, rfl⟩ | ⟨_, hold⟩
      · exact withinLimit_redeem (hs _ d hd)
      · exact hs id p hold

/-- An update that writes a limit below the count breaks it there and then. -/
theorem withinLimits_broken (hkept : CountsKept s) (hadmits : ¬ LimitAdmits s e = true)
    (h : promoOrders.next s e = some s') : ¬ WithinLimits s' := by
  intro hs'
  apply hadmits
  cases e with
  | spawn k => rfl
  | env a => rfl
  | run i r =>
    obtain ⟨pc, w, pc', hpc, hstep, rfl⟩ := Machine.next_run h
    cases pc with
    | save id promo saved =>
      have hcount : saved.usedCount = promo.usedCount := hkept _ (List.mem_of_getElem? hpc)
      simp only [LimitAdmits, hpc]
      cases hdb : r.db.wrote with
      | false => simp
      | true =>
        cases htaken : s.shared.promo.taken saved.code id with
        | true => simp
        | false =>
          cases hget : s.shared.promo.codes.get id with
          | none => simp
          | some p =>
            have hw : w = s.shared.save id promo saved := by
              rw [save_eq hstep, if_pos ⟨hdb, htaken⟩]
            have hlimit := hs' id (promo.writeModified saved p) (by
              show w.promo.codes.get id = _
              rw [hw]
              show (s.shared.promo.codes.modify id _).get id = _
              rw [Collection.get_modify_self, hget]
              rfl)
            rw [withinLimit_writeModified hcount] at hlimit
            split at hlimit
            · rename_i heq
              simp [heq]
            · simp [hlimit]
    | _ => simp only [LimitAdmits, hpc]

/-- **A code is never redeemed past its limit, except by an update that lowers the limit below what
has been redeemed**: along every run, however its calls interleave and whichever of them fail. -/
theorem limits_kept_iff (es : List PromoOrderEvent) (s : PromoOrderPool)
    (h : promoOrders.exec noPromoOrders es = some s) :
    (∀ p t, p <+: es → promoOrders.exec noPromoOrders p = some t → WithinLimits t) ↔
      ∀ p e t, p ++ [e] <+: es → promoOrders.exec noPromoOrders p = some t →
        LimitAdmits t e = true := by
  refine Machine.exec_good_iff (M := promoOrders) (I := fun s => CountsKept s ∧ WithinLimits s)
    (C := fun s e => LimitAdmits s e = true) ?_ ?_ ?_ es noPromoOrders s ?_ h
  · exact fun s hs => hs.2
  · exact fun s e s' hs he hnext =>
      ⟨countsKept_next hs.1 hnext, withinLimits_next hs.1 hs.2 he hnext⟩
  · exact fun s e s' hs he hnext => withinLimits_broken hs.1 he hnext
  · exact ⟨fun pc hpc => absurd hpc List.not_mem_nil, fun id p hget => by
      rw [show noPromoOrders.shared.promo.codes = Collection.empty from rfl,
        Collection.get_empty] at hget
      cases hget⟩

end Runs

/-! ## The race for the last redemptions -/

section Race

variable {s s' : PromoOrders} {pc pc' : PromoOrderPc} {id : PromoCodeId}

/-- What `redeem` reads of a code: its count and its limit. -/
def PromoOrders.usage (s : PromoOrders) (id : PromoCodeId) : Option (Nat × Option Nat) :=
  (s.promo.codes.get id).map fun p => (p.usedCount, p.usageLimit)

/-- What a call does to the usage of a code, to whether its process is in the race for the code, and
to whether it was refused. -/
inductive RaceMove (usage : Option (Nat × Option Nat)) :
    Bool → Bool → Option (Nat × Option Nat) → Bool → Bool → Prop
  | still {racing racing' refused : Bool} (hleft : racing' = true → racing = true) :
      RaceMove usage racing refused usage racing' refused
  | enter (used : Nat) (limit : Option Nat) (husage : usage = some (used, limit))
      (hunder : limit.all (used < ·) = true) : RaceMove usage false false usage true false
  | win (used : Nat) (limit : Option Nat) (husage : usage = some (used, limit))
      (hunder : limit.all (used < ·) = true) :
      RaceMove usage true false (some (used + 1, limit)) false false
  | lose (hfull : ∀ used limit, usage = some (used, limit) → limit.all (used < ·) = false) :
      RaceMove usage true false usage false true

theorem racing_afterInsert {order : CreatedOrder} :
    (afterInsert order).racing id = decide (order.redeemedPromoCodeId = some id) := by
  unfold afterInsert
  split
  · rename_i i hi
    simp [PromoOrderPc.racing, hi]
  · rename_i hnone
    simp [PromoOrderPc.racing, hnone]

theorem PromoOrderPc.Over.refused {outcome : Redemption} (h : pc.Over outcome) :
    pc.refused id = decide (outcome = .refused id) := by
  rw [PromoOrderPc.refused, h.redemption]

theorem PromoOrderPc.Unstored.refused (h : pc.Unstored) : pc.refused id = false := by
  rw [PromoOrderPc.refused, h.redemption]
  rfl

/-- The usage of a code after a call of `redeem`. -/
theorem race_redeem (i : PromoCodeId) : RaceMove (s.usage id) (decide (i = id)) false
    ((s.redeem i).usage id) false (decide (s.redemption i = .refused id)) := by
  have husage : (s.redeem i).usage id =
      ((s.promo.codes.modify i PromoCode.redeem).get id).map fun p =>
        (p.usedCount, p.usageLimit) := rfl
  rw [husage, Collection.get_modify]
  by_cases hi : i = id
  · subst hi
    rw [if_pos rfl, decide_eq_true rfl]
    rcases redemption_cases (s := s) i with ⟨hred, p, hget, hp⟩ | ⟨hred, hfull⟩
    · rw [hred, hget]
      simp only [PromoOrders.usage, hget, Option.map_some, redeem_eq, hp, if_true]
      exact .win p.usedCount p.usageLimit rfl hp
    · rw [hred, decide_eq_true rfl]
      have hsame : ((s.promo.codes.get i).map PromoCode.redeem).map
          (fun p => (p.usedCount, p.usageLimit)) = s.usage i := by
        rw [PromoOrders.usage]
        cases hget : s.promo.codes.get i with
        | none => rfl
        | some p => simp [redeem_eq, hfull p hget]
      rw [hsame]
      refine .lose fun used limit hused => ?_
      rw [PromoOrders.usage, Option.map_eq_some_iff] at hused
      obtain ⟨p, hget, hp⟩ := hused
      cases hp
      exact hfull p hget
  · rw [if_neg hi, decide_eq_false hi]
    rcases redemption_cases (s := s) i with ⟨hred, _⟩ | ⟨hred, _⟩
    · rw [hred]
      exact .still (by rintro ⟨⟩)
    · rw [hred, decide_eq_false (by simpa using hi)]
      exact .still (by rintro ⟨⟩)

/-- What a save that leaves the limit alone does to the usage of a code. -/
theorem usage_save {i : PromoCodeId} {promo saved : PromoCode}
    (hcount : saved.usedCount = promo.usedCount)
    (hlimit : i = id → saved.usageLimit = promo.usageLimit) :
    (s.save i promo saved).usage id = s.usage id := by
  have husage : (s.save i promo saved).usage id =
      ((s.promo.codes.modify i (promo.writeModified saved)).get id).map fun p =>
        (p.usedCount, p.usageLimit) := rfl
  rw [husage, Collection.get_modify, PromoOrders.usage]
  split
  · rename_i hi
    cases s.promo.codes.get id with
    | none => rfl
    | some p =>
      have husageLimit : (promo.writeModified saved p).usageLimit = p.usageLimit :=
        if_pos (hlimit hi)
      simp only [Option.map_some, usedCount_writeModified hcount, husageLimit]
  · rfl

/-- **What one call does to the race for a code** whose limit it leaves alone. -/
theorem race_step (hkept : pc.KeepsCount)
    (hlimit : ∀ promo saved, pc = .save id promo saved → saved.usageLimit = promo.usageLimit)
    (h : PromoOrderMove s pc s' pc') : RaceMove (s.usage id) (pc.racing id) (pc.refused id)
      (s'.usage id) (pc'.racing id) (pc'.refused id) := by
  cases h with
  | made userId dto order hcode =>
    by_cases hid : order.redeemedPromoCodeId = some id
    · have hunder := hcode id hid
      rw [Option.any_eq_true] at hunder
      obtain ⟨p, hget, hp⟩ := hunder
      have hracing : (PromoOrderPc.insert order).racing id = true := decide_eq_true hid
      rw [hracing]
      exact .enter p.usedCount p.usageLimit (by rw [PromoOrders.usage, hget]; rfl) hp
    · have hracing : (PromoOrderPc.insert order).racing id = false := decide_eq_false hid
      rw [hracing]
      exact .still (by rintro ⟨⟩)
  | inserted order =>
    have hrefused : (afterInsert order).refused id = false := by
      rw [PromoOrderPc.refused, redemption_afterInsert]
      rfl
    rw [racing_afterInsert, hrefused]
    exact .still fun hracing => hracing
  | unheard order hover =>
    rw [hover.racing, hover.refused, decide_eq_false lostRedemption_ne_refused]
    exact .still (by rintro ⟨⟩)
  | redeemed order i hover =>
    rw [hover.racing, hover.refused]
    exact race_redeem i
  | lost order i hover =>
    rw [hover.racing, hover.refused, decide_eq_false (by rintro ⟨⟩)]
    exact .still (by rintro ⟨⟩)
  | cleared order redemption hover =>
    rw [hover.racing, hover.refused]
    exact .still (by rintro ⟨⟩)
  | found => exact .still (by rintro ⟨⟩)
  | saved i promo saved hover =>
    rw [hover.racing, hover.refused, usage_save hkept fun hi => by
      subst hi
      exact hlimit promo saved rfl]
    exact .still (by rintro ⟨⟩)
  | turnedDown hun hover =>
    rw [hover.racing, hover.refused, hun.refused]
    exact .still (by rintro ⟨⟩)

/-- Where the race stands, with `racing` processes in it and `refused` ones out of it: nobody has
been refused below the limit, and at the limit one process at least has left it. -/
structure RaceStands (k : Nat) (usage : Option (Nat × Option Nat)) (racing refused : Nat) :
    Prop where
  atMost : racing ≤ k
  absent : usage = none → racing = 0 ∧ refused = 0
  limited : ∀ used limit, usage = some (used, some limit) → used ≤ limit ∧
    (used < limit → refused = 0) ∧ (used = limit → racing + refused ≤ k - 1)

/-- **One call keeps the standing of the race.** -/
theorem raceStands_step {k n m n' m' : Nat} {usage usage' : Option (Nat × Option Nat)}
    {racing refused racing' refused' : Bool} (hs : RaceStands k usage n m)
    (h : RaceMove usage racing refused usage' racing' refused')
    (hn : n' + racing.toNat = n + racing'.toNat) (hm : m' + refused.toNat = m + refused'.toNat)
    (hk : n' ≤ k) : RaceStands k usage' n' m' := by
  cases h with
  | still hleft =>
    have hle : racing'.toNat ≤ racing.toNat := by
      cases racing' with
      | false => exact Nat.zero_le _
      | true => rw [hleft rfl]
    refine ⟨hk, fun hnone => ?_, fun used limit husage => ?_⟩
    · have := hs.absent hnone
      omega
    · have := hs.limited used limit husage
      omega
  | enter used limit husage hunder =>
    refine ⟨hk, fun hnone => ?_, fun used' limit' husage' => ?_⟩
    · cases husage.symm.trans hnone
    · have := hs.limited used' limit' husage'
      cases husage.symm.trans husage'
      rw [Option.all_some, decide_eq_true_eq] at hunder
      simp only [Bool.toNat_false] at hm
      omega
  | win used limit husage hunder =>
    refine ⟨hk, by rintro ⟨⟩, ?_⟩
    rintro used' limit' ⟨⟩
    have := hs.limited used limit' husage
    have := hs.atMost
    rw [Option.all_some, decide_eq_true_eq] at hunder
    simp only [Bool.toNat_false, Bool.toNat_true] at hn hm
    omega
  | lose hfull =>
    simp only [Bool.toNat_false, Bool.toNat_true] at hn hm
    refine ⟨hk, fun hnone => ?_, fun used limit husage => ?_⟩
    · have := hs.absent hnone
      omega
    · have := hs.limited used limit husage
      have hnot := hfull used (some limit) husage
      rw [Option.all_some, decide_eq_false_iff_not] at hnot
      omega

end Race

section Runs

variable {s s' : PromoOrderPool} {e : PromoOrderEvent} {id : PromoCodeId} {k : Nat}

/-- No update of this code is about to write its limit. -/
def LeavesLimit (id : PromoCodeId) (s : PromoOrderPool) : PromoOrderEvent → Bool
  | .run i _ =>
    match s.procs[i]? with
    | some (.save j promo saved) => j ≠ id || saved.usageLimit = promo.usageLimit
    | _ => true
  | _ => true

/-- The event leaves the limit of this code alone, and no more than `k` orders in the race for
it. -/
def RacedBy (k : Nat) (id : PromoCodeId) (s : PromoOrderPool) (e : PromoOrderEvent) : Bool :=
  LeavesLimit id s e && (promoOrders.next s e).all fun s' => s'.procs.countP (·.racing id) ≤ k

theorem outside_start (call : PromoOrderCall) (id : PromoCodeId) :
    (startPromoOrder call).racing id = false ∧ (startPromoOrder call).refused id = false := by
  cases call with
  | createOrder => exact ⟨rfl, rfl⟩
  | update i dto requester =>
    rw [startPromoOrder]
    split <;> exact ⟨rfl, rfl⟩

/-- The standing of the race in a pool. -/
def Standing (k : Nat) (id : PromoCodeId) (s : PromoOrderPool) : Prop :=
  RaceStands k (s.shared.usage id) (s.procs.countP (·.racing id)) (s.procs.countP (·.refused id))

theorem standing_next (hkept : CountsKept s) (hs : Standing k id s) (he : RacedBy k id s e = true)
    (h : promoOrders.next s e = some s') : Standing k id s' := by
  rw [RacedBy, h, Option.all_some, Bool.and_eq_true, decide_eq_true_eq] at he
  obtain ⟨hleaves, hk⟩ := he
  cases e with
  | spawn call =>
    cases h
    obtain ⟨hracing, hrefused⟩ : (promoOrders.start s.shared call).racing id = false ∧
        (promoOrders.start s.shared call).refused id = false := outside_start call id
    simpa [Standing, hracing, hrefused] using hs
  | run i r =>
    obtain ⟨pc, w, pc', hpc, hstep, rfl⟩ := Machine.next_run h
    have hlimit : ∀ promo saved, pc = .save id promo saved →
        saved.usageLimit = promo.usageLimit := by
      rintro promo saved rfl
      simpa [LeavesLimit, hpc] using hleaves
    exact raceStands_step hs
      (race_step (hkept pc (List.mem_of_getElem? hpc)) hlimit (promo_order_move hstep))
      (countP_set pc' hpc) (countP_set pc' hpc) hk
  | env a =>
    obtain ⟨w, hw, rfl⟩ := Machine.next_env h
    rcases (promoOrderEnv_cases hw).2 with hcodes | ⟨dto, hcodes⟩
    · have husage : w.usage id = s.shared.usage id := by
        rw [PromoOrders.usage, hcodes]
        rfl
      rw [Standing, husage]
      exact hs
    · by_cases hid : id = s.shared.promo.codes.nextId
      · -- the code is new, and nobody is in the race for it
        have hnone : s.shared.usage id = none := by
          rw [PromoOrders.usage, hid, Collection.get_nextId]
          rfl
        have husage : w.usage id = some (0, (PromoCode.created dto).usageLimit) := by
          rw [PromoOrders.usage, hcodes, hid, Collection.get_create_self]
          rfl
        obtain ⟨hracing, hrefused⟩ := hs.absent hnone
        rw [Standing, husage, hracing, hrefused]
        refine ⟨Nat.zero_le k, by rintro ⟨⟩, fun used limit hused => ?_⟩
        have hzero : 0 = used := congrArg Prod.fst (Option.some.inj hused)
        omega
      · have husage : w.usage id = s.shared.usage id := by
          rw [PromoOrders.usage, hcodes, Collection.get_create, if_neg hid]
          rfl
        rw [Standing, husage]
        exact hs

theorem countP_unredeemed_le (id : PromoCodeId) (procs : List PromoOrderPc) :
    procs.countP (·.unredeemed id) ≤ procs.countP (·.racing id) +
      (procs.countP (·.refused id) + procs.countP (·.lost id)) := by
  have hrace : procs.countP (·.unredeemed id) ≤ procs.countP (·.racing id) +
      procs.countP fun pc => pc.refused id || pc.lost id := by
    refine countP_le_add (fun pc hpc => ?_) procs
    rw [PromoOrderPc.unredeemed, Bool.or_eq_true] at hpc
    refine hpc.imp_left fun hredeeming => ?_
    cases pc with
    | redeem => exact hredeeming
    | _ => cases hredeeming
  have hout : (procs.countP fun pc => pc.refused id || pc.lost id) ≤
      procs.countP (·.refused id) + procs.countP (·.lost id) :=
    countP_le_add (fun pc hpc => Bool.or_eq_true _ _ ▸ hpc) procs
  omega

/-- **How far a limited code is overshot**: where no update writes its limit and no more than `k`
orders are ever between the check of the code and its redemption, the orders with its discount are
no more than the limit, `k - 1`, and those whose redemption never reached the database. -/
theorem overshoot_bounded {p : PromoCode} {limit : Nat}
    (h : promoOrders.Reach (fun s e => RacedBy k id s e = true) noPromoOrders s)
    (hget : s.shared.promo.codes.get id = some p) (hlimit : p.usageLimit = some limit) :
    s.shared.discounted id ≤ limit + (k - 1) + s.procs.countP (·.lost id) := by
  have hboth : CountsKept s ∧ Standing k id s := by
    refine Machine.Reach.invariant (I := fun s => CountsKept s ∧ Standing k id s) ?_ ?_ h
    · refine ⟨fun pc hpc => absurd hpc List.not_mem_nil, Nat.zero_le k, fun _ => ⟨rfl, rfl⟩, ?_⟩
      rintro used limit ⟨⟩
    · rintro s e s' _ ⟨hkept, hs⟩ he hnext
      exact ⟨countsKept_next hkept hnext, standing_next hkept hs he hnext⟩
  have husage : s.shared.usage id = some (p.usedCount, some limit) := by
    rw [PromoOrders.usage, hget, Option.map_some, hlimit]
  have hused : s.shared.usedCount id = p.usedCount := by
    rw [PromoOrders.usedCount, hget]
    rfl
  have hledger := redemptions_accounted h id
  have hparts := countP_unredeemed_le id s.procs
  have hracing := hboth.2.atMost
  obtain ⟨hle, hbelow, hat⟩ := hboth.2.limited p.usedCount limit husage
  omega

end Runs

/-! ## Two orders and one redemption -/

/-- A code that may be redeemed once. -/
def onceCode : CreatePromoCodeDto :=
  { welcomeCode with code := "ONCE", usageLimit := .value 1 }

def lunchReply : PromoOrderReply := ⟨fun _ _ => 0, lunchCatalogue .empty, lunchCart, lunchCart, .ok⟩

/-- The code is created, and an order with it is accepted, stored, redeemed for and answered. -/
def lunchOrder (i : Nat) (userId : UserId) : List PromoOrderEvent :=
  [.spawn (.createOrder userId ⟨none, none, none, some "ONCE"⟩), .run i lunchReply,
    .run i lunchReply, .run i lunchReply, .run i lunchReply]

def createOnce : PromoOrderEvent := .env (.create onceCode ⟨9, .admin⟩)

/-- Both orders are accepted before either is stored. -/
def racedOnce : List PromoOrderEvent :=
  [createOnce, .spawn (.createOrder 3 ⟨none, none, none, some "ONCE"⟩),
    .spawn (.createOrder 4 ⟨none, none, none, some "ONCE"⟩), .run 0 lunchReply, .run 1 lunchReply,
    .run 0 lunchReply, .run 1 lunchReply, .run 0 lunchReply, .run 1 lunchReply]

theorem raced_once : ∃ s : PromoOrderPool,
    promoOrders.Reach (fun s e => RacedBy 2 0 s e = true) noPromoOrders s ∧
      (s.shared.discounted 0 = 2 && (s.shared.usedCount 0 = 1 &&
        (s.shared.promo.codes.get 0).any (·.usageLimit = some 1))) = true :=
  Machine.exists_reach_of_play (fun _ _ h => h) racedOnce (by decide +kernel)

theorem redemptions_accounted_once : ∃ s : PromoOrderPool, s.shared.discounted 0 = 2 ∧
    s.shared.discounted 0 = s.shared.usedCount 0 + s.procs.countP (·.unredeemed 0) := by
  obtain ⟨s, hreach, hs⟩ := raced_once
  simp only [Bool.and_eq_true, decide_eq_true_eq] at hs
  exact ⟨s, hs.1, redemptions_accounted hreach 0⟩

/-- The bound is reached. -/
theorem overshoot_bounded_once : ∃ s : PromoOrderPool, s.shared.discounted 0 = 2 ∧
    s.shared.discounted 0 ≤ 1 + (2 - 1) + s.procs.countP (·.lost 0) := by
  obtain ⟨s, hreach, hs⟩ := raced_once
  simp only [Bool.and_eq_true, decide_eq_true_eq, Option.any_eq_true] at hs
  obtain ⟨hdiscounted, _, p, hget, hlimit⟩ := hs
  exact ⟨s, hdiscounted, overshoot_bounded hreach hget hlimit⟩

/-- The limit is raised to two between two orders. -/
def raisedOnce : List PromoOrderEvent :=
  createOnce :: lunchOrder 0 3 ++
    [.spawn (.update 0 { UpdatePromoCodeDto.empty with usageLimit := .value 2 } ⟨9, .admin⟩),
      .run 1 lunchReply, .run 1 lunchReply] ++ lunchOrder 2 4

theorem limits_kept_raised : ∃ s : PromoOrderPool, s.shared.discounted 0 = 2 ∧
    ∀ p t, p <+: raisedOnce → promoOrders.exec noPromoOrders p = some t → WithinLimits t := by
  obtain ⟨s, hexec, hall, hs⟩ : ∃ s, promoOrders.exec noPromoOrders raisedOnce = some s ∧
      (∀ p e t, p ++ [e] <+: raisedOnce → promoOrders.exec noPromoOrders p = some t →
        LimitAdmits t e = true) ∧ decide (s.shared.discounted 0 = 2) = true :=
    Machine.exists_exec_of_play raisedOnce (by decide +kernel)
  exact ⟨s, of_decide_eq_true hs, (limits_kept_iff raisedOnce s hexec).mpr hall⟩

end FoodDelivery
