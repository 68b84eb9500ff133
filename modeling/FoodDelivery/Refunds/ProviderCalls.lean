import FoodDelivery.Refunds.Exclusive

/-!
# How often the provider is asked for a refund

* `AtMostOnce`: after a refund call that succeeded there is none, and after one of
  unknown outcome none until an admin's no, issued after it was flagged, was saved.
* `calls_kept`: every step keeps this unless a `resolveRefundReconciliation(false)`
  saves over a flag that was set after it was issued.
* `refund_at_most_once`: the runs in which none does; `stale_clear_refunds_again`
  is one in which it happens and the provider is asked once too often.
-/

namespace FoodDelivery

open Store Interleave

section Log

variable (log : List RefundEvent) (o : OrderId)

/-- `adapter.refund` was called for the order, and how it settled. -/
def CalledAt (r : RefundReply) (i : Nat) : Prop :=
  ∃ provider ref, log[i]? = some (.called o provider ref r)

/-- The outcome was recorded on the order. -/
def FlaggedAt (i : Nat) : Prop := log[i]? = some (.flagged o)

/-- An admin's no that was issued when the history had length `issued` was saved. -/
def ClearedAt (issued i : Nat) : Prop := log[i]? = some (.cleared o issued)

/-- No refund call has succeeded. -/
def NoneResolved : Prop := ∀ i, ¬ CalledAt log o .resolved i

/-- Every unknown outcome was flagged. -/
def UnknownsFlagged : Prop :=
  ∀ m i, CalledAt log o (.unknown m) i → ∃ n, i < n ∧ FlaggedAt log o n

/-- Every unknown outcome before `j` was flagged, and an admin's no that was issued
after that was saved. -/
def UnknownsCleared (j : Nat) : Prop :=
  ∀ m i, i < j → CalledAt log o (.unknown m) i → ∃ n issued k,
    i < n ∧ FlaggedAt log o n ∧ n < issued ∧ ClearedAt log o issued k ∧ k < j

/-- **Refund at most once.** -/
def AtMostOnce : Prop :=
  ∀ o r j, CalledAt log o r j → (∀ i, i < j → ¬ CalledAt log o .resolved i) ∧
    UnknownsCleared log o j

end Log

section Append

variable {log : List RefundEvent} {o : OrderId} {e : RefundEvent} {i j : Nat} {r : RefundReply}

theorem getElem?_snoc {x : RefundEvent} (h : log[i]? = some x) : (log ++ [e])[i]? = some x := by
  rw [List.getElem?_append_left (List.getElem?_eq_some_iff.mp h).1, h]

theorem getElem?_snoc_cases {x : RefundEvent} (h : (log ++ [e])[i]? = some x) :
    log[i]? = some x ∨ (i = log.length ∧ x = e) := by
  rw [List.getElem?_append] at h
  split at h
  · exact Or.inl h
  · rename_i hlt
    have hi := (List.getElem?_eq_some_iff.mp h).1
    rw [List.length_singleton] at hi
    have hzero : i - log.length = 0 := by omega
    rw [hzero, List.getElem?_cons_zero, Option.some.injEq] at h
    exact Or.inr ⟨by omega, h.symm⟩

theorem CalledAt.snoc (h : CalledAt log o r i) : CalledAt (log ++ [e]) o r i := by
  obtain ⟨provider, ref, h⟩ := h
  exact ⟨provider, ref, getElem?_snoc h⟩

theorem CalledAt.snoc_cases (h : CalledAt (log ++ [e]) o r i) :
    CalledAt log o r i ∨ (i = log.length ∧ ∃ provider ref, e = .called o provider ref r) := by
  obtain ⟨provider, ref, h⟩ := h
  exact (getElem?_snoc_cases h).imp (fun h => ⟨provider, ref, h⟩)
    fun h => ⟨h.1, provider, ref, h.2.symm⟩

theorem not_calledAt_nil : ¬ CalledAt [] o r i := by
  rintro ⟨_, _, h⟩
  cases h

theorem CalledAt.lt (h : CalledAt log o r i) : i < log.length := by
  obtain ⟨_, _, h⟩ := h
  exact (List.getElem?_eq_some_iff.mp h).1

theorem NoneResolved.snoc (h : NoneResolved log o)
    (he : ∀ provider ref, e ≠ .called o provider ref .resolved) : NoneResolved (log ++ [e]) o := by
  intro i hi
  rcases hi.snoc_cases with hi | ⟨_, provider, ref, hi⟩
  · exact h i hi
  · exact he provider ref hi

theorem UnknownsFlagged.snoc (h : UnknownsFlagged log o)
    (he : ∀ provider ref m, e ≠ .called o provider ref (.unknown m)) :
    UnknownsFlagged (log ++ [e]) o := by
  intro m i hi
  rcases hi.snoc_cases with hi | ⟨_, provider, ref, hi⟩
  · obtain ⟨n, hn, hf⟩ := h m i hi
    exact ⟨n, hn, getElem?_snoc hf⟩
  · exact absurd hi (he provider ref m)

/-- What was cleared by some moment stays cleared. -/
theorem UnknownsCleared.snoc (h : UnknownsCleared log o j) (hj : j ≤ log.length) :
    UnknownsCleared (log ++ [e]) o j := by
  intro m i hi hc
  rcases hc.snoc_cases with hc | ⟨hlen, _⟩
  · obtain ⟨n, issued, k, hn, hf, hni, hk, hkj⟩ := h m i hi hc
    exact ⟨n, issued, k, hn, getElem?_snoc hf, hni, getElem?_snoc hk, hkj⟩
  · omega

/-- No unknown outcome is added by another event. -/
theorem UnknownsCleared.snoc_length (h : UnknownsCleared log o log.length)
    (he : ∀ provider ref m, e ≠ .called o provider ref (.unknown m)) :
    UnknownsCleared (log ++ [e]) o (log ++ [e]).length := by
  intro m i _ hc
  rcases hc.snoc_cases with hc | ⟨_, provider, ref, hc⟩
  · obtain ⟨n, issued, k, hn, hf, hni, hk, hkj⟩ := h m i hc.lt hc
    exact ⟨n, issued, k, hn, getElem?_snoc hf, hni, getElem?_snoc hk, by simp; omega⟩
  · exact absurd hc (he provider ref m)

/-- A new event keeps the history in order if it is no call, or a call that may be
made. -/
theorem AtMostOnce.snoc (h : AtMostOnce log)
    (he : ∀ o provider ref r, e = .called o provider ref r →
      NoneResolved log o ∧ UnknownsCleared log o log.length) : AtMostOnce (log ++ [e]) := by
  intro o r j hj
  rcases hj.snoc_cases with hj | ⟨rfl, provider, ref, rfl⟩
  · obtain ⟨hres, hclr⟩ := h o r j hj
    refine ⟨fun i hi hc => ?_, hclr.snoc (Nat.le_of_lt hj.lt)⟩
    rcases hc.snoc_cases with hc | ⟨hlen, _⟩
    · exact hres i hi hc
    · have := hj.lt
      omega
  · obtain ⟨hres, hclr⟩ := he o provider ref r rfl
    refine ⟨fun i hi hc => ?_, hclr.snoc (Nat.le_refl _)⟩
    rcases hc.snoc_cases with hc | ⟨hlen, _⟩
    · exact hres i hc
    · omega

end Append

/-- Whether a stored order may be refunded again is what its history says. -/
structure CallsOk (log : List RefundEvent) (o : OrderId) (d : Order) : Prop where
  resolved : d.status ≠ .refunded → NoneResolved log o
  cleared : d.status ≠ .refunded → d.refundReconciliationRequired = false →
    UnknownsCleared log o log.length
  flagged : d.refundReconciliationRequired = true → UnknownsFlagged log o

namespace RefundPc

/-- A call that may still give its order back unflagged. -/
def mayRevert : RefundPc → Option OrderId
  | .adapter id _ _ _ => some id
  | .revert id _ _ _ => some id
  | _ => none

/-- A call that may still give its order back. -/
def mayGiveBack : RefundPc → Option OrderId
  | .adapter id _ _ _ => some id
  | .revert id _ _ _ => some id
  | .flag id _ _ _ => some id
  | _ => none

theorem holds_of_mayRevert {pc : RefundPc} {id : OrderId} (h : pc.mayRevert = some id) :
    pc.holds = some id := by cases pc <;> first | exact h | cases h

theorem holds_of_mayGiveBack {pc : RefundPc} {id : OrderId} (h : pc.mayGiveBack = some id) :
    pc.holds = some id := by cases pc <;> first | exact h | cases h

end RefundPc

structure RefundCalls (log : List RefundEvent) (pc : RefundPc) : Prop where
  cleared : ∀ id, pc.mayRevert = some id → UnknownsCleared log id log.length
  resolved : ∀ id, pc.mayGiveBack = some id → NoneResolved log id

def providerCalls : Outline World Proc where
  shared w := AtMostOnce w.refundLog ∧
    (∀ o d, w.orders.get o = some d → CallsOk w.refundLog o d) ∧
    ∀ o, w.orders.get o = none → ∀ r i, ¬ CalledAt w.refundLog o r i
  proc w p := ∀ pc, p.refunding = some pc → RefundCalls w.refundLog pc
  compat _ _ := True
  symm _ _ h := h

/-- Whether a `resolveRefundReconciliation(false)` that saves now saves over the
flag it was issued for: the order is not flagged, or no flag was set since. -/
def FreshClear (s : Sys) : SysEvent → Bool
  | .run i (.db db) =>
    match s.procs[i]? with
    | some (.refund (.resolveSave id issued)) =>
      match s.shared.orders.get id with
      | some d => !db.wrote || !d.refundReconciliationRequired ||
          (s.shared.refundLog.drop issued).all (· != .flagged id)
      | none => true
    | _ => true
  | _ => true

theorem flagged_before {log : List RefundEvent} {issued n : Nat} {id : OrderId}
    (h : (log.drop issued).all (· != .flagged id) = true) (hf : FlaggedAt log id n) :
    n < issued := by
  by_contra hn
  rw [List.all_eq_true] at h
  have hmem : RefundEvent.flagged id ∈ log.drop issued := by
    refine List.mem_of_getElem? (i := n - issued) ?_
    rw [List.getElem?_drop, Nat.add_sub_cancel' (Nat.le_of_not_lt hn)]
    exact hf
  simpa using h _ hmem

section Step

variable {w w' : World} {pc pc' : RefundPc} {r : Reply}

/-- What a move of one call must leave true for the others. -/
structure CallsKept (w : World) (pc : RefundPc) (w' : World) (pc' : RefundPc) : Prop where
  shared : providerCalls.shared w'
  own : RefundCalls w'.refundLog pc'
  others : ∀ q, RefundCalls w.refundLog q → (∀ id, pc.holds = some id → q.holds ≠ some id) →
    RefundCalls w'.refundLog q

theorem RefundCalls.of_idle {log : List RefundEvent} (h : pc.mayGiveBack = none) :
    RefundCalls log pc where
  cleared id hid := by cases pc <;> cases hid <;> cases h
  resolved id hid := by cases h.symm.trans hid

theorem mayGiveBack_of_holds (h : pc.holds = none) : pc.mayGiveBack = none := by
  cases pc <;> first | rfl | cases h

/-- An event that is no call for the order a process may give back. -/
theorem RefundCalls.snoc {log : List RefundEvent} {e : RefundEvent} (h : RefundCalls log pc)
    (he : ∀ id, pc.holds = some id → ∀ provider ref r, e ≠ .called id provider ref r) :
    RefundCalls (log ++ [e]) pc where
  cleared id hid := (h.cleared id hid).snoc_length fun _ _ _ =>
    he id (RefundPc.holds_of_mayRevert hid) _ _ _
  resolved id hid := (h.resolved id hid).snoc fun _ _ =>
    he id (RefundPc.holds_of_mayGiveBack hid) _ _ _

theorem CallsOk.snoc {log : List RefundEvent} {o : OrderId} {d : Order} {e : RefundEvent}
    (h : CallsOk log o d) (he : ∀ provider ref r, e ≠ .called o provider ref r) :
    CallsOk (log ++ [e]) o d where
  resolved hs := (h.resolved hs).snoc fun _ _ => he _ _ _
  cleared hs hf := (h.cleared hs hf).snoc_length fun _ _ _ => he _ _ _
  flagged hf := (h.flagged hf).snoc fun _ _ _ => he _ _ _

/-- Writes of orders that leave their histories true of them. -/
theorem callsKept_of_orders (h : providerCalls.shared w) (hlog : w'.refundLog = w.refundLog)
    (hnone : ∀ o, w'.orders.get o = none → w.orders.get o = none)
    (hd : ∀ o d', w'.orders.get o = some d' → CallsOk w.refundLog o d')
    (hown : RefundCalls w.refundLog pc') : CallsKept w pc w' pc' := by
  refine ⟨⟨hlog ▸ h.1, fun o d' hd' => hlog ▸ hd o d' hd', fun o ho => ?_⟩, hlog ▸ hown,
    fun q hq _ => hlog ▸ hq⟩
  rw [hlog]
  exact h.2.2 o (hnone o ho)

theorem get_modifyOrder_none {id o : OrderId} {g : Order → Order}
    (h : (w.modifyOrder id g).orders.get o = none) : w.orders.get o = none := by
  by_cases ho : id = o
  · subst ho
    rwa [World.modifyOrder, Collection.get_modify_self, Option.map_eq_none_iff] at h
  · rwa [World.modifyOrder, Collection.get_modify_ne ho] at h

/-- One order is written; its new document agrees with its history. -/
theorem callsKept_modifyOrder {id : OrderId} {g : Order → Order} (h : providerCalls.shared w)
    (hg : ∀ d, w.orders.get id = some d → CallsOk w.refundLog id (g d))
    (hown : RefundCalls w.refundLog pc') : CallsKept w pc (w.modifyOrder id g) pc' := by
  refine callsKept_of_orders h rfl (fun o => get_modifyOrder_none) (fun o d' hd' => ?_) hown
  rcases Collection.get_modify_cases hd' with ⟨rfl, d, hd, rfl⟩ | ⟨_, hd⟩
  · exact hg d hd
  · exact h.2.1 o d' hd

/-- An order reads `REFUNDED` and unflagged: its history puts no demand on it. -/
theorem CallsOk.of_refunded {log : List RefundEvent} {o : OrderId} {d : Order}
    (hs : d.status = .refunded) (hf : d.refundReconciliationRequired = false) : CallsOk log o d :=
  ⟨fun h => absurd hs h, fun h => absurd hs h, fun h => by cases hf.symm.trans h⟩

/-- One order is written and an event of it recorded. -/
theorem callsKept_event {id : OrderId} {e : RefundEvent} (h : providerCalls.shared w)
    (hlog : w'.refundLog = w.refundLog ++ [e])
    (hother : ∀ o, o ≠ id → w'.orders.get o = w.orders.get o)
    (he : ∀ o, o ≠ id → ∀ provider ref r, e ≠ .called o provider ref r)
    (honce : ∀ o provider ref r, e = .called o provider ref r →
      NoneResolved w.refundLog o ∧ UnknownsCleared w.refundLog o w.refundLog.length)
    (hd : ∀ d', w'.orders.get id = some d' → CallsOk (w.refundLog ++ [e]) id d')
    (hnone : w'.orders.get id = none → w.orders.get id = none ∧
      ∀ provider ref r, e ≠ .called id provider ref r)
    (hown : RefundCalls w'.refundLog pc')
    (hq : ∀ q : RefundPc, (∀ i, pc.holds = some i → q.holds ≠ some i) → q.holds = some id →
      ∀ provider ref r, e ≠ .called id provider ref r) : CallsKept w pc w' pc' := by
  refine ⟨⟨hlog ▸ h.1.snoc honce, fun o d' hd' => ?_, fun o ho r i hc => ?_⟩, hown,
    fun q hcalls hne => ?_⟩
  · rw [hlog]
    by_cases ho : o = id
    · subst ho
      exact hd d' hd'
    · exact (h.2.1 o d' (hother o ho ▸ hd')).snoc (he o ho)
  · rw [hlog] at hc
    by_cases hid : o = id
    · subst hid
      rcases hc.snoc_cases with hc | ⟨_, provider, ref, hc⟩
      · exact h.2.2 o (hnone ho).1 r i hc
      · exact (hnone ho).2 provider ref r hc
    · rcases hc.snoc_cases with hc | ⟨_, provider, ref, hc⟩
      · exact h.2.2 o (hother o hid ▸ ho) r i hc
      · exact he o hid provider ref r hc
  · rw [hlog]
    refine hcalls.snoc fun i hi => ?_
    by_cases hid : i = id
    · subst hid
      exact hq q hne hi
    · exact he i hid

/-- Somebody who waits for the provider may call it. -/
theorem callsKept_called {id : OrderId} {order : Order} {ref : String} {prev : OrderStatus}
    {reply : RefundReply} (hk : RefundKnows w (.adapter id order ref prev))
    (h : providerCalls.shared w) (hc : RefundCalls w.refundLog (.adapter id order ref prev)) :
    CallsKept w (.adapter id order ref prev) (w.log (.called id order.paymentProvider ref reply))
      (RefundPc.afterRefund id order prev reply) := by
  obtain ⟨d, hd, hclaimed⟩ := hk.claimed id rfl
  refine callsKept_event h rfl (fun _ _ => rfl) (fun o ho _ _ _ he => ?_) (fun o _ _ _ he => ?_)
    (fun d' hd' => ?_) (fun hnone => ?_) ?_ (fun q hne hq => absurd hq (hne id rfl))
  · cases he
    exact ho rfl
  · cases he
    exact ⟨hc.resolved id rfl, hc.cleared id rfl⟩
  · obtain rfl := Option.some.inj (hd.symm.trans hd')
    exact .of_refunded hclaimed.status hclaimed.unflagged
  · cases hd.symm.trans hnone
  · cases reply with
    | resolved => exact .of_idle rfl
    | unknown m =>
      refine ⟨fun _ hid => (by cases hid), fun id' hid => ?_⟩
      cases hid
      exact (hc.resolved id rfl).snoc fun _ _ => (by simp)
    | failed m =>
      refine ⟨fun id' hid => ?_, fun id' hid => ?_⟩
      · cases hid
        exact (hc.cleared id rfl).snoc_length fun _ _ _ => (by simp)
      · cases hid
        exact (hc.resolved id rfl).snoc fun _ _ => (by simp)

/-- The flag is set after every call whose outcome nobody knows. -/
theorem unknownsFlagged_snoc {log : List RefundEvent} {o : OrderId} :
    UnknownsFlagged (log ++ [.flagged o]) o := by
  intro m i hi
  rcases hi.snoc_cases with hi | ⟨_, _, _, hi⟩
  · exact ⟨log.length, hi.lt, List.getElem?_concat_length⟩
  · cases hi

/-- A no that was issued after the last flag clears every outcome before it. -/
theorem unknownsCleared_snoc {log : List RefundEvent} {o : OrderId} {issued : Nat}
    (hf : UnknownsFlagged log o) (h : (log.drop issued).all (· != .flagged o) = true) :
    UnknownsCleared (log ++ [.cleared o issued]) o (log.length + 1) := by
  intro m i _ hi
  rcases hi.snoc_cases with hi | ⟨_, _, _, hi⟩
  · obtain ⟨n, hn, hflag⟩ := hf m i hi
    exact ⟨n, issued, log.length, hn, getElem?_snoc hflag, flagged_before h hflag,
      List.getElem?_concat_length, Nat.lt_succ_self _⟩
  · cases hi

/-- **A move of the refund flow** keeps the calls of the provider in order, unless it
clears a flag that was set after the admin's no was issued. -/
theorem refund_calls (hm : RefundMove w pc r w' pc') (hk : RefundKnows w pc)
    (h : providerCalls.shared w) (hc : RefundCalls w.refundLog pc)
    (hfresh : ∀ id issued d, pc = .resolveSave id issued → (∃ db, r = .db db ∧ db.wrote = true) →
      w.orders.get id = some d → d.refundReconciliationRequired = true →
      (w.refundLog.drop issued).all (· != .flagged id) = true) : CallsKept w pc w' pc' := by
  have same : ∀ {pc'}, pc'.holds = none → CallsKept w pc w pc' := fun hpc =>
    callsKept_of_orders h rfl (fun _ ho => ho) h.2.1 (.of_idle (mayGiveBack_of_holds hpc))
  have refunded : ∀ {id : OrderId} {f : Order → Option Order} {d d' : Order},
      w.orders.get id = some d → f d = some d' → d'.status = .refunded →
      d'.refundReconciliationRequired = false → RefundCalls w.refundLog pc' →
      CallsKept w pc (w.updateOrder id f) pc' := by
    intro id f d d' hd hf hs hflag hown
    refine callsKept_modifyOrder h (fun d₁ hd₁ => ?_) hown
    obtain rfl := Option.some.inj (hd.symm.trans hd₁)
    rw [hf, Option.getD_some]
    exact .of_refunded hs hflag
  cases hm with
  | idle _ hpc' => exact same hpc'
  | lost written message => exact same rfl
  | @claimed id order d d' ref r pc' hd hclaim hpc =>
    obtain ⟨⟨hs, _, hf⟩, rfl⟩ := Order.claimForRefund_eq_some.mp hclaim
    refine refunded hd hclaim rfl hf ?_
    rcases hpc with rfl | ⟨_, rfl⟩
    · have hne : d.status ≠ .refunded := fun he => by rw [he] at hs; revert hs; decide
      refine ⟨fun id' hid => ?_, fun id' hid => ?_⟩
      · cases hid
        exact (h.2.1 id d hd).cleared hne hf
      · cases hid
        exact (h.2.1 id d hd).resolved hne
    · exact .of_idle rfl
  | called id order ref prev reply => exact callsKept_called hk h hc
  | @flagged id order d d' prev reason r pc' hd hflag hpc =>
    obtain ⟨_, rfl⟩ := Order.flagAmbiguousRefund_eq_some.mp hflag
    refine callsKept_event h rfl (fun o ho => Collection.get_modify_ne ho.symm)
      (fun _ _ _ _ _ he => by cases he) (fun _ _ _ _ he => by cases he) (fun d₁ hd₁ => ?_)
      (fun hnone => ⟨get_modifyOrder_none hnone, fun _ _ _ he => by cases he⟩)
      (.of_idle (mayGiveBack_of_holds hpc)) (fun _ _ _ _ _ _ he => by cases he)
    obtain rfl := Option.some.inj ((get_updateOrder hd hflag).symm.trans hd₁)
    exact ⟨fun _ => (hc.resolved id rfl).snoc fun _ _ => (by simp),
      fun _ hf => (by cases hf), fun _ => unknownsFlagged_snoc⟩
  | unflagged _ hpc => exact same hpc
  | @reverted id order prev message r pc' hpc =>
    obtain ⟨d, hd, hclaimed⟩ := hk.claimed id rfl
    refine callsKept_modifyOrder h (fun d₁ hd₁ => ?_) (.of_idle (mayGiveBack_of_holds hpc))
    obtain rfl := Option.some.inj (hd.symm.trans hd₁)
    simp only [Order.revertFailedRefundClaim, if_pos (And.intro hclaimed.status hclaimed.paid),
      Option.getD_some]
    exact ⟨fun _ => hc.resolved id rfl, fun _ _ => hc.cleared id rfl,
      fun hf => by cases hclaimed.unflagged.symm.trans hf⟩
  | disputed hpc =>
    refine callsKept_modifyOrder h (fun d hd => ?_) (.of_idle (mayGiveBack_of_holds hpc))
    exact ⟨(h.2.1 _ d hd).resolved, (h.2.1 _ d hd).cleared, (h.2.1 _ d hd).flagged⟩
  | @webhookClaimed id d d' r pc' hd hclaim hpc =>
    obtain ⟨⟨_, _, hf⟩, rfl⟩ := Order.claimForRefund_eq_some.mp hclaim
    refine refunded hd hclaim rfl hf (.of_idle ?_)
    rcases hpc with rfl | ⟨_, rfl⟩ <;> rfl
  | @cleared id issued db pc' hwrote hpc =>
    refine callsKept_event h rfl (fun o ho => Collection.get_modify_ne ho.symm)
      (fun _ _ _ _ _ he => by cases he) (fun _ _ _ _ he => by cases he) (fun d₁ hd₁ => ?_)
      (fun hnone => ⟨get_modifyOrder_none hnone, fun _ _ _ he => by cases he⟩)
      (.of_idle (mayGiveBack_of_holds hpc)) (fun _ _ _ _ _ _ he => by cases he)
    rcases Collection.get_modify_cases hd₁ with ⟨_, d, hd, rfl⟩ | ⟨hne, _⟩
    · have hd' := h.2.1 id d hd
      refine ⟨fun hs => (hd'.resolved hs).snoc fun _ _ => (by simp), fun hs _ => ?_,
        fun hf => by cases hf⟩
      cases hf : d.refundReconciliationRequired with
      | false => exact (hd'.cleared hs hf).snoc_length fun _ _ _ => (by simp)
      | true =>
        rw [List.length_append, List.length_singleton]
        exact unknownsCleared_snoc (hd'.flagged hf) (hfresh id issued d rfl ⟨db, rfl, hwrote⟩ hd hf)
    · exact absurd rfl hne
  | @reconciled id d d' r pc' hd hclaim hpc =>
    obtain ⟨_, rfl⟩ := Order.claimReconciledRefund_eq_some.mp hclaim
    refine refunded hd hclaim rfl rfl (.of_idle ?_)
    rcases hpc with rfl | ⟨_, rfl⟩ <;> rfl
  | gone _ hpc => exact same hpc
  | readBack hd => exact callsKept_of_orders h rfl (fun _ ho => ho) h.2.1 (.of_idle rfl)
  | @finalized id order r pc' hpc =>
    obtain ⟨d, hd, hclaimed⟩ := hk.claimed id rfl
    refine callsKept_modifyOrder h (fun d₁ hd₁ => ?_) (.of_idle ?_)
    · obtain rfl := Option.some.inj (hd.symm.trans hd₁)
      exact .of_refunded hclaimed.status hclaimed.unflagged
    · rcases hpc with rfl | ⟨_, rfl⟩
      · rw [RefundPc.afterFinalize]
        split <;> rfl
      · rfl
  | recorded hpc =>
    exact callsKept_of_orders h rfl (fun _ ho => ho) h.2.1 (.of_idle (mayGiveBack_of_holds hpc))

end Step

/-! ## Runs -/

section Runs

/-- A step that leaves alone what refunds rest on. -/
theorem callsShared_sameRefunds {w w' : World} (h : providerCalls.shared w)
    (hw : w.SameRefunds w') : providerCalls.shared w' := by
  refine ⟨hw.log ▸ h.1, fun o d' hd' => ?_, fun o ho r i hc => ?_⟩
  · obtain ⟨d, hd, he⟩ := hw.symm.order hd'
    obtain ⟨hs, _, hf, _⟩ := Order.fields_of_withoutClaims he
    have hok := h.2.1 o d hd
    rw [hw.log]
    exact ⟨fun hne => hok.resolved (hs ▸ hne), fun hne hf' => hok.cleared (hs ▸ hne) (hf ▸ hf'),
      fun hf' => hok.flagged (hf ▸ hf')⟩
  · rw [hw.log] at hc
    have hnone : w.orders.get o = none := by
      cases hd : w.orders.get o with
      | none => rfl
      | some d =>
        obtain ⟨d', hd', _⟩ := hw.order hd
        cases ho.symm.trans hd'
    exact h.2.2 o hnone r i hc

/-- Writes of the environment: orders are placed and moved along. -/
theorem callsShared_env {dir : Directory} {w w' : World} {e : EnvEvent}
    (h : providerCalls.shared w) (hw : envStep dir w e = some w') :
    providerCalls.shared w' ∧ w'.refundLog = w.refundLog := by
  rcases env_cases hw with ⟨d, _, hs, _, hf, rfl⟩ | ⟨id, d, d', hd, hprog, rfl⟩ |
    ⟨ho, _, _, _, hlog⟩
  · refine ⟨⟨h.1, fun o d' hd' => ?_, fun o ho => ?_⟩, rfl⟩
    · rcases Collection.get_create_cases hd' with ⟨rfl, rfl⟩ | ⟨_, hd'⟩
      · have hno := h.2.2 _ (Collection.get_nextId (c := w.orders))
        exact ⟨fun _ i => hno _ i, fun _ _ m i _ hc => absurd hc (hno _ i),
          fun hf' => by cases hf.symm.trans hf'⟩
      · exact h.2.1 o d' hd'
    · refine h.2.2 o ?_
      cases hd : w.orders.get o with
      | none => rfl
      | some d₁ => cases ho.symm.trans (Collection.get_create_of_get hd)
  · refine ⟨⟨h.1, fun o d₁ hd₁ => ?_, fun o ho => h.2.2 o (get_modifyOrder_none ho)⟩, rfl⟩
    rcases Collection.get_modify_cases hd₁ with ⟨rfl, _, _, rfl⟩ | ⟨_, hd₁⟩
    · have hok := h.2.1 id d hd
      have hne : d₁.status ≠ .refunded → d.status ≠ .refunded := fun hne hs =>
        hne ((hprog.settled (Or.inr hs)).trans hs)
      exact ⟨fun hs => hok.resolved (hne hs), fun hs hf => hok.cleared (hne hs) (hprog.flag ▸ hf),
        fun hf => hok.flagged (hprog.flag ▸ hf)⟩
    · exact h.2.1 o d₁ hd₁
  · exact ⟨⟨hlog ▸ h.1, fun o d hd => hlog ▸ h.2.1 o d (ho ▸ hd),
      fun o hd => hlog ▸ h.2.2 o (ho ▸ hd)⟩, hlog⟩

/-- **The provider is asked at most once**, step by step. -/
theorem calls_kept (dir : Directory) :
    providerCalls.Kept (system dir) (fun s e => FreshClear s e = true) refunds.Holds where
  spawn s k _ _ _ := by
    refine ⟨fun pc hpc => .of_idle ?_, fun _ _ => trivial⟩
    cases k with
    | runWeeklyBatch => cases hpc
    | resolveReconciliation id admin answer => cases hpc
    | refund request => cases request <;> cases hpc <;> rfl
  env s e w _ _ h hw := by
    obtain ⟨hshared, hlog⟩ := callsShared_env h.shared hw
    exact ⟨hshared, fun q hq pc hpc => hlog ▸ h.procs q hq pc hpc⟩
  run s i r p w p' hrefunds hfresh h hp hstep := by
    have payout : ∀ {w : World} {p' : Proc}, s.shared.SameRefunds w → p'.refunding = none →
        providerCalls.shared w ∧ providerCalls.proc w p' ∧ ∀ (j : Nat) (q : Proc), i ≠ j →
          s.procs[j]? = some q → providerCalls.proc s.shared q → providerCalls.compat p q →
            providerCalls.proc w q ∧ providerCalls.compat p' q := fun hw hnone =>
      ⟨callsShared_sameRefunds h.shared hw, fun pc hpc => (by cases hnone.symm.trans hpc),
        fun j q _ _ hq _ => ⟨fun pc hpc => hw.log ▸ hq pc hpc, trivial⟩⟩
    cases p with
    | batch pc =>
      obtain ⟨pc', hs, rfl⟩ := step_batch hstep
      exact payout (batch_sameRefunds hs) rfl
    | resolve pc =>
      obtain ⟨pc', hs, rfl⟩ := step_resolve hstep
      exact payout (resolve_sameRefunds hs) rfl
    | refund pc =>
      obtain ⟨pc', hs, rfl⟩ := step_refund hstep
      have hkept := refund_calls (refund_move hs) (hrefunds.at hp pc rfl) h.shared
        (h.at hp pc rfl) fun id issued d he hwrote hd hf => by
          obtain ⟨db, rfl, hwrote⟩ := hwrote
          subst he
          simpa [FreshClear, hp, hd, hf, hwrote] using hfresh
      refine ⟨hkept.shared, fun pc₁ hpc₁ => Option.some.inj hpc₁ ▸ hkept.own,
        fun j q hij hjq hq _ => ⟨fun pcq hpcq => hkept.others pcq (hq pcq hpcq) ?_, trivial⟩⟩
      intro id hid hq'
      refine hrefunds.compat i j _ q hij hp hjq id hid ?_
      rw [Proc.holds, hpcq, Option.bind_some, hq']

theorem calls_initial (vendors : List PayoutVendor) :
    providerCalls.Holds (Sys.initial vendors) :=
  Outline.holds_nil ⟨fun _ _ _ h => (not_calledAt_nil h).elim,
    fun _ _ hd => by simp [World.empty] at hd, fun _ _ _ _ h => not_calledAt_nil h⟩

/-- **Refund at most once**: in every run in which no
`resolveRefundReconciliation(false)` saves over a flag that was set after it was
issued, whatever else happens and whichever database calls fail. -/
theorem refund_at_most_once {dir : Directory} {vendors : List PayoutVendor} {s : Sys}
    (h : (system dir).Reach (fun s e => FreshClear s e = true) (Sys.initial vendors) s) :
    AtMostOnce s.shared.refundLog :=
  (Outline.holds_of_reach (calls_kept dir) (fun _ hs => refunds_reach hs)
    (calls_initial vendors) h).shared.1

/-- A refund of unknown outcome, an admin's no, and a second refund. -/
def refundedTwiceAskedRun : List SysEvent :=
  deliveredOrder 0 ++
  [.spawn (.refund (.refundOrder 0)), .run 0 (.db .ok), .run 0 (.db .ok),
    .run 0 (.refund (.unknown "timeout")), .run 0 (.db .ok),
    .spawn (.refund (.resolveRefundReconciliation 0 false)), .run 1 (.db .ok), .run 1 (.db .ok),
    .spawn (.refund (.refundOrder 0)), .run 2 (.db .ok), .run 2 (.db .ok),
    .run 2 (.refund .resolved)]

theorem refund_at_most_once_asked_again : ∃ s : Sys,
    s.shared.refundLog = [.called 0 .stripe "cs_1" (.unknown "timeout"), .flagged 0, .cleared 0 2,
      .called 0 .stripe "cs_1" .resolved] ∧ AtMostOnce s.shared.refundLog := by
  obtain ⟨s, hs, hp⟩ := exists_run FreshClear
    (fun s => decide (s.shared.refundLog = [.called 0 .stripe "cs_1" (.unknown "timeout"),
      .flagged 0, .cleared 0 2, .called 0 .stripe "cs_1" .resolved]))
    refundedTwiceAskedRun (by decide +kernel)
  exact ⟨s, of_decide_eq_true hp, refund_at_most_once hs⟩

/-- Two admins answer no to one flag.  The first answer lets the refund be tried
again, with an unknown outcome again; the second clears the flag of that one. -/
def staleClearRun : List SysEvent :=
  deliveredOrder 0 ++
  [.spawn (.refund (.refundOrder 0)), .run 0 (.db .ok), .run 0 (.db .ok),
    .run 0 (.refund (.unknown "timeout")), .run 0 (.db .ok),
    .spawn (.refund (.resolveRefundReconciliation 0 false)), .run 1 (.db .ok),
    .spawn (.refund (.resolveRefundReconciliation 0 false)), .run 2 (.db .ok), .run 1 (.db .ok),
    .spawn (.refund (.refundOrder 0)), .run 3 (.db .ok), .run 3 (.db .ok),
    .run 3 (.refund (.unknown "timeout")), .run 3 (.db .ok), .run 2 (.db .ok),
    .spawn (.refund (.refundOrder 0)), .run 4 (.db .ok), .run 4 (.db .ok),
    .run 4 (.refund .resolved)]

/-- The refund history of that run. -/
def staleClearLog : List RefundEvent :=
  [.called 0 .stripe "cs_1" (.unknown "timeout"), .flagged 0, .cleared 0 2,
    .called 0 .stripe "cs_1" (.unknown "timeout"), .flagged 0, .cleared 0 2,
    .called 0 .stripe "cs_1" .resolved]

theorem issued_of_staleClearLog {issued k : Nat} (h : ClearedAt staleClearLog 0 issued k) :
    issued = 2 := by
  have hmem := List.mem_of_getElem? h
  simpa [staleClearLog] using hmem

theorem not_atMostOnce_staleClearLog : ¬ AtMostOnce staleClearLog := by
  intro h
  obtain ⟨_, hclr⟩ := h 0 .resolved 6 ⟨.stripe, "cs_1", rfl⟩
  obtain ⟨n, issued, k, hn, _, hni, hk, _⟩ := hclr "timeout" 3 (by decide) ⟨.stripe, "cs_1", rfl⟩
  have := issued_of_staleClearLog hk
  omega

/-- **A stale no clears a newer flag**, and the provider is asked again. -/
theorem stale_clear_refunds_again :
    ¬ ∀ (dir : Directory) (vendors : List PayoutVendor) (s : Sys),
      (system dir).Reach (fun _ e => Faultless e = true) (Sys.initial vendors) s →
        AtMostOnce s.shared.refundLog := by
  intro hall
  obtain ⟨s, hs, hp⟩ := exists_run (fun _ e => Faultless e)
    (fun s => decide (s.shared.refundLog = staleClearLog)) staleClearRun (by decide +kernel)
  exact not_atMostOnce_staleClearLog (of_decide_eq_true hp ▸ hall _ _ s hs)

end Runs

end FoodDelivery
