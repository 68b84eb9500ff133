import FoodDelivery.Refunds.Exclusive

/-!
# What a call writes to one order

`RefundMove` says what a step of the refund flow does to the database.  Here is what is
left of it when only one order is looked at.

* `refundWrite_of_move`: a step of the refund flow makes one of a few writes to the order.
* `order_of_next`: so does any event of the platform, or it is progress outside the refund
  flow.
-/

namespace FoodDelivery

open Store Interleave

/-- The writes of the refund flow to the order `id`, from where they are made. -/
inductive RefundWrite (id : OrderId) (pc : RefundPc) (d : Order) : Order → Prop
  | unchanged : RefundWrite id pc d d
  | claimed {d' : Order} (h : d.claimForRefund = some d') : RefundWrite id pc d d'
  | flagged {order d' : Order} {prev : OrderStatus} {reason : String}
    (hpc : pc = .flag id order prev reason) (h : d.flagAmbiguousRefund prev reason = some d') :
    RefundWrite id pc d d'
  | reverted {order d' : Order} {prev : OrderStatus} {message : String}
    (hpc : pc = .revert id order prev message) (h : d.revertFailedRefundClaim prev = some d') :
    RefundWrite id pc d d'
  | disputed : RefundWrite id pc d d.flagDispute
  | cleared {issued : Nat} (hpc : pc = .resolveSave id issued) :
    RefundWrite id pc d d.saveRefundFlagCleared
  | reconciled {d' : Order} (h : d.claimReconciledRefund = some d') : RefundWrite id pc d d'
  | finalized {order : Order} (hpc : pc = .finalizeSave id order) (now : Time) :
    RefundWrite id pc d (d.saveFinalizedRefund now)

section Moves

variable {w w' : World} {id i : OrderId} {pc pc' : RefundPc} {r : Reply} {d : Order}

theorem get_modifyOrder_of {g : Order → Order} {P : Order → Prop} (hd : w.orders.get id = some d)
    (hsame : P d) (hg : i = id → P (g d)) :
    ∃ d', (w.modifyOrder i g).orders.get id = some d' ∧ P d' := by
  by_cases hi : i = id
  · refine ⟨g d, ?_, hg hi⟩
    rw [World.modifyOrder, hi, Collection.get_modify_self, hd, Option.map_some]
  · exact ⟨d, (Collection.get_modify_ne hi).trans hd, hsame⟩

theorem get_updateOrder_of {f : Order → Option Order} {P : Order → Prop}
    (hd : w.orders.get id = some d) (hsame : P d) (hf : ∀ d', i = id → f d = some d' → P d') :
    ∃ d', (w.updateOrder i f).orders.get id = some d' ∧ P d' := by
  refine get_modifyOrder_of hd hsame fun hi => ?_
  cases hfd : f d with
  | none => exact hsame
  | some d' => exact hf d' hi hfd

/-- **What a step of the refund flow does to one order.** -/
theorem refundWrite_of_move (hm : RefundMove w pc r w' pc') (hd : w.orders.get id = some d) :
    ∃ d', w'.orders.get id = some d' ∧ RefundWrite id pc d d' := by
  cases hm with
  | idle => exact ⟨d, hd, .unchanged⟩
  | lost => exact ⟨d, hd, .unchanged⟩
  | claimed => exact get_updateOrder_of hd .unchanged fun d' _ hf => .claimed hf
  | called => exact ⟨d, hd, .unchanged⟩
  | flagged =>
    refine get_updateOrder_of hd .unchanged fun d' hi hf => ?_
    subst hi
    exact .flagged rfl hf
  | unflagged => exact ⟨d, hd, .unchanged⟩
  | reverted =>
    refine get_updateOrder_of hd .unchanged fun d' hi hf => ?_
    subst hi
    exact .reverted rfl hf
  | disputed => exact get_modifyOrder_of hd .unchanged fun _ => .disputed
  | webhookClaimed => exact get_updateOrder_of hd .unchanged fun d' _ hf => .claimed hf
  | cleared =>
    refine get_modifyOrder_of hd .unchanged fun hi => ?_
    subst hi
    exact .cleared rfl
  | reconciled => exact get_updateOrder_of hd .unchanged fun d' _ hf => .reconciled hf
  | gone => exact ⟨d, hd, .unchanged⟩
  | readBack => exact ⟨d, hd, .unchanged⟩
  | finalized =>
    refine get_modifyOrder_of hd .unchanged fun hi => ?_
    subst hi
    exact .finalized rfl w.now
  | recorded => exact ⟨d, hd, .unchanged⟩

/-- What an event of the platform does to one order. -/
inductive OrderEvent (s : Sys) (e : SysEvent) (id : OrderId) (d : Order) : Order → Prop
  | progress {d' : Order} (h : Progress d d') : OrderEvent s e id d d'
  | claims {d' : Order} (h : d'.withoutClaims = d.withoutClaims) : OrderEvent s e id d d'
  | refund {i : Nat} {r : Reply} {pc : RefundPc} {d' : Order} (he : e = .run i r)
    (hp : s.procs[i]? = some (.refund pc)) (h : RefundWrite id pc d d') : OrderEvent s e id d d'

theorem orderEvent_of_sameRefunds {s : Sys} {e : SysEvent} (hw : s.shared.SameRefunds w')
    (hd : s.shared.orders.get id = some d) :
    ∃ d', w'.orders.get id = some d' ∧ OrderEvent s e id d d' := by
  obtain ⟨d', hd', hsame⟩ := hw.order hd
  exact ⟨d', hd', .claims hsame⟩

/-- **What an event does to one order**: progress, a payout's claim, or a write of a refund
call. -/
theorem order_of_next {dir : Directory} {s s' : Sys} {e : SysEvent}
    (hs : (system dir).next s e = some s') (hd : s.shared.orders.get id = some d) :
    ∃ d', s'.shared.orders.get id = some d' ∧ OrderEvent s e id d d' := by
  cases e with
  | spawn k =>
    cases hs
    exact ⟨d, hd, .claims rfl⟩
  | env a =>
    obtain ⟨w, hw, rfl⟩ := Machine.next_env hs
    rcases env_cases hw with ⟨d₁, _, _, _, _, rfl⟩ | ⟨i, d₁, d₂, hd₁, hprog, rfl⟩ | ⟨ho, _⟩
    · exact ⟨d, Collection.get_create_of_get hd, .claims rfl⟩
    · refine get_modifyOrder_of hd (.claims rfl) fun hi => ?_
      subst hi
      obtain rfl := Option.some.inj (hd₁.symm.trans hd)
      exact .progress hprog
    · exact ⟨d, ho ▸ hd, .claims rfl⟩
  | run i r =>
    obtain ⟨p, w, p', hp, hstep, rfl⟩ := Machine.next_run hs
    cases p with
    | batch pc =>
      obtain ⟨pc', hb, rfl⟩ := step_batch hstep
      exact orderEvent_of_sameRefunds (batch_sameRefunds hb) hd
    | resolve pc =>
      obtain ⟨pc', hb, rfl⟩ := step_resolve hstep
      exact orderEvent_of_sameRefunds (resolve_sameRefunds hb) hd
    | refund pc =>
      obtain ⟨pc', hb, rfl⟩ := step_refund hstep
      obtain ⟨d', hd', hwrite⟩ := refundWrite_of_move (refund_move hb) hd
      exact ⟨d', hd', .refund rfl hp hwrite⟩

end Moves

end FoodDelivery
