import FoodDelivery.Auth.Sessions

/-!
# Revocation

`resetPassword`, `changePassword` and `suspend` write the user, and then revoke the tokens that are
there at that moment.  A login or a refresh that has made its checks before creates its token after,
and nobody looks at it again.

* `revocation`: every unrevoked token, and every call about to create one, goes back to a login that
  looked the user up after the writes that have been revoked for.
* `revocation_complete`: what is left where a revocation is through.
* `outlives_the_password`: a refresh that is under way outlives a change of the password.
-/

namespace FoodDelivery

open Store Interleave SessionPc

/-- No call that is past its checks for a user, and whose login looked the user up before a write,
has its token still to create when the tokens are revoked for that write; and a refresh passes its
check of the user only if the tokens of its login have not been revoked since. -/
def ClearOfSweeps (s : SessionPool) : SessionEvent → Bool
  | .run i _ =>
    match s.procs[i]? with
    | some (.sweep userId write) =>
      s.procs.all fun q => q.issuing.all fun x => x.1 ≠ userId || write ≤ x.2
    | some (.refreshUser _ stored) =>
      (s.shared.users.get stored.userId).all fun user =>
        user.status = .suspended || s.shared.swept stored.userId ≤ stored.ticket
    | _ => true
  | _ => true

/-- Where a call has revoked the tokens of a user, each one left goes back to a login that looked
the user up after what the call wrote. -/
def RevokedThrough (s : SessionPool) : Prop :=
  ∀ userId write i t, .revoked userId write ∈ s.procs → s.shared.refreshTokens.get i = some t →
    t.userId = userId → t.revokedAt = none → write ≤ t.ticket

/-- The tokens, as far as they have been revoked. -/
structure SweptTokens (s : Sessions) : Prop where
  behind : ∀ userId, s.swept userId ≤ s.written userId
  tokens : ∀ i t, s.refreshTokens.get i = some t → t.revokedAt = none →
    s.swept t.userId ≤ t.ticket

/-- What a call knows of the writes and of the revocations. -/
structure KnowsSweeps (s : Sessions) (pc : SessionPc) : Prop where
  issuing : ∀ userId ticket, pc.issuing = some (userId, ticket) → s.swept userId ≤ ticket
  revoking : ∀ userId write, pc.revoking = some (userId, write) → write ≤ s.written userId
  revoked : ∀ userId write, pc = .revoked userId write → write ≤ s.swept userId

section Steps

variable {s s' : Sessions} {pc : SessionPc} {t : RefreshToken} {userId : UserId} {write : Nat}
  {now : Time}

theorem KnowsSweeps.of_idle (hissuing : pc.issuing = none) (hrevoking : pc.revoking = none) :
    KnowsSweeps s pc where
  issuing _ _ h := by cases hissuing.symm.trans h
  revoking _ _ h := by cases hrevoking.symm.trans h
  revoked _ _ h := by subst h; cases hrevoking

theorem KnowsSweeps.of_quiet (h : pc.quiet = true) : KnowsSweeps s pc :=
  .of_idle (eq_none_of_quiet h).2.1 (eq_none_of_quiet h).2.2

/-- Only writes are new. -/
theorem KnowsSweeps.mono (h : KnowsSweeps s pc) (hswept : s'.swept = s.swept)
    (hwritten : ∀ u, s.written u ≤ s'.written u) : KnowsSweeps s' pc where
  issuing u ticket hi := by rw [hswept]; exact h.issuing u ticket hi
  revoking u e hr := Nat.le_trans (h.revoking u e hr) (hwritten u)
  revoked u e hpc := by rw [hswept]; exact h.revoked u e hpc

theorem SweptTokens.rewrites (h : SweptTokens s) (hw : s.Rewrites s')
    (hswept : s'.swept = s.swept) (hwritten : ∀ u, s.written u ≤ s'.written u) :
    SweptTokens s' where
  behind u := by rw [hswept]; exact Nat.le_trans (h.behind u) (hwritten u)
  tokens i t' ht' hnone := by
    obtain ⟨t, ht, hu, _, _, hticket, hback⟩ := hw.origin i t' ht'
    rw [hswept, hu, hticket]
    exact h.tokens i t ht (hback hnone)

theorem SweptTokens.insertToken (h : SweptTokens s) (ht : s.swept t.userId ≤ t.ticket) :
    SweptTokens (s.insertToken t) where
  behind := h.behind
  tokens i t' ht' hnone := by
    rcases Collection.get_create_cases ht' with ⟨_, rfl⟩ | ⟨_, hold⟩
    · exact ht
    · exact h.tokens i t' hold hnone

theorem le_written_countWrite (u : UserId) : s.written u ≤ (s.countWrite userId).written u := by
  show s.written u ≤ Function.update s.written userId (s.written userId + 1) u
  rw [Function.update_apply]
  split
  · next he => rw [he]; exact Nat.le_succ _
  · exact Nat.le_refl _

theorem written_countWrite : (s.countWrite userId).written userId = s.written userId + 1 :=
  Function.update_self _ _ _

theorem swept_countSweep : (s.countSweep userId write).swept userId =
    max (s.swept userId) write := Function.update_self _ _ _

theorem swept_countSweep_ne {u : UserId} (h : u ≠ userId) :
    (s.countSweep userId write).swept u = s.swept u := Function.update_of_ne h _ _

/-- **The tokens are revoked up to the write of the call.** -/
theorem SweptTokens.sweep (h : SweptTokens s) (hwrite : write ≤ s.written userId) :
    SweptTokens ((s.revokeAll userId now).countSweep userId write) where
  behind u := by
    by_cases hu : u = userId
    · rw [hu, swept_countSweep]
      exact Nat.max_le.mpr ⟨h.behind userId, hwrite⟩
    · rw [swept_countSweep_ne hu]
      exact h.behind u
  tokens i t' ht' hnone := by
    have hne : t'.userId ≠ userId := fun hu => Sessions.revoked_of_revokeAll ht' hu hnone
    obtain ⟨t, ht, hu, _, _, hticket, hback⟩ := Sessions.rewrites_revokeAll.origin i t' ht'
    rw [swept_countSweep_ne hne, hu, hticket]
    exact h.tokens i t ht (hback hnone)

/-- Another call, when the tokens are revoked up to a write that its login has seen. -/
theorem KnowsSweeps.sweep (h : KnowsSweeps s pc)
    (hclear : ∀ ticket, pc.issuing = some (userId, ticket) → write ≤ ticket) :
    KnowsSweeps ((s.revokeAll userId now).countSweep userId write) pc where
  issuing u ticket hi := by
    by_cases hu : u = userId
    · subst hu
      rw [swept_countSweep]
      exact Nat.max_le.mpr ⟨h.issuing u ticket hi, hclear ticket hi⟩
    · rw [swept_countSweep_ne hu]
      exact h.issuing u ticket hi
  revoking := h.revoking
  revoked u e hpc := by
    refine Nat.le_trans (h.revoked u e hpc) ?_
    by_cases hu : u = userId
    · subst hu
      rw [swept_countSweep]
      exact Nat.le_max_left _ _
    · rw [swept_countSweep_ne hu]
      exact Nat.le_refl _

end Steps

section Runs

variable {cfg : AuthConfig} {s : SessionPool} {w : Sessions} {pc pc' : SessionPc}
  {r : SessionReply} {raw : RefreshTokenId} {stored : RefreshToken} {userId : UserId}
  {write : Nat} {i : Nat}

def revocation : Outline Sessions SessionPc where
  shared := SweptTokens
  proc := KnowsSweeps
  compat _ _ := True
  symm _ _ _ := trivial

theorem seen_of_clear (h : ClearOfSweeps s (.run i r) = true)
    (hp : s.procs[i]? = some (.sweep userId write)) {q : SessionPc} {ticket : Nat}
    (hq : q ∈ s.procs) (hi : q.issuing = some (userId, ticket)) : write ≤ ticket := by
  simp only [ClearOfSweeps, hp, List.all_eq_true] at h
  have hall := h q hq
  rw [hi, Option.all_some, Bool.or_eq_true, decide_eq_true_eq, decide_eq_true_eq] at hall
  exact hall.resolve_left fun hne => hne rfl

theorem unswept_of_clear (h : ClearOfSweeps s (.run i r) = true)
    (hp : s.procs[i]? = some (.refreshUser raw stored)) {user : User}
    (hget : s.shared.users.get stored.userId = some user) (hactive : user.status ≠ .suspended) :
    s.shared.swept stored.userId ≤ stored.ticket := by
  simp only [ClearOfSweeps, hp, hget, Option.all_some, Bool.or_eq_true, decide_eq_true_eq] at h
  exact h.resolve_left hactive

/-- A step that revokes at most, and counts nothing as revoked. -/
theorem revocation_rewrites (h : revocation.Holds s) (hw : s.shared.Rewrites w)
    (hswept : w.swept = s.shared.swept) (hwritten : ∀ u, s.shared.written u ≤ w.written u)
    (hown : KnowsSweeps w pc') : revocation.shared w ∧ revocation.proc w pc' ∧
      ∀ j q, i ≠ j → s.procs[j]? = some q → revocation.proc s.shared q →
        revocation.compat pc q → revocation.proc w q ∧ revocation.compat pc' q :=
  ⟨h.shared.rewrites hw hswept hwritten, hown,
    fun _ _ _ _ hq _ => ⟨hq.mono hswept hwritten, trivial⟩⟩

/-- A call that creates the token it may create. -/
theorem revocation_issues (h : revocation.Holds s) {t : RefreshToken}
    (ht : s.shared.swept t.userId ≤ t.ticket) (hissuing : pc'.issuing = none)
    (hrevoking : pc'.revoking = none) :
    revocation.shared (s.shared.insertToken t) ∧ revocation.proc (s.shared.insertToken t) pc' ∧
      ∀ j q, i ≠ j → s.procs[j]? = some q → revocation.proc s.shared q →
        revocation.compat pc q →
          revocation.proc (s.shared.insertToken t) q ∧ revocation.compat pc' q :=
  ⟨h.shared.insertToken ht, .of_idle hissuing hrevoking,
    fun _ _ _ _ hq _ => ⟨hq.mono rfl fun _ => Nat.le_refl _, trivial⟩⟩

/-- **Calls that are clear of the revocations keep the tokens behind them.** -/
theorem revocation_kept (cfg : AuthConfig) :
    revocation.Kept (sessions cfg) (fun s e => ClearOfSweeps s e = true) fun _ => True where
  spawn s k _ _ _ := ⟨.of_quiet (quiet_start k), fun _ _ => trivial⟩
  env s e w _ _ h hw := by
    obtain ⟨htokens, hwritten, hswept⟩ := envSessions_tokens hw
    have hle : ∀ u, s.shared.written u ≤ w.written u := fun u => by rw [hwritten]
    exact ⟨h.shared.rewrites (.of_eq htokens) hswept hle,
      fun q hq => (h.procs q hq).mono hswept hle⟩
  run s i r pc w pc' _ hok h hp hstep := by
    have hsame : ∀ u, s.shared.written u ≤ s.shared.written u := fun _ => Nat.le_refl _
    cases session_move hstep with
    | found id =>
      refine revocation_rewrites h (.of_eq rfl) rfl hsame
        ⟨fun u ticket hi => ?_, fun _ _ hr => (by cases hr), fun _ _ he => by cases he⟩
      cases hi
      exact h.shared.behind id
    | opened userId ticket =>
      exact revocation_issues h ((h.at hp).issuing userId ticket rfl) rfl rfl
    | presented hget hlive hvalid =>
      exact revocation_rewrites h (.of_eq rfl) rfl hsame (.of_idle rfl rfl)
    | reused userId => exact revocation_rewrites h (.of_eq rfl) rfl hsame (.of_idle rfl rfl)
    | family userId =>
      exact revocation_rewrites h Sessions.rewrites_revokeAll rfl hsame (.of_idle rfl rfl)
    | admitted hget hactive =>
      refine revocation_rewrites h (.of_eq rfl) rfl hsame
        ⟨fun u ticket hi => ?_, fun _ _ hr => (by cases hr), fun _ _ he => by cases he⟩
      cases hi
      exact unswept_of_clear hok hp hget hactive
    | redeemed raw stored =>
      exact revocation_issues h ((h.at hp).issuing stored.userId stored.ticket rfl) rfl rfl
    | saved raw child =>
      exact revocation_rewrites h Sessions.rewrites_save rfl hsame (.of_idle rfl rfl)
    | loggedOut raw =>
      exact revocation_rewrites h Sessions.rewrites_logout rfl hsame (.of_idle rfl rfl)
    | wrote id =>
      refine revocation_rewrites h (.of_eq rfl) rfl le_written_countWrite
        ⟨fun _ _ hi => (by cases hi), fun u e hr => ?_, fun _ _ he => by cases he⟩
      cases hr
      exact Nat.le_of_eq written_countWrite.symm
    | swept userId write =>
      have hwrite := (h.at hp).revoking userId write rfl
      refine ⟨h.shared.sweep hwrite, ⟨fun _ _ hi => (by cases hi), fun u e hr => ?_,
        fun u e he => ?_⟩, fun j q _ hj hq _ => ⟨hq.sweep fun ticket hi => ?_, trivial⟩⟩
      · cases hr
        exact hwrite
      · cases he
        rw [swept_countSweep]
        exact Nat.le_max_right _ _
      · exact seen_of_clear hok hp (List.mem_of_getElem? hj) hi
    | other htokens hwritten hswept hquiet =>
      exact revocation_rewrites h (.of_eq htokens) hswept (fun u => by rw [hwritten])
        (.of_quiet hquiet)

theorem revocation_initial : revocation.Holds SessionPool.initial := by
  refine Outline.holds_nil ⟨fun _ => Nat.le_refl _, fun i t ht => ?_⟩
  have hnone : Sessions.empty.refreshTokens.get i = none := Collection.get_empty
  cases hnone.symm.trans ht

/-- **Revocation is complete where no token is created across it**: for any number of logins,
refreshes, logouts and calls that revoke, in any order of their steps. -/
theorem revocation_complete (cfg : AuthConfig) {s : SessionPool}
    (h : (sessions cfg).Reach (fun s e => ClearOfSweeps s e = true) SessionPool.initial s) :
    RevokedThrough s := by
  have hholds := Outline.holds_of_reach (revocation_kept cfg) (fun _ _ => trivial)
    revocation_initial h
  intro userId write i t hmem ht hu hnone
  calc write
      ≤ s.shared.swept userId := (hholds.procs _ hmem).revoked userId write rfl
    _ ≤ t.ticket := hu ▸ hholds.shared.tokens i t ht hnone

/-- The password is changed between two logins. -/
def changedRun : List SessionEvent :=
  loggedInRun ++ .spawn (.changePassword 0 "first" "$2b$second") :: sessionTurns [1, 1, 1] ++
    .spawn (.login "ada@example.com" "second") :: sessionTurns [2, 2]

theorem revocation_complete_changed : ∃ s : SessionPool,
    (s.shared.refreshTokens.get 0).any (fun t : RefreshToken => t.revokedAt.isSome) = true ∧
      (s.shared.refreshTokens.get 1).any (fun t : RefreshToken => t.revokedAt.isNone) = true ∧
      RevokedThrough s := by
  obtain ⟨s, hs, hp⟩ := exists_sessionRun ClearOfSweeps
    (fun s => (s.shared.refreshTokens.get 0).any (fun t : RefreshToken => t.revokedAt.isSome) &&
      (s.shared.refreshTokens.get 1).any fun t : RefreshToken => t.revokedAt.isNone)
    changedRun (by decide +kernel)
  rw [Bool.and_eq_true] at hp
  exact ⟨s, hp.1, hp.2, revocation_complete plainAuth hs⟩

/-- A refresh has made its checks when the password is changed and the tokens are revoked, and
creates its token after that. -/
def outlivesRun : List SessionEvent :=
  loggedInRun ++ .spawn (.refresh 0) :: sessionTurns [1, 1] ++
    .spawn (.changePassword 0 "first" "$2b$second") :: sessionTurns [2, 2, 2, 1, 1]

/-- **A token of the old session is there when every call is over.** -/
theorem outlives_the_password :
    ¬ ∀ s, (sessions plainAuth).Reach (fun _ _ => True) SessionPool.initial s →
      (∀ pc ∈ s.procs, pc.isOver = true) → RevokedThrough s := by
  intro hall
  obtain ⟨s, hs, hp⟩ := exists_sessionRun (fun _ _ => true)
    (fun s => s.procs.all (fun pc => pc.isOver) &&
      ((s.procs[2]?).any (fun pc => pc.isOver && pc.revoking = some (0, 1)) &&
        (s.shared.refreshTokens.get 1).any fun t : RefreshToken =>
          t.userId = 0 && (t.revokedAt.isNone && t.ticket = 0))) outlivesRun (by decide +kernel)
  rw [Bool.and_eq_true, Bool.and_eq_true, List.all_eq_true, Option.any_eq_true,
    Option.any_eq_true] at hp
  obtain ⟨hover, ⟨pc, hpc, hrevoked⟩, ⟨t, ht, hpt⟩⟩ := hp
  rw [Bool.and_eq_true, decide_eq_true_eq] at hrevoked
  rw [Bool.and_eq_true, Bool.and_eq_true, decide_eq_true_eq, decide_eq_true_eq,
    Option.isNone_iff_eq_none] at hpt
  have hmem : .revoked 0 1 ∈ s.procs := by
    obtain ⟨hdone, hwrite⟩ := hrevoked
    cases pc <;> cases hwrite <;> first | exact List.mem_of_getElem? hpc | cases hdone
  have hle := hall s (hs.mono fun _ _ _ => trivial) hover 0 1 1 t hmem ht hpt.1 hpt.2.1
  rw [hpt.2.2] at hle
  cases hle

end Runs

end FoodDelivery
