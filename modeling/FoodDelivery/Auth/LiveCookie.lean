import FoodDelivery.Auth.TabTokens

/-!
# The refresh cookie of a tab

A refresh that presents a revoked token makes the server revoke every session of the user.

* `OrderlyTab`: no refresh is in flight beside a sign-out or beside the refresh of the rider's page,
  no answer to a refresh or a sign-out is lost, and no other call revokes what the tab holds.
* `refresh_alone`: in an orderly run a refresh is in flight alone.
* `reuse_never_detected`: in an orderly run the server takes no refresh for a replay, and between
  refreshes the cookie is good.
-/

namespace FoodDelivery

open Store Interleave

/-! ## Orderly runs -/

/-- The tab holds this token, in its cookie or for one of its calls. -/
def TabPool.Mine (s : TabPool) (raw : RefreshTokenId) : Prop :=
  s.shared.cookie = some raw ∨
    ∃ pc ∈ s.procs, ∃ kind flight, pc.carried = some (kind, flight) ∧ flight.Mine raw

/-- No two refreshes are in flight, one of them without the mutex, and none beside a sign-out. -/
def RefreshesApart (s : TabPool) : Prop :=
  (s.procs.Pairwise fun p q => p.carries .refresh = true → q.carries .refresh = true →
    p.refreshesGuarded = true ∧ q.refreshesGuarded = true) ∧
  ∀ p ∈ s.procs, ∀ q ∈ s.procs, p.carries .refresh = true → q.carries .logout = false

/-- **An orderly event**: it leaves refreshes and sign-outs apart, it is not the loss of an answer
to one of them, and what other calls write leaves the tokens of the tab as good as they are. -/
structure OrderlyTab (cfg : AuthConfig) (s : TabPool) (e : TabEvent) : Prop where
  apart : ∀ s', (tab cfg).next s e = some s' → RefreshesApart s'
  heard : ∀ i r pc, e = .run i r → s.procs[i]? = some pc → r.lost = true →
    pc.carries .refresh = false ∧ pc.carries .logout = false
  others : ∀ sessions, e = .env sessions →
    s.shared.sessions.refreshTokens.nextId ≤ sessions.refreshTokens.nextId ∧
      ∀ raw, s.Mine raw → s.shared.sessions.Live raw → sessions.Live raw

section Runs

variable {cfg : AuthConfig} {s s' : TabPool} {sessions : Sessions}
  {cookie : Option RefreshTokenId}

theorem carries_of_carried {pc : TabPc} {kind : FlightKind} {flight : Flight}
    (h : pc.carried = some (kind, flight)) : pc.carries kind = true := by
  rw [TabPc.carries, h, Option.any_some, decide_eq_true rfl]

theorem apart_of_reach (h : (tab cfg).Reach (OrderlyTab cfg) (TabPool.loaded sessions cookie) s) :
    RefreshesApart s := by
  cases h with
  | start => exact ⟨List.Pairwise.nil, fun p hp => absurd hp List.not_mem_nil⟩
  | tail _ he hs => exact he.apart _ hs

/-- **A refresh is in flight alone**: beside it there is no other one, and no sign-out. -/
theorem refresh_alone (h : (tab cfg).Reach (OrderlyTab cfg) (TabPool.loaded sessions cookie) s)
    {i j : Nat} {p q : TabPc} (hij : i ≠ j) (hp : s.procs[i]? = some p)
    (hq : s.procs[j]? = some q) (hrefresh : p.carries .refresh = true) :
    q.carries .refresh = false ∧ q.carries .logout = false := by
  obtain ⟨hpair, hlogout⟩ := apart_of_reach h
  refine ⟨?_, hlogout p (List.mem_of_getElem? hp) q (List.mem_of_getElem? hq) hrefresh⟩
  by_contra hnot
  rw [Bool.not_eq_false] at hnot
  obtain ⟨hi, rfl⟩ := List.getElem?_eq_some_iff.mp hp
  obtain ⟨hj, rfl⟩ := List.getElem?_eq_some_iff.mp hq
  rw [List.pairwise_iff_getElem] at hpair
  rcases Nat.lt_or_gt_of_ne hij with hlt | hgt
  · exact guarded_exclusive h hij hp hq (hpair i j hi hj hlt hrefresh hnot)
  · exact guarded_exclusive h hij hp hq (hpair j i hj hi hgt hnot hrefresh).symm

/-- While nothing in flight beside a process revokes the cookie, it is good. -/
theorem live_cookie {i : Nat} (hborne : cookieDuty.Borne s)
    (hself : ∀ p, s.procs[i]? = some p → ¬ cookieDuty.bearer p ())
    (halone : ∀ j q, i ≠ j → s.procs[j]? = some q →
      q.carries .refresh = false ∧ q.carries .logout = false) :
    ∀ raw, s.shared.cookie = some raw → s.shared.sessions.Live raw := by
  intro raw hraw
  by_contra hdead
  obtain ⟨q, hq, hbears⟩ := hborne () ⟨raw, hraw, hdead⟩
  obtain ⟨j, hj⟩ := List.mem_iff_getElem?.mp hq
  by_cases hij : i = j
  · exact hself q (hij ▸ hj) hbears
  · obtain ⟨kind, flight, hcarried, hkind, -⟩ := hbears
    obtain ⟨hrefresh, hlogout⟩ := halone j q hij hj
    have hcarries := carries_of_carried hcarried
    rcases hkind with rfl | rfl
    · cases hrefresh.symm.trans hcarries
    · cases hlogout.symm.trans hcarries

theorem tokenOutline_kept : tokenOutline.Kept (tab cfg) (OrderlyTab cfg) fun s =>
    (tab cfg).Reach (OrderlyTab cfg) (TabPool.loaded sessions cookie) s ∧ cookieDuty.Borne s where
  spawn s k _ _ _ := by
    have hnone : ((tab cfg).start s.shared k).carried = none := by cases k <;> rfl
    refine ⟨fun kind flight h => ?_, fun q _ kp fp kq fq h => ?_⟩
    · cases hnone.symm.trans h
    · cases hnone.symm.trans h
  run s i r p w p' hbase he hs hp hstep := by
    obtain ⟨hreach, hborne⟩ := hbase
    have hnext : (tab cfg).next s (.run i r) = some ⟨w, s.procs.set i p'⟩ := by
      simp only [Machine.next, hp]
      rw [hstep]
      rfl
    have hreach' := hreach.tail he hnext
    have hold : ∀ raw, s.shared.cookie = some raw →
        raw < s.shared.sessions.refreshTokens.nextId := hs.shared
    have hwell : ∀ kind flight, p.carried = some (kind, flight) →
        CarriesWell s.shared kind flight := hs.at hp
    have hself' : (s.procs.set i p')[i]? = some p' := by
      rw [List.getElem?_set_self (List.getElem?_eq_some_iff.mp hp).1]
    have hmove := carry_move hstep
    have hgood : p'.carried = some (.refresh, s.shared.sendRefresh) →
        (∀ kind flight, p.carried = some (kind, flight) → kind = .api ∨ kind = .signIn) →
        ∀ raw, s.shared.cookie = some raw → s.shared.sessions.Live raw := by
      intro hsent hbefore
      refine live_cookie (i := i) hborne (fun p₀ hp₀ hbears => ?_) fun j q hij hq => ?_
      · cases hp.symm.trans hp₀
        obtain ⟨kind, flight, hcarried, hkind, -⟩ := hbears
        rcases hbefore kind flight hcarried with rfl | rfl <;>
          rcases hkind with hk | hk <;> cases hk
      · have hq' : (s.procs.set i p')[j]? = some q := by rw [List.getElem?_set_ne hij, hq]
        exact refresh_alone hreach' hij hself' hq' (carries_of_carried hsent)
    obtain ⟨hshared, hproc⟩ := carriesWell_move hmove hold hwell hgood
    refine ⟨hshared, hproc, fun j q hij hq hqwell hdisjoint => ?_⟩
    have hother : ∀ kindq flightq, q.carried = some (kindq, flightq) →
        CarriesWell w kindq flightq ∧ Disjoint p'.carried (some (kindq, flightq)) := by
      intro kindq flightq hcarried
      refine carriesWell_other hmove hold hwell (hqwell kindq flightq hcarried)
        (hcarried ▸ hdisjoint) ?_
      rintro rfl kind flight hbefore
      obtain ⟨hrefresh, hlogout⟩ :=
        refresh_alone hreach hij.symm hq hp (carries_of_carried hcarried)
      have hcarries := carries_of_carried hbefore
      refine ⟨?_, ?_⟩
      · rintro rfl
        cases hrefresh.symm.trans hcarries
      · rintro rfl
        cases hlogout.symm.trans hcarries
    refine ⟨fun kindq flightq hcarried => (hother kindq flightq hcarried).1, ?_⟩
    intro kp fp kq fq hp' hq' raw
    exact (hother kq fq hq').2 kp fp kq fq hp' rfl raw
  env s sessions w hbase he hs hw := by
    cases hw
    obtain ⟨hle, hlive⟩ := he.others sessions rfl
    refine ⟨fun raw hraw => lt_of_lt_of_le (hs.shared raw hraw) hle,
      fun q hq kind flight hcarried => ?_⟩
    have hwell : CarriesWell s.shared kind flight := hs.procs q hq kind flight hcarried
    have hmine : ∀ raw, flight.Mine raw → TabPool.Mine s raw := fun raw hraw =>
      Or.inr ⟨q, hq, kind, flight, hcarried, hraw⟩
    refine ⟨hwell.sound.mono (fun raw hraw => hlive raw (hmine raw (Or.inl hraw)))
      fun _ raw hraw => hlive raw (hmine raw (Or.inr hraw)),
      fun raw hraw => lt_of_lt_of_le (hwell.old raw hraw) hle, hwell.fresh⟩

theorem cookieDuty_kept : cookieDuty.Kept (tab cfg) (OrderlyTab cfg) fun s =>
    tokenOutline.Holds s where
  run s i r p w p' hs hborne he hp hstep x hdue := by
    obtain ⟨raw, hraw, hdead⟩ := hdue
    have hwell : ∀ kind flight, p.carried = some (kind, flight) →
        CarriesWell s.shared kind flight := hs.at hp
    -- a cookie that is good no longer, or was not good before
    have helse : ¬ cookieDuty.bearer p () → s.shared.cookie = some raw →
        ¬ s.shared.sessions.Live raw → cookieDuty.bearer p' x ∨ cookieDuty.Elsewhere s i x :=
      fun hnb hcookie hold => Or.inr (hborne.elsewhere hp ⟨raw, hcookie, hold⟩ hnb)
    cases carry_move hstep with
    | rests hsessions hcookie hafter hfailed =>
      refine helse ?_ (hcookie ▸ hraw) (hsessions ▸ hdead)
      rintro ⟨kind, flight, hcarried, hkind, hreturned⟩
      cases hlost : r.lost with
      | false => cases (hfailed kind flight hcarried hkind hlost).symm.trans hreturned
      | true =>
        obtain ⟨hrefresh, hlogout⟩ := he.heard i r p rfl hp hlost
        have hcarries := carries_of_carried hcarried
        rcases hkind with rfl | rfl
        · cases hrefresh.symm.trans hcarries
        · cases hlogout.symm.trans hcarries
    | sends request hsessions hcookie hbefore hafter =>
      refine helse ?_ (hcookie ▸ hraw) (hsessions ▸ hdead)
      rintro ⟨kind, flight, hcarried, -⟩
      cases hbefore.symm.trans hcarried
    | refreshes hsessions hcookie hbefore hafter =>
      refine helse ?_ (hcookie ▸ hraw) (hsessions ▸ hdead)
      rintro ⟨kind, flight, hcarried, hkind, -⟩
      rcases hbefore kind flight hcarried with rfl | rfl <;>
        rcases hkind with hk | hk <;> cases hk
    | advances kind flight call hmove hcookie hbefore hafter =>
      have hsound := (hwell kind flight hbefore).sound
      by_cases hlive : s.shared.sessions.Live raw
      · -- this call has just revoked it, and its answer is on the way
        rcases (token_move hmove hsound).1.advanced.live raw hlive with hlive' | ⟨hpresents, hret⟩
        · exact absurd hlive' hdead
        · exact Or.inl ⟨kind, _, hafter, kind_of_presents hsound hpresents, hret⟩
      · refine helse ?_ (hcookie ▸ hraw) hlive
        rintro ⟨kind', flight', hcarried, -, hreturned⟩
        cases hbefore.symm.trans hcarried
        cases (not_returned_of_step hmove).symm.trans hreturned
    | receives kind flight hkind hreturned hsessions hcookie hbefore hafter =>
      obtain ⟨child, hchild, hlive⟩ :=
        issued_of_returned (hwell kind flight hbefore).sound hkind hreturned
      rw [hcookie, hchild] at hraw
      cases hraw
      rw [hsessions] at hdead
      exact absurd hlive hdead
    | clears flight hsessions hcookie hbefore hafter =>
      rw [hcookie] at hraw
      cases hraw
  env s sessions w hs he hw x hdue := by
    cases hw
    obtain ⟨raw, hraw, hdead⟩ := hdue
    exact ⟨raw, hraw, fun hlive => hdead ((he.others sessions rfl).2 raw (Or.inl hraw) hlive)⟩

theorem tab_sound (hcookie : ∀ raw, cookie = some raw → sessions.Live raw)
    (h : (tab cfg).Reach (OrderlyTab cfg) (TabPool.loaded sessions cookie) s) :
    tokenOutline.Holds s ∧ cookieDuty.Borne s := by
  refine Machine.Reach.invariant (I := fun s => tokenOutline.Holds s ∧ cookieDuty.Borne s)
    ?_ ?_ h
  · refine ⟨Outline.holds_nil fun raw hraw => (hcookie raw hraw).lt_nextId, ?_⟩
    rintro x ⟨raw, hraw, hdead⟩
    exact absurd (hcookie raw hraw) hdead
  · rintro s e s' hreach ⟨hs, hborne⟩ he hnext
    exact ⟨tokenOutline_kept.next ⟨hreach, hborne⟩ hs he hnext,
      cookieDuty_kept.next hs hborne he hnext⟩

/-- **The server never takes a refresh of the tab for a replay**, in any orderly run from a page
that has loaded with a good cookie; and while no refresh and no sign-out is in flight the cookie is
good. -/
theorem reuse_never_detected (hcookie : ∀ raw, cookie = some raw → sessions.Live raw)
    (h : (tab cfg).Reach (OrderlyTab cfg) (TabPool.loaded sessions cookie) s) :
    (∀ pc ∈ s.procs, ∀ kind flight, pc.carried = some (kind, flight) → ∀ userId,
      flight.call ≠ .revokeFamily userId ∧ flight.call ≠ .reuseDetected userId) ∧
    ((∀ pc ∈ s.procs, pc.carries .refresh = false ∧ pc.carries .logout = false) →
      ∀ raw, s.shared.cookie = some raw → s.shared.sessions.Live raw) := by
  obtain ⟨hs, hborne⟩ := tab_sound hcookie h
  refine ⟨fun pc hpc kind flight hcarried userId => ?_, fun hquiet => ?_⟩
  · have hwell : CarriesWell s.shared kind flight := hs.procs pc hpc kind flight hcarried
    have hsound := hwell.sound
    obtain ⟨call, issued⟩ := flight
    refine ⟨?_, ?_⟩
    · rintro rfl
      cases kind <;> exact hsound.elim
    · rintro rfl
      cases kind <;> exact hsound.elim
  · refine live_cookie (i := s.procs.length) hborne (fun p hp => ?_) fun j q _ hq =>
      hquiet q (List.mem_of_getElem? hq)
    rw [List.getElem?_eq_none le_rfl] at hp
    cases hp

end Runs

/-! ## Two requests and one refresh -/

instance (s : TabPool) : Decidable (RefreshesApart s) :=
  inferInstanceAs (Decidable (List.Pairwise _ _ ∧ ∀ p ∈ s.procs, ∀ q ∈ s.procs, _ → _))

/-- A check for `OrderlyTab`, where nothing is lost and nobody else writes. -/
def orderlyAlone (s : TabPool) : TabEvent → Bool
  | .env _ => false
  | .spawn k => ((tab plainAuth).next s (.spawn k)).all fun s' => RefreshesApart s'
  | .run i r => !r.lost && ((tab plainAuth).next s (.run i r)).all fun s' => RefreshesApart s'

theorem orderlyTab_of_alone (s : TabPool) (e : TabEvent) (h : orderlyAlone s e = true) :
    OrderlyTab plainAuth s e := by
  cases e with
  | env sessions => cases h
  | spawn k =>
    refine ⟨fun s' hs' => ?_, by rintro i r pc ⟨⟩, by rintro sessions ⟨⟩⟩
    rw [orderlyAlone, hs', Option.all_some, decide_eq_true_eq] at h
    exact h
  | run i r =>
    rw [orderlyAlone, Bool.and_eq_true, Bool.not_eq_true'] at h
    refine ⟨fun s' hs' => ?_, ?_, by rintro sessions ⟨⟩⟩
    · rw [hs', Option.all_some, decide_eq_true_eq] at h
      exact h.2
    · rintro i' r' pc ⟨⟩ hpc hlost
      cases h.1.symm.trans hlost

/-- The refresh goes through, and both requests are sent again. -/
def refreshedOnce : List TabEvent :=
  twoExpired ++ [heard 0, heard 0, heard 0, heard 0, heard 0, heard 0, heard 1, heard 1, heard 1]

theorem reuse_never_detected_once : ∃ s : TabPool,
    (s.shared.cookie = some 1 ∧ s.procs.all TabPc.isOver = true) ∧
      ((∀ pc ∈ s.procs, pc.carries .refresh = false ∧ pc.carries .logout = false) →
        ∀ raw, s.shared.cookie = some raw → s.shared.sessions.Live raw) := by
  have hlive : ∀ raw, some 0 = some raw → adaSessions.Live raw := by
    rintro raw ⟨⟩
    exact ⟨_, rfl, rfl⟩
  obtain ⟨s, hreach, hs⟩ : ∃ s, (tab plainAuth).Reach (OrderlyTab plainAuth) adaTab s ∧
      (decide (s.shared.cookie = some 1) && s.procs.all TabPc.isOver) = true :=
    Machine.exists_reach_of_play orderlyTab_of_alone refreshedOnce (by decide +kernel)
  rw [Bool.and_eq_true, decide_eq_true_eq] at hs
  exact ⟨s, hs, (reuse_never_detected hlive hreach).2⟩

/-- The page of a rider's application refreshes beside the request: the first call has revoked the
token when the second looks it up. -/
example : ((tab plainAuth).exec adaTab ([.spawn (.request (.api "/cart")), .spawn .apply, heard 0,
    heard 0, expired 0, heard 1] ++ [heard 0, heard 0, heard 0, heard 0, heard 1, heard 1])).any
    (fun s => s.shared.sessions.refreshTokens.docs.all fun t => t.revokedAt.isSome) = true := by
  decide +kernel

end FoodDelivery
