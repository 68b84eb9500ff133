import FoodDelivery.Auth.Reauth

/-!
# The tokens of a tab

What the requests of a tab do to the server's refresh tokens and to the cookie.  A refresh revokes
the token that it goes by, and the cookie holds that token until the answer arrives.

* `token_move`: one database call for the tab.
* `carry_move`: all that one step does to the tokens and to the cookie.
* `carriesWell_move`, `carriesWell_other`: what a step leaves of its own call, and of another.
-/

namespace FoodDelivery

open Store Interleave

/-! ## What a process carries -/

inductive FlightKind
  | api
  | signIn
  | logout
  | refresh
  deriving DecidableEq

def TabRequest.kind : TabRequest → FlightKind
  | api _ => .api
  | signIn _ _ => .signIn
  | logout => .logout

/-- The token that a call goes by, until it has revoked it. -/
def SessionPc.presents : SessionPc → Option RefreshTokenId
  | refreshFind raw => some raw
  | refreshUser raw _ => some raw
  | refreshCreate raw _ => some raw
  | refreshSave raw _ => some raw
  | logoutUpdate raw => some raw
  | _ => none

/-- The token is the flight's own: it has been issued to it, or it goes by it. -/
def Flight.Mine (flight : Flight) (raw : RefreshTokenId) : Prop :=
  flight.issued = some raw ∨ flight.call.presents = some raw

namespace TabPc

/-- The call of the server that is not answered yet. -/
def carried : TabPc → Option (FlightKind × Flight)
  | sent request flight => some (request.kind, flight)
  | retried request flight _ => some (request.kind, flight)
  | refreshing _ flight => some (.refresh, flight)
  | initializing flight => some (.refresh, flight)
  | refreshingUnguarded flight => some (.refresh, flight)
  | _ => none

def carries (kind : FlightKind) (pc : TabPc) : Bool := pc.carried.any (·.1 = kind)

end TabPc

/-- The token has not been revoked. -/
def Sessions.Live (s : Sessions) (raw : RefreshTokenId) : Prop :=
  ∃ t, s.refreshTokens.get raw = some t ∧ t.revokedAt = none

/-! ## The server's calls -/

namespace Flight

/-- What is known of a flight: which tokens of it are good, and that it has not been taken for a
replay. -/
def Sound (live : RefreshTokenId → Prop) : FlightKind → Flight → Prop
  | .api, ⟨.returned, issued⟩ => issued = none
  | .signIn, ⟨.loginFind _ _, issued⟩ => issued = none
  | .signIn, ⟨.signInFind _, issued⟩ => issued = none
  | .signIn, ⟨.loginCreate _ _, issued⟩ => issued = none
  | .signIn, ⟨.returned, issued⟩ => ∃ raw, issued = some raw ∧ live raw
  | .signIn, ⟨.rejected _, issued⟩ => issued = none
  | .logout, ⟨.logoutUpdate _, issued⟩ => issued = none
  | .logout, ⟨.returned, issued⟩ => issued = none
  | .refresh, ⟨.refreshFind raw, issued⟩ => issued = none ∧ live raw
  | .refresh, ⟨.refreshUser raw _, issued⟩ => issued = none ∧ live raw
  | .refresh, ⟨.refreshCreate raw _, issued⟩ => issued = none ∧ live raw
  | .refresh, ⟨.refreshSave raw child, issued⟩ => issued = some child ∧ live child ∧ raw ≠ child
  | .refresh, ⟨.returned, issued⟩ => ∃ raw, issued = some raw ∧ live raw
  | .refresh, ⟨.rejected _, issued⟩ => issued = none
  | _, _ => False

variable {live live' : RefreshTokenId → Prop} {kind : FlightKind} {flight : Flight}

/-- A sound flight stays sound while what it has been issued stays good, and for a refresh what it
goes by. -/
theorem Sound.mono (h : flight.Sound live kind)
    (hissued : ∀ raw, flight.issued = some raw → live raw → live' raw)
    (hpresents : kind = .refresh → ∀ raw, flight.call.presents = some raw → live raw → live' raw) :
    flight.Sound live' kind := by
  obtain ⟨call, issued⟩ := flight
  cases kind with
  | api => cases call <;> exact h
  | signIn =>
    cases call with
    | returned =>
      obtain ⟨raw, hraw, hlive⟩ := h
      exact ⟨raw, hraw, hissued raw hraw hlive⟩
    | _ => exact h
  | logout => cases call <;> exact h
  | refresh =>
    cases call with
    | returned =>
      obtain ⟨raw, hraw, hlive⟩ := h
      exact ⟨raw, hraw, hissued raw hraw hlive⟩
    | refreshFind raw => exact ⟨h.1, hpresents rfl raw rfl h.2⟩
    | refreshUser raw stored => exact ⟨h.1, hpresents rfl raw rfl h.2⟩
    | refreshCreate raw stored => exact ⟨h.1, hpresents rfl raw rfl h.2⟩
    | refreshSave raw child => exact ⟨h.1, hissued child h.1 h.2.1, h.2.2⟩
    | _ => exact h

end Flight

/-- What a database call of a tab does to the tokens: nothing, an insertion for the flight, or the
revocation of what it goes by. -/
inductive TokenMove (s s' : Sessions) (flight flight' : Flight) : Prop
  | same (htokens : s'.refreshTokens = s.refreshTokens) (hissued : flight'.issued = flight.issued)
      (hpresents : ∀ raw, flight'.call.presents = some raw → flight.call.presents = some raw)
  | inserts (token : RefreshToken) (hvalid : token.revokedAt = none)
      (htokens : s'.refreshTokens = s.refreshTokens.create token)
      (hissued : flight'.issued = some s.refreshTokens.nextId)
      (hpresents : ∀ raw, flight'.call.presents = some raw → flight.call.presents = some raw)
  | revokes (raw : RefreshTokenId) (f : RefreshToken → RefreshToken)
      (htokens : s'.refreshTokens = s.refreshTokens.modify raw f)
      (hpresents : flight.call.presents = some raw) (hissued : flight'.issued = flight.issued)
      (hover : flight'.call = .returned)

section Moves

variable {cfg : AuthConfig} {s s' : Sessions} {kind : FlightKind} {flight : Flight}
  {call : SessionPc} {r : SessionReply} {raw : RefreshTokenId}

theorem Sessions.Live.lt_nextId (h : s.Live raw) : raw < s.refreshTokens.nextId := by
  obtain ⟨t, ht, -⟩ := h
  exact Collection.lt_nextId_of_get ht

theorem Sessions.live_of_eq (h : s'.refreshTokens = s.refreshTokens) : s'.Live = s.Live := by
  unfold Sessions.Live
  rw [h]

theorem Sessions.live_nextId {token : RefreshToken} (hvalid : token.revokedAt = none)
    (h : s'.refreshTokens = s.refreshTokens.create token) : s'.Live s.refreshTokens.nextId :=
  ⟨token, by rw [h, Collection.get_create_self], hvalid⟩

theorem Sessions.Live.insert {token : RefreshToken} (hlive : s.Live raw)
    (h : s'.refreshTokens = s.refreshTokens.create token) : s'.Live raw := by
  obtain ⟨t, ht, hvalid⟩ := hlive
  exact ⟨t, by rw [h, Collection.get_create_of_get ht], hvalid⟩

theorem Sessions.Live.modify {other : RefreshTokenId} {f : RefreshToken → RefreshToken}
    (hlive : s.Live raw) (h : s'.refreshTokens = s.refreshTokens.modify other f)
    (hne : other ≠ raw) : s'.Live raw := by
  obtain ⟨t, ht, hvalid⟩ := hlive
  exact ⟨t, by rw [h, Collection.get_modify_ne hne, ht], hvalid⟩

/-- A call that is turned down leaves the tokens alone. -/
theorem token_move_rejected {c : SessionPc} {error : AuthError} (hkind : kind = .signIn ∨
    kind = .refresh) :
    TokenMove s s ⟨c, none⟩ ⟨.rejected error, none⟩ ∧
      Flight.Sound s.Live kind ⟨.rejected error, none⟩ := by
  refine ⟨.same rfl rfl (by rintro raw ⟨⟩), ?_⟩
  rcases hkind with rfl | rfl <;> rfl

/-- **What a database call of a sign-in does.** -/
theorem token_move_signIn {c : SessionPc} {issued : Option RefreshTokenId}
    (h : sessionStep cfg s c r = some (s', call))
    (hsound : Flight.Sound s.Live .signIn ⟨c, issued⟩) :
    TokenMove s s' ⟨c, issued⟩ ⟨call, Flight.issuedNext s ⟨c, issued⟩⟩ ∧
      Flight.Sound s'.Live .signIn ⟨call, Flight.issuedNext s ⟨c, issued⟩⟩ := by
  cases c with
  | loginFind email password =>
    cases h
    cases hsound
    unfold afterLoginFind
    split
    · exact token_move_rejected (Or.inl rfl)
    · split
      · split
        · exact token_move_rejected (Or.inl rfl)
        · exact ⟨.same rfl rfl (by rintro raw ⟨⟩), rfl⟩
      · exact token_move_rejected (Or.inl rfl)
  | signInFind userId =>
    cases h
    cases hsound
    unfold afterSignInFind
    split
    · exact token_move_rejected (Or.inl rfl)
    · split
      · exact token_move_rejected (Or.inl rfl)
      · exact ⟨.same rfl rfl (by rintro raw ⟨⟩), rfl⟩
  | loginCreate userId ticket =>
    cases h
    exact ⟨.inserts (s.loginToken cfg r.now userId ticket) rfl rfl rfl (by rintro raw ⟨⟩),
      s.refreshTokens.nextId, rfl, Sessions.live_nextId rfl rfl⟩
  | returned => cases h
  | rejected => cases h
  | _ => exact hsound.elim

/-- **What a database call of a refresh does.** -/
theorem token_move_refresh {c : SessionPc} {issued : Option RefreshTokenId}
    (h : sessionStep cfg s c r = some (s', call))
    (hsound : Flight.Sound s.Live .refresh ⟨c, issued⟩) :
    TokenMove s s' ⟨c, issued⟩ ⟨call, Flight.issuedNext s ⟨c, issued⟩⟩ ∧
      Flight.Sound s'.Live .refresh ⟨call, Flight.issuedNext s ⟨c, issued⟩⟩ := by
  cases c with
  | refreshFind raw =>
    obtain ⟨rfl, t, ht, hvalid⟩ := hsound
    cases h
    rw [ht]
    simp only [afterRefreshFind]
    split
    · exact token_move_rejected (Or.inr rfl)
    · -- the token is good, so this is no replay
      rw [hvalid]
      exact ⟨.same rfl rfl fun _ hraw => hraw, rfl, t, ht, hvalid⟩
  | refreshUser raw stored =>
    obtain ⟨rfl, hlive⟩ := hsound
    cases h
    unfold afterRefreshUser
    split
    · exact token_move_rejected (Or.inr rfl)
    · split
      · exact token_move_rejected (Or.inr rfl)
      · exact ⟨.same rfl rfl fun _ hraw => hraw, rfl, hlive⟩
  | refreshCreate raw stored =>
    obtain ⟨rfl, hlive⟩ := hsound
    cases h
    exact ⟨.inserts (Sessions.childToken cfg r.now raw stored) rfl rfl rfl fun _ hraw => hraw,
      rfl, Sessions.live_nextId rfl rfl, Nat.ne_of_lt hlive.lt_nextId⟩
  | refreshSave raw child =>
    obtain ⟨rfl, hlive, hne⟩ := hsound
    cases h
    exact ⟨.revokes raw _ rfl rfl rfl rfl, child, rfl, hlive.modify rfl hne⟩
  | returned => cases h
  | rejected => cases h
  | _ => exact hsound.elim

/-- **One database call of a sound flight** leaves it sound. -/
theorem token_move (h : sessionStep cfg s flight.call r = some (s', call))
    (hsound : flight.Sound s.Live kind) :
    TokenMove s s' flight ⟨call, flight.issuedNext s⟩ ∧
      Flight.Sound s'.Live kind ⟨call, flight.issuedNext s⟩ := by
  obtain ⟨c, issued⟩ := flight
  cases kind with
  | signIn => exact token_move_signIn h hsound
  | refresh => exact token_move_refresh h hsound
  | api =>
    cases c with
    | returned => cases h
    | _ => exact hsound.elim
  | logout =>
    cases c with
    | logoutUpdate raw =>
      cases hsound
      cases h
      exact ⟨.revokes raw _ rfl rfl rfl rfl, rfl⟩
    | returned => cases h
    | _ => exact hsound.elim

end Moves

/-! ## One step of a process -/

/-- What a step does to the server's collections and to the cookie, as far as the calls that are
carried before it and after it go. -/
inductive CarryMove (cfg : AuthConfig) (s : Tab) (r : TabReply)
    (before : Option (FlightKind × Flight)) (s' : Tab) (after : Option (FlightKind × Flight)) :
    Prop
  | rests (hsessions : s'.sessions = s.sessions) (hcookie : s'.cookie = s.cookie)
      (hafter : after = none) (hfailed : ∀ kind flight, before = some (kind, flight) →
        kind = .refresh ∨ kind = .logout → r.lost = false → flight.call.hasReturned = false)
  | sends (request : TabRequest) (hsessions : s'.sessions = s.sessions)
      (hcookie : s'.cookie = s.cookie) (hbefore : before = none)
      (hafter : after = some (request.kind, s.send request))
  | refreshes (hsessions : s'.sessions = s.sessions) (hcookie : s'.cookie = s.cookie)
      (hbefore : ∀ kind flight, before = some (kind, flight) → kind = .api ∨ kind = .signIn)
      (hafter : after = some (.refresh, s.sendRefresh))
  | advances (kind : FlightKind) (flight : Flight) (call : SessionPc)
      (hstep : sessionStep cfg s.sessions flight.call ⟨r.now⟩ = some (s'.sessions, call))
      (hcookie : s'.cookie = s.cookie) (hbefore : before = some (kind, flight))
      (hafter : after = some (kind, ⟨call, flight.issuedNext s.sessions⟩))
  | receives (kind : FlightKind) (flight : Flight) (hkind : kind = .signIn ∨ kind = .refresh)
      (hreturned : flight.call.hasReturned = true) (hsessions : s'.sessions = s.sessions)
      (hcookie : s'.cookie = flight.issued) (hbefore : before = some (kind, flight))
      (hafter : after = none ∨
        ∃ request : TabRequest, after = some (request.kind, s'.send request))
  | clears (flight : Flight) (hsessions : s'.sessions = s.sessions) (hcookie : s'.cookie = none)
      (hbefore : before = some (.logout, flight)) (hafter : after = none)

section Steps

variable {cfg : AuthConfig} {s s' : Tab} {pc pc' : TabPc} {r : TabReply}

theorem carry_advance {flight : Flight} {kind : FlightKind} {next : Flight → TabPc}
    (h : flight.advance cfg s r next = some (s', pc'))
    (hnext : ∀ flight, (next flight).carried = some (kind, flight)) :
    CarryMove cfg s r (some (kind, flight)) s' pc'.carried := by
  obtain ⟨sessions, call, hstep, rfl, rfl⟩ := advance_eq_some h
  exact .advances kind flight call hstep rfl rfl (hnext _)

@[simp] theorem sessions_receive {request : TabRequest} {flight : Flight} :
    (s.receive request flight r).sessions = s.sessions := by
  unfold Tab.receive
  split
  · split <;> rfl
  · rfl
  · rfl

@[simp] theorem sessions_receiveRefresh {flight : Flight} :
    (s.receiveRefresh flight r).sessions = s.sessions := by
  unfold Tab.receiveRefresh
  split <;> rfl

/-- The answer to a request that is not sent again. -/
theorem carry_receive {request : TabRequest} {flight : Flight} {s' : Tab}
    (hsessions : s'.sessions = (s.receive request flight r).sessions)
    (hcookie : s'.cookie = (s.receive request flight r).cookie) :
    CarryMove cfg s r (some (request.kind, flight)) s' none := by
  rw [sessions_receive] at hsessions
  cases hlost : r.lost with
  | true =>
    simp only [Tab.receive, hlost] at hcookie
    refine .rests hsessions hcookie rfl fun kind flight' _ _ hheard => ?_
    cases hlost.symm.trans hheard
  | false =>
    simp only [Tab.receive, hlost] at hcookie
    cases request with
    | api path =>
      refine .rests hsessions hcookie rfl ?_
      rintro kind flight' ⟨⟩ (hkind | hkind) <;> cases hkind
    | signIn path credentials =>
      dsimp only at hcookie
      split at hcookie
      · rename_i hreturned
        exact .receives .signIn flight (Or.inl rfl) hreturned hsessions hcookie rfl (Or.inl rfl)
      · refine .rests hsessions hcookie rfl ?_
        rintro kind flight' ⟨⟩ (hkind | hkind) <;> cases hkind
    | logout => exact .clears flight hsessions hcookie rfl rfl

theorem carry_receiveRefresh {flight : Flight} {s' : Tab}
    (hsessions : s'.sessions = (s.receiveRefresh flight r).sessions)
    (hcookie : s'.cookie = (s.receiveRefresh flight r).cookie) :
    CarryMove cfg s r (some (.refresh, flight)) s' none := by
  rw [sessions_receiveRefresh] at hsessions
  unfold Tab.receiveRefresh at hcookie
  split at hcookie
  · rename_i hok
    rw [Bool.and_eq_true] at hok
    exact .receives .refresh flight (Or.inr rfl) hok.2 hsessions hcookie rfl (Or.inl rfl)
  · rename_i hfailed
    refine .rests hsessions hcookie rfl ?_
    rintro kind flight' ⟨⟩ _ hheard
    simpa [hheard] using hfailed

/-- **All that one step does to the server's collections and to the cookie.** -/
theorem carry_move (h : tabStep cfg s pc r = some (s', pc')) :
    CarryMove cfg s r pc.carried s' pc'.carried := by
  cases pc with
  | waitForUnlock request =>
    simp only [tabStep] at h
    split at h
    · cases h
    · cases h
      exact .rests rfl rfl rfl (by rintro kind flight ⟨⟩)
  | ready request =>
    cases h
    exact .sends request rfl rfl rfl rfl
  | sent request flight =>
    simp only [tabStep] at h
    split at h
    · split at h
      · rename_i hunauthorized
        have hkind : request.kind = .api ∨ request.kind = .signIn := by
          cases request with
          | api => exact Or.inl rfl
          | signIn => exact Or.inr rfl
          | logout => simp [TabRequest.isUnauthorized] at hunauthorized
        split at h
        · cases h
          refine .rests rfl rfl rfl ?_
          rintro kind flight' ⟨⟩ hkind' _
          rcases hkind with hk | hk <;> rw [hk] at hkind' <;> rcases hkind' with h | h <;> cases h
        · cases h
          refine .refreshes rfl rfl ?_ rfl
          rintro kind flight' ⟨⟩
          exact hkind
      · cases h
        exact carry_receive rfl rfl
    · exact carry_advance h fun _ => rfl
  | refreshing request flight =>
    simp only [tabStep] at h
    split at h
    · split at h
      · rename_i hok
        cases h
        have hreceived : s.receiveRefresh flight r = { s with cookie := flight.issued } :=
          if_pos hok
        rw [Bool.and_eq_true] at hok
        rw [hreceived]
        exact .receives .refresh flight (Or.inr rfl) hok.2 rfl rfl rfl (Or.inr ⟨request, rfl⟩)
      · rename_i hfailed
        cases h
        refine .rests rfl rfl rfl ?_
        rintro kind flight' ⟨⟩ _ hheard
        simpa [hheard] using hfailed
    · exact carry_advance h fun _ => rfl
  | waitAgain request =>
    simp only [tabStep] at h
    split at h
    · cases h
    · cases h
      exact .rests rfl rfl rfl (by rintro kind flight ⟨⟩)
  | readyAgain request =>
    cases h
    exact .sends request rfl rfl rfl rfl
  | retried request flight underMutex =>
    simp only [tabStep] at h
    split at h
    · cases h
      cases underMutex with
      | true => exact carry_receive rfl rfl
      | false => exact carry_receive rfl rfl
    · exact carry_advance h fun _ => rfl
  | acquire =>
    simp only [tabStep] at h
    split at h
    · cases h
    · cases h
      exact .refreshes rfl rfl (by rintro kind flight ⟨⟩) rfl
  | initializing flight =>
    simp only [tabStep] at h
    split at h
    · cases h
      exact carry_receiveRefresh rfl rfl
    · exact carry_advance h fun _ => rfl
  | applied =>
    cases h
    exact .refreshes rfl rfl (by rintro kind flight ⟨⟩) rfl
  | refreshingUnguarded flight =>
    simp only [tabStep] at h
    split at h
    · cases h
      exact carry_receiveRefresh rfl rfl
    · exact carry_advance h fun _ => rfl
  | settled => cases h

end Steps

/-! ## The tokens of a tab -/

/-- What is known of a call that a process carries. -/
structure CarriesWell (s : Tab) (kind : FlightKind) (flight : Flight) : Prop where
  sound : flight.Sound s.sessions.Live kind
  old : ∀ raw, flight.Mine raw → raw < s.sessions.refreshTokens.nextId
  fresh : ∀ raw, flight.issued = some raw → s.cookie ≠ some raw

/-- No call goes by a token that was issued to another, and none was issued twice. -/
def Disjoint (p q : Option (FlightKind × Flight)) : Prop :=
  ∀ kp fp kq fq, p = some (kp, fp) → q = some (kq, fq) → ∀ raw,
    (fp.issued = some raw → ¬ fq.Mine raw) ∧ (fq.issued = some raw → ¬ fp.Mine raw)

/-- The calls of a tab are sound, and their tokens are their own. -/
def tokenOutline : Outline Tab TabPc where
  shared s := ∀ raw, s.cookie = some raw → raw < s.sessions.refreshTokens.nextId
  proc s pc := ∀ kind flight, pc.carried = some (kind, flight) → CarriesWell s kind flight
  compat p q := Disjoint p.carried q.carried
  symm _ _ h kp fp kq fq hp hq raw := (h kq fq kp fp hq hp raw).symm

/-- A cookie that has been revoked is about to be replaced, or cleared. -/
def cookieDuty : Duty Tab TabPc Unit where
  due s _ := ∃ raw, s.cookie = some raw ∧ ¬ s.sessions.Live raw
  bearer pc _ := ∃ kind flight, pc.carried = some (kind, flight) ∧
    (kind = .refresh ∨ kind = .logout) ∧ flight.call.hasReturned = true

section Calls

variable {cfg : AuthConfig} {s s' : Tab} {kind : FlightKind} {flight : Flight} {r : TabReply}

theorem carriesWell_send (request : TabRequest)
    (hcookie : ∀ raw, s.cookie = some raw → raw < s.sessions.refreshTokens.nextId) :
    CarriesWell s request.kind (s.send request) ∧ (s.send request).issued = none ∧
      ∀ raw, (s.send request).Mine raw → s.cookie = some raw := by
  have hissued : (s.send request).issued = none := by
    cases request with
    | api => rfl
    | signIn => rfl
    | logout =>
      simp only [Tab.send]
      split <;> rfl
  have hmine : ∀ raw, (s.send request).Mine raw → s.cookie = some raw := by
    rintro raw (hraw | hraw)
    · cases hissued.symm.trans hraw
    · cases request with
      | api => cases hraw
      | signIn path credentials => cases credentials <;> cases hraw
      | logout =>
        simp only [Tab.send] at hraw
        split at hraw
        · cases hraw
        · rename_i other hother
          cases hraw
          exact hother
  refine ⟨⟨?_, fun raw hraw => hcookie raw (hmine raw hraw), fun raw hraw => ?_⟩, hissued, hmine⟩
  · cases request with
    | api => rfl
    | signIn path credentials => cases credentials <;> rfl
    | logout =>
      simp only [Tab.send]
      split <;> rfl
  · cases hissued.symm.trans hraw

theorem carriesWell_sendRefresh (hcookie : ∀ raw, s.cookie = some raw → s.sessions.Live raw) :
    CarriesWell s .refresh s.sendRefresh ∧ s.sendRefresh.issued = none ∧
      ∀ raw, s.sendRefresh.Mine raw → s.cookie = some raw := by
  unfold Tab.sendRefresh
  split
  · refine ⟨⟨rfl, fun raw hraw => ?_, by rintro raw ⟨⟩⟩, rfl, fun raw hraw => ?_⟩
    · rcases hraw with hraw | hraw <;> cases hraw
    · rcases hraw with hraw | hraw <;> cases hraw
  · rename_i raw hraw
    have hmine : ∀ other, Flight.Mine ⟨.refreshFind raw, none⟩ other → raw = other := by
      rintro other (hother | hother)
      · cases hother
      · exact Option.some.inj hother
    refine ⟨⟨⟨rfl, hcookie raw hraw⟩, fun other hother => ?_, by rintro other ⟨⟩⟩, rfl,
      fun other hother => ?_⟩
    · exact hmine other hother ▸ (hcookie raw hraw).lt_nextId
    · exact hmine other hother ▸ hraw

/-- Where a call is answered, it has been issued a good token. -/
theorem issued_of_returned (h : flight.Sound s.sessions.Live kind)
    (hkind : kind = .signIn ∨ kind = .refresh) (hreturned : flight.call.hasReturned = true) :
    ∃ raw, flight.issued = some raw ∧ s.sessions.Live raw := by
  obtain ⟨call, issued⟩ := flight
  cases call with
  | returned => rcases hkind with rfl | rfl <;> exact h
  | _ => cases hreturned

/-- A sound call that goes by a token is a refresh or a sign-out. -/
theorem kind_of_presents {raw : RefreshTokenId} (h : flight.Sound s.sessions.Live kind)
    (hraw : flight.call.presents = some raw) : kind = .refresh ∨ kind = .logout := by
  obtain ⟨call, issued⟩ := flight
  cases kind with
  | refresh => exact Or.inl rfl
  | logout => exact Or.inr rfl
  | api =>
    cases call with
    | returned => cases hraw
    | _ => exact h.elim
  | signIn =>
    cases call with
    | loginFind => cases hraw
    | signInFind => cases hraw
    | loginCreate => cases hraw
    | returned => cases hraw
    | rejected => cases hraw
    | _ => exact h.elim

/-- What a database call of a flight leaves of the tokens and of the flight's own ones. -/
structure Advanced (s s' : Sessions) (flight flight' : Flight) : Prop where
  issued : (s'.refreshTokens.nextId = s.refreshTokens.nextId ∧ flight'.issued = flight.issued) ∨
    (s'.refreshTokens.nextId = s.refreshTokens.nextId + 1 ∧
      flight'.issued = some s.refreshTokens.nextId)
  presents : ∀ raw, flight'.call.presents = some raw → flight.call.presents = some raw
  live : ∀ raw, s.Live raw → s'.Live raw ∨
    (flight.call.presents = some raw ∧ flight'.call.hasReturned = true)

theorem TokenMove.advanced {s s' : Sessions} {flight' : Flight}
    (h : TokenMove s s' flight flight') : Advanced s s' flight flight' := by
  cases h with
  | same htokens hissued hpresents =>
    refine ⟨Or.inl ⟨by rw [htokens], hissued⟩, hpresents, fun raw hlive => Or.inl ?_⟩
    rwa [Sessions.live_of_eq htokens]
  | inserts token hvalid htokens hissued hpresents =>
    exact ⟨Or.inr ⟨by rw [htokens, Collection.nextId_create], hissued⟩, hpresents,
      fun raw hlive => Or.inl (hlive.insert htokens)⟩
  | revokes other f htokens hpresents hissued hover =>
    refine ⟨Or.inl ⟨by rw [htokens, Collection.nextId_modify], hissued⟩, fun raw hraw => ?_,
      fun raw hlive => ?_⟩
    · rw [hover] at hraw
      cases hraw
    · by_cases hraw : other = raw
      · exact Or.inr ⟨hraw ▸ hpresents, by rw [hover]; rfl⟩
      · exact Or.inl (hlive.modify htokens hraw)

namespace Advanced

variable {s s' : Tab} {flight' : Flight} {raw : RefreshTokenId}

theorem nextId_le {s s' : Sessions} (h : Advanced s s' flight flight') :
    s.refreshTokens.nextId ≤ s'.refreshTokens.nextId := by
  rcases h.issued with ⟨hnext, -⟩ | ⟨hnext, -⟩ <;> omega

/-- The tokens of a flight are those that it had, and the one just inserted. -/
theorem mine {s s' : Sessions} (h : Advanced s s' flight flight') (hraw : flight'.Mine raw) :
    flight.Mine raw ∨ (raw = s.refreshTokens.nextId ∧ raw < s'.refreshTokens.nextId) := by
  rcases hraw with hissued | hpresents
  · rcases h.issued with ⟨-, hsame⟩ | ⟨hnext, hnew⟩
    · exact Or.inl (Or.inl (hsame ▸ hissued))
    · have heq : s.refreshTokens.nextId = raw := Option.some.inj (hnew.symm.trans hissued)
      exact Or.inr ⟨heq.symm, by rw [← heq, hnext]; exact Nat.lt_succ_self _⟩
  · exact Or.inl (Or.inr (h.presents raw hpresents))

theorem carriesWell (h : Advanced s.sessions s'.sessions flight flight')
    (hp : CarriesWell s kind flight) (hsound : flight'.Sound s'.sessions.Live kind)
    (hcookie : s'.cookie = s.cookie)
    (hold : ∀ raw, s.cookie = some raw → raw < s.sessions.refreshTokens.nextId) :
    CarriesWell s' kind flight' := by
  refine ⟨hsound, fun raw hraw => ?_, fun raw hissued hraw => ?_⟩
  · rcases h.mine hraw with hmine | ⟨-, hlt⟩
    · exact lt_of_lt_of_le (hp.old raw hmine) h.nextId_le
    · exact hlt
  · rw [hcookie] at hraw
    rcases h.issued with ⟨-, hsame⟩ | ⟨-, hnew⟩
    · exact hp.fresh raw (hsame ▸ hissued) hraw
    · have heq : s.sessions.refreshTokens.nextId = raw :=
        Option.some.inj (hnew.symm.trans hissued)
      exact absurd (hold raw hraw) (heq ▸ lt_irrefl _)

/-- Another call stays sound: what it needs is not what this one revokes. -/
theorem other (h : Advanced s.sessions s'.sessions flight flight') {kindq : FlightKind}
    {flightq : Flight} (hq : CarriesWell s kindq flightq) (hcookie : s'.cookie = s.cookie)
    (hdisjoint : ∀ raw, flightq.issued = some raw → ¬ flight.Mine raw)
    (hrefresh : kindq = .refresh → flight.call.presents = none) : CarriesWell s' kindq flightq := by
  refine ⟨hq.sound.mono (fun raw hissued hlive => ?_) (fun hk raw _ hlive => ?_),
    fun raw hraw => lt_of_lt_of_le (hq.old raw hraw) h.nextId_le,
    fun raw hissued => hcookie ▸ hq.fresh raw hissued⟩
  · exact (h.live raw hlive).resolve_right fun hp => hdisjoint raw hissued (Or.inr hp.1)
  · refine (h.live raw hlive).resolve_right fun hp => ?_
    cases (hrefresh hk).symm.trans hp.1

theorem disjoint {s s' : Sessions} (h : Advanced s s' flight flight') {kindq : FlightKind}
    {flightq : Flight} (hold : ∀ raw, flightq.Mine raw → raw < s.refreshTokens.nextId)
    (hdisjoint : Disjoint (some (kind, flight)) (some (kindq, flightq))) :
    Disjoint (some (kind, flight')) (some (kindq, flightq)) := by
  rintro kp fp kq fq ⟨⟩ ⟨⟩ raw
  obtain ⟨hp, hq⟩ := hdisjoint kind flight kindq flightq rfl rfl raw
  refine ⟨fun hissued hmine => ?_, fun hissued hmine => ?_⟩
  · rcases h.issued with ⟨-, hsame⟩ | ⟨-, hnew⟩
    · exact hp (hsame ▸ hissued) hmine
    · have heq : s.refreshTokens.nextId = raw := Option.some.inj (hnew.symm.trans hissued)
      exact absurd (hold raw hmine) (heq ▸ lt_irrefl _)
  · rcases h.mine hmine with hold' | ⟨heq, -⟩
    · exact hq hissued hold'
    · exact absurd (hold raw (Or.inl hissued)) (heq ▸ lt_irrefl _)

end Advanced

/-- A call that takes another step has not returned. -/
theorem not_returned_of_step {call : SessionPc} {now : SessionReply} {sessions : Sessions}
    {c : SessionPc} (h : sessionStep cfg sessions c now = some (s'.sessions, call)) :
    c.hasReturned = false := by
  cases c with
  | returned => cases h
  | _ => rfl

end Calls

/-! ## What one step keeps -/

section Kept

variable {cfg : AuthConfig} {s w : Tab} {r : TabReply} {before after : Option (FlightKind × Flight)}
  {kind kindq : FlightKind} {flight flightq : Flight}

theorem CarriesWell.congr (h : CarriesWell s kind flight) (hsessions : w.sessions = s.sessions)
    (hcookie : w.cookie = s.cookie) : CarriesWell w kind flight :=
  ⟨hsessions ▸ h.sound, hsessions ▸ h.old, hcookie ▸ h.fresh⟩

/-- A call that is not carried any more leaves nothing to keep apart. -/
theorem disjoint_none {q : Option (FlightKind × Flight)} : Disjoint none q := by
  rintro kp fp kq fq ⟨⟩

/-- A call that goes by the cookie, at most, is apart from one that it was not issued to. -/
theorem disjoint_cookie (hissued : flight.issued = none)
    (hmine : ∀ raw, flight.Mine raw → s.cookie = some raw)
    (hfresh : ∀ raw, flightq.issued = some raw → s.cookie ≠ some raw) :
    Disjoint (some (kind, flight)) (some (kindq, flightq)) := by
  rintro kp fp kq fq ⟨⟩ ⟨⟩ raw
  refine ⟨fun h => ?_, fun h hm => hfresh raw h (hmine raw hm)⟩
  cases hissued.symm.trans h

/-- **What one step leaves of the cookie, and of the call that its process carries.** -/
theorem carriesWell_move (hm : CarryMove cfg s r before w after)
    (hold : ∀ raw, s.cookie = some raw → raw < s.sessions.refreshTokens.nextId)
    (hwell : ∀ kind flight, before = some (kind, flight) → CarriesWell s kind flight)
    (hgood : after = some (.refresh, s.sendRefresh) →
      (∀ kind flight, before = some (kind, flight) → kind = .api ∨ kind = .signIn) →
      ∀ raw, s.cookie = some raw → s.sessions.Live raw) :
    (∀ raw, w.cookie = some raw → raw < w.sessions.refreshTokens.nextId) ∧
      ∀ kind flight, after = some (kind, flight) → CarriesWell w kind flight := by
  cases hm with
  | rests hsessions hcookie hafter hfailed =>
    rw [hsessions, hcookie, hafter]
    exact ⟨hold, by rintro kind flight ⟨⟩⟩
  | sends request hsessions hcookie hbefore hafter =>
    rw [hafter]
    refine ⟨hsessions ▸ hcookie ▸ hold, ?_⟩
    rintro kind flight ⟨⟩
    exact (carriesWell_send request hold).1.congr hsessions hcookie
  | refreshes hsessions hcookie hbefore hafter =>
    have hlive := hgood hafter hbefore
    rw [hafter]
    refine ⟨hsessions ▸ hcookie ▸ hold, ?_⟩
    rintro kind flight ⟨⟩
    exact (carriesWell_sendRefresh hlive).1.congr hsessions hcookie
  | advances kind flight call hstep hcookie hbefore hafter =>
    have hp := hwell kind flight hbefore
    obtain ⟨hmove, hsound⟩ := token_move hstep hp.sound
    have hadvanced := hmove.advanced
    rw [hafter]
    refine ⟨fun raw hraw => lt_of_lt_of_le (hold raw (hcookie ▸ hraw)) hadvanced.nextId_le, ?_⟩
    rintro kind' flight' ⟨⟩
    exact hadvanced.carriesWell hp hsound hcookie hold
  | receives kind flight hkind hreturned hsessions hcookie hbefore hafter =>
    obtain ⟨child, hchild, hlive⟩ :=
      issued_of_returned (hwell kind flight hbefore).sound hkind hreturned
    have hshared : ∀ raw, w.cookie = some raw → raw < w.sessions.refreshTokens.nextId := by
      intro raw hraw
      rw [hcookie, hchild] at hraw
      cases hraw
      rw [hsessions]
      exact hlive.lt_nextId
    refine ⟨hshared, ?_⟩
    rcases hafter with hafter | ⟨request, hafter⟩
    · rw [hafter]
      rintro kind flight ⟨⟩
    · rw [hafter]
      rintro kind flight ⟨⟩
      exact (carriesWell_send request hshared).1
  | clears flight hsessions hcookie hbefore hafter =>
    rw [hcookie, hafter]
    exact ⟨by rintro raw ⟨⟩, by rintro kind flight ⟨⟩⟩

/-- **What one step leaves of a call that another process carries**: where one of the two is a
refresh the other is neither a refresh nor a sign-out. -/
theorem carriesWell_other (hm : CarryMove cfg s r before w after)
    (hold : ∀ raw, s.cookie = some raw → raw < s.sessions.refreshTokens.nextId)
    (hwell : ∀ kind flight, before = some (kind, flight) → CarriesWell s kind flight)
    (hq : CarriesWell s kindq flightq) (hdisjoint : Disjoint before (some (kindq, flightq)))
    (hcross : kindq = .refresh → ∀ kind flight, before = some (kind, flight) →
      kind ≠ .refresh ∧ kind ≠ .logout) :
    CarriesWell w kindq flightq ∧ Disjoint after (some (kindq, flightq)) := by
  cases hm with
  | rests hsessions hcookie hafter hfailed =>
    rw [hafter]
    exact ⟨hq.congr hsessions hcookie, disjoint_none⟩
  | sends request hsessions hcookie hbefore hafter =>
    obtain ⟨-, hissued, hmine⟩ := carriesWell_send request hold
    rw [hafter]
    exact ⟨hq.congr hsessions hcookie, disjoint_cookie hissued hmine hq.fresh⟩
  | refreshes hsessions hcookie hbefore hafter =>
    rw [hafter]
    refine ⟨hq.congr hsessions hcookie, ?_⟩
    refine disjoint_cookie (s := s) ?_ ?_ hq.fresh
    · unfold Tab.sendRefresh
      split <;> rfl
    · intro raw hraw
      unfold Tab.sendRefresh at hraw
      split at hraw
      · rcases hraw with hraw | hraw <;> cases hraw
      · rename_i other hother
        rcases hraw with hraw | hraw
        · cases hraw
        · exact hother.trans hraw
  | advances kind flight call hstep hcookie hbefore hafter =>
    have hp := hwell kind flight hbefore
    have hadvanced := (token_move hstep hp.sound).1.advanced
    rw [hbefore] at hdisjoint
    rw [hafter]
    refine ⟨hadvanced.other hq hcookie (fun raw => (hdisjoint _ _ _ _ rfl rfl raw).2) fun hk => ?_,
      hadvanced.disjoint hq.old hdisjoint⟩
    obtain ⟨hrefresh, hlogout⟩ := hcross hk kind flight hbefore
    cases hpresents : flight.call.presents with
    | none => rfl
    | some raw =>
      exact absurd (kind_of_presents hp.sound hpresents) (not_or.mpr ⟨hrefresh, hlogout⟩)
  | receives kind flight hkind hreturned hsessions hcookie hbefore hafter =>
    rw [hbefore] at hdisjoint
    have hfresh : ∀ raw, flightq.issued = some raw → w.cookie ≠ some raw := by
      intro raw hraw hsame
      rw [hcookie] at hsame
      exact (hdisjoint _ _ _ _ rfl rfl raw).1 hsame (Or.inl hraw)
    refine ⟨⟨hsessions ▸ hq.sound, hsessions ▸ hq.old, hfresh⟩, ?_⟩
    rcases hafter with hafter | ⟨request, hafter⟩
    · rw [hafter]
      exact disjoint_none
    · have hshared : ∀ raw, w.cookie = some raw → raw < w.sessions.refreshTokens.nextId := by
        intro raw hraw
        rw [hcookie] at hraw
        rw [hsessions]
        exact (hwell kind flight hbefore).old raw (Or.inl hraw)
      obtain ⟨-, hissued, hmine⟩ := carriesWell_send request hshared
      rw [hafter]
      exact disjoint_cookie hissued hmine hfresh
  | clears flight hsessions hcookie hbefore hafter =>
    rw [hafter]
    refine ⟨⟨hsessions ▸ hq.sound, hsessions ▸ hq.old, fun raw _ => ?_⟩, disjoint_none⟩
    rw [hcookie]
    exact Option.some_ne_none raw |>.symm

end Kept

end FoodDelivery
