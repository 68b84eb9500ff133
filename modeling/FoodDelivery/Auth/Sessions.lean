import FoodDelivery.Auth.User
import FoodDelivery.Lib.Interleave

/-!
# Sessions

The calls of `AuthService` and `UsersService` that issue refresh tokens or revoke them, each a
process that takes one database call at a time.  A raw token is known by the place of its document:
tokens are random, and their hashes do not collide.  `bcrypt.compare`, the fingerprint of a password
hash and the lifetime of a token are an `AuthConfig`; a password hash that `bcrypt` makes comes with
the request.

* `sessionStep`: one database call.
* `sessions`: any number of calls.
* `Rewrites`: what no call changes of a token that is there.
* `session_move`, `SessionMove.tokens`: all that one database call can do.
-/

namespace FoodDelivery

open Store Interleave

/-! ## The documents -/

abbrev RefreshTokenId := Nat

/-- Beside the document: the token that this one was redeemed from, the token of the login that it
goes back to, and how often the user's password or status had been written when that login looked
the user up. -/
structure RefreshToken where
  userId : UserId
  expiresAt : Time
  revokedAt : Option Time
  replacedByTokenHash : Option RefreshTokenId
  parent : Option RefreshTokenId
  root : RefreshTokenId
  ticket : Nat
  deriving DecidableEq

/-- A signed token with `purpose: 'reset-password'`. -/
structure ResetToken where
  sub : UserId
  pwdFingerprint : String
  expiresAt : Time
  deriving DecidableEq

/-- The collections, and the reset tokens that have been signed.  Beside them: how often
`resetPassword`, `changePassword` and `suspend` have written the user, and up to which of these
writes they have revoked the user's tokens. -/
structure Sessions where
  users : Collection User
  refreshTokens : Collection RefreshToken
  resetTokens : Collection ResetToken
  written : UserId → Nat
  swept : UserId → Nat

/-- What the calls use of libraries and of the environment. -/
structure AuthConfig where
  compare : String → String → Bool
  fingerprint : String → String
  refreshTtlMs : Time

/-! ## The calls -/

inductive SessionRequest
  | login (email password : String)
  | signIn (userId : UserId)
  | refresh (raw : RefreshTokenId)
  | logout (raw : RefreshTokenId)
  | forgotPassword (email : String)
  | resetPassword (rawToken : Nat) (passwordHash : String)
  | changePassword (userId : UserId) (currentPassword passwordHash : String)
  | suspend (id requesterId : UserId)
  | reactivate (id : UserId)

inductive SessionPc
  | loginFind (email password : String)
  | signInFind (userId : UserId)
  | loginCreate (userId : UserId) (ticket : Nat)
  | refreshFind (raw : RefreshTokenId)
  | revokeFamily (userId : UserId)
  | refreshUser (raw : RefreshTokenId) (stored : RefreshToken)
  | refreshCreate (raw : RefreshTokenId) (stored : RefreshToken)
  | refreshSave (raw child : RefreshTokenId)
  | logoutUpdate (raw : RefreshTokenId)
  | forgotFind (email : String)
  | resetFind (rawToken : Nat) (passwordHash : String)
  | resetCheck (payload : ResetToken) (email passwordHash : String)
  | changeFind (userId : UserId) (currentPassword passwordHash : String)
  | passwordWrite (userId : UserId) (passwordHash : String)
  | suspendFind (id : UserId)
  | suspendSave (id : UserId)
  | sweep (userId : UserId) (write : Nat)
  | reactivateFind (id : UserId)
  | reactivateSave (id : UserId)
  | revoked (userId : UserId) (write : Nat)
  | reuseDetected (userId : UserId)
  | returned
  | rejected (error : AuthError)

/-- What the outside answers: the time. -/
structure SessionReply where
  now : Time

namespace SessionPc

def start : SessionRequest → SessionPc
  | .login email password => .loginFind email password
  | .signIn userId => .signInFind userId
  | .refresh raw => .refreshFind raw
  | .logout raw => .logoutUpdate raw
  | .forgotPassword email => .forgotFind email
  | .resetPassword rawToken passwordHash => .resetFind rawToken passwordHash
  | .changePassword userId currentPassword passwordHash =>
    .changeFind userId currentPassword passwordHash
  | .suspend id requesterId =>
    if id = requesterId then .rejected (.http (.badRequest "You cannot suspend your own account"))
    else .suspendFind id
  | .reactivate id => .reactivateFind id

/-- The call has come to its end. -/
def isOver : SessionPc → Bool
  | .revoked _ _ => true
  | .reuseDetected _ => true
  | .returned => true
  | .rejected _ => true
  | _ => false

/-- The token that a call has looked up and not yet saved. -/
def holds : SessionPc → Option RefreshTokenId
  | .refreshUser raw _ => some raw
  | .refreshCreate raw _ => some raw
  | .refreshSave raw _ => some raw
  | _ => none

/-- The token that a call goes on to issue another one for. -/
def redeeming : SessionPc → Option (RefreshTokenId × RefreshToken)
  | .refreshUser raw stored => some (raw, stored)
  | .refreshCreate raw stored => some (raw, stored)
  | _ => none

/-- The user, and the ticket of the login, that a call is past its checks for. -/
def issuing : SessionPc → Option (UserId × Nat)
  | .loginCreate userId ticket => some (userId, ticket)
  | .refreshCreate _ stored => some (stored.userId, stored.ticket)
  | _ => none

/-- The write whose revocation a call has still to make, or has made. -/
def revoking : SessionPc → Option (UserId × Nat)
  | .sweep userId write => some (userId, write)
  | .revoked userId write => some (userId, write)
  | _ => none

/-- The call has no token in hand and nothing to revoke. -/
def quiet (pc : SessionPc) : Bool :=
  pc.holds.isNone && (pc.issuing.isNone && pc.revoking.isNone)

end SessionPc

open SessionPc

namespace Sessions

/-- Nobody is there yet. -/
def empty : Sessions :=
  ⟨Collection.empty, Collection.empty, Collection.empty, fun _ => 0, fun _ => 0⟩

/-- The document that `issueTokens` inserts for a login. -/
def loginToken (s : Sessions) (cfg : AuthConfig) (now : Time) (userId : UserId) (ticket : Nat) :
    RefreshToken where
  userId := userId
  expiresAt := now + cfg.refreshTtlMs
  revokedAt := none
  replacedByTokenHash := none
  parent := none
  root := s.refreshTokens.nextId
  ticket := ticket

/-- The document that `issueTokens` inserts for a token that is redeemed. -/
def childToken (cfg : AuthConfig) (now : Time) (raw : RefreshTokenId) (stored : RefreshToken) :
    RefreshToken where
  userId := stored.userId
  expiresAt := now + cfg.refreshTtlMs
  revokedAt := none
  replacedByTokenHash := none
  parent := some raw
  root := stored.root
  ticket := stored.ticket

def insertToken (s : Sessions) (token : RefreshToken) : Sessions :=
  { s with refreshTokens := s.refreshTokens.create token }

def modifyToken (s : Sessions) (raw : RefreshTokenId) (f : RefreshToken → RefreshToken) :
    Sessions :=
  { s with refreshTokens := s.refreshTokens.modify raw f }

def modifyUser (s : Sessions) (id : UserId) (f : User → User) : Sessions :=
  { s with users := s.users.modify id f }

/-- `updateMany({ userId, revokedAt: null }, { revokedAt: new Date() })`. -/
def revokeAll (s : Sessions) (userId : UserId) (now : Time) : Sessions :=
  { s with
    refreshTokens := s.refreshTokens.updateMany
      (fun t => t.userId = userId && t.revokedAt.isNone) fun t => { t with revokedAt := some now } }

def signReset (s : Sessions) (token : ResetToken) : Sessions :=
  { s with resetTokens := s.resetTokens.create token }

/-- A password or a status is written by a call that goes on to revoke. -/
def countWrite (s : Sessions) (id : UserId) : Sessions :=
  { s with written := Function.update s.written id (s.written id + 1) }

/-- The tokens are revoked up to this write. -/
def countSweep (s : Sessions) (id : UserId) (write : Nat) : Sessions :=
  { s with swept := Function.update s.swept id (max (s.swept id) write) }

end Sessions

def invalidRefreshToken : SessionPc := .rejected (.unauthorized "Invalid or expired refresh token")

/-- What `refresh` does with the token it found. -/
def afterRefreshFind (raw : RefreshTokenId) (now : Time) : Option RefreshToken → SessionPc
  | none => invalidRefreshToken
  | some stored =>
    if stored.expiresAt < now then invalidRefreshToken
    else if stored.revokedAt.isSome then .revokeFamily stored.userId
    else .refreshUser raw stored

/-- What `login` does with the user it found. -/
def afterLoginFind (cfg : AuthConfig) (s : Sessions) (password : String) :
    Option (UserId × User) → SessionPc
  | none => .rejected (.unauthorized "Invalid email or password")
  | some (id, user) =>
    if cfg.compare password user.passwordHash then
      match user.assertActive with
      | .error e => .rejected e
      | .ok _ => .loginCreate id (s.written id)
    else .rejected (.unauthorized "Invalid email or password")

/-- What `exchangeOAuthToken` and the login by phone do with the user they found. -/
def afterSignInFind (s : Sessions) (id : UserId) : Option User → SessionPc
  | none => .rejected (.unauthorized "Invalid or expired sign-in link")
  | some user =>
    match user.assertActive with
    | .error e => .rejected e
    | .ok _ => .loginCreate id (s.written id)

/-- What `refresh` does with the user of its token. -/
def afterRefreshUser (raw : RefreshTokenId) (stored : RefreshToken) : Option User → SessionPc
  | none => invalidRefreshToken
  | some user =>
    match user.assertActive with
    | .error e => .rejected e
    | .ok _ => .refreshCreate raw stored

def userNotFound : SessionPc := .rejected (.http (.notFound "User not found"))

/-- One database call, and what the call does until its next one. -/
def sessionStep (cfg : AuthConfig) (s : Sessions) (pc : SessionPc) (r : SessionReply) :
    Option (Sessions × SessionPc) :=
  match pc with
  | .loginFind email password =>
    some (s, afterLoginFind cfg s password (findByEmail s.users email))
  | .signInFind userId => some (s, afterSignInFind s userId (s.users.get userId))
  | .loginCreate userId ticket =>
    some (s.insertToken (s.loginToken cfg r.now userId ticket), .returned)
  | .refreshFind raw => some (s, afterRefreshFind raw r.now (s.refreshTokens.get raw))
  | .revokeFamily userId => some (s.revokeAll userId r.now, .reuseDetected userId)
  | .refreshUser raw stored => some (s, afterRefreshUser raw stored (s.users.get stored.userId))
  | .refreshCreate raw stored =>
    some (s.insertToken (Sessions.childToken cfg r.now raw stored),
      .refreshSave raw s.refreshTokens.nextId)
  | .refreshSave raw child =>
    some (s.modifyToken raw fun t =>
      { t with revokedAt := some r.now, replacedByTokenHash := some child }, .returned)
  | .logoutUpdate raw =>
    some (s.modifyToken raw fun t => { t with revokedAt := t.revokedAt.or (some r.now) }, .returned)
  | .forgotFind email =>
    match findByEmail s.users email with
    | none => some (s, .returned)
    | some (id, user) =>
      some (s.signReset ⟨id, cfg.fingerprint user.passwordHash, r.now + 60 * 60 * 1000⟩, .returned)
  | .resetFind rawToken passwordHash =>
    match (s.resetTokens.get rawToken).filter (r.now < ·.expiresAt) with
    | none => some (s, .rejected (.unauthorized "Invalid or expired token"))
    | some payload =>
      match s.users.get payload.sub with
      | none => some (s, .rejected (.unauthorized "Invalid or expired reset token"))
      | some user => some (s, .resetCheck payload user.email passwordHash)
  | .resetCheck payload email passwordHash =>
    match findByEmail s.users email with
    | none => some (s, .rejected (.unauthorized "Invalid or expired reset token"))
    | some (id, target) =>
      if cfg.fingerprint target.passwordHash = payload.pwdFingerprint then
        some (s, .passwordWrite id passwordHash)
      else some (s, .rejected (.unauthorized "Invalid or expired reset token"))
  | .changeFind userId currentPassword passwordHash =>
    match s.users.get userId with
    | none => some (s, .rejected (.unauthorized "Current password is incorrect"))
    | some user =>
      if cfg.compare currentPassword user.passwordHash then
        some (s, .passwordWrite userId passwordHash)
      else some (s, .rejected (.unauthorized "Current password is incorrect"))
  | .passwordWrite userId passwordHash =>
    some ((s.modifyUser userId fun u => { u with passwordHash := passwordHash }).countWrite userId,
      .sweep userId (s.written userId + 1))
  | .suspendFind id =>
    match s.users.get id with
    | none => some (s, userNotFound)
    | some user =>
      if user.status = .suspended then
        some (s, .rejected (.http (.badRequest "This account is already suspended")))
      else some (s, .suspendSave id)
  | .suspendSave id =>
    some ((s.modifyUser id fun u => { u with status := .suspended }).countWrite id,
      .sweep id (s.written id + 1))
  | .sweep userId write =>
    some ((s.revokeAll userId r.now).countSweep userId write, .revoked userId write)
  | .reactivateFind id =>
    match s.users.get id with
    | none => some (s, userNotFound)
    | some user =>
      if user.status = .suspended then some (s, .reactivateSave id)
      else some (s, .rejected (.http (.badRequest "This account is not suspended")))
  | .reactivateSave id =>
    some (s.modifyUser id fun u => { u with status := .active }, .returned)
  | .revoked _ _ => none
  | .reuseDetected _ => none
  | .returned => none
  | .rejected _ => none

/-- What happens beside the calls: an account is created. -/
inductive SessionEnvEvent
  | createUser (user : User)

def envSessions (s : Sessions) : SessionEnvEvent → Option Sessions
  | .createUser user =>
    (createUser s.users user).toOption.map fun users => { s with users := users }

/-- Any number of calls. -/
def sessions (cfg : AuthConfig) :
    Machine Sessions SessionPc SessionRequest SessionReply SessionEnvEvent where
  start _ := SessionPc.start
  step := sessionStep cfg
  env := envSessions

abbrev SessionPool := Pool Sessions SessionPc

abbrev SessionEvent := Event SessionRequest SessionReply SessionEnvEvent

/-- No users, no tokens and no calls. -/
def SessionPool.initial : SessionPool := ⟨.empty, []⟩

/-- A hash that shows its password, and tokens of a thousand milliseconds. -/
def plainAuth : AuthConfig where
  compare password passwordHash := passwordHash = "$2b$" ++ password
  fingerprint passwordHash := passwordHash
  refreshTtlMs := 1000

/-- The calls take their next steps in this order. -/
def sessionTurns (calls : List Nat) : List SessionEvent := calls.map fun i => .run i ⟨0⟩

/-- A concrete run that checks out and ends as wanted. -/
theorem exists_sessionRun (okb : SessionPool → SessionEvent → Bool) (P : SessionPool → Bool)
    (es : List SessionEvent)
    (h : ((sessions plainAuth).play okb SessionPool.initial es).any P = true) :
    ∃ s, (sessions plainAuth).Reach (fun s e => okb s e = true) SessionPool.initial s ∧
      P s = true :=
  Machine.exists_reach_of_play (fun _ _ h => h) es h

/-- A user is there and logs in. -/
def loggedInRun : List SessionEvent :=
  [.env (.createUser ⟨"ada@example.com", "$2b$first", "Ada", .customer, true, none, .absent, false,
      .active⟩),
    .spawn (.login "ada@example.com" "first")] ++ sessionTurns [0, 0]

/-! ## What a call leaves of the tokens -/

/-- Tokens are at most revoked. -/
structure Sessions.Rewrites (s s' : Sessions) : Prop where
  nextId : s'.refreshTokens.nextId = s.refreshTokens.nextId
  origin : ∀ i t', s'.refreshTokens.get i = some t' → ∃ t, s.refreshTokens.get i = some t ∧
    t'.userId = t.userId ∧ t'.parent = t.parent ∧ t'.root = t.root ∧ t'.ticket = t.ticket ∧
      (t'.revokedAt = none → t.revokedAt = none)

section Moves

variable {cfg : AuthConfig} {s s' : Sessions} {pc pc' : SessionPc} {r : SessionReply}
  {raw : RefreshTokenId}

theorem Sessions.Rewrites.of_eq (h : s'.refreshTokens = s.refreshTokens) : s.Rewrites s' := by
  refine ⟨by rw [h], fun i t ht => ?_⟩
  rw [h] at ht
  exact ⟨t, ht, rfl, rfl, rfl, rfl, id⟩

theorem Sessions.rewrites_modifyToken {f : RefreshToken → RefreshToken}
    (hf : ∀ t, (f t).userId = t.userId ∧ (f t).parent = t.parent ∧ (f t).root = t.root ∧
      (f t).ticket = t.ticket ∧ ((f t).revokedAt = none → t.revokedAt = none)) :
    s.Rewrites (s.modifyToken raw f) := by
  refine ⟨Collection.nextId_modify, fun i t' ht' => ?_⟩
  rcases Collection.get_modify_cases ht' with ⟨rfl, t, ht, rfl⟩ | ⟨_, ht⟩
  · exact ⟨t, ht, hf t⟩
  · exact ⟨t', ht, rfl, rfl, rfl, rfl, id⟩

theorem Sessions.rewrites_save {now : Time} {child : RefreshTokenId} :
    s.Rewrites (s.modifyToken raw fun t =>
      { t with revokedAt := some now, replacedByTokenHash := some child }) :=
  Sessions.rewrites_modifyToken fun _ => ⟨rfl, rfl, rfl, rfl, fun hnone => by cases hnone⟩

theorem Sessions.rewrites_logout {now : Time} :
    s.Rewrites (s.modifyToken raw fun t =>
      { t with revokedAt := t.revokedAt.or (some now) }) := by
  refine Sessions.rewrites_modifyToken fun t => ⟨rfl, rfl, rfl, rfl, fun hnone => ?_⟩
  exact (Option.or_eq_none_iff.mp hnone).1

/-- What `updateMany` leaves of a token. -/
theorem Sessions.get_revokeAll {userId : UserId} {now : Time} {i : RefreshTokenId}
    {t' : RefreshToken} (h : (s.revokeAll userId now).refreshTokens.get i = some t') :
    ∃ t, s.refreshTokens.get i = some t ∧
      ((t.userId = userId ∧ t.revokedAt = none ∧ t' = { t with revokedAt := some now }) ∨
        (t' = t ∧ (t.userId = userId → t.revokedAt ≠ none))) := by
  rw [revokeAll, Collection.get_updateMany, Option.map_eq_some_iff] at h
  obtain ⟨t, ht, hif⟩ := h
  refine ⟨t, ht, ?_⟩
  split at hif
  · next hmatch =>
    rw [Bool.and_eq_true, decide_eq_true_eq, Option.isNone_iff_eq_none] at hmatch
    exact Or.inl ⟨hmatch.1, hmatch.2, hif.symm⟩
  · next hmatch =>
    refine Or.inr ⟨hif.symm, fun hu hnone => hmatch ?_⟩
    rw [Bool.and_eq_true, decide_eq_true_eq, Option.isNone_iff_eq_none]
    exact ⟨hu, hnone⟩

theorem Sessions.rewrites_revokeAll {userId : UserId} {now : Time} :
    s.Rewrites (s.revokeAll userId now) := by
  refine ⟨Collection.nextId_updateMany, fun i t' ht' => ?_⟩
  obtain ⟨t, ht, ⟨_, hnone, rfl⟩ | ⟨rfl, _⟩⟩ := Sessions.get_revokeAll ht'
  · exact ⟨t, ht, rfl, rfl, rfl, rfl, fun _ => hnone⟩
  · exact ⟨t', ht, rfl, rfl, rfl, rfl, id⟩

theorem Sessions.rewrites_sweep {userId : UserId} {now : Time} {write : Nat} :
    s.Rewrites ((s.revokeAll userId now).countSweep userId write) :=
  ⟨Sessions.rewrites_revokeAll.nextId, Sessions.rewrites_revokeAll.origin⟩

/-- **After `updateMany` the user has no unrevoked token.** -/
theorem Sessions.revoked_of_revokeAll {userId : UserId} {now : Time} {i : RefreshTokenId}
    {t' : RefreshToken} (h : (s.revokeAll userId now).refreshTokens.get i = some t')
    (hu : t'.userId = userId) : t'.revokedAt ≠ none := by
  obtain ⟨t, ht, ⟨_, _, rfl⟩ | ⟨rfl, hrevoked⟩⟩ := Sessions.get_revokeAll h
  · exact Option.some_ne_none now
  · exact hrevoked hu

/-- What one database call does to the tokens. -/
inductive SessionMove (cfg : AuthConfig) (s : Sessions) (r : SessionReply) :
    SessionPc → Sessions → SessionPc → Prop
  | found {pc : SessionPc} (id : UserId) :
    SessionMove cfg s r pc s (.loginCreate id (s.written id))
  | opened (userId : UserId) (ticket : Nat) :
    SessionMove cfg s r (.loginCreate userId ticket)
      (s.insertToken (s.loginToken cfg r.now userId ticket)) .returned
  | presented {raw : RefreshTokenId} {stored : RefreshToken}
    (hget : s.refreshTokens.get raw = some stored) (hlive : ¬ stored.expiresAt < r.now)
    (hvalid : stored.revokedAt = none) :
    SessionMove cfg s r (.refreshFind raw) s (.refreshUser raw stored)
  | reused {raw : RefreshTokenId} (userId : UserId) :
    SessionMove cfg s r (.refreshFind raw) s (.revokeFamily userId)
  | family (userId : UserId) :
    SessionMove cfg s r (.revokeFamily userId) (s.revokeAll userId r.now) (.reuseDetected userId)
  | admitted {raw : RefreshTokenId} {stored : RefreshToken} {user : User}
    (hget : s.users.get stored.userId = some user) (hactive : user.status ≠ .suspended) :
    SessionMove cfg s r (.refreshUser raw stored) s (.refreshCreate raw stored)
  | redeemed (raw : RefreshTokenId) (stored : RefreshToken) :
    SessionMove cfg s r (.refreshCreate raw stored)
      (s.insertToken (Sessions.childToken cfg r.now raw stored))
      (.refreshSave raw s.refreshTokens.nextId)
  | saved (raw child : RefreshTokenId) :
    SessionMove cfg s r (.refreshSave raw child)
      (s.modifyToken raw fun t =>
        { t with revokedAt := some r.now, replacedByTokenHash := some child }) .returned
  | loggedOut (raw : RefreshTokenId) :
    SessionMove cfg s r (.logoutUpdate raw)
      (s.modifyToken raw fun t => { t with revokedAt := t.revokedAt.or (some r.now) }) .returned
  | wrote {pc : SessionPc} {f : User → User} (id : UserId) :
    SessionMove cfg s r pc ((s.modifyUser id f).countWrite id) (.sweep id (s.written id + 1))
  | swept (userId : UserId) (write : Nat) :
    SessionMove cfg s r (.sweep userId write)
      ((s.revokeAll userId r.now).countSweep userId write) (.revoked userId write)
  | other {pc pc' : SessionPc} {s' : Sessions} (htokens : s'.refreshTokens = s.refreshTokens)
    (hwritten : s'.written = s.written) (hswept : s'.swept = s.swept)
    (hquiet : pc'.quiet = true) : SessionMove cfg s r pc s' pc'

theorem SessionMove.idle (hquiet : pc'.quiet = true) : SessionMove cfg s r pc s pc' :=
  .other rfl rfl rfl hquiet

theorem User.assertActive_eq_ok {user : User} {u : Unit} (h : user.assertActive = .ok u) :
    user.status ≠ .suspended := by
  intro hs
  rw [User.assertActive, if_pos hs] at h
  cases h

/-- **All that one database call can do.** -/
theorem session_move (h : sessionStep cfg s pc r = some (s', pc')) :
    SessionMove cfg s r pc s' pc' := by
  cases pc with
  | loginFind email password =>
    cases h
    unfold afterLoginFind
    split
    · exact .idle rfl
    · split
      · split
        · exact .idle rfl
        · exact .found _
      · exact .idle rfl
  | signInFind userId =>
    cases h
    unfold afterSignInFind
    split
    · exact .idle rfl
    · split
      · exact .idle rfl
      · exact .found _
  | loginCreate userId ticket => cases h; exact .opened userId ticket
  | refreshFind raw =>
    cases h
    cases hget : s.refreshTokens.get raw with
    | none => exact .idle rfl
    | some stored =>
      simp only [afterRefreshFind]
      split
      · exact .idle rfl
      · next hlive =>
        split
        · exact .reused _
        · next hvalid => exact .presented hget hlive (by simpa using hvalid)
  | revokeFamily userId => cases h; exact .family userId
  | refreshUser raw stored =>
    cases h
    cases hget : s.users.get stored.userId with
    | none => exact .idle rfl
    | some user =>
      simp only [afterRefreshUser]
      split
      · exact .idle rfl
      · next hok => exact .admitted hget (User.assertActive_eq_ok hok)
  | refreshCreate raw stored => cases h; exact .redeemed raw stored
  | refreshSave raw child => cases h; exact .saved raw child
  | logoutUpdate raw => cases h; exact .loggedOut raw
  | forgotFind email =>
    simp only [sessionStep] at h
    split at h <;> cases h
    · exact .idle rfl
    · exact .other rfl rfl rfl rfl
  | resetFind rawToken passwordHash =>
    simp only [sessionStep] at h
    split at h
    · cases h; exact .idle rfl
    · split at h <;> cases h <;> exact .idle rfl
  | resetCheck payload email passwordHash =>
    simp only [sessionStep] at h
    split at h
    · cases h; exact .idle rfl
    · split at h <;> cases h <;> exact .idle rfl
  | changeFind userId currentPassword passwordHash =>
    simp only [sessionStep] at h
    split at h
    · cases h; exact .idle rfl
    · split at h <;> cases h <;> exact .idle rfl
  | passwordWrite userId passwordHash => cases h; exact .wrote userId
  | suspendFind id =>
    simp only [sessionStep] at h
    split at h
    · cases h; exact .idle rfl
    · split at h <;> cases h <;> exact .idle rfl
  | suspendSave id => cases h; exact .wrote id
  | sweep userId write => cases h; exact .swept userId write
  | reactivateFind id =>
    simp only [sessionStep] at h
    split at h
    · cases h; exact .idle rfl
    · split at h <;> cases h <;> exact .idle rfl
  | reactivateSave id => cases h; exact .other rfl rfl rfl rfl
  | revoked _ _ => cases h
  | reuseDetected _ => cases h
  | returned => cases h
  | rejected _ => cases h

/-- A token is inserted by a login or for one that is redeemed; other calls revoke at most. -/
theorem SessionMove.tokens (hm : SessionMove cfg s r pc s' pc') : s.Rewrites s' ∨
    (∃ userId ticket, pc = .loginCreate userId ticket ∧
      s' = s.insertToken (s.loginToken cfg r.now userId ticket)) ∨
    ∃ raw stored, pc = .refreshCreate raw stored ∧ pc' = .refreshSave raw s.refreshTokens.nextId ∧
      s' = s.insertToken (Sessions.childToken cfg r.now raw stored) := by
  cases hm with
  | found id => exact Or.inl (.of_eq rfl)
  | opened userId ticket => exact Or.inr (Or.inl ⟨userId, ticket, rfl, rfl⟩)
  | presented hget hlive hvalid => exact Or.inl (.of_eq rfl)
  | reused userId => exact Or.inl (.of_eq rfl)
  | family userId => exact Or.inl Sessions.rewrites_revokeAll
  | admitted hget hactive => exact Or.inl (.of_eq rfl)
  | redeemed raw stored => exact Or.inr (Or.inr ⟨raw, stored, rfl, rfl, rfl⟩)
  | saved raw child => exact Or.inl Sessions.rewrites_save
  | loggedOut raw => exact Or.inl Sessions.rewrites_logout
  | wrote id => exact Or.inl (.of_eq rfl)
  | swept userId write => exact Or.inl Sessions.rewrites_sweep
  | other htokens _ _ _ => exact Or.inl (.of_eq htokens)

/-- **A token that is saved is revoked.** -/
theorem revoked_of_save {child : RefreshTokenId} {t' : RefreshToken}
    (h : sessionStep cfg s (.refreshSave raw child) r = some (s', pc'))
    (ht' : s'.refreshTokens.get raw = some t') : t'.revokedAt ≠ none := by
  cases h
  rcases Collection.get_modify_cases ht' with ⟨_, t, _, rfl⟩ | ⟨hne, _⟩
  · exact Option.some_ne_none r.now
  · exact absurd rfl hne

theorem quiet_start (k : SessionRequest) : (SessionPc.start k).quiet = true := by
  cases k with
  | suspend id requesterId =>
    simp only [SessionPc.start]
    split <;> rfl
  | _ => rfl

theorem eq_none_of_quiet (h : pc.quiet = true) :
    pc.holds = none ∧ pc.issuing = none ∧ pc.revoking = none := by
  rw [SessionPc.quiet, Bool.and_eq_true, Bool.and_eq_true, Option.isNone_iff_eq_none,
    Option.isNone_iff_eq_none, Option.isNone_iff_eq_none] at h
  exact h

/-- What happens beside the calls is nothing to the tokens. -/
theorem envSessions_tokens {e : SessionEnvEvent} (h : envSessions s e = some s') :
    s'.refreshTokens = s.refreshTokens ∧ s'.written = s.written ∧ s'.swept = s.swept := by
  cases e with
  | createUser user =>
    obtain ⟨users, _, rfl⟩ := Option.map_eq_some_iff.mp h
    exact ⟨rfl, rfl, rfl⟩

end Moves

end FoodDelivery
