import FoodDelivery.Auth.User
import FoodDelivery.Riders.Rider

/-!
# Accounts and their phones

The paths on which an account comes about or its phone is set: `register`, the two halves of the SMS
code, `updateProfile`, `RidersService.apply` and the sign-in with a provider.  A raw token is known
by its place among the tokens signed with `JWT_EMAIL_SECRET`: one that was never signed does not
verify.  The code that is drawn, the hash that `bcrypt` makes of a password and the time are the
outside; `hashToken` is a parameter.

* `Accounts.handle`: one request, run to its end.
-/

namespace FoodDelivery

open Store RidersService

/-! ## The documents -/

/-- `PHONE_OTP_PURPOSES`. -/
inductive PhoneOtpPurpose
  | signup
  | login
  deriving DecidableEq, Repr

structure PhoneOtp where
  phone : String
  codeHash : String
  purpose : PhoneOtpPurpose
  expiresAt : Time
  attempts : Nat
  consumedAt : Option Time
  deriving DecidableEq

/-- The payloads, by their `purpose`. -/
inductive EmailSecretPayload
  | verifyEmail (sub : UserId)
  | verifyPhoneSignup (phone : String)
  | oauthExchange (sub : UserId)
  deriving DecidableEq

structure SignedToken where
  payload : EmailSecretPayload
  expiresAt : Time
  deriving DecidableEq

/-- A token as a client holds it. -/
abbrev RawToken := Nat

/-- `RegisterDto`; `email` as it is stored. -/
structure RegisterDto where
  email : String
  name : String
  role : Option UserRole
  phone : Option String
  phoneVerificationToken : Option RawToken
  deriving DecidableEq

structure OAuthProfile where
  email : String
  name : String
  deriving DecidableEq

structure Accounts where
  users : Collection User
  phoneOtps : Collection (Option PhoneOtp)
  signed : Collection SignedToken
  riders : Collection Rider
  deriving DecidableEq

/-! ## The services -/

/-- `PHONE_OTP_TTL_MS`. -/
def phoneOtpTtlMs : Time := 5 * 60 * 1000

/-- `PHONE_OTP_MAX_ATTEMPTS`. -/
def phoneOtpMaxAttempts : Nat := 5

namespace Accounts

/-- Nobody is there yet. -/
def empty : Accounts := ⟨Collection.empty, Collection.empty, Collection.empty, Collection.empty⟩

def withUsers (s : Accounts) (users : Collection User) : Accounts := { s with users := users }

/-- `jwtService.sign`. -/
def sign (s : Accounts) (payload : EmailSecretPayload) (expiresAt : Time) : Accounts :=
  { s with signed := s.signed.create ⟨payload, expiresAt⟩ }

/-- `jwtService.verify`. -/
def verify (s : Accounts) (now : Time) (rawToken : RawToken) : Option EmailSecretPayload :=
  ((s.signed.get rawToken).filter (now < ·.expiresAt)).map (·.payload)

/-! ### Registration -/

def consumePhoneSignupToken (s : Accounts) (now : Time) (phone : String)
    (rawToken : Option RawToken) : Except AuthError String :=
  match rawToken with
  | none =>
    .error (.http (.badRequest "phoneVerificationToken is required when phone is provided"))
  | some rawToken =>
    match s.verify now rawToken with
    | some (.verifyPhoneSignup provenPhone) =>
      if provenPhone = phone then .ok provenPhone
      else .error (.http (.badRequest "Invalid or expired phone verification"))
    | _ => .error (.http (.badRequest "Invalid or expired phone verification"))

/-- The phone that an account starts with. -/
def verifiedPhone (s : Accounts) (now : Time) (dto : RegisterDto) :
    Except AuthError (Option String) :=
  match dto.phone.filter (· ≠ "") with
  | none => .ok none
  | some phone => (s.consumePhoneSignupToken now phone dto.phoneVerificationToken).map some

/-- Nothing was found. -/
def assertFree (found : Option (UserId × User)) (message : String) : Except AuthError Unit :=
  match found with
  | none => .ok ()
  | some _ => .error (.conflict message)

/-- What `register` creates. -/
def newUser (dto : RegisterDto) (passwordHash : String) (phone : Option String) : User where
  email := dto.email
  passwordHash := passwordHash
  name := dto.name
  role := dto.role.getD .customer
  isEmailVerified := false
  avatarUrl := none
  phone := (phone.map Given.value).getD .absent
  isPhoneVerified := phone.isSome
  status := .active

def register (s : Accounts) (now : Time) (dto : RegisterDto) (passwordHash : String) :
    Except AuthError Accounts := do
  assertFree (findByEmail s.users dto.email) "An account with this email already exists"
  let phone ← s.verifiedPhone now dto
  assertFree (phone.bind (findByPhone s.users))
    "An account with this phone number already exists"
  let users ← createUser s.users (newUser dto passwordHash phone)
  -- the verification email
  return (s.withUsers users).sign (.verifyEmail s.users.nextId) (now + 24 * 60 * 60 * 1000)

/-! ### Codes -/

section Codes

variable (hashToken : String → String)

/-- The code `code` is drawn and sent.  A login code is for who has a verified phone only. -/
def sendPhoneCode (s : Accounts) (now : Time) (phone : String) (purpose : PhoneOtpPurpose)
    (code : String) : Accounts :=
  if purpose = .login && !(findByPhone s.users phone).any (·.2.isPhoneVerified) then s
  else
    let live := (s.phoneOtps.findLive fun _ otp =>
      otp.phone = phone && (otp.purpose = purpose && otp.consumedAt.isNone)).map (·.1)
    let otp : PhoneOtp := ⟨phone, hashToken code, purpose, now + phoneOtpTtlMs, 0, none⟩
    { s with phoneOtps := (live.foldl Collection.remove s.phoneOtps).create (some otp) }

/-- The latest code that has not been given back. -/
def latestOtp (s : Accounts) (phone : String) (purpose : PhoneOtpPurpose) :
    Option (Nat × PhoneOtp) :=
  (s.phoneOtps.findLive fun _ otp =>
    otp.phone = phone && (otp.purpose = purpose && otp.consumedAt.isNone)).getLast?

def saveOtp (s : Accounts) (id : Nat) (otp : PhoneOtp) : Accounts :=
  { s with phoneOtps := s.phoneOtps.modify id fun _ => some otp }

/-- The checks of `verifyPhoneCode` on a code that was sent. -/
def checkOtp (now : Time) (code : String) (otp : PhoneOtp) : Except AuthError Unit :=
  if otp.expiresAt < now then .error (.unauthorized "Invalid or expired code")
  else if phoneOtpMaxAttempts ≤ otp.attempts then
    .error (.unauthorized "Too many attempts — request a new code")
  else if otp.codeHash ≠ hashToken code then .error (.unauthorized "Invalid or expired code")
  else .ok ()

/-- A wrong code counts as an attempt, when there is one left. -/
def countAttempt (now : Time) (otp : PhoneOtp) : PhoneOtp :=
  if otp.expiresAt < now ∨ phoneOtpMaxAttempts ≤ otp.attempts then otp
  else { otp with attempts := otp.attempts + 1 }

/-- Who logs in with a phone. -/
def loginByPhone (s : Accounts) (phone : String) : Except AuthError Unit :=
  match findByPhone s.users phone with
  | none => .error (.unauthorized "No account found with this phone number")
  | some (_, user) =>
    if !user.isPhoneVerified then
      .error (.unauthorized "No account found with this phone number")
    else user.assertActive

def verifyPhoneCode (s : Accounts) (now : Time) (phone code : String)
    (purpose : PhoneOtpPurpose) : Accounts × Except AuthError Unit :=
  match s.latestOtp phone purpose with
  | none => (s, .error (.unauthorized "Invalid or expired code"))
  | some (id, otp) =>
    match checkOtp hashToken now code otp with
    | .error e => (s.saveOtp id (countAttempt now otp), .error e)
    | .ok () =>
      let s' := s.saveOtp id { otp with consumedAt := some now }
      match purpose with
      | .login => (s', s'.loginByPhone phone)
      | .signup => (s'.sign (.verifyPhoneSignup phone) (now + 10 * 60 * 1000), .ok ())

end Codes

/-! ### Applications and providers -/

def apply (s : Accounts) (requester : AccessTokenPayload) (phone : String) (dto : ApplyRiderDto)
    (today : CalendarDate) (now : Time) : Except AuthError Accounts := do
  (checkApplicantRole requester.role).mapError .http
  (match findRider s.riders requester.sub with
    | none => .ok ()
    | some _ => .error (.http (.badRequest "You already applied")))
  (checkApplication today now dto).mapError .http
  let users ← updateProfile s.users requester.sub ⟨.absent, .absent, .value phone⟩
  return { s with
    users := users.modify requester.sub fun user => { user with role := .rider }
    riders := s.riders.create (dto.toRider requester.sub) }

/-- The user of a provider's email, created when there is none. -/
def findOrCreate (s : Accounts) (profile : OAuthProfile) (passwordHash : String) :
    Except AuthError (UserId × Collection User) :=
  match findByEmail s.users profile.email with
  | some (id, _) => .ok (id, s.users)
  | none =>
    (createUser s.users (newUser ⟨profile.email, profile.name, none, none, none⟩ passwordHash
      none)).map fun users => (s.users.nextId, users)

def loginOrRegisterWithOAuthProfile (s : Accounts) (now : Time) (profile : OAuthProfile)
    (passwordHash : String) : Except AuthError Accounts := do
  let found ← s.findOrCreate profile passwordHash
  let users := found.2.modify found.1 fun user => { user with isEmailVerified := true }
  return (s.withUsers users).sign (.oauthExchange found.1) (now + 60 * 1000)

def verifyEmail (s : Accounts) (now : Time) (rawToken : RawToken) : Except AuthError Accounts :=
  match s.verify now rawToken with
  | some (.verifyEmail sub) =>
    .ok (s.withUsers (s.users.modify sub fun user => { user with isEmailVerified := true }))
  | _ => .error (.unauthorized "Invalid or expired token")

/-- The exchange issues tokens, and leaves the accounts as they are. -/
def exchangeOAuthToken (s : Accounts) (now : Time) (rawToken : RawToken) :
    Except AuthError Unit :=
  match s.verify now rawToken with
  | some (.oauthExchange sub) =>
    match s.users.get sub with
    | none => .error (.unauthorized "Invalid or expired sign-in link")
    | some user => user.assertActive
  | _ => .error (.unauthorized "Invalid or expired sign-in link")

def suspend (s : Accounts) (id : UserId) (requesterId : UserId) : Except AuthError Accounts :=
  if id = requesterId then .error (.http (.badRequest "You cannot suspend your own account"))
  else
    match s.users.get id with
    | none => .error (.http (.notFound "User not found"))
    | some user =>
      if user.status = .suspended then
        .error (.http (.badRequest "This account is already suspended"))
      else .ok (s.withUsers (s.users.modify id fun u => { u with status := .suspended }))

def reactivate (s : Accounts) (id : UserId) : Except AuthError Accounts :=
  match s.users.get id with
  | none => .error (.http (.notFound "User not found"))
  | some user =>
    if user.status ≠ .suspended then
      .error (.http (.badRequest "This account is not suspended"))
    else .ok (s.withUsers (s.users.modify id fun u => { u with status := .active }))

end Accounts

/-! ## Requests -/

inductive AccountCall
  | register (now : Time) (dto : RegisterDto) (passwordHash : String)
  | sendPhoneCode (now : Time) (phone : String) (purpose : PhoneOtpPurpose) (code : String)
  | verifyPhoneCode (now : Time) (phone code : String) (purpose : PhoneOtpPurpose)
  | updateProfile (id : UserId) (dto : UpdateProfileDto)
  | apply (requester : AccessTokenPayload) (phone : String) (dto : ApplyRiderDto)
    (today : CalendarDate) (now : Time)
  | loginOrRegisterWithOAuthProfile (now : Time) (profile : OAuthProfile) (passwordHash : String)
  | exchangeOAuthToken (now : Time) (rawToken : RawToken)
  | verifyEmail (now : Time) (rawToken : RawToken)
  | suspend (id requesterId : UserId)
  | reactivate (id : UserId)

namespace Accounts

/-- A request that throws before it writes leaves the collections as they are. -/
def attempt (s : Accounts) : Except AuthError Accounts → Accounts × Except AuthError Unit
  | .ok s' => (s', .ok ())
  | .error e => (s, .error e)

def handle (hashToken : String → String) (s : Accounts) :
    AccountCall → Accounts × Except AuthError Unit
  | .register now dto passwordHash => s.attempt (s.register now dto passwordHash)
  | .sendPhoneCode now phone purpose code =>
    (s.sendPhoneCode hashToken now phone purpose code, .ok ())
  | .verifyPhoneCode now phone code purpose => s.verifyPhoneCode hashToken now phone code purpose
  | .updateProfile id dto => s.attempt ((FoodDelivery.updateProfile s.users id dto).map s.withUsers)
  | .apply requester phone dto today now => s.attempt (s.apply requester phone dto today now)
  | .loginOrRegisterWithOAuthProfile now profile passwordHash =>
    s.attempt (s.loginOrRegisterWithOAuthProfile now profile passwordHash)
  | .exchangeOAuthToken now rawToken => (s, s.exchangeOAuthToken now rawToken)
  | .verifyEmail now rawToken => s.attempt (s.verifyEmail now rawToken)
  | .suspend id requesterId => s.attempt (s.suspend id requesterId)
  | .reactivate id => s.attempt (s.reactivate id)

def step (hashToken : String → String) (s : Accounts) (call : AccountCall) : Accounts :=
  (s.handle hashToken call).1

end Accounts

end FoodDelivery
