import FoodDelivery.Auth.Accounts
import FoodDelivery.Lib.Interleave

/-!
# Admins

Who is an admin, and on whose word.  An access token carries the role and the flag `isSuperAdmin`
that its user had when a sign-in looked the user up; the guards go by the token alone.  The requests
that create users, sign tokens or write roles are processes that take one database call at a time;
a call that fails takes no further step.  The credentials of a sign-in are left open: whoever asks
is let in as any active user.

* `authorize`: the guards in front of a route.
* `admins`: any number of requests, and the script `seed-admin` beside them.
* `admin_move`: all that one database call does to roles, flags and tokens.
-/

namespace FoodDelivery

open Store Interleave RidersService

/-! ## The documents -/

/-- A signed access token. -/
structure AccessToken extends AccessTokenPayload where
  isSuperAdmin : Bool
  expiresAt : Time
  deriving DecidableEq

/-- A role that a request has set. -/
structure AdminGrant where
  granter : UserId
  grantee : UserId
  role : UserRole
  deriving DecidableEq

/-- The collections, the access tokens that have been signed, and the time.  `User` leaves the flag
`isSuperAdmin` out: it stands here.  Beside them: whom the script has made an admin, and which roles
`changeAdminRole` has set. -/
structure Admins where
  users : Collection User
  isSuperAdmin : UserId → Bool
  riders : Collection Rider
  accessTokens : Collection AccessToken
  clock : Time
  seeded : List UserId
  grants : List AdminGrant

/-- `SELF_REGISTERABLE_ROLES`. -/
def selfRegisterableRoles : List UserRole := [.customer, .restaurantOwner]

/-- `ROLE_CHANGE_TARGETS`. -/
def roleChangeTargets : List UserRole := [.customer, .admin]

/-- `user.role.replace('_', ' ')`. -/
def UserRole.spaced : UserRole → String
  | .customer => "customer"
  | .restaurantOwner => "restaurant owner"
  | .rider => "rider"
  | .admin => "admin"

namespace Admins

/-- Nobody is there yet. -/
def empty : Admins :=
  ⟨Collection.empty, fun _ => false, Collection.empty, Collection.empty, 0, [], []⟩

/-! ## The guards -/

/-- `JwtAuthGuard`. -/
def authenticate (s : Admins) (rawToken : RawToken) : Except AuthError AccessToken :=
  match (s.accessTokens.get rawToken).filter (s.clock < ·.expiresAt) with
  | none => .error (.unauthorized "Unauthorized")
  | some token => .ok token

/-- `RolesGuard`. -/
def checkRoles (requiredRoles : List UserRole) (user : AccessToken) : Except AuthError Unit :=
  if requiredRoles = [] ∨ user.role ∈ requiredRoles then .ok ()
  else .error (.http (.forbidden "You do not have permission to perform this action"))

/-- `SuperAdminGuard`. -/
def checkSuperAdmin (user : AccessToken) : Except AuthError Unit :=
  if user.isSuperAdmin then .ok ()
  else .error (.http (.forbidden "Only a super admin can grant or revoke admin access."))

/-- The guards in front of a route. -/
def authorize (s : Admins) (requiredRoles : List UserRole) (superAdmin : Bool)
    (rawToken : RawToken) : Except AuthError AccessToken := do
  let user ← s.authenticate rawToken
  checkRoles requiredRoles user
  if superAdmin then checkSuperAdmin user
  return user

end Admins

/-! ## The requests -/

/-- The phone of a registration is the one that its verification token proves. -/
inductive AdminRequest
  | register (dto : RegisterDto) (passwordHash : String) (verifiedPhone : Option String)
  | oauth (profile : OAuthProfile) (passwordHash : String)
  | signIn (userId : UserId)
  | apply (rawToken : RawToken) (phone : String) (dto : ApplyRiderDto) (today : CalendarDate)
  | updateRole (rawToken : RawToken) (id : UserId) (role : UserRole)
  | suspend (rawToken : RawToken) (id : UserId)
  | reactivate (rawToken : RawToken) (id : UserId)

inductive AdminPc
  | registerFind (user : User)
  | registerFindPhone (user : User) (phone : String)
  | registerCreate (user : User)
  | oauthFind (profile : OAuthProfile) (passwordHash : String)
  | oauthCreate (user : User)
  | oauthVerify (id : UserId)
  | signInFind (userId : UserId)
  | issue (payload : AccessTokenPayload) (isSuperAdmin : Bool)
  | applyFind (requester : AccessTokenPayload) (phone : String) (dto : ApplyRiderDto)
    (today : CalendarDate)
  | profileFind (id : UserId) (phone : String) (dto : ApplyRiderDto)
  | profileSave (id : UserId) (phone : String) (dto : ApplyRiderDto)
  | riderCreate (id : UserId) (dto : ApplyRiderDto)
  | riderRole (id : UserId)
  | roleFind (granter id : UserId) (role : UserRole)
  | roleSave (granter id : UserId) (role foundRole : UserRole) (foundFlag : Bool)
  | suspendFind (id : UserId)
  | suspendSave (id : UserId)
  | reactivateFind (id : UserId)
  | reactivateSave (id : UserId)
  | returned
  | rejected (error : AuthError)

namespace AdminPc

/-- What a check lets through, or throws. -/
def orReject {α : Type} (next : α → AdminPc) : Except AuthError α → AdminPc
  | .error e => .rejected e
  | .ok a => next a

end AdminPc

open AdminPc

/-- What a request does before its first database call.  The guards come before the bodies are
validated. -/
def startAdmin (s : Admins) : AdminRequest → AdminPc
  | .register dto passwordHash verifiedPhone =>
    if dto.role.all (· ∈ selfRegisterableRoles) then
      .registerFind (Accounts.newUser dto passwordHash verifiedPhone)
    else .rejected .validation
  | .oauth profile passwordHash => .oauthFind profile passwordHash
  | .signIn userId => .signInFind userId
  | .apply rawToken phone dto today =>
    orReject (fun user => orReject (fun _ => .applyFind user.toAccessTokenPayload phone dto today)
      ((checkApplicantRole user.role).mapError .http)) (s.authorize [] false rawToken)
  | .updateRole rawToken id role =>
    orReject (fun user => if role ∈ roleChangeTargets then .roleFind user.sub id role
      else .rejected .validation) (s.authorize [.admin] true rawToken)
  | .suspend rawToken id =>
    orReject (fun user =>
      if id = user.sub then
        .rejected (.http (.badRequest "You cannot suspend your own account"))
      else .suspendFind id) (s.authorize [.admin] false rawToken)
  | .reactivate rawToken id =>
    orReject (fun _ => .reactivateFind id) (s.authorize [.admin] false rawToken)

namespace Admins

def modifyUser (s : Admins) (id : UserId) (f : User → User) : Admins :=
  { s with users := s.users.modify id f }

/-- `jwtService.sign` in `issueTokens`. -/
def signAccess (s : Admins) (ttl : Time) (payload : AccessTokenPayload) (isSuperAdmin : Bool) :
    Admins :=
  { s with accessTokens := s.accessTokens.create ⟨payload, isSuperAdmin, s.clock + ttl⟩ }

/-- `user.save()` in `changeAdminRole`: a path that holds its value already is not written. -/
def saveRole (s : Admins) (granter id : UserId) (role foundRole : UserRole) (foundFlag : Bool) :
    Admins :=
  { s with
    users := if role = foundRole then s.users
      else s.users.modify id fun u => { u with role := role }
    isSuperAdmin := if role = .customer && foundFlag then Function.update s.isSuperAdmin id false
      else s.isSuperAdmin
    grants := s.grants ++ [⟨granter, id, role⟩] }

/-- `findByIdOrThrow`. -/
def findByIdOrThrow (s : Admins) (id : UserId) : Except AuthError User :=
  match s.users.get id with
  | none => .error (.http (.notFound "User not found"))
  | some user => .ok user

/-- What `issueTokens` puts into the access token of a user. -/
def issuePc (s : Admins) (id : UserId) (user : User) : AdminPc :=
  .issue ⟨id, user.role⟩ (s.isSuperAdmin id)

/-- What follows the lookup of a registration: nobody may be found. -/
def afterTaken (found : Option (UserId × User)) (message : String) (next : AdminPc) : AdminPc :=
  match found with
  | some _ => .rejected (.conflict message)
  | none => next

/-- What a sign-in does with the user it found. -/
def afterSignIn (s : Admins) (id : UserId) : Option User → AdminPc
  | none => .rejected (.unauthorized "Invalid or expired sign-in link")
  | some user => orReject (fun _ => s.issuePc id user) user.assertActive

/-- What `changeAdminRole` does with the user it found. -/
def afterRoleFind (s : Admins) (granter id : UserId) (role : UserRole) (user : User) : AdminPc :=
  if user.role ∈ roleChangeTargets then .roleSave granter id role user.role (s.isSuperAdmin id)
  else .rejected (.http (.badRequest
    (s!"A {user.role.spaced}'s role can't be changed here — " ++
      "only a customer can be made an admin, or an admin returned to a customer.")))

end Admins

/-- One database call, and what the request does until its next one. -/
def adminStep (ttl : Time) (s : Admins) (pc : AdminPc) (_ : Unit) : Option (Admins × AdminPc) :=
  match pc with
  | .registerFind user =>
    some (s, Admins.afterTaken (findByEmail s.users user.email)
      "An account with this email already exists"
      (match user.phone with
        | .value phone => .registerFindPhone user phone
        | _ => .registerCreate user))
  | .registerFindPhone user phone =>
    some (s, Admins.afterTaken (findByPhone s.users phone)
      "An account with this phone number already exists" (.registerCreate user))
  | .registerCreate user =>
    match createUser s.users user with
    | .error e => some (s, .rejected e)
    | .ok users => some ({ s with users := users }, .issue ⟨s.users.nextId, user.role⟩ false)
  | .oauthFind profile passwordHash =>
    match findByEmail s.users profile.email with
    | some (id, user) => some (s, if user.isEmailVerified then .returned else .oauthVerify id)
    | none =>
      some (s, .oauthCreate
        (Accounts.newUser ⟨profile.email, profile.name, none, none, none⟩ passwordHash none))
  | .oauthCreate user =>
    match createUser s.users user with
    | .error e => some (s, .rejected e)
    | .ok users => some ({ s with users := users }, .oauthVerify s.users.nextId)
  | .oauthVerify id => some (s.modifyUser id fun u => { u with isEmailVerified := true }, .returned)
  | .signInFind userId => some (s, s.afterSignIn userId (s.users.get userId))
  | .issue payload isSuperAdmin => some (s.signAccess ttl payload isSuperAdmin, .returned)
  | .applyFind requester phone dto today =>
    match findRider s.riders requester.sub with
    | some _ => some (s, .rejected (.http (.badRequest "You already applied")))
    | none =>
      some (s, orReject (fun _ => .profileFind requester.sub phone dto)
        ((checkApplication today s.clock dto).mapError .http))
  | .profileFind id phone dto =>
    some (s, orReject (fun _ => .profileSave id phone dto) (s.findByIdOrThrow id))
  | .profileSave id phone dto =>
    if phoneTaken s.users (.value phone) id then
      some (s, .rejected (.conflict "This phone number is already in use on another account"))
    else some (s.modifyUser id fun u => { u with phone := .value phone }, .riderCreate id dto)
  | .riderCreate id dto =>
    some ({ s with riders := s.riders.create (dto.toRider id) }, .riderRole id)
  | .riderRole id => some (s.modifyUser id fun u => { u with role := .rider }, .returned)
  | .roleFind granter id role =>
    some (s, orReject (s.afterRoleFind granter id role) (s.findByIdOrThrow id))
  | .roleSave granter id role foundRole foundFlag =>
    some (s.saveRole granter id role foundRole foundFlag, .returned)
  | .suspendFind id =>
    some (s, orReject (fun user =>
      if user.status = .suspended then
        .rejected (.http (.badRequest "This account is already suspended"))
      else .suspendSave id) (s.findByIdOrThrow id))
  | .suspendSave id => some (s.modifyUser id fun u => { u with status := .suspended }, .returned)
  | .reactivateFind id =>
    some (s, orReject (fun user =>
      if user.status = .suspended then .reactivateSave id
      else .rejected (.http (.badRequest "This account is not suspended"))) (s.findByIdOrThrow id))
  | .reactivateSave id => some (s.modifyUser id fun u => { u with status := .active }, .returned)
  | .returned => none
  | .rejected _ => none

/-- What happens beside the requests: the script is run for an e-mail, and time passes. -/
inductive AdminEnv
  | seedAdmin (email : String)
  | tick (now : Time)

def envAdmins (s : Admins) : AdminEnv → Option Admins
  | .seedAdmin email =>
    (findByEmail s.users email).map fun found =>
      { s with
        users := s.users.modify found.1 fun u => { u with role := .admin }
        isSuperAdmin := Function.update s.isSuperAdmin found.1 true
        seeded := s.seeded ++ [found.1] }
  | .tick now => if s.clock ≤ now then some { s with clock := now } else none

/-- Any number of requests. -/
def admins (ttl : Time) : Machine Admins AdminPc AdminRequest Unit AdminEnv where
  start := startAdmin
  step := adminStep ttl
  env := envAdmins

abbrev AdminPool := Pool Admins AdminPc

abbrev AdminEvent := Event AdminRequest Unit AdminEnv

/-- No users, no tokens and no requests. -/
def AdminPool.initial : AdminPool := ⟨.empty, []⟩

/-! ## What a request has in hand -/

namespace AdminPc

/-- The user that a request is to create. -/
def creating : AdminPc → Option User
  | registerFind user => some user
  | registerFindPhone user _ => some user
  | registerCreate user => some user
  | oauthCreate user => some user
  | _ => none

/-- What a request is to sign. -/
def signing : AdminPc → Option (AccessTokenPayload × Bool)
  | issue payload isSuperAdmin => some (payload, isSuperAdmin)
  | _ => none

/-- Who it is that a request changes a role for. -/
def granting : AdminPc → Option UserId
  | roleFind granter _ _ => some granter
  | roleSave granter _ _ _ _ => some granter
  | _ => none

/-- The request has nothing to create, to sign or to grant. -/
def idle (pc : AdminPc) : Bool :=
  pc.creating.isNone && (pc.signing.isNone && pc.granting.isNone)

end AdminPc

/-- The same roles and flags, the same tokens and the same records. -/
structure Admins.SameRoles (s s' : Admins) : Prop where
  role : ∀ id u', s'.users.get id = some u' → ∃ u, s.users.get id = some u ∧ u'.role = u.role
  flags : s'.isSuperAdmin = s.isSuperAdmin
  tokens : s'.accessTokens = s.accessTokens
  clock : s'.clock = s.clock
  seeded : s'.seeded = s.seeded
  grants : s'.grants = s.grants

/-- What one database call does to roles, flags and tokens. -/
inductive AdminMove (ttl : Time) (s : Admins) : AdminPc → Admins → AdminPc → Prop
  | same {pc pc' : AdminPc} {s' : Admins} (hs : s.SameRoles s') (hidle : pc'.idle = true) :
      AdminMove ttl s pc s' pc'
  | goesOn {pc pc' : AdminPc} {user : User} (h : pc.creating = some user)
      (h' : pc'.creating = some user) (hsigning : pc'.signing = none)
      (hgranting : pc'.granting = none) : AdminMove ttl s pc s pc'
  | provided {pc : AdminPc} {user : User} (hrole : user.role = .customer) :
      AdminMove ttl s pc s (.oauthCreate user)
  | created {pc pc' : AdminPc} {user : User} (h : pc.creating = some user)
      (hpc' : pc' = .issue ⟨s.users.nextId, user.role⟩ false ∨ pc'.idle = true) :
      AdminMove ttl s pc { s with users := s.users.create user } pc'
  | found {id : UserId} {user : User} (huser : s.users.get id = some user) :
      AdminMove ttl s (.signInFind id) s (.issue ⟨id, user.role⟩ (s.isSuperAdmin id))
  | signed {payload : AccessTokenPayload} {isSuperAdmin : Bool} :
      AdminMove ttl s (.issue payload isSuperAdmin) (s.signAccess ttl payload isSuperAdmin)
        .returned
  | ridden {id : UserId} :
      AdminMove ttl s (.riderRole id) (s.modifyUser id fun u => { u with role := .rider }) .returned
  | roleFound {granter id : UserId} {role : UserRole} {user : User}
      (huser : s.users.get id = some user) (htarget : user.role ∈ roleChangeTargets) :
      AdminMove ttl s (.roleFind granter id role) s
        (.roleSave granter id role user.role (s.isSuperAdmin id))
  | roleSaved {granter id : UserId} {role foundRole : UserRole} {foundFlag : Bool} :
      AdminMove ttl s (.roleSave granter id role foundRole foundFlag)
        (s.saveRole granter id role foundRole foundFlag) .returned

section Moves

variable {ttl : Time} {s s' : Admins} {pc pc' : AdminPc}

theorem Admins.SameRoles.refl (s : Admins) : s.SameRoles s :=
  ⟨fun _ u h => ⟨u, h, rfl⟩, rfl, rfl, rfl, rfl, rfl⟩

/-- A change to one user that keeps the role. -/
theorem sameRoles_modifyUser {id : UserId} {f : User → User} (hf : ∀ u, (f u).role = u.role) :
    s.SameRoles (s.modifyUser id f) := by
  refine ⟨?_, rfl, rfl, rfl, rfl, rfl⟩
  intro j u' h
  rcases Collection.get_modify_cases h with ⟨_, u, hu, rfl⟩ | ⟨_, hu⟩
  · exact ⟨u, hu, hf u⟩
  · exact ⟨u', hu, rfl⟩

/-- What a check throws leaves nothing in hand. -/
theorem idle_orReject {α : Type} {next : α → AdminPc} {result : Except AuthError α}
    (h : ∀ a, result = .ok a → (next a).idle = true) : (orReject next result).idle = true := by
  cases result with
  | error e => rfl
  | ok a => exact h a rfl

theorem create_of_createUser_ok {users users' : Collection User} {user : User}
    (h : createUser users user = .ok users') : users' = users.create user := by
  unfold createUser at h
  split at h
  · cases h
  · split at h
    · cases h
    · exact (Except.ok.inj h).symm

theorem move_afterTaken {found : Option (UserId × User)} {message : String} {user : User}
    {next : AdminPc} (h : pc.creating = some user) (h' : next.creating = some user)
    (hsigning : next.signing = none) (hgranting : next.granting = none) :
    AdminMove ttl s pc s (Admins.afterTaken found message next) := by
  cases found with
  | none => exact .goesOn h h' hsigning hgranting
  | some _ => exact .same (.refl s) rfl

/-- **All that one database call can do.** -/
theorem admin_move (h : adminStep ttl s pc () = some (s', pc')) : AdminMove ttl s pc s' pc' := by
  cases pc with
  | registerFind user =>
    cases h
    split
    · exact move_afterTaken rfl rfl rfl rfl
    · exact move_afterTaken rfl rfl rfl rfl
  | registerFindPhone user phone =>
    cases h
    exact move_afterTaken rfl rfl rfl rfl
  | registerCreate user =>
    simp only [adminStep] at h
    split at h
    · cases h
      exact .same (.refl s) rfl
    · rename_i users hok
      cases h
      rw [create_of_createUser_ok hok]
      exact .created rfl (Or.inl rfl)
  | oauthFind profile passwordHash =>
    simp only [adminStep] at h
    split at h
    · cases h
      refine .same (.refl s) ?_
      split <;> rfl
    · cases h
      exact .provided rfl
  | oauthCreate user =>
    simp only [adminStep] at h
    split at h
    · cases h
      exact .same (.refl s) rfl
    · rename_i users hok
      cases h
      rw [create_of_createUser_ok hok]
      exact .created rfl (Or.inr rfl)
  | oauthVerify id =>
    cases h
    exact .same (sameRoles_modifyUser fun _ => rfl) rfl
  | signInFind userId =>
    cases h
    cases huser : s.users.get userId with
    | none => exact .same (.refl s) rfl
    | some user =>
      simp only [Admins.afterSignIn]
      cases user.assertActive with
      | error e => exact .same (.refl s) rfl
      | ok _ => exact .found huser
  | issue payload isSuperAdmin =>
    cases h
    exact .signed
  | applyFind requester phone dto today =>
    simp only [adminStep] at h
    split at h
    · cases h
      exact .same (.refl s) rfl
    · cases h
      exact .same (.refl s) (idle_orReject fun _ _ => rfl)
  | profileFind id phone dto =>
    cases h
    exact .same (.refl s) (idle_orReject fun _ _ => rfl)
  | profileSave id phone dto =>
    simp only [adminStep] at h
    split at h
    · cases h
      exact .same (.refl s) rfl
    · cases h
      exact .same (sameRoles_modifyUser fun _ => rfl) rfl
  | riderCreate id dto =>
    cases h
    exact .same ⟨fun _ u hu => ⟨u, hu, rfl⟩, rfl, rfl, rfl, rfl, rfl⟩ rfl
  | riderRole id =>
    cases h
    exact .ridden
  | roleFind granter id role =>
    cases h
    cases huser : s.users.get id with
    | none =>
      simp only [Admins.findByIdOrThrow, huser]
      exact .same (.refl s) rfl
    | some user =>
      simp only [Admins.findByIdOrThrow, huser, orReject, Admins.afterRoleFind]
      split
      · rename_i htarget
        exact .roleFound huser htarget
      · exact .same (.refl s) rfl
  | roleSave granter id role foundRole foundFlag =>
    cases h
    exact .roleSaved
  | suspendFind id =>
    cases h
    refine .same (.refl s) (idle_orReject fun user _ => ?_)
    split <;> rfl
  | suspendSave id =>
    cases h
    exact .same (sameRoles_modifyUser fun _ => rfl) rfl
  | reactivateFind id =>
    cases h
    refine .same (.refl s) (idle_orReject fun user _ => ?_)
    split <;> rfl
  | reactivateSave id =>
    cases h
    exact .same (sameRoles_modifyUser fun _ => rfl) rfl
  | returned => cases h
  | rejected error => cases h

end Moves

end FoodDelivery
