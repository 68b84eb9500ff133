import FoodDelivery.Auth.Accounts
import FoodDelivery.Lib.Sequence

/-!
# A verified phone is a proven one

A number is proven once somebody gives the code back that was sent to it.  `register` takes a number
together with the token of such a proof, and sets `isPhoneVerified` with it.  `updateProfile` sets
the number alone, and so does an application as a rider.

* `Proven`: the invariant; the signup tokens that are out are for proven numbers.
* `phones_proven_iff`: the sequences of requests along which every verified phone is proven.
* `verified_without_a_code`: a user moves the flag to a number of somebody else.
-/

namespace FoodDelivery

open Store Sequence RidersService

variable (hashToken : String → String)

/-! ## Proofs of a number -/

/-- The code that is given back is the one that was sent. -/
def Accounts.codeAccepted (s : Accounts) (now : Time) (phone code : String)
    (purpose : PhoneOtpPurpose) : Bool :=
  (s.latestOtp phone purpose).any fun found =>
    found.2.expiresAt ≥ now && (found.2.attempts < phoneOtpMaxAttempts &&
      found.2.codeHash = hashToken code)

/-- The collections, and the numbers that have been proven. -/
structure Numbers where
  accounts : Accounts
  proven : List String

namespace Numbers

def empty : Numbers := ⟨.empty, []⟩

def step (n : Numbers) (call : AccountCall) : Numbers where
  accounts := n.accounts.step hashToken call
  proven := match call with
    | .verifyPhoneCode now phone code purpose =>
      if n.accounts.codeAccepted hashToken now phone code purpose then phone :: n.proven
      else n.proven
    | _ => n.proven

/-- A user with a verified phone is given a number that nobody has proven. -/
def unproven (n : Numbers) (id : UserId) (dto : UpdateProfileDto) : Bool :=
  (n.accounts.users.get id).any fun user =>
    user.isPhoneVerified && (dto.phone.toOption.any (· ∉ n.proven) &&
      profileAccepted n.accounts.users id user dto)

/-- An update of a profile does that, or an application as a rider. -/
def oversteps (n : Numbers) : AccountCall → Bool
  | .updateProfile id dto => n.unproven id dto
  | .apply requester phone dto today now =>
    requester.role = .customer && ((findRider n.accounts.riders requester.sub).isNone &&
      ((checkApplication today now dto).toOption.isSome &&
        n.unproven requester.sub ⟨.absent, .absent, .value phone⟩))
  | _ => false

end Numbers

/-! ## What is claimed -/

/-- The number that is stored with a verified phone has been proven. -/
def PhonesProven (n : Numbers) : Prop :=
  ∀ id user phone, n.accounts.users.get id = some user → user.isPhoneVerified = true →
    user.phone = .value phone → phone ∈ n.proven

/-- And so has the number of every signup token. -/
structure Proven (n : Numbers) : Prop where
  phones : PhonesProven n
  tokens : ∀ rawToken t phone, n.accounts.signed.get rawToken = some t →
    t.payload = .verifyPhoneSignup phone → phone ∈ n.proven

section Requests

variable {hashToken} {s s' : Accounts} {users users' : Collection User} {id : UserId} {user : User}
  {dto : UpdateProfileDto} {now : Time} {phone code : String}

/-! ## What a request leaves of the users -/

/-- Every user with a verified phone had it, and it is the number it was. -/
def SamePhones (users users' : Collection User) : Prop :=
  ∀ id user', users'.get id = some user' → user'.isPhoneVerified = true →
    ∃ user, users.get id = some user ∧ user.isPhoneVerified = true ∧ user'.phone = user.phone

/-- No signup token is new. -/
def SameTokens (s s' : Accounts) : Prop :=
  ∀ rawToken t phone, s'.signed.get rawToken = some t → t.payload = .verifyPhoneSignup phone →
    s.signed.get rawToken = some t

theorem SamePhones.refl (users : Collection User) : SamePhones users users :=
  fun _ user hget hverified => ⟨user, hget, hverified, rfl⟩

theorem SameTokens.refl (s : Accounts) : SameTokens s s := fun _ _ _ h _ => h

theorem SamePhones.trans {users'' : Collection User} (h : SamePhones users users')
    (h' : SamePhones users' users'') : SamePhones users users'' := by
  intro id user'' hget hverified
  obtain ⟨user', hget', hverified', hphone'⟩ := h' id user'' hget hverified
  obtain ⟨user, hget₀, hverified₀, hphone₀⟩ := h id user' hget' hverified'
  exact ⟨user, hget₀, hverified₀, hphone'.trans hphone₀⟩

theorem samePhones_modify (users : Collection User) (id : UserId) {f : User → User}
    (hverified : ∀ u, (f u).isPhoneVerified = u.isPhoneVerified)
    (hphone : ∀ u, (f u).phone = u.phone) : SamePhones users (users.modify id f) := by
  intro i user' hget hv
  rcases Collection.get_modify_cases hget with ⟨rfl, d, hd, rfl⟩ | ⟨_, hold⟩
  · exact ⟨d, hd, by rw [← hverified, hv], hphone d⟩
  · exact ⟨user', hold, hv, rfl⟩

theorem sameTokens_sign {payload : EmailSecretPayload} {expiresAt : Time}
    (h : ∀ phone, payload ≠ .verifyPhoneSignup phone) :
    SameTokens s (s.sign payload expiresAt) := by
  intro rawToken t phone hget hpayload
  rcases Collection.get_create_cases hget with ⟨_, rfl⟩ | ⟨_, hold⟩
  · exact absurd hpayload (h phone)
  · exact hold

/-! ## Registration -/

theorem eq_of_createUser (h : createUser users user = .ok users') : users' = users.create user := by
  unfold createUser at h
  split at h
  · cases h
  · split at h
    · cases h
    · cases h
      rfl

theorem signed_of_verify {rawToken : RawToken} {payload : EmailSecretPayload}
    (h : s.verify now rawToken = some payload) :
    ∃ t, s.signed.get rawToken = some t ∧ t.payload = payload := by
  obtain ⟨t, ht, hpayload⟩ := Option.map_eq_some_iff.mp h
  exact ⟨t, (Option.filter_eq_some_iff.mp ht).1, hpayload⟩

/-- **A signup token is good for the number that it was signed for.** -/
theorem signed_of_consume {rawToken : Option RawToken} {provenPhone : String}
    (h : s.consumePhoneSignupToken now phone rawToken = .ok provenPhone) :
    ∃ raw t, s.signed.get raw = some t ∧ t.payload = .verifyPhoneSignup provenPhone := by
  unfold Accounts.consumePhoneSignupToken at h
  split at h
  · cases h
  · next raw =>
    split at h
    · next hverify =>
      split at h
      · cases h
        exact ⟨raw, signed_of_verify hverify⟩
      · cases h
    · cases h

theorem signed_of_verifiedPhone {dto : RegisterDto} {provenPhone : String}
    (h : s.verifiedPhone now dto = .ok (some provenPhone)) :
    ∃ raw t, s.signed.get raw = some t ∧ t.payload = .verifyPhoneSignup provenPhone := by
  unfold Accounts.verifiedPhone at h
  split at h
  · cases h
  · next given _ =>
    cases hconsume : s.consumePhoneSignupToken now given dto.phoneVerificationToken with
    | error e =>
      rw [hconsume] at h
      cases h
    | ok consumed =>
      rw [hconsume] at h
      cases h
      exact signed_of_consume hconsume

/-- **Who registers with a verified phone holds a token for it.** -/
theorem register_phones {dto : RegisterDto} {passwordHash : String}
    (h : s.register now dto passwordHash = .ok s') :
    (∀ id user' phone, s'.users.get id = some user' → user'.isPhoneVerified = true →
      user'.phone = .value phone → s.users.get id = some user' ∨
      ∃ raw t, s.signed.get raw = some t ∧ t.payload = .verifyPhoneSignup phone) ∧
      SameTokens s s' := by
  obtain ⟨_, _, h⟩ := bind_eq_ok.mp h
  obtain ⟨given, hgiven, h⟩ := bind_eq_ok.mp h
  obtain ⟨_, _, h⟩ := bind_eq_ok.mp h
  obtain ⟨users, hcreate, hs⟩ := bind_eq_ok.mp h
  cases hs
  refine ⟨?_, sameTokens_sign (fun _ he => by cases he)⟩
  intro id user' phone hget hverified hphone
  change users.get id = some user' at hget
  rw [eq_of_createUser hcreate] at hget
  rcases Collection.get_create_cases hget with ⟨_, rfl⟩ | ⟨_, hold⟩
  · cases given with
    | none => cases hverified
    | some provenPhone =>
      cases hphone
      exact Or.inr (signed_of_verifiedPhone hgiven)
  · exact Or.inl hold

/-! ## Codes -/

theorem sendPhoneCode_same (hashToken : String → String) (s : Accounts) (now : Time)
    (phone : String) (purpose : PhoneOtpPurpose) (code : String) :
    (s.sendPhoneCode hashToken now phone purpose code).users = s.users ∧
      (s.sendPhoneCode hashToken now phone purpose code).signed = s.signed := by
  unfold Accounts.sendPhoneCode
  split <;> exact ⟨rfl, rfl⟩

theorem codeAccepted_of_checkOtp {purpose : PhoneOtpPurpose} {i : Nat} {otp : PhoneOtp}
    (hotp : s.latestOtp phone purpose = some (i, otp))
    (hcheck : Accounts.checkOtp hashToken now code otp = .ok ()) :
    s.codeAccepted hashToken now phone code purpose = true := by
  unfold Accounts.checkOtp at hcheck
  split at hcheck
  · cases hcheck
  · next hfresh =>
    split at hcheck
    · cases hcheck
    · next hleft =>
      split at hcheck
      · cases hcheck
      · next hhash =>
        rw [Accounts.codeAccepted, hotp, Option.any_some, decide_eq_true (Nat.le_of_not_lt hfresh),
          decide_eq_true (Nat.lt_of_not_le hleft), decide_eq_true (not_not.mp hhash)]
        rfl

/-- **A code that is given back leaves the users as they are**, and a new signup token is for the
number of that code. -/
theorem verifyPhoneCode_tokens (hashToken : String → String) (s : Accounts) (now : Time)
    (phone code : String) (purpose : PhoneOtpPurpose) :
    (s.verifyPhoneCode hashToken now phone code purpose).1.users = s.users ∧
    ∀ raw t number, (s.verifyPhoneCode hashToken now phone code purpose).1.signed.get raw = some t →
      t.payload = .verifyPhoneSignup number → s.signed.get raw = some t ∨
        (number = phone ∧ s.codeAccepted hashToken now phone code purpose = true) := by
  unfold Accounts.verifyPhoneCode
  split
  · exact ⟨rfl, fun _ _ _ h _ => Or.inl h⟩
  · next i otp hotp =>
    split
    · exact ⟨rfl, fun _ _ _ h _ => Or.inl h⟩
    · next hcheck =>
      cases purpose with
      | login => exact ⟨rfl, fun _ _ _ h _ => Or.inl h⟩
      | signup =>
        refine ⟨rfl, ?_⟩
        intro raw t number hget hpayload
        rcases Collection.get_create_cases hget with ⟨_, rfl⟩ | ⟨_, hold⟩
        · cases hpayload
          exact Or.inr ⟨rfl, codeAccepted_of_checkOtp hotp hcheck⟩
        · exact Or.inl hold

/-! ## Profiles -/

/-- **What `updateProfile` leaves.** -/
theorem updateProfile_eq_ok_iff : updateProfile users id dto = .ok users' ↔
    ∃ user user', users.get id = some user ∧ user.assignProfile dto = some user' ∧
      phoneTaken users dto.phone id = false ∧ users' = users.modify id fun _ => user' := by
  unfold updateProfile
  cases hget : users.get id with
  | none => exact iff_of_false (by rintro ⟨⟩) (by rintro ⟨_, _, ⟨⟩, _⟩)
  | some user =>
    dsimp only
    cases hassign : user.assignProfile dto with
    | none =>
      refine iff_of_false (by rintro ⟨⟩) ?_
      rintro ⟨_, _, ⟨⟩, hsome, _⟩
      cases hassign.symm.trans hsome
    | some user' =>
      dsimp only
      cases hfree : phoneTaken users dto.phone id with
      | true =>
        refine iff_of_false (by rintro ⟨⟩) ?_
        rintro ⟨_, _, _, _, ⟨⟩, _⟩
      | false =>
        constructor
        · rintro ⟨⟩
          exact ⟨user, user', rfl, hassign, rfl, rfl⟩
        · rintro ⟨_, _, ⟨⟩, hsome, _, rfl⟩
          cases hassign.symm.trans hsome
          rfl

theorem assignProfile_eq_some {user' : User} (h : user.assignProfile dto = some user') :
    user'.isPhoneVerified = user.isPhoneVerified ∧
      user'.phone = if dto.phone.isDefined then dto.phone else user.phone := by
  obtain ⟨name, _, rfl⟩ := Option.map_eq_some_iff.mp h
  exact ⟨rfl, rfl⟩

theorem isSome_assignProfile (user : User) (dto : UpdateProfileDto) :
    (user.assignProfile dto).isSome = (dto.name.onto (some user.name)).any (· ≠ "") := by
  unfold User.assignProfile
  rw [Option.isSome_map]
  cases dto.name.onto (some user.name) with
  | none => rfl
  | some name =>
    rw [Option.filter_some, Option.any_some]
    split
    · next h => exact h.symm
    · next h => exact (Bool.eq_false_of_not_eq_true h).symm

/-! ## Applications and providers -/

theorem mapError_eq_ok {ε ε' α : Type} {e : Except ε α} {f : ε → ε'} {a : α} :
    e.mapError f = .ok a ↔ e = .ok a := by
  cases e with
  | error _ => exact iff_of_false (by rintro ⟨⟩) (by rintro ⟨⟩)
  | ok c => exact ⟨by rintro ⟨⟩; rfl, by rintro ⟨⟩; rfl⟩

theorem checkApplicantRole_eq_ok {role : UserRole} :
    checkApplicantRole role = .ok () ↔ role = .customer := by
  cases role with
  | customer => exact iff_of_true rfl rfl
  | restaurantOwner => exact iff_of_false (by rintro ⟨⟩) (by rintro ⟨⟩)
  | rider => exact iff_of_false (by rintro ⟨⟩) (by rintro ⟨⟩)
  | admin => exact iff_of_false (by rintro ⟨⟩) (by rintro ⟨⟩)

/-- **What an application leaves.** -/
theorem apply_eq_ok_iff {requester : AccessTokenPayload} {rider : ApplyRiderDto}
    {today : CalendarDate} : s.apply requester phone rider today now = .ok s' ↔
      requester.role = .customer ∧ findRider s.riders requester.sub = none ∧
      checkApplication today now rider = .ok () ∧
      ∃ users, updateProfile s.users requester.sub ⟨.absent, .absent, .value phone⟩ = .ok users ∧
        s' = { s with
          users := users.modify requester.sub fun user => { user with role := .rider }
          riders := s.riders.create (rider.toRider requester.sub) } := by
  constructor
  · intro h
    obtain ⟨_, hrole, h⟩ := bind_eq_ok.mp h
    obtain ⟨_, hnone, h⟩ := bind_eq_ok.mp h
    obtain ⟨_, hcheck, h⟩ := bind_eq_ok.mp h
    obtain ⟨users, hprofile, hs⟩ := bind_eq_ok.mp h
    cases hs
    refine ⟨checkApplicantRole_eq_ok.mp (mapError_eq_ok.mp hrole), ?_, mapError_eq_ok.mp hcheck,
      users, hprofile, rfl⟩
    split at hnone
    · next hfree => exact hfree
    · cases hnone
  · rintro ⟨hrole, hnone, hcheck, users, hprofile, rfl⟩
    refine bind_eq_ok.mpr ⟨(), mapError_eq_ok.mpr (checkApplicantRole_eq_ok.mpr hrole), ?_⟩
    refine bind_eq_ok.mpr ⟨(), by rw [hnone], ?_⟩
    refine bind_eq_ok.mpr ⟨(), mapError_eq_ok.mpr hcheck, ?_⟩
    exact bind_eq_ok.mpr ⟨users, hprofile, rfl⟩

theorem samePhones_findOrCreate {profile : OAuthProfile} {passwordHash : String}
    {found : UserId × Collection User} (h : s.findOrCreate profile passwordHash = .ok found) :
    SamePhones s.users found.2 := by
  unfold Accounts.findOrCreate at h
  split at h
  · cases h
    exact SamePhones.refl _
  · cases hcreate : createUser s.users
        (Accounts.newUser ⟨profile.email, profile.name, none, none, none⟩ passwordHash none) with
    | error e =>
      rw [hcreate] at h
      cases h
    | ok users =>
      rw [hcreate] at h
      cases h
      intro i user' hget hverified
      rw [eq_of_createUser hcreate] at hget
      rcases Collection.get_create_cases hget with ⟨_, rfl⟩ | ⟨_, hold⟩
      · cases hverified
      · exact ⟨user', hold, hverified, rfl⟩

theorem same_loginOrRegister {profile : OAuthProfile} {passwordHash : String}
    (h : s.loginOrRegisterWithOAuthProfile now profile passwordHash = .ok s') :
    SamePhones s.users s'.users ∧ SameTokens s s' := by
  obtain ⟨found, hfound, hs⟩ := bind_eq_ok.mp h
  cases hs
  refine ⟨(samePhones_findOrCreate hfound).trans ?_, sameTokens_sign (fun _ he => by cases he)⟩
  exact samePhones_modify _ _ (fun _ => rfl) fun _ => rfl

theorem same_verifyEmail {rawToken : RawToken} (h : s.verifyEmail now rawToken = .ok s') :
    SamePhones s.users s'.users ∧ SameTokens s s' := by
  unfold Accounts.verifyEmail at h
  split at h
  · cases h
    exact ⟨samePhones_modify _ _ (fun _ => rfl) fun _ => rfl, SameTokens.refl s⟩
  · cases h

theorem same_suspend {requesterId : UserId} (h : s.suspend id requesterId = .ok s') :
    SamePhones s.users s'.users ∧ SameTokens s s' := by
  unfold Accounts.suspend at h
  repeat' split at h
  all_goals cases h
  exact ⟨samePhones_modify _ _ (fun _ => rfl) fun _ => rfl, SameTokens.refl s⟩

theorem same_reactivate (h : s.reactivate id = .ok s') :
    SamePhones s.users s'.users ∧ SameTokens s s' := by
  unfold Accounts.reactivate at h
  repeat' split at h
  all_goals cases h
  exact ⟨samePhones_modify _ _ (fun _ => rfl) fun _ => rfl, SameTokens.refl s⟩

/-! ## What is kept -/

/-- A request that leaves phones and tokens as they are keeps the invariant. -/
theorem Proven.of_same {n n' : Numbers} (h : Proven n)
    (hphones : SamePhones n.accounts.users n'.accounts.users)
    (htokens : SameTokens n.accounts n'.accounts) (hproven : n'.proven = n.proven) :
    Proven n' := by
  constructor
  · intro id user' phone hget hverified hphone
    obtain ⟨user, hget₀, hverified₀, hphone₀⟩ := hphones id user' hget hverified
    rw [hproven]
    exact h.phones id user phone hget₀ hverified₀ (hphone₀ ▸ hphone)
  · intro rawToken t phone hget hpayload
    rw [hproven]
    exact h.tokens rawToken t phone (htokens rawToken t phone hget hpayload) hpayload

/-- **A profile keeps to proven numbers unless a verified user is given another one.** -/
theorem phonesProven_updateProfile {n : Numbers} (h : PhonesProven n)
    (hok : updateProfile n.accounts.users id dto = .ok users') (hcall : n.unproven id dto = false) :
    ∀ i user' phone, users'.get i = some user' → user'.isPhoneVerified = true →
      user'.phone = .value phone → phone ∈ n.proven := by
  obtain ⟨user, user', hget, hassign, hfree, rfl⟩ := updateProfile_eq_ok_iff.mp hok
  obtain ⟨hverified', hphone'⟩ := assignProfile_eq_some hassign
  intro i d number hd hverified hnumber
  rcases Collection.get_modify_cases hd with ⟨rfl, d₀, hd₀, rfl⟩ | ⟨_, hold⟩
  · rw [hverified'] at hverified
    rw [hphone'] at hnumber
    split at hnumber
    · next hdefined =>
      have hname : (dto.name.onto (some user.name)).any (· ≠ "") = true := by
        rw [← isSome_assignProfile, hassign]
        rfl
      by_contra hn
      rw [Numbers.unproven, hget, Option.any_some, hverified, profileAccepted, hname, hfree,
        hnumber] at hcall
      change (true && (decide (number ∉ n.proven) && true)) = false at hcall
      rw [decide_eq_true hn] at hcall
      cases hcall
    · exact h id user number hget hverified hnumber
  · exact h i d number hold hverified hnumber

/-- A call that throws, or leaves phones and tokens as they are. -/
theorem Proven.attempt {n : Numbers} (h : Proven n) {result : Except AuthError Accounts}
    (hresult : ∀ s', result = .ok s' → SamePhones n.accounts.users s'.users ∧
      SameTokens n.accounts s') :
    Proven ⟨(n.accounts.attempt result).1, n.proven⟩ := by
  cases result with
  | error e => exact h
  | ok s' =>
    obtain ⟨hphones, htokens⟩ := hresult s' rfl
    exact h.of_same hphones htokens rfl

/-- **A code that is given back proves its number.** -/
theorem proven_verifyPhoneCode {n : Numbers} (h : Proven n) (now : Time) (phone code : String)
    (purpose : PhoneOtpPurpose) :
    Proven (n.step hashToken (.verifyPhoneCode now phone code purpose)) := by
  obtain ⟨husers, htokens⟩ := verifyPhoneCode_tokens hashToken n.accounts now phone code
    purpose
  have hmono : ∀ number ∈ n.proven,
      number ∈ (n.step hashToken (.verifyPhoneCode now phone code purpose)).proven := by
    intro number hmem
    show number ∈ if n.accounts.codeAccepted hashToken now phone code purpose then phone :: n.proven
      else n.proven
    split
    · exact List.mem_cons_of_mem _ hmem
    · exact hmem
  constructor
  · intro id user number hget hverified hnumber
    change (n.accounts.verifyPhoneCode hashToken now phone code purpose).1.users.get id = some user
      at hget
    rw [husers] at hget
    exact hmono number (h.phones id user number hget hverified hnumber)
  · intro raw t number hget hpayload
    rcases htokens raw t number hget hpayload with hold | ⟨rfl, haccepted⟩
    · exact hmono number (h.tokens raw t number hold hpayload)
    · show number ∈ if n.accounts.codeAccepted hashToken now number code purpose then
        number :: n.proven else n.proven
      rw [if_pos haccepted]
      exact List.mem_cons_self

theorem not_unproven_of_apply {n : Numbers} {requester : AccessTokenPayload} {rider : ApplyRiderDto}
    {today : CalendarDate} (hcall : n.oversteps (.apply requester phone rider today now) = false)
    (hrole : requester.role = .customer) (hnone : findRider n.accounts.riders requester.sub = none)
    (hcheck : checkApplication today now rider = .ok ()) :
    n.unproven requester.sub ⟨.absent, .absent, .value phone⟩ = false := by
  rw [Numbers.oversteps, hnone, hcheck, decide_eq_true hrole] at hcall
  exact hcall

/-- **Every request keeps verified phones proven**, when it gives no verified user an unproven
number. -/
theorem proven_step {n : Numbers} {call : AccountCall} (h : Proven n)
    (hcall : n.oversteps call = false) : Proven (n.step hashToken call) := by
  cases call with
  | register now dto passwordHash =>
    show Proven ⟨(n.accounts.attempt (n.accounts.register now dto passwordHash)).1, n.proven⟩
    cases hresult : n.accounts.register now dto passwordHash with
    | error e => exact h
    | ok s' =>
      obtain ⟨hphones, htokens⟩ := register_phones hresult
      constructor
      · intro id user' phone hget hverified hphone
        rcases hphones id user' phone hget hverified hphone with hold | ⟨raw, t, hget, hpayload⟩
        · exact h.phones id user' phone hold hverified hphone
        · exact h.tokens raw t phone hget hpayload
      · intro raw t phone hget hpayload
        exact h.tokens raw t phone (htokens raw t phone hget hpayload) hpayload
  | sendPhoneCode now phone purpose code =>
    obtain ⟨husers, hsigned⟩ := sendPhoneCode_same hashToken n.accounts now phone purpose code
    refine h.of_same ?_ ?_ rfl
    · show SamePhones n.accounts.users
        (n.accounts.sendPhoneCode hashToken now phone purpose code).users
      rw [husers]
      exact SamePhones.refl _
    · intro raw t number hget _
      change (n.accounts.sendPhoneCode hashToken now phone purpose code).signed.get raw = some t
        at hget
      rwa [hsigned] at hget
  | verifyPhoneCode now phone code purpose => exact proven_verifyPhoneCode h now phone code purpose
  | updateProfile id dto =>
    show Proven ⟨(n.accounts.attempt ((updateProfile n.accounts.users id dto).map
      n.accounts.withUsers)).1, n.proven⟩
    cases hresult : updateProfile n.accounts.users id dto with
    | error e => exact h
    | ok users' =>
      have hproven := phonesProven_updateProfile h.phones hresult hcall
      exact ⟨hproven, h.tokens⟩
  | apply requester phone dto today now =>
    show Proven ⟨(n.accounts.attempt (n.accounts.apply requester phone dto today now)).1, n.proven⟩
    cases hresult : n.accounts.apply requester phone dto today now with
    | error e => exact h
    | ok s' =>
      obtain ⟨hrole, hnone, hcheck, users, hprofile, rfl⟩ := apply_eq_ok_iff.mp hresult
      have hproven := phonesProven_updateProfile h.phones hprofile
        (not_unproven_of_apply hcall hrole hnone hcheck)
      refine ⟨?_, h.tokens⟩
      intro i user' number hget hverified hnumber
      have hsame : SamePhones users
          (users.modify requester.sub fun user => { user with role := .rider }) :=
        samePhones_modify _ _ (fun _ => rfl) fun _ => rfl
      obtain ⟨user, hget₀, hverified₀, hphone₀⟩ := hsame i user' hget hverified
      exact hproven i user number hget₀ hverified₀ (hphone₀ ▸ hnumber)
  | loginOrRegisterWithOAuthProfile now profile passwordHash =>
    exact h.attempt fun _ => same_loginOrRegister
  | exchangeOAuthToken now rawToken => exact h
  | verifyEmail now rawToken => exact h.attempt fun _ => same_verifyEmail
  | suspend id requesterId => exact h.attempt fun _ => same_suspend
  | reactivate id => exact h.attempt fun _ => same_reactivate

/-! ## What is broken -/

/-- The profile is updated, and its verified number is not proven. -/
theorem updateProfile_of_unproven {n : Numbers} (h : n.unproven id dto = true) :
    ∃ users' user' number, updateProfile n.accounts.users id dto = .ok users' ∧
      users'.get id = some user' ∧ user'.isPhoneVerified = true ∧ user'.phone = .value number ∧
      number ∉ n.proven := by
  obtain ⟨user, hget, hrest⟩ := (Option.any_eq_true _ _).mp h
  simp only [Bool.and_eq_true, profileAccepted, Bool.not_eq_true'] at hrest
  obtain ⟨hverified, hnumber, hname, hfree⟩ := hrest
  obtain ⟨number, hnumber, hunproven⟩ := (Option.any_eq_true _ _).mp hnumber
  obtain ⟨user', hassign⟩ := Option.isSome_iff_exists.mp
    ((isSome_assignProfile user dto).trans hname)
  obtain ⟨hverified', hphone'⟩ := assignProfile_eq_some hassign
  refine ⟨_, user', number, updateProfile_eq_ok_iff.mpr ⟨user, user', hget, hassign, hfree, rfl⟩,
    ?_, hverified'.trans hverified, ?_, of_decide_eq_true hunproven⟩
  · rw [Collection.get_modify_self, hget]
    rfl
  · rw [hphone']
    cases hgiven : dto.phone with
    | absent =>
      rw [hgiven] at hnumber
      cases hnumber
    | null =>
      rw [hgiven] at hnumber
      cases hnumber
    | value given =>
      rw [hgiven] at hnumber
      cases hnumber
      rfl

/-- **A verified user is given a number that nobody has proven.** -/
theorem not_phonesProven_step {n : Numbers} {call : AccountCall} (hcall : n.oversteps call = true) :
    ¬ PhonesProven (n.step hashToken call) := by
  intro hproven
  cases call with
  | updateProfile id dto =>
    obtain ⟨users', user', number, hok, hget, hverified, hnumber, hunproven⟩ :=
      updateProfile_of_unproven hcall
    refine hunproven (hproven id user' number ?_ hverified hnumber)
    show (n.accounts.attempt ((updateProfile n.accounts.users id dto).map
      n.accounts.withUsers)).1.users.get id = some user'
    rw [hok]
    exact hget
  | apply requester phone rider today now =>
    simp only [Numbers.oversteps, Bool.and_eq_true, decide_eq_true_eq] at hcall
    obtain ⟨hrole, hnone, hcheck, hunproven⟩ := hcall
    obtain ⟨users', user', number, hok, hget, hverified, hnumber, hunproven⟩ :=
      updateProfile_of_unproven hunproven
    have hcheck' : checkApplication today now rider = .ok () := by
      cases hresult : checkApplication today now rider with
      | error e =>
        rw [hresult] at hcheck
        cases hcheck
      | ok u => rfl
    have happly := apply_eq_ok_iff.mpr
      ⟨hrole, Option.isNone_iff_eq_none.mp hnone, hcheck', users', hok, rfl⟩
    refine hunproven (hproven requester.sub { user' with role := .rider } number ?_ hverified
      hnumber)
    show (n.accounts.attempt (n.accounts.apply requester phone rider today now)).1.users.get
      requester.sub = _
    rw [happly]
    show (users'.modify requester.sub _).get requester.sub = _
    rw [Collection.get_modify_self, hget]
    rfl
  | register => cases hcall
  | sendPhoneCode => cases hcall
  | verifyPhoneCode => cases hcall
  | loginOrRegisterWithOAuthProfile => cases hcall
  | exchangeOAuthToken => cases hcall
  | verifyEmail => cases hcall
  | suspend => cases hcall
  | reactivate => cases hcall

theorem proven_empty : Proven .empty := by
  constructor
  · intro id user phone hget
    rw [Numbers.empty, Accounts.empty, Collection.get_empty] at hget
    cases hget
  · intro raw t phone hget
    rw [Numbers.empty, Accounts.empty, Collection.get_empty] at hget
    cases hget

theorem throughout_phonesProven_iff (hashToken : String → String) (calls : List AccountCall)
    {n : Numbers} (h : Proven n) :
    Throughout (Numbers.step hashToken) PhonesProven n calls ↔
      Along (Numbers.step hashToken) (fun n call => n.oversteps call = false) n calls :=
  throughout_iff_along (fun _ h => h.phones) (fun _ _ => proven_step)
    (fun _ _ _ hn => not_phonesProven_step (Bool.eq_true_of_not_eq_false hn)) calls n h

end Requests

/-! ## Every sequence of requests -/

/-- **Every verified phone stays proven all along, exactly when no verified user is given a number
that nobody has proven.** -/
theorem phones_proven_iff (calls : List AccountCall) :
    Throughout (Numbers.step hashToken) PhonesProven .empty calls ↔
      Along (Numbers.step hashToken) (fun n call => n.oversteps call = false) .empty calls :=
  throughout_phonesProven_iff hashToken calls proven_empty

/-- A user signs up with a number of their own, and then takes another. -/
def anotherNumber : List AccountCall :=
  [.sendPhoneCode 0 "+2348012345678" .signup "123456",
    .verifyPhoneCode 1 "+2348012345678" "123456" .signup,
    .register 2 ⟨"jane@example.com", "Jane Doe", none, some "+2348012345678", some 0⟩ "hash",
    .updateProfile 0 ⟨.absent, .absent, .value "+2348099999999"⟩]

/-- **The flag of a verified phone moves to a number of somebody else.** -/
theorem verified_without_a_code : ¬ ∀ (hashToken : String → String) (calls : List AccountCall),
    Throughout (Numbers.step hashToken) PhonesProven .empty calls := by
  intro hall
  have halong := (throughout_phonesProven_iff id anotherNumber proven_empty).mp
    (hall id anotherNumber)
  revert halong
  decide +kernel

end FoodDelivery
