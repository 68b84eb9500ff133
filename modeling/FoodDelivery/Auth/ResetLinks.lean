import FoodDelivery.Auth.Sessions

/-!
# Reset links

A link of `forgotPassword` carries a fingerprint of the password hash that the user had, and
`resetPassword` compares it with the hash of the moment.  `bcrypt` salts each hash anew, so that a
new hash has a fingerprint of its own: this is what `FreshHashes` asks of the runs.

* `reset_move`: what one database call does to passwords and links.
* `Sessions.Stale`: the password is not the one that a link was signed for.
* `Stale.next`: a stale link stays stale.
* `used_link_dead`: what a written password leaves of the links of its user.
-/

namespace FoodDelivery

open Store Interleave

/-! ## Fingerprints -/

/-- The hash that a call is to write. -/
def SessionPc.newHash : SessionPc → Option String
  | resetFind _ passwordHash => some passwordHash
  | resetCheck _ _ passwordHash => some passwordHash
  | changeFind _ _ passwordHash => some passwordHash
  | passwordWrite _ passwordHash => some passwordHash
  | _ => none

/-- The fingerprints that are stored or have been signed. -/
def Sessions.fingerprints (cfg : AuthConfig) (s : Sessions) : List String :=
  s.resetTokens.docs.map (·.pwdFingerprint) ++
    s.users.docs.map fun u => cfg.fingerprint u.passwordHash

/-- The fingerprints of the hashes that are still to be written. -/
def pendingFingerprints (cfg : AuthConfig) (s : SessionPool) : List String :=
  s.procs.filterMap fun pc => pc.newHash.map cfg.fingerprint

/-- **A hash that comes in has a fingerprint of its own.** -/
def FreshHashes (cfg : AuthConfig) (s : SessionPool) : SessionEvent → Bool
  | .spawn request => (SessionPc.start request).newHash.all fun passwordHash =>
      cfg.fingerprint passwordHash ∉ s.shared.fingerprints cfg ++ pendingFingerprints cfg s
  | .env (.createUser user) => cfg.fingerprint user.passwordHash ∉ pendingFingerprints cfg s
  | .run _ _ => true

/-- The password is not the one that the link was signed for. -/
def Sessions.Stale (cfg : AuthConfig) (s : Sessions) (link : ResetToken) : Prop :=
  ∃ user, s.users.get link.sub = some user ∧ cfg.fingerprint user.passwordHash ≠ link.pwdFingerprint

/-! ## One database call -/

/-- The same users with the same e-mails and passwords, and the same links. -/
structure Sessions.SamePasswords (s s' : Sessions) : Prop where
  links : s'.resetTokens = s.resetTokens
  user : ∀ id user', s'.users.get id = some user' → ∃ user, s.users.get id = some user ∧
    user'.email = user.email ∧ user'.passwordHash = user.passwordHash
  stays : ∀ id user, s.users.get id = some user → ∃ user', s'.users.get id = some user'

/-- What one database call does to passwords and links. -/
inductive ResetMove (cfg : AuthConfig) (s : Sessions) :
    SessionPc → Sessions → SessionPc → Prop
  | same {pc pc' : SessionPc} {s' : Sessions} (hs : s.SamePasswords s')
      (hnew : pc'.newHash = none) : ResetMove cfg s pc s' pc'
  | found {rawToken : Nat} {passwordHash : String} {payload : ResetToken} {user : User}
      (hlink : s.resetTokens.get rawToken = some payload)
      (huser : s.users.get payload.sub = some user) :
      ResetMove cfg s (.resetFind rawToken passwordHash) s
        (.resetCheck payload user.email passwordHash)
  | matched {payload : ResetToken} {email passwordHash : String} {id : UserId} {target : User}
      (htarget : findByEmail s.users email = some (id, target)) :
      ResetMove cfg s (.resetCheck payload email passwordHash) s (.passwordWrite id passwordHash)
  | confirmed {userId : UserId} {currentPassword passwordHash : String} {user : User}
      (huser : s.users.get userId = some user) :
      ResetMove cfg s (.changeFind userId currentPassword passwordHash) s
        (.passwordWrite userId passwordHash)
  | signed {email : String} {id : UserId} {user : User} {expiresAt : Time}
      (huser : s.users.get id = some user) :
      ResetMove cfg s (.forgotFind email)
        (s.signReset ⟨id, cfg.fingerprint user.passwordHash, expiresAt⟩) .returned
  | wrote {userId : UserId} {passwordHash : String} :
      ResetMove cfg s (.passwordWrite userId passwordHash)
        ((s.modifyUser userId fun u => { u with passwordHash := passwordHash }).countWrite userId)
        (.sweep userId (s.written userId + 1))

section Moves

variable {cfg : AuthConfig} {s s' : Sessions} {pc pc' : SessionPc} {r : SessionReply}

theorem Sessions.SamePasswords.refl (s : Sessions) : s.SamePasswords s where
  links := rfl
  user _ user h := ⟨user, h, rfl, rfl⟩
  stays _ user h := ⟨user, h⟩

theorem Sessions.SamePasswords.of_eq (hlinks : s'.resetTokens = s.resetTokens)
    (husers : s'.users = s.users) : s.SamePasswords s' where
  links := hlinks
  user _ user h := ⟨user, husers ▸ h, rfl, rfl⟩
  stays _ user h := ⟨user, husers.symm ▸ h⟩

/-- A change to one user that keeps the e-mail and the password. -/
theorem samePasswords_modifyUser {id : UserId} {f : User → User}
    (hf : ∀ u, (f u).email = u.email ∧ (f u).passwordHash = u.passwordHash) :
    s.SamePasswords (s.modifyUser id f) where
  links := rfl
  user j user' h := by
    rcases Collection.get_modify_cases h with ⟨rfl, user, huser, rfl⟩ | ⟨_, huser⟩
    · exact ⟨user, huser, hf user⟩
    · exact ⟨user', huser, rfl, rfl⟩
  stays j user h := by
    show ∃ user', (s.users.modify id f).get j = some user'
    rw [Collection.get_modify, h]
    split
    · exact ⟨f user, rfl⟩
    · exact ⟨user, rfl⟩

theorem findByEmail_eq_some {users : Collection User} {email : String} {id : UserId} {user : User}
    (h : findByEmail users email = some (id, user)) :
    users.get id = some user ∧ user.email = email := by
  obtain ⟨hget, hemail⟩ := Collection.mem_find.mp (List.mem_of_mem_head? h)
  exact ⟨hget, of_decide_eq_true hemail⟩

/-- **What one database call does to passwords and links.** -/
theorem reset_move (h : sessionStep cfg s pc r = some (s', pc')) : ResetMove cfg s pc s' pc' := by
  cases pc with
  | loginFind email password =>
    cases h
    refine .same (.refl s) ?_
    unfold afterLoginFind
    split
    · rfl
    · split
      · split <;> rfl
      · rfl
  | signInFind userId =>
    cases h
    refine .same (.refl s) ?_
    unfold afterSignInFind
    split
    · rfl
    · split <;> rfl
  | loginCreate userId ticket =>
    cases h
    exact .same (.of_eq rfl rfl) rfl
  | refreshFind raw =>
    cases h
    refine .same (.refl s) ?_
    unfold afterRefreshFind
    split
    · rfl
    · split
      · rfl
      · split <;> rfl
  | revokeFamily userId =>
    cases h
    exact .same (.of_eq rfl rfl) rfl
  | refreshUser raw stored =>
    cases h
    refine .same (.refl s) ?_
    unfold afterRefreshUser
    split
    · rfl
    · split <;> rfl
  | refreshCreate raw stored =>
    cases h
    exact .same (.of_eq rfl rfl) rfl
  | refreshSave raw child =>
    cases h
    exact .same (.of_eq rfl rfl) rfl
  | logoutUpdate raw =>
    cases h
    exact .same (.of_eq rfl rfl) rfl
  | forgotFind email =>
    simp only [sessionStep] at h
    split at h
    · cases h
      exact .same (.refl s) rfl
    · rename_i id user hfind
      cases h
      exact .signed (findByEmail_eq_some hfind).1
  | resetFind rawToken passwordHash =>
    simp only [sessionStep] at h
    split at h
    · cases h
      exact .same (.refl s) rfl
    · rename_i payload hpayload
      split at h
      · cases h
        exact .same (.refl s) rfl
      · rename_i user huser
        cases h
        exact .found (Option.filter_eq_some_iff.mp hpayload).1 huser
  | resetCheck payload email passwordHash =>
    simp only [sessionStep] at h
    split at h
    · cases h
      exact .same (.refl s) rfl
    · rename_i id target htarget
      split at h
      · cases h
        exact .matched htarget
      · cases h
        exact .same (.refl s) rfl
  | changeFind userId currentPassword passwordHash =>
    simp only [sessionStep] at h
    split at h
    · cases h
      exact .same (.refl s) rfl
    · rename_i user huser
      split at h
      · cases h
        exact .confirmed huser
      · cases h
        exact .same (.refl s) rfl
  | passwordWrite userId passwordHash =>
    cases h
    exact .wrote
  | suspendFind id =>
    simp only [sessionStep] at h
    split at h
    · cases h
      exact .same (.refl s) rfl
    · split at h <;> cases h <;> exact .same (.refl s) rfl
  | suspendSave id =>
    cases h
    have hsame : s.SamePasswords (s.modifyUser id fun u => { u with status := .suspended }) :=
      samePasswords_modifyUser fun _ => ⟨rfl, rfl⟩
    exact .same ⟨hsame.links, hsame.user, hsame.stays⟩ rfl
  | sweep userId write =>
    cases h
    exact .same (.of_eq rfl rfl) rfl
  | reactivateFind id =>
    simp only [sessionStep] at h
    split at h
    · cases h
      exact .same (.refl s) rfl
    · split at h <;> cases h <;> exact .same (.refl s) rfl
  | reactivateSave id =>
    cases h
    exact .same (samePasswords_modifyUser fun _ => ⟨rfl, rfl⟩) rfl
  | revoked userId write => cases h
  | reuseDetected userId => cases h
  | returned => cases h
  | rejected error => cases h

end Moves

/-! ## Every run -/

/-- What a call knows that is to write a password. -/
structure KnowsTarget (cfg : AuthConfig) (s : Sessions) (pc : SessionPc) : Prop where
  fresh : ∀ h, pc.newHash = some h → cfg.fingerprint h ∉ s.fingerprints cfg
  checked : ∀ payload email h, pc = .resetCheck payload email h →
    ∃ user, s.users.get payload.sub = some user ∧ user.email = email
  target : ∀ id h, pc = .passwordWrite id h → ∃ user, s.users.get id = some user

def DistinctEmails (users : Collection User) : Prop :=
  ∀ i j u v, users.get i = some u → users.get j = some v → u.email = v.email → i = j

/-- No two calls are to write hashes of one fingerprint. -/
def resets (cfg : AuthConfig) : Outline Sessions SessionPc where
  shared s := DistinctEmails s.users
  proc := KnowsTarget cfg
  compat p q := ∀ h h', p.newHash = some h → q.newHash = some h' →
    cfg.fingerprint h ≠ cfg.fingerprint h'
  symm _ _ hpq h h' hq hp := (hpq h' h hp hq).symm

section Runs

variable {cfg : AuthConfig} {s s' : Sessions} {pc pc' : SessionPc} {link : ResetToken}
  {userId : UserId} {passwordHash : String}

theorem mem_fingerprints_of_link {i : Nat} (h : s.resetTokens.get i = some link) :
    link.pwdFingerprint ∈ s.fingerprints cfg := by
  apply List.mem_append_left
  exact List.mem_map_of_mem (List.mem_of_getElem? h)

theorem mem_fingerprints_of_user {id : UserId} {user : User} (h : s.users.get id = some user) :
    cfg.fingerprint user.passwordHash ∈ s.fingerprints cfg := by
  apply List.mem_append_right
  exact List.mem_map.mpr ⟨user, List.mem_of_getElem? h, rfl⟩

theorem mem_fingerprints {f : String} (h : f ∈ s.fingerprints cfg) :
    (∃ i link, s.resetTokens.get i = some link ∧ link.pwdFingerprint = f) ∨
      ∃ id user, s.users.get id = some user ∧ cfg.fingerprint user.passwordHash = f := by
  rcases List.mem_append.mp h with h | h
  · obtain ⟨link, hlink, hf⟩ := List.mem_map.mp h
    obtain ⟨i, hi⟩ := List.mem_iff_getElem?.mp hlink
    exact Or.inl ⟨i, link, hi, hf⟩
  · obtain ⟨user, huser, hf⟩ := List.mem_map.mp h
    obtain ⟨i, hi⟩ := List.mem_iff_getElem?.mp huser
    exact Or.inr ⟨i, user, hi, hf⟩

theorem Sessions.SamePasswords.fingerprints (h : s.SamePasswords s') {f : String}
    (hf : f ∈ s'.fingerprints cfg) : f ∈ s.fingerprints cfg := by
  rcases mem_fingerprints hf with ⟨i, link, hlink, rfl⟩ | ⟨id, user', huser, rfl⟩
  · rw [h.links] at hlink
    exact mem_fingerprints_of_link hlink
  · obtain ⟨user, hget, -, hpassword⟩ := h.user id user' huser
    rw [hpassword]
    exact mem_fingerprints_of_user hget

/-- A link that is signed shows the fingerprint of a stored hash. -/
theorem fingerprints_signReset {token : ResetToken} {f : String}
    (htoken : token.pwdFingerprint ∈ s.fingerprints cfg)
    (hf : f ∈ (s.signReset token).fingerprints cfg) : f ∈ s.fingerprints cfg := by
  rcases mem_fingerprints hf with ⟨i, link, hlink, rfl⟩ | ⟨id, user, huser, rfl⟩
  · rcases Collection.get_create_cases hlink with ⟨_, rfl⟩ | ⟨_, hlink⟩
    · exact htoken
    · exact mem_fingerprints_of_link hlink
  · exact mem_fingerprints_of_user (s := s) huser

def Sessions.writePassword (s : Sessions) (userId : UserId) (passwordHash : String) : Sessions :=
  (s.modifyUser userId fun u => { u with passwordHash := passwordHash }).countWrite userId

theorem fingerprints_writePassword {f : String}
    (hf : f ∈ (s.writePassword userId passwordHash).fingerprints cfg) :
    f ∈ s.fingerprints cfg ∨ f = cfg.fingerprint passwordHash := by
  rcases mem_fingerprints hf with ⟨i, link, hlink, rfl⟩ | ⟨id, user, huser, rfl⟩
  · exact Or.inl (mem_fingerprints_of_link (s := s) hlink)
  · rcases Collection.get_modify_cases huser with ⟨_, d, _, rfl⟩ | ⟨_, huser⟩
    · exact Or.inr rfl
    · exact Or.inl (mem_fingerprints_of_user huser)

/-- The user that has an id keeps it and its e-mail. -/
theorem get_writePassword (userId : UserId) (passwordHash : String) {id : UserId} {user : User}
    (h : s.users.get id = some user) :
    ∃ user', (s.writePassword userId passwordHash).users.get id = some user' ∧
      user'.email = user.email ∧
      user'.passwordHash = if userId = id then passwordHash else user.passwordHash := by
  show ∃ user', (s.users.modify userId _).get id = some user' ∧ _
  rw [Collection.get_modify, h]
  split
  · exact ⟨_, rfl, rfl, rfl⟩
  · exact ⟨_, rfl, rfl, rfl⟩

/-- What the other calls know stays true, and so does what sets e-mails apart. -/
structure EmailsKept (s s' : Sessions) : Prop where
  stays : ∀ id user, s.users.get id = some user →
    ∃ user', s'.users.get id = some user' ∧ user'.email = user.email
  distinct : DistinctEmails s.users → DistinctEmails s'.users

theorem Sessions.SamePasswords.emailsKept (h : s.SamePasswords s') : EmailsKept s s' where
  stays id user huser := by
    obtain ⟨user', huser'⟩ := h.stays id user huser
    obtain ⟨user₀, hget, hemail, -⟩ := h.user id user' huser'
    rw [huser] at hget
    exact ⟨user', huser', by rw [hemail, Option.some.inj hget]⟩
  distinct hdistinct i j u v hu hv huv := by
    obtain ⟨u₀, hu₀, hue, -⟩ := h.user i u hu
    obtain ⟨v₀, hv₀, hve, -⟩ := h.user j v hv
    exact hdistinct i j u₀ v₀ hu₀ hv₀ (by rw [← hue, ← hve, huv])

theorem emailsKept_writePassword : EmailsKept s (s.writePassword userId passwordHash) where
  stays id user huser := by
    obtain ⟨user', huser', hemail, -⟩ := get_writePassword userId passwordHash huser
    exact ⟨user', huser', hemail⟩
  distinct hdistinct i j u v hu hv huv := by
    obtain ⟨u₀, hu₀⟩ := Collection.exists_get_of_modify hu
    obtain ⟨v₀, hv₀⟩ := Collection.exists_get_of_modify hv
    obtain ⟨u', hu', hue, -⟩ := get_writePassword userId passwordHash hu₀
    obtain ⟨v', hv', hve, -⟩ := get_writePassword userId passwordHash hv₀
    rw [hu] at hu'
    rw [hv] at hv'
    exact hdistinct i j u₀ v₀ hu₀ hv₀ (by
      rw [← hue, ← hve, ← Option.some.inj hu', ← Option.some.inj hv', huv])

theorem KnowsTarget.mono (h : KnowsTarget cfg s pc) (hemails : EmailsKept s s')
    (hfresh : ∀ f, pc.newHash = some f → cfg.fingerprint f ∈ s'.fingerprints cfg →
      cfg.fingerprint f ∈ s.fingerprints cfg) : KnowsTarget cfg s' pc where
  fresh f hf hmem := h.fresh f hf (hfresh f hf hmem)
  checked payload email f hpc := by
    obtain ⟨user, huser, hemail⟩ := h.checked payload email f hpc
    obtain ⟨user', huser', hemail'⟩ := hemails.stays _ user huser
    exact ⟨user', huser', hemail'.trans hemail⟩
  target id f hpc := by
    obtain ⟨user, huser⟩ := h.target id f hpc
    obtain ⟨user', huser', -⟩ := hemails.stays _ user huser
    exact ⟨user', huser'⟩

theorem KnowsTarget.of_none (h : pc.newHash = none) : KnowsTarget cfg s pc where
  fresh f hf := by rw [h] at hf; cases hf
  checked payload email f hpc := by rw [hpc] at h; cases h
  target id f hpc := by rw [hpc] at h; cases h

theorem eq_of_createUser_ok {users users' : Collection User} {user : User}
    (h : createUser users user = .ok users') :
    users' = users.create user ∧ findByEmail users user.email = none := by
  unfold createUser at h
  split at h
  · cases h
  · split at h
    · cases h
    · rename_i htaken
      simp only [Bool.or_eq_true, not_or, Bool.not_eq_true, Option.isSome_eq_false_iff,
        Option.isNone_iff_eq_none] at htaken
      cases h
      exact ⟨rfl, htaken.1⟩

theorem emailsKept_create {user : User} (h : findByEmail s.users user.email = none) :
    EmailsKept s { s with users := s.users.create user } where
  stays id u hu := ⟨u, Collection.get_create_of_get hu, rfl⟩
  distinct hdistinct := by
    have hnew : ∀ j v, s.users.get j = some v → v.email ≠ user.email := by
      intro j v hv hemail
      rw [findByEmail, List.head?_eq_none_iff] at h
      have hmem : (j, v) ∈ s.users.find fun _ u => u.email = user.email :=
        Collection.mem_find.mpr ⟨hv, decide_eq_true hemail⟩
      rw [h] at hmem
      cases hmem
    intro i j u v hu hv huv
    rcases Collection.get_create_cases hu with ⟨hi, rfl⟩ | ⟨_, hu₀⟩
    · rcases Collection.get_create_cases hv with ⟨hj, rfl⟩ | ⟨_, hv₀⟩
      · rw [hi, hj]
      · exact absurd huv.symm (hnew j v hv₀)
    · rcases Collection.get_create_cases hv with ⟨hj, rfl⟩ | ⟨_, hv₀⟩
      · exact absurd huv (hnew i u hu₀)
      · exact hdistinct i j u v hu₀ hv₀ huv

theorem fresh_of_spawn {s : SessionPool} {request : SessionRequest} {h : String}
    (he : FreshHashes cfg s (.spawn request) = true)
    (hnew : (SessionPc.start request).newHash = some h) :
    cfg.fingerprint h ∉ s.shared.fingerprints cfg ∧
      ∀ q ∈ s.procs, ∀ h', q.newHash = some h' → cfg.fingerprint h ≠ cfg.fingerprint h' := by
  simp only [FreshHashes, hnew, Option.all_some, decide_eq_true_eq, List.mem_append, not_or] at he
  refine ⟨he.1, ?_⟩
  intro q hq h' hh' heq
  apply he.2
  rw [heq]
  exact List.mem_filterMap.mpr ⟨q, hq, by rw [hh']; rfl⟩

/-- **Each call keeps its own fingerprint apart.** -/
theorem resets_kept (cfg : AuthConfig) :
    (resets cfg).Kept (sessions cfg) (fun s e => FreshHashes cfg s e = true) fun _ => True where
  spawn s request _ he _ := by
    constructor
    · refine ⟨fun h hh => (fresh_of_spawn he hh).1, ?_, ?_⟩
      · intro payload email h hpc
        cases request <;> simp only [sessions, SessionPc.start] at hpc <;>
          first | cases hpc | (split at hpc <;> cases hpc)
      · intro id h hpc
        cases request <;> simp only [sessions, SessionPc.start] at hpc <;>
          first | cases hpc | (split at hpc <;> cases hpc)
    · intro q hq h h' hh hh'
      exact (fresh_of_spawn he hh).2 q hq h' hh'
  run s i r p w p' _ _ hholds hp hs := by
    have hknows := hholds.at hp
    have hmove := reset_move hs
    -- a call that writes nothing more leaves the others apart
    have hnone {w : Sessions} (hemails : EmailsKept s.shared w) (hnew : p'.newHash = none)
        (hfresh : ∀ q ∈ s.procs, p.newHash = none ∨ (resets cfg).compat p q →
          ∀ f, q.newHash = some f → cfg.fingerprint f ∈ w.fingerprints cfg →
            cfg.fingerprint f ∈ s.shared.fingerprints cfg) :
        (resets cfg).shared w ∧ (resets cfg).proc w p' ∧ ∀ (j : Nat) (q : SessionPc), i ≠ j →
          s.procs[j]? = some q → (resets cfg).proc s.shared q → (resets cfg).compat p q →
            (resets cfg).proc w q ∧ (resets cfg).compat p' q := by
      refine ⟨hemails.distinct hholds.shared, .of_none hnew, ?_⟩
      intro j q _ hq hknowsq hcompat
      refine ⟨hknowsq.mono hemails (hfresh q (List.mem_of_getElem? hq) (Or.inr hcompat)), ?_⟩
      intro h h' hh _
      rw [hnew] at hh
      cases hh
    -- a call that goes on to write the same hash does so too
    have hsame {p' : SessionPc} (hhash : p'.newHash = p.newHash)
        (hp' : KnowsTarget cfg s.shared p') :
        (resets cfg).shared s.shared ∧ (resets cfg).proc s.shared p' ∧
          ∀ (j : Nat) (q : SessionPc), i ≠ j → s.procs[j]? = some q →
            (resets cfg).proc s.shared q → (resets cfg).compat p q →
              (resets cfg).proc s.shared q ∧ (resets cfg).compat p' q := by
      refine ⟨hholds.shared, hp', ?_⟩
      intro j q _ _ hknowsq hcompat
      exact ⟨hknowsq, fun h h' hh hh' => hcompat h h' (hhash ▸ hh) hh'⟩
    cases hmove with
    | same hsame' hnew =>
      exact hnone hsame'.emailsKept hnew fun _ _ _ _ _ hf => hsame'.fingerprints hf
    | @found rawToken h payload user hlink huser =>
      refine hsame rfl ⟨fun f hf => hknows.fresh f hf, ?_, fun id f hpc => (by cases hpc)⟩
      intro payload' email f hpc
      cases hpc
      exact ⟨user, huser, rfl⟩
    | matched htarget =>
      refine hsame rfl ⟨fun f hf => hknows.fresh f hf, fun payload email f hpc => (by cases hpc),
        ?_⟩
      intro id f hpc
      cases hpc
      exact ⟨_, (findByEmail_eq_some htarget).1⟩
    | confirmed huser =>
      refine hsame rfl ⟨fun f hf => hknows.fresh f hf, fun payload email f hpc => (by cases hpc),
        ?_⟩
      intro id f hpc
      cases hpc
      exact ⟨_, huser⟩
    | signed huser =>
      exact hnone ⟨fun _ u hu => ⟨u, hu, rfl⟩, fun h => h⟩ rfl fun _ _ _ _ _ hf =>
        fingerprints_signReset (mem_fingerprints_of_user huser) hf
    | @wrote userId h =>
      refine hnone emailsKept_writePassword rfl ?_
      intro q hq hcompat f hf hmem
      rcases fingerprints_writePassword hmem with hmem | heq
      · exact hmem
      · rcases hcompat with hp | hcompat
        · cases hp
        · exact absurd heq.symm (hcompat h f rfl hf)
  env s e w _ he hholds hw := by
    cases e with
    | createUser user =>
      obtain ⟨users', hok, rfl⟩ := Option.map_eq_some_iff.mp hw
      cases hcreate : createUser s.shared.users user with
      | error e =>
        rw [hcreate] at hok
        cases hok
      | ok users =>
        rw [hcreate] at hok
        cases hok
        obtain ⟨rfl, hfree⟩ := eq_of_createUser_ok hcreate
        refine ⟨(emailsKept_create hfree).distinct hholds.shared, ?_⟩
        intro q hq
        apply (hholds.procs q hq).mono (emailsKept_create hfree)
        intro f hf hmem
        rcases mem_fingerprints hmem with ⟨i, link, hlink, heq⟩ | ⟨id, u, hu, heq⟩
        · exact heq ▸ mem_fingerprints_of_link (s := s.shared) hlink
        · rcases Collection.get_create_cases hu with ⟨_, rfl⟩ | ⟨_, hu⟩
          · simp only [FreshHashes, decide_eq_true_eq] at he
            exfalso
            apply he
            rw [heq]
            exact List.mem_filterMap.mpr ⟨q, hq, by rw [hf]; rfl⟩
          · exact heq ▸ mem_fingerprints_of_user (s := s.shared) hu

theorem resets_of_reach {s : SessionPool}
    (h : (sessions cfg).Reach (fun s e => FreshHashes cfg s e = true) SessionPool.initial s) :
    (resets cfg).Holds s := by
  refine Outline.holds_of_reach (resets_kept cfg) (fun _ _ => trivial) (Outline.holds_nil ?_) h
  intro i j u v hu
  cases hu

/-! ## Links that are no longer good -/

/-- The link has been signed, and the password has changed since. -/
def Sessions.Dead (cfg : AuthConfig) (s : Sessions) (rawToken : Nat) (link : ResetToken) : Prop :=
  s.resetTokens.get rawToken = some link ∧ s.Stale cfg link

theorem Sessions.SamePasswords.dead (h : s.SamePasswords s') {rawToken : Nat}
    (hdead : s.Dead cfg rawToken link) : s'.Dead cfg rawToken link := by
  obtain ⟨hlink, user, huser, hne⟩ := hdead
  obtain ⟨user', huser'⟩ := h.stays _ user huser
  obtain ⟨user₀, hget, -, hpassword⟩ := h.user _ user' huser'
  rw [huser, Option.some.injEq] at hget
  subst hget
  exact ⟨h.links ▸ hlink, user', huser', hpassword ▸ hne⟩

/-- A password with a fingerprint of its own leaves the links of its user dead, and no other link
comes to life. -/
theorem dead_writePassword {rawToken : Nat} (hlink : s.resetTokens.get rawToken = some link)
    (hfresh : cfg.fingerprint passwordHash ∉ s.fingerprints cfg)
    (hstale : link.sub = userId ∧ (∃ user, s.users.get userId = some user) ∨ s.Stale cfg link) :
    (s.writePassword userId passwordHash).Dead cfg rawToken link := by
  have hne : cfg.fingerprint passwordHash ≠ link.pwdFingerprint := by
    intro heq
    apply hfresh
    rw [heq]
    exact mem_fingerprints_of_link hlink
  refine ⟨hlink, ?_⟩
  rcases hstale with ⟨rfl, user, huser⟩ | ⟨user, huser, hold⟩
  · obtain ⟨user', huser', -, hpassword⟩ := get_writePassword link.sub passwordHash huser
    rw [if_pos rfl] at hpassword
    exact ⟨user', huser', hpassword ▸ hne⟩
  · obtain ⟨user', huser', -, hpassword⟩ := get_writePassword userId passwordHash huser
    refine ⟨user', huser', ?_⟩
    rw [hpassword]
    split
    · exact hne
    · exact hold

/-- **A dead link stays dead.** -/
theorem dead_next {s s' : SessionPool} {e : SessionEvent} {rawToken : Nat}
    (h : (resets cfg).Holds s) (hs : (sessions cfg).next s e = some s')
    (hdead : s.shared.Dead cfg rawToken link) : s'.shared.Dead cfg rawToken link := by
  cases e with
  | spawn request =>
    cases hs
    exact hdead
  | run i r =>
    obtain ⟨pc, w, pc', hpc, hstep, rfl⟩ := Machine.next_run hs
    have hknows : KnowsTarget cfg s.shared pc := h.at hpc
    have hmove := reset_move hstep
    cases hmove with
    | same hsame _ => exact hsame.dead hdead
    | found _ _ => exact hdead
    | matched _ => exact hdead
    | confirmed _ => exact hdead
    | signed _ => exact ⟨Collection.get_create_of_get hdead.1, hdead.2⟩
    | wrote => exact dead_writePassword hdead.1 (hknows.fresh _ rfl) (Or.inr hdead.2)
  | env e =>
    obtain ⟨w, hw, rfl⟩ := Machine.next_env hs
    cases e with
    | createUser user =>
      obtain ⟨users', hok, rfl⟩ := Option.map_eq_some_iff.mp hw
      cases hcreate : createUser s.shared.users user with
      | error e =>
        rw [hcreate] at hok
        cases hok
      | ok users =>
        rw [hcreate] at hok
        cases hok
        obtain ⟨rfl, -⟩ := eq_of_createUser_ok hcreate
        obtain ⟨hlink, u, hu, hne⟩ := hdead
        exact ⟨hlink, u, Collection.get_create_of_get hu, hne⟩

/-- **A call that comes with a dead link is turned away.** -/
theorem rejects_of_dead {s : SessionPool} (h : (resets cfg).Holds s) {rawToken : Nat}
    (hdead : s.shared.Dead cfg rawToken link) {email : String}
    (hpc : .resetCheck link email passwordHash ∈ s.procs) (r : SessionReply) :
    sessionStep cfg s.shared (.resetCheck link email passwordHash) r =
      some (s.shared, .rejected (.unauthorized "Invalid or expired reset token")) := by
  obtain ⟨-, user, huser, hne⟩ := hdead
  obtain ⟨user₀, hget, hemail⟩ := (h.procs _ hpc).checked link email passwordHash rfl
  rw [huser, Option.some.injEq] at hget
  subst hget
  simp only [sessionStep]
  cases hfind : findByEmail s.shared.users email with
  | none => rfl
  | some found =>
    obtain ⟨id, target⟩ := found
    obtain ⟨htarget, htargetEmail⟩ := findByEmail_eq_some hfind
    -- the e-mail leads back to the user of the link
    have hid : id = link.sub :=
      h.shared id link.sub target user htarget huser (htargetEmail.trans hemail.symm)
    rw [hid, huser, Option.some.injEq] at htarget
    subst htarget
    exact if_neg hne

/-- **A written password ends the links of its user**: whichever of them had been signed, by
whomever the password was written, each is dead for good, and each call that still comes with one
is turned away and leaves everything as it is. -/
theorem used_link_dead {s s' s'' : SessionPool} {i : Nat} {r : SessionReply}
    (h : (sessions cfg).Reach (fun s e => FreshHashes cfg s e = true) SessionPool.initial s)
    (hi : s.procs[i]? = some (.passwordWrite userId passwordHash))
    (hwrite : (sessions cfg).next s (.run i r) = some s')
    (hlater : (sessions cfg).Reach (fun s e => FreshHashes cfg s e = true) s' s'') :
    ∀ rawToken link, s.shared.resetTokens.get rawToken = some link → link.sub = userId →
      s''.shared.Dead cfg rawToken link ∧
        ∀ email hash, .resetCheck link email hash ∈ s''.procs → ∀ r,
          sessionStep cfg s''.shared (.resetCheck link email hash) r =
            some (s''.shared, .rejected (.unauthorized "Invalid or expired reset token")) := by
  intro rawToken link hlink hsub
  have hreach : (sessions cfg).Reach (fun s e => FreshHashes cfg s e = true)
      SessionPool.initial s' :=
    .tail h rfl hwrite
  have hknows : KnowsTarget cfg s.shared (.passwordWrite userId passwordHash) :=
    (resets_of_reach h).at hi
  have hdead' : s'.shared.Dead cfg rawToken link := by
    obtain ⟨pc, w, pc', hpc, hstep, rfl⟩ := Machine.next_run hwrite
    rw [hi, Option.some.injEq] at hpc
    subst hpc
    cases hstep
    exact dead_writePassword hlink (hknows.fresh _ rfl)
      (Or.inl ⟨hsub, hknows.target userId passwordHash rfl⟩)
  have hdead : s''.shared.Dead cfg rawToken link := by
    induction hlater with
    | start => exact hdead'
    | tail prior _ hs ih => exact dead_next (resets_of_reach (hreach.trans prior)) hs ih
  refine ⟨hdead, fun email hash hpc r => ?_⟩
  exact rejects_of_dead (resets_of_reach (hreach.trans hlater)) hdead hpc r

end Runs

/-! ## Two links -/

deriving instance DecidableEq for SessionPc

/-- Two links for one user; the first one is about to be redeemed. -/
def twoLinks : List SessionEvent :=
  loggedInRun ++ [.spawn (.forgotPassword "ada@example.com"),
    .spawn (.forgotPassword "ada@example.com")] ++ sessionTurns [1, 2] ++
      [.spawn (.resetPassword 0 "$2b$second")] ++ sessionTurns [3, 3]

def adaLink : ResetToken := ⟨0, "$2b$first", 60 * 60 * 1000⟩

/-- The second link has been found, and the password is that of the first. -/
def presentsSecond (s : SessionPool) : Bool :=
  decide (SessionPc.resetCheck adaLink "ada@example.com" "$2b$third" ∈ s.procs) &&
    decide (s.shared.users.docs.map (·.passwordHash) = ["$2b$second"])

/-- The first link is redeemed, and the second one is presented then. -/
def redeemsFirst (s : SessionPool) : Bool :=
  decide (s.procs[3]? = some (SessionPc.passwordWrite 0 "$2b$second")) &&
    (decide (s.shared.resetTokens.get 1 = some adaLink) &&
      ((sessions plainAuth).next s (.run 3 ⟨0⟩)).any fun s' =>
        ((sessions plainAuth).play (FreshHashes plainAuth) s'
          ([.spawn (.resetPassword 1 "$2b$third")] ++ sessionTurns [4])).any presentsSecond)

theorem used_link_dead_second : ∃ s : SessionPool, presentsSecond s = true ∧
    sessionStep plainAuth s.shared (.resetCheck adaLink "ada@example.com" "$2b$third") ⟨0⟩ =
      some (s.shared, .rejected (.unauthorized "Invalid or expired reset token")) := by
  obtain ⟨s, hreach, hs⟩ := exists_sessionRun (FreshHashes plainAuth) redeemsFirst twoLinks
    (by decide +kernel)
  rw [redeemsFirst, Bool.and_eq_true, Bool.and_eq_true, decide_eq_true_eq, decide_eq_true_eq,
    Option.any_eq_true] at hs
  obtain ⟨hi, hlink, s', hwrite, hs'⟩ := hs
  obtain ⟨s'', hlater, hs''⟩ := Machine.exists_reach_of_play (fun _ _ h => h) _ hs'
  have hpc : SessionPc.resetCheck adaLink "ada@example.com" "$2b$third" ∈ s''.procs := by
    rw [presentsSecond, Bool.and_eq_true, decide_eq_true_eq] at hs''
    exact hs''.1
  exact ⟨s'', hs'', (used_link_dead hreach hi hwrite hlater 1 adaLink hlink rfl).2 _ _ hpc _⟩

/-- Two calls that have both passed the check with one link both write. -/
example : ((sessions plainAuth).exec SessionPool.initial (twoLinks ++
    [.spawn (.resetPassword 0 "$2b$third")] ++ sessionTurns [4, 4, 3, 4])).any (fun s =>
      decide (s.shared.users.docs.map (·.passwordHash) = ["$2b$third"]) &&
        decide (s.shared.written 0 = 2)) = true := by
  decide +kernel

end FoodDelivery
