import FoodDelivery.Auth.Accounts
import FoodDelivery.Lib.Interleave

/-!
# Phone codes under concurrent guesses

`sendPhoneCode` and `verifyPhoneCode`, each a process that takes one database call at a time.  A
guess is compared with the code that was looked up, and the attempt, or the acceptance, is saved by
a later call.  Codes are drawn by the outside, users change as they like.

* `phoneCodeStep`: one database call.
* `verifyPhoneCode_alone`: a call that nothing comes between does what `Accounts.verifyPhoneCode`
  says.
* `phoneCode_move`: all that one database call can do.
* `codes_guarded`: five wrong guesses and one acceptance for each code, where guesses take turns.
* `guessed_at_once`: six wrong guesses and two sessions from one code.
-/

namespace FoodDelivery

open Store Interleave

/-- The collections.  Beside them, for each wrong guess, for each saved acceptance and for each
session or signup token that was issued: the code that it was for. -/
structure PhoneCodes where
  accounts : Accounts
  compared : List Nat
  accepted : List Nat
  issued : List Nat

inductive PhoneCodeRequest
  | sendPhoneCode (phone : String) (purpose : PhoneOtpPurpose)
  | verifyPhoneCode (phone code : String) (purpose : PhoneOtpPurpose)

inductive PhoneCodePc
  | sendFind (phone : String)
  | sendDelete (phone : String) (purpose : PhoneOtpPurpose)
  | sendCreate (phone : String) (purpose : PhoneOtpPurpose)
  | verifyFind (phone code : String) (purpose : PhoneOtpPurpose)
  | saveAttempts (id attempts : Nat)
  | saveConsumed (id : Nat) (phone : String) (purpose : PhoneOtpPurpose)
  | loginFind (id : Nat) (phone : String)
  | issueTokens (id : Nat)
  | returned
  | rejected (error : AuthError)
  | documentNotFound

/-- What the outside answers: the time, and the code that is drawn. -/
structure PhoneCodeReply where
  now : Time
  code : String

namespace PhoneCodePc

def start : PhoneCodeRequest → PhoneCodePc
  | .sendPhoneCode phone .login => .sendFind phone
  | .sendPhoneCode phone .signup => .sendDelete phone .signup
  | .verifyPhoneCode phone code purpose => .verifyFind phone code purpose

/-- The code that a call has a wrong guess still to count for. -/
def counting : PhoneCodePc → Option Nat
  | .saveAttempts id _ => some id
  | _ => none

/-- The code that a call has saved as accepted, and has still to issue a session for. -/
def answering : PhoneCodePc → Option Nat
  | .loginFind id _ => some id
  | .issueTokens id => some id
  | _ => none

end PhoneCodePc

namespace PhoneCodes

/-- Nothing has been guessed yet. -/
def of (accounts : Accounts) : PhoneCodes := ⟨accounts, [], [], []⟩

def live (s : PhoneCodes) (id : Nat) : Option PhoneOtp := s.accounts.phoneOtps.live id

/-- Codes are written in place. -/
def modifyOtp (s : PhoneCodes) (id : Nat) (f : PhoneOtp → PhoneOtp) : PhoneCodes :=
  { s with
    accounts := { s.accounts with phoneOtps := s.accounts.phoneOtps.modify id (Option.map f) } }

/-- `deleteMany({ phone, purpose, consumedAt: null })`. -/
def deleteLive (s : PhoneCodes) (phone : String) (purpose : PhoneOtpPurpose) : PhoneCodes :=
  { s with
    accounts := { s.accounts with
      phoneOtps := s.accounts.phoneOtps.updateMany (fun otp => otp.any fun otp =>
        otp.phone = phone && (otp.purpose = purpose && otp.consumedAt.isNone)) fun _ => none } }

def createOtp (s : PhoneCodes) (otp : PhoneOtp) : PhoneCodes :=
  { s with accounts := { s.accounts with phoneOtps := s.accounts.phoneOtps.create (some otp) } }

def compare (s : PhoneCodes) (id : Nat) : PhoneCodes := { s with compared := id :: s.compared }

def accept (s : PhoneCodes) (id : Nat) (now : Time) : PhoneCodes :=
  { s.modifyOtp id fun otp => { otp with consumedAt := some now } with
    accepted := id :: s.accepted }

def issue (s : PhoneCodes) (id : Nat) : PhoneCodes := { s with issued := id :: s.issued }

/-- The signup token that is issued for a code. -/
def sign (s : PhoneCodes) (id : Nat) (phone : String) (now : Time) : PhoneCodes :=
  { s.issue id with
    accounts := s.accounts.sign (.verifyPhoneSignup phone) (now + 10 * 60 * 1000) }

end PhoneCodes

def invalidCode : PhoneCodePc := .rejected (.unauthorized "Invalid or expired code")

section Steps

variable (hashToken : String → String)

/-- What `verifyPhoneCode` does with the code it found. -/
def afterVerifyFind (s : PhoneCodes) (now : Time) (phone code : String)
    (purpose : PhoneOtpPurpose) : Option (Nat × PhoneOtp) → PhoneCodes × PhoneCodePc
  | none => (s, invalidCode)
  | some (id, otp) =>
    if otp.expiresAt < now then (s, invalidCode)
    else if phoneOtpMaxAttempts ≤ otp.attempts then
      (s, .rejected (.unauthorized "Too many attempts — request a new code"))
    else if otp.codeHash ≠ hashToken code then
      (s.compare id, .saveAttempts id (otp.attempts + 1))
    else (s, .saveConsumed id phone purpose)

/-- What `verifyPhoneCode` does once the acceptance is saved. -/
def afterSaveConsumed (s : PhoneCodes) (now : Time) (id : Nat) (phone : String) :
    PhoneOtpPurpose → PhoneCodes × PhoneCodePc
  | .login => (s, .loginFind id phone)
  | .signup => (s.sign id phone now, .returned)

/-- One database call, and what the call does until its next one.  `save()` throws when the document
is gone. -/
def phoneCodeStep (s : PhoneCodes) (pc : PhoneCodePc) (r : PhoneCodeReply) :
    Option (PhoneCodes × PhoneCodePc) :=
  match pc with
  | .sendFind phone =>
    if (findByPhone s.accounts.users phone).any (·.2.isPhoneVerified) then
      some (s, .sendDelete phone .login)
    else some (s, .returned)
  | .sendDelete phone purpose => some (s.deleteLive phone purpose, .sendCreate phone purpose)
  | .sendCreate phone purpose =>
    some (s.createOtp ⟨phone, hashToken r.code, purpose, r.now + phoneOtpTtlMs, 0, none⟩,
      .returned)
  | .verifyFind phone code purpose =>
    some (afterVerifyFind hashToken s r.now phone code purpose
      (s.accounts.latestOtp phone purpose))
  | .saveAttempts id attempts =>
    match s.live id with
    | none => some (s, .documentNotFound)
    | some _ => some (s.modifyOtp id fun otp => { otp with attempts := attempts }, invalidCode)
  | .saveConsumed id phone purpose =>
    match s.live id with
    | none => some (s, .documentNotFound)
    | some _ => some (afterSaveConsumed (s.accept id r.now) r.now id phone purpose)
  | .loginFind id phone =>
    match s.accounts.loginByPhone phone with
    | .error e => some (s, .rejected e)
    | .ok () => some (s, .issueTokens id)
  | .issueTokens id => some (s.issue id, .returned)
  | .returned => none
  | .rejected _ => none
  | .documentNotFound => none

/-- What happens beside the calls: users come, go and change. -/
inductive PhoneCodeEnvEvent
  | users (users : Collection User)

def envPhoneCodes (s : PhoneCodes) : PhoneCodeEnvEvent → Option PhoneCodes
  | .users users => some { s with accounts := s.accounts.withUsers users }

/-- Any number of calls. -/
def phoneCodes : Machine PhoneCodes PhoneCodePc PhoneCodeRequest PhoneCodeReply PhoneCodeEnvEvent
    where
  start _ := PhoneCodePc.start
  step := phoneCodeStep hashToken
  env := envPhoneCodes

end Steps

abbrev PhoneCodePool := Pool PhoneCodes PhoneCodePc

abbrev PhoneCodeEvent := Event PhoneCodeRequest PhoneCodeReply PhoneCodeEnvEvent

/-! ## Reading codes back -/

namespace PhoneCodes

variable {s : PhoneCodes} {id i : Nat} {otp : PhoneOtp} {f : PhoneOtp → PhoneOtp}

/-- A code after a write in place. -/
theorem live_modifyOtp (h : (s.modifyOtp id f).live i = some otp) :
    (id = i ∧ ∃ old, s.live i = some old ∧ otp = f old) ∨ (id ≠ i ∧ s.live i = some otp) :=
  Collection.live_modify_cases h

/-- `deleteMany` leaves codes or takes them away. -/
theorem live_deleteLive {phone : String} {purpose : PhoneOtpPurpose}
    (h : (s.deleteLive phone purpose).live i = some otp) : s.live i = some otp := by
  rw [live, Collection.live, Option.join_eq_some_iff, deleteLive, Collection.get_updateMany,
    Option.map_eq_some_iff] at h
  obtain ⟨d, hd, hif⟩ := h
  split at hif
  · cases hif
  · exact Option.join_eq_some_iff.mpr (hif ▸ hd)

theorem live_createOtp {new : PhoneOtp} (h : (s.createOtp new).live i = some otp) :
    (i = s.accounts.phoneOtps.nextId ∧ otp = new) ∨ s.live i = some otp := by
  rcases Collection.live_create_cases h with ⟨hi, hnew⟩ | hold
  · exact Or.inl ⟨hi, (Option.some.inj hnew).symm⟩
  · exact Or.inr hold

theorem lt_of_live (h : s.live i = some otp) : i < s.accounts.phoneOtps.nextId :=
  Collection.lt_nextId_of_live h

end PhoneCodes

theorem live_of_latestOtp {s : PhoneCodes} {phone : String} {purpose : PhoneOtpPurpose} {id : Nat}
    {otp : PhoneOtp} (h : s.accounts.latestOtp phone purpose = some (id, otp)) :
    s.live id = some otp :=
  Collection.live_of_findLive (List.mem_of_getLast? h)

/-! ## One database call -/

section Moves

variable {hashToken : String → String} {s s' : PhoneCodes} {pc pc' : PhoneCodePc}
  {r : PhoneCodeReply}

/-- What one database call does to the codes and to what is counted for them. -/
inductive PhoneCodeMove (hashToken : String → String) (s : PhoneCodes) (r : PhoneCodeReply) :
    PhoneCodePc → PhoneCodes → PhoneCodePc → Prop
  | missed {phone code : String} {purpose : PhoneOtpPurpose} {id : Nat} {otp : PhoneOtp}
    (hfound : s.accounts.latestOtp phone purpose = some (id, otp))
    (hfresh : ¬ otp.expiresAt < r.now) (hleft : otp.attempts < phoneOtpMaxAttempts)
    (hwrong : otp.codeHash ≠ hashToken code) :
    PhoneCodeMove hashToken s r (.verifyFind phone code purpose) (s.compare id)
      (.saveAttempts id (otp.attempts + 1))
  | counted {id attempts : Nat} :
    PhoneCodeMove hashToken s r (.saveAttempts id attempts)
      (s.modifyOtp id fun otp => { otp with attempts := attempts }) invalidCode
  | accepted {id : Nat} {phone : String} {otp : PhoneOtp} (hlive : s.live id = some otp) :
    PhoneCodeMove hashToken s r (.saveConsumed id phone .login) (s.accept id r.now)
      (.loginFind id phone)
  | signed {id : Nat} {phone : String} {otp : PhoneOtp} (hlive : s.live id = some otp) :
    PhoneCodeMove hashToken s r (.saveConsumed id phone .signup)
      ((s.accept id r.now).sign id phone r.now) .returned
  | admitted {id : Nat} {phone : String} :
    PhoneCodeMove hashToken s r (.loginFind id phone) s (.issueTokens id)
  | issued {id : Nat} :
    PhoneCodeMove hashToken s r (.issueTokens id) (s.issue id) .returned
  | deleted {phone : String} {purpose : PhoneOtpPurpose} :
    PhoneCodeMove hashToken s r (.sendDelete phone purpose) (s.deleteLive phone purpose)
      (.sendCreate phone purpose)
  | created {phone : String} {purpose : PhoneOtpPurpose} {otp : PhoneOtp}
    (hnew : otp.attempts = 0 ∧ otp.consumedAt = none) :
    PhoneCodeMove hashToken s r (.sendCreate phone purpose) (s.createOtp otp) .returned
  | idle {pc pc' : PhoneCodePc} (hcounting : pc'.counting = none)
    (hanswering : pc'.answering = none)
    (hlost : ∀ id attempts, pc = .saveAttempts id attempts → s.live id = none) :
    PhoneCodeMove hashToken s r pc s pc'

theorem PhoneCodeMove.refused {phone code : String} {purpose : PhoneOtpPurpose}
    (hcounting : pc'.counting = none) (hanswering : pc'.answering = none) :
    PhoneCodeMove hashToken s r (.verifyFind phone code purpose) s pc' :=
  .idle hcounting hanswering fun _ _ h => by cases h

/-- **All that one database call can do.** -/
theorem phoneCode_move (h : phoneCodeStep hashToken s pc r = some (s', pc')) :
    PhoneCodeMove hashToken s r pc s' pc' := by
  cases pc with
  | sendFind phone =>
    simp only [phoneCodeStep] at h
    split at h <;> cases h <;> exact .idle rfl rfl fun _ _ h => by cases h
  | sendDelete phone purpose => cases h; exact .deleted
  | sendCreate phone purpose => cases h; exact .created ⟨rfl, rfl⟩
  | verifyFind phone code purpose =>
    simp only [phoneCodeStep, Option.some.injEq] at h
    cases hfound : s.accounts.latestOtp phone purpose with
    | none =>
      rw [hfound] at h
      cases h
      exact .refused rfl rfl
    | some found =>
      obtain ⟨id, otp⟩ := found
      rw [hfound] at h
      simp only [afterVerifyFind] at h
      split at h
      · cases h
        exact .refused rfl rfl
      · next hfresh =>
        split at h
        · cases h
          exact .refused rfl rfl
        · next hleft =>
          split at h
          · next hwrong =>
            cases h
            exact .missed hfound hfresh (Nat.lt_of_not_le hleft) hwrong
          · cases h
            exact .refused rfl rfl
  | saveAttempts id attempts =>
    simp only [phoneCodeStep] at h
    split at h
    · next hlive =>
      cases h
      exact .idle rfl rfl fun _ _ he => by cases he; exact hlive
    · cases h
      exact .counted
  | saveConsumed id phone purpose =>
    simp only [phoneCodeStep] at h
    split at h
    · cases h
      exact .idle rfl rfl fun _ _ he => by cases he
    · next otp hlive =>
      cases purpose with
      | login => cases h; exact .accepted hlive
      | signup => cases h; exact .signed hlive
  | loginFind id phone =>
    simp only [phoneCodeStep] at h
    split at h
    · cases h
      exact .idle rfl rfl fun _ _ he => by cases he
    · cases h
      exact .admitted
  | issueTokens id => cases h; exact .issued
  | returned => cases h
  | rejected error => cases h
  | documentNotFound => cases h

end Moves

/-! ## A call on its own -/

section Alone

variable (hashToken : String → String) {s : PhoneCodes} {id : Nat} {otp : PhoneOtp}

/-- At most this many database calls, with nothing in between. -/
def finishPhoneCode (r : PhoneCodeReply) : Nat → PhoneCodes × PhoneCodePc → PhoneCodes × PhoneCodePc
  | 0, x => x
  | n + 1, (s, pc) =>
    match phoneCodeStep hashToken s pc r with
    | none => (s, pc)
    | some x => finishPhoneCode r n x

/-- How a call ended. -/
def PhoneCodePc.result : PhoneCodePc → Option (Except AuthError Unit)
  | .returned => some (.ok ())
  | .rejected error => some (.error error)
  | _ => none

theorem accounts_modifyOtp {f : PhoneOtp → PhoneOtp} (h : s.live id = some otp) :
    (s.modifyOtp id f).accounts = s.accounts.saveOtp id (f otp) := by
  have hget := Option.join_eq_some_iff.mp h
  have hsame : s.accounts.phoneOtps.modify id (Option.map f) =
      s.accounts.phoneOtps.modify id fun _ => some (f otp) := by
    refine Collection.modify_congr fun a ha => ?_
    rw [hget, Option.some.injEq] at ha
    rw [← ha]
    rfl
  show { s.accounts with phoneOtps := s.accounts.phoneOtps.modify id (Option.map f) } = _
  rw [hsame]
  rfl

theorem saveOtp_self (h : s.live id = some otp) : s.accounts.saveOtp id otp = s.accounts := by
  have hget := Option.join_eq_some_iff.mp h
  have hsame : (s.accounts.phoneOtps.modify id fun _ => some otp) = s.accounts.phoneOtps := by
    refine Collection.modify_eq_self fun a ha => ?_
    rw [hget, Option.some.injEq] at ha
    exact ha
  rw [Accounts.saveOtp, hsame]

/-- **A call that nothing comes between** does what `Accounts.verifyPhoneCode` says. -/
theorem verifyPhoneCode_alone (s : PhoneCodes) (r : PhoneCodeReply) (phone code : String)
    (purpose : PhoneOtpPurpose) {s' : PhoneCodes} {pc : PhoneCodePc}
    (h : finishPhoneCode hashToken r 4 (s, .verifyFind phone code purpose) = (s', pc)) :
    s'.accounts = (s.accounts.verifyPhoneCode hashToken r.now phone code purpose).1 ∧
      pc.result = some (s.accounts.verifyPhoneCode hashToken r.now phone code purpose).2 := by
  simp only [finishPhoneCode, phoneCodeStep] at h
  cases hfound : s.accounts.latestOtp phone purpose with
  | none =>
    rw [hfound] at h
    cases h
    rw [Accounts.verifyPhoneCode, hfound]
    exact ⟨rfl, rfl⟩
  | some found =>
    obtain ⟨id, otp⟩ := found
    have hlive := live_of_latestOtp hfound
    rw [hfound] at h
    simp only [afterVerifyFind] at h
    rw [Accounts.verifyPhoneCode, hfound]
    by_cases hexpired : otp.expiresAt < r.now
    · simp only [Accounts.checkOtp, Accounts.countAttempt, hexpired, true_or, if_true] at h ⊢
      cases h
      exact ⟨(saveOtp_self hlive).symm, rfl⟩
    by_cases hspent : phoneOtpMaxAttempts ≤ otp.attempts
    · simp only [Accounts.checkOtp, Accounts.countAttempt, hexpired, hspent, or_true, if_true,
        if_false] at h ⊢
      cases h
      exact ⟨(saveOtp_self hlive).symm, rfl⟩
    have hlive' : (s.compare id).live id = some otp := hlive
    by_cases hwrong : otp.codeHash ≠ hashToken code
    · simp only [Accounts.checkOtp, Accounts.countAttempt, hexpired, hspent, hwrong, or_self,
        if_true, if_false, not_false_eq_true, hlive', ne_eq] at h ⊢
      cases h
      exact ⟨accounts_modifyOtp hlive', rfl⟩
    · have hconsumed := accounts_modifyOtp (f := fun otp => { otp with consumedAt := some r.now })
        hlive
      simp only [Accounts.checkOtp, hexpired, hspent, hwrong, if_false, hlive] at h ⊢
      cases purpose with
      | signup =>
        cases h
        refine ⟨?_, rfl⟩
        show (PhoneCodes.modifyOtp s id _).accounts.sign _ _ = _
        rw [hconsumed]
      | login =>
        have haccounts : (s.accept id r.now).accounts =
            s.accounts.saveOtp id { otp with consumedAt := some r.now } := hconsumed
        simp only [afterSaveConsumed, haccounts] at h
        cases hlogin : (s.accounts.saveOtp id
          { otp with consumedAt := some r.now }).loginByPhone phone with
        | error e =>
          rw [hlogin] at h
          cases h
          exact ⟨haccounts, rfl⟩
        | ok u =>
          rw [hlogin] at h
          cases h
          exact ⟨haccounts, rfl⟩

end Alone

/-! ## Guesses in turn -/

/-- No wrong guess is compared with a code while another one has still to be counted for it, and a
code is accepted only where nobody has given it back before. -/
def GuessesTakeTurns (hashToken : String → String) (s : PhoneCodePool) : PhoneCodeEvent → Bool
  | .run i r =>
    match s.procs[i]? with
    | some (.verifyFind phone code purpose) =>
      (s.shared.accounts.latestOtp phone purpose).all fun found =>
        found.2.expiresAt < r.now || (phoneOtpMaxAttempts ≤ found.2.attempts ||
          (found.2.codeHash = hashToken code ||
            s.procs.all fun q => q.counting ≠ some found.1))
    | some (.saveConsumed id _ _) => (s.shared.live id).all fun otp => otp.consumedAt.isNone
    | _ => true
  | _ => true

/-- The attempt budget of every code, and its single use. -/
def PhoneCodes.Guarded (s : PhoneCodes) : Prop :=
  ∀ id, s.compared.count id ≤ phoneOtpMaxAttempts ∧ s.accepted.count id ≤ 1 ∧
    s.issued.count id ≤ 1

/-- What is known of the codes. -/
structure CodesKept (s : PhoneCodes) : Prop where
  fresh : ∀ id, s.accounts.phoneOtps.nextId ≤ id → s.compared.count id = 0 ∧
    s.accepted.count id = 0
  budget : ∀ id, s.compared.count id ≤ phoneOtpMaxAttempts
  unconsumed : ∀ id otp, s.live id = some otp → otp.consumedAt = none → s.accepted.count id = 0
  once : ∀ id, s.accepted.count id ≤ 1
  issued : ∀ id, s.issued.count id ≤ s.accepted.count id

/-- What is known of a call. -/
structure KnowsCode (s : PhoneCodes) (pc : PhoneCodePc) : Prop where
  counting : ∀ id attempts, pc = .saveAttempts id attempts → s.compared.count id ≤ attempts
  answering : ∀ id, pc.answering = some id → s.issued.count id + 1 ≤ s.accepted.count id

def phoneCodeGuard : Outline PhoneCodes PhoneCodePc where
  shared := CodesKept
  proc := KnowsCode
  compat p q := ∀ id, p.answering = some id → q.answering ≠ some id
  symm _ _ h id hq hp := h id hp hq

/-- A wrong guess that its code does not show yet is due to be counted. -/
def guessDuty : Duty PhoneCodes PhoneCodePc Nat where
  due s id := ∃ otp, s.live id = some otp ∧ otp.attempts < s.compared.count id
  bearer pc id := pc.counting = some id

section Kept

variable {hashToken : String → String} {s s' : PhoneCodes} {pc pc' : PhoneCodePc} {id : Nat}

theorem CodesKept.compare (h : CodesKept s) (hid : id < s.accounts.phoneOtps.nextId)
    (hleft : s.compared.count id < phoneOtpMaxAttempts) : CodesKept (s.compare id) where
  fresh i hi := by
    refine ⟨?_, (h.fresh i hi).2⟩
    have hne : id ≠ i := by
      rintro rfl
      exact Nat.lt_irrefl _ (Nat.lt_of_lt_of_le hid hi)
    show (id :: s.compared).count i = 0
    rw [List.count_cons_of_ne hne]
    exact (h.fresh i hi).1
  budget i := by
    show (id :: s.compared).count i ≤ phoneOtpMaxAttempts
    by_cases hi : id = i
    · subst hi
      rw [List.count_cons_self]
      exact hleft
    · rw [List.count_cons_of_ne hi]
      exact h.budget i
  unconsumed := h.unconsumed
  once := h.once
  issued := h.issued

/-- Codes that are rewritten, deleted or new, with nothing counted. -/
theorem CodesKept.codes (h : CodesKept s) (hcompared : s'.compared = s.compared)
    (haccepted : s'.accepted = s.accepted) (hissued : s'.issued = s.issued)
    (hnext : s.accounts.phoneOtps.nextId ≤ s'.accounts.phoneOtps.nextId)
    (hlive : ∀ i otp, s'.live i = some otp → otp.consumedAt = none →
      s.accounts.phoneOtps.nextId ≤ i ∨ ∃ old, s.live i = some old ∧ old.consumedAt = none) :
    CodesKept s' where
  fresh i hi := by
    rw [hcompared, haccepted]
    exact h.fresh i (Nat.le_trans hnext hi)
  budget i := by rw [hcompared]; exact h.budget i
  unconsumed i otp hi hnone := by
    rw [haccepted]
    rcases hlive i otp hi hnone with hnew | ⟨old, hold, hnot⟩
    · exact (h.fresh i hnew).2
    · exact h.unconsumed i old hold hnot
  once i := by rw [haccepted]; exact h.once i
  issued i := by rw [hissued, haccepted]; exact h.issued i

/-- **A code is accepted for the first time.** -/
theorem CodesKept.accept {otp : PhoneOtp} {now : Time} (h : CodesKept s)
    (hlive : s.live id = some otp) (hnone : otp.consumedAt = none) :
    CodesKept (s.accept id now) where
  fresh i hi := by
    have hi : s.accounts.phoneOtps.nextId ≤ i := by
      rwa [PhoneCodes.accept, PhoneCodes.modifyOtp, Collection.nextId_modify] at hi
    refine ⟨(h.fresh i hi).1, ?_⟩
    have hne : id ≠ i := by
      rintro rfl
      exact Nat.lt_irrefl _ (Nat.lt_of_lt_of_le (PhoneCodes.lt_of_live hlive) hi)
    show (id :: s.accepted).count i = 0
    rw [List.count_cons_of_ne hne]
    exact (h.fresh i hi).2
  budget := h.budget
  unconsumed i found hi hfound := by
    rcases PhoneCodes.live_modifyOtp hi with ⟨_, old, _, rfl⟩ | ⟨hne, hold⟩
    · cases hfound
    · show (id :: s.accepted).count i = 0
      rw [List.count_cons_of_ne hne]
      exact h.unconsumed i found hold hfound
  once i := by
    show (id :: s.accepted).count i ≤ 1
    by_cases hi : id = i
    · subst hi
      rw [List.count_cons_self, h.unconsumed id otp hlive hnone]
    · rw [List.count_cons_of_ne hi]
      exact h.once i
  issued i := by
    show s.issued.count i ≤ (id :: s.accepted).count i
    exact Nat.le_trans (h.issued i) (List.count_le_count_cons ..)

theorem CodesKept.issue (h : CodesKept s) (hid : s.issued.count id + 1 ≤ s.accepted.count id) :
    CodesKept (s.issue id) where
  fresh := h.fresh
  budget := h.budget
  unconsumed := h.unconsumed
  once := h.once
  issued i := by
    show (id :: s.issued).count i ≤ s.accepted.count i
    by_cases hi : id = i
    · subst hi
      rw [List.count_cons_self]
      exact hid
    · rw [List.count_cons_of_ne hi]
      exact h.issued i

theorem KnowsCode.of_idle (hcounting : pc.counting = none) (hanswering : pc.answering = none) :
    KnowsCode s pc where
  counting _ _ h := by subst h; cases hcounting
  answering _ h := by cases hanswering.symm.trans h

theorem KnowsCode.mono (h : KnowsCode s pc)
    (hcompared : ∀ id, pc.counting = some id → s'.compared.count id ≤ s.compared.count id)
    (hissued : ∀ id, pc.answering = some id → s'.issued.count id ≤ s.issued.count id)
    (haccepted : ∀ id, s.accepted.count id ≤ s'.accepted.count id) : KnowsCode s' pc where
  counting id attempts hpc :=
    Nat.le_trans (hcompared id (by rw [hpc]; rfl)) (h.counting id attempts hpc)
  answering id hpc := by
    have hown := h.answering id hpc
    have hless := hissued id hpc
    have hmore := haccepted id
    omega

/-- Nothing is counted. -/
theorem KnowsCode.same (h : KnowsCode s pc) (hcompared : s'.compared = s.compared)
    (haccepted : s'.accepted = s.accepted) (hissued : s'.issued = s.issued) : KnowsCode s' pc :=
  h.mono (fun _ _ => by rw [hcompared]) (fun _ _ => by rw [hissued]) fun _ => by rw [haccepted]

end Kept

section Runs

variable {hashToken : String → String} {s : PhoneCodePool} {w : PhoneCodes} {pc pc' : PhoneCodePc}
  {r : PhoneCodeReply} {i id : Nat} {phone code : String} {purpose : PhoneOtpPurpose}
  {otp : PhoneOtp}

theorem uncounted_of_turns (h : GuessesTakeTurns hashToken s (.run i r) = true)
    (hp : s.procs[i]? = some (.verifyFind phone code purpose))
    (hfound : s.shared.accounts.latestOtp phone purpose = some (id, otp))
    (hfresh : ¬ otp.expiresAt < r.now) (hleft : otp.attempts < phoneOtpMaxAttempts)
    (hwrong : otp.codeHash ≠ hashToken code) {q : PhoneCodePc} (hq : q ∈ s.procs) :
    q.counting ≠ some id := by
  simp only [GuessesTakeTurns, hp, hfound, Option.all_some, Bool.or_eq_true, decide_eq_true_eq,
    List.all_eq_true] at h
  rcases h with h | h | h | h
  · exact absurd h hfresh
  · exact absurd hleft (Nat.not_lt_of_le h)
  · exact absurd h hwrong
  · exact h q hq

theorem unconsumed_of_turns (h : GuessesTakeTurns hashToken s (.run i r) = true)
    (hp : s.procs[i]? = some (.saveConsumed id phone purpose))
    (hlive : s.shared.live id = some otp) : otp.consumedAt = none := by
  simp only [GuessesTakeTurns, hp, hlive, Option.all_some, Option.isNone_iff_eq_none] at h
  exact h

/-- A step that counts nothing, by a call that has nothing in hand after it. -/
theorem guard_counts_nothing (hshared : CodesKept w) (hcompared : w.compared = s.shared.compared)
    (haccepted : w.accepted = s.shared.accepted) (hissued : w.issued = s.shared.issued)
    (hcounting : pc'.counting = none) (hanswering : pc'.answering = none) :
    phoneCodeGuard.shared w ∧ phoneCodeGuard.proc w pc' ∧
      ∀ j q, i ≠ j → s.procs[j]? = some q → phoneCodeGuard.proc s.shared q →
        phoneCodeGuard.compat pc q → phoneCodeGuard.proc w q ∧ phoneCodeGuard.compat pc' q :=
  ⟨hshared, .of_idle hcounting hanswering, fun _ _ _ _ hq _ =>
    ⟨hq.same hcompared haccepted hissued, fun _ hid => by cases hanswering.symm.trans hid⟩⟩

/-- **A first acceptance**: no other call has one in hand for this code. -/
theorem guard_accept (h : phoneCodeGuard.Holds s) (hlive : s.shared.live id = some otp)
    (hnone : otp.consumedAt = none) : CodesKept (s.shared.accept id r.now) ∧
      s.shared.issued.count id + 1 ≤ (s.shared.accept id r.now).accepted.count id ∧
      ∀ q ∈ s.procs, KnowsCode (s.shared.accept id r.now) q ∧ q.answering ≠ some id := by
  have hzero := h.shared.unconsumed id otp hlive hnone
  refine ⟨h.shared.accept hlive hnone, ?_, fun q hq => ⟨?_, fun hans => ?_⟩⟩
  · show s.shared.issued.count id + 1 ≤ (id :: s.shared.accepted).count id
    rw [List.count_cons_self]
    exact Nat.succ_le_succ (h.shared.issued id)
  · exact (h.procs q hq).mono (fun _ _ => Nat.le_refl _) (fun _ _ => Nat.le_refl _)
      fun i => List.count_le_count_cons ..
  · have hone := (h.procs q hq).answering id hans
    omega

/-- The token that a call issues is for the code it has in hand. -/
theorem issue_other {s : PhoneCodes} {q : PhoneCodePc} (hq : KnowsCode s q)
    (hne : q.answering ≠ some id) : KnowsCode (s.issue id) q := by
  refine hq.mono (fun _ _ => Nat.le_refl _) (fun i hi => ?_) fun _ => Nat.le_refl _
  have hid : id ≠ i := by
    rintro rfl
    exact hne hi
  show (id :: s.issued).count i ≤ s.issued.count i
  rw [List.count_cons_of_ne hid]

/-- **Guesses in turn keep the outline.** -/
theorem phoneCodeGuard_kept (hashToken : String → String) :
    phoneCodeGuard.Kept (phoneCodes hashToken)
      (fun s e => GuessesTakeTurns hashToken s e = true) guessDuty.Borne where
  spawn s k _ _ _ := by
    have hidle : (PhoneCodePc.start k).counting = none ∧
        (PhoneCodePc.start k).answering = none := by
      cases k with
      | sendPhoneCode phone purpose => cases purpose <;> exact ⟨rfl, rfl⟩
      | verifyPhoneCode phone code purpose => exact ⟨rfl, rfl⟩
    exact ⟨.of_idle hidle.1 hidle.2, fun _ _ _ hid => by cases hidle.2.symm.trans hid⟩
  env s e w _ _ h hw := by
    cases e with
    | users users =>
      cases hw
      exact ⟨h.shared.codes rfl rfl rfl (Nat.le_refl _) fun i otp hi hnone =>
        Or.inr ⟨otp, hi, hnone⟩, fun q hq => (h.procs q hq).same rfl rfl rfl⟩
  run s i r pc w pc' hdue hok h hp hstep := by
    have hold : ∀ i otp, s.shared.live i = some otp → otp.consumedAt = none →
        s.shared.accounts.phoneOtps.nextId ≤ i ∨
          ∃ old, s.shared.live i = some old ∧ old.consumedAt = none :=
      fun i otp hi hnone => Or.inr ⟨otp, hi, hnone⟩
    cases phoneCode_move hstep with
    | missed hfound hfresh hleft hwrong =>
      rename_i phone code purpose id otp
      have hlive := live_of_latestOtp hfound
      have hclear := fun q hq => uncounted_of_turns hok hp hfound hfresh hleft hwrong (q := q) hq
      -- every earlier wrong guess shows in the code
      have hcounted : s.shared.compared.count id ≤ otp.attempts := by
        by_contra hless
        obtain ⟨q, hq, hbear⟩ := hdue id ⟨otp, hlive, Nat.lt_of_not_le hless⟩
        exact hclear q hq hbear
      refine ⟨h.shared.compare (PhoneCodes.lt_of_live hlive) (Nat.lt_of_le_of_lt hcounted hleft),
        ⟨fun j attempts he => ?_, fun _ hid => by cases hid⟩, fun j q _ hj hq _ =>
          ⟨hq.mono (fun k hk => ?_) (fun _ _ => Nat.le_refl _) fun _ => Nat.le_refl _,
            fun _ hid => by cases hid⟩⟩
      · cases he
        show (id :: s.shared.compared).count id ≤ otp.attempts + 1
        rw [List.count_cons_self]
        exact Nat.succ_le_succ hcounted
      · have hne : id ≠ k := by
          rintro rfl
          exact hclear q (List.mem_of_getElem? hj) hk
        show (id :: s.shared.compared).count k ≤ s.shared.compared.count k
        rw [List.count_cons_of_ne hne]
    | counted =>
      rename_i id attempts
      refine guard_counts_nothing (h.shared.codes rfl rfl rfl
        (Nat.le_of_eq Collection.nextId_modify.symm) fun k otp hk hnone => ?_) rfl rfl rfl rfl rfl
      rcases PhoneCodes.live_modifyOtp hk with ⟨rfl, old, hlive, rfl⟩ | ⟨_, hlive⟩
      · exact hold _ old hlive hnone
      · exact hold k otp hlive hnone
    | accepted hlive =>
      obtain ⟨hshared, hown, hothers⟩ :=
        guard_accept (r := r) h hlive (unconsumed_of_turns hok hp hlive)
      refine ⟨hshared, ⟨fun _ _ he => (by cases he), fun k hk => ?_⟩, fun j q _ hj _ _ =>
        ⟨(hothers q (List.mem_of_getElem? hj)).1, fun k hk => ?_⟩⟩
      · cases hk
        exact hown
      · cases hk
        exact (hothers q (List.mem_of_getElem? hj)).2
    | signed hlive =>
      obtain ⟨hshared, hown, hothers⟩ :=
        guard_accept (r := r) h hlive (unconsumed_of_turns hok hp hlive)
      refine ⟨(hshared.issue hown).codes rfl rfl rfl (Nat.le_refl _) fun k otp hk hnone =>
        Or.inr ⟨otp, hk, hnone⟩, .of_idle rfl rfl, fun j q _ hj _ _ => ?_⟩
      obtain ⟨hq, hne⟩ := hothers q (List.mem_of_getElem? hj)
      exact ⟨(issue_other hq hne).same rfl rfl rfl, fun _ hid => by cases hid⟩
    | admitted =>
      refine ⟨h.shared, ⟨fun _ _ he => (by cases he), fun k hk => ?_⟩, fun j q _ _ hq hpq =>
        ⟨hq, fun k hk => ?_⟩⟩
      · exact (h.at hp).answering k hk
      · exact hpq k hk
    | issued =>
      rename_i id
      refine ⟨h.shared.issue ((h.at hp).answering id rfl), .of_idle rfl rfl,
        fun j q _ _ hq hpq => ⟨issue_other hq (hpq id rfl), fun _ hid => by cases hid⟩⟩
    | deleted =>
      refine guard_counts_nothing (h.shared.codes rfl rfl rfl
        (Nat.le_of_eq Collection.nextId_updateMany.symm) fun k otp hk hnone => ?_) rfl rfl rfl rfl
          rfl
      exact hold k otp (PhoneCodes.live_deleteLive hk) hnone
    | created hnew =>
      refine guard_counts_nothing (h.shared.codes rfl rfl rfl
        (Nat.le_of_lt (Nat.lt_of_lt_of_eq (Nat.lt_succ_self _) Collection.nextId_create.symm))
        fun k otp hk hnone => ?_) rfl rfl rfl rfl rfl
      rcases PhoneCodes.live_createOtp hk with ⟨rfl, _⟩ | hlive
      · exact Or.inl (Nat.le_refl _)
      · exact hold k otp hlive hnone
    | idle hcounting hanswering hlost =>
      exact guard_counts_nothing h.shared rfl rfl rfl hcounting hanswering

/-- A guess that was due before is due from another call. -/
theorem guess_elsewhere (hdue : guessDuty.Borne s) (hp : s.procs[i]? = some pc)
    (hnot : pc.counting ≠ some id) (hlive : s.shared.live id = some otp)
    (hless : otp.attempts < s.shared.compared.count id) : guessDuty.Elsewhere s i id :=
  hdue.elsewhere hp ⟨otp, hlive, hless⟩ hnot

/-- **No wrong guess is forgotten**: each one is counted in its code, or a call has it in hand. -/
theorem guessDuty_kept (hashToken : String → String) :
    guessDuty.Kept (phoneCodes hashToken) (fun s e => GuessesTakeTurns hashToken s e = true)
      phoneCodeGuard.Holds where
  env s e w _ _ hw x hx := by
    cases e with
    | users users => cases hw; exact hx
  run s i r pc w pc' h hdue _ hp hstep x hx := by
    obtain ⟨otp, hlive, hless⟩ := hx
    cases phoneCode_move hstep with
    | missed hfound hfresh hleft hwrong =>
      rename_i phone code purpose id found
      by_cases hx : id = x
      · exact Or.inl (congrArg some hx)
      · refine Or.inr (guess_elsewhere hdue hp (fun hc => by cases hc) hlive ?_)
        have hcount : (id :: s.shared.compared).count x = s.shared.compared.count x :=
          List.count_cons_of_ne hx
        rwa [← hcount]
    | counted =>
      rename_i id attempts
      rcases PhoneCodes.live_modifyOtp hlive with ⟨rfl, old, _, rfl⟩ | ⟨hne, hold⟩
      · exact absurd hless (Nat.not_lt_of_le ((h.at hp).counting id attempts rfl))
      · exact Or.inr (guess_elsewhere hdue hp (fun hc => hne (Option.some.inj hc)) hold hless)
    | accepted hfound =>
      rcases PhoneCodes.live_modifyOtp hlive with ⟨rfl, old, hold, rfl⟩ | ⟨_, hold⟩
      · exact Or.inr (guess_elsewhere hdue hp (fun hc => by cases hc) hold hless)
      · exact Or.inr (guess_elsewhere hdue hp (fun hc => by cases hc) hold hless)
    | signed hfound =>
      rcases PhoneCodes.live_modifyOtp hlive with ⟨rfl, old, hold, rfl⟩ | ⟨_, hold⟩
      · exact Or.inr (guess_elsewhere hdue hp (fun hc => by cases hc) hold hless)
      · exact Or.inr (guess_elsewhere hdue hp (fun hc => by cases hc) hold hless)
    | admitted => exact Or.inr (guess_elsewhere hdue hp (fun hc => by cases hc) hlive hless)
    | issued => exact Or.inr (guess_elsewhere hdue hp (fun hc => by cases hc) hlive hless)
    | deleted =>
      exact Or.inr (guess_elsewhere hdue hp (fun hc => by cases hc)
        (PhoneCodes.live_deleteLive hlive) hless)
    | created hnew =>
      rcases PhoneCodes.live_createOtp hlive with ⟨rfl, _⟩ | hold
      · have hzero := (h.shared.fresh _ (Nat.le_refl _)).1
        exact absurd hless (Nat.not_lt_of_le (Nat.le_trans (Nat.le_of_eq hzero) (Nat.zero_le _)))
      · exact Or.inr (guess_elsewhere hdue hp (fun hc => by cases hc) hold hless)
    | idle hcounting hanswering hlost =>
      refine Or.inr (guess_elsewhere hdue hp (fun hc => ?_) hlive hless)
      cases pc with
      | saveAttempts id attempts =>
        cases hc
        cases (hlost x attempts rfl).symm.trans hlive
      | _ => cases hc

/-- **The attempt budget and the single use of a code**: for any accounts and any number of sends
and guesses, in any order of their steps. -/
theorem codes_guarded (hashToken : String → String) (accounts : Accounts) {s : PhoneCodePool}
    (h : (phoneCodes hashToken).Reach (fun s e => GuessesTakeTurns hashToken s e = true)
      ⟨.of accounts, []⟩ s) : s.shared.Guarded := by
  have hstart : CodesKept (.of accounts) :=
    ⟨fun _ _ => ⟨rfl, rfl⟩, fun _ => Nat.zero_le _, fun _ _ _ _ => rfl, fun _ => Nat.zero_le _,
      fun _ => Nat.le_refl _⟩
  have hborne : guessDuty.Borne (⟨.of accounts, []⟩ : PhoneCodePool) := by
    rintro id ⟨otp, _, hless⟩
    exact absurd hless (Nat.not_lt_zero _)
  have hboth : phoneCodeGuard.Holds s ∧ guessDuty.Borne s :=
    Machine.Reach.invariant (I := fun s => phoneCodeGuard.Holds s ∧ guessDuty.Borne s)
      ⟨Outline.holds_nil hstart, hborne⟩
      (fun _ _ _ _ hi he hs => ⟨(phoneCodeGuard_kept hashToken).next hi.2 hi.1 he hs,
        (guessDuty_kept hashToken).next hi.1 hi.2 he hs⟩) h
  intro id
  have hkept := hboth.1.shared
  exact ⟨hkept.budget id, hkept.once id, Nat.le_trans (hkept.issued id) (hkept.once id)⟩

end Runs

/-! ## Concrete runs -/

/-- A number that gets a signup code. -/
def sentRun : List PhoneCodeEvent :=
  [.spawn (.sendPhoneCode "+2348012345678" .signup), .run 0 ⟨0, ""⟩, .run 0 ⟨0, "123456"⟩]

def phoneGuesses (codes : List String) : List PhoneCodeEvent :=
  codes.map fun code => .spawn (.verifyPhoneCode "+2348012345678" code .signup)

/-- The calls take their next steps in this order. -/
def phoneTurns (calls : List Nat) : List PhoneCodeEvent := calls.map fun i => .run i ⟨1, ""⟩

/-- Two wrong guesses, each counted before the next call, and the right one. -/
def guessedInTurn : List PhoneCodeEvent :=
  sentRun ++ phoneGuesses ["000000", "111111", "123456"] ++ phoneTurns [1, 1, 2, 2, 3, 3]

theorem codes_guarded_in_turn : ∃ s : PhoneCodePool,
    s.shared.compared.count 0 = 2 ∧ s.shared.issued.count 0 = 1 ∧ s.shared.Guarded := by
  have hplay : ((phoneCodes id).play (GuessesTakeTurns id) ⟨.of .empty, []⟩ guessedInTurn).any
      (fun s => s.shared.compared.count 0 = 2 && s.shared.issued.count 0 = 1) = true := by
    decide +kernel
  obtain ⟨s, hs, hp⟩ := Machine.exists_reach_of_play (fun _ _ h => h) guessedInTurn hplay
  rw [Bool.and_eq_true, decide_eq_true_eq, decide_eq_true_eq] at hp
  exact ⟨s, hp.1, hp.2, codes_guarded id .empty hs⟩

/-- Six wrong guesses and two right ones, all looked up before the first of them is saved. -/
def guessedAtOnce : List PhoneCodeEvent :=
  sentRun ++ phoneGuesses ["000000", "111111", "222222", "333333", "444444", "555555", "123456",
    "123456"] ++ phoneTurns [1, 2, 3, 4, 5, 6, 7, 8, 1, 2, 3, 4, 5, 6, 7, 8]

/-- **Six wrong guesses are compared with one code, and it gets two signup tokens.** -/
theorem guessed_at_once : ∃ s : PhoneCodePool,
    (phoneCodes id).Reach (fun _ _ => True) ⟨.of .empty, []⟩ s ∧
      s.shared.compared.count 0 = phoneOtpMaxAttempts + 1 ∧ s.shared.issued.count 0 = 2 ∧
        ¬ s.shared.Guarded := by
  have hplay : ((phoneCodes id).play (fun _ _ => true) ⟨.of .empty, []⟩ guessedAtOnce).any
      (fun s => s.shared.compared.count 0 = phoneOtpMaxAttempts + 1 &&
        s.shared.issued.count 0 = 2) = true := by
    decide +kernel
  obtain ⟨s, hs, hp⟩ := Machine.exists_reach_of_play (fun _ _ _ => trivial) guessedAtOnce hplay
  rw [Bool.and_eq_true, decide_eq_true_eq, decide_eq_true_eq] at hp
  refine ⟨s, hs, hp.1, hp.2, fun hguarded => ?_⟩
  have honce := (hguarded 0).2.2
  rw [hp.2] at honce
  exact absurd honce (by decide)

end FoodDelivery
