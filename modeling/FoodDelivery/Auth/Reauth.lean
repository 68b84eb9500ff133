import FoodDelivery.Auth.Sessions

/-!
# Requests of one browser tab

`lib/redux/api.ts` and `components/session-initializer.tsx` of the web client: `baseQueryWithReauth`
with its mutex, and the calls of the server that set or clear the refresh cookie.  Each request is a
process.  Its server call takes its own database calls; its answer arrives later, or is lost.  What
any other call makes of the server's collections is an event beside the processes.

The mutex lets any of those that wait for it go first.  The page on which a rider applies refreshes
without the mutex.

* `tabStep`: one step of a request.
* `guarded_exclusive`: refreshes that are sent under the mutex never overlap.
* `tab_progress`: the requests of a tab never all wait for one another.
-/

namespace FoodDelivery

open Store Interleave

/-! ## The processes -/

/-- The server's collections, the refresh cookie, and the mutex. -/
structure Tab where
  sessions : Sessions
  cookie : Option RefreshTokenId
  locked : Bool

/-- A call that the server handles, and the refresh token that it has inserted. -/
structure Flight where
  call : SessionPc
  issued : Option RefreshTokenId

/-- What opens a session: a password, or a user that was found in another way. -/
inductive SignIn
  | password (email password : String)
  | found (userId : UserId)

inductive TabRequest
  | api (path : String)
  | signIn (path : String) (credentials : SignIn)
  | logout

inductive TabPc
  | waitForUnlock (request : TabRequest)
  | ready (request : TabRequest)
  | sent (request : TabRequest) (flight : Flight)
  /-- Under the mutex. -/
  | refreshing (request : TabRequest) (flight : Flight)
  | waitAgain (request : TabRequest)
  | readyAgain (request : TabRequest)
  | retried (request : TabRequest) (flight : Flight) (underMutex : Bool)
  /-- `SessionInitializer`. -/
  | acquire
  /-- Under the mutex. -/
  | initializing (flight : Flight)
  /-- The rider has applied, and the page refreshes. -/
  | applied
  | refreshingUnguarded (flight : Flight)
  | settled

/-- What starts a process. -/
inductive TabStart
  | request (request : TabRequest)
  | mount
  | apply

/-- What the outside answers: the server's time, whether an endpoint other than those below finds
the access token expired, and whether the answer is lost. -/
structure TabReply where
  now : Time
  unauthorized : Bool
  lost : Bool

/-- `AUTH_BOOTSTRAP_PATHS`. -/
def authBootstrapPaths : List String := ["/auth/login", "/auth/register", "/auth/refresh"]

def TabRequest.path : TabRequest → String
  | api path => path
  | signIn path _ => path
  | logout => "/auth/logout"

def SignIn.call : SignIn → SessionPc
  | .password email plain => .loginFind email plain
  | .found userId => .signInFind userId

namespace SessionPc

/-- The call has returned. -/
def hasReturned : SessionPc → Bool
  | returned => true
  | _ => false

/-- The call was turned down with 401. -/
def isUnauthorized : SessionPc → Bool
  | rejected (.unauthorized _) => true
  | reuseDetected _ => true
  | _ => false

end SessionPc

namespace Tab

variable (s : Tab)

/-- `POST /auth/refresh` with the cookie as it is. -/
def sendRefresh : Flight :=
  match s.cookie with
  | none => ⟨.rejected (.unauthorized "Missing refresh token"), none⟩
  | some raw => ⟨.refreshFind raw, none⟩

/-- A request with the cookie as it is. -/
def send : TabRequest → Flight
  | .api _ => ⟨.returned, none⟩
  | .signIn _ credentials => ⟨credentials.call, none⟩
  | .logout =>
    match s.cookie with
    | none => ⟨.returned, none⟩
    | some raw => ⟨.logoutUpdate raw, none⟩

/-- The cookie once the answer to a request has arrived. -/
def receive (request : TabRequest) (flight : Flight) (r : TabReply) : Tab :=
  match r.lost, request with
  | false, .signIn _ _ =>
    if flight.call.hasReturned then { s with cookie := flight.issued } else s
  | false, .logout => { s with cookie := none }
  | _, _ => s

/-- The cookie once the answer to a refresh has arrived. -/
def receiveRefresh (flight : Flight) (r : TabReply) : Tab :=
  if !r.lost && flight.call.hasReturned then { s with cookie := flight.issued } else s

def lock : Tab := { s with locked := true }

def unlock : Tab := { s with locked := false }

end Tab

/-- `result.error?.status === 401`. -/
def TabRequest.isUnauthorized (request : TabRequest) (flight : Flight) (r : TabReply) : Bool :=
  !r.lost && match request with
    | api _ => r.unauthorized
    | signIn _ _ => flight.call.isUnauthorized
    | logout => false

namespace Flight

/-- The token inserted by the next database call, or before it. -/
def issuedNext (s : Sessions) (flight : Flight) : Option RefreshTokenId :=
  match flight.call with
  | .loginCreate _ _ => some s.refreshTokens.nextId
  | .refreshCreate _ _ => some s.refreshTokens.nextId
  | _ => flight.issued

/-- The server takes one database call. -/
def advance (cfg : AuthConfig) (s : Tab) (flight : Flight) (r : TabReply) (pc : Flight → TabPc) :
    Option (Tab × TabPc) :=
  (sessionStep cfg s.sessions flight.call ⟨r.now⟩).map fun o =>
    ({ s with sessions := o.1 }, pc ⟨o.2, flight.issuedNext s.sessions⟩)

end Flight

/-- One step of a request: of the client, or of the server's call for it. -/
def tabStep (cfg : AuthConfig) (s : Tab) (pc : TabPc) (r : TabReply) : Option (Tab × TabPc) :=
  match pc with
  | .waitForUnlock request => if s.locked then none else some (s, .ready request)
  | .ready request => some (s, .sent request (s.send request))
  | .sent request flight =>
    if flight.call.isOver then
      if request.isUnauthorized flight r && !authBootstrapPaths.contains request.path then
        if s.locked then some (s, .waitAgain request)
        else some (s.lock, .refreshing request s.sendRefresh)
      else some (s.receive request flight r, .settled)
    else flight.advance cfg s r (.sent request)
  | .refreshing request flight =>
    if flight.call.isOver then
      if !r.lost && flight.call.hasReturned then
        some (s.receiveRefresh flight r,
          .retried request ((s.receiveRefresh flight r).send request) true)
      else some (s.unlock, .settled)
    else flight.advance cfg s r (.refreshing request)
  | .waitAgain request => if s.locked then none else some (s, .readyAgain request)
  | .readyAgain request => some (s, .retried request (s.send request) false)
  | .retried request flight underMutex =>
    if flight.call.isOver then
      some (if underMutex then (s.receive request flight r).unlock else s.receive request flight r,
        .settled)
    else flight.advance cfg s r (.retried request · underMutex)
  | .acquire => if s.locked then none else some (s.lock, .initializing s.sendRefresh)
  | .initializing flight =>
    if flight.call.isOver then some ((s.receiveRefresh flight r).unlock, .settled)
    else flight.advance cfg s r .initializing
  | .applied => some (s, .refreshingUnguarded s.sendRefresh)
  | .refreshingUnguarded flight =>
    if flight.call.isOver then some (s.receiveRefresh flight r, .settled)
    else flight.advance cfg s r .refreshingUnguarded
  | .settled => none

def TabPc.start : TabStart → TabPc
  | .request request => .waitForUnlock request
  | .mount => .acquire
  | .apply => .applied

/-- The requests of a tab; beside them, the collections as other calls leave them. -/
def tab (cfg : AuthConfig) : Machine Tab TabPc TabStart TabReply Sessions where
  start _ := TabPc.start
  step := tabStep cfg
  env s sessions := some { s with sessions := sessions }

abbrev TabPool := Pool Tab TabPc

abbrev TabEvent := Event TabStart TabReply Sessions

/-- A page that has loaded, with whatever cookie the browser has. -/
def TabPool.loaded (sessions : Sessions) (cookie : Option RefreshTokenId) : TabPool :=
  ⟨⟨sessions, cookie, false⟩, []⟩

namespace TabPc

/-- The process holds the mutex. -/
def holdsMutex : TabPc → Bool
  | refreshing _ _ => true
  | retried _ _ underMutex => underMutex
  | initializing _ => true
  | _ => false

/-- A refresh that was sent under the mutex and has not been answered. -/
def refreshesGuarded : TabPc → Bool
  | refreshing _ _ => true
  | initializing _ => true
  | _ => false

def isOver : TabPc → Bool
  | settled => true
  | _ => false

end TabPc

/-! ## The mutex -/

section Mutex

variable {cfg : AuthConfig} {s s' : Tab} {pc pc' : TabPc} {r : TabReply}

/-- What one step does to the mutex. -/
inductive MutexMove : Bool → Bool → Bool → Bool → Prop
  | same (locked holds : Bool) : MutexMove locked holds locked holds
  | taken : MutexMove false false true true
  | released (locked : Bool) : MutexMove locked true false false

theorem advance_eq_some {flight : Flight} {pc : Flight → TabPc}
    (h : flight.advance cfg s r pc = some (s', pc')) : ∃ sessions call,
      sessionStep cfg s.sessions flight.call ⟨r.now⟩ = some (sessions, call) ∧
        s' = { s with sessions := sessions } ∧ pc' = pc ⟨call, flight.issuedNext s.sessions⟩ := by
  rw [Flight.advance, Option.map_eq_some_iff] at h
  obtain ⟨⟨sessions, call⟩, hstep, heq⟩ := h
  cases heq
  exact ⟨sessions, call, hstep, rfl, rfl⟩

@[simp] theorem locked_receive {request : TabRequest} {flight : Flight} :
    (s.receive request flight r).locked = s.locked := by
  unfold Tab.receive
  split
  · split <;> rfl
  · rfl
  · rfl

@[simp] theorem locked_receiveRefresh {flight : Flight} :
    (s.receiveRefresh flight r).locked = s.locked := by
  unfold Tab.receiveRefresh
  split <;> rfl

theorem mutex_advance {flight : Flight} {pc : Flight → TabPc} {holds : Bool}
    (h : flight.advance cfg s r pc = some (s', pc'))
    (hpc : ∀ flight, (pc flight).holdsMutex = holds) :
    MutexMove s.locked holds s'.locked pc'.holdsMutex := by
  obtain ⟨sessions, call, -, rfl, rfl⟩ := advance_eq_some h
  rw [hpc]
  exact .same s.locked holds

/-- **What one step does to the mutex**: it is taken when it is free, and released by its
holder. -/
theorem mutex_move (h : tabStep cfg s pc r = some (s', pc')) :
    MutexMove s.locked pc.holdsMutex s'.locked pc'.holdsMutex := by
  cases pc with
  | waitForUnlock request =>
    simp only [tabStep] at h
    split at h
    · cases h
    · cases h
      exact .same s.locked false
  | ready request =>
    cases h
    exact .same s.locked false
  | sent request flight =>
    simp only [tabStep] at h
    split at h
    · split at h
      · split at h
        · cases h
          exact .same s.locked false
        · rename_i hfree
          cases h
          rw [Bool.not_eq_true] at hfree
          rw [hfree]
          exact .taken
      · cases h
        rw [locked_receive]
        exact .same s.locked false
    · exact mutex_advance h fun _ => rfl
  | refreshing request flight =>
    simp only [tabStep] at h
    split at h
    · split at h
      · cases h
        rw [locked_receiveRefresh]
        exact .same s.locked true
      · cases h
        exact .released s.locked
    · exact mutex_advance h fun _ => rfl
  | waitAgain request =>
    simp only [tabStep] at h
    split at h
    · cases h
    · cases h
      exact .same s.locked false
  | readyAgain request =>
    cases h
    exact .same s.locked false
  | retried request flight underMutex =>
    simp only [tabStep] at h
    split at h
    · cases h
      cases underMutex with
      | true => exact .released s.locked
      | false =>
        rw [if_neg Bool.false_ne_true, locked_receive]
        exact .same s.locked false
    · exact mutex_advance h fun _ => rfl
  | acquire =>
    simp only [tabStep] at h
    split at h
    · cases h
    · rename_i hfree
      cases h
      rw [Bool.not_eq_true] at hfree
      rw [hfree]
      exact .taken
  | initializing flight =>
    simp only [tabStep] at h
    split at h
    · cases h
      exact .released s.locked
    · exact mutex_advance h fun _ => rfl
  | applied =>
    cases h
    exact .same s.locked false
  | refreshingUnguarded flight =>
    simp only [tabStep] at h
    split at h
    · cases h
      rw [locked_receiveRefresh]
      exact .same s.locked false
    · exact mutex_advance h fun _ => rfl
  | settled => cases h

end Mutex

section Runs

variable {cfg : AuthConfig} {ok : TabPool → TabEvent → Prop} {s : TabPool} {sessions : Sessions}
  {cookie : Option RefreshTokenId}

/-- The mutex is held by one process, which knows it is locked. -/
def mutexOutline : Outline Tab TabPc where
  shared _ := True
  proc s pc := pc.holdsMutex = true → s.locked = true
  compat p q := p.holdsMutex = true → q.holdsMutex = true → False
  symm _ _ h hq hp := h hp hq

theorem holdsMutex_start (k : TabStart) : (TabPc.start k).holdsMutex = false := by
  cases k <;> rfl

theorem mutexOutline_kept : mutexOutline.Kept (tab cfg) ok fun _ => True where
  spawn s k _ _ _ := by
    have hstart : ((tab cfg).start s.shared k).holdsMutex = false := holdsMutex_start k
    refine ⟨fun h => ?_, fun q _ h => ?_⟩
    · rw [hstart] at h
      cases h
    · rw [hstart] at h
      cases h
  run s i r p w p' _ _ hs hp hstep := by
    have hmove := mutex_move hstep
    have hproc : p.holdsMutex = true → s.shared.locked = true := hs.at hp
    refine ⟨trivial, ?_, fun j q hij hq hqlock hpq => ?_⟩
    · intro hholds
      revert hmove hproc
      rw [hholds]
      generalize s.shared.locked = locked, p.holdsMutex = holds, w.locked = locked'
      rintro (_ | _)
      · exact fun hproc => hproc rfl
      · exact fun _ => rfl
    · have hqlock' : q.holdsMutex = true → s.shared.locked = true := hqlock
      have hcompat : p.holdsMutex = true → q.holdsMutex = true → False := hpq
      revert hmove hqlock' hcompat
      show MutexMove _ _ _ _ → _ → _ → (q.holdsMutex = true → w.locked = true) ∧
        (p'.holdsMutex = true → q.holdsMutex = true → False)
      generalize s.shared.locked = locked, p.holdsMutex = holds, w.locked = locked',
        p'.holdsMutex = holds'
      rintro (_ | _ | _) hqlock' hcompat
      · exact ⟨hqlock', hcompat⟩
      · exact ⟨fun _ => rfl, fun _ hholds => Bool.false_ne_true (hqlock' hholds)⟩
      · exact ⟨fun hholds => (hcompat rfl hholds).elim, fun hfalse => Bool.noConfusion hfalse⟩
  env s sessions w _ _ hs hw := by
    cases hw
    exact ⟨trivial, fun q hq => hs.procs q hq⟩

/-- **Refreshes that are sent under the mutex never overlap**, in any run of any number of requests
and whatever the server's other calls do. -/
theorem guarded_exclusive (h : (tab cfg).Reach ok (TabPool.loaded sessions cookie) s) {i j : Nat}
    {p q : TabPc} (hij : i ≠ j) (hp : s.procs[i]? = some p) (hq : s.procs[j]? = some q) :
    ¬ (p.refreshesGuarded = true ∧ q.refreshesGuarded = true) := by
  have hholds : ∀ pc : TabPc, pc.refreshesGuarded = true → pc.holdsMutex = true := by
    intro pc hpc
    cases pc with
    | refreshing => rfl
    | initializing => rfl
    | _ => cases hpc
  have houtline : mutexOutline.Holds s :=
    Outline.holds_of_reach mutexOutline_kept (fun _ _ => trivial) (Outline.holds_nil trivial) h
  rintro ⟨hpr, hqr⟩
  exact houtline.compat i j p q hij hp hq (hholds p hpr) (hholds q hqr)

/-! ## No deadlock -/

/-- A locked mutex is held by one of the processes. -/
def mutexDuty : Duty Tab TabPc Unit where
  due s _ := s.locked = true
  bearer pc _ := pc.holdsMutex = true

theorem mutexDuty_kept : mutexDuty.Kept (tab cfg) ok fun _ => True where
  run s i r p w p' _ hborne _ hp hstep x hdue := by
    have hmove := mutex_move hstep
    have hlocked : w.locked = true := hdue
    have helse : s.shared.locked = true → p.holdsMutex = true ∨ mutexDuty.Elsewhere s i x := by
      intro hl
      by_cases hpm : p.holdsMutex = true
      · exact Or.inl hpm
      · exact Or.inr (hborne.elsewhere hp hl hpm)
    show p'.holdsMutex = true ∨ mutexDuty.Elsewhere s i x
    revert hmove helse
    rw [hlocked]
    generalize s.shared.locked = locked, p.holdsMutex = holds, p'.holdsMutex = holds'
    rintro (_ | _) helse
    · exact helse rfl
    · exact Or.inl rfl
  env s sessions w _ _ hw _ hdue := by
    cases hw
    exact hdue

/-- The server's call goes on until it is over. -/
theorem exists_sessionStep (cfg : AuthConfig) (s : Sessions) {pc : SessionPc} (r : SessionReply)
    (h : pc.isOver = false) : ∃ s' pc', sessionStep cfg s pc r = some (s', pc') := by
  cases pc with
  | revoked => cases h
  | reuseDetected => cases h
  | returned => cases h
  | rejected => cases h
  | forgotFind email =>
    simp only [sessionStep]
    split <;> exact ⟨_, _, rfl⟩
  | resetFind rawToken passwordHash =>
    simp only [sessionStep]
    split
    · exact ⟨_, _, rfl⟩
    · split <;> exact ⟨_, _, rfl⟩
  | resetCheck payload email passwordHash =>
    simp only [sessionStep]
    split
    · exact ⟨_, _, rfl⟩
    · split <;> exact ⟨_, _, rfl⟩
  | changeFind userId currentPassword passwordHash =>
    simp only [sessionStep]
    split
    · exact ⟨_, _, rfl⟩
    · split <;> exact ⟨_, _, rfl⟩
  | suspendFind id =>
    simp only [sessionStep]
    split
    · exact ⟨_, _, rfl⟩
    · split <;> exact ⟨_, _, rfl⟩
  | reactivateFind id =>
    simp only [sessionStep]
    split
    · exact ⟨_, _, rfl⟩
    · split <;> exact ⟨_, _, rfl⟩
  | _ => exact ⟨_, _, rfl⟩

/-- A process that waits for the mutex. -/
def TabPc.waits : TabPc → Bool
  | waitForUnlock _ => true
  | waitAgain _ => true
  | acquire => true
  | _ => false

/-- **Only the mutex is ever waited for.** -/
theorem exists_tabStep (cfg : AuthConfig) {s : Tab} {pc : TabPc} (r : TabReply)
    (hover : pc.isOver = false)
    (hwaits : s.locked = true → pc.waits = false) :
    ∃ s' pc', tabStep cfg s pc r = some (s', pc') := by
  have hadvance : ∀ {flight : Flight} (next : Flight → TabPc), flight.call.isOver = false →
      ∃ s' pc', flight.advance cfg s r next = some (s', pc') := by
    intro flight next hcall
    obtain ⟨sessions, call, hstep⟩ :=
      exists_sessionStep cfg s.sessions ⟨r.now⟩ hcall
    exact ⟨_, _, by rw [Flight.advance, hstep]; rfl⟩
  have hfree : pc.waits = true → s.locked = false := by
    intro hw
    cases hl : s.locked with
    | false => rfl
    | true => rw [hwaits hl] at hw; cases hw
  cases pc with
  | waitForUnlock request =>
    simp only [tabStep, hfree rfl]
    exact ⟨_, _, rfl⟩
  | waitAgain request =>
    simp only [tabStep, hfree rfl]
    exact ⟨_, _, rfl⟩
  | acquire =>
    simp only [tabStep, hfree rfl]
    exact ⟨_, _, rfl⟩
  | ready request => exact ⟨_, _, rfl⟩
  | readyAgain request => exact ⟨_, _, rfl⟩
  | applied => exact ⟨_, _, rfl⟩
  | settled => cases hover
  | sent request flight =>
    simp only [tabStep]
    cases hcall : flight.call.isOver with
    | false => exact hadvance _ hcall
    | true =>
      simp only [if_true]
      split
      · split <;> exact ⟨_, _, rfl⟩
      · exact ⟨_, _, rfl⟩
  | refreshing request flight =>
    simp only [tabStep]
    cases hcall : flight.call.isOver with
    | false => exact hadvance _ hcall
    | true =>
      simp only [if_true]
      split <;> exact ⟨_, _, rfl⟩
  | retried request flight underMutex =>
    simp only [tabStep]
    cases hcall : flight.call.isOver with
    | false => exact hadvance (.retried request · underMutex) hcall
    | true => exact ⟨_, _, rfl⟩
  | initializing flight =>
    simp only [tabStep]
    cases hcall : flight.call.isOver with
    | false => exact hadvance _ hcall
    | true => exact ⟨_, _, rfl⟩
  | refreshingUnguarded flight =>
    simp only [tabStep]
    cases hcall : flight.call.isOver with
    | false => exact hadvance _ hcall
    | true => exact ⟨_, _, rfl⟩

/-- **The requests of a tab never all wait for one another**: in every reached state with a request
that is not over, one of the requests can take its next step, whatever it is answered. -/
theorem tab_progress (h : (tab cfg).Reach ok (TabPool.loaded sessions cookie) s)
    (hs : ∃ pc ∈ s.procs, pc.isOver = false) (r : TabReply) :
    ∃ i s', (tab cfg).next s (.run i r) = some s' := by
  have hborne : mutexDuty.Borne s :=
    Duty.borne_of_reach mutexDuty_kept (fun _ _ => trivial) (fun _ hdue => by cases hdue) h
  obtain ⟨pc, hpc, hover, hwaits⟩ : ∃ pc ∈ s.procs, pc.isOver = false ∧
      (s.shared.locked = true → pc.waits = false) := by
    cases hlocked : s.shared.locked with
    | false =>
      obtain ⟨pc, hpc, hover⟩ := hs
      exact ⟨pc, hpc, hover, by rintro ⟨⟩⟩
    | true =>
      -- the holder of the mutex waits for nobody
      obtain ⟨pc, hpc, hholds⟩ := hborne () hlocked
      have hmutex : pc.holdsMutex = true := hholds
      refine ⟨pc, hpc, ?_, fun _ => ?_⟩
      · cases pc with
        | settled => cases hmutex
        | _ => rfl
      · cases pc with
        | waitForUnlock => cases hmutex
        | waitAgain => cases hmutex
        | acquire => cases hmutex
        | _ => rfl
  obtain ⟨i, hi⟩ := List.mem_iff_getElem?.mp hpc
  obtain ⟨w, pc', hstep⟩ := exists_tabStep cfg r hover hwaits
  exact ⟨i, ⟨w, s.procs.set i pc'⟩, by
    simp only [Machine.next, hi]
    show Option.map _ (tabStep cfg s.shared pc r) = _
    rw [hstep]
    rfl⟩

end Runs

/-! ## Two requests at once -/

/-- A user with one session. -/
def adaSessions : Sessions :=
  { Sessions.empty with
    users := ⟨[⟨"ada@example.com", "$2b$first", "Ada", .customer, true, none, .absent, false,
      .active⟩]⟩
    refreshTokens := ⟨[⟨0, 1000, none, none, none, 0, 0⟩]⟩ }

def adaTab : TabPool := TabPool.loaded adaSessions (some 0)

/-- The process takes its next step, and is answered. -/
def heard (i : Nat) : TabEvent := .run i ⟨0, false, false⟩

/-- The process takes its next step, and is answered with 401. -/
def expired (i : Nat) : TabEvent := .run i ⟨0, true, false⟩

/-- Two requests find the access token expired; the first refreshes, and the second waits. -/
def twoExpired : List TabEvent :=
  [.spawn (.request (.api "/cart")), .spawn (.request (.api "/orders/mine")), heard 0, heard 0,
    heard 1, heard 1, expired 0, expired 1]

/-- Nobody else writes to the server's collections. -/
def TabEvent.isOwn : TabEvent → Bool
  | .env _ => false
  | _ => true

theorem two_expired : ∃ s : TabPool,
    (tab plainAuth).Reach (fun _ e => TabEvent.isOwn e = true) adaTab s ∧
      ((s.procs[0]?).any TabPc.refreshesGuarded && (s.procs[1]?).any TabPc.waits) = true :=
  Machine.exists_reach_of_play (fun _ _ h => h) twoExpired (by decide +kernel)

theorem guarded_exclusive_of_two : ∃ p q : TabPc, p.refreshesGuarded = true ∧ q.waits = true ∧
    ¬ (p.refreshesGuarded = true ∧ q.refreshesGuarded = true) := by
  obtain ⟨s, hreach, hs⟩ := two_expired
  simp only [Bool.and_eq_true, Option.any_eq_true] at hs
  obtain ⟨⟨p, hp, hrefreshes⟩, q, hq, hwaits⟩ := hs
  exact ⟨p, q, hrefreshes, hwaits, guarded_exclusive hreach Nat.zero_ne_one hp hq⟩

theorem tab_progress_of_two : ∃ s : TabPool, (s.procs[1]?).any TabPc.waits = true ∧
    ∃ i s', (tab plainAuth).next s (heard i) = some s' := by
  obtain ⟨s, hreach, hs⟩ := two_expired
  simp only [Bool.and_eq_true] at hs
  obtain ⟨q, hq, hwaits⟩ := Option.any_eq_true _ _ |>.mp hs.2
  have hover : q.isOver = false := by
    cases q with
    | settled => cases hwaits
    | _ => rfl
  exact ⟨s, hs.2, tab_progress hreach ⟨q, List.mem_of_getElem? hq, hover⟩ ⟨0, false, false⟩⟩

end FoodDelivery
