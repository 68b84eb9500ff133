import FoodDelivery.Auth.Admins

/-!
# Where admins come from

The role of an admin and the flag of a super admin, wherever they show (in a user, in a token, in
what a request has in hand), go back to the script, or to a request of someone whom the script has
made an admin.

* `Admins.Warrants`: on whose word a token says what it says.
* `AdminMove.sound`, `warranted_start`, `warranted_env`: what each kind of event keeps.
* `admins_are_granted`: every run.
-/

namespace FoodDelivery

open Store Interleave AdminPc

/-- The script has made the user an admin, or a request has. -/
def Admins.Granted (s : Admins) (id : UserId) : Prop :=
  id ∈ s.seeded ∨ ∃ grant ∈ s.grants, grant.grantee = id ∧ grant.role = .admin

/-- What a token says is on the word of the script, or of someone whom the script has made an
admin. -/
def Admins.Warrants (s : Admins) (payload : AccessTokenPayload) (isSuperAdmin : Bool) : Prop :=
  (isSuperAdmin = true → payload.sub ∈ s.seeded) ∧ (payload.role = .admin → s.Granted payload.sub)

/-- Every admin, every flag and every token is warranted. -/
structure Admins.Sound (s : Admins) : Prop where
  flag : ∀ id, s.isSuperAdmin id = true → id ∈ s.seeded
  role : ∀ id u, s.users.get id = some u → u.role = .admin → s.Granted id
  granter : ∀ grant ∈ s.grants, grant.granter ∈ s.seeded
  token : ∀ t ∈ s.accessTokens.docs, s.Warrants t.toAccessTokenPayload t.isSuperAdmin

/-- What a request has in hand is warranted. -/
structure AdminPc.Sound (s : Admins) (pc : AdminPc) : Prop where
  creating : ∀ user, pc.creating = some user → user.role ≠ .admin
  signing : ∀ payload flag, pc.signing = some (payload, flag) → s.Warrants payload flag
  granting : ∀ granter, pc.granting = some granter → granter ∈ s.seeded

/-- The records only grow. -/
structure Admins.Later (s s' : Admins) : Prop where
  seeded : ∃ ids, s'.seeded = s.seeded ++ ids
  grants : ∃ more, s'.grants = s.grants ++ more

section Sound

variable {ttl : Time} {s s' : Admins} {pc pc' : AdminPc} {id : UserId}

theorem Admins.Later.of_eq (hseeded : s'.seeded = s.seeded) (hgrants : s'.grants = s.grants) :
    s.Later s' :=
  ⟨⟨[], by rw [hseeded, List.append_nil]⟩, ⟨[], by rw [hgrants, List.append_nil]⟩⟩

theorem Admins.Later.mem_seeded (h : s.Later s') (hid : id ∈ s.seeded) : id ∈ s'.seeded := by
  obtain ⟨ids, hids⟩ := h.seeded
  rw [hids]
  exact List.mem_append_left ids hid

theorem Admins.Later.granted (h : s.Later s') (hid : s.Granted id) : s'.Granted id := by
  rcases hid with hid | ⟨grant, hgrant, hfor⟩
  · exact Or.inl (h.mem_seeded hid)
  · obtain ⟨more, hmore⟩ := h.grants
    refine Or.inr ⟨grant, ?_, hfor⟩
    rw [hmore]
    exact List.mem_append_left more hgrant

theorem Admins.Later.warrants (h : s.Later s') {payload : AccessTokenPayload} {flag : Bool}
    (hw : s.Warrants payload flag) : s'.Warrants payload flag :=
  ⟨fun hflag => h.mem_seeded (hw.1 hflag), fun hrole => h.granted (hw.2 hrole)⟩

theorem AdminPc.Sound.mono (h : pc.Sound s) (hlater : s.Later s') : pc.Sound s' where
  creating := h.creating
  signing payload flag hp := hlater.warrants (h.signing payload flag hp)
  granting granter hp := hlater.mem_seeded (h.granting granter hp)

theorem AdminPc.Sound.of_idle (h : pc.idle = true) : pc.Sound s := by
  simp only [AdminPc.idle, Bool.and_eq_true, Option.isNone_iff_eq_none] at h
  obtain ⟨hcreating, hsigning, hgranting⟩ := h
  constructor
  · intro user hp
    simp [hcreating] at hp
  · intro payload flag hp
    simp [hsigning] at hp
  · intro granter hp
    simp [hgranting] at hp

/-- One database call keeps the records. -/
theorem AdminMove.later (h : AdminMove ttl s pc s' pc') : s.Later s' := by
  cases h with
  | same hs _ => exact .of_eq hs.seeded hs.grants
  | goesOn _ _ _ _ => exact .of_eq rfl rfl
  | provided _ => exact .of_eq rfl rfl
  | created _ _ => exact .of_eq rfl rfl
  | found _ => exact .of_eq rfl rfl
  | signed => exact .of_eq rfl rfl
  | ridden => exact .of_eq rfl rfl
  | roleFound _ _ => exact .of_eq rfl rfl
  | roleSaved => exact ⟨⟨[], (List.append_nil _).symm⟩, ⟨_, rfl⟩⟩

/-- A role that `saveRole` leaves is the one that was set, or was there before. -/
theorem role_saveRole {granter : UserId} {role foundRole : UserRole} {foundFlag : Bool}
    {j : UserId} {u' : User}
    (h : (s.saveRole granter id role foundRole foundFlag).users.get j = some u') :
    (id = j ∧ u'.role = role) ∨ ∃ u, s.users.get j = some u ∧ u'.role = u.role := by
  change (if role = foundRole then s.users else s.users.modify id _).get j = some u' at h
  split at h
  · exact Or.inr ⟨u', h, rfl⟩
  · rcases Collection.get_modify_cases h with ⟨hj, u, _, rfl⟩ | ⟨_, hu⟩
    · exact Or.inl ⟨hj, rfl⟩
    · exact Or.inr ⟨u', hu, rfl⟩

/-- `saveRole` raises no flag. -/
theorem flag_saveRole {granter : UserId} {role foundRole : UserRole} {foundFlag : Bool}
    {j : UserId}
    (h : (s.saveRole granter id role foundRole foundFlag).isSuperAdmin j = true) :
    s.isSuperAdmin j = true := by
  change (if (role = .customer && foundFlag) = true then Function.update s.isSuperAdmin id false
    else s.isSuperAdmin) j = true at h
  split at h
  · by_cases hj : j = id
    · simp [hj] at h
    · rwa [Function.update_of_ne hj] at h
  · exact h

/-- **One database call keeps every admin, flag and token warranted.** -/
theorem AdminMove.sound (h : AdminMove ttl s pc s' pc') (hs : s.Sound) (hpc : pc.Sound s) :
    s'.Sound ∧ pc'.Sound s' := by
  have hlater := h.later
  cases h with
  | same hsame hidle =>
    refine ⟨⟨?_, ?_, ?_, ?_⟩, .of_idle hidle⟩
    · intro id hflag
      rw [hsame.flags] at hflag
      exact hlater.mem_seeded (hs.flag id hflag)
    · intro id u' hu' hrole
      obtain ⟨u, hu, heq⟩ := hsame.role id u' hu'
      exact hlater.granted (hs.role id u hu (heq ▸ hrole))
    · intro grant hgrant
      rw [hsame.grants] at hgrant
      exact hlater.mem_seeded (hs.granter grant hgrant)
    · intro t ht
      rw [hsame.tokens] at ht
      exact hlater.warrants (hs.token t ht)
  | @goesOn _ _ user hcreating hcreating' hsigning hgranting =>
    refine ⟨hs, ?_, ?_, ?_⟩
    · intro user' hp
      rw [hcreating', Option.some.injEq] at hp
      exact hp ▸ hpc.creating user hcreating
    · intro payload flag hp
      simp [hsigning] at hp
    · intro granter hp
      simp [hgranting] at hp
  | provided hrole =>
    refine ⟨hs, ?_, ?_, ?_⟩
    · intro user' hp
      cases hp
      rw [hrole]
      decide
    · intro payload flag hp
      cases hp
    · intro granter hp
      cases hp
  | @created _ _ user hcreating hpc' =>
    have hrole := hpc.creating user hcreating
    refine ⟨⟨hs.flag, ?_, hs.granter, hs.token⟩, ?_⟩
    · intro id u hu hadmin
      rcases Collection.get_create_cases hu with ⟨_, rfl⟩ | ⟨_, hu⟩
      · exact absurd hadmin hrole
      · exact hs.role id u hu hadmin
    · rcases hpc' with rfl | hidle
      · refine ⟨fun user' hp => (by cases hp), ?_, fun granter hp => (by cases hp)⟩
        intro payload flag hp
        cases hp
        exact ⟨fun hflag => (by cases hflag), fun hadmin => absurd hadmin hrole⟩
      · exact .of_idle hidle
  | @found id user huser =>
    refine ⟨hs, fun user' hp => (by cases hp), ?_, fun granter hp => (by cases hp)⟩
    intro payload flag hp
    cases hp
    exact ⟨hs.flag id, hs.role id user huser⟩
  | @signed payload isSuperAdmin =>
    refine ⟨⟨hs.flag, hs.role, hs.granter, ?_⟩, .of_idle rfl⟩
    intro t ht
    rcases List.mem_append.mp ht with ht | ht
    · exact hs.token t ht
    · rw [List.mem_singleton.mp ht]
      exact hpc.signing payload isSuperAdmin rfl
  | @ridden id =>
    refine ⟨⟨hs.flag, ?_, hs.granter, hs.token⟩, .of_idle rfl⟩
    intro j u' hu' hadmin
    rcases Collection.get_modify_cases hu' with ⟨_, u, _, rfl⟩ | ⟨_, hu⟩
    · cases hadmin
    · exact hs.role j u' hu hadmin
  | @roleFound granter id role user _ _ =>
    refine ⟨hs, fun user' hp => (by cases hp), fun payload flag hp => (by cases hp), ?_⟩
    intro granter' hp
    cases hp
    exact hpc.granting granter rfl
  | @roleSaved granter id role foundRole foundFlag =>
    refine ⟨⟨?_, ?_, ?_, ?_⟩, .of_idle rfl⟩
    · intro j hflag
      exact hs.flag j (flag_saveRole hflag)
    · intro j u' hu' hadmin
      rcases role_saveRole hu' with ⟨rfl, hset⟩ | ⟨u, hu, heq⟩
      · refine Or.inr ⟨⟨granter, id, role⟩, ?_, rfl, hset ▸ hadmin⟩
        exact List.mem_append_right _ (List.mem_singleton_self _)
      · exact hlater.granted (hs.role j u hu (heq ▸ hadmin))
    · intro grant hgrant
      rcases List.mem_append.mp hgrant with hgrant | hgrant
      · exact hs.granter grant hgrant
      · rw [List.mem_singleton.mp hgrant]
        exact hpc.granting granter rfl
    · intro t ht
      exact hlater.warrants (hs.token t ht)

/-- Who passes the guards of an admin route holds a token that says so. -/
theorem authorize_admin {superAdmin : Bool} {rawToken : RawToken} {token : AccessToken}
    (h : s.authorize [.admin] superAdmin rawToken = .ok token) :
    token ∈ s.accessTokens.docs ∧ s.clock < token.expiresAt ∧ token.role = .admin ∧
      (superAdmin = true → token.isSuperAdmin = true) := by
  obtain ⟨user, huser, h⟩ := bind_eq_ok.mp h
  obtain ⟨_, hroles, h⟩ := bind_eq_ok.mp h
  have htoken : user ∈ s.accessTokens.docs ∧ s.clock < user.expiresAt := by
    unfold Admins.authenticate at huser
    split at huser
    · cases huser
    · rename_i token' hfind
      cases huser
      obtain ⟨hget, hlive⟩ := Option.filter_eq_some_iff.mp hfind
      exact ⟨List.mem_of_getElem? hget, of_decide_eq_true hlive⟩
  have hrole : user.role = .admin := by
    unfold Admins.checkRoles at hroles
    split at hroles
    · rename_i hmem
      simpa using hmem
    · cases hroles
  cases superAdmin with
  | false =>
    cases h
    exact ⟨htoken.1, htoken.2, hrole, fun hs => (by cases hs)⟩
  | true =>
    obtain ⟨_, hflag, h⟩ := bind_eq_ok.mp h
    cases h
    refine ⟨htoken.1, htoken.2, hrole, fun _ => ?_⟩
    unfold Admins.checkSuperAdmin at hflag
    split at hflag
    · assumption
    · cases hflag

/-- **A request that has only been admitted has nothing unwarranted in hand.** -/
theorem warranted_start (hs : s.Sound) (request : AdminRequest) :
    (startAdmin s request).Sound s := by
  cases request with
  | register dto passwordHash verifiedPhone =>
    simp only [startAdmin]
    split
    · rename_i hrole
      refine ⟨?_, fun payload flag hp => (by cases hp), fun granter hp => (by cases hp)⟩
      intro user hp hadmin
      cases hp
      change dto.role.getD .customer = .admin at hadmin
      cases hdto : dto.role with
      | none => simp [hdto] at hadmin
      | some role =>
        rw [hdto, Option.getD_some] at hadmin
        rw [hdto, hadmin] at hrole
        exact absurd hrole (by decide)
    · exact .of_idle rfl
  | oauth profile passwordHash => exact .of_idle rfl
  | signIn userId => exact .of_idle rfl
  | apply rawToken phone dto today =>
    exact .of_idle (idle_orReject fun _ _ => idle_orReject fun _ _ => rfl)
  | updateRole rawToken id role =>
    simp only [startAdmin]
    cases hauth : s.authorize [.admin] true rawToken with
    | error e => exact .of_idle rfl
    | ok token =>
      obtain ⟨hmem, -, -, hflag⟩ := authorize_admin hauth
      simp only [orReject]
      split
      · refine ⟨fun user hp => (by cases hp), fun payload flag hp => (by cases hp), ?_⟩
        intro granter hp
        cases hp
        exact (hs.token token hmem).1 (hflag rfl)
      · exact .of_idle rfl
  | suspend rawToken id =>
    refine .of_idle (idle_orReject fun _ _ => ?_)
    split <;> rfl
  | reactivate rawToken id => exact .of_idle (idle_orReject fun _ _ => rfl)

theorem tick_eq_some {now : Time} (h : envAdmins s (.tick now) = some s') :
    s.clock ≤ now ∧ s' = { s with clock := now } := by
  simp only [envAdmins, Option.ite_none_right_eq_some, Option.some.injEq] at h
  exact ⟨h.1, h.2.symm⟩

/-- The script and the time keep every admin, flag and token warranted. -/
theorem warranted_env {e : AdminEnv} (hs : s.Sound) (h : envAdmins s e = some s') :
    s'.Sound ∧ s.Later s' := by
  cases e with
  | seedAdmin email =>
    obtain ⟨found, -, rfl⟩ := Option.map_eq_some_iff.mp h
    have hlater : s.Later { s with
        users := s.users.modify found.1 fun u => { u with role := .admin }
        isSuperAdmin := Function.update s.isSuperAdmin found.1 true
        seeded := s.seeded ++ [found.1] } :=
      ⟨⟨_, rfl⟩, ⟨[], (List.append_nil _).symm⟩⟩
    have hseeded : found.1 ∈ s.seeded ++ [found.1] :=
      List.mem_append_right _ (List.mem_singleton_self _)
    refine ⟨⟨?_, ?_, ?_, ?_⟩, hlater⟩
    · intro id hflag
      by_cases hid : id = found.1
      · exact hid ▸ hseeded
      · change Function.update s.isSuperAdmin found.1 true id = true at hflag
        rw [Function.update_of_ne hid] at hflag
        exact hlater.mem_seeded (hs.flag id hflag)
    · intro id u' hu' hadmin
      rcases Collection.get_modify_cases hu' with ⟨hid, -⟩ | ⟨-, hu⟩
      · exact Or.inl (hid ▸ hseeded)
      · exact hlater.granted (hs.role id u' hu hadmin)
    · intro grant hgrant
      exact hlater.mem_seeded (hs.granter grant hgrant)
    · intro t ht
      exact hlater.warrants (hs.token t ht)
  | tick now =>
    obtain ⟨-, rfl⟩ := tick_eq_some h
    exact ⟨⟨hs.flag, hs.role, hs.granter, hs.token⟩, .of_eq rfl rfl⟩

/-- Every admin, flag, token and request is warranted. -/
def adminOutline : Outline Admins AdminPc where
  shared := Admins.Sound
  proc s pc := pc.Sound s
  compat _ _ := True
  symm _ _ _ := trivial

theorem adminOutline_kept {ok : AdminPool → AdminEvent → Prop} :
    adminOutline.Kept (admins ttl) ok fun _ => True where
  spawn _ request _ _ h := ⟨warranted_start h.shared request, fun _ _ => trivial⟩
  run s i r pc w pc' _ _ h hpc hstep := by
    have hmove := admin_move hstep
    obtain ⟨hw, hpc'⟩ := hmove.sound h.shared (h.at hpc)
    refine ⟨hw, hpc', ?_⟩
    intro j q _ _ hq _
    exact ⟨hq.mono hmove.later, trivial⟩
  env s e w _ _ h hw := by
    obtain ⟨hsound, hlater⟩ := warranted_env h.shared hw
    exact ⟨hsound, fun q hq => (h.procs q hq).mono hlater⟩

theorem admins_sound {ok : AdminPool → AdminEvent → Prop} {s : AdminPool}
    (h : (admins ttl).Reach ok AdminPool.initial s) : adminOutline.Holds s := by
  refine Outline.holds_of_reach adminOutline_kept (fun _ _ => trivial) (Outline.holds_nil ?_) h
  refine ⟨?_, ?_, ?_, ?_⟩
  · intro id hflag
    cases hflag
  · intro id u hu
    cases hu
  · intro grant hgrant
    cases hgrant
  · intro t ht
    cases ht

/-- **Admins are granted**: in every run, whatever registers, signs in, applies or is asked to
change roles at once, an admin is one that the script has made or that a request has made; a role is
only ever set for someone whom the script has made an admin; and whoever passes the guards of an
admin route has been granted it in one of these two ways, in the first one where a super admin is
asked for. -/
theorem admins_are_granted {ok : AdminPool → AdminEvent → Prop} {s : AdminPool}
    (h : (admins ttl).Reach ok AdminPool.initial s) :
    (∀ id u, s.shared.users.get id = some u → u.role = .admin → s.shared.Granted id) ∧
    (∀ id, s.shared.isSuperAdmin id = true → id ∈ s.shared.seeded) ∧
    (∀ grant ∈ s.shared.grants, grant.granter ∈ s.shared.seeded) ∧
    ∀ superAdmin rawToken token, s.shared.authorize [.admin] superAdmin rawToken = .ok token →
      s.shared.Granted token.sub ∧ (superAdmin = true → token.sub ∈ s.shared.seeded) := by
  have hs : s.shared.Sound := (admins_sound h).shared
  refine ⟨hs.role, hs.flag, hs.granter, ?_⟩
  intro superAdmin rawToken token hauth
  obtain ⟨hmem, -, hrole, hflag⟩ := authorize_admin hauth
  obtain ⟨hsuper, hadmin⟩ := hs.token token hmem
  exact ⟨hadmin hrole, fun hasked => hsuper (hflag hasked)⟩

end Sound

/-! ## A first admin -/

def registerAs (email : String) (role : UserRole) : AdminEvent :=
  .spawn (.register ⟨email, "Ada", some role, none, none⟩ "$2b$first" none)

/-- The requests take their next steps in this order. -/
def adminTurns (requests : List Nat) : List AdminEvent := requests.map fun i => .run i ()

/-- Two customers; the script makes the first one an admin, who signs in and makes the second one
an admin. -/
def firstAdmin : List AdminEvent :=
  [registerAs "ada@example.com" .customer, registerAs "eve@example.com" .customer] ++
    adminTurns [0, 0, 0, 1, 1, 1] ++ [.env (.seedAdmin "ada@example.com"), .spawn (.signIn 0)] ++
      adminTurns [2, 2] ++ [.spawn (.updateRole 2 1 .admin)] ++ adminTurns [3, 3]

theorem admins_are_granted_second : ∃ s : AdminPool,
    (s.shared.users.docs.map (·.role) = [.admin, .admin] ∧ s.shared.isSuperAdmin 1 = false) ∧
      ∀ grant ∈ s.shared.grants, grant.granter ∈ s.shared.seeded := by
  have hrun : ((admins 1000).play (fun _ _ => true) AdminPool.initial firstAdmin).any (fun s =>
      decide (s.shared.users.docs.map (·.role) = [.admin, .admin]) &&
        !s.shared.isSuperAdmin 1) = true := by decide +kernel
  obtain ⟨s, hreach, hs⟩ := Machine.exists_reach_of_play (fun _ _ h => h) firstAdmin hrun
  rw [Bool.and_eq_true, decide_eq_true_eq, Bool.not_eq_true'] at hs
  exact ⟨s, hs, (admins_are_granted hreach).2.2.1⟩

/-- A body that asks for the role of an admin is turned away. -/
example : ((admins 1000).exec AdminPool.initial [registerAs "eve@example.com" .admin]).map
    (fun s => s.procs.all (·.idle)) = some true := by decide +kernel

end FoodDelivery
