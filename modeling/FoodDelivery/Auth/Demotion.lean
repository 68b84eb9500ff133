import FoodDelivery.Auth.Granted

/-!
# The end of an admin

A role is written to the user, and an access token that was signed before keeps the old one.  Once
the role is gone and no sign-in has the old one in hand, the last such token expires one lifetime
later, and no new one comes about as long as the role is not granted again.

* `TokensWithin`: no token outlives its lifetime.
* `Fallen.next`: what one event keeps.
* `lost_role_expires`: every later request.
-/

namespace FoodDelivery

open Store Interleave AdminPc

/-- No token outlives its lifetime. -/
def Admins.TokensWithin (ttl : Time) (s : Admins) : Prop :=
  ∀ t ∈ s.accessTokens.docs, t.expiresAt ≤ s.clock + ttl

/-- The user has not been made an admin between the two states. -/
structure Admins.GrantsNoMore (s s' : Admins) (id : UserId) : Prop where
  seeded : id ∉ s'.seeded.drop s.seeded.length
  grants : ∀ grant ∈ s'.grants.drop s.grants.length, grant.grantee = id → grant.role ≠ .admin

/-- The request does not have the role in hand that the user has lost. -/
def AdminPc.Forgets (id : UserId) (pc : AdminPc) : Prop :=
  ∀ payload flag, pc.signing = some (payload, flag) → payload.sub = id → payload.role ≠ .admin

/-- The user is no admin, and neither is any token that lasts beyond the deadline. -/
structure Fallen (id : UserId) (deadline : Time) (s : AdminPool) : Prop where
  role : ∀ u, s.shared.users.get id = some u → u.role ≠ .admin
  token : ∀ t ∈ s.shared.accessTokens.docs, t.sub = id → t.role = .admin → t.expiresAt ≤ deadline
  procs : ∀ pc ∈ s.procs, pc.Forgets id

section Steps

variable {ttl deadline : Time} {s s' : Admins} {pc pc' : AdminPc} {id : UserId}

theorem AdminPc.Forgets.of_signing (h : pc.signing = none) : pc.Forgets id := by
  intro payload flag hp
  simp [h] at hp

theorem AdminPc.Forgets.of_idle (h : pc.idle = true) : pc.Forgets id := by
  apply AdminPc.Forgets.of_signing
  simp only [AdminPc.idle, Bool.and_eq_true, Option.isNone_iff_eq_none] at h
  exact h.2.1

theorem signing_start (s : Admins) (request : AdminRequest) :
    (startAdmin s request).signing = none := by
  have horReject {α : Type} {next : α → AdminPc} {result : Except AuthError α}
      (h : ∀ a, (next a).signing = none) : (orReject next result).signing = none := by
    cases result with
    | error e => rfl
    | ok a => exact h a
  cases request with
  | register dto passwordHash verifiedPhone =>
    simp only [startAdmin]
    split <;> rfl
  | oauth profile passwordHash => rfl
  | signIn userId => rfl
  | apply rawToken phone dto today => exact horReject fun _ => horReject fun _ => rfl
  | updateRole rawToken id role =>
    apply horReject
    intro user
    split <;> rfl
  | suspend rawToken id =>
    apply horReject
    intro user
    split <;> rfl
  | reactivate rawToken id => exact horReject fun _ => rfl

/-- **What one database call leaves of a user who is no admin.** -/
theorem AdminMove.fallen (h : AdminMove ttl s pc s' pc') (hpc : pc.Sound s)
    (hrole : ∀ u, s.users.get id = some u → u.role ≠ .admin)
    (htoken : ∀ t ∈ s.accessTokens.docs, t.sub = id → t.role = .admin → t.expiresAt ≤ deadline)
    (hforgets : pc.Forgets id) (hmore : s.GrantsNoMore s' id) :
    (∀ u, s'.users.get id = some u → u.role ≠ .admin) ∧
      (∀ t ∈ s'.accessTokens.docs, t.sub = id → t.role = .admin → t.expiresAt ≤ deadline) ∧
      pc'.Forgets id := by
  cases h with
  | same hsame hidle =>
    refine ⟨?_, ?_, .of_idle hidle⟩
    · intro u' hu'
      obtain ⟨u, hu, heq⟩ := hsame.role id u' hu'
      exact heq ▸ hrole u hu
    · rw [hsame.tokens]
      exact htoken
  | goesOn _ _ hsigning _ => exact ⟨hrole, htoken, .of_signing hsigning⟩
  | provided _ => exact ⟨hrole, htoken, .of_signing rfl⟩
  | @created _ _ user hcreating hpc' =>
    have hnew := hpc.creating user hcreating
    refine ⟨?_, htoken, ?_⟩
    · intro u hu
      rcases Collection.get_create_cases hu with ⟨_, rfl⟩ | ⟨_, hu⟩
      · exact hnew
      · exact hrole u hu
    · rcases hpc' with rfl | hidle
      · intro payload flag hp _
        cases hp
        exact hnew
      · exact .of_idle hidle
  | @found userId user huser =>
    refine ⟨hrole, htoken, ?_⟩
    intro payload flag hp hsub
    cases hp
    exact hrole user (hsub ▸ huser)
  | @signed payload isSuperAdmin =>
    refine ⟨hrole, ?_, .of_signing rfl⟩
    intro t ht hsub hadmin
    rcases List.mem_append.mp ht with ht | ht
    · exact htoken t ht hsub hadmin
    · rw [List.mem_singleton.mp ht] at hsub hadmin
      exact absurd hadmin (hforgets payload isSuperAdmin rfl hsub)
  | @ridden userId =>
    refine ⟨?_, htoken, .of_signing rfl⟩
    intro u' hu'
    rcases Collection.get_modify_cases hu' with ⟨_, u, _, rfl⟩ | ⟨_, hu⟩
    · intro hadmin
      cases hadmin
    · exact hrole u' hu
  | roleFound _ _ => exact ⟨hrole, htoken, .of_signing rfl⟩
  | @roleSaved granter userId role foundRole foundFlag =>
    refine ⟨?_, htoken, .of_signing rfl⟩
    intro u' hu'
    rcases role_saveRole hu' with ⟨rfl, hset⟩ | ⟨u, hu, heq⟩
    · -- the role that is set is in the record
      rw [hset]
      apply hmore.grants ⟨granter, userId, role⟩ _ rfl
      rw [show (s.saveRole granter userId role foundRole foundFlag).grants =
        s.grants ++ [⟨granter, userId, role⟩] from rfl, List.drop_left]
      exact List.mem_singleton_self _
    · exact heq ▸ hrole u hu

theorem AdminMove.tokensWithin (h : AdminMove ttl s pc s' pc') (hs : s.TokensWithin ttl) :
    s'.TokensWithin ttl := by
  cases h with
  | same hsame _ =>
    intro t ht
    rw [hsame.tokens] at ht
    rw [hsame.clock]
    exact hs t ht
  | signed =>
    intro t ht
    rcases List.mem_append.mp ht with ht | ht
    · exact hs t ht
    · rw [List.mem_singleton.mp ht]
      exact Nat.le_refl _
  | goesOn _ _ _ _ => exact hs
  | provided _ => exact hs
  | created _ _ => exact hs
  | found _ => exact hs
  | ridden => exact hs
  | roleFound _ _ => exact hs
  | roleSaved => exact hs

end Steps

section Runs

variable {ttl deadline : Time} {ok : AdminPool → AdminEvent → Prop} {s t t' : AdminPool}
  {id : UserId} {e : AdminEvent}

theorem later_next (h : adminOutline.Holds t) (he : (admins ttl).next t e = some t') :
    t.shared.Later t'.shared := by
  cases e with
  | spawn request =>
    cases he
    exact .of_eq rfl rfl
  | run i r =>
    obtain ⟨pc, w, pc', -, hstep, rfl⟩ := Machine.next_run he
    exact (admin_move hstep).later
  | env e =>
    obtain ⟨w, hw, rfl⟩ := Machine.next_env he
    exact (warranted_env h.shared hw).2

theorem tokensWithin_of_reach (h : (admins ttl).Reach ok AdminPool.initial s) :
    s.shared.TokensWithin ttl := by
  refine Machine.Reach.invariant (I := fun s => s.shared.TokensWithin ttl) ?_ ?_ h
  · intro t ht
    cases ht
  · intro s e s' _ hs _ he
    cases e with
    | spawn request =>
      cases he
      exact hs
    | run i r =>
      obtain ⟨pc, w, pc', -, hstep, rfl⟩ := Machine.next_run he
      exact (admin_move hstep).tokensWithin hs
    | env e =>
      obtain ⟨w, hw, rfl⟩ := Machine.next_env he
      cases e with
      | seedAdmin email =>
        obtain ⟨found, -, rfl⟩ := Option.map_eq_some_iff.mp hw
        exact hs
      | tick now =>
        obtain ⟨hnow, rfl⟩ := tick_eq_some hw
        intro token htoken
        have hbound := hs token htoken
        exact Nat.le_trans hbound (Nat.add_le_add_right hnow ttl)

/-- **Each event leaves a user who is no admin without the role.** -/
theorem Fallen.next (hf : Fallen id deadline t) (h : adminOutline.Holds t)
    (he : (admins ttl).next t e = some t') (hmore : t.shared.GrantsNoMore t'.shared id) :
    Fallen id deadline t' := by
  cases e with
  | spawn request =>
    cases he
    refine ⟨hf.role, hf.token, ?_⟩
    intro pc hpc
    rcases List.mem_append.mp hpc with hpc | hpc
    · exact hf.procs pc hpc
    · rw [List.mem_singleton.mp hpc]
      exact .of_signing (signing_start t.shared request)
  | run i r =>
    obtain ⟨pc, w, pc', hpc, hstep, rfl⟩ := Machine.next_run he
    obtain ⟨hrole, htoken, hforgets⟩ := (admin_move hstep).fallen (h.at hpc) hf.role hf.token
      (hf.procs pc (List.mem_of_getElem? hpc)) hmore
    refine ⟨hrole, htoken, ?_⟩
    intro q hq
    rcases List.mem_or_eq_of_mem_set hq with hq | rfl
    · exact hf.procs q hq
    · exact hforgets
  | env e =>
    obtain ⟨w, hw, rfl⟩ := Machine.next_env he
    cases e with
    | seedAdmin email =>
      obtain ⟨found, -, rfl⟩ := Option.map_eq_some_iff.mp hw
      refine ⟨?_, hf.token, hf.procs⟩
      intro u' hu'
      rcases Collection.get_modify_cases hu' with ⟨hid, -⟩ | ⟨-, hu⟩
      · exfalso
        apply hmore.seeded
        rw [show ({ t.shared with
          users := t.shared.users.modify found.1 fun u => { u with role := .admin }
          isSuperAdmin := Function.update t.shared.isSuperAdmin found.1 true
          seeded := t.shared.seeded ++ [found.1] } : Admins).seeded =
            t.shared.seeded ++ [found.1] from rfl, List.drop_left, hid]
        exact List.mem_singleton_self _
      · exact hf.role u' hu
    | tick now =>
      obtain ⟨-, rfl⟩ := tick_eq_some hw
      exact ⟨hf.role, hf.token, hf.procs⟩

/-- What is not granted over two stretches is granted in neither. -/
theorem Admins.GrantsNoMore.split {s t t' : Admins} (hst : s.Later t) (htt' : t.Later t')
    (h : s.GrantsNoMore t' id) : s.GrantsNoMore t id ∧ t.GrantsNoMore t' id := by
  obtain ⟨⟨ids, hids⟩, more, hmore⟩ := hst
  obtain ⟨⟨ids', hids'⟩, more', hmore'⟩ := htt'
  obtain ⟨hseeded, hgrants⟩ := h
  rw [hids', hids, List.append_assoc, List.drop_left, List.mem_append, not_or] at hseeded
  rw [hmore', hmore, List.append_assoc, List.drop_left] at hgrants
  constructor
  · refine ⟨?_, ?_⟩
    · rw [hids, List.drop_left]
      exact hseeded.1
    · rw [hmore, List.drop_left]
      intro grant hgrant
      exact hgrants grant (List.mem_append_left _ hgrant)
  · refine ⟨?_, ?_⟩
    · rw [hids', List.drop_left]
      exact hseeded.2
    · rw [hmore', List.drop_left]
      intro grant hgrant
      exact hgrants grant (List.mem_append_right _ hgrant)

theorem fallen_of_reach (h : (admins ttl).Reach ok AdminPool.initial s)
    (hf : Fallen id deadline s) (hlater : (admins ttl).Reach ok s t) :
    s.shared.Later t.shared ∧ (s.shared.GrantsNoMore t.shared id → Fallen id deadline t) := by
  induction hlater with
  | start => exact ⟨.of_eq rfl rfl, fun _ => hf⟩
  | tail prior _ he ih =>
    have hholds := admins_sound (h.trans prior)
    have hnext := later_next hholds he
    obtain ⟨hlater, hfallen⟩ := ih
    refine ⟨⟨?_, ?_⟩, ?_⟩
    · obtain ⟨ids, hids⟩ := hlater.seeded
      obtain ⟨ids', hids'⟩ := hnext.seeded
      exact ⟨ids ++ ids', by rw [hids', hids, List.append_assoc]⟩
    · obtain ⟨more, hmore⟩ := hlater.grants
      obtain ⟨more', hmore'⟩ := hnext.grants
      exact ⟨more ++ more', by rw [hmore', hmore, List.append_assoc]⟩
    · intro hnone
      obtain ⟨hbefore, hstep⟩ := hnone.split hlater hnext
      exact (hfallen hbefore).next hholds he hstep

/-- **A lost role expires**: when a user is no admin and no sign-in still has the role in hand, then
until the role is granted again the user stays without it, and one lifetime later no admin route
lets the user in, whichever token is shown. -/
theorem lost_role_expires (h : (admins ttl).Reach ok AdminPool.initial s)
    (hrole : ∀ u, s.shared.users.get id = some u → u.role ≠ .admin)
    (hforgets : ∀ pc ∈ s.procs, pc.Forgets id) (hlater : (admins ttl).Reach ok s t)
    (hmore : s.shared.GrantsNoMore t.shared id) :
    (∀ u, t.shared.users.get id = some u → u.role ≠ .admin) ∧
      ∀ superAdmin rawToken token, t.shared.authorize [.admin] superAdmin rawToken = .ok token →
        token.sub = id → t.shared.clock < s.shared.clock + ttl := by
  have hfallen : Fallen id (s.shared.clock + ttl) s :=
    ⟨hrole, fun token htoken _ _ => tokensWithin_of_reach h token htoken, hforgets⟩
  have hlast := (fallen_of_reach h hfallen hlater).2 hmore
  refine ⟨hlast.role, ?_⟩
  intro superAdmin rawToken token hauth hsub
  obtain ⟨hmem, hlive, hadmin, -⟩ := authorize_admin hauth
  have hdeadline := hlast.token token hmem hsub hadmin
  exact Nat.lt_of_lt_of_le hlive hdeadline

end Runs

/-! ## A second admin -/

/-- The second admin signs in and is demoted. -/
def demoted : List AdminEvent :=
  firstAdmin ++ [.spawn (.signIn 1)] ++ adminTurns [4, 4] ++
    [.spawn (.updateRole 2 1 .customer)] ++ adminTurns [5, 5]

theorem lost_role_expires_second : ∃ s : AdminPool,
    ({ s.shared with clock := 999 }.authorize [.admin] false 3 =
      .ok ⟨⟨1, .admin⟩, false, 1000⟩) ∧ 999 < s.shared.clock + 1000 := by
  have hrun : ((admins 1000).play (fun _ _ => true) AdminPool.initial demoted).any (fun s =>
      (decide (s.shared.clock = 0) && (s.shared.users.get 1).all fun u => u.role ≠ .admin) &&
        (s.procs.all (fun pc => pc.signing.isNone) &&
          decide (s.shared.accessTokens.get 3 = some ⟨⟨1, .admin⟩, false, 1000⟩))) = true := by
    decide +kernel
  obtain ⟨s, hreach, hs⟩ := Machine.exists_reach_of_play (fun _ _ h => h) demoted hrun
  simp only [Bool.and_eq_true, decide_eq_true_eq, List.all_eq_true, Option.all_eq_true,
    Option.isNone_iff_eq_none] at hs
  obtain ⟨⟨hclock, hrole⟩, hsigning, htoken⟩ := hs
  have hauth : { s.shared with clock := 999 }.authorize [.admin] false 3 =
      .ok ⟨⟨1, .admin⟩, false, 1000⟩ := by
    simp only [Admins.authorize, Admins.authenticate, htoken]
    rfl
  have htick : (admins 1000).next s (.env (.tick 999)) =
      some ⟨{ s.shared with clock := 999 }, s.procs⟩ := by
    show (envAdmins s.shared (.tick 999)).map _ = _
    rw [envAdmins, if_pos (hclock ▸ Nat.zero_le 999)]
    rfl
  refine ⟨s, hauth, ?_⟩
  exact (lost_role_expires hreach hrole (fun pc hpc => .of_signing (hsigning pc hpc))
    (.tail .start rfl htick) ⟨by simp, by simp⟩).2 false 3 _ hauth rfl

/-- A sign-in that has looked the admin up signs the lost role whenever it comes to it. -/
example : ((admins 1000).exec AdminPool.initial (firstAdmin ++ [.spawn (.signIn 1)] ++
    adminTurns [4] ++ [.spawn (.updateRole 2 1 .customer)] ++ adminTurns [5, 5] ++
      [.env (.tick 5000)] ++ adminTurns [4])).any (fun s =>
        decide (⟨⟨1, .admin⟩, false, 6000⟩ ∈ s.shared.accessTokens.docs)) = true := by
  decide +kernel

end FoodDelivery
