import FoodDelivery.Auth.Sessions

/-!
# Rotation of refresh tokens

`refresh` finds a token, issues the next one and only then saves `revokedAt` on the token it found.
A second call with the same token in between finds it valid too.

* `rotation`: the families of tokens, and what a call knows of the token it has looked up.
* `pending`: a token that has been redeemed and not been revoked is about to be saved.
* `rotation_sound`: single use, one token for each session, and the detection of reuse.
* `redeemed_twice`: two calls side by side redeem one token for two.
-/

namespace FoodDelivery

open Store Interleave SessionPc

namespace Sessions

/-- A token has been issued for this one. -/
def redeemed (s : Sessions) (raw : RefreshTokenId) : Bool :=
  s.refreshTokens.docs.any fun t => t.parent = some raw

/-- A token is redeemed for one token at most. -/
def RedeemedOnce (s : Sessions) : Prop :=
  ∀ i j a b raw, s.refreshTokens.get i = some a → s.refreshTokens.get j = some b →
    a.parent = some raw → b.parent = some raw → i = j

/-- No two tokens of one login are unrevoked. -/
def OneUnrevoked (s : Sessions) : Prop :=
  ∀ i j a b, s.refreshTokens.get i = some a → s.refreshTokens.get j = some b → a.root = b.root →
    a.revokedAt = none → b.revokedAt = none → i = j

end Sessions

/-- No token is found valid while another call has it in hand, and no token comes back that was
redeemed and has since expired. -/
def TakesTurns (s : SessionPool) : SessionEvent → Bool
  | .run i r =>
    match s.procs[i]? with
    | some (.refreshFind raw) =>
      (s.shared.refreshTokens.get raw).all fun stored =>
        if stored.expiresAt < r.now then !s.shared.redeemed raw
        else stored.revokedAt.isSome || s.procs.all fun q => q.holds ≠ some raw
    | _ => true
  | _ => true

/-- What rotation promises of a pool, where the next events are `ok`. -/
structure Rotates (cfg : AuthConfig) (ok : SessionPool → SessionEvent → Prop) (s : SessionPool) :
    Prop where
  once : s.shared.RedeemedOnce
  single : (∀ pc ∈ s.procs, pc.isOver = true) → s.shared.OneUnrevoked
  caught : ∀ i r raw stored, s.procs[i]? = some (.refreshFind raw) → ok s (.run i r) →
    s.shared.refreshTokens.get raw = some stored → s.shared.redeemed raw = true →
    (sessions cfg).next s (.run i r) =
      some ⟨s.shared, s.procs.set i (.revokeFamily stored.userId)⟩
  revoked : ∀ i r userId, s.procs[i]? = some (.revokeFamily userId) →
    ∃ s', (sessions cfg).next s (.run i r) = some s' ∧
      ∀ j t, s'.shared.refreshTokens.get j = some t → t.userId = userId → t.revokedAt ≠ none

section Families

variable {cfg : AuthConfig} {s s' : Sessions} {raw : RefreshTokenId} {stored t : RefreshToken}
  {now : Time}

theorem redeemed_iff : s.redeemed raw = true ↔
    ∃ i t, s.refreshTokens.get i = some t ∧ t.parent = some raw := by
  rw [Sessions.redeemed, List.any_eq_true]
  constructor
  · rintro ⟨t, hmem, ht⟩
    obtain ⟨i, hi⟩ := List.mem_iff_getElem?.mp hmem
    exact ⟨i, t, hi, of_decide_eq_true ht⟩
  · rintro ⟨i, t, ht, hparent⟩
    exact ⟨t, List.mem_of_getElem? ht, decide_eq_true hparent⟩

/-- The tokens that go back to one login are a chain: each is redeemed once, and one is not. -/
structure Families (s : Sessions) : Prop where
  parents : ∀ i t raw, s.refreshTokens.get i = some t → t.parent = some raw →
    raw < s.refreshTokens.nextId
  roots : ∀ i t, s.refreshTokens.get i = some t → t.root < s.refreshTokens.nextId
  once : s.RedeemedOnce
  leaf : ∀ i j a b, s.refreshTokens.get i = some a → s.refreshTokens.get j = some b →
    a.root = b.root → s.redeemed i = false → s.redeemed j = false → i = j

/-- What a call knows of the token it is about to redeem. -/
structure Unspent (s : Sessions) (raw : RefreshTokenId) (stored : RefreshToken) : Prop where
  found : ∃ t, s.refreshTokens.get raw = some t ∧ t.root = stored.root
  unredeemed : s.redeemed raw = false

/-! ### Tokens that are revoked -/

theorem Sessions.Rewrites.target (h : s.Rewrites s') {i : RefreshTokenId}
    (ht : s.refreshTokens.get i = some t) : ∃ t', s'.refreshTokens.get i = some t' ∧
      t'.parent = t.parent ∧ t'.root = t.root := by
  have hlt := Collection.lt_nextId_of_get ht
  rw [← h.nextId] at hlt
  obtain ⟨t', ht'⟩ := Collection.exists_get_of_lt hlt
  obtain ⟨t₀, ht₀, _, hparent, hroot, _⟩ := h.origin i t' ht'
  obtain rfl := Option.some.inj (ht.symm.trans ht₀)
  exact ⟨t', ht', hparent, hroot⟩

theorem Sessions.Rewrites.redeemed (h : s.Rewrites s') (raw : RefreshTokenId) :
    s'.redeemed raw = s.redeemed raw := by
  rw [Bool.eq_iff_iff, redeemed_iff, redeemed_iff]
  constructor
  · rintro ⟨i, t', ht', hparent⟩
    obtain ⟨t, ht, _, hp, _⟩ := h.origin i t' ht'
    exact ⟨i, t, ht, hp.symm.trans hparent⟩
  · rintro ⟨i, t, ht, hparent⟩
    obtain ⟨t', ht', hp, _⟩ := h.target ht
    exact ⟨i, t', ht', hp.trans hparent⟩

theorem Families.rewrites (hf : Families s) (h : s.Rewrites s') : Families s' where
  parents i t' raw ht' hparent := by
    obtain ⟨t, ht, _, hp, _⟩ := h.origin i t' ht'
    rw [h.nextId]
    exact hf.parents i t raw ht (hp.symm.trans hparent)
  roots i t' ht' := by
    obtain ⟨t, ht, _, _, hr, _⟩ := h.origin i t' ht'
    rw [h.nextId, hr]
    exact hf.roots i t ht
  once i j a' b' raw ha' hb' hpa hpb := by
    obtain ⟨a, ha, _, hpa', _⟩ := h.origin i a' ha'
    obtain ⟨b, hb, _, hpb', _⟩ := h.origin j b' hb'
    exact hf.once i j a b raw ha hb (hpa'.symm.trans hpa) (hpb'.symm.trans hpb)
  leaf i j a' b' ha' hb' hroot hi hj := by
    obtain ⟨a, ha, _, _, hra, _⟩ := h.origin i a' ha'
    obtain ⟨b, hb, _, _, hrb, _⟩ := h.origin j b' hb'
    rw [h.redeemed] at hi hj
    exact hf.leaf i j a b ha hb (hra.symm.trans (hroot.trans hrb)) hi hj

theorem Unspent.rewrites (hu : Unspent s raw stored) (h : s.Rewrites s') :
    Unspent s' raw stored := by
  obtain ⟨t, ht, hroot⟩ := hu.found
  obtain ⟨t', ht', _, hr⟩ := h.target ht
  exact ⟨⟨t', ht', hr.trans hroot⟩, (h.redeemed raw).trans hu.unredeemed⟩

/-! ### A token that is issued -/

theorem redeemed_insertToken : (s.insertToken t).redeemed raw =
    (s.redeemed raw || decide (t.parent = some raw)) := by
  rw [Sessions.redeemed, Sessions.insertToken, Collection.create, List.any_append]
  simp [Sessions.redeemed]

theorem unredeemed_of_insertToken (h : (s.insertToken t).redeemed raw = false) :
    s.redeemed raw = false ∧ t.parent ≠ some raw := by
  rw [redeemed_insertToken, Bool.or_eq_false_iff, decide_eq_false_iff_not] at h
  exact h

theorem Unspent.insertToken (hu : Unspent s raw stored) (h : t.parent ≠ some raw) :
    Unspent (s.insertToken t) raw stored := by
  obtain ⟨t₀, ht₀, hroot⟩ := hu.found
  refine ⟨⟨t₀, Collection.get_create_of_get ht₀, hroot⟩, ?_⟩
  rw [redeemed_insertToken, hu.unredeemed, decide_eq_false h]
  rfl

/-- A token that is the one of its family not redeemed, and the only one for its parent. -/
theorem Families.insertToken (hf : Families s)
    (hparent : ∀ p, t.parent = some p → p < s.refreshTokens.nextId ∧ s.redeemed p = false)
    (hroot : t.root ≤ s.refreshTokens.nextId)
    (hlast : ∀ i a, s.refreshTokens.get i = some a → a.root = t.root →
      (s.insertToken t).redeemed i ≠ false) : Families (s.insertToken t) where
  parents i a p ha hp := by
    rcases Collection.get_create_cases ha with ⟨_, rfl⟩ | ⟨_, hold⟩
    · exact Nat.lt_trans (hparent p hp).1 (by simp [Sessions.insertToken])
    · exact Nat.lt_trans (hf.parents i a p hold hp) (by simp [Sessions.insertToken])
  roots i a ha := by
    rcases Collection.get_create_cases ha with ⟨_, rfl⟩ | ⟨_, hold⟩
    · exact Nat.lt_of_le_of_lt hroot (by simp [Sessions.insertToken])
    · exact Nat.lt_trans (hf.roots i a hold) (by simp [Sessions.insertToken])
  once i j a b p ha hb hpa hpb := by
    have hfresh : ∀ {i : RefreshTokenId} {a : RefreshToken}, s.refreshTokens.get i = some a →
        t.parent = some p → a.parent ≠ some p := by
      intro i a ha ht hp
      cases (hparent p ht).2.symm.trans (redeemed_iff.mpr ⟨i, a, ha, hp⟩)
    rcases Collection.get_create_cases ha with ⟨rfl, rfl⟩ | ⟨_, ha₀⟩
    · rcases Collection.get_create_cases hb with ⟨rfl, _⟩ | ⟨_, hb₀⟩
      · rfl
      · exact absurd hpb (hfresh hb₀ hpa)
    · rcases Collection.get_create_cases hb with ⟨_, rfl⟩ | ⟨_, hb₀⟩
      · exact absurd hpa (hfresh ha₀ hpb)
      · exact hf.once i j a b p ha₀ hb₀ hpa hpb
  leaf i j a b ha hb hab hi hj := by
    rcases Collection.get_create_cases ha with ⟨rfl, rfl⟩ | ⟨_, ha₀⟩
    · rcases Collection.get_create_cases hb with ⟨rfl, _⟩ | ⟨_, hb₀⟩
      · rfl
      · exact absurd hj (hlast j b hb₀ hab.symm)
    · rcases Collection.get_create_cases hb with ⟨_, rfl⟩ | ⟨_, hb₀⟩
      · exact absurd hi (hlast i a ha₀ hab)
      · exact hf.leaf i j a b ha₀ hb₀ hab (unredeemed_of_insertToken hi).1
          (unredeemed_of_insertToken hj).1

/-- A login starts a family. -/
theorem Families.login (hf : Families s) {userId : UserId} {ticket : Nat} :
    Families (s.insertToken (s.loginToken cfg now userId ticket)) := by
  refine hf.insertToken (by rintro _ ⟨⟩) (Nat.le_refl _) fun i a ha hroot _ => ?_
  exact absurd hroot (Nat.ne_of_lt (hf.roots i a ha))

/-- **A token that is unspent is redeemed for the next of its family.** -/
theorem Families.redeem (hf : Families s) (hu : Unspent s raw stored) :
    Families (s.insertToken (Sessions.childToken cfg now raw stored)) := by
  obtain ⟨t₀, ht₀, hroot₀⟩ := hu.found
  refine hf.insertToken (fun p hp => ?_) (Nat.le_of_lt (hroot₀ ▸ hf.roots raw t₀ ht₀))
    fun i a ha hroot hi => ?_
  · obtain rfl := Option.some.inj hp
    exact ⟨Collection.lt_nextId_of_get ht₀, hu.unredeemed⟩
  · -- the one token of the family that was not redeemed is the parent
    obtain ⟨hi₀, hparent⟩ := unredeemed_of_insertToken hi
    obtain rfl := hf.leaf i raw a t₀ ha ht₀ (hroot.trans hroot₀.symm) hi₀ hu.unredeemed
    exact hparent rfl

end Families

section Runs

variable {cfg : AuthConfig} {s s' : SessionPool} {w w' : Sessions} {pc pc' : SessionPc}
  {r : SessionReply} {raw : RefreshTokenId} {stored : RefreshToken}

/-- The families, and the calls that have a token in hand, no two of them the same one. -/
def rotation : Outline Sessions SessionPc where
  shared := Families
  proc s pc := ∀ raw stored, pc.redeeming = some (raw, stored) → Unspent s raw stored
  compat p q := ∀ raw, p.holds = some raw → q.holds ≠ some raw
  symm _ _ h raw hq hp := h raw hp hq

/-- A redeemed token that is not revoked yet is about to be saved. -/
def pending : Duty Sessions SessionPc RefreshTokenId where
  due s raw := s.redeemed raw = true ∧
    ∃ t, s.refreshTokens.get raw = some t ∧ t.revokedAt = none
  bearer pc raw := ∃ child, pc = .refreshSave raw child

theorem holds_of_redeeming (h : pc.redeeming = some (raw, stored)) : pc.holds = some raw := by
  cases pc <;> cases h <;> rfl

theorem redeeming_of_holds (h : pc.holds = none) : pc.redeeming = none := by
  cases pc <;> first | rfl | cases h

/-- **A token that is found valid, and that no call has in hand, is unspent.** -/
theorem unspent_of_valid (hb : pending.Borne s)
    (hget : s.shared.refreshTokens.get raw = some stored) (hvalid : stored.revokedAt = none)
    (hfree : ∀ q ∈ s.procs, q.holds ≠ some raw) : Unspent s.shared raw stored := by
  refine ⟨⟨stored, hget, rfl⟩, ?_⟩
  by_contra hredeemed
  rw [Bool.not_eq_false] at hredeemed
  obtain ⟨q, hq, child, rfl⟩ := hb raw ⟨hredeemed, stored, hget, hvalid⟩
  exact hfree _ hq rfl

/-- What a look-up in turn knows. -/
theorem free_of_takesTurns {i : Nat} (h : TakesTurns s (.run i r) = true)
    (hp : s.procs[i]? = some (.refreshFind raw))
    (hget : s.shared.refreshTokens.get raw = some stored) (hlive : ¬ stored.expiresAt < r.now)
    (hvalid : stored.revokedAt = none) : ∀ q ∈ s.procs, q.holds ≠ some raw := by
  simp only [TakesTurns, hp, hget, Option.all_some, if_neg hlive, hvalid, Option.isSome_none,
    Bool.false_or, List.all_eq_true, decide_eq_true_eq] at h
  exact h

theorem live_of_takesTurns {i : Nat} (h : TakesTurns s (.run i r) = true)
    (hp : s.procs[i]? = some (.refreshFind raw))
    (hget : s.shared.refreshTokens.get raw = some stored)
    (hredeemed : s.shared.redeemed raw = true) : ¬ stored.expiresAt < r.now := by
  intro hexpired
  simp only [TakesTurns, hp, hget, Option.all_some, if_pos hexpired, hredeemed, Bool.not_true] at h
  cases h

/-- A step that revokes at most, and leaves no token in hand. -/
theorem rotation_rewrites (h : rotation.Holds s) {i : Nat} (hw : s.shared.Rewrites w)
    (hpc : pc'.holds = none) : rotation.shared w ∧ rotation.proc w pc' ∧
      ∀ j q, i ≠ j → s.procs[j]? = some q → rotation.proc s.shared q → rotation.compat pc q →
        rotation.proc w q ∧ rotation.compat pc' q :=
  ⟨h.shared.rewrites hw,
    fun raw stored hr => (by cases (redeeming_of_holds hpc).symm.trans hr),
    fun _ _ _ _ hq _ => ⟨fun raw stored hr => (hq raw stored hr).rewrites hw,
      fun _ hh => by cases hpc.symm.trans hh⟩⟩

/-- **Calls that take turns keep the families.** -/
theorem rotation_kept (cfg : AuthConfig) :
    rotation.Kept (sessions cfg) (fun s e => TakesTurns s e = true) pending.Borne where
  spawn s k _ _ _ := by
    have hnone := (eq_none_of_quiet (quiet_start k)).1
    exact ⟨fun raw stored hr => (by cases (redeeming_of_holds hnone).symm.trans hr),
      fun q _ raw hh => by cases hnone.symm.trans hh⟩
  env s e w _ _ h hw := by
    have hsame := Sessions.Rewrites.of_eq (envSessions_tokens hw).1
    exact ⟨h.shared.rewrites hsame,
      fun q hq raw stored hr => (h.procs q hq raw stored hr).rewrites hsame⟩
  run s i r pc w pc' hborne hok h hp hstep := by
    cases session_move hstep with
    | found id => exact rotation_rewrites h (.of_eq rfl) rfl
    | opened userId ticket =>
      refine ⟨h.shared.login, fun _ _ hr => (by cases hr), fun j q _ _ hq _ =>
        ⟨fun raw stored hr => (hq raw stored hr).insertToken (by rintro ⟨⟩), ?_⟩⟩
      rintro raw ⟨⟩
    | @presented raw stored hget hlive hvalid =>
      have hfree := free_of_takesTurns hok hp hget hlive hvalid
      refine ⟨h.shared, fun raw' stored' hr => ?_, fun j q _ hj hq _ => ⟨hq, fun raw' hh => ?_⟩⟩
      · cases hr
        exact unspent_of_valid hborne hget hvalid hfree
      · cases hh
        exact hfree q (List.mem_of_getElem? hj)
    | reused userId => exact rotation_rewrites h (.of_eq rfl) rfl
    | family userId => exact rotation_rewrites h Sessions.rewrites_revokeAll rfl
    | @admitted raw stored user hget hactive =>
      refine ⟨h.shared, fun raw' stored' hr => ?_, fun j q _ _ hq hc => ⟨hq, hc⟩⟩
      cases hr
      exact h.at hp raw stored rfl
    | redeemed raw stored =>
      refine ⟨h.shared.redeem (h.at hp raw stored rfl), fun _ _ hr => (by cases hr),
        fun j q _ _ hq hc => ⟨fun raw' stored' hr => ?_, hc⟩⟩
      -- another call that redeems this token would have it in hand as well
      refine (hq raw' stored' hr).insertToken fun hparent => ?_
      obtain rfl := Option.some.inj hparent
      exact hc raw rfl (holds_of_redeeming hr)
    | saved raw child => exact rotation_rewrites h Sessions.rewrites_save rfl
    | loggedOut raw => exact rotation_rewrites h Sessions.rewrites_logout rfl
    | wrote id => exact rotation_rewrites h (.of_eq rfl) rfl
    | swept userId write => exact rotation_rewrites h Sessions.rewrites_sweep rfl
    | other htokens _ _ hquiet =>
      exact rotation_rewrites h (.of_eq htokens) (eq_none_of_quiet hquiet).1

/-! ### The save is never forgotten -/

/-- A token that is issued is not redeemed, and leaves the others as they were. -/
theorem due_of_insertToken (h : Families w) {t : RefreshToken}
    (hdue : pending.due (w.insertToken t) raw) : t.parent = some raw ∨ pending.due w raw := by
  obtain ⟨hredeemed, t', ht', hnone⟩ := hdue
  rw [redeemed_insertToken, Bool.or_eq_true, decide_eq_true_eq] at hredeemed
  refine hredeemed.symm.imp_right fun hr => ⟨hr, ?_⟩
  rcases Collection.get_create_cases ht' with ⟨rfl, _⟩ | ⟨_, hold⟩
  · obtain ⟨i, a, ha, hparent⟩ := redeemed_iff.mp hr
    exact absurd (h.parents i a _ ha hparent) (Nat.lt_irrefl _)
  · exact ⟨t', hold, hnone⟩

/-- What is due after a revocation was due before. -/
theorem due_of_rewrites (hw : w.Rewrites w') (hdue : pending.due w' raw) : pending.due w raw := by
  obtain ⟨hredeemed, t', ht', hnone⟩ := hdue
  obtain ⟨t, ht, _, _, _, _, hback⟩ := hw.origin raw t' ht'
  exact ⟨(hw.redeemed raw).symm.trans hredeemed, t, ht, hback hnone⟩

/-- **A call that has redeemed a token goes on to save it.** -/
theorem pending_kept (cfg : AuthConfig) :
    pending.Kept (sessions cfg) (fun _ _ => True) rotation.Holds where
  run s i r pc w pc' h hb _ hp hstep raw hdue := by
    have hs : sessionStep cfg s.shared pc r = some (w, pc') := hstep
    rcases (session_move hs).tokens with hw | ⟨userId, ticket, rfl, rfl⟩ |
      ⟨raw₀, stored, rfl, rfl, rfl⟩
    · refine Or.inr (hb.elsewhere hp (due_of_rewrites hw hdue) ?_)
      rintro ⟨child, rfl⟩
      obtain ⟨_, t', ht', hnone⟩ := hdue
      exact revoked_of_save hs ht' hnone
    · rcases due_of_insertToken h.shared hdue with hparent | hold
      · cases hparent
      · exact Or.inr (hb.elsewhere hp hold (by rintro ⟨_, ⟨⟩⟩))
    · rcases due_of_insertToken h.shared hdue with hparent | hold
      · obtain rfl := Option.some.inj hparent
        exact Or.inl ⟨_, rfl⟩
      · exact Or.inr (hb.elsewhere hp hold (by rintro ⟨_, ⟨⟩⟩))
  env s e w _ _ hw raw hdue := due_of_rewrites (.of_eq (envSessions_tokens hw).1) hdue

/-! ### What rotation promises -/

theorem rotation_initial :
    rotation.Holds SessionPool.initial ∧ pending.Borne SessionPool.initial := by
  have hnone : ∀ i, SessionPool.initial.shared.refreshTokens.get i = none :=
    fun _ => Collection.get_empty
  refine ⟨Outline.holds_nil ⟨fun i t raw ht => ?_, fun i t ht => ?_, fun i j a b raw ha => ?_,
    fun i j a b ha => ?_⟩, fun raw hdue => ?_⟩
  · cases (hnone i).symm.trans ht
  · cases (hnone i).symm.trans ht
  · cases (hnone i).symm.trans ha
  · cases (hnone i).symm.trans ha
  · obtain ⟨_, t, ht, _⟩ := hdue
    cases (hnone raw).symm.trans ht

/-- In every run whose calls take turns. -/
theorem rotation_reach (h : (sessions cfg).Reach (fun s e => TakesTurns s e = true)
    SessionPool.initial s) : rotation.Holds s ∧ pending.Borne s := by
  refine Machine.Reach.invariant (I := fun s => rotation.Holds s ∧ pending.Borne s)
    rotation_initial (fun s e s' _ hinv he hs => ?_) h
  exact ⟨(rotation_kept cfg).next hinv.2 hinv.1 he hs,
    (pending_kept cfg).next hinv.1 hinv.2 trivial hs⟩

/-- Where every call is over, a token that is not revoked has not been redeemed. -/
theorem oneUnrevoked_of_over (h : rotation.Holds s) (hb : pending.Borne s)
    (hover : ∀ pc ∈ s.procs, pc.isOver = true) : s.shared.OneUnrevoked := by
  have hspent : ∀ i t, s.shared.refreshTokens.get i = some t → t.revokedAt = none →
      s.shared.redeemed i = false := by
    intro i t ht hnone
    by_contra hredeemed
    rw [Bool.not_eq_false] at hredeemed
    obtain ⟨q, hq, child, rfl⟩ := hb i ⟨hredeemed, t, ht, hnone⟩
    cases hover _ hq
  intro i j a b ha hb' hroot hna hnb
  exact h.shared.leaf i j a b ha hb' hroot (hspent i a ha hna) (hspent j b hb' hnb)

/-- **A token that comes back after it was redeemed is caught.** -/
theorem caught_of_redeemed (hb : pending.Borne s) {i : Nat}
    (hp : s.procs[i]? = some (.refreshFind raw)) (hok : TakesTurns s (.run i r) = true)
    (hget : s.shared.refreshTokens.get raw = some stored)
    (hredeemed : s.shared.redeemed raw = true) :
    (sessions cfg).next s (.run i r) =
      some ⟨s.shared, s.procs.set i (.revokeFamily stored.userId)⟩ := by
  have hlive := live_of_takesTurns hok hp hget hredeemed
  have hrevoked : stored.revokedAt.isSome = true := by
    by_contra hnone
    rw [Bool.not_eq_true, Option.isSome_eq_false_iff, Option.isNone_iff_eq_none] at hnone
    obtain ⟨q, hq, child, rfl⟩ := hb raw ⟨hredeemed, stored, hget, hnone⟩
    exact free_of_takesTurns hok hp hget hlive hnone _ hq rfl
  have hfind : afterRefreshFind raw r.now (some stored) = .revokeFamily stored.userId := by
    rw [afterRefreshFind, if_neg hlive, if_pos hrevoked]
  simp only [Machine.next, hp, sessions, sessionStep, hget, hfind, Option.map_some]

/-- **Rotation is sound where the calls take turns**: for any number of logins, refreshes, logouts
and calls that revoke, in any order of their steps. -/
theorem rotation_sound (cfg : AuthConfig) {s : SessionPool}
    (h : (sessions cfg).Reach (fun s e => TakesTurns s e = true) SessionPool.initial s) :
    Rotates cfg (fun s e => TakesTurns s e = true) s := by
  obtain ⟨hholds, hborne⟩ := rotation_reach h
  refine ⟨hholds.shared.once, oneUnrevoked_of_over hholds hborne,
    fun i r raw stored hp hok hget hr => caught_of_redeemed hborne hp hok hget hr,
    fun i r userId hp => ?_⟩
  refine ⟨⟨s.shared.revokeAll userId r.now, s.procs.set i (.reuseDetected userId)⟩, ?_,
    fun j t ht hu => Sessions.revoked_of_revokeAll ht hu⟩
  simp only [Machine.next, hp, sessions, sessionStep, Option.map_some]

/-- A token is redeemed, comes back, and takes the new one with it. -/
def replayedRun : List SessionEvent :=
  loggedInRun ++ .spawn (.refresh 0) :: sessionTurns [1, 1, 1, 1] ++
    .spawn (.refresh 0) :: sessionTurns [2, 2]

theorem rotation_sound_replayed : ∃ s : SessionPool,
    (s.shared.refreshTokens.get 1).any (fun t : RefreshToken =>
      t.parent = some 0 && t.revokedAt.isSome) = true ∧
      Rotates plainAuth (fun s e => TakesTurns s e = true) s := by
  obtain ⟨s, hs, hp⟩ := exists_sessionRun TakesTurns
    (fun s => (s.shared.refreshTokens.get 1).any fun t : RefreshToken =>
      t.parent = some 0 && t.revokedAt.isSome) replayedRun (by decide +kernel)
  exact ⟨s, hp, rotation_sound plainAuth hs⟩

/-- Two calls bring the token of the login, and both look it up before either saves it. -/
def redeemedTwiceRun : List SessionEvent :=
  loggedInRun ++ [.spawn (.refresh 0), .spawn (.refresh 0)] ++
    sessionTurns [1, 2, 1, 2, 1, 2, 1, 2]

/-- **One token is redeemed for two**, and both stay valid. -/
theorem redeemed_twice :
    ¬ ∀ s, (sessions plainAuth).Reach (fun _ _ => True) SessionPool.initial s →
      Rotates plainAuth (fun _ _ => True) s := by
  intro hall
  obtain ⟨s, hs, hp⟩ := exists_sessionRun (fun _ _ => true)
    (fun s => (s.shared.refreshTokens.get 1).any (fun t : RefreshToken => t.parent = some 0) &&
      (s.shared.refreshTokens.get 2).any fun t : RefreshToken => t.parent = some 0)
    redeemedTwiceRun (by decide +kernel)
  rw [Bool.and_eq_true, Option.any_eq_true, Option.any_eq_true] at hp
  obtain ⟨⟨a, ha, hpa⟩, ⟨b, hb, hpb⟩⟩ := hp
  have hrotates := hall s (hs.mono fun _ _ _ => trivial)
  have hsame := hrotates.once 1 2 a b 0 ha hb (of_decide_eq_true hpa) (of_decide_eq_true hpb)
  cases hsame

end Runs

end FoodDelivery
