import Mathlib.Data.List.Basic
import Mathlib.Data.List.Infix
import Mathlib.Algebra.BigOperators.Group.List.Basic
import Mathlib.Tactic.Abel

/-!
# Interleaved processes over a shared store

A `Machine` says what one atomic action of a process does to a shared store; a
`Pool` is the store with the processes that have been started on it; an `Event`
starts a process, lets one process take its next action, or lets the
environment act.  Runs are sequences of events, in any order.

* `Reach ok s₀ s`: some run whose events all satisfy `ok` leads from `s₀` to `s`.
* `reach_of_play`: a concrete run that checks out is such a run.
* `Outline`: an invariant of the store, an assertion for each process and a
  relation between any two processes.  `Outline.holds_of_reach` is the
  interference-freedom rule: check each action against its own process and
  against any other one.
* `Duty`: whatever is due in the store has a process that bears it.
* `exec_good_iff`: when a condition on events keeps an invariant and its
  failure breaks the property at once, the condition is exact on every run.
-/

namespace Interleave

universe u v w x y z

variable {σ : Type u} {π : Type v} {κ : Type w} {ρ : Type x} {ε : Type y}

/-- Processes over a shared store.  `ρ` is what the outside answers to an
action, `κ` what a process is started with, `ε` what the environment does. -/
structure Machine (σ : Type u) (π : Type v) (κ : Type w) (ρ : Type x) (ε : Type y) where
  start : σ → κ → π
  step : σ → π → ρ → Option (σ × π)
  env : σ → ε → Option σ

/-- A shared store and the processes started on it. -/
structure Pool (σ : Type u) (π : Type v) where
  shared : σ
  procs : List π

inductive Event (κ : Type w) (ρ : Type x) (ε : Type y)
  | spawn (k : κ)
  | run (i : Nat) (r : ρ)
  | env (e : ε)

namespace Machine

variable (M : Machine σ π κ ρ ε)

/-- The effect of one event; `none` when it is not possible. -/
def next (s : Pool σ π) : Event κ ρ ε → Option (Pool σ π)
  | .spawn k => some ⟨s.shared, s.procs ++ [M.start s.shared k]⟩
  | .run i r =>
    match s.procs[i]? with
    | none => none
    | some p => (M.step s.shared p r).map fun o => ⟨o.1, s.procs.set i o.2⟩
  | .env e => (M.env s.shared e).map fun w => ⟨w, s.procs⟩

/-- The effect of a sequence of events. -/
def exec (s : Pool σ π) : List (Event κ ρ ε) → Option (Pool σ π)
  | [] => some s
  | e :: es => (M.next s e).bind fun s' => exec s' es

/-- The effect of a sequence of events that all satisfy `ok`. -/
def play (ok : Pool σ π → Event κ ρ ε → Bool) (s : Pool σ π) :
    List (Event κ ρ ε) → Option (Pool σ π)
  | [] => some s
  | e :: es => if ok s e then (M.next s e).bind fun s' => play ok s' es else none

/-- Reached from `s₀` by events that all satisfy `ok`. -/
inductive Reach (ok : Pool σ π → Event κ ρ ε → Prop) (s₀ : Pool σ π) : Pool σ π → Prop
  | start : Reach ok s₀ s₀
  | tail {s s' : Pool σ π} {e : Event κ ρ ε} (prior : Reach ok s₀ s) (he : ok s e)
      (hs : M.next s e = some s') : Reach ok s₀ s'

variable {M} {ok : Pool σ π → Event κ ρ ε → Prop} {s₀ s s' : Pool σ π}

theorem next_run {i : Nat} {r : ρ} (h : M.next s (.run i r) = some s') :
    ∃ p w p', s.procs[i]? = some p ∧ M.step s.shared p r = some (w, p') ∧
      s' = ⟨w, s.procs.set i p'⟩ := by
  simp only [next] at h
  split at h
  · cases h
  · rename_i p hp
    rw [Option.map_eq_some_iff] at h
    obtain ⟨⟨w, p'⟩, ho, rfl⟩ := h
    exact ⟨p, w, p', hp, ho, rfl⟩

theorem next_env {e : ε} (h : M.next s (.env e) = some s') :
    ∃ w, M.env s.shared e = some w ∧ s' = ⟨w, s.procs⟩ := by
  rw [next, Option.map_eq_some_iff] at h
  obtain ⟨w, hw, rfl⟩ := h
  exact ⟨w, hw, rfl⟩

/-- **Invariants of runs**: what holds at the start and is kept by every allowed
event, possibly using that the state before it is itself reached, always holds. -/
theorem Reach.invariant {I : Pool σ π → Prop} (h₀ : I s₀)
    (hstep : ∀ s e s', M.Reach ok s₀ s → I s → ok s e → M.next s e = some s' → I s') :
    ∀ {s}, M.Reach ok s₀ s → I s := by
  intro s h
  induction h with
  | start => exact h₀
  | tail prior he hs ih => exact hstep _ _ _ prior ih he hs

/-- A condition that holds of every event of a run holds along the run. -/
theorem Reach.imp {ok' : Pool σ π → Event κ ρ ε → Prop}
    (himp : ∀ s e, M.Reach ok s₀ s → ok s e → ok' s e) (h : M.Reach ok s₀ s) :
    M.Reach ok' s₀ s := by
  induction h with
  | start => exact .start
  | tail prior he hs ih => exact .tail ih (himp _ _ prior he) hs

theorem Reach.mono {ok' : Pool σ π → Event κ ρ ε → Prop}
    (himp : ∀ s e, ok s e → ok' s e) (h : M.Reach ok s₀ s) : M.Reach ok' s₀ s :=
  h.imp fun s e _ => himp s e

theorem Reach.trans {s₁ : Pool σ π} (h : M.Reach ok s₀ s₁) (g : M.Reach ok s₁ s) :
    M.Reach ok s₀ s := by
  induction g with
  | start => exact h
  | tail _ he hs ih => exact .tail ih he hs

theorem reach_of_play {okb : Pool σ π → Event κ ρ ε → Bool} (hok : ∀ s e, okb s e = true → ok s e) :
    ∀ {es : List (Event κ ρ ε)} {s₀ s : Pool σ π}, M.play okb s₀ es = some s →
      M.Reach ok s₀ s := by
  intro es
  induction es with
  | nil =>
    intro s₀ s h
    simp only [play, Option.some.injEq] at h
    exact h ▸ .start
  | cons e es ih =>
    intro s₀ s h
    rw [play] at h
    split at h
    · rename_i he
      rw [Option.bind_eq_some_iff] at h
      obtain ⟨s₁, h₁, h₂⟩ := h
      exact (Reach.tail .start (hok _ _ he) h₁).trans (ih h₂)
    · cases h

/-- Every event of a concrete run that checks out satisfies the condition. -/
theorem exec_of_play {okb : Pool σ π → Event κ ρ ε → Bool} :
    ∀ {es : List (Event κ ρ ε)} {s₀ s : Pool σ π}, M.play okb s₀ es = some s →
      M.exec s₀ es = some s ∧
        ∀ p e t, p ++ [e] <+: es → M.exec s₀ p = some t → okb t e = true := by
  intro es
  induction es with
  | nil =>
    intro s₀ s h
    exact ⟨h, fun p e t hp => by simp at hp⟩
  | cons a es ih =>
    intro s₀ s h
    rw [play] at h
    split at h
    · rename_i ha
      rw [Option.bind_eq_some_iff] at h
      obtain ⟨s₁, h₁, h₂⟩ := h
      obtain ⟨hexec, hall⟩ := ih h₂
      refine ⟨by rw [exec, h₁]; exact hexec, fun p e t hp ht => ?_⟩
      cases p with
      | nil =>
        rw [exec, Option.some.injEq] at ht
        have he : e = a := by simpa using hp
        exact ht ▸ he ▸ ha
      | cons b p =>
        obtain ⟨rfl, hp'⟩ := List.cons_prefix_cons.mp hp
        rw [exec, h₁] at ht
        exact hall p e t hp' ht
    · cases h

/-- A concrete run that checks out and ends as wanted. -/
theorem exists_exec_of_play {okb : Pool σ π → Event κ ρ ε → Bool} {P : Pool σ π → Bool}
    (es : List (Event κ ρ ε)) (h : (M.play okb s₀ es).any P = true) :
    ∃ s, M.exec s₀ es = some s ∧
      (∀ p e t, p ++ [e] <+: es → M.exec s₀ p = some t → okb t e = true) ∧ P s = true := by
  rw [Option.any_eq_true] at h
  obtain ⟨s, hs, hp⟩ := h
  exact ⟨s, (exec_of_play hs).1, (exec_of_play hs).2, hp⟩

/-- A concrete run that checks out and ends as wanted. -/
theorem exists_reach_of_play {okb : Pool σ π → Event κ ρ ε → Bool}
    (hok : ∀ s e, okb s e = true → ok s e) {P : Pool σ π → Bool} (es : List (Event κ ρ ε))
    (h : (M.play okb s₀ es).any P = true) : ∃ s, M.Reach ok s₀ s ∧ P s = true := by
  rw [Option.any_eq_true] at h
  obtain ⟨s, hs, hp⟩ := h
  exact ⟨s, reach_of_play hok hs, hp⟩

end Machine

/-! ## Proof outlines -/

/-- An invariant of the store, an assertion for each process, and a symmetric
relation between any two of the processes. -/
structure Outline (σ : Type u) (π : Type v) where
  shared : σ → Prop
  proc : σ → π → Prop
  compat : π → π → Prop
  symm : ∀ p q, compat p q → compat q p

namespace Outline

variable (O : Outline σ π) (M : Machine σ π κ ρ ε) {ok : Pool σ π → Event κ ρ ε → Prop}
  {s₀ s s' : Pool σ π}

/-- The outline is valid in a pool. -/
structure Holds (s : Pool σ π) : Prop where
  shared : O.shared s.shared
  procs : ∀ p ∈ s.procs, O.proc s.shared p
  compat : ∀ (i j : Nat) (p q : π), i ≠ j → s.procs[i]? = some p → s.procs[j]? = some q →
    O.compat p q

/-- Each kind of event keeps the outline; `base` is what is known of the states
runs go through. -/
structure Kept (ok : Pool σ π → Event κ ρ ε → Prop) (base : Pool σ π → Prop) : Prop where
  spawn : ∀ s k, base s → ok s (.spawn k) → O.Holds s →
    O.proc s.shared (M.start s.shared k) ∧ ∀ q ∈ s.procs, O.compat (M.start s.shared k) q
  run : ∀ (s : Pool σ π) (i : Nat) (r : ρ) (p : π) (w : σ) (p' : π), base s →
    ok s (.run i r) → O.Holds s → s.procs[i]? = some p →
    M.step s.shared p r = some (w, p') →
    O.shared w ∧ O.proc w p' ∧ ∀ (j : Nat) (q : π), i ≠ j → s.procs[j]? = some q →
      O.proc s.shared q → O.compat p q → O.proc w q ∧ O.compat p' q
  env : ∀ s e w, base s → ok s (.env e) → O.Holds s → M.env s.shared e = some w →
    O.shared w ∧ ∀ q ∈ s.procs, O.proc w q

variable {O M} {base : Pool σ π → Prop}

theorem Holds.at (h : O.Holds s) {i : Nat} {p : π} (hp : s.procs[i]? = some p) :
    O.proc s.shared p := h.procs p (List.mem_of_getElem? hp)

theorem Holds.spawn (h : O.Holds s) {p : π} (hp : O.proc s.shared p)
    (hc : ∀ q ∈ s.procs, O.compat p q) : O.Holds ⟨s.shared, s.procs ++ [p]⟩ := by
  refine ⟨h.shared, ?_, ?_⟩
  · intro q hq
    rcases List.mem_append.mp hq with hq | hq
    · exact h.procs q hq
    · rw [List.mem_singleton.mp hq]
      exact hp
  · intro i j a b hij ha hb
    simp only [List.getElem?_append] at ha hb
    split at ha <;> split at hb
    · exact h.compat i j a b hij ha hb
    · have hbp : b = p := by simpa using List.mem_of_getElem? hb
      exact hbp ▸ O.symm _ _ (hc a (List.mem_of_getElem? ha))
    · have hap : a = p := by simpa using List.mem_of_getElem? ha
      exact hap ▸ hc b (List.mem_of_getElem? hb)
    · exfalso
      have := (List.getElem?_eq_some_iff.mp ha).1
      have := (List.getElem?_eq_some_iff.mp hb).1
      simp only [List.length_singleton] at *
      omega

theorem Holds.run (h : O.Holds s) {i : Nat} {p p' : π} {w : σ} (hp : s.procs[i]? = some p)
    (hw : O.shared w) (hp' : O.proc w p')
    (hq : ∀ (j : Nat) (q : π), i ≠ j → s.procs[j]? = some q → O.proc s.shared q →
      O.compat p q → O.proc w q ∧ O.compat p' q) :
    O.Holds ⟨w, s.procs.set i p'⟩ := by
  have others : ∀ j q, i ≠ j → s.procs[j]? = some q → O.proc w q ∧ O.compat p' q :=
    fun j q hij hjq => hq j q hij hjq (h.at hjq) (h.compat i j p q hij hp hjq)
  refine ⟨hw, ?_, ?_⟩
  · intro q hmem
    obtain ⟨j, hj⟩ := List.mem_iff_getElem?.mp hmem
    rw [List.getElem?_set] at hj
    by_cases hij : i = j
    · rw [if_pos hij] at hj
      split at hj
      · exact Option.some.inj hj ▸ hp'
      · cases hj
    · rw [if_neg hij] at hj
      exact (others j q hij hj).1
  · intro j k a b hjk ha hb
    rw [List.getElem?_set] at ha hb
    by_cases hij : i = j
    · have hik : i ≠ k := fun e => hjk (hij.symm.trans e)
      rw [if_pos hij] at ha
      rw [if_neg hik] at hb
      split at ha
      · exact Option.some.inj ha ▸ (others k b hik hb).2
      · cases ha
    · rw [if_neg hij] at ha
      by_cases hik : i = k
      · rw [if_pos hik] at hb
        split at hb
        · exact Option.some.inj hb ▸ O.symm _ _ (others j a hij ha).2
        · cases hb
      · rw [if_neg hik] at hb
        exact h.compat j k a b hjk ha hb

theorem Kept.mono {ok' : Pool σ π → Event κ ρ ε → Prop} (hk : O.Kept M ok base)
    (himp : ∀ s e, ok' s e → ok s e) : O.Kept M ok' base where
  spawn s k hb he := hk.spawn s k hb (himp _ _ he)
  run s i r p w p' hb he := hk.run s i r p w p' hb (himp _ _ he)
  env s e w hb he := hk.env s e w hb (himp _ _ he)

/-- One allowed event keeps a valid outline valid. -/
theorem Kept.next (hk : O.Kept M ok base) (hb : base s) (h : O.Holds s)
    {e : Event κ ρ ε} (he : ok s e) (hs : M.next s e = some s') : O.Holds s' := by
  cases e with
  | spawn k =>
    obtain ⟨hp, hc⟩ := hk.spawn s k hb he h
    simp only [Machine.next, Option.some.injEq] at hs
    exact hs ▸ h.spawn hp hc
  | run i r =>
    obtain ⟨p, w, p', hp, hstep, rfl⟩ := Machine.next_run hs
    obtain ⟨hw, hp', hq⟩ := hk.run s i r p w p' hb he h hp hstep
    exact h.run hp hw hp' hq
  | env a =>
    obtain ⟨w, hw, rfl⟩ := Machine.next_env hs
    obtain ⟨hshared, hprocs⟩ := hk.env s a w hb he h hw
    exact ⟨hshared, hprocs, h.compat⟩

/-- **Interference freedom**: an outline that every allowed event keeps is valid
in every reached pool. -/
theorem holds_of_reach (hk : O.Kept M ok base) (hbase : ∀ s, M.Reach ok s₀ s → base s)
    (h₀ : O.Holds s₀) : ∀ {s}, M.Reach ok s₀ s → O.Holds s :=
  Machine.Reach.invariant h₀ fun s _ _ prior h he hs => hk.next (hbase s prior) h he hs

theorem holds_nil {w : σ} (h : O.shared w) : O.Holds ⟨w, []⟩ :=
  ⟨h, by simp, by simp⟩

end Outline

/-! ## Duties -/

/-- Something due in the store, and which processes bear it. -/
structure Duty (σ : Type u) (π : Type v) (ι : Type z) where
  due : σ → ι → Prop
  bearer : π → ι → Prop

namespace Duty

variable {ι : Type z} (D : Duty σ π ι) {M : Machine σ π κ ρ ε}
  {ok : Pool σ π → Event κ ρ ε → Prop} {s₀ s : Pool σ π}

/-- Everything due has a process that bears it. -/
def Borne (s : Pool σ π) : Prop := ∀ x, D.due s.shared x → ∃ p ∈ s.procs, D.bearer p x

/-- Some process other than the `i`-th bears it. -/
def Elsewhere (s : Pool σ π) (i : Nat) (x : ι) : Prop :=
  ∃ j q, i ≠ j ∧ s.procs[j]? = some q ∧ D.bearer q x

/-- Each kind of event drops no duty: what is due after a process moves it bears
itself, or another one does. -/
structure Kept (M : Machine σ π κ ρ ε) (ok : Pool σ π → Event κ ρ ε → Prop)
    (base : Pool σ π → Prop) : Prop where
  run : ∀ (s : Pool σ π) (i : Nat) (r : ρ) (p : π) (w : σ) (p' : π), base s → D.Borne s →
    ok s (.run i r) → s.procs[i]? = some p → M.step s.shared p r = some (w, p') →
    ∀ x, D.due w x → D.bearer p' x ∨ D.Elsewhere s i x
  env : ∀ s e w, base s → ok s (.env e) → M.env s.shared e = some w →
    ∀ x, D.due w x → D.due s.shared x

variable {D} {base : Pool σ π → Prop}

/-- What is due and not borne by one process is borne by another. -/
theorem Borne.elsewhere (h : D.Borne s) {i : Nat} {p : π} {x : ι} (hp : s.procs[i]? = some p)
    (hdue : D.due s.shared x) (hnb : ¬ D.bearer p x) : D.Elsewhere s i x := by
  obtain ⟨q, hq, hbear⟩ := h x hdue
  obtain ⟨j, hj⟩ := List.mem_iff_getElem?.mp hq
  refine ⟨j, q, ?_, hj, hbear⟩
  rintro rfl
  rw [hp] at hj
  exact hnb (Option.some.inj hj ▸ hbear)

/-- One allowed event drops no duty. -/
theorem Kept.next (hk : D.Kept M ok base) (hb : base s) (h : D.Borne s) {e : Event κ ρ ε}
    {s' : Pool σ π} (he : ok s e) (hs : M.next s e = some s') : D.Borne s' := by
  intro x hx
  cases e with
  | spawn k =>
    simp only [Machine.next, Option.some.injEq] at hs
    subst hs
    obtain ⟨p, hp, hbear⟩ := h x hx
    exact ⟨p, List.mem_append_left _ hp, hbear⟩
  | run i r =>
    obtain ⟨p, w, p', hp, hstep, rfl⟩ := Machine.next_run hs
    have hi : i < s.procs.length := (List.getElem?_eq_some_iff.mp hp).1
    rcases hk.run s i r p w p' hb h he hp hstep x hx with hbear | ⟨j, q, hij, hj, hbear⟩
    · exact ⟨p', List.mem_set hi p', hbear⟩
    · exact ⟨q, List.mem_iff_getElem?.mpr ⟨j, by rw [List.getElem?_set_ne hij, hj]⟩, hbear⟩
  | env a =>
    obtain ⟨w, hw, rfl⟩ := Machine.next_env hs
    exact h x (hk.env s a w hb he hw x hx)

/-- **No duty is dropped** along a run. -/
theorem borne_of_reach (hk : D.Kept M ok base) (hbase : ∀ s, M.Reach ok s₀ s → base s)
    (h₀ : D.Borne s₀) : ∀ {s}, M.Reach ok s₀ s → D.Borne s :=
  Machine.Reach.invariant h₀ fun s _ _ prior h he hs => hk.next (hbase s prior) h he hs

end Duty

/-! ## What processes have done -/

/-- What some process has done stays done when a process goes on that keeps what it has done. -/
theorem exists_mem_set {Q : π → Prop} {ps : List π} {i : Nat} {p p' : π} (hp : ps[i]? = some p)
    (hkeep : Q p → Q p') (h : ∃ q ∈ ps, Q q) : ∃ q ∈ ps.set i p', Q q := by
  obtain ⟨q, hq, hdone⟩ := h
  obtain ⟨j, hj⟩ := List.mem_iff_getElem?.mp hq
  have hi : i < ps.length := (List.getElem?_eq_some_iff.mp hp).1
  by_cases hij : i = j
  · subst hij
    rw [hp, Option.some.injEq] at hj
    exact ⟨p', List.mem_set hi p', hkeep (hj ▸ hdone)⟩
  · exact ⟨q, List.mem_iff_getElem?.mpr ⟨j, by rw [List.getElem?_set_ne hij, hj]⟩, hdone⟩

/-! ## Sums over the processes -/

/-- Replacing one process changes a sum over all of them by the difference. -/
theorem sum_map_set {G : Type*} [AddCommGroup G] (f : π → G) :
    ∀ {ps : List π} {i : Nat} {p : π} (p' : π), ps[i]? = some p →
      ((ps.set i p').map f).sum = (ps.map f).sum - f p + f p' := by
  intro ps
  induction ps with
  | nil => intro i p p' h; simp at h
  | cons q ps ih =>
    intro i p p' h
    cases i with
    | zero =>
      simp only [List.getElem?_cons_zero, Option.some.injEq] at h
      subst h
      simp only [List.set_cons_zero, List.map_cons, List.sum_cons]
      abel
    | succ i =>
      rw [List.getElem?_cons_succ] at h
      simp only [List.set_cons_succ, List.map_cons, List.sum_cons, ih p' h]
      abel

/-- Replacing one process changes a count of them by that process. -/
theorem countP_set {f : π → Bool} {ps : List π} {i : Nat} {p : π} (p' : π)
    (h : ps[i]? = some p) :
    (ps.set i p').countP f + (f p).toNat = ps.countP f + (f p').toNat := by
  obtain ⟨hi, hp⟩ := List.getElem?_eq_some_iff.mp h
  have hpos : f p = true → 0 < ps.countP f := fun hf =>
    List.countP_pos_iff.mpr ⟨p, List.mem_of_getElem? h, hf⟩
  rw [List.countP_set hi, hp]
  cases hf : f p with
  | false => cases f p' <;> simp
  | true =>
    have := hpos hf
    cases f p' <;> simp <;> omega

/-- What is counted by one of two others is no more than both count. -/
theorem countP_le_add {f g h : π → Bool} (hf : ∀ p, f p = true → g p = true ∨ h p = true)
    (ps : List π) : ps.countP f ≤ ps.countP g + ps.countP h := by
  induction ps with
  | nil => exact Nat.zero_le _
  | cons p ps ih =>
    simp only [List.countP_cons]
    cases hp : f p with
    | false =>
      simp only [Bool.false_eq_true, if_false]
      omega
    | true =>
      rcases hf p hp with hg | hh
      · simp only [hg, if_true]
        omega
      · simp only [hh, if_true]
        omega

/-! ## Exact conditions on runs -/

namespace Machine

variable {M : Machine σ π κ ρ ε} {I G : Pool σ π → Prop}
  {C : Pool σ π → Event κ ρ ε → Prop}

/-- **An exact condition**: the property holds all along a run if and only if
every event of the run meets the condition. -/
theorem exec_good_iff (hgood : ∀ s, I s → G s)
    (hkeep : ∀ s e s', I s → C s e → M.next s e = some s' → I s')
    (hbreak : ∀ s e s', I s → ¬ C s e → M.next s e = some s' → ¬ G s') :
    ∀ (es : List (Event κ ρ ε)) (s₀ s : Pool σ π), I s₀ → M.exec s₀ es = some s →
      ((∀ p t, p <+: es → M.exec s₀ p = some t → G t) ↔
        ∀ p e t, p ++ [e] <+: es → M.exec s₀ p = some t → C t e) := by
  intro es
  induction es with
  | nil =>
    intro s₀ s h₀ _
    refine ⟨fun _ p e t hp => by simp at hp, fun _ p t hp ht => ?_⟩
    rw [List.prefix_nil.mp hp, exec, Option.some.injEq] at ht
    exact ht ▸ hgood _ h₀
  | cons e es ih =>
    intro s₀ s h₀ hs
    rw [exec, Option.bind_eq_some_iff] at hs
    obtain ⟨s₁, h₁, hrest⟩ := hs
    constructor
    · intro hall p a t hp ht
      have hc : C s₀ e := by
        by_contra hn
        refine hbreak _ _ _ h₀ hn h₁ (hall [e] s₁ ⟨es, rfl⟩ ?_)
        rw [exec, h₁]
        rfl
      cases p with
      | nil =>
        rw [exec, Option.some.injEq] at ht
        have ha : a = e := by simpa using hp
        exact ht ▸ ha ▸ hc
      | cons b p =>
        obtain ⟨rfl, hp'⟩ := List.cons_prefix_cons.mp hp
        rw [exec, h₁] at ht
        refine (ih s₁ s (hkeep _ _ _ h₀ hc h₁) hrest).mp ?_ p a t hp' ht
        intro q u hq hu
        refine hall (b :: q) u (List.cons_prefix_cons.mpr ⟨rfl, hq⟩) ?_
        rw [exec, h₁]
        exact hu
    · intro hall p t hp ht
      cases p with
      | nil =>
        rw [exec, Option.some.injEq] at ht
        exact ht ▸ hgood _ h₀
      | cons b p =>
        obtain ⟨rfl, hp'⟩ := List.cons_prefix_cons.mp hp
        have hc : C s₀ b := hall [] b s₀ ⟨es, rfl⟩ rfl
        rw [exec, h₁] at ht
        refine (ih s₁ s (hkeep _ _ _ h₀ hc h₁) hrest).mpr ?_ p t hp' ht
        intro q a u hq hu
        refine hall (b :: q) a u (List.cons_prefix_cons.mpr ⟨rfl, hq⟩) ?_
        rw [exec, h₁]
        exact hu

end Machine

end Interleave
