import Mathlib.Data.List.Basic

/-!
# One process among others

A run of a single process from one state to another.  Between its steps other
processes may change the store, as far as `rely` lets them.  The trace lists the
steps the process took, each with the state it was taken in and the answer it got.

* `Trace.invariant`: what the steps and the others keep holds all along.
* `Trace.intact_or_broken`: an invariant is kept as long as every step is sound, and
  one unsound step breaks it for good.
* `exists_trace_of_play`: a concrete run that checks out is such a run.
-/

namespace Interleave

universe u v w

variable {σ : Type u} {π : Type v} {ρ : Type w}

/-- A step that was taken: in which store, where the process stood, and what it was
answered. -/
structure Taken (σ : Type u) (π : Type v) (ρ : Type w) where
  store : σ
  pc : π
  reply : ρ

/-- The steps of one process, oldest first, and where they have led. -/
inductive Trace (step : σ → π → ρ → Option (σ × π)) (rely : σ → π → σ → Prop) (s₀ : σ) (p₀ : π) :
    List (Taken σ π ρ) → σ → π → Prop
  | start : Trace step rely s₀ p₀ [] s₀ p₀
  | act {tr : List (Taken σ π ρ)} {s s' : σ} {p p' : π} {r : ρ}
    (prior : Trace step rely s₀ p₀ tr s p) (hs : step s p r = some (s', p')) :
    Trace step rely s₀ p₀ (tr ++ [⟨s, p, r⟩]) s' p'
  | other {tr : List (Taken σ π ρ)} {s s' : σ} {p : π} (prior : Trace step rely s₀ p₀ tr s p)
    (hr : rely s p s') : Trace step rely s₀ p₀ tr s' p

namespace Trace

variable {step : σ → π → ρ → Option (σ × π)} {rely : σ → π → σ → Prop} {s₀ s : σ} {p₀ p : π}
  {tr : List (Taken σ π ρ)}

/-- **Invariants of traces**: what holds at the start and is kept by every step and by
the others holds all along. -/
theorem invariant {I : List (Taken σ π ρ) → σ → π → Prop} (h₀ : I [] s₀ p₀)
    (hact : ∀ tr s p r s' p', I tr s p → step s p r = some (s', p') →
      I (tr ++ [⟨s, p, r⟩]) s' p')
    (hother : ∀ tr s p s', I tr s p → rely s p s' → I tr s' p)
    (h : Trace step rely s₀ p₀ tr s p) : I tr s p := by
  induction h with
  | start => exact h₀
  | act prior hs ih => exact hact _ _ _ _ _ _ ih hs
  | other prior hr ih => exact hother _ _ _ _ ih hr

/-- **Sound steps keep an invariant, and one unsound step breaks it for good.** -/
theorem intact_or_broken {I B : σ → π → Prop} {S : Taken σ π ρ → Prop} (h₀ : I s₀ p₀)
    (hkeep : ∀ s p r s' p', I s p → step s p r = some (s', p') → S ⟨s, p, r⟩ → I s' p')
    (hbreak : ∀ s p r s' p', I s p → step s p r = some (s', p') → ¬ S ⟨s, p, r⟩ → B s' p')
    (hbroken : ∀ s p r s' p', B s p → step s p r = some (s', p') → B s' p')
    (hother : ∀ s p s', rely s p s' → (I s p → I s' p) ∧ (B s p → B s' p))
    (h : Trace step rely s₀ p₀ tr s p) :
    (I s p ∧ ∀ x ∈ tr, S x) ∨ (B s p ∧ ∃ x ∈ tr, ¬ S x) := by
  refine h.invariant (I := fun tr s p => (I s p ∧ ∀ x ∈ tr, S x) ∨
    (B s p ∧ ∃ x ∈ tr, ¬ S x)) (Or.inl ⟨h₀, fun x hx => absurd hx List.not_mem_nil⟩) ?_ ?_
  · rintro tr s p r s' p' (⟨hI, hall⟩ | ⟨hB, x, hx, hbad⟩) hs
    · by_cases hsound : S ⟨s, p, r⟩
      · refine Or.inl ⟨hkeep _ _ _ _ _ hI hs hsound, fun x hx => ?_⟩
        rcases List.mem_append.mp hx with hx | hx
        · exact hall x hx
        · exact List.mem_singleton.mp hx ▸ hsound
      · exact Or.inr ⟨hbreak _ _ _ _ _ hI hs hsound, _,
          List.mem_append_right _ (List.mem_singleton_self _), hsound⟩
    · exact Or.inr ⟨hbroken _ _ _ _ _ hB hs, x, List.mem_append_left _ hx, hbad⟩
  · rintro tr s p s' (⟨hI, hall⟩ | ⟨hB, hbad⟩) hr
    · exact Or.inl ⟨(hother _ _ _ hr).1 hI, hall⟩
    · exact Or.inr ⟨(hother _ _ _ hr).2 hB, hbad⟩

end Trace

/-! ## Concrete traces -/

variable (step : σ → π → ρ → Option (σ × π)) {rely : σ → π → σ → Prop}

/-- The process alone, with the answers it gets. -/
def play (tr : List (Taken σ π ρ)) (s : σ) (p : π) : List ρ → Option (List (Taken σ π ρ) × σ × π)
  | [] => some (tr, s, p)
  | r :: rs => (step s p r).bind fun o => play (tr ++ [⟨s, p, r⟩]) o.1 o.2 rs

variable {step}

theorem trace_of_play : ∀ {rs : List ρ} {tr tr' : List (Taken σ π ρ)} {s₀ s s' : σ} {p₀ p p' : π},
    Trace step rely s₀ p₀ tr s p → play step tr s p rs = some (tr', s', p') →
      Trace step rely s₀ p₀ tr' s' p' := by
  intro rs
  induction rs with
  | nil =>
    intro tr tr' s₀ s s' p₀ p p' h hp
    cases hp
    exact h
  | cons r rs ih =>
    intro tr tr' s₀ s s' p₀ p p' h hp
    rw [play, Option.bind_eq_some_iff] at hp
    obtain ⟨o, ho, hp⟩ := hp
    exact ih (h.act ho) hp

/-- A concrete run that checks out and ends as wanted. -/
theorem exists_trace_of_play {s : σ} {p : π} {P : List (Taken σ π ρ) × σ × π → Bool} (rs : List ρ)
    (h : (play step [] s p rs).any P = true) :
    ∃ tr s' p', Trace step rely s p tr s' p' ∧ P (tr, s', p') = true := by
  rw [Option.any_eq_true] at h
  obtain ⟨⟨tr, s', p'⟩, hplay, hp⟩ := h
  exact ⟨tr, s', p', trace_of_play .start hplay, hp⟩

end Interleave
