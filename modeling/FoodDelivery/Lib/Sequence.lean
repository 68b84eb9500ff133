import Mathlib.Data.List.Basic

/-!
# Calls one after the other

A system whose calls each come to their end before the next one starts: `step s a` is the state
that the call `a` leaves in `s`.

* `Along C s as`: every call of `as` meets `C` in the state that it finds.
* `Throughout G s as`: `G` holds at the start and after every call.
* `along_iff`, `throughout_iff_along`: conditions on calls that are exact.
-/

namespace Sequence

universe u v

variable {σ : Type u} {α : Type v} (step : σ → α → σ)

def Along (C : σ → α → Prop) (s : σ) : List α → Prop
  | [] => True
  | a :: as => C s a ∧ Along C (step s a) as

def Throughout (G : σ → Prop) (s : σ) : List α → Prop
  | [] => G s
  | a :: as => G s ∧ Throughout G (step s a) as

instance decidableAlong (C : σ → α → Prop) [∀ s a, Decidable (C s a)] :
    ∀ (s : σ) (as : List α), Decidable (Along step C s as)
  | _, [] => instDecidableTrue
  | s, a :: as => @instDecidableAnd _ _ _ (decidableAlong C (step s a) as)

variable {step} {I G : σ → Prop} {C D : σ → α → Prop}

/-- Conditions that agree on every call agree along every sequence. -/
theorem along_iff (h : ∀ s a, C s a ↔ D s a) :
    ∀ (as : List α) (s : σ), Along step C s as ↔ Along step D s as := by
  intro as
  induction as with
  | nil => exact fun _ => Iff.rfl
  | cons a as ih => exact fun s => and_congr (h s a) (ih _)

theorem Throughout.start {s : σ} : ∀ {as : List α}, Throughout step G s as → G s := by
  intro as h
  cases as with
  | nil => exact h
  | cons a as => exact h.1

/-- **An exact condition**: the property holds all along a sequence if and only if every call of
it meets the condition. -/
theorem throughout_iff_along (hgood : ∀ s, I s → G s) (hkeep : ∀ s a, I s → C s a → I (step s a))
    (hbreak : ∀ s a, I s → ¬ C s a → ¬ G (step s a)) :
    ∀ (as : List α) (s : σ), I s → (Throughout step G s as ↔ Along step C s as) := by
  intro as
  induction as with
  | nil => exact fun s h => iff_of_true (hgood s h) trivial
  | cons a as ih =>
    intro s h
    constructor
    · rintro ⟨_, hrest⟩
      have hc : C s a := by
        by_contra hn
        exact hbreak s a h hn hrest.start
      exact ⟨hc, (ih _ (hkeep s a h hc)).mp hrest⟩
    · rintro ⟨hc, hrest⟩
      exact ⟨hgood s h, (ih _ (hkeep s a h hc)).mpr hrest⟩

end Sequence
