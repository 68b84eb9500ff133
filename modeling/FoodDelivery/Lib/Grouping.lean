import Mathlib.Algebra.BigOperators.Group.List.Basic
import Mathlib.Data.List.Dedup
import Mathlib.Data.List.Induction

/-!
# Grouping rows by a key

Rows are folded into groups, one for each key, in the order the keys are first seen.

* `nodup_keys`: no two groups have one key.
* `exists_group`: every row has a group.
* `group_spec`: a group is what its rows, in order, fold to.
* `group_induction`: the rule for what holds of every group and its rows.
* `keys_perm`: the keys of the groups are the distinct keys of the rows.
* `Adds.sum_group`: a figure that adds up in every group adds up over all of them.
-/

namespace Grouping

universe u v w

variable {ρ : Type u} {γ : Type v} {κ : Type w}

/-- How a row starts a group, and how a group takes another one. -/
structure Grouper (ρ : Type u) (γ : Type v) (κ : Type w) where
  keyOf : γ → κ
  key : ρ → κ
  single : ρ → γ
  add : γ → ρ → γ
  keyOf_single : ∀ r, keyOf (single r) = key r
  keyOf_add : ∀ g r, keyOf (add g r) = keyOf g

namespace Grouper

variable (G : Grouper ρ γ κ)

/-- The group of the first row, with the others added in order. -/
def ofRows : List ρ → Option γ
  | [] => none
  | row :: rows => some (rows.foldl G.add (G.single row))

variable {G} {row : ρ} {rows : List ρ} {gs : List γ} {g : γ}

theorem ofRows_append {before : List ρ} (h : G.ofRows before = some g) :
    G.ofRows (before ++ [row]) = some (G.add g row) := by
  cases before with
  | nil => cases h
  | cons first before =>
    rw [ofRows, Option.some.injEq] at h
    rw [List.cons_append, ofRows, List.foldl_append, h]
    rfl

/-- A figure of a group to which every row adds its own. -/
structure Adds {M : Type*} [AddCommMonoid M] (G : Grouper ρ γ κ) (f : γ → M) (m : ρ → M) :
    Prop where
  single : ∀ row, f (G.single row) = m row
  add : ∀ g row, f (G.add g row) = f g + m row

variable [DecidableEq κ]

section Rows

variable (G)

/-- Put a row into its group, or start one. -/
def put (row : ρ) : List γ → List γ
  | [] => [G.single row]
  | g :: gs => if G.keyOf g = G.key row then G.add g row :: gs else g :: put row gs

def group (rows : List ρ) : List γ := rows.foldl (fun groups row => G.put row groups) []

/-- The rows with this key. -/
def rowsOf (k : κ) (rows : List ρ) : List ρ := rows.filter fun row => G.key row = k

end Rows

theorem keys_put : (G.put row gs).map G.keyOf =
    if G.key row ∈ gs.map G.keyOf then gs.map G.keyOf else gs.map G.keyOf ++ [G.key row] := by
  induction gs with
  | nil => simp [put, G.keyOf_single]
  | cons g gs ih =>
    rw [put]
    by_cases h : G.keyOf g = G.key row
    · rw [if_pos h, List.map_cons, List.map_cons, G.keyOf_add, h, if_pos List.mem_cons_self]
    · have hmem : G.key row ∈ (g :: gs).map G.keyOf ↔ G.key row ∈ gs.map G.keyOf := by
        rw [List.map_cons, List.mem_cons]
        exact or_iff_right (Ne.symm h)
      rw [if_neg h, List.map_cons, ih]
      by_cases hin : G.key row ∈ gs.map G.keyOf
      · rw [if_pos hin, if_pos (hmem.mpr hin), List.map_cons]
      · rw [if_neg hin, if_neg (fun hin' => hin (hmem.mp hin')), List.map_cons, List.cons_append]

/-- A group after a row was put: it was there, it has taken the row, or the row has started it. -/
theorem mem_put (hnodup : (gs.map G.keyOf).Nodup) (h : g ∈ G.put row gs) :
    (g ∈ gs ∧ G.keyOf g ≠ G.key row) ∨ (∃ g' ∈ gs, G.keyOf g' = G.key row ∧ g = G.add g' row) ∨
      (G.key row ∉ gs.map G.keyOf ∧ g = G.single row) := by
  induction gs with
  | nil => exact Or.inr (Or.inr ⟨List.not_mem_nil, List.mem_singleton.mp h⟩)
  | cons g₁ gs ih =>
    rw [List.map_cons, List.nodup_cons] at hnodup
    rw [put] at h
    by_cases hkey : G.keyOf g₁ = G.key row
    · rw [if_pos hkey] at h
      rcases List.mem_cons.mp h with rfl | h
      · exact Or.inr (Or.inl ⟨g₁, List.mem_cons_self, hkey, rfl⟩)
      · refine Or.inl ⟨List.mem_cons_of_mem _ h, fun he => hnodup.1 ?_⟩
        rw [hkey, ← he]
        exact List.mem_map_of_mem h
    · rw [if_neg hkey] at h
      rcases List.mem_cons.mp h with rfl | h
      · exact Or.inl ⟨List.mem_cons_self, hkey⟩
      · rcases ih hnodup.2 h with ⟨hmem, hne⟩ | ⟨g', hmem, he⟩ | ⟨hnot, rfl⟩
        · exact Or.inl ⟨List.mem_cons_of_mem _ hmem, hne⟩
        · exact Or.inr (Or.inl ⟨g', List.mem_cons_of_mem _ hmem, he⟩)
        · refine Or.inr (Or.inr ⟨fun hin => ?_, rfl⟩)
          rcases List.mem_cons.mp hin with he | hin
          · exact hkey he.symm
          · exact hnot hin

theorem group_append : G.group (rows ++ [row]) = G.put row (G.group rows) := by
  rw [group, List.foldl_append]
  rfl

/-- **No two groups have one key.** -/
theorem nodup_keys : ((G.group rows).map G.keyOf).Nodup := by
  induction rows using List.reverseRecOn with
  | nil => exact List.nodup_nil
  | append_singleton rows row ih =>
    rw [group_append, keys_put]
    split
    · exact ih
    · next h => exact List.nodup_append.mpr ⟨ih, List.nodup_singleton _, fun a ha b hb hab =>
        h (List.mem_singleton.mp hb ▸ hab ▸ ha)⟩

/-- **Every row has a group.** -/
theorem exists_group (h : row ∈ rows) : ∃ g ∈ G.group rows, G.keyOf g = G.key row := by
  have hkey : G.key row ∈ (G.group rows).map G.keyOf := by
    induction rows using List.reverseRecOn with
    | nil => cases h
    | append_singleton rows last ih =>
      rw [group_append, keys_put]
      rcases List.mem_append.mp h with h | h
      · split
        · exact ih h
        · exact List.mem_append_left _ (ih h)
      · rw [List.mem_singleton.mp h]
        split
        · assumption
        · exact List.mem_append_right _ (List.mem_singleton.mpr rfl)
  exact List.mem_map.mp hkey

/-- A key without a group is that of no row. -/
theorem rowsOf_eq_nil {k : κ} (h : ∀ g ∈ G.group rows, G.keyOf g ≠ k) : G.rowsOf k rows = [] := by
  rw [rowsOf, List.filter_eq_nil_iff]
  intro row hrow hkey
  obtain ⟨g, hg, hsame⟩ := exists_group (G := G) hrow
  exact h g hg (hsame.trans (of_decide_eq_true hkey))

/-- **A group is what its rows, in order, fold to.** -/
theorem group_spec (h : g ∈ G.group rows) : G.ofRows (G.rowsOf (G.keyOf g) rows) = some g := by
  induction rows using List.reverseRecOn generalizing g with
  | nil => cases h
  | append_singleton rows row ih =>
    rw [group_append] at h
    rw [rowsOf, List.filter_append, List.filter_singleton]
    rcases mem_put nodup_keys h with ⟨hmem, hne⟩ | ⟨g', hmem, hkey, rfl⟩ | ⟨hnone, rfl⟩
    · rw [decide_eq_false (Ne.symm hne)]
      exact (congrArg G.ofRows (List.append_nil _)).trans (ih hmem)
    · rw [G.keyOf_add, decide_eq_true hkey.symm]
      exact ofRows_append (ih hmem)
    · have hempty : G.rowsOf (G.key row) rows = [] :=
        rowsOf_eq_nil fun g hg hkey => hnone (hkey ▸ List.mem_map_of_mem hg)
      rw [rowsOf] at hempty
      rw [G.keyOf_single, decide_eq_true rfl, hempty]
      rfl

/-- **What holds of one row and the group it starts, and still when the group takes another, holds
of every group and its rows.** -/
theorem group_induction {P : List ρ → γ → Prop} (hsingle : ∀ row ∈ rows, P [row] (G.single row))
    (hadd : ∀ before g, ∀ row ∈ rows, P before g → P (before ++ [row]) (G.add g row))
    (h : g ∈ G.group rows) : P (G.rowsOf (G.keyOf g) rows) g := by
  have hfold : ∀ rest before g, (∀ row ∈ rest, row ∈ rows) → P before g →
      P (before ++ rest) (rest.foldl G.add g) := by
    intro rest
    induction rest with
    | nil => exact fun before g _ hg => (List.append_nil before).symm ▸ hg
    | cons row rest ih =>
      intro before g hrest hg
      have hnext := ih (before ++ [row]) (G.add g row)
        (fun r hr => hrest r (List.mem_cons_of_mem _ hr))
        (hadd before g row (hrest row List.mem_cons_self) hg)
      rwa [List.append_assoc] at hnext
  have hmine : ∀ row ∈ G.rowsOf (G.keyOf g) rows, row ∈ rows := fun row hrow =>
    (List.mem_filter.mp hrow).1
  have hrows := group_spec h
  cases hlist : G.rowsOf (G.keyOf g) rows with
  | nil =>
    rw [hlist] at hrows
    cases hrows
  | cons first rest =>
    rw [hlist] at hrows hmine
    rw [← Option.some.inj hrows]
    exact hfold rest [first] _ (fun row hrow => hmine row (List.mem_cons_of_mem _ hrow))
      (hsingle first (hmine first List.mem_cons_self))

theorem rowsOf_ne_nil (h : g ∈ G.group rows) : G.rowsOf (G.keyOf g) rows ≠ [] :=
  group_induction (P := fun mine _ => mine ≠ []) (fun row _ => List.cons_ne_nil row [])
    (fun before _ row _ _ => List.append_ne_nil_of_right_ne_nil before (List.cons_ne_nil row [])) h

/-- **The groups have the distinct keys of the rows.** -/
theorem keys_perm : ((G.group rows).map G.keyOf).Perm (rows.map G.key).dedup := by
  refine (List.perm_ext_iff_of_nodup nodup_keys (List.nodup_dedup _)).mpr fun k => ?_
  rw [List.mem_dedup, List.mem_map, List.mem_map]
  constructor
  · rintro ⟨g, hg, rfl⟩
    obtain ⟨row, hmem⟩ := List.exists_mem_of_ne_nil _ (rowsOf_ne_nil hg)
    obtain ⟨hin, hkey⟩ := List.mem_filter.mp hmem
    exact ⟨row, hin, of_decide_eq_true hkey⟩
  · rintro ⟨row, hrow, rfl⟩
    exact exists_group hrow

/-! ## Figures that add up -/

section Sums

variable {M : Type*} [AddCommMonoid M] {f : γ → M} {m : ρ → M}

/-- The figure of a group is the sum over its rows. -/
theorem Adds.of_mem_group (h : G.Adds f m) (hg : g ∈ G.group rows) :
    f g = ((G.rowsOf (G.keyOf g) rows).map m).sum := by
  refine group_induction (P := fun mine g => f g = (mine.map m).sum) (fun row _ => ?_)
    (fun before g row _ hsum => ?_) hg
  · rw [h.single, List.map_singleton, List.sum_singleton]
  · rw [h.add, hsum, List.map_append, List.sum_append, List.map_singleton, List.sum_singleton]

/-- The figure of the group with a key, or nothing when there is none. -/
theorem Adds.lookup (h : G.Adds f m) (k : κ) :
    (((G.group rows).find? fun g => G.keyOf g = k).map f).getD 0 =
      ((G.rowsOf k rows).map m).sum := by
  cases hfind : (G.group rows).find? fun g => G.keyOf g = k with
  | none =>
    rw [rowsOf_eq_nil fun g hg hkey => List.find?_eq_none.mp hfind g hg (decide_eq_true hkey)]
    rfl
  | some g =>
    have hkey : G.keyOf g = k := by simpa using List.find?_some hfind
    rw [← hkey]
    exact h.of_mem_group (List.mem_of_find?_eq_some hfind)

/-- Rows that are sorted by their keys add up to what they added up to before. -/
theorem sum_rowsOf {ks : List κ} (hnodup : ks.Nodup) (hcover : ∀ row ∈ rows, G.key row ∈ ks) :
    (ks.map fun k => ((G.rowsOf k rows).map m).sum).sum = (rows.map m).sum := by
  induction rows with
  | nil => simp [rowsOf]
  | cons row rows ih =>
    have hrow : ∀ k, ((G.rowsOf k (row :: rows)).map m).sum =
        (if k = G.key row then m row else 0) + ((G.rowsOf k rows).map m).sum := by
      intro k
      rw [rowsOf, List.filter_cons]
      by_cases hk : G.key row = k
      · rw [if_pos (decide_eq_true hk), if_pos hk.symm]
        rfl
      · rw [if_neg (by simpa using hk), if_neg (Ne.symm hk), zero_add]
        rfl
    have hone : (ks.map fun k => if k = G.key row then m row else 0).sum = m row := by
      rw [List.sum_map_eq_nsmul_single (G.key row) _ fun k hk _ => if_neg hk,
        List.count_eq_one_of_mem hnodup (hcover row List.mem_cons_self), if_pos rfl, one_nsmul]
    simp only [hrow]
    rw [List.sum_map_add, hone, ih fun r hr => hcover r (List.mem_cons_of_mem _ hr),
      List.map_cons, List.sum_cons]

/-- **What adds up in every group adds up over all of them.** -/
theorem Adds.sum_group (h : G.Adds f m) : ((G.group rows).map f).sum = (rows.map m).sum := by
  have hcover : ∀ row ∈ rows, G.key row ∈ (G.group rows).map G.keyOf :=
    fun row hrow => List.mem_map.mpr (exists_group hrow)
  rw [← sum_rowsOf nodup_keys hcover, List.map_map]
  exact congrArg List.sum (List.map_congr_left fun g hg => h.of_mem_group hg)

end Sums

end Grouper

/-- **A list that is cut up by keys is all there**: each entry is in the part of its key. -/
theorem perm_flatMap_filter {α κ : Type*} [DecidableEq κ] (key : α → κ) {ks : List κ}
    (hnodup : ks.Nodup) {l : List α} (hcover : ∀ a ∈ l, key a ∈ ks) :
    (ks.flatMap fun k => l.filter fun a => key a = k).Perm l := by
  induction ks generalizing l with
  | nil =>
    have hnil : l = [] := List.eq_nil_iff_forall_not_mem.mpr fun a ha => by
      simpa using hcover a ha
    rw [hnil]
    exact .refl _
  | cons k ks ih =>
    obtain ⟨hk, hrest⟩ := List.nodup_cons.mp hnodup
    have hothers : (ks.flatMap fun k' => l.filter fun a => key a = k') =
        ks.flatMap fun k' =>
          (l.filter fun a => !decide (key a = k)).filter fun a => key a = k' := by
      apply List.flatMap_congr
      intro k' hk'
      rw [List.filter_filter]
      apply List.filter_congr
      intro a _
      by_cases ha : key a = k'
      · have hne : key a ≠ k := fun heq => hk (heq ▸ ha ▸ hk')
        simp [ha, ha ▸ hne]
      · simp [ha]
    have hcover' : ∀ a ∈ l.filter (fun a => !decide (key a = k)), key a ∈ ks := by
      intro a ha
      obtain ⟨hal, hne⟩ := List.mem_filter.mp ha
      rcases List.mem_cons.mp (hcover a hal) with heq | hmem
      · simp [heq] at hne
      · exact hmem
    rw [List.flatMap_cons, hothers]
    exact ((ih hrest hcover').append_left _).trans (List.filter_append_perm _ l)

end Grouping
