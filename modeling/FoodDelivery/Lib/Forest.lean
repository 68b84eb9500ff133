import Mathlib.Data.List.Basic
import Mathlib.Data.List.Nodup
import Mathlib.Logic.Relation
import Mathlib.Logic.Function.Basic

/-!
# Forests of parent pointers

Each node may point to a parent.  The pointers make a forest when following them comes to an end
from every node.  A walk goes down from a root, level by level: the frontier is replaced by all
nodes that point into it, until it is empty.

* `Rooted`: following the pointers from here comes to an end.
* `rooted_update`: a node is moved under one that is neither the node itself nor below it.
* `walk_eq_some`: the walk comes to an end and gives what is below the root, each node once.
-/

namespace Forest

universe u

variable {ι : Type u} (par : ι → Option ι)

/-- The first one points to the second. -/
def Under (x p : ι) : Prop := par x = some p

/-- The first one is a proper descendant of the second. -/
abbrev Below : ι → ι → Prop := Relation.TransGen (Under par)

inductive Rooted : ι → Prop
  | top {x : ι} (h : par x = none) : Rooted x
  | under {x p : ι} (h : par x = some p) (hp : Rooted p) : Rooted x

/-- The node so many pointers up. -/
def ancestor : Nat → ι → Option ι
  | 0, x => some x
  | k + 1, x => (par x).bind (ancestor k)

variable {par} {x y p root : ι} {k j : Nat}

/-! ## Ancestors -/

theorem ancestor_succ (h : par x = some p) : ancestor par (k + 1) x = ancestor par k p := by
  rw [ancestor, h, Option.bind_some]

theorem ancestor_add : ancestor par (j + k) x = (ancestor par j x).bind (ancestor par k) := by
  induction j generalizing x with
  | zero => rw [Nat.zero_add, ancestor, Option.bind_some]
  | succ j ih =>
    rw [Nat.succ_add, ancestor, ancestor, Option.bind_assoc]
    exact congrArg (par x).bind (funext fun p => ih)

theorem below_iff : Below par x root ↔ ∃ k, ancestor par (k + 1) x = some root := by
  constructor
  · intro h
    induction h using Relation.TransGen.head_induction_on with
    | single h => exact ⟨0, by rw [ancestor_succ h, ancestor]⟩
    | head h _ ih =>
      obtain ⟨k, hk⟩ := ih
      exact ⟨k + 1, by rw [ancestor_succ h, hk]⟩
  · rintro ⟨k, hk⟩
    induction k generalizing x with
    | zero =>
      obtain ⟨p, hp, hroot⟩ := Option.bind_eq_some_iff.mp hk
      cases hroot
      exact .single hp
    | succ k ih =>
      obtain ⟨p, hp, hroot⟩ := Option.bind_eq_some_iff.mp hk
      exact .head hp (ih hroot)

/-- **A forest has no cycle.** -/
theorem Rooted.ancestor_ne (h : Rooted par x) : ancestor par (k + 1) x ≠ some x := by
  induction h with
  | top h =>
    intro hk
    rw [ancestor, h] at hk
    cases hk
  | @under x p h _ ih =>
    intro hk
    refine ih ?_
    -- the cycle seen from the parent
    rw [ancestor_add (j := k) (k := 1), ← ancestor_succ h, hk]
    rw [Option.bind_some, ancestor, h]
    rfl

theorem Rooted.not_below (h : Rooted par x) : ¬ Below par x x := by
  rw [below_iff]
  rintro ⟨k, hk⟩
  exact h.ancestor_ne hk

/-- Nodes that point up as before, or not at all. -/
theorem Rooted.cut {par' : ι → Option ι} (hcut : ∀ x, par' x = none ∨ par' x = par x)
    (h : Rooted par x) : Rooted par' x := by
  induction h with
  | @top x h =>
    rcases hcut x with hnone | hsame
    · exact .top hnone
    · exact .top (hsame.trans h)
  | @under x p h _ ih =>
    rcases hcut x with hnone | hsame
    · exact .top hnone
    · exact .under (hsame.trans h) ih

/-! ## Moving a node -/

section Move

variable [DecidableEq ι]

/-- What is not below a node does not see that it is moved. -/
theorem rooted_update_of_apart {q : Option ι} (h : Rooted par y) (hne : y ≠ x)
    (hnot : ¬ Below par y x) : Rooted (Function.update par x q) y := by
  induction h with
  | top h => exact .top (by rw [Function.update_of_ne hne, h])
  | @under y p h _ ih =>
    have hp : p ≠ x := by
      rintro rfl
      exact hnot (.single h)
    exact .under (by rw [Function.update_of_ne hne, h]) (ih hp fun hb => hnot (.head h hb))

/-- **A node is moved under one that is neither the node itself nor below it.** -/
theorem rooted_update {q : Option ι} (hall : ∀ y, Rooted par y)
    (hq : ∀ p, q = some p → p ≠ x ∧ ¬ Below par p x) (y : ι) :
    Rooted (Function.update par x q) y := by
  have hx : Rooted (Function.update par x q) x := by
    cases hq' : q with
    | none => exact .top (Function.update_self ..)
    | some p =>
      obtain ⟨hne, hnot⟩ := hq p hq'
      exact .under (Function.update_self ..) (rooted_update_of_apart (hall p) hne hnot)
  induction hall y with
  | @top y h =>
    by_cases he : y = x
    · exact he ▸ hx
    · exact .top (by rw [Function.update_of_ne he, h])
  | @under y p h _ ih =>
    by_cases he : y = x
    · exact he ▸ hx
    · exact .under (by rw [Function.update_of_ne he, h]) ih

/-- **A node that is moved under itself, or under one below it, comes to lie on a cycle.** -/
theorem below_update (h : p = x ∨ Below par p x) :
    Below (Function.update par x (some p)) x x := by
  have hup : ∀ k z, ancestor par k z = some x →
      Relation.ReflTransGen (Under (Function.update par x (some p))) z x := by
    intro k
    induction k with
    | zero =>
      intro z hz
      cases hz
      exact .refl
    | succ k ih =>
      intro z hz
      by_cases he : z = x
      · exact he ▸ .refl
      · obtain ⟨q, hq, hrest⟩ := Option.bind_eq_some_iff.mp hz
        exact .head (by rw [Under, Function.update_of_ne he, hq]) (ih q hrest)
  have hedge : Under (Function.update par x (some p)) x p := Function.update_self ..
  rcases h with rfl | h
  · exact .single hedge
  · obtain ⟨k, hk⟩ := below_iff.mp h
    exact .head' hedge (hup (k + 1) p hk)

end Move

/-! ## Walking down -/

section Walk

variable [DecidableEq ι] (par) (nodes : List ι)

/-- All nodes that point into the frontier. -/
def children (frontier : List ι) : List ι := nodes.filter fun x => (par x).any (· ∈ frontier)

/-- What a walk of at most so many rounds gives; `none` when there are more. -/
def walk : Nat → List ι → Option (List ι)
  | _, [] => some []
  | 0, _ :: _ => none
  | n + 1, x :: frontier =>
    (walk n (children par nodes (x :: frontier))).map (children par nodes (x :: frontier) ++ ·)

/-- The nodes so many pointers below the root. -/
def level (root : ι) (k : Nat) : List ι := nodes.filter fun x => ancestor par k x = some root

variable {par nodes}

theorem walk_nil (n : Nat) : walk par nodes n [] = some [] := by
  cases n <;> rfl

theorem walk_of_ne_nil {n : Nat} {frontier : List ι} (h : frontier ≠ []) :
    walk par nodes (n + 1) frontier =
      (walk par nodes n (children par nodes frontier)).map (children par nodes frontier ++ ·) := by
  cases frontier with
  | nil => exact absurd rfl h
  | cons x frontier => rfl

/-- More rounds give the same. -/
theorem walk_succ {n : Nat} {frontier ids : List ι} (h : walk par nodes n frontier = some ids) :
    walk par nodes (n + 1) frontier = some ids := by
  induction n generalizing frontier ids with
  | zero =>
    cases frontier with
    | nil => exact h
    | cons x frontier => cases h
  | succ n ih =>
    cases frontier with
    | nil => exact h
    | cons x frontier =>
      obtain ⟨rest, hrest, rfl⟩ := Option.map_eq_some_iff.mp h
      rw [walk, ih hrest]
      rfl

theorem mem_level : x ∈ level par nodes root k ↔ x ∈ nodes ∧ ancestor par k x = some root := by
  rw [level, List.mem_filter, decide_eq_true_eq]

theorem children_root : children par nodes [root] = level par nodes root 1 := by
  refine List.filter_congr fun x _ => ?_
  cases h : par x with
  | none => simp [ancestor, h]
  | some p => simp [ancestor, h]

/-- **The frontier of one round is a level of the forest.** -/
theorem children_level (hclosed : ∀ x p, par x = some p → p ∈ nodes) :
    children par nodes (level par nodes root k) = level par nodes root (k + 1) := by
  refine List.filter_congr fun x _ => ?_
  cases h : par x with
  | none => simp [ancestor, h]
  | some p =>
    rw [ancestor_succ h, Option.any_some, decide_eq_decide, mem_level]
    exact and_iff_right (hclosed x p h)

theorem level_eq_nil (hclosed : ∀ x p, par x = some p → p ∈ nodes)
    (h : level par nodes root k = []) (hle : k ≤ j) : level par nodes root j = [] := by
  induction hle with
  | refl => exact h
  | step _ ih => rw [← children_level hclosed, ih, children]; simp

/-- Following the pointers goes through different nodes. -/
theorem Rooted.lt_length (h : Rooted par x) {seen : List ι}
    (hseen : ∀ j y, ancestor par j x = some y → j ≤ k → y ∈ seen)
    (hk : ancestor par k x = some root) : k < seen.length := by
  induction k generalizing x seen with
  | zero => exact List.length_pos_of_mem (hseen 0 x rfl (Nat.le_refl _))
  | succ k ih =>
    obtain ⟨p, hp, hrest⟩ := Option.bind_eq_some_iff.mp hk
    have hrooted : Rooted par p := by
      cases h with
      | top hnone => cases hnone.symm.trans hp
      | under h' hp' => exact Option.some.inj (h'.symm.trans hp) ▸ hp'
    have hx : x ∈ seen := hseen 0 x rfl (Nat.zero_le _)
    have hless : k < (seen.erase x).length := by
      refine ih hrooted (fun j y hy hj => ?_) hrest
      rw [← ancestor_succ hp] at hy
      have hne : y ≠ x := by
        rintro rfl
        exact h.ancestor_ne hy
      exact (List.mem_erase_of_ne hne).mpr (hseen (j + 1) y hy (Nat.succ_le_succ hj))
    rw [List.length_erase_of_mem hx] at hless
    omega

/-- There are no more levels than nodes. -/
theorem level_length (hclosed : ∀ x p, par x = some p → p ∈ nodes) (hall : ∀ x, Rooted par x) :
    level par nodes root nodes.length = [] := by
  rw [List.eq_nil_iff_forall_not_mem]
  intro x hx
  obtain ⟨hmem, hroot⟩ := mem_level.mp hx
  refine Nat.lt_irrefl _ ((hall x).lt_length (fun j y hy _ => ?_) hroot)
  cases j with
  | zero =>
    cases hy
    exact hmem
  | succ j =>
    rw [ancestor_add (j := j) (k := 1)] at hy
    obtain ⟨z, _, hz⟩ := Option.bind_eq_some_iff.mp hy
    obtain ⟨q, hq, hy⟩ := Option.bind_eq_some_iff.mp hz
    cases hy
    exact hclosed z _ hq

/-- Two levels have no node in common. -/
theorem level_disjoint (hall : ∀ x, Rooted par x) (hk : x ∈ level par nodes root k)
    (hj : x ∈ level par nodes root j) : k = j := by
  have apart : ∀ {k j}, k < j → ancestor par k x = some root → ancestor par j x = some root →
      False := by
    intro k j hlt hk hj
    obtain ⟨d, rfl⟩ := Nat.exists_eq_add_of_lt hlt
    rw [Nat.add_assoc, ancestor_add, hk, Option.bind_some] at hj
    exact (hall root).ancestor_ne hj
  obtain ⟨_, hk⟩ := mem_level.mp hk
  obtain ⟨_, hj⟩ := mem_level.mp hj
  rcases Nat.lt_trichotomy k j with h | h | h
  · exact (apart h hk hj).elim
  · exact h
  · exact (apart h hj hk).elim

theorem walk_level (hclosed : ∀ x p, par x = some p → p ∈ nodes) (hall : ∀ x, Rooted par x)
    (hnodes : nodes.Nodup) {n : Nat} (hend : level par nodes root (k + n) = []) :
    ∃ ids, walk par nodes n (level par nodes root k) = some ids ∧ ids.Nodup ∧
      ∀ x, x ∈ ids ↔ ∃ j, k < j ∧ x ∈ level par nodes root j := by
  have hover : ∀ {k}, level par nodes root k = [] →
      ∀ x, x ∈ ([] : List ι) ↔ ∃ j, k < j ∧ x ∈ level par nodes root j := by
    intro k h x
    refine iff_of_false (List.not_mem_nil) ?_
    rintro ⟨j, hj, hx⟩
    rw [level_eq_nil hclosed h (Nat.le_of_lt hj)] at hx
    exact List.not_mem_nil hx
  induction n generalizing k with
  | zero =>
    have hnil : level par nodes root k = [] := hend
    exact ⟨[], by rw [hnil, walk_nil], List.nodup_nil, hover hnil⟩
  | succ n ih =>
    by_cases hnil : level par nodes root k = []
    · exact ⟨[], by rw [hnil, walk_nil], List.nodup_nil, hover hnil⟩
    · obtain ⟨ids, hwalk, hnodup, hmem⟩ := ih (k := k + 1) (by
        rw [Nat.add_assoc, Nat.add_comm 1 n]
        exact hend)
      refine ⟨level par nodes root (k + 1) ++ ids, ?_, ?_, fun x => ?_⟩
      · rw [walk_of_ne_nil hnil, children_level hclosed, hwalk]
        rfl
      · refine List.Nodup.append (hnodes.filter _) hnodup fun x hx hids => ?_
        obtain ⟨j, hj, hxj⟩ := (hmem x).mp hids
        exact Nat.ne_of_lt hj (level_disjoint hall hx hxj)
      · rw [List.mem_append, hmem x]
        constructor
        · rintro (hx | ⟨j, hj, hx⟩)
          · exact ⟨k + 1, Nat.lt_succ_self k, hx⟩
          · exact ⟨j, Nat.lt_of_succ_lt hj, hx⟩
        · rintro ⟨j, hj, hx⟩
          rcases Nat.lt_or_eq_of_le hj with hlt | rfl
          · exact Or.inr ⟨j, hlt, hx⟩
          · exact Or.inl hx

/-- **The walk comes to an end**, in no more rounds than there are nodes, **and gives what is below
the root, each node once.** -/
theorem walk_eq_some (hclosed : ∀ x p, par x = some p → p ∈ nodes)
    (hsource : ∀ x p, par x = some p → x ∈ nodes) (hall : ∀ x, Rooted par x)
    (hnodes : nodes.Nodup) (hroot : root ∈ nodes) :
    ∃ ids, walk par nodes nodes.length [root] = some ids ∧ ids.Nodup ∧
      ∀ x, x ∈ ids ↔ Below par x root := by
  obtain ⟨n, hn⟩ : ∃ n, nodes.length = n + 1 :=
    Nat.exists_eq_succ_of_ne_zero (Nat.ne_of_gt (List.length_pos_of_mem hroot))
  have hend : level par nodes root (1 + n) = [] := by
    rw [Nat.add_comm, ← hn]
    exact level_length hclosed hall
  obtain ⟨ids, hwalk, hnodup, hmem⟩ := walk_level hclosed hall hnodes hend
  refine ⟨level par nodes root 1 ++ ids, ?_, ?_, fun x => ?_⟩
  · rw [hn, walk_of_ne_nil (List.cons_ne_nil _ _), children_root, hwalk]
    rfl
  · refine List.Nodup.append (hnodes.filter _) hnodup fun x hx hids => ?_
    obtain ⟨j, hj, hxj⟩ := (hmem x).mp hids
    exact Nat.ne_of_lt hj (level_disjoint hall hx hxj)
  · rw [List.mem_append, hmem x, below_iff]
    constructor
    · rintro (hx | ⟨j, hj, hx⟩)
      · exact ⟨0, (mem_level.mp hx).2⟩
      · obtain ⟨d, rfl⟩ := Nat.exists_eq_add_of_lt hj
        refine ⟨1 + d, ?_⟩
        exact (mem_level.mp hx).2
    · rintro ⟨k, hk⟩
      obtain ⟨p, hp, _⟩ := Option.bind_eq_some_iff.mp hk
      have hx : x ∈ level par nodes root (k + 1) := mem_level.mpr ⟨hsource x p hp, hk⟩
      cases k with
      | zero => exact Or.inl hx
      | succ k => exact Or.inr ⟨k + 2, by omega, hx⟩

end Walk

end Forest
