import Mathlib.Data.List.Nodup

/-!
# Lists of entries with a key

An array of records that is searched and rewritten by a key.  A search takes the first entry with
the key, and so does a rewrite.

* `alter`: the rewrite.
* `others_alter`, `find_alter`: what it does to the other entries, and to the one it is for.
* `Distinct.alter_eq_map`: where no two entries have one key, it is a `map`.
-/

namespace Keyed

universe u v

variable {α : Type u} {κ : Type v} [DecidableEq κ] (key : α → κ)

/-- The first entry with the key. -/
def find (k : κ) (l : List α) : Option α := l.find? fun a => key a = k

/-- The first entry with the key is rewritten. -/
def alter (k : κ) (f : α → α) : List α → List α
  | [] => []
  | a :: l => if key a = k then f a :: l else a :: alter k f l

/-- The entries with another key. -/
def others (k : κ) (l : List α) : List α := l.filter fun a => key a ≠ k

/-- No two entries have one key. -/
def Distinct (l : List α) : Prop := (l.map key).Nodup

variable {key} {k k' : κ} {f : α → α} {l : List α} {a : α}

theorem find_eq_none_iff : find key k l = none ↔ k ∉ l.map key := by
  simp [find, List.mem_map]

theorem key_of_find (h : find key k l = some a) : key a = k := by
  have h' := List.find?_some h
  exact of_decide_eq_true h'

theorem mem_of_find (h : find key k l = some a) : a ∈ l := List.mem_of_find?_eq_some h

theorem exists_find_of_mem (h : k ∈ l.map key) : ∃ a, find key k l = some a := by
  rw [← Option.isSome_iff_exists, ← Option.ne_none_iff_isSome]
  exact fun hnone => find_eq_none_iff.mp hnone h

/-! ## The rewrite -/

theorem map_key_alter (hf : ∀ a, key a = k → key (f a) = k) :
    (alter key k f l).map key = l.map key := by
  induction l with
  | nil => rfl
  | cons a l ih =>
    rw [alter]
    split
    · next h => rw [List.map_cons, List.map_cons, hf a h, h]
    · rw [List.map_cons, List.map_cons, ih]

theorem others_alter (hf : ∀ a, key a = k → key (f a) = k) :
    others key k (alter key k f l) = others key k l := by
  induction l with
  | nil => rfl
  | cons a l ih =>
    rw [alter]
    split
    · next h =>
      rw [others, others, List.filter_cons_of_neg (by simp [hf a h]),
        List.filter_cons_of_neg (by simp [h])]
    · next h =>
      rw [others, others, List.filter_cons_of_pos (by simp [h]),
        List.filter_cons_of_pos (by simp [h])]
      exact congrArg _ ih

/-- A projection that the rewrite respects. -/
theorem map_alter {β : Type*} {key' : β → κ} {entry : α → β} {g : β → β}
    (hkey : ∀ a, key' (entry a) = key a) (hg : ∀ a, entry (f a) = g (entry a)) :
    (alter key k f l).map entry = alter key' k g (l.map entry) := by
  induction l with
  | nil => rfl
  | cons a l ih =>
    rw [alter, List.map_cons, alter, hkey]
    split
    · rw [List.map_cons, hg]
    · rw [List.map_cons, ih]

/-- An entry that is there after the rewrite was there before, or is the rewritten one. -/
theorem mem_alter (h : a ∈ alter key k f l) : a ∈ l ∨ ∃ b ∈ l, key b = k ∧ a = f b := by
  induction l with
  | nil => simp [alter] at h
  | cons b l ih =>
    rw [alter] at h
    split at h
    · rename_i hb
      rcases List.mem_cons.mp h with rfl | hmem
      · exact Or.inr ⟨b, List.mem_cons_self, hb, rfl⟩
      · exact Or.inl (List.mem_cons_of_mem b hmem)
    · rcases List.mem_cons.mp h with rfl | hmem
      · exact Or.inl List.mem_cons_self
      · rcases ih hmem with hold | ⟨c, hc, hkey, rfl⟩
        · exact Or.inl (List.mem_cons_of_mem b hold)
        · exact Or.inr ⟨c, List.mem_cons_of_mem b hc, hkey, rfl⟩

theorem find_alter (hf : ∀ a, key a = k → key (f a) = k) :
    find key k (alter key k f l) = (find key k l).map f := by
  induction l with
  | nil => rfl
  | cons a l ih =>
    rw [alter]
    split
    · next h =>
      rw [find, find, List.find?_cons_of_pos (by simp [hf a h]),
        List.find?_cons_of_pos (by simp [h])]
      rfl
    · next h =>
      rw [find, find, List.find?_cons_of_neg (by simp [h]), List.find?_cons_of_neg (by simp [h])]
      exact ih

theorem alter_alter {g : α → α} (hf : ∀ a, key a = k → key (f a) = k) :
    alter key k g (alter key k f l) = alter key k (g ∘ f) l := by
  induction l with
  | nil => rfl
  | cons a l ih =>
    rw [alter, alter]
    split
    · next h => rw [alter, if_pos (hf a h), Function.comp_apply]
    · next h => rw [alter, if_neg h, ih]

theorem Distinct.alter (h : Distinct key l) (hf : ∀ a, key a = k → key (f a) = k) :
    Distinct key (alter key k f l) := by
  rw [Distinct, map_key_alter hf]
  exact h

/-- Where no two entries have one key, every entry with the key is rewritten. -/
theorem Distinct.alter_eq_map (h : Distinct key l) :
    Keyed.alter key k f l = l.map fun a => if key a = k then f a else a := by
  induction l with
  | nil => rfl
  | cons a l ih =>
    obtain ⟨hnot, hrest⟩ := List.nodup_cons.mp h
    rw [Keyed.alter, List.map_cons]
    split
    · next hkey =>
      have hsame : l.map (fun b => if key b = k then f b else b) = l.map id := by
        refine List.map_congr_left fun b hb => if_neg fun hb' => hnot ?_
        rw [hkey, ← hb']
        exact List.mem_map_of_mem hb
      rw [hsame, List.map_id]
    · rw [ih hrest]

theorem Distinct.find_of_mem (h : Distinct key l) (ha : a ∈ l) : find key (key a) l = some a := by
  have hmem : key a ∈ l.map key := List.mem_map_of_mem ha
  obtain ⟨b, hb⟩ := exists_find_of_mem hmem
  rw [hb, List.inj_on_of_nodup_map h (mem_of_find hb) ha (key_of_find hb)]

theorem Distinct.mem_alter (h : Distinct key l) :
    a ∈ Keyed.alter key k f l ↔ ∃ b ∈ l, (if key b = k then f b else b) = a := by
  rw [h.alter_eq_map, List.mem_map]

/-! ## One more entry -/

omit [DecidableEq κ] in
theorem Distinct.concat (h : Distinct key l) (hnew : key a ∉ l.map key) :
    Distinct key (l ++ [a]) := by
  rw [Distinct, List.map_append, List.map_singleton]
  exact h.append (List.nodup_singleton _) (by simpa using hnew)

theorem others_concat (ha : key a = k) : others key k (l ++ [a]) = others key k l := by
  rw [others, List.filter_append, List.filter_cons_of_neg (by simp [ha]), List.filter_nil,
    List.append_nil, others]

theorem find_concat (hnone : find key k l = none) (ha : key a = k) :
    find key k (l ++ [a]) = some a := by
  rw [find, List.find?_append, show l.find? (fun a => key a = k) = none from hnone,
    List.find?_cons_of_pos (by simp [ha])]
  rfl

/-! ## The other entries -/

theorem mem_others : a ∈ others key k l ↔ a ∈ l ∧ key a ≠ k := by simp [others]

theorem others_others : others key k (others key k l) = others key k l := by
  rw [others, others, List.filter_filter]
  simp

theorem Distinct.others (h : Distinct key l) : Distinct key (others key k l) :=
  h.sublist (List.filter_sublist.map key)

theorem others_map {β : Type*} {key' : β → κ} {g : α → β} (hg : ∀ a, key' (g a) = key a) :
    others key' k (l.map g) = (others key k l).map g := by
  rw [others, List.filter_map, others]
  exact congrArg _ (List.filter_congr fun a _ => by simp [hg a])

end Keyed
