import Mathlib.Data.List.Basic
import Mathlib.Algebra.BigOperators.Group.List.Basic
import Mathlib.Tactic.Abel

/-!
# Document collections

A collection is the list of its documents in the order they were created.  A
document's id is its position, so an id is never reused, `create` hands out a
fresh one, and `find` visits documents oldest first.  A document that is removed
leaves its place empty: such a collection holds options.

* `get_modify`, `get_create`: what the two writes do to each document.
* `head?_find_eq_some`: what `find` gives first.
* `sum_modify`: what `modify` does to a sum over all documents.
-/

namespace Store

universe u

variable {α : Type u}

/-- Documents, oldest first; the id of a document is its position. -/
structure Collection (α : Type u) where
  docs : List α
  deriving DecidableEq

namespace Collection

/-- The empty collection. -/
def empty : Collection α := ⟨[]⟩

/-- The document with the given id. -/
def get (c : Collection α) (i : Nat) : Option α := c.docs[i]?

/-- The id the next created document gets. -/
def nextId (c : Collection α) : Nat := c.docs.length

/-- All ids in use, oldest first. -/
def ids (c : Collection α) : List Nat := List.range c.nextId

/-- Insert one document. -/
def create (c : Collection α) (a : α) : Collection α := ⟨c.docs ++ [a]⟩

/-- Rewrite one document in place; no effect when the id is not in use. -/
def modify (c : Collection α) (i : Nat) (f : α → α) : Collection α := ⟨c.docs.modify i f⟩

/-- Rewrite every document that matches. -/
def updateMany (c : Collection α) (p : α → Bool) (f : α → α) : Collection α :=
  ⟨c.docs.map fun a => if p a then f a else a⟩

/-- Delete one document. -/
def remove (c : Collection (Option α)) (i : Nat) : Collection (Option α) := c.modify i fun _ => none

/-- The document with the given id, when it has not been removed. -/
def live (c : Collection (Option α)) (i : Nat) : Option α := (c.get i).join

/-- The matching documents with their ids, oldest first. -/
def find (c : Collection α) (p : Nat → α → Bool) : List (Nat × α) :=
  (c.docs.zipIdx.map fun x => (x.2, x.1)).filter fun x => p x.1 x.2

/-- The same where documents are removed. -/
def findLive (c : Collection (Option α)) (p : Nat → α → Bool) : List (Nat × α) :=
  (c.find fun i a => a.any (p i)).filterMap fun x => x.2.map (x.1, ·)

/-- Delete every document that matches. -/
def removeWhere (c : Collection (Option α)) (p : Nat → α → Bool) : Collection (Option α) :=
  ⟨c.docs.mapIdx fun i d => d.filter fun a => !p i a⟩

variable {c : Collection α} {a : α} {i j : Nat} {f : α → α}

/-! ## Reading back -/

@[simp] theorem get_empty : (empty : Collection α).get i = none := by simp [empty, get]

@[simp] theorem nextId_modify : (c.modify i f).nextId = c.nextId := by simp [modify, nextId]

@[simp] theorem nextId_create : (c.create a).nextId = c.nextId + 1 := by simp [create, nextId]

@[simp] theorem ids_modify : (c.modify i f).ids = c.ids := by simp [ids]

theorem mem_ids : i ∈ c.ids ↔ i < c.nextId := by simp [ids]

theorem get_modify : (c.modify i f).get j = if i = j then (c.get j).map f else c.get j := by
  simp only [modify, get, List.getElem?_modify]
  by_cases h : i = j
  · rw [if_pos h]
    cases c.docs[j]? <;> simp [h]
  · rw [if_neg h]
    cases c.docs[j]? <;> simp [h]

@[simp] theorem get_modify_self : (c.modify i f).get i = (c.get i).map f := by simp [get_modify]

theorem get_modify_ne (h : i ≠ j) : (c.modify i f).get j = c.get j := by simp [get_modify, h]

theorem lt_nextId_of_get (h : c.get i = some a) : i < c.nextId := by
  rw [get, List.getElem?_eq_some_iff] at h
  exact h.1

theorem get_isSome_iff : (c.get i).isSome ↔ i < c.nextId := by
  simp [get, nextId]

theorem get_nextId : c.get c.nextId = none := by simp [get, nextId]

theorem exists_get_of_lt (h : i < c.nextId) : ∃ a, c.get i = some a :=
  Option.isSome_iff_exists.mp (get_isSome_iff.mpr h)

theorem get_create : (c.create a).get j = if j = c.nextId then some a else c.get j := by
  split
  · subst j
    simp [create, get, nextId]
  · rename_i h
    rcases Nat.lt_or_gt_of_ne h with hlt | hgt
    · exact List.getElem?_append_left hlt
    · simp only [nextId] at hgt
      rw [get, get, create, List.getElem?_eq_none (by simp; omega),
        List.getElem?_eq_none (by omega)]

@[simp] theorem get_create_self : (c.create a).get c.nextId = some a := by simp [get_create]

theorem get_create_of_get {b : α} (h : c.get j = some b) : (c.create a).get j = some b := by
  rw [get_create, if_neg (Nat.ne_of_lt (lt_nextId_of_get h)), h]

/-- A document present after an insertion is the new one or was there before. -/
theorem get_create_cases {b : α} (h : (c.create a).get j = some b) :
    (j = c.nextId ∧ b = a) ∨ (j ≠ c.nextId ∧ c.get j = some b) := by
  rw [get_create] at h
  by_cases hj : j = c.nextId
  · rw [if_pos hj] at h
    exact Or.inl ⟨hj, (Option.some.inj h).symm⟩
  · rw [if_neg hj] at h
    exact Or.inr ⟨hj, h⟩

/-- What a rewrite of one place has made of what is at another. -/
theorem rewritten_cases {o : Option α} {b : α} (h : (if i = j then o.map f else o) = some b) :
    (i = j ∧ ∃ d, o = some d ∧ b = f d) ∨ (i ≠ j ∧ o = some b) := by
  by_cases hij : i = j
  · rw [if_pos hij, Option.map_eq_some_iff] at h
    obtain ⟨d, hd, hb⟩ := h
    exact Or.inl ⟨hij, d, hd, hb.symm⟩
  · rw [if_neg hij] at h
    exact Or.inr ⟨hij, h⟩

/-- A document present after a rewrite is the rewritten one or untouched. -/
theorem get_modify_cases {b : α} (h : (c.modify i f).get j = some b) :
    (i = j ∧ ∃ d, c.get j = some d ∧ b = f d) ∨ (i ≠ j ∧ c.get j = some b) :=
  rewritten_cases (get_modify.symm.trans h)

/-- Only what a rewrite makes of the document that is there matters. -/
theorem modify_congr {g : α → α} (h : ∀ a, c.get i = some a → f a = g a) :
    c.modify i f = c.modify i g := by
  obtain ⟨docs⟩ := c
  refine congrArg Collection.mk (List.ext_getElem? fun j => ?_)
  simp only [List.getElem?_modify]
  by_cases hij : i = j
  · subst hij
    cases hd : docs[i]? with
    | none => rfl
    | some d => simp [h d hd]
  · simp [hij]

theorem modify_eq_self (h : ∀ a, c.get i = some a → f a = a) : c.modify i f = c := by
  rw [modify_congr (g := fun a => a) h]
  refine congrArg Collection.mk (List.ext_getElem? fun j => ?_)
  simp only [List.getElem?_modify]
  cases c.docs[j]? <;> simp

/-- A rewrite brings no document about. -/
theorem exists_get_of_modify {b : α} (h : (c.modify i f).get j = some b) :
    ∃ d, c.get j = some d := by
  rcases get_modify_cases h with ⟨_, d, hd, _⟩ | ⟨_, hd⟩
  · exact ⟨d, hd⟩
  · exact ⟨b, hd⟩

theorem get_updateMany {p : α → Bool} :
    (c.updateMany p f).get i = (c.get i).map fun a => if p a then f a else a := by
  simp [updateMany, get]

@[simp] theorem nextId_updateMany {p : α → Bool} : (c.updateMany p f).nextId = c.nextId := by
  simp [updateMany, nextId]

theorem mem_find {p : Nat → α → Bool} {x : Nat × α} :
    x ∈ c.find p ↔ c.get x.1 = some x.2 ∧ p x.1 x.2 = true := by
  simp only [find, List.mem_filter, List.mem_map, get, Prod.exists, Prod.ext_iff]
  constructor
  · rintro ⟨⟨d, k, hk, rfl, rfl⟩, hp⟩
    exact ⟨List.mem_zipIdx_iff_getElem?.mp hk, hp⟩
  · rintro ⟨hget, hp⟩
    exact ⟨⟨x.2, x.1, List.mem_zipIdx_iff_getElem?.mpr hget, rfl, rfl⟩, hp⟩

/-- Nothing is found twice. -/
theorem nodup_find {p : Nat → α → Bool} : ((c.find p).map (·.1)).Nodup := by
  have hall : ((c.docs.zipIdx.map fun x => (x.2, x.1)).map (·.1)).Nodup := by
    rw [List.map_map]
    have hids : ((·.1) ∘ fun x : α × Nat => (x.2, x.1)) = Prod.snd := rfl
    rw [hids, List.zipIdx_map_snd]
    exact List.nodup_range'
  exact hall.sublist (List.filter_sublist.map _)

/-- Documents that are found by what is read of them. -/
theorem find_map {β : Type u} (c : Collection α) (f : α → β) (p : Nat → β → Bool) :
    (Collection.mk (c.docs.map f)).find p =
      (c.find fun i a => p i (f a)).map fun x => (x.1, f x.2) := by
  simp only [find, List.zipIdx_map, List.map_map, List.filter_map]
  rfl

/-- There is a match. -/
theorem find_ne_nil {p : Nat → α → Bool} :
    c.find p ≠ [] ↔ ∃ i a, c.get i = some a ∧ p i a = true := by
  constructor
  · intro hne
    obtain ⟨x, hmem⟩ := List.exists_mem_of_ne_nil _ hne
    exact ⟨x.1, x.2, mem_find.mp hmem⟩
  · rintro ⟨i, a, ha⟩
    have hmem : (i, a) ∈ c.find p := mem_find.mpr ha
    exact List.ne_nil_of_mem hmem

/-- The first match: a matching document with no older one. -/
theorem head?_find_eq_some {p : Nat → α → Bool} : (c.find p).head? = some (i, a) ↔
    c.get i = some a ∧ p i a = true ∧ ∀ j b, j < i → c.get j = some b → p j b = false := by
  rw [find, List.head?_filter, List.find?_eq_some_iff_getElem]
  simp only [List.length_map, List.length_zipIdx, List.getElem_map, List.getElem_zipIdx,
    Nat.zero_add, Prod.mk.injEq, Bool.not_eq_true', get, List.getElem?_eq_some_iff]
  constructor
  · rintro ⟨hp, k, hk, ⟨rfl, hget⟩, hfirst⟩
    refine ⟨⟨hk, hget⟩, hp, fun j b hj hb => ?_⟩
    obtain ⟨_, rfl⟩ := hb
    exact hfirst j hj
  · rintro ⟨⟨hi, hget⟩, hp, hfirst⟩
    exact ⟨hp, i, hi, ⟨rfl, hget⟩, fun j hj => hfirst j _ hj ⟨Nat.lt_trans hj hi, rfl⟩⟩

/-! ## Where documents are removed -/

section Live

variable {c : Collection (Option α)} {p : Nat → α → Bool} {f : α → α}

theorem live_eq_some : c.live i = some a ↔ c.get i = some (some a) := Option.join_eq_some_iff

theorem live_empty : (empty : Collection (Option α)).live i = none := by
  rw [live, get_empty]
  rfl

theorem lt_nextId_of_live (h : c.live i = some a) : i < c.nextId :=
  lt_nextId_of_get (live_eq_some.mp h)

theorem live_create {o : Option α} :
    (c.create o).live j = if j = c.nextId then o else c.live j := by
  rw [live, get_create]
  split
  · rfl
  · rfl

theorem live_modify : (c.modify i (Option.map f)).live j =
    if i = j then (c.live j).map f else c.live j := by
  rw [live, live, get_modify]
  split
  · cases c.get j with
    | none => rfl
    | some d => rfl
  · rfl

/-- A document that is there after an insertion is the new one or was there before. -/
theorem live_create_cases {o : Option α} (h : (c.create o).live j = some a) :
    (j = c.nextId ∧ o = some a) ∨ c.live j = some a := by
  rw [live_create] at h
  by_cases hj : j = c.nextId
  · rw [if_pos hj] at h
    exact Or.inl ⟨hj, h⟩
  · rw [if_neg hj] at h
    exact Or.inr h

theorem live_create_of_live {o : Option α} (h : c.live j = some a) :
    (c.create o).live j = some a := by
  rw [live_create, if_neg (Nat.ne_of_lt (lt_nextId_of_live h)), h]

/-- A document that is there after a rewrite is the rewritten one or untouched. -/
theorem live_modify_cases (h : (c.modify i (Option.map f)).live j = some a) :
    (i = j ∧ ∃ d, c.live j = some d ∧ a = f d) ∨ (i ≠ j ∧ c.live j = some a) :=
  rewritten_cases (live_modify.symm.trans h)

theorem live_remove : (c.remove i).live j = if i = j then none else c.live j := by
  rw [remove, live, get_modify]
  split
  · cases c.get j <;> rfl
  · rfl

theorem live_of_remove (h : (c.remove i).live j = some a) : c.live j = some a := by
  rw [live_remove] at h
  split at h
  · cases h
  · exact h

theorem live_of_findLive (h : (i, a) ∈ c.findLive p) : c.live i = some a := by
  obtain ⟨x, hx, hsome⟩ := List.mem_filterMap.mp h
  obtain ⟨found, hfound, hpair⟩ := Option.map_eq_some_iff.mp hsome
  cases hpair
  rw [live_eq_some, ← hfound]
  exact (mem_find.mp hx).1

theorem mem_findLive {x : Nat × α} :
    x ∈ c.findLive p ↔ c.live x.1 = some x.2 ∧ p x.1 x.2 = true := by
  constructor
  · intro h
    obtain ⟨y, hy, hsome⟩ := List.mem_filterMap.mp h
    obtain ⟨found, hfound, rfl⟩ := Option.map_eq_some_iff.mp hsome
    obtain ⟨hget, hp⟩ := mem_find.mp hy
    rw [hfound] at hget hp
    exact ⟨live_eq_some.mpr hget, hp⟩
  · rintro ⟨hlive, hp⟩
    exact List.mem_filterMap.mpr ⟨(x.1, some x.2), mem_find.mpr ⟨live_eq_some.mp hlive, hp⟩, rfl⟩

theorem live_removeWhere : (c.removeWhere p).live i = (c.live i).filter fun a => !p i a := by
  rw [live, live, removeWhere, get, get, List.getElem?_mapIdx]
  cases c.docs[i]? with
  | none => rfl
  | some d => rfl

@[simp] theorem nextId_removeWhere : (c.removeWhere p).nextId = c.nextId := by
  simp [removeWhere, nextId]

/-- The ids that `find` gives. -/
theorem map_fst_findLive : (c.findLive p).map (·.1) =
    c.ids.filter fun i => (c.live i).any (p i) := by
  have hfind : ∀ (docs : List (Option α)) (n : Nat),
      ((((docs.zipIdx n).map fun x => (x.2, x.1)).filter fun x => x.2.any (p x.1)).filterMap
        fun x => x.2.map (x.1, ·)).map (·.1) =
      (List.range' n docs.length).filter fun i => (docs[i - n]?.join).any (p i) := by
    intro docs
    induction docs with
    | nil => intro n; rfl
    | cons d docs ih =>
      intro n
      have htail : (List.range' (n + 1) docs.length).filter
          (fun i => ((d :: docs)[i - n]?.join).any (p i)) =
          (List.range' (n + 1) docs.length).filter fun i =>
            (docs[i - (n + 1)]?.join).any (p i) := by
        refine List.filter_congr fun i hi => ?_
        obtain ⟨k, hk⟩ := Nat.exists_eq_add_of_le (List.mem_range'_1.mp hi).1
        have h1 : i - n = k + 1 := by omega
        have h2 : i - (n + 1) = k := by omega
        rw [h1, h2, List.getElem?_cons_succ]
      rw [List.zipIdx_cons, List.map_cons, List.length_cons, List.range'_succ, List.filter_cons,
        List.filter_cons]
      simp only [Nat.sub_self, List.getElem?_cons_zero, Option.join_some]
      rw [htail, ← ih (n + 1)]
      cases d with
      | none => rfl
      | some a =>
        simp only [Option.any_some]
        split <;> simp
  have h := hfind c.docs 0
  rw [ids, List.range_eq_range']
  exact h

theorem nodup_findLive : ((c.findLive p).map (·.1)).Nodup := by
  rw [map_fst_findLive]
  exact List.nodup_range.filter _

end Live

/-! ## Sums over a collection -/

section Sum

variable {M : Type*} [AddCommGroup M] (g : α → M)

/-- The sum of `g` over all documents. -/
def sum (c : Collection α) (g : α → M) : M := (c.docs.map g).sum

@[simp] theorem sum_empty : (empty : Collection α).sum g = 0 := rfl

@[simp] theorem sum_create : (c.create a).sum g = c.sum g + g a := by simp [sum, create]

theorem sum_modify {d : α} (h : c.get i = some d) :
    (c.modify i f).sum g = c.sum g - g d + g (f d) := by
  obtain ⟨docs⟩ := c
  simp only [get] at h
  simp only [sum, modify]
  induction docs generalizing i with
  | nil => simp at h
  | cons b rest ih =>
    cases i with
    | zero =>
      simp only [List.getElem?_cons_zero, Option.some.injEq] at h
      subst h
      simp only [List.modify_zero_cons, List.map_cons, List.sum_cons]
      abel
    | succ i =>
      rw [List.getElem?_cons_succ] at h
      simp only [List.modify_succ_cons, List.map_cons, List.sum_cons, ih h]
      abel

theorem sum_eq_zero (h : ∀ i d, c.get i = some d → g d = 0) : c.sum g = 0 := by
  refine List.sum_eq_zero fun x hx => ?_
  obtain ⟨d, hd, rfl⟩ := List.mem_map.mp hx
  obtain ⟨i, hi⟩ := List.mem_iff_getElem?.mp hd
  exact h i d hi

/-- A rewrite that does not change what is summed leaves the sum alone. -/
theorem sum_modify_eq (h : ∀ d, c.get i = some d → g (f d) = g d) :
    (c.modify i f).sum g = c.sum g := by
  cases hd : c.get i with
  | none =>
    have hlen : c.docs.length ≤ i := by simpa [get] using hd
    rw [modify, List.modify_eq_self hlen]
  | some d =>
    rw [sum_modify g hd, h d hd]
    abel

end Sum

end Collection

end Store
