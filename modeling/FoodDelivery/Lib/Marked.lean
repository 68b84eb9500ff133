import FoodDelivery.Lib.Keyed
import Mathlib.Data.List.Count

/-!
# A list with one marked entry

Entries with distinct keys, one of which is marked unless there are none.  The mark is kept as a
key, so that there cannot be two.

* `add`, `rewrite`, `moveMark`, `remove`: the operations; each of them says where the mark goes.
* `Shows`: a list of records that have a flag each stands for a list with a mark.
* `Shows.countP`: exactly one of the flags is set.
-/

namespace Keyed

universe u v w

variable {α : Type u} {κ : Type v}

/-- Entries, and the key of the marked one. -/
structure Marked (key : α → κ) where
  entries : List α
  mark : Option κ
  distinct : Distinct key entries
  mem_of_mark : ∀ k, mark = some k → k ∈ entries.map key
  empty_of_none : mark = none → entries = []

namespace Marked

variable {key : α → κ}

def empty : Marked key := ⟨[], none, List.nodup_nil, by rintro k ⟨⟩, fun _ => rfl⟩

variable [DecidableEq κ]

/-- One more entry, marked if that is asked for and if it is the first. -/
def add (m : Marked key) (a : α) (hnew : key a ∉ m.entries.map key) (marking : Bool) :
    Marked key where
  entries := m.entries ++ [a]
  mark := if marking || m.mark = none then some (key a) else m.mark
  distinct := m.distinct.concat hnew
  mem_of_mark k hk := by
    rw [List.map_append, List.mem_append]
    split at hk
    · cases hk
      exact Or.inr (List.mem_singleton_self _)
    · exact Or.inl (m.mem_of_mark k hk)
  empty_of_none hnone := by
    split at hnone
    · cases hnone
    · next h => exact absurd (by simp [hnone]) h

/-- The entry with the key is rewritten; the mark stays. -/
def rewrite (m : Marked key) (k : κ) (f : α → α) (hf : ∀ a, key (f a) = key a) : Marked key where
  entries := alter key k f m.entries
  mark := m.mark
  distinct := m.distinct.alter fun a ha => (hf a).trans ha
  mem_of_mark k' hk' := by
    rw [map_key_alter fun a ha => (hf a).trans ha]
    exact m.mem_of_mark k' hk'
  empty_of_none hnone := by
    rw [m.empty_of_none hnone]
    rfl

/-- The entry with the key is marked. -/
def moveMark (m : Marked key) (k : κ) (hk : k ∈ m.entries.map key) : Marked key where
  entries := m.entries
  mark := some k
  distinct := m.distinct
  mem_of_mark := by
    rintro _ ⟨⟩
    exact hk
  empty_of_none := by rintro ⟨⟩

/-- The entry with the key is removed; its mark goes to the first that is left. -/
def remove (m : Marked key) (k : κ) : Marked key where
  entries := others key k m.entries
  mark := if m.mark = some k then (others key k m.entries).head?.map key else m.mark
  distinct := m.distinct.others
  mem_of_mark k' hk' := by
    split at hk'
    · obtain ⟨a, ha, rfl⟩ := Option.map_eq_some_iff.mp hk'
      exact List.mem_map_of_mem (List.mem_of_mem_head? ha)
    · next hne =>
      obtain ⟨a, ha, rfl⟩ := List.mem_map.mp (m.mem_of_mark k' hk')
      refine List.mem_map_of_mem (mem_others.mpr ⟨ha, fun h => hne ?_⟩)
      rw [hk', h]
  empty_of_none hnone := by
    split at hnone
    · rw [Option.map_eq_none_iff] at hnone
      exact List.head?_eq_none_iff.mp hnone
    · rw [m.empty_of_none hnone]
      rfl

@[simp] theorem rewrite_entries {m : Marked key} {k : κ} {f : α → α}
    {hf : ∀ a, key (f a) = key a} :
    (m.rewrite k f hf).entries = alter key k f m.entries := rfl

@[simp] theorem remove_entries {m : Marked key} {k : κ} :
    (m.remove k).entries = others key k m.entries := rfl

end Marked

/-! ## Records with a flag -/

variable {β : Type w} {key : α → κ} (entry : β → α) (flag : β → Bool)

/-- The records hold the entries, and the flag is set on the marked one. -/
structure Shows (l : List β) (m : Marked key) : Prop where
  entries : l.map entry = m.entries
  flags : ∀ b ∈ l, flag b = true ↔ m.mark = some (key (entry b))

variable {entry flag} {l : List β} {m : Marked key}

namespace Shows

theorem empty : Shows entry flag [] (.empty : Marked key) := ⟨rfl, by simp⟩

theorem keys (h : Shows entry flag l m) : l.map (fun b => key (entry b)) = m.entries.map key := by
  rw [← h.entries, List.map_map]
  rfl

theorem distinct (h : Shows entry flag l m) : Distinct (fun b => key (entry b)) l := by
  rw [Distinct, h.keys]
  exact m.distinct

theorem mark_eq_none_iff (h : Shows entry flag l m) : m.mark = none ↔ l = [] := by
  constructor
  · intro hnone
    have hnil := h.entries
    rw [m.empty_of_none hnone] at hnil
    exact List.map_eq_nil_iff.mp hnil
  · rintro rfl
    by_contra hsome
    obtain ⟨k, hk⟩ := Option.ne_none_iff_exists'.mp hsome
    have hmem := m.mem_of_mark k hk
    rw [← h.entries] at hmem
    cases hmem

/-- A record is added that has the flag as asked, once the others have lost it if need be. -/
theorem add (h : Shows entry flag l m) {b : β} (clear : β → β) {marking : Bool}
    (hnew : key (entry b) ∉ m.entries.map key) (hclear : ∀ b, entry (clear b) = entry b)
    (hunset : ∀ b, flag (clear b) = false)
    (hflag : flag b = (marking || decide (l = []))) :
    Shows entry flag ((if flag b then l.map clear else l) ++ [b])
      (m.add (entry b) hnew marking) := by
  have hempty : (marking || decide (m.mark = none)) = flag b := by
    rw [hflag, decide_eq_decide.mpr h.mark_eq_none_iff]
  constructor
  · rw [List.map_append, List.map_singleton]
    refine congrArg (· ++ [entry b]) ?_
    split
    · rw [List.map_map, ← h.entries]
      exact List.map_congr_left fun b _ => hclear b
    · exact h.entries
  · intro c hc
    rw [Marked.add]
    simp only [hempty]
    rcases List.mem_append.mp hc with hold | hlast
    · cases hb : flag b with
      | true =>
        rw [hb, if_pos rfl] at hold
        obtain ⟨d, hd, rfl⟩ := List.mem_map.mp hold
        rw [hunset, if_pos rfl]
        refine iff_of_false (by rintro ⟨⟩) fun hkey => hnew ?_
        rw [Option.some.inj hkey, hclear, ← h.keys]
        exact List.mem_map_of_mem hd
      | false =>
        rw [hb] at hold
        exact h.flags c hold
    · rw [List.mem_singleton.mp hlast]
      cases hb : flag b with
      | true => exact iff_of_true rfl rfl
      | false => exact iff_of_false (by rintro ⟨⟩) fun hmark => hnew (m.mem_of_mark _ hmark)

variable [DecidableEq κ]

/-- **Exactly one flag is set**, if there are any records. -/
theorem countP (h : Shows entry flag l m) : l = [] ∨ l.countP flag = 1 := by
  cases hmark : m.mark with
  | none =>
    have hnil := h.entries
    rw [m.empty_of_none hmark] at hnil
    exact Or.inl (List.map_eq_nil_iff.mp hnil)
  | some k =>
    right
    have hflag : l.countP flag = l.countP ((fun k' => k' == k) ∘ fun b => key (entry b)) := by
      refine List.countP_congr fun b hb => ?_
      rw [h.flags b hb, hmark, Option.some_inj, Function.comp_apply, beq_iff_eq]
      exact eq_comm
    rw [hflag, ← List.countP_map, h.keys]
    exact List.count_eq_one_of_mem m.distinct (m.mem_of_mark k hmark)

theorem any_iff (h : Shows entry flag l m) : l.any flag = true ↔ l ≠ [] := by
  rcases h.countP with rfl | hone
  · simp
  · refine iff_of_true ?_ (by rintro rfl; cases hone)
    have hpos : 0 < l.countP flag := by omega
    exact List.any_eq_true.mpr (List.countP_pos_iff.mp hpos)

/-- A record is rewritten with its flag as it is. -/
theorem rewrite {k : κ} {f : β → β} {g : α → α} (h : Shows entry flag l m)
    (hf : ∀ b, entry (f b) = g (entry b)) (hg : ∀ a, key (g a) = key a)
    (hflag : ∀ b, flag (f b) = flag b) :
    Shows entry flag (alter (fun b => key (entry b)) k f l)
      (m.rewrite k g hg) := by
  constructor
  · rw [map_alter (fun _ => rfl) hf, h.entries]
    rfl
  · intro b hb
    obtain ⟨c, hc, rfl⟩ := h.distinct.mem_alter.mp hb
    rw [Marked.rewrite]
    split
    · rw [hflag, hf, hg]
      exact h.flags c hc
    · exact h.flags c hc

/-- The flag of one record is set to what it was. -/
theorem alter_flag {k : κ} {f : β → β} (h : Shows entry flag l m)
    (hf : ∀ b, entry (f b) = entry b)
    (hflag : ∀ b, flag (f b) = true ↔ m.mark = some k) :
    Shows entry flag (alter (fun b => key (entry b)) k f l) m := by
  constructor
  · rw [h.distinct.alter_eq_map, List.map_map, ← h.entries]
    refine List.map_congr_left fun b _ => ?_
    rw [Function.comp_apply]
    split
    · exact hf b
    · rfl
  · intro b hb
    obtain ⟨c, hc, rfl⟩ := h.distinct.mem_alter.mp hb
    split
    · next hkey => rw [hflag, hf, hkey]
    · exact h.flags c hc

/-- All the flags are taken away and one is set. -/
theorem moveMark {k : κ} (h : Shows entry flag l m) (clear set : β → β)
    (hk : k ∈ m.entries.map key) (hclear : ∀ b, entry (clear b) = entry b)
    (hset : ∀ b, entry (set b) = entry b) (hunset : ∀ b, flag (clear b) = false)
    (hflag : ∀ b, flag (set b) = true) :
    Shows entry flag (alter (fun b => key (entry b)) k set (l.map clear)) (m.moveMark k hk) := by
  have hmap : (l.map clear).map entry = l.map entry := by
    rw [List.map_map]
    exact List.map_congr_left fun b _ => hclear b
  have hdistinct : Distinct (fun b => key (entry b)) (l.map clear) := by
    have hkeys : (l.map clear).map (fun b => key (entry b)) = l.map fun b => key (entry b) := by
      rw [List.map_map]
      exact List.map_congr_left fun b _ => congrArg key (hclear b)
    rw [Distinct, hkeys]
    exact h.distinct
  constructor
  · rw [map_alter (g := id) (fun _ => rfl) hset, hmap, h.entries,
      m.distinct.alter_eq_map]
    simp [Marked.moveMark]
  · intro b hb
    obtain ⟨c, hc, rfl⟩ := hdistinct.mem_alter.mp hb
    rw [Marked.moveMark]
    split
    · next hkey => exact iff_of_true (hflag c) (by rw [hset, hkey])
    · next hkey =>
      obtain ⟨d, _, rfl⟩ := List.mem_map.mp hc
      rw [hunset]
      exact iff_of_false (by rintro ⟨⟩) fun heq => hkey (Option.some.inj heq).symm

/-- A record is removed; if its flag was set, the flag of the first that is left is. -/
theorem remove (h : Shows entry flag l m) (k : κ) (set : β → β)
    (hset : ∀ b, entry (set b) = entry b) (hflag : ∀ b, flag (set b) = true) :
    Shows entry flag
      (if m.mark = some k then (others (fun b => key (entry b)) k l).modify 0 set
        else others (fun b => key (entry b)) k l) (m.remove k) := by
  have hentries : (m.remove k).entries = (others (fun b => key (entry b)) k l).map entry := by
    rw [Marked.remove_entries, ← h.entries]
    exact others_map fun _ => rfl
  have hmove : (m.remove k).mark =
      if m.mark = some k then ((others (fun b => key (entry b)) k l).map entry).head?.map key
      else m.mark := by
    rw [← hentries]
    rfl
  have hdistinct := h.distinct.others (k := k)
  have hflags : ∀ b ∈ others (fun b => key (entry b)) k l,
      key (entry b) ≠ k ∧ (flag b = true ↔ m.mark = some (key (entry b))) := by
    intro b hb
    obtain ⟨hmem, hne⟩ := mem_others.mp hb
    exact ⟨hne, h.flags b hmem⟩
  generalize others (fun b => key (entry b)) k l = rest at hentries hmove hdistinct hflags ⊢
  by_cases hmark : m.mark = some k
  · rw [if_pos hmark] at hmove ⊢
    cases rest with
    | nil => exact ⟨hentries.symm, by rintro b ⟨⟩⟩
    | cons c rest =>
      constructor
      · rw [hentries, List.modify_zero_cons, List.map_cons, List.map_cons, hset]
      · intro b hb
        rw [hmove]
        rw [List.modify_zero_cons, List.mem_cons] at hb
        rcases hb with rfl | hb
        · exact iff_of_true (hflag c) (by rw [hset]; rfl)
        · obtain ⟨hne, hold⟩ := hflags b (List.mem_cons_of_mem c hb)
          rw [hold, hmark]
          refine iff_of_false (fun heq => hne (Option.some.inj heq).symm) fun heq => ?_
          refine (List.nodup_cons.mp hdistinct).1 ?_
          exact List.mem_map.mpr ⟨b, hb, (Option.some.inj heq).symm⟩
  · rw [if_neg hmark] at hmove ⊢
    constructor
    · exact hentries.symm
    · intro b hb
      rw [hmove]
      exact (hflags b hb).2

end Shows

end Keyed
