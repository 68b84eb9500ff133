import FoodDelivery.Lib.Interleave
import FoodDelivery.Orders.Order
import FoodDelivery.Users.Addresses
import Mathlib.Data.List.Chain

/-!
# Slugs

`slugify` and `generateUniqueSlug`, which asks for one slug after the other until one is free, and
then leaves it to the unique index whether it still is.  Creations are processes that take one
database call at a time; approvals and new names happen beside them.  No slug is ever rewritten.

* `slugify_shape`: what `slugify` returns is made of words with single hyphens between them.
* `candidate_injective`: the slugs that are asked for differ.
* `slugs_law`: where a creation is, what is stored, and which page each slug leads to.
-/

namespace FoodDelivery

open Interleave

/-! ## From names to slugs -/

/-- `[a-z0-9]`. -/
def isSlugChar (c : Char) : Bool := ('a' ≤ c && c ≤ 'z') || ('0' ≤ c && c ≤ '9')

/-- `toLowerCase`, as far as `[a-z0-9]` goes: beside the capital letters, the dotted capital I and
the Kelvin sign have such a character in their lower case. -/
def lowerChar (c : Char) : List Char :=
  if c.toNat = 0x130 then ['i', Char.ofNat 0x307]
  else if c.toNat = 0x212A then ['k']
  else [c.toLower]

def toLowerCase (s : List Char) : List Char := s.flatMap lowerChar

/-- `replace(/[^a-z0-9]+/g, '-')`, within a run of other characters or not. -/
def hyphenate : Bool → List Char → List Char
  | _, [] => []
  | inRun, c :: s =>
    if isSlugChar c then c :: hyphenate false s
    else if inRun then hyphenate true s
    else '-' :: hyphenate true s

/-- `replace(/^-+|-+$/g, '')`. -/
def stripHyphens (s : List Char) : List Char :=
  ((s.dropWhile (· = '-')).reverse.dropWhile (· = '-')).reverse

def slugify (input : String) : List Char :=
  stripHyphens (hyphenate false
    (UsersService.trim (String.ofList (toLowerCase input.toList))).toList)

/-- `slugify(name) || 'restaurant'`, and `'store'` for stores. -/
def slugBase (side : SellerType) (name : String) : List Char :=
  if slugify name = [] then
    match side with
    | .restaurant => ['r', 'e', 's', 't', 'a', 'u', 'r', 'a', 'n', 't']
    | .store => ['s', 't', 'o', 'r', 'e']
  else slugify name

/-- The slug that is asked for after `suffix` others. -/
def candidate (base : List Char) : Nat → List Char
  | 0 => base
  | suffix + 1 => base ++ '-' :: Nat.toDigits 10 (suffix + 1)

/-- Words of `[a-z0-9]` with single hyphens between them. -/
structure SlugShape (s : List Char) : Prop where
  chars : ∀ c ∈ s, isSlugChar c = true ∨ c = '-'
  single : s.IsChain fun a b => isSlugChar a = true ∨ isSlugChar b = true
  head : ∀ c, s.head? = some c → isSlugChar c = true
  last : ∀ c, s.getLast? = some c → isSlugChar c = true

section Shape

variable {s : List Char} {c : Char}

theorem mem_hyphenate {inRun : Bool} (h : c ∈ hyphenate inRun s) :
    isSlugChar c = true ∨ c = '-' := by
  induction s generalizing inRun with
  | nil => simp [hyphenate] at h
  | cons d s ih =>
    rw [hyphenate] at h
    by_cases hd : isSlugChar d = true
    · rw [if_pos hd] at h
      rcases List.mem_cons.mp h with rfl | h
      · exact Or.inl hd
      · exact ih h
    · rw [if_neg hd] at h
      cases inRun with
      | true => exact ih h
      | false =>
        rcases List.mem_cons.mp h with rfl | h
        · exact Or.inr rfl
        · exact ih h

/-- Within a run, a word character comes first. -/
theorem head_hyphenate_true (h : (hyphenate true s).head? = some c) : isSlugChar c = true := by
  induction s with
  | nil => simp [hyphenate] at h
  | cons d s ih =>
    rw [hyphenate] at h
    by_cases hd : isSlugChar d = true
    · rw [if_pos hd] at h
      simp only [List.head?_cons, Option.some.injEq] at h
      exact h ▸ hd
    · rw [if_neg hd] at h
      exact ih h

theorem chain_hyphenate (inRun : Bool) :
    (hyphenate inRun s).IsChain fun a b => isSlugChar a = true ∨ isSlugChar b = true := by
  induction s generalizing inRun with
  | nil => exact List.isChain_nil
  | cons d s ih =>
    rw [hyphenate]
    by_cases hd : isSlugChar d = true
    · rw [if_pos hd]
      exact (ih false).cons fun _ _ => Or.inl hd
    · rw [if_neg hd]
      cases inRun with
      | true => exact ih true
      | false => exact (ih true).cons fun _ hy => Or.inr (head_hyphenate_true hy)

theorem head_dropWhile_hyphen (hs : ∀ c ∈ s, isSlugChar c = true ∨ c = '-')
    (h : (s.dropWhile (· = '-')).head? = some c) : isSlugChar c = true := by
  have hnot := List.head?_dropWhile_not (· = '-') s
  rw [h] at hnot
  have hmem : c ∈ s := (List.dropWhile_suffix _).subset (List.mem_of_head? h)
  rcases hs c hmem with hc | hc
  · exact hc
  · simp [hc] at hnot

/-- **What `slugify` returns is made of words with single hyphens between them.** -/
theorem slugify_shape (input : String) : SlugShape (slugify input) := by
  rw [slugify, stripHyphens]
  generalize hh : hyphenate false
    (UsersService.trim (String.ofList (toLowerCase input.toList))).toList = h
  have hchars : ∀ c ∈ h, isSlugChar c = true ∨ c = '-' := by
    intro c hc
    rw [← hh] at hc
    exact mem_hyphenate hc
  have hchain : h.IsChain fun a b => isSlugChar a = true ∨ isSlugChar b = true :=
    hh ▸ chain_hyphenate false
  generalize ha : h.dropWhile (· = '-') = a
  have hah : a <:+ h := ha ▸ List.dropWhile_suffix _
  have hfirst : ∀ c, a.head? = some c → isSlugChar c = true := fun c hc =>
    head_dropWhile_hyphen hchars (ha ▸ hc)
  generalize hb : a.reverse.dropWhile (· = '-') = b
  have hba : b <:+ a.reverse := hb ▸ List.dropWhile_suffix _
  have hmem : ∀ c ∈ b, c ∈ a := fun c hc => List.mem_reverse.mp (hba.subset hc)
  constructor
  · intro c hc
    exact hchars c (hah.subset (hmem c (List.mem_reverse.mp hc)))
  · rw [List.isChain_reverse]
    have hrev := (List.isChain_reverse.mpr ((hchain.suffix hah).imp fun _ _ h => h.symm)).suffix hba
    exact hrev.imp fun _ _ h => h.symm
  · intro c hc
    rw [List.head?_reverse] at hc
    obtain ⟨p, hp⟩ := hba
    have hlast := congrArg List.getLast? hp
    rw [List.getLast?_append, hc, Option.some_or, List.getLast?_reverse] at hlast
    exact hfirst c hlast.symm
  · intro c hc
    rw [List.getLast?_reverse] at hc
    have hchars' : ∀ c ∈ a.reverse, isSlugChar c = true ∨ c = '-' := fun c hc =>
      hchars c (hah.subset (List.mem_reverse.mp hc))
    exact head_dropWhile_hyphen hchars' (hb ▸ hc)

theorem isSlugChar_of_isDigit (h : c.isDigit = true) : isSlugChar c = true := by
  rw [Char.isDigit_iff_toNat] at h
  simp only [isSlugChar, Bool.or_eq_true, Bool.and_eq_true, decide_eq_true_eq, Char.le_def,
    UInt32.le_iff_toNat_le]
  exact Or.inr h

theorem isSlugChar_of_mem_toDigits {n : Nat} (h : c ∈ Nat.toDigits 10 n) : isSlugChar c = true :=
  isSlugChar_of_isDigit (Nat.isDigit_of_mem_toDigits (by decide) (by decide) h)

/-- A number after a hyphen keeps the shape. -/
theorem SlugShape.candidate {base : List Char} (h : SlugShape base) (hne : base ≠ []) (n : Nat) :
    SlugShape (candidate base n) := by
  cases n with
  | zero => exact h
  | succ n =>
    have hdigits : (Nat.toDigits 10 (n + 1)).IsChain
        fun a b => isSlugChar a = true ∨ isSlugChar b = true := by
      apply List.Pairwise.isChain
      apply List.pairwise_of_forall_mem_list
      intro a ha b _
      exact Or.inl (isSlugChar_of_mem_toDigits ha)
    constructor
    · intro c hc
      rcases List.mem_append.mp hc with hc | hc
      · exact h.chars c hc
      · rcases List.mem_cons.mp hc with hc | hc
        · exact Or.inr hc
        · exact Or.inl (isSlugChar_of_mem_toDigits hc)
    · refine List.isChain_append.mpr ⟨h.single, ?_, ?_⟩
      · apply hdigits.cons
        intro d hd
        exact Or.inr (isSlugChar_of_mem_toDigits (List.mem_of_head? hd))
      · intro x hx y _
        exact Or.inl (h.last x hx)
    · intro c hc
      rw [FoodDelivery.candidate, List.head?_append_of_ne_nil _ hne] at hc
      exact h.head c hc
    · intro c hc
      have hne' : Nat.toDigits 10 (n + 1) ≠ [] := Nat.toDigits_ne_nil
      rw [FoodDelivery.candidate, List.getLast?_append, List.getLast?_cons_of_ne_nil hne'] at hc
      rw [List.getLast?_eq_getLast_of_ne_nil hne', Option.some_or, Option.some.injEq] at hc
      exact isSlugChar_of_mem_toDigits (hc ▸ List.getLast_mem hne')

theorem slugBase_ne_nil (side : SellerType) (name : String) : slugBase side name ≠ [] := by
  unfold slugBase
  split
  · cases side <;> simp
  · assumption

theorem SlugShape.of_all {s : List Char} (h : s.all isSlugChar = true) : SlugShape s where
  chars c hc := Or.inl (List.all_eq_true.mp h c hc)
  single := by
    induction s with
    | nil => exact .nil
    | cons c s ih =>
      rw [List.all_cons, Bool.and_eq_true] at h
      exact List.isChain_cons.mpr ⟨fun _ _ => Or.inl h.1, ih h.2⟩
  head c hc := List.all_eq_true.mp h c (List.mem_of_head? hc)
  last c hc := List.all_eq_true.mp h c (List.mem_of_getLast? hc)

theorem slugBase_shape (side : SellerType) (name : String) : SlugShape (slugBase side name) := by
  unfold slugBase
  split
  · cases side <;> exact .of_all (by decide)
  · exact slugify_shape name

/-- **The slugs that are asked for differ.** -/
theorem candidate_injective (base : List Char) {m n : Nat}
    (h : candidate base m = candidate base n) : m = n := by
  cases m with
  | zero =>
    cases n with
    | zero => rfl
    | succ n =>
      have hlength := congrArg List.length h
      simp only [candidate, List.length_append, List.length_cons] at hlength
      omega
  | succ m =>
    cases n with
    | zero =>
      have hlength := congrArg List.length h
      simp only [candidate, List.length_append, List.length_cons] at hlength
      omega
    | succ n =>
      have hdigits : Nat.toDigits 10 (m + 1) = Nat.toDigits 10 (n + 1) := by
        simpa [candidate] using h
      have hvalue := congrArg (fun d => Nat.ofDigitChars 10 d 0) hdigits
      simpa using hvalue

theorem lowerChar_eq (h : isSlugChar c = true ∨ c = '-') : lowerChar c = [c] := by
  rcases h with h | rfl
  · simp only [isSlugChar, Bool.or_eq_true, Bool.and_eq_true, decide_eq_true_eq, Char.le_def,
      UInt32.le_iff_toNat_le] at h
    have hnat : (97 ≤ c.toNat ∧ c.toNat ≤ 122) ∨ (48 ≤ c.toNat ∧ c.toNat ≤ 57) := h
    have hlower : c.toLower = c := by
      apply dif_neg
      intro hupper
      have hupper' : 65 ≤ c.toNat ∧ c.toNat ≤ 90 := hupper
      omega
    rw [lowerChar, if_neg (by omega), if_neg (by omega), hlower]
  · decide

/-- A slug is its own lower case. -/
theorem SlugShape.toLowerCase_eq (h : SlugShape s) : toLowerCase s = s := by
  have hchar : ∀ c ∈ s, lowerChar c = [c] := fun c hc => lowerChar_eq (h.chars c hc)
  rw [toLowerCase, List.flatMap_congr hchar]
  simp

end Shape

/-! ## Creations -/

/-- A restaurant, or a store.  `requested` is no field of the document: it is the name that its
creation was asked for with, which edits of `name` leave alone. -/
structure Slugged where
  name : String
  slug : List Char
  isApproved : Bool
  requested : String
  deriving DecidableEq

/-- Where `create` stands. -/
inductive CreatePc
  | lookUp (name : String) (suffix : Nat)
  | create (name : String) (suffix : Nat)
  | created
  | threw (message : String)
  deriving DecidableEq

/-- `exists({ slug })`. -/
def slugTaken (docs : List Slugged) (slug : List Char) : Bool := docs.any (·.slug = slug)

/-- One database call, and what the creation does until its next one. -/
def createStep (side : SellerType) (docs : List Slugged) (pc : CreatePc) (r : DbReply) :
    Option (List Slugged × CreatePc) :=
  match pc, r with
  | .lookUp _ _, .threw _ message => some (docs, .threw message)
  | .lookUp name suffix, .ok =>
    if slugTaken docs (candidate (slugBase side name) suffix) then
      some (docs, .lookUp name (suffix + 1))
    else some (docs, .create name suffix)
  | .create name suffix, r =>
    let doc : Slugged :=
      ⟨UsersService.trim name, candidate (slugBase side name) suffix, false, name⟩
    -- `name` is trimmed before it is required
    if doc.name = "" then some (docs, .threw "ValidationError")
    else if slugTaken docs doc.slug then some (docs, .threw "E11000")
    else
      match r with
      | .ok => some (docs ++ [doc], .created)
      | .threw true message => some (docs ++ [doc], .threw message)
      | .threw false message => some (docs, .threw message)
  | .created, _ => none
  | .threw _, _ => none

/-- What approvals and edits leave of a document. -/
structure SluggedWrite where
  index : Nat
  name : String
  isApproved : Bool

def writeSlugged (docs : List Slugged) (w : SluggedWrite) : Option (List Slugged) :=
  (docs[w.index]?).map fun d =>
    docs.set w.index { d with name := w.name, isApproved := w.isApproved }

/-- Any number of creations on one of the two sides. -/
def slugs (side : SellerType) : Machine (List Slugged) CreatePc String DbReply SluggedWrite where
  start _ name := .lookUp name 0
  step := createStep side
  env := writeSlugged

abbrev SlugPool := Pool (List Slugged) CreatePc

abbrev SlugEvent := Event String DbReply SluggedWrite

/-- `findBySlug`. -/
def findBySlug (docs : List Slugged) (slug : String) : Option Slugged :=
  docs.find? fun d => d.slug = toLowerCase slug.toList && d.isApproved

/-! ## What is taken -/

/-- The slugs that are asked for before the `n`-th. -/
def TakenBelow (docs : List Slugged) (base : List Char) (n : Nat) : Prop :=
  ∀ m < n, slugTaken docs (candidate base m) = true

/-- The slug has the next number after others of its base that are taken. -/
def Slugged.Numbered (side : SellerType) (docs : List Slugged) (d : Slugged) : Prop :=
  ∃ n, d.slug = candidate (slugBase side d.requested) n ∧
    TakenBelow docs (slugBase side d.requested) n

/-- The slugs differ, and each was the first free one for the name that was given. -/
structure Registered (side : SellerType) (docs : List Slugged) : Prop where
  distinct : (docs.map (·.slug)).Nodup
  numbered : ∀ d ∈ docs, d.Numbered side docs

def CreatePc.Sound (side : SellerType) (docs : List Slugged) : CreatePc → Prop
  | lookUp name n => TakenBelow docs (slugBase side name) n
  | create name n => TakenBelow docs (slugBase side name) n
  | _ => True

section Taken

variable {side : SellerType} {docs docs' : List Slugged}

theorem slugTaken_iff {slug : List Char} :
    slugTaken docs slug = true ↔ slug ∈ docs.map (·.slug) := by
  simp [slugTaken]

/-- What keeps the slugs keeps what is known of them. -/
theorem TakenBelow.mono {base : List Char} {n : Nat} (h : TakenBelow docs base n)
    (hsub : docs.map (·.slug) ⊆ docs'.map (·.slug)) : TakenBelow docs' base n := by
  intro m hm
  rw [slugTaken_iff]
  exact hsub (slugTaken_iff.mp (h m hm))

theorem CreatePc.Sound.mono {pc : CreatePc} (h : pc.Sound side docs)
    (hsub : docs.map (·.slug) ⊆ docs'.map (·.slug)) : pc.Sound side docs' := by
  cases pc with
  | lookUp name n => exact TakenBelow.mono h hsub
  | create name n => exact TakenBelow.mono h hsub
  | created => trivial
  | threw message => trivial

theorem Slugged.Numbered.mono {d : Slugged} (h : d.Numbered side docs)
    (hsub : docs.map (·.slug) ⊆ docs'.map (·.slug)) : d.Numbered side docs' := by
  obtain ⟨n, hslug, hbelow⟩ := h
  exact ⟨n, hslug, hbelow.mono hsub⟩

theorem Registered.append {doc : Slugged} (h : Registered side docs)
    (hdoc : doc.Numbered side docs) (hfree : slugTaken docs doc.slug = false) :
    Registered side (docs ++ [doc]) := by
  have hsub : docs.map (·.slug) ⊆ (docs ++ [doc]).map (·.slug) := by simp
  constructor
  · rw [List.map_append, List.nodup_append]
    refine ⟨h.distinct, List.nodup_singleton _, ?_⟩
    intro a ha b hb hab
    rw [List.map_singleton, List.mem_singleton] at hb
    subst hab hb
    rw [slugTaken_iff.mpr ha] at hfree
    cases hfree
  · intro d hd
    rcases List.mem_append.mp hd with hd | hd
    · exact (h.numbered d hd).mono hsub
    · rw [List.mem_singleton.mp hd]
      exact hdoc.mono hsub

/-- What no edit changes stays as it is. -/
theorem map_write {β : Type} {f : Slugged → β} {w : SluggedWrite}
    (hf : ∀ d, f { d with name := w.name, isApproved := w.isApproved } = f d)
    (h : writeSlugged docs w = some docs') : docs'.map f = docs.map f := by
  obtain ⟨d, hd, rfl⟩ := Option.map_eq_some_iff.mp h
  rw [List.map_set, hf]
  apply List.ext_getElem?
  intro i
  rw [List.getElem?_set]
  split
  · rename_i hi
    obtain ⟨hlt, hget⟩ := List.getElem?_eq_some_iff.mp hd
    subst hi
    simp [hlt, hget]
  · rfl

theorem map_slug_write {w : SluggedWrite} (h : writeSlugged docs w = some docs') :
    docs'.map (·.slug) = docs.map (·.slug) := map_write (fun _ => rfl) h

/-- An edit leaves every slug where it is. -/
theorem Registered.write {w : SluggedWrite} (h : Registered side docs)
    (hw : writeSlugged docs w = some docs') : Registered side docs' := by
  have hmap := map_slug_write hw
  constructor
  · rw [hmap]
    exact h.distinct
  · intro d hd
    have hpair : docs'.map (fun e => (e.slug, e.requested)) =
        docs.map fun e => (e.slug, e.requested) := map_write (fun _ => rfl) hw
    have hmem : (d.slug, d.requested) ∈ docs.map fun e => (e.slug, e.requested) :=
      hpair ▸ List.mem_map_of_mem hd
    obtain ⟨d₀, hd₀, heq⟩ := List.mem_map.mp hmem
    obtain ⟨hslug, hrequested⟩ := Prod.mk.inj heq
    have hkept : docs.map (·.slug) ⊆ docs'.map (·.slug) := hmap ▸ List.Subset.refl _
    obtain ⟨n, hn, hbelow⟩ := (h.numbered d₀ hd₀).mono hkept
    rw [hslug, hrequested] at hn
    rw [hrequested] at hbelow
    exact ⟨n, hn, hbelow⟩

/-- One database call keeps what is stored sound, and the creation too. -/
theorem createStep_sound {pc pc' : CreatePc} {r : DbReply} (h : Registered side docs)
    (hpc : pc.Sound side docs) (hs : createStep side docs pc r = some (docs', pc')) :
    Registered side docs' ∧ pc'.Sound side docs' ∧
      docs.map (·.slug) ⊆ docs'.map (·.slug) := by
  have hsame : docs.map (·.slug) ⊆ docs.map (·.slug) := List.Subset.refl _
  cases pc with
  | lookUp name suffix =>
    cases r with
    | threw written message =>
      simp only [createStep, Option.some.injEq, Prod.mk.injEq] at hs
      obtain ⟨rfl, rfl⟩ := hs
      exact ⟨h, trivial, hsame⟩
    | ok =>
      simp only [createStep] at hs
      split at hs
      · rename_i htaken
        simp only [Option.some.injEq, Prod.mk.injEq] at hs
        obtain ⟨rfl, rfl⟩ := hs
        refine ⟨h, ?_, hsame⟩
        intro m hm
        rcases Nat.lt_succ_iff_lt_or_eq.mp hm with hm | rfl
        · exact hpc m hm
        · exact htaken
      · simp only [Option.some.injEq, Prod.mk.injEq] at hs
        obtain ⟨rfl, rfl⟩ := hs
        exact ⟨h, hpc, hsame⟩
  | create name suffix =>
    have happend (hfree : ¬ slugTaken docs (candidate (slugBase side name) suffix) = true) :
        Registered side (docs ++
          [⟨UsersService.trim name, candidate (slugBase side name) suffix, false, name⟩]) :=
      h.append ⟨suffix, rfl, hpc⟩ (Bool.eq_false_iff.mpr hfree)
    simp only [createStep] at hs
    split at hs
    · simp only [Option.some.injEq, Prod.mk.injEq] at hs
      obtain ⟨rfl, rfl⟩ := hs
      exact ⟨h, trivial, hsame⟩
    · split at hs
      · simp only [Option.some.injEq, Prod.mk.injEq] at hs
        obtain ⟨rfl, rfl⟩ := hs
        exact ⟨h, trivial, hsame⟩
      · rename_i hfree
        split at hs
        all_goals
          simp only [Option.some.injEq, Prod.mk.injEq] at hs
          obtain ⟨rfl, rfl⟩ := hs
        · exact ⟨happend hfree, trivial, by simp⟩
        · exact ⟨happend hfree, trivial, by simp⟩
        · exact ⟨h, trivial, hsame⟩
  | created => cases hs
  | threw message => cases hs

end Taken

/-! ## Every run -/

section Runs

variable {side : SellerType} {s : SlugPool} {ok : SlugPool → SlugEvent → Prop}

def slugOutline (side : SellerType) : Outline (List Slugged) CreatePc where
  shared := Registered side
  proc docs pc := pc.Sound side docs
  compat _ _ := True
  symm _ _ _ := trivial

theorem slug_kept : (slugOutline side).Kept (slugs side) ok fun _ => True where
  spawn s name _ _ _ := by
    refine ⟨?_, fun _ _ => trivial⟩
    intro m hm
    omega
  run s i r p w p' _ _ h hp hs := by
    obtain ⟨hw, hp', hsub⟩ := createStep_sound h.shared (h.at hp) hs
    refine ⟨hw, hp', ?_⟩
    intro j q _ _ hq _
    exact ⟨hq.mono hsub, trivial⟩
  env s e w _ _ h hw := by
    refine ⟨h.shared.write hw, ?_⟩
    intro q hq
    apply (h.procs q hq).mono
    rw [map_slug_write hw]
    exact List.Subset.refl _

theorem slug_holds (h : (slugs side).Reach ok ⟨[], []⟩ s) : (slugOutline side).Holds s := by
  apply Outline.holds_of_reach slug_kept (fun _ _ => trivial) _ h
  exact Outline.holds_nil ⟨List.nodup_nil, by simp⟩

/-- Slugs that are taken belong to as many documents. -/
theorem TakenBelow.le_length {docs : List Slugged} {base : List Char} {n : Nat}
    (h : TakenBelow docs base n) : n ≤ docs.length := by
  have hnodup : ((List.range n).map (candidate base)).Nodup :=
    List.nodup_range.map fun _ _ => candidate_injective base
  have hsub : (List.range n).map (candidate base) ⊆ docs.map (·.slug) := by
    intro slug hslug
    obtain ⟨m, hm, rfl⟩ := List.mem_map.mp hslug
    exact slugTaken_iff.mp (h m (List.mem_range.mp hm))
  have hle := (hnodup.subperm hsub).length_le
  simpa using hle

/-- One document at most has a slug. -/
theorem Registered.findBySlug_eq {docs : List Slugged} (h : Registered side docs) {d : Slugged}
    (hd : d ∈ docs) {typed : String} (htyped : toLowerCase typed.toList = d.slug) :
    findBySlug docs typed = if d.isApproved then some d else none := by
  have hone : ∀ e ∈ docs, e.slug = d.slug → e = d := fun e he heq =>
    List.inj_on_of_nodup_map h.distinct he hd heq
  rw [findBySlug, htyped]
  by_cases happroved : d.isApproved = true
  · rw [if_pos happroved]
    cases hfind : docs.find? fun e => e.slug = d.slug && e.isApproved with
    | none =>
      rw [List.find?_eq_none] at hfind
      exact absurd (by simp [happroved]) (hfind d hd)
    | some e =>
      have hslug := List.find?_some hfind
      simp only [Bool.and_eq_true, decide_eq_true_eq] at hslug
      rw [hone e (List.mem_of_find?_eq_some hfind) hslug.1]
  · rw [if_neg happroved, List.find?_eq_none]
    intro e he heq
    simp only [Bool.and_eq_true, decide_eq_true_eq] at heq
    exact happroved (hone e he heq.1 ▸ heq.2)

/-- **Slugs, in every run.**  The slugs that a creation has asked for in vain are all held by
documents, as many as it asked for, so it asks at most once more than there are documents.  The slug
of a document has the shape of one, and is numbered after slugs that are taken of the base of the
name it was created with.  Whatever the case it is typed in, it leads to that document if it is
approved, and to none if it is not. -/
theorem slugs_law (h : (slugs side).Reach ok ⟨[], []⟩ s) :
    (∀ name n, .lookUp name n ∈ s.procs →
      TakenBelow s.shared (slugBase side name) n ∧ n ≤ s.shared.length) ∧
    ∀ d ∈ s.shared, SlugShape d.slug ∧ d.Numbered side s.shared ∧
      toLowerCase d.slug = d.slug ∧
      ∀ typed : String, toLowerCase typed.toList = d.slug →
        findBySlug s.shared typed = if d.isApproved then some d else none := by
  obtain ⟨hregistered, hprocs, -⟩ := slug_holds h
  constructor
  · intro name n hn
    have hbelow : TakenBelow s.shared (slugBase side name) n := hprocs _ hn
    exact ⟨hbelow, hbelow.le_length⟩
  · intro d hd
    obtain ⟨n, hslug, hbelow⟩ := hregistered.numbered d hd
    have hshape : SlugShape d.slug := by
      rw [hslug]
      exact (slugBase_shape side d.requested).candidate (slugBase_ne_nil side d.requested) n
    refine ⟨hshape, ⟨n, hslug, hbelow⟩, hshape.toLowerCase_eq, ?_⟩
    intro typed htyped
    exact hregistered.findBySlug_eq hd htyped

end Runs

/-- Three restaurants of one name: the second asks twice, and the third has asked twice when the
first, approved by then, is given another name. -/
def namesakes : List SlugEvent :=
  [.spawn " Chez Zoë! ", .spawn "chez zo", .spawn "Chez-Zo", .run 0 .ok, .run 0 .ok, .run 1 .ok,
    .run 1 .ok, .run 1 .ok, .run 2 .ok, .run 2 .ok, .env ⟨0, "Zoë", true⟩]

theorem slugs_law_namesakes : ∃ s : SlugPool,
    s.shared.map (fun d => (String.ofList d.slug, d.isApproved)) =
      [("chez-zo", true), ("chez-zo-1", false)] ∧
    .lookUp "Chez-Zo" 2 ∈ s.procs ∧ 2 ≤ s.shared.length ∧
    ∀ d ∈ s.shared, SlugShape d.slug ∧ d.Numbered .restaurant s.shared ∧
      findBySlug s.shared (String.ofList d.slug) = if d.isApproved then some d else none := by
  have hrun : ∃ s : SlugPool, (slugs .restaurant).Reach (fun _ _ => true = true) ⟨[], []⟩ s ∧
      decide (s.shared.map (fun d => (String.ofList d.slug, d.isApproved)) =
        [("chez-zo", true), ("chez-zo-1", false)] ∧ .lookUp "Chez-Zo" 2 ∈ s.procs) = true :=
    Machine.exists_reach_of_play (fun _ _ h => h) namesakes (by decide +kernel)
  obtain ⟨s, hreach, hdocs⟩ := hrun
  obtain ⟨hdocs, hasked⟩ := of_decide_eq_true hdocs
  obtain ⟨hlookUp, hstored⟩ := slugs_law hreach
  refine ⟨s, hdocs, hasked, (hlookUp _ _ hasked).2, ?_⟩
  intro d hd
  obtain ⟨hshape, hnumbered, hlower, hfind⟩ := hstored d hd
  refine ⟨hshape, hnumbered, hfind _ ?_⟩
  rw [String.toList_ofList]
  exact hlower

end FoodDelivery
