import Mathlib.Data.List.Sort
import Mathlib.Data.List.Perm.Subperm

/-!
# Pages of a sorted list

A list is read page by page, `limit` entries a page.  Each page is cut from a list of its own: what
was sorted anew for it, with the entries of one key in any order.

* `browse_const`: pages of one list are that list, from its start on.
* `map_browse`: in whatever order the entries of one key come, the keys are read in order.
* `browse_perm_iff`: **every reading of the pages gives each entry once if and only if no page ends
  within the entries of one key**.
-/

namespace Paging

variable {α κ : Type}

/-- The page with number `p`, from 1 on. -/
def page (l : List α) (p limit : Nat) : List α := (l.drop ((p - 1) * limit)).take limit

/-- The number of pages, one at least. -/
def totalPages (total limit : Nat) : Nat := max 1 ((total + limit - 1) / limit)

/-- The first `n` pages one after the other, each cut from a list of its own. -/
def browse (lists : Nat → List α) (limit n : Nat) : List α :=
  (List.range n).flatMap fun k => page (lists (k + 1)) (k + 1) limit

/-! ## Pages of one list -/

theorem take_append_page (l : List α) (k limit : Nat) :
    l.take (k * limit) ++ page l (k + 1) limit = l.take ((k + 1) * limit) := by
  rw [page, Nat.add_sub_cancel, Nat.add_mul, Nat.one_mul]
  exact (List.take_add).symm

theorem browse_succ (lists : Nat → List α) (limit n : Nat) :
    browse lists limit (n + 1) = browse lists limit n ++ page (lists (n + 1)) (n + 1) limit := by
  simp [browse, List.range_succ]

/-- **Pages of one list are that list, from its start on.** -/
theorem browse_const (l : List α) (limit n : Nat) :
    browse (fun _ => l) limit n = l.take (n * limit) := by
  induction n with
  | zero => simp [browse]
  | succ n ih => rw [browse_succ, ih, take_append_page]

theorem length_le_totalPages {limit : Nat} (hlimit : 0 < limit) (total : Nat) :
    total ≤ totalPages total limit * limit := by
  have hdiv : total + limit - 1 < limit * ((total + limit - 1) / limit + 1) :=
    Nat.lt_mul_div_succ _ hlimit
  have hle : (total + limit - 1) / limit ≤ totalPages total limit := Nat.le_max_right _ _
  have hmul := Nat.mul_le_mul_left limit hle
  rw [Nat.mul_add, Nat.mul_one] at hdiv
  rw [Nat.mul_comm]
  omega

/-- A page that starts within the list is one of them. -/
theorem lt_totalPages {limit k total : Nat} (hlimit : 0 < limit) (h : k * limit < total) :
    k < totalPages total limit := by
  by_contra hnot
  have hle := Nat.mul_le_mul_right limit (Nat.le_of_not_lt hnot)
  have htotal := length_le_totalPages hlimit total
  omega

theorem browse_totalPages {limit : Nat} (hlimit : 0 < limit) (l : List α) :
    browse (fun _ => l) limit (totalPages l.length limit) = l := by
  rw [browse_const]
  exact List.take_of_length_le (length_le_totalPages hlimit l.length)

theorem map_page (f : α → κ) (l : List α) (p limit : Nat) :
    (page l p limit).map f = page (l.map f) p limit := by
  rw [page, page, List.map_take, List.map_drop]

/-! ## Lists in the order of their keys -/

section Sorted

variable [LinearOrder κ] (key : α → κ)

/-- Sorted by key. -/
def sortBy (l : List α) : List α := l.insertionSort fun a b => key a ≤ key b

/-- The entries come in the order of their keys. -/
def Ordered (l : List α) : Prop := l.Pairwise fun a b => key a ≤ key b

variable {key}

theorem perm_sortBy (l : List α) : (sortBy key l).Perm l := List.perm_insertionSort _ l

theorem length_sortBy (l : List α) : (sortBy key l).length = l.length :=
  (perm_sortBy l).length_eq

theorem ordered_sortBy (l : List α) : Ordered key (sortBy key l) := by
  have : Std.Total fun a b : α => key a ≤ key b := ⟨fun a b => le_total (key a) (key b)⟩
  have : IsTrans α fun a b => key a ≤ key b := ⟨fun _ _ _ => le_trans⟩
  exact List.pairwise_insertionSort _ l

theorem Ordered.sortBy_eq {l : List α} (h : Ordered key l) : sortBy key l = l :=
  List.Pairwise.insertionSort_eq h

theorem Ordered.map {l : List α} (h : Ordered key l) : (l.map key).Pairwise (· ≤ ·) :=
  List.pairwise_map.mpr h

/-- Two orders of the same entries show the same keys. -/
theorem Ordered.map_eq {l m : List α} (hl : Ordered key l) (hm : Ordered key m) (h : l.Perm m) :
    l.map key = m.map key :=
  List.Perm.eq_of_pairwise (fun _ _ _ _ => le_antisymm) hl.map hm.map (h.map key)

/-- What comes before a step between two keys is what has one of the lower keys. -/
theorem Ordered.take_eq_filter {l : List α} (hl : Ordered key l) {n : Nat} {a b : κ}
    (ha : (l.map key)[n]? = some a) (hb : (l.map key)[n + 1]? = some b) (hab : a < b) :
    l.take (n + 1) = l.filter fun x => key x ≤ a := by
  induction l generalizing n with
  | nil => simp at ha
  | cons x l ih =>
    obtain ⟨hx, hl⟩ := List.pairwise_cons.mp hl
    cases n with
    | zero =>
      have hxa : key x = a := by simpa using ha
      have hnone : ∀ y ∈ l, ¬ key y ≤ a := by
        cases l with
        | nil => simp at hb
        | cons z l =>
          have hzb : key z = b := by simpa using hb
          intro y hy hya
          have hzy : key z ≤ key y := by
            rcases List.mem_cons.mp hy with rfl | hy
            · exact le_refl _
            · exact (List.pairwise_cons.mp hl).1 y hy
          exact absurd (hab.trans_le (hzb ▸ hzy)) (not_lt.mpr hya)
      have hfilter : l.filter (fun y => key y ≤ a) = [] := by
        rw [List.filter_eq_nil_iff]
        intro y hy
        simpa using hnone y hy
      simp [hxa, hfilter]
    | succ n =>
      have hxa : key x ≤ a := by
        have hmem : a ∈ l.map key := List.mem_of_getElem? ha
        obtain ⟨y, hy, rfl⟩ := List.mem_map.mp hmem
        exact hx y hy
      rw [List.take_succ_cons, List.filter_cons_of_pos (by simpa using hxa)]
      exact congrArg (x :: ·) (ih hl ha hb)

/-- Cut where the key steps up, two orders of the same entries have the same entries before the
cut. -/
theorem Ordered.take_perm {l m : List α} (hl : Ordered key l) (hm : Ordered key m) (h : l.Perm m)
    {n : Nat} (hstep : ∀ a b, (l.map key)[n]? = some a → (l.map key)[n + 1]? = some b → a < b) :
    (l.take (n + 1)).Perm (m.take (n + 1)) := by
  have hkeys := hl.map_eq hm h
  by_cases hn : n + 1 < l.length
  · have hn' : n < l.length := by omega
    have ha : (l.map key)[n]? = some (key l[n]) := by simp [hn']
    have hb : (l.map key)[n + 1]? = some (key l[n + 1]) := by simp [hn]
    have hab := hstep _ _ ha hb
    rw [hl.take_eq_filter ha hb hab, hm.take_eq_filter (hkeys ▸ ha) (hkeys ▸ hb) hab]
    exact h.filter _
  · have hlength := h.length_eq
    rw [List.take_of_length_le (by omega), List.take_of_length_le (by omega)]
    exact h

end Sorted

/-! ## Pages of many lists -/

section Browse

variable [LinearOrder κ] {key : α → κ} {l : List α} {limit : Nat}

/-- The lists that the pages are cut from. -/
structure Lists (key : α → κ) (l : List α) (lists : Nat → List α) : Prop where
  perm (p : Nat) : (lists p).Perm l
  ordered (p : Nat) : Ordered key (lists p)

/-- Where a page ends, the key steps up. -/
def StepsUp (keys : List κ) (limit : Nat) : Prop :=
  ∀ n a b, (n + 1) % limit = 0 → keys[n]? = some a → keys[n + 1]? = some b → a < b

/-- Where no two entries have one key, no page ends between two of one key. -/
theorem stepsUp_of_nodup (h : (l.map key).Nodup) : StepsUp ((sortBy key l).map key) limit := by
  intro n a b _ ha hb
  have hsorted : ((sortBy key l).map key).Pairwise (· ≤ ·) := (ordered_sortBy l).map
  have hdistinct : ((sortBy key l).map key).Nodup := ((perm_sortBy l).map key).nodup_iff.mpr h
  obtain ⟨hn, rfl⟩ := List.getElem?_eq_some_iff.mp ha
  obtain ⟨hn', rfl⟩ := List.getElem?_eq_some_iff.mp hb
  refine lt_of_le_of_ne (List.pairwise_iff_getElem.mp hsorted n (n + 1) hn hn' (by omega)) ?_
  intro heq
  exact absurd (hdistinct.getElem_inj_iff.mp heq) (by omega)

theorem Lists.map_eq {lists : Nat → List α} (h : Lists key l lists) (p : Nat) :
    (lists p).map key = (sortBy key l).map key :=
  (h.ordered p).map_eq (ordered_sortBy l) ((h.perm p).trans (perm_sortBy l).symm)

/-- **In whatever order the entries of one key come, the keys are read in order.** -/
theorem map_browse {lists : Nat → List α} (h : Lists key l lists) (limit n : Nat) :
    (browse lists limit n).map key = ((sortBy key l).map key).take (n * limit) := by
  induction n with
  | zero => simp [browse]
  | succ n ih =>
    rw [browse_succ, List.map_append, ih, map_page, h.map_eq]
    exact take_append_page _ n limit

theorem Lists.take_perm {lists : Nat → List α} (h : Lists key l lists)
    (hsteps : StepsUp ((sortBy key l).map key) limit) (p k : Nat) :
    ((lists p).take (k * limit)).Perm ((sortBy key l).take (k * limit)) := by
  by_cases hzero : k * limit = 0
  · simp [hzero]
  · obtain ⟨n, hn⟩ := Nat.exists_eq_succ_of_ne_zero hzero
    rw [hn]
    apply (h.ordered p).take_perm (ordered_sortBy l) ((h.perm p).trans (perm_sortBy l).symm)
    intro a b ha hb
    rw [h.map_eq] at ha hb
    apply hsteps n a b _ ha hb
    show n.succ % limit = 0
    rw [← hn]
    exact Nat.mul_mod_left k limit

/-- Where every page ends at a step, each page has the same entries in every order. -/
theorem Lists.page_perm {lists : Nat → List α} (h : Lists key l lists)
    (hsteps : StepsUp ((sortBy key l).map key) limit) (k : Nat) :
    (page (lists (k + 1)) (k + 1) limit).Perm (page (sortBy key l) (k + 1) limit) := by
  have hbefore := h.take_perm hsteps (k + 1) k
  have hafter := h.take_perm hsteps (k + 1) (k + 1)
  rw [← take_append_page, ← take_append_page] at hafter
  exact (List.perm_append_left_iff _).mp ((hbefore.symm.append_right _).trans hafter)

theorem Lists.browse_perm {lists : Nat → List α} (h : Lists key l lists) (hlimit : 0 < limit)
    (hsteps : StepsUp ((sortBy key l).map key) limit) :
    (browse lists limit (totalPages l.length limit)).Perm l := by
  have hpages : (browse lists limit (totalPages l.length limit)).Perm
      (browse (fun _ => sortBy key l) limit (totalPages l.length limit)) :=
    List.Perm.flatMap_left _ fun k _ => h.page_perm hsteps k
  have hall := browse_totalPages hlimit (sortBy key l)
  rw [length_sortBy] at hall
  rw [hall] at hpages
  exact hpages.trans (perm_sortBy l)

/-- Two entries of one key on either side of a page's end, in the other order for one page: the
first is read twice and the second not at all. -/
theorem eq_of_browse_perm {s before after : List α} {x y : α} {k n : Nat}
    (hs : s = before ++ x :: y :: after) (hlength : before.length + 1 = k * limit)
    (hlimit : 0 < limit) (hk : k < n)
    (h : (browse (fun p => if p = k + 1 then before ++ y :: x :: after else s) limit n).Perm
      (browse (fun _ => s) limit n)) : x = y := by
  have hrange : (List.range n).Perm (k :: (List.range n).erase k) :=
    List.perm_cons_erase (List.mem_range.mpr hk)
  have hothers : ((List.range n).erase k).flatMap
        (fun j => page (if j + 1 = k + 1 then before ++ y :: x :: after else s) (j + 1) limit) =
      ((List.range n).erase k).flatMap fun j => page s (j + 1) limit := by
    apply List.flatMap_congr
    intro j hj
    have hjk : j ≠ k := ((List.nodup_range).mem_erase_iff.mp hj).1
    rw [if_neg (by omega)]
  have hboth := ((hrange.flatMap_right _).symm.trans h).trans (hrange.flatMap_right _)
  rw [List.flatMap_cons, List.flatMap_cons, hothers] at hboth
  have hpage := (List.perm_append_right_iff _).mp hboth
  simp only [if_true] at hpage
  obtain ⟨limit, rfl⟩ := Nat.exists_eq_succ_of_ne_zero (Nat.ne_of_gt hlimit)
  have hdrop (u v : α) : page (before ++ u :: v :: after) (k + 1) (limit + 1) =
      v :: after.take limit := by
    rw [page, Nat.add_sub_cancel, ← hlength, List.drop_append, List.drop_of_length_le (by omega)]
    simp
  simp only [hs, hdrop] at hpage
  have hsingle : ([x] ++ after.take limit).Perm ([y] ++ after.take limit) := hpage
  exact List.singleton_perm_singleton.mp ((List.perm_append_right_iff _).mp hsingle)

/-- The lists of which all but one have the entries in the order of `sortBy`, and one has two
neighbours of one key the other way round. -/
theorem Lists.swapped {before after : List α} {x y : α}
    (hs : sortBy key l = before ++ x :: y :: after) (hxy : key x = key y) (q : Nat) :
    Lists key l fun p => if p = q then before ++ y :: x :: after else sortBy key l := by
  have hperm : (before ++ y :: x :: after).Perm (sortBy key l) := by
    rw [hs]
    exact (List.Perm.swap x y after).append_left before
  have hkeys : (before ++ y :: x :: after).map key = (sortBy key l).map key := by
    rw [hs]
    simp [hxy]
  constructor
  · intro p
    by_cases hp : p = q
    · simp only [if_pos hp]
      exact hperm.trans (perm_sortBy l)
    · simp only [if_neg hp]
      exact perm_sortBy l
  · intro p
    by_cases hp : p = q
    · simp only [if_pos hp]
      apply List.pairwise_map.mp
      rw [hkeys]
      exact (ordered_sortBy l).map
    · simp only [if_neg hp]
      exact ordered_sortBy l

/-- **Every reading of the pages gives each entry once if and only if no page ends within the
entries of one key.** -/
theorem browse_perm_iff (hlimit : 0 < limit) (hnodup : l.Nodup) :
    (∀ lists, Lists key l lists → (browse lists limit (totalPages l.length limit)).Perm l) ↔
      StepsUp ((sortBy key l).map key) limit := by
  constructor
  · intro h n a b hmod ha hb
    have hn : n + 1 < (sortBy key l).length := by
      simpa using (List.getElem?_eq_some_iff.mp hb).1
    have hn' : n < (sortBy key l).length := by omega
    have hs : sortBy key l = (sortBy key l).take n ++
        (sortBy key l)[n] :: (sortBy key l)[n + 1] :: (sortBy key l).drop (n + 2) := by
      rw [← List.drop_eq_getElem_cons hn, ← List.drop_eq_getElem_cons hn', List.take_append_drop]
    have hx : key (sortBy key l)[n] = a := by simpa [hn'] using ha
    have hy : key (sortBy key l)[n + 1] = b := by simpa [hn] using hb
    have hle : a ≤ b := by
      rw [← hx, ← hy]
      exact (List.pairwise_iff_getElem.mp (ordered_sortBy l)) n (n + 1) hn' hn (by omega)
    by_contra hab
    have heq : a = b := le_antisymm hle (not_lt.mp hab)
    -- the page after the one that ends between the two is read with the two the other way round
    obtain ⟨k, hk⟩ := Nat.dvd_of_mod_eq_zero hmod
    rw [Nat.mul_comm] at hk
    have hlists := h _ (Lists.swapped hs (hx.trans (heq.trans hy.symm)) (k + 1))
    have hall := browse_totalPages hlimit (sortBy key l)
    rw [length_sortBy] at hall
    rw [length_sortBy] at hn
    have hsame := eq_of_browse_perm hs (by rw [List.length_take]; omega) hlimit
      (lt_totalPages hlimit (hk ▸ hn))
      ((hlists.trans (perm_sortBy l).symm).trans (List.Perm.of_eq hall.symm))
    have hindex := ((perm_sortBy l).nodup_iff.mpr hnodup).getElem_inj_iff.mp hsame
    omega
  · intro hsteps lists h
    exact h.browse_perm hlimit hsteps

end Browse

end Paging
