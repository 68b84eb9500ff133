import FoodDelivery.Discovery.Search

/-!
# What a search finds and what the pages show

* `search_literal`: what each of the three searches finds.
* `pages_complete_iff`: when the pages of the restaurants list each of them once.
-/

namespace FoodDelivery

open Paging

variable {α δ : Type} [DecidableEq δ] (fold : Char → δ)

/-! ## Searches -/

/-- The text, without the spaces around it, is a part of one of the fields, in whatever case. -/
def HasText (search : Option String) (fields : List String) : Prop :=
  ∀ s, search = some s → s ≠ "" →
    ∃ f ∈ fields, (UsersService.trim s).toList.map fold <:+: f.toList.map fold

/-- The text has a NUL character, with which the database takes no pattern. -/
def Refused (search : Option String) : Prop :=
  ∃ s, search = some s ∧ Char.ofNat 0 ∈ (UsersService.trim s).toList

/-- The listing fails when its search is refused; it shows the page, and the count, of what passes
the rest of its filter and has the text otherwise. -/
def SearchedFor {κ : Type} [LinearOrder κ] (result : Option (PaginatedResult α))
    (search : Option String) (fields : α → List String) (plain : α → Bool) (key : α → κ)
    (rows : List α) (page limit : Option Nat) : Prop :=
  (Refused search ∧ result = none) ∨
    (¬ Refused search ∧ ∃ filter : α → Bool,
      (∀ d, filter d = true ↔ plain d = true ∧ HasText fold search (fields d)) ∧
        result = some (paginate filter key rows page limit))

/-- The pattern of a search is the literal that was typed. -/
theorem searchPattern_eq {s : String} (h : Char.ofNat 0 ∉ (UsersService.trim s).toList) :
    searchPattern s = some (Regex.literal (UsersService.trim s).toList) := by
  have hlist : escapeRegExp (UsersService.trim s) = Regex.escape (UsersService.trim s).toList := rfl
  rw [← Regex.mem_escape (by decide)] at h
  rw [searchPattern, hlist, if_neg h, Regex.parse_escape]

theorem searchPattern_refused {s : String} (h : Char.ofNat 0 ∈ (UsersService.trim s).toList) :
    searchPattern s = none :=
  if_pos ((Regex.mem_escape (by decide) _).mpr h)

theorem exists_searchFilter {search : Option String} (hsearch : ¬ Refused search)
    (fields : α → List String) :
    ∃ found, searchFilter fold search fields = some found ∧
      ∀ d, found d = true ↔ HasText fold search (fields d) := by
  cases htyped : search.filter (· ≠ "") with
  | none =>
    refine ⟨fun _ => true, by rw [searchFilter, htyped], ?_⟩
    intro d
    have hempty : ∀ s, search = some s → s = "" := by
      intro s hs
      simpa [hs, Option.filter_eq_none_iff] using htyped
    exact iff_of_true rfl fun s hs hne => absurd (hempty s hs) hne
  | some s =>
    obtain ⟨hs, hne⟩ := Option.filter_eq_some_iff.mp htyped
    have hread : Char.ofNat 0 ∉ (UsersService.trim s).toList := fun h => hsearch ⟨s, hs, h⟩
    refine ⟨_, by rw [searchFilter, htyped, Option.map_eq_some_iff]; exact
      ⟨_, searchPattern_eq hread, rfl⟩, ?_⟩
    intro d
    simp only [List.any_eq_true, Regex.finds_literal]
    constructor
    · intro h t ht _
      have hst : s = t := Option.some.inj (hs.symm.trans ht)
      rw [← hst]
      exact h
    · intro h
      exact h s hs (by simpa using hne)

theorem searchFilter_refused {search : Option String} (h : Refused search)
    (fields : α → List String) : searchFilter fold search fields = none := by
  obtain ⟨s, rfl, hnul⟩ := h
  have hne : s ≠ "" := by
    rintro rfl
    exact absurd hnul (by decide)
  rw [searchFilter, Option.filter_some, if_pos (by simpa using hne)]
  simp only [searchPattern_refused hnul, Option.map_none]

theorem exists_restaurantFilter {query : ListRestaurantsDto} (hsearch : ¬ Refused query.search) :
    ∃ filter, query.filter fold = some filter ∧ ∀ d, filter d = true ↔
      query.plainFilter d = true ∧ HasText fold query.search (d.name :: d.cuisineTypes) := by
  obtain ⟨found, hfound, hspec⟩ := exists_searchFilter fold hsearch
    fun d : Listed => d.name :: d.cuisineTypes
  refine ⟨_, by rw [ListRestaurantsDto.filter, hfound]; rfl, ?_⟩
  intro d
  rw [Bool.and_eq_true, hspec]

/-- **A listing shows what it was searched for**, whatever the rest of its filter and its order. -/
theorem searchedFor_paginate {κ : Type} [LinearOrder κ] (search : Option String)
    (fields : α → List String) (plain : α → Bool) (key : α → κ) (rows : List α)
    (page limit : Option Nat) :
    SearchedFor fold
      (((searchFilter fold search fields).map fun found d => plain d && found d).map
        fun filter => paginate filter key rows page limit)
      search fields plain key rows page limit := by
  by_cases hsearch : Refused search
  · rw [searchFilter_refused fold hsearch]
    exact Or.inl ⟨hsearch, rfl⟩
  · obtain ⟨found, hfound, hspec⟩ := exists_searchFilter fold hsearch fields
    rw [hfound]
    refine Or.inr ⟨hsearch, fun d => plain d && found d, ?_, rfl⟩
    intro d
    rw [Bool.and_eq_true, hspec]

/-- **A search is never read as a pattern, whatever its characters.**  Each of the listings shows
what the rest of its filter lets through and what contains the text, and fails with a NUL
character. -/
theorem search_literal (listed : List Listed) (users : List UserRow)
    (restaurantQuery : ListRestaurantsDto) (storeQuery : ListStoresDto)
    (userQuery : ListUsersDto) :
    SearchedFor fold (findAllApprovedRestaurants fold listed restaurantQuery)
      restaurantQuery.search (fun d => d.name :: d.cuisineTypes) restaurantQuery.plainFilter
      restaurantQuery.key listed restaurantQuery.page restaurantQuery.limit ∧
    SearchedFor fold (findAllApprovedStores fold listed storeQuery)
      storeQuery.search (fun d => [d.name]) storeQuery.plainFilter storeQuery.key listed
      storeQuery.page storeQuery.limit ∧
    SearchedFor fold (listAll fold users userQuery) userQuery.search
      (fun u => [u.user.name, u.user.email]) userQuery.plainFilter
      (fun u => (-(u.createdAt : ℤ))) users userQuery.page userQuery.limit :=
  ⟨searchedFor_paginate fold _ _ _ _ _ _ _, searchedFor_paginate fold _ _ _ _ _ _ _,
    searchedFor_paginate fold _ _ _ _ _ _ _⟩

/-! ## Pages -/

/-- The pages of the restaurants one after the other, from the first to its `totalPages`. -/
def browseRestaurants (rows : Nat → List Listed) (query : ListRestaurantsDto) :
    Option (List Listed) := do
  let first ← findAllApprovedRestaurants fold (rows 1) { query with page := some 1 }
  let results ← (List.range first.totalPages).mapM fun k =>
    findAllApprovedRestaurants fold (rows (k + 1)) { query with page := some (k + 1) }
  return results.flatMap (·.items)

/-- The lists that the pages are cut from. -/
def sortedRows (rows : Nat → List Listed) (query : ListRestaurantsDto) (filter : Listed → Bool)
    (p : Nat) : List Listed :=
  sortBy query.key ((rows p).filter filter)

variable {fold}

theorem browseRestaurants_eq {rows : Nat → List Listed} {query : ListRestaurantsDto}
    {filter : Listed → Bool} (hfilter : query.filter fold = some filter) :
    browseRestaurants fold rows query =
      some (browse (sortedRows rows query filter) (query.limit.getD 20)
        (totalPages ((rows 1).filter filter).length (query.limit.getD 20))) := by
  have hpage (p : Nat) : findAllApprovedRestaurants fold (rows p) { query with page := some p } =
      some (paginate filter query.key (rows p) (some p) query.limit) := by
    show (query.filter fold).map _ = _
    rw [hfilter]
    rfl
  have hpages (ks : List Nat) :
      (ks.mapM fun k =>
        findAllApprovedRestaurants fold (rows (k + 1)) { query with page := some (k + 1) }) =
      some (ks.map fun k =>
        paginate filter query.key (rows (k + 1)) (some (k + 1)) query.limit) := by
    simp only [hpage]
    induction ks with
    | nil => rfl
    | cons k ks ih => simp [ih]
  rw [browseRestaurants, hpage]
  simp only [Option.bind_eq_bind, Option.bind_some, hpages, List.flatMap_map]
  rfl

theorem lists_sortedRows {docs : List Listed} {rows : Nat → List Listed}
    (hrows : ∀ p, (rows p).Perm docs) (query : ListRestaurantsDto) (filter : Listed → Bool) :
    Lists query.key (docs.filter filter) (sortedRows rows query filter) where
  perm p := (perm_sortBy _).trans ((hrows p).filter filter)
  ordered _ := ordered_sortBy _

/-- Any lists that the pages may be cut from come from some order of the documents. -/
theorem exists_rows {docs : List Listed} {query : ListRestaurantsDto} {filter : Listed → Bool}
    {lists : Nat → List Listed} (h : Lists query.key (docs.filter filter) lists) :
    ∃ rows : Nat → List Listed, (∀ p, (rows p).Perm docs) ∧
      sortedRows rows query filter = lists := by
  refine ⟨fun p => lists p ++ docs.filter fun d => !filter d, ?_, ?_⟩
  · intro p
    exact ((h.perm p).append_right _).trans (List.filter_append_perm filter docs)
  · funext p
    have hfound : (lists p).filter filter = lists p := by
      apply List.filter_eq_self.mpr
      intro d hd
      exact (List.mem_filter.mp ((h.perm p).mem_iff.mp hd)).2
    have hnone : (docs.filter fun d => !filter d).filter filter = [] := by
      simp [List.filter_filter]
    rw [sortedRows, List.filter_append, hfound, hnone, List.append_nil]
    exact (h.ordered p).sortBy_eq

/-- **When the pages list every restaurant once.**  Read page by page, with the documents of equal
sort keys in any order at each request, the restaurants come in the order of their keys, the
sponsored ones first, and there are as many as the filter finds.  They are the ones that it finds,
each once, in all readings if and only if no page ends between two documents of one key. -/
theorem pages_complete_iff (fold : Char → δ) {docs : List Listed}
    (hids : (docs.map (·.id)).Nodup) {query : ListRestaurantsDto} (hlimit : query.limit ≠ some 0)
    (hsearch : ¬ Refused query.search) :
    ∃ filter, query.filter fold = some filter ∧
      (∀ rows : Nat → List Listed, (∀ p, (rows p).Perm docs) →
        ∃ listed, browseRestaurants fold rows query = some listed ∧
          listed.map query.key = (sortBy query.key (docs.filter filter)).map query.key) ∧
      ((∀ rows : Nat → List Listed, (∀ p, (rows p).Perm docs) →
          ∃ listed, browseRestaurants fold rows query = some listed ∧
            listed.Perm (docs.filter filter)) ↔
        StepsUp ((sortBy query.key (docs.filter filter)).map query.key)
          (query.limit.getD 20)) := by
  obtain ⟨filter, hfilter, -⟩ := exists_restaurantFilter fold hsearch
  have hpos : 0 < query.limit.getD 20 := by
    cases hq : query.limit with
    | none => decide
    | some n =>
      rw [hq] at hlimit
      simp only [Option.getD_some]
      by_contra hzero
      exact hlimit (congrArg some (Nat.eq_zero_of_not_pos hzero))
  have htotal (rows : Nat → List Listed) (hrows : ∀ p, (rows p).Perm docs) :
      ((rows 1).filter filter).length = (docs.filter filter).length :=
    ((hrows 1).filter filter).length_eq
  have hnodup : (docs.filter filter).Nodup := (List.Nodup.of_map _ hids).filter _
  refine ⟨filter, hfilter, ?_, ?_⟩
  · intro rows hrows
    refine ⟨_, browseRestaurants_eq hfilter, ?_⟩
    rw [map_browse (lists_sortedRows hrows query filter), htotal rows hrows]
    apply List.take_of_length_le
    rw [List.length_map, length_sortBy]
    exact length_le_totalPages hpos _
  · rw [← browse_perm_iff hpos hnodup]
    constructor
    · intro h lists hlists
      obtain ⟨rows, hrows, rfl⟩ := exists_rows hlists
      obtain ⟨listed, hlisted, hperm⟩ := h rows hrows
      rw [browseRestaurants_eq hfilter, htotal rows hrows] at hlisted
      rw [Option.some.inj hlisted]
      exact hperm
    · intro h rows hrows
      refine ⟨_, browseRestaurants_eq hfilter, ?_⟩
      rw [htotal rows hrows]
      exact h _ (lists_sortedRows hrows query filter)

/-- A kitchen that nobody has rated. -/
def unrated (id : VendorId) (name : String) : Listed :=
  ⟨id, name, name, [], none, true, 0, 2, none, false, 0⟩

/-- The first two of the best rated kitchens with an `i` in the name. -/
def bestRated : ListRestaurantsDto :=
  ⟨some " I ", none, none, none, none, some .rating, none, none, some 2⟩

theorem pages_complete_kitchens : ∃ filter, bestRated.filter Char.toLower = some filter ∧
    ((∀ rows : Nat → List Listed,
        (∀ p, (rows p).Perm [unrated 1 "mill", unrated 2 "grill", unrated 3 "diner"]) →
        ∃ listed, browseRestaurants Char.toLower rows bestRated = some listed ∧
          listed.Perm ([unrated 1 "mill", unrated 2 "grill", unrated 3 "diner"].filter filter)) ↔
      StepsUp ((sortBy bestRated.key
        ([unrated 1 "mill", unrated 2 "grill", unrated 3 "diner"].filter filter)).map bestRated.key)
        2) := by
  have hids : ([unrated 1 "mill", unrated 2 "grill", unrated 3 "diner"].map (·.id)).Nodup := by
    decide
  have hlimit : bestRated.limit ≠ some 0 := by decide
  have hsearch : ¬ Refused bestRated.search := by
    rintro ⟨s, hs, hnul⟩
    obtain rfl : " I " = s := Option.some.inj hs
    exact absurd hnul (by decide)
  obtain ⟨filter, hfilter, -, hiff⟩ := pages_complete_iff Char.toLower hids hlimit hsearch
  exact ⟨filter, hfilter, hiff⟩

end FoodDelivery
