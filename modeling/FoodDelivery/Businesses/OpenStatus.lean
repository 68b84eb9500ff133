import FoodDelivery.Businesses.Schedule
import FoodDelivery.Lib.Keyed

/-!
# What is shown of a schedule

`getOpenStatus` looks at the first entry for each day only.

* `getOpenStatus_cases`: the status is that of the entries that are the first for their days.
* `open_status_right_iff`: the moments at which the status is right.
* `closed_entry_hides_open_one`: a moment at which it is not.
* `always_seenInTime_iff`: the schedules for which it is right at every moment.
-/

namespace FoodDelivery

open Recurring

namespace OpeningHours

/-- The entries that are not closed and the first for their days. -/
def shown (hours : List OpeningHour) : List OpeningHour :=
  hours.filter fun h => h.usable && findEntry (some hours) h.dayOfWeek.val = some h

/-- No entry is reported sooner than all those that are the first for their days. -/
def SeenInTime (hours : List OpeningHour) (now : WallClock) : Prop :=
  ∀ h ∈ hours, h.usable = true → ∃ h' ∈ shown hours, h'.delay now ≤ h.delay now

instance (hours : List OpeningHour) (now : WallClock) : Decidable (SeenInTime hours now) :=
  inferInstanceAs (Decidable (∀ h ∈ hours, h.usable = true →
    ∃ h' ∈ shown hours, h'.delay now ≤ h.delay now))

section Entries

variable {h h' : OpeningHour} {now : WallClock} {hours : List OpeningHour}

/-! ## The first entries for the days -/

/-- The first entry for a day, unless it is closed. -/
def shownOn (hours : List OpeningHour) (day : Nat) : Option OpeningHour :=
  (findEntry (some hours) day).filter OpeningHour.usable

theorem shownOn_eq_some {day : Nat} :
    shownOn hours day = some h ↔ h ∈ shown hours ∧ h.dayOfWeek.val = day := by
  rw [shownOn, Option.filter_eq_some_iff, shown, List.mem_filter, Bool.and_eq_true,
    decide_eq_true_eq]
  constructor
  · rintro ⟨hfind, husable⟩
    have hmem : h ∈ hours := List.mem_of_find?_eq_some hfind
    have hfirst : hours.find? (fun h => h.dayOfWeek.val = day) = some h := hfind
    have hday := List.find?_some hfirst
    rw [decide_eq_true_eq] at hday
    exact ⟨⟨hmem, husable, hday ▸ hfind⟩, hday⟩
  · rintro ⟨⟨_, husable, hfind⟩, rfl⟩
    exact ⟨hfind, husable⟩

theorem mem_of_shown (h' : h ∈ shown hours) : h ∈ hours ∧ h.usable = true := by
  obtain ⟨hmem, hp⟩ := List.mem_filter.mp h'
  exact ⟨hmem, (Bool.and_eq_true_iff.mp hp).1⟩

/-- What is shown runs today or since yesterday. -/
theorem shownOn_of_runsNow (hmem : h ∈ shown hours) (hruns : h.runsNow now = true) :
    (shownOn hours now.dayOfWeek.val = some h ∧ h.opens ≤ now.minutes.val ∧
        (h.overnight = true ∨ now.minutes.val < h.closes)) ∨
      (shownOn hours ((now.dayOfWeek.val + 6) % 7) = some h ∧ h.overnight = true ∧
        now.minutes.val < h.closes) := by
  simp only [OpeningHour.runsNow, Bool.or_eq_true, Bool.and_eq_true, decide_eq_true_eq] at hruns
  rcases hruns with ⟨hday, hopens, hcloses⟩ | ⟨hday, hovernight, hcloses⟩
  · exact Or.inl ⟨shownOn_eq_some.mpr ⟨hmem, congrArg Fin.val hday⟩, hopens, hcloses⟩
  · exact Or.inr ⟨shownOn_eq_some.mpr ⟨hmem, hday⟩, hovernight, hcloses⟩

theorem yesterdayRuns_iff {day minutes : Nat} :
    yesterdayRuns (findEntry (some hours) day) minutes = true ↔
      ∃ h, shownOn hours day = some h ∧ h.overnight = true ∧ minutes < h.closes := by
  rw [yesterdayRuns, Option.any_eq_true]
  simp only [shownOn, Option.filter_eq_some_iff, Bool.and_eq_true, decide_eq_true_eq, and_assoc]

/-- The loop stops at the first of the days to come that has something to show. -/
theorem findSome?_range' {β : Type} {f : Nat → Option β} {b : β} :
    ∀ {n m : Nat}, (List.range' m n).findSome? f = some b →
      ∃ i, m ≤ i ∧ i < m + n ∧ f i = some b ∧ ∀ j, m ≤ j → j < i → f j = none := by
  intro n
  induction n with
  | zero => rintro m ⟨⟩
  | succ n ih =>
    intro m h
    rw [List.range'_succ, List.findSome?_cons] at h
    cases hm : f m with
    | some c =>
      rw [hm] at h
      exact ⟨m, le_rfl, by omega, hm.trans h, fun j hj hlt => absurd hj (by omega)⟩
    | none =>
      rw [hm] at h
      obtain ⟨i, hle, hlt, hi, hbefore⟩ := ih h
      refine ⟨i, by omega, by omega, hi, fun j hj hji => ?_⟩
      rcases Nat.eq_or_lt_of_le hj with rfl | hj'
      · exact hm
      · exact hbefore j hj' hji

theorem day_daysUntil (h : OpeningHour) (now : WallClock) :
    h.dayOfWeek.val = (now.dayOfWeek.val + h.daysUntil now) % 7 ∧ 1 ≤ h.daysUntil now ∧
      h.daysUntil now ≤ 7 := by
  have hday := h.dayOfWeek.isLt
  have hnow := now.dayOfWeek.isLt
  simp only [OpeningHour.daysUntil]
  omega

theorem daysUntil_eq {i : Nat} (hday : h.dayOfWeek.val = (now.dayOfWeek.val + i) % 7)
    (hone : 1 ≤ i) (hseven : i ≤ 7) : h.daysUntil now = i := by
  have hlt := h.dayOfWeek.isLt
  have hnow := now.dayOfWeek.isLt
  simp only [OpeningHour.daysUntil]
  omega

theorem delay_of_not_today (hnot : h.runsNow now = false) (hlater : h.laterToday now = false) :
    h.delay now = 1440 * h.daysUntil now := by
  rw [OpeningHour.delay, if_neg (by rw [hnot]; decide), if_neg (by rw [hlater]; decide)]

theorem statusToday_cases (hours : List OpeningHour) (day minutes : Nat) :
    (∃ h, shownOn hours day = some h ∧ h.opens ≤ minutes ∧
      (h.overnight = true ∨ minutes < h.closes) ∧
        statusToday (findEntry (some hours) day) minutes = some .openNow) ∨
    (∃ h, shownOn hours day = some h ∧ minutes < h.opens ∧
      statusToday (findEntry (some hours) day) minutes = some (.opensLaterToday h.openTime)) ∨
    ((∀ h, shownOn hours day = some h →
        h.overnight = false ∧ h.opens ≤ minutes ∧ h.closes ≤ minutes) ∧
      statusToday (findEntry (some hours) day) minutes = none) := by
  have hfilter : (findEntry (some hours) day).filter OpeningHour.usable = shownOn hours day := rfl
  simp only [statusToday, hfilter]
  cases shownOn hours day with
  | none => exact Or.inr (Or.inr ⟨(by rintro h ⟨⟩), rfl⟩)
  | some h =>
    rw [Option.bind_some]
    by_cases hopens : h.opens ≤ minutes
    · by_cases hcloses : h.overnight = true ∨ minutes < h.closes
      · refine Or.inl ⟨h, rfl, hopens, hcloses, ?_⟩
        rcases hcloses with hovernight | hcloses
        · rw [if_pos hovernight, if_pos hopens]
        · split
          · rfl
          · rw [if_pos (by simp [hopens, hcloses])]
      · rw [not_or, Bool.not_eq_true, Nat.not_lt] at hcloses
        refine Or.inr (Or.inr ⟨?_, ?_⟩)
        · rintro _ ⟨⟩
          exact ⟨hcloses.1, hopens, hcloses.2⟩
        · rw [hcloses.1, if_neg (by decide), if_neg (by simp [hcloses.2]), if_neg (by omega)]
    · refine Or.inr (Or.inl ⟨h, rfl, by omega, ?_⟩)
      split
      · rfl
      · rw [if_neg (by simp [hopens]), if_pos (by omega)]

theorem not_runsNow (hyesterday : ∀ h, shownOn hours ((now.dayOfWeek.val + 6) % 7) = some h →
      h.overnight = true → ¬ now.minutes.val < h.closes)
    (htoday : ∀ h, shownOn hours now.dayOfWeek.val = some h → h.opens ≤ now.minutes.val →
      ¬ (h.overnight = true ∨ now.minutes.val < h.closes)) (hmem : h ∈ shown hours) :
    h.runsNow now = false := by
  rw [Bool.eq_false_iff]
  intro hruns
  rcases shownOn_of_runsNow hmem hruns with ⟨hshown, hopens, hrest⟩ | ⟨hshown, hovernight, hrest⟩
  · exact htoday h hshown hopens hrest
  · exact hyesterday h hshown hovernight hrest

/-- Today's entry that has not opened is reported before those of other days. -/
theorem delay_le_of_laterToday (hclosed : ∀ h' ∈ shown hours, h'.runsNow now = false)
    (hmem : h ∈ shown hours) (hlater : h.laterToday now = true) :
    ∀ h' ∈ shown hours, h.delay now ≤ h'.delay now := by
  intro h' hmem'
  have hopens := opens_lt h
  obtain ⟨hday, _⟩ := Bool.and_eq_true_iff.mp hlater
  rw [decide_eq_true_eq] at hday
  cases hlater' : h'.laterToday now with
  | true =>
    obtain ⟨hday', _⟩ := Bool.and_eq_true_iff.mp hlater'
    rw [decide_eq_true_eq] at hday'
    have hfirst := shownOn_eq_some.mpr ⟨hmem, congrArg Fin.val hday⟩
    rw [shownOn_eq_some.mpr ⟨hmem', congrArg Fin.val hday'⟩] at hfirst
    cases hfirst
    exact le_rfl
  | false =>
    have hdays := (day_daysUntil h' now).2.1
    rw [delay_of_not_today (hclosed h' hmem') hlater', OpeningHour.delay,
      if_neg (by rw [hclosed h hmem]; decide), if_pos hlater]
    omega

/-- **The loop** finds the first of the days to come, when there is nothing left for today. -/
theorem statusAfter_cases (hclosed : ∀ h' ∈ shown hours, h'.runsNow now = false)
    (hnotlater : ∀ h' ∈ shown hours, h'.laterToday now = false) :
    (∃ h ∈ shown hours, ((List.range' 1 7).findSome?
        (statusAfter (some hours) now.dayOfWeek.val)).getD .unknown = h.status now ∧
      ∀ h' ∈ shown hours, h.delay now ≤ h'.delay now) ∨
    shown hours = [] ∧ ((List.range' 1 7).findSome?
      (statusAfter (some hours) now.dayOfWeek.val)).getD .unknown = .unknown := by
  have hafter : ∀ h' ∈ shown hours,
      statusAfter (some hours) now.dayOfWeek.val (h'.daysUntil now) ≠ none := by
    intro h' hmem' hnone
    have hshown' := shownOn_eq_some.mpr ⟨hmem', (day_daysUntil h' now).1⟩
    rw [statusAfter, Option.map_eq_none_iff] at hnone
    rw [shownOn, hnone] at hshown'
    cases hshown'
  cases hfind : (List.range' 1 7).findSome? (statusAfter (some hours) now.dayOfWeek.val) with
  | none =>
    refine Or.inr ⟨List.eq_nil_iff_forall_not_mem.mpr fun h' hmem' => ?_, rfl⟩
    obtain ⟨_, hone, hseven⟩ := day_daysUntil h' now
    refine hafter h' hmem' (List.findSome?_eq_none_iff.mp hfind _ ?_)
    rw [List.mem_range'_1]
    omega
  | some status =>
    obtain ⟨i, hone, hseven, hi, hbefore⟩ := findSome?_range' hfind
    obtain ⟨h, hshown, rfl⟩ := Option.map_eq_some_iff.mp hi
    obtain ⟨hmem, hday⟩ := shownOn_eq_some.mp hshown
    have hdays := daysUntil_eq hday hone (by omega)
    refine Or.inl ⟨h, hmem, ?_, fun h' hmem' => ?_⟩
    · rw [OpeningHour.status, hnotlater h hmem, hdays]
      rfl
    · rw [delay_of_not_today (hclosed h hmem) (hnotlater h hmem),
        delay_of_not_today (hclosed h' hmem') (hnotlater h' hmem'), hdays]
      by_contra hlt
      exact hafter h' hmem' (hbefore _ (day_daysUntil h' now).2.1 (by omega))

/-- **The status is that of the entry shown that is reported soonest.** -/
theorem getOpenStatus_cases (husable : ∃ h ∈ hours, h.usable = true) (now : WallClock) :
    (∃ h ∈ shown hours, h.runsNow now = true) ∧ getOpenStatus (some hours) now = .openNow ∨
      (∃ h ∈ shown hours, getOpenStatus (some hours) now = h.status now ∧
        ∀ h' ∈ shown hours, h'.runsNow now = false ∧ h.delay now ≤ h'.delay now) ∨
      shown hours = [] ∧ getOpenStatus (some hours) now = .unknown := by
  have hlength : ¬ ((some hours).getD []).filter OpeningHour.usable = [] := by
    obtain ⟨h, hmem, hu⟩ := husable
    exact List.ne_nil_of_mem (List.mem_filter.mpr ⟨hmem, hu⟩)
  rw [getOpenStatus, if_neg (by rwa [List.length_eq_zero_iff])]
  by_cases hruns : yesterdayRuns (findEntry (some hours) ((now.dayOfWeek.val + 6) % 7))
      now.minutes.val = true
  · obtain ⟨h, hshown, hovernight, hcloses⟩ := yesterdayRuns_iff.mp hruns
    obtain ⟨hmem, hday⟩ := shownOn_eq_some.mp hshown
    refine Or.inl ⟨⟨h, hmem, ?_⟩, if_pos hruns⟩
    simp [OpeningHour.runsNow, hday, hovernight, hcloses]
  · rw [if_neg hruns]
    have hyesterday : ∀ h, shownOn hours ((now.dayOfWeek.val + 6) % 7) = some h →
        h.overnight = true → ¬ now.minutes.val < h.closes :=
      fun h hshown hovernight hcloses =>
        hruns (yesterdayRuns_iff.mpr ⟨h, hshown, hovernight, hcloses⟩)
    rcases statusToday_cases hours now.dayOfWeek.val now.minutes.val with
      ⟨h, hshown, hopens, hcloses, hstatus⟩ | ⟨h, hshown, hopens, hstatus⟩ | ⟨hpast, hstatus⟩
    · -- today's window is open
      obtain ⟨hmem, hday⟩ := shownOn_eq_some.mp hshown
      refine Or.inl ⟨⟨h, hmem, ?_⟩, by rw [hstatus]; rfl⟩
      have hcloses' : (h.overnight || decide (now.minutes.val < h.closes)) = true := by
        rwa [Bool.or_eq_true, decide_eq_true_eq]
      simp [OpeningHour.runsNow, Fin.ext hday, hopens, hcloses']
    · -- today's window has not opened
      obtain ⟨hmem, hday⟩ := shownOn_eq_some.mp hshown
      have hclosed : ∀ h' ∈ shown hours, h'.runsNow now = false := by
        refine fun h' hmem' => not_runsNow hyesterday (fun e he hle => ?_) hmem'
        rw [hshown] at he
        cases he
        omega
      have hlater : h.laterToday now = true := by
        simp [OpeningHour.laterToday, Fin.ext hday, hopens]
      refine Or.inr (Or.inl ⟨h, hmem, ?_, fun h' hmem' =>
        ⟨hclosed h' hmem', delay_le_of_laterToday hclosed hmem hlater h' hmem'⟩⟩)
      rw [hstatus, OpeningHour.status, if_pos hlater]
      rfl
    · -- today's window has closed, or there is none
      have hclosed : ∀ h' ∈ shown hours, h'.runsNow now = false := by
        refine fun h' hmem' => not_runsNow hyesterday (fun e he _ hrest => ?_) hmem'
        obtain ⟨hovernight, _, hcloses⟩ := hpast e he
        rcases hrest with hrest | hrest
        · rw [hovernight] at hrest
          cases hrest
        · omega
      have hnotlater : ∀ h' ∈ shown hours, h'.laterToday now = false := by
        intro h' hmem'
        rw [Bool.eq_false_iff]
        intro hlater'
        obtain ⟨hday', hbefore⟩ := Bool.and_eq_true_iff.mp hlater'
        rw [decide_eq_true_eq] at hbefore
        obtain ⟨_, hopens, _⟩ := hpast h' (shownOn_eq_some.mpr
          ⟨hmem', congrArg Fin.val (of_decide_eq_true hday')⟩)
        omega
      rw [hstatus, Option.none_or]
      rcases statusAfter_cases hclosed hnotlater with ⟨h, hmem, heq, hleast⟩ | ⟨hnil, heq⟩
      · exact Or.inr (Or.inl ⟨h, hmem, heq, fun h' hmem' =>
          ⟨hclosed h' hmem', hleast h' hmem'⟩⟩)
      · exact Or.inr (Or.inr ⟨hnil, heq⟩)

/-! ## When the status is right -/

theorem openAt_iff : OpenAt week (windows hours) now.instant ↔
    ∃ h ∈ hours, h.usable = true ∧ h.runsNow now = true := by
  simp only [OpenAt, windows, List.mem_map, List.mem_filter, runsNow_iff]
  constructor
  · rintro ⟨_, ⟨h, ⟨hmem, husable⟩, rfl⟩, hcovers⟩
    exact ⟨h, hmem, husable, hcovers⟩
  · rintro ⟨h, hmem, husable, hcovers⟩
    exact ⟨_, ⟨h, ⟨hmem, husable⟩, rfl⟩, hcovers⟩

theorem runsNow_eq_false (hclosed : ¬ OpenAt week (windows hours) now.instant) (hmem : h ∈ hours)
    (husable : h.usable = true) : h.runsNow now = false := by
  rw [Bool.eq_false_iff]
  exact fun hruns => hclosed (openAt_iff.mpr ⟨h, hmem, husable, hruns⟩)

theorem delay_of_runsNow (hruns : h.runsNow now = true) : h.delay now = 0 := if_pos hruns

theorem next_mem_after (hmem : h ∈ hours) (husable : h.usable = true) :
    next week h.window now.instant ∈ After week (windows hours) now.instant := by
  obtain ⟨hlt, hopens⟩ := (isLeast_next (P := week) (by decide) (w := h.window)
    (t := now.instant)).1
  exact ⟨hlt, h.window,
    List.mem_map_of_mem (List.mem_filter.mpr ⟨hmem, husable⟩), hopens⟩

/-- The first opening is one of the entries'. -/
theorem exists_first_entry (husable : ∃ h ∈ hours, h.usable = true) (now : WallClock) :
    ∃ h ∈ hours, h.usable = true ∧
      IsLeast (After week (windows hours) now.instant) (next week h.window now.instant) := by
  obtain ⟨h, hmem, hu⟩ := husable
  have hne : windows hours ≠ [] :=
    List.ne_nil_of_mem (List.mem_map_of_mem (List.mem_filter.mpr ⟨hmem, hu⟩))
  obtain ⟨w, hw, hleast⟩ := exists_first (P := week) (by decide) hne now.instant
  obtain ⟨e, he, rfl⟩ := List.mem_map.mp hw
  obtain ⟨hmem', hu'⟩ := List.mem_filter.mp he
  exact ⟨e, hmem', hu', hleast⟩

/-- **A status of one of the entries is right** if and only if no entry is reported sooner. -/
theorem right_status_iff (hmem : h ∈ hours) (husable : h.usable = true)
    (hnot : h.runsNow now = false) : Right hours now (h.status now) ↔
      ∀ e ∈ hours, e.usable = true → h.delay now ≤ e.delay now := by
  have hnext := (isLeast_next (P := week) (by decide) (w := h.window) (t := now.instant)).1.1
  have hbound := next_le (P := week) (by decide) (w := h.window) (t := now.instant)
  have hann := announces_status hmem husable now
  constructor
  · intro hright e he hu
    have hclosed : ¬ OpenAt week (windows hours) now.instant :=
      fun hopen => status_ne_openNow (hright.openNow.mpr hopen)
    obtain ⟨T, hleast, hnames⟩ := hright.following hclosed
    have hbefore := hleast.2 (next_mem_after hmem husable)
    have hlate := hann.lateness_eq hnames hnext hleast.1.1 hbound (hbefore.trans hbound)
    have hnotruns := runsNow_eq_false hclosed he hu
    have hmono := lateness_mono hleast.1.1 (hleast.2 (next_mem_after he hu))
    rw [← hlate, ← delay_eq hnot, ← delay_eq hnotruns] at hmono
    exact_mod_cast hmono
  · intro hleast
    have hclosed : ¬ OpenAt week (windows hours) now.instant := by
      rintro hopen
      obtain ⟨e, he, hu, hruns⟩ := openAt_iff.mp hopen
      have hle := hleast e he hu
      rw [delay_of_runsNow hruns] at hle
      exact absurd (delay_pos hnot) (by omega)
    refine ⟨iff_of_false status_ne_openNow hclosed, fun _ => ?_⟩
    obtain ⟨e, he, hu, hfirst⟩ := exists_first_entry ⟨h, hmem, husable⟩ now
    have hnotruns := runsNow_eq_false hclosed he hu
    have hle : (h.delay now : ℤ) ≤ e.delay now := by exact_mod_cast hleast e he hu
    rw [delay_eq hnot, delay_eq hnotruns] at hle
    have hmono := lateness_mono hfirst.1.1
      (hfirst.2 (next_mem_after hmem husable))
    exact ⟨_, hfirst, hann.of_lateness_eq (fun _ => id) hnext (le_antisymm hle hmono)⟩

/-- **The moments at which the status is right**: no entry is reported sooner than those that are
the first for their days. -/
theorem open_status_right_iff (husable : ∃ h ∈ hours, h.usable = true) :
    Right hours now (getOpenStatus (some hours) now) ↔ SeenInTime hours now := by
  rcases getOpenStatus_cases husable now with
    ⟨⟨h, hshown, hruns⟩, hstatus⟩ | ⟨h, hshown, hstatus, hleast⟩ | ⟨hnil, hstatus⟩
  · obtain ⟨hmem, hu⟩ := mem_of_shown hshown
    have hopen := openAt_iff.mpr ⟨h, hmem, hu, hruns⟩
    rw [hstatus]
    refine iff_of_true ⟨iff_of_true rfl hopen, fun hclosed => absurd hopen hclosed⟩ ?_
    intro e _ _
    refine ⟨h, hshown, ?_⟩
    rw [delay_of_runsNow hruns]
    exact Nat.zero_le _
  · obtain ⟨hmem, hu⟩ := mem_of_shown hshown
    rw [hstatus, right_status_iff hmem hu (hleast h hshown).1]
    constructor
    · exact fun hall e he hue => ⟨h, hshown, hall e he hue⟩
    · intro hseen e he hue
      obtain ⟨h', hshown', hle⟩ := hseen e he hue
      exact (hleast h' hshown').2.trans hle
  · obtain ⟨h, hmem, hu⟩ := husable
    rw [hstatus]
    refine iff_of_false (fun hright => ?_) fun hseen => ?_
    · have hclosed : ¬ OpenAt week (windows hours) now.instant :=
        fun hopen => absurd (hright.openNow.mpr hopen) (by rintro ⟨⟩)
      obtain ⟨T, _, hnames⟩ := hright.following hclosed
      exact hnames
    · obtain ⟨h', hshown', _⟩ := hseen h hmem hu
      rw [hnil] at hshown'
      cases hshown'

/-- Where every day has one entry at most, all of them are shown. -/
theorem seenInTime_of_distinct
    (h : Keyed.Distinct (fun h : OpeningHour => h.dayOfWeek.val) hours) :
    SeenInTime hours now := by
  intro e he hu
  have hfind : findEntry (some hours) e.dayOfWeek.val = some e := h.find_of_mem he
  exact ⟨e, List.mem_filter.mpr ⟨he, by rw [hu, hfind]; simp⟩, le_rfl⟩

/-- Two windows on a Wednesday. -/
def splitDay : List OpeningHour :=
  [⟨3, ⟨"09:00", by decide⟩, ⟨"12:00", by decide⟩, none⟩,
    ⟨3, ⟨"14:00", by decide⟩, ⟨"18:00", by decide⟩, none⟩]

theorem open_status_right_split : Right splitDay ⟨3, 600⟩ .openNow ∧
    ¬ Right splitDay ⟨3, 900⟩ (getOpenStatus (some splitDay) ⟨3, 900⟩) ∧
      Right (splitDay.take 1) ⟨3, 900⟩ (getOpenStatus (some (splitDay.take 1)) ⟨3, 900⟩) := by
  have husable : ∃ h ∈ splitDay, h.usable = true := by decide
  refine ⟨(open_status_right_iff husable).mpr (by decide +kernel), ?_,
    (open_status_right_iff (by decide)).mpr (seenInTime_of_distinct (List.nodup_singleton 3))⟩
  rw [open_status_right_iff husable]
  decide +kernel

/-- An entry that is closed, and after it one for the same day that is not. -/
def closedAndOpen : List OpeningHour :=
  [⟨3, ⟨"09:00", by decide⟩, ⟨"17:00", by decide⟩, some true⟩,
    ⟨3, ⟨"09:00", by decide⟩, ⟨"17:00", by decide⟩, none⟩]

/-- **A closed entry hides an open one.** -/
theorem closed_entry_hides_open_one : (∃ h ∈ closedAndOpen, h.usable = true) ∧
    getOpenStatus (some closedAndOpen) ⟨3, 720⟩ = .unknown ∧
      OpenAt week (windows closedAndOpen) (WallClock.instant ⟨3, 720⟩) ∧
        ¬ Right closedAndOpen ⟨3, 720⟩ (getOpenStatus (some closedAndOpen) ⟨3, 720⟩) := by
  have hstatus : getOpenStatus (some closedAndOpen) ⟨3, 720⟩ = .unknown := by decide +kernel
  have hopen : OpenAt week (windows closedAndOpen) (WallClock.instant ⟨3, 720⟩) :=
    openAt_iff.mpr (by decide +kernel)
  refine ⟨by decide, hstatus, hopen, fun hright => ?_⟩
  have hnow := hright.openNow.mpr hopen
  rw [hstatus] at hnow
  cases hnow

end Entries

/-! ## Every moment -/

section Always

variable {hours : List OpeningHour} {now : WallClock}

theorem exists_instant (t : ℤ) : ∃ (now : WallClock) (k : ℤ), t = now.instant + week * k := by
  have hnonneg := Int.emod_nonneg t (by decide : week ≠ 0)
  have hlt := Int.emod_lt_of_pos t (by decide : 0 < week)
  simp only [week] at hnonneg hlt
  refine ⟨⟨⟨(t % 10080 / 1440).toNat, by omega⟩, ⟨(t % 1440).toNat, by omega⟩⟩, t / 10080, ?_⟩
  simp only [WallClock.instant, week]
  omega

/-- **The status is right at every moment** if and only if the windows that are shown cover all
the others. -/
theorem always_seenInTime_iff : (∀ now, SeenInTime hours now) ↔
    ∀ t, OpenAt week (windows hours) t → OpenAt week (windows (shown hours)) t := by
  constructor
  · intro hseen t hopen
    obtain ⟨now, k, rfl⟩ := exists_instant t
    have hnow := hopen.add_period (-k)
    rw [show now.instant + week * k + week * -k = now.instant by ring] at hnow
    obtain ⟨e, he, hu, hruns⟩ := openAt_iff.mp hnow
    obtain ⟨e', he', hle⟩ := hseen now e he hu
    rw [delay_of_runsNow hruns] at hle
    have hruns' : e'.runsNow now = true := by
      by_contra hnot
      exact absurd (delay_pos (Bool.eq_false_iff.mpr hnot)) (by omega)
    exact (openAt_iff.mpr ⟨e', he', (mem_of_shown he').2, hruns'⟩).add_period k
  · intro hcover now e he hu
    by_cases hshown : OpenAt week (windows (shown hours)) now.instant
    · obtain ⟨e', he', _, hruns'⟩ := openAt_iff.mp hshown
      refine ⟨e', he', ?_⟩
      rw [delay_of_runsNow hruns']
      exact Nat.zero_le _
    · -- then nothing is open, and the first opening is one of those that are shown
      have hsub : windows (shown hours) ⊆ windows hours := by
        intro w hw
        obtain ⟨e', he', rfl⟩ := List.mem_map.mp hw
        obtain ⟨hmem, hu'⟩ := mem_of_shown (List.mem_filter.mp he').1
        exact List.mem_map_of_mem (List.mem_filter.mpr ⟨hmem, hu'⟩)
      have hpos : ∀ w ∈ windows hours, 0 < w.length := by
        intro w hw
        obtain ⟨e', _, rfl⟩ := List.mem_map.mp hw
        exact (length_window e').1
      obtain ⟨_, _, _, hfirst⟩ := exists_first_entry ⟨e, he, hu⟩ now
      have hfirst' := first_of_covers hsub hpos hcover hshown hfirst
      obtain ⟨_, w, hw, _⟩ := hfirst'.1
      obtain ⟨d, hd, rfl⟩ := List.mem_map.mp hw
      obtain ⟨hdshown, hdusable⟩ := List.mem_filter.mp hd
      obtain ⟨e', he', hu', hleast⟩ := exists_first_entry ⟨d, hdshown, hdusable⟩ now
      refine ⟨e', he', ?_⟩
      have hnot' := runsNow_eq_false hshown he' hu'
      have hnot := runsNow_eq_false (fun hopen => hshown (hcover _ hopen)) he hu
      have hmono := lateness_mono hfirst.1.1 (hfirst.2 (next_mem_after he hu))
      rw [hfirst'.unique hleast, ← delay_eq hnot', ← delay_eq hnot] at hmono
      exact_mod_cast hmono

end Always

end OpeningHours

end FoodDelivery
