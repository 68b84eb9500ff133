import FoodDelivery.Businesses.OpeningHours
import FoodDelivery.Lib.Recurring

/-!
# What a schedule means

A schedule is a list of windows that recur every week, on a timeline of minutes.  A status is right
when it says what the windows say.

* `runsNow_iff`, `next_window`: an entry is read off the wall clock as its window is off the
  timeline.
* `announces_status`: what is to be reported of one entry.
* `Announces.lateness_eq`: a status tells how late the opening is that it names.
-/

namespace FoodDelivery

open Recurring

namespace OpeningHours

/-- The minutes of a week. -/
abbrev week : ℤ := 10080

namespace OpeningHour

/-- From `openTime` until `closeTime`, which is on the next day unless it is later. -/
def window (h : OpeningHour) : Window where
  start := h.dayOfWeek.val * 1440 + h.opens
  length := if h.overnight then h.closes + 1440 - h.opens else h.closes - h.opens

end OpeningHour

/-- The minute of the week. -/
def WallClock.instant (now : WallClock) : ℤ := now.dayOfWeek.val * 1440 + now.minutes.val

/-- The windows of the entries that are not closed. -/
def windows (hours : List OpeningHour) : List Window :=
  (hours.filter OpeningHour.usable).map OpeningHour.window

/-- The status names an opening: with its time, as tomorrow's, or by its day of the week. -/
def Announces (hours : List OpeningHour) (now : WallClock) (T : ℤ) : OpenStatus → Prop
  | .opensLaterToday time =>
    T / 1440 = now.dayOfWeek.val ∧
      ∃ h ∈ hours, h.usable = true ∧ Opens week h.window T ∧ h.openTime = time
  | .closedUntilTomorrow => T / 1440 = now.dayOfWeek.val + 1
  | .closedUntilDay day => now.dayOfWeek.val + 1 < T / 1440 ∧ day = T / 1440 % 7
  | .openNow => False
  | .unknown => False

/-- **The status is what the schedule says.** -/
structure Right (hours : List OpeningHour) (now : WallClock) (status : OpenStatus) : Prop where
  openNow : status = .openNow ↔ OpenAt week (windows hours) now.instant
  following : ¬ OpenAt week (windows hours) now.instant →
    ∃ T, IsLeast (After week (windows hours) now.instant) T ∧ Announces hours now T status

/-! ## Off the wall clock -/

namespace OpeningHour

variable (h : OpeningHour) (now : WallClock)

/-- The moment is in today's window, or in what is left of yesterday's. -/
def runsNow : Bool :=
  h.dayOfWeek = now.dayOfWeek &&
      (h.opens ≤ now.minutes.val && (h.overnight || now.minutes.val < h.closes)) ||
    h.dayOfWeek.val = (now.dayOfWeek.val + 6) % 7 && (h.overnight && now.minutes.val < h.closes)

/-- The entry is today's, and its window has not opened. -/
def laterToday : Bool := h.dayOfWeek = now.dayOfWeek && now.minutes.val < h.opens

/-- The days until it is the entry's day, from tomorrow on. -/
def daysUntil : Nat := (h.dayOfWeek.val + 6 - now.dayOfWeek.val) % 7 + 1

/-- How late the entry is reported: in minutes if it is today, else in days. -/
def delay : Nat :=
  if h.runsNow now then 0
  else if h.laterToday now then h.opens - now.minutes.val
  else 1440 * h.daysUntil now

end OpeningHour

section Entries

variable {h h' : OpeningHour} {now : WallClock} {T T' : ℤ}

theorem opens_lt (h : OpeningHour) : h.opens < 1440 := minutesOf_lt h.openTime

theorem closes_lt (h : OpeningHour) : h.closes < 1440 := minutesOf_lt h.closeTime

theorem length_window (h : OpeningHour) : 0 < h.window.length ∧ h.window.length ≤ week := by
  have hopens := opens_lt h
  have hcloses := closes_lt h
  rw [OpeningHour.window, OpeningHour.overnight]
  split
  · next hle =>
    rw [decide_eq_true_eq] at hle
    dsimp only [week]
    omega
  · next hle =>
    rw [decide_eq_true_eq] at hle
    dsimp only [week]
    omega

/-- **An entry runs when its window is open.** -/
theorem runsNow_iff : h.runsNow now = true ↔ Covers week h.window now.instant := by
  rw [covers_iff (by decide) (length_window h).2]
  have hopens := opens_lt h
  have hcloses := closes_lt h
  have hday := h.dayOfWeek.isLt
  have hnow := now.dayOfWeek.isLt
  have hminutes := now.minutes.isLt
  simp only [week, OpeningHour.runsNow, OpeningHour.window, OpeningHour.overnight,
    WallClock.instant, Bool.or_eq_true, Bool.and_eq_true, decide_eq_true_eq, Fin.ext_iff]
  split <;> omega

/-- **When a window opens next.** -/
theorem next_window (h : OpeningHour) (now : WallClock) : next week h.window now.instant =
    (if h.laterToday now then (now.dayOfWeek.val : ℤ)
      else now.dayOfWeek.val + h.daysUntil now) * 1440 + h.opens := by
  have hopens := opens_lt h
  have hday := h.dayOfWeek.isLt
  have hnow := now.dayOfWeek.isLt
  have hminutes := now.minutes.isLt
  rw [next]
  simp only [week, OpeningHour.laterToday, OpeningHour.window, OpeningHour.daysUntil,
    WallClock.instant, Bool.and_eq_true, decide_eq_true_eq, Fin.ext_iff]
  split <;> omega

/-- How late an opening is reported. -/
def lateness (now : WallClock) (T : ℤ) : ℤ :=
  if T / 1440 = now.dayOfWeek.val then T - now.instant
  else 1440 * (T / 1440 - now.dayOfWeek.val)

theorem lateness_mono (hlt : now.instant < T) (hle : T ≤ T') :
    lateness now T ≤ lateness now T' := by
  have hminutes := now.minutes.isLt
  simp only [lateness, WallClock.instant] at *
  split <;> split <;> omega

/-- An entry that does not run is reported when its window opens next. -/
theorem delay_eq (hnot : h.runsNow now = false) :
    (h.delay now : ℤ) = lateness now (next week h.window now.instant) := by
  have hopens := opens_lt h
  have hminutes := now.minutes.isLt
  rw [next_window, OpeningHour.delay, if_neg (by rw [hnot]; decide), lateness]
  cases hlater : h.laterToday now with
  | false =>
    have hdays : 0 < h.daysUntil now := Nat.succ_pos _
    simp only [Bool.false_eq_true, if_false]
    rw [if_neg (by omega)]
    omega
  | true =>
    obtain ⟨_, hbefore⟩ := Bool.and_eq_true_iff.mp hlater
    rw [decide_eq_true_eq] at hbefore
    rw [if_pos rfl, if_pos rfl, if_pos (by omega), WallClock.instant]
    omega

theorem delay_pos (hnot : h.runsNow now = false) : 0 < h.delay now := by
  rw [OpeningHour.delay, if_neg (by rw [hnot]; decide)]
  split
  · next hlater =>
    obtain ⟨_, hbefore⟩ := Bool.and_eq_true_iff.mp hlater
    rw [decide_eq_true_eq] at hbefore
    omega
  · have hdays : 0 < h.daysUntil now := Nat.succ_pos _
    omega

/-! ## The status of one entry -/

/-- What is reported of an entry that does not run. -/
def OpeningHour.status (h : OpeningHour) (now : WallClock) : OpenStatus :=
  if h.laterToday now then .opensLaterToday h.openTime
  else if h.daysUntil now = 1 then .closedUntilTomorrow
  else .closedUntilDay ((now.dayOfWeek.val + h.daysUntil now) % 7)

variable {hours : List OpeningHour} {status : OpenStatus}

theorem status_ne_openNow : h.status now ≠ .openNow := by
  rw [OpeningHour.status]
  split
  · rintro ⟨⟩
  · split <;> rintro ⟨⟩

/-- It names the next opening of its window. -/
theorem announces_status (hmem : h ∈ hours) (husable : h.usable = true) (now : WallClock) :
    Announces hours now (next week h.window now.instant) (h.status now) := by
  have hopens := opens_lt h
  have hnext := next_window h now
  rw [OpeningHour.status]
  cases hlater : h.laterToday now with
  | true =>
    rw [hlater, if_pos rfl] at hnext
    exact ⟨by omega, h, hmem, husable, (isLeast_next (by decide)).1.2, rfl⟩
  | false =>
    rw [hlater, if_neg (by decide)] at hnext
    have hday : next week h.window now.instant / 1440 =
        now.dayOfWeek.val + h.daysUntil now := by omega
    have hdays : 0 < h.daysUntil now := Nat.succ_pos _
    rw [if_neg (by decide)]
    split
    · next hone =>
      rw [Announces]
      omega
    · rw [Announces]
      omega

theorem emod_of_opens_window (h : Opens week h'.window T) : T % 1440 = h'.opens := by
  have hopens := opens_lt h'
  obtain ⟨k, rfl⟩ := h
  simp only [OpeningHour.window, week]
  omega

/-- Openings that are named alike are reported alike. -/
theorem Announces.lateness_eq {hours' : List OpeningHour} (h : Announces hours now T status)
    (h' : Announces hours' now T' status) (hlt : now.instant < T) (hlt' : now.instant < T')
    (hle : T ≤ now.instant + week) (hle' : T' ≤ now.instant + week) :
    lateness now T = lateness now T' := by
  have hminutes := now.minutes.isLt
  simp only [WallClock.instant, week] at hlt hlt' hle hle'
  cases status with
  | openNow => cases h
  | opensLaterToday time =>
    obtain ⟨hday, e, _, _, hopens, htime⟩ := h
    obtain ⟨hday', e', _, _, hopens', htime'⟩ := h'
    have hmod := emod_of_opens_window hopens
    have hmod' := emod_of_opens_window hopens'
    have hsame : e.opens = e'.opens := by rw [OpeningHour.opens, OpeningHour.opens, htime, htime']
    have heq : T = T' := by omega
    rw [heq]
  | closedUntilTomorrow =>
    rw [Announces] at h h'
    rw [lateness, lateness, if_neg (by omega), if_neg (by omega), h, h']
  | closedUntilDay day =>
    obtain ⟨hday, hmod⟩ := h
    obtain ⟨hday', hmod'⟩ := h'
    have heq : T / 1440 = T' / 1440 := by omega
    rw [lateness, lateness, if_neg (by omega), if_neg (by omega), heq]
  | unknown => cases h

/-- Openings that are reported alike are named alike. -/
theorem Announces.of_lateness_eq {hours' : List OpeningHour} (h : Announces hours now T status)
    (hsub : hours ⊆ hours') (hlt : now.instant < T) (heq : lateness now T = lateness now T') :
    Announces hours' now T' status := by
  have hminutes := now.minutes.isLt
  simp only [WallClock.instant] at hlt
  simp only [lateness, WallClock.instant] at heq
  cases status with
  | openNow => cases h
  | opensLaterToday time =>
    obtain ⟨hday, e, hmem, husable, hopens, htime⟩ := h
    have hsame : T = T' := by
      rw [if_pos hday] at heq
      split at heq <;> omega
    exact hsame ▸ ⟨hday, e, hsub hmem, husable, hopens, htime⟩
  | closedUntilTomorrow =>
    rw [Announces] at h ⊢
    rw [if_neg (by omega)] at heq
    split at heq <;> omega
  | closedUntilDay day =>
    obtain ⟨hday, hmod⟩ := h
    rw [if_neg (by omega)] at heq
    have hsame : T / 1440 = T' / 1440 := by split at heq <;> omega
    exact ⟨hsame ▸ hday, hsame ▸ hmod⟩
  | unknown => cases h

end Entries

end OpeningHours

end FoodDelivery
