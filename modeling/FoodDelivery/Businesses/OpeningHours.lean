import Mathlib.Data.Fin.Basic

/-!
# Opening hours

The entries of `openingHours` that `OpeningHourDto` lets through, and `getOpenStatus` of the web
client, which reads them with the wall clock of the store's zone.
-/

namespace FoodDelivery

namespace OpeningHours

/-- One of the digits up to `max`. -/
def isDigitTo (max : Nat) (c : Char) : Bool := '0'.toNat ≤ c.toNat && c.toNat ≤ '0'.toNat + max

/-- `TIME_PATTERN`. -/
def timePattern (s : String) : Bool :=
  match s.toList with
  | [h, h', colon, m, m'] =>
    (isDigitTo 1 h && isDigitTo 9 h' || h = '2' && isDigitTo 3 h') &&
      (colon = ':' && (isDigitTo 5 m && isDigitTo 9 m'))
  | _ => false

/-- A string that `TIME_PATTERN` matches. -/
abbrev TimeOfDay := { s : String // timePattern s = true }

/-- `Number` of a string of digits. -/
def number (digits : List Char) : Nat :=
  digits.foldl (fun n c => n * 10 + (c.toNat - '0'.toNat)) 0

def minutesOf (hhmm : TimeOfDay) : Nat :=
  match (hhmm.val.toList.splitOn ':').map number with
  | [h, m] => h * 60 + m
  | _ => 0

/-- An entry of the schedule.  `isClosed` may be `null`. -/
structure OpeningHour where
  dayOfWeek : Fin 7
  openTime : TimeOfDay
  closeTime : TimeOfDay
  isClosed : Option Bool
  deriving DecidableEq

/-- The day of the week and the minutes since midnight. -/
structure WallClock where
  dayOfWeek : Fin 7
  minutes : Fin 1440
  deriving DecidableEq

/-- The `kind`s of a status; `openNow` is the one that is spelt `open`. -/
inductive OpenStatus
  | openNow
  | opensLaterToday (time : TimeOfDay)
  | closedUntilTomorrow
  | closedUntilDay (dayOfWeek : Nat)
  | unknown
  deriving DecidableEq

namespace OpeningHour

/-- `!h.isClosed`. -/
def usable (h : OpeningHour) : Bool := h.isClosed ≠ some true

def opens (h : OpeningHour) : Nat := minutesOf h.openTime

def closes (h : OpeningHour) : Nat := minutesOf h.closeTime

def overnight (h : OpeningHour) : Bool := h.closes ≤ h.opens

end OpeningHour

section GetOpenStatus

variable (openingHours : Option (List OpeningHour))

def findEntry (day : Nat) : Option OpeningHour :=
  openingHours.bind fun hours => hours.find? fun h => h.dayOfWeek.val = day

/-- Yesterday's window runs past midnight and has not closed yet. -/
def yesterdayRuns (yesterday : Option OpeningHour) (minutes : Nat) : Bool :=
  yesterday.any fun h => h.usable && (h.overnight && minutes < h.closes)

/-- What today's window says; `none` once it has closed. -/
def statusToday (today : Option OpeningHour) (minutes : Nat) : Option OpenStatus :=
  (today.filter OpeningHour.usable).bind fun h =>
    if h.overnight then
      if minutes ≥ h.opens then some .openNow else some (.opensLaterToday h.openTime)
    else if minutes ≥ h.opens && minutes < h.closes then some .openNow
    else if minutes < h.opens then some (.opensLaterToday h.openTime)
    else none

/-- One turn of the loop over the days that follow. -/
def statusAfter (dayOfWeek i : Nat) : Option OpenStatus :=
  let day := (dayOfWeek + i) % 7
  ((findEntry openingHours day).filter OpeningHour.usable).map fun _ =>
    if i = 1 then .closedUntilTomorrow else .closedUntilDay day

def getOpenStatus (now : WallClock) : OpenStatus :=
  let usableEntries := (openingHours.getD []).filter OpeningHour.usable
  if usableEntries.length = 0 then .unknown
  else if yesterdayRuns (findEntry openingHours ((now.dayOfWeek.val + 6) % 7)) now.minutes then
    .openNow
  else
    ((statusToday (findEntry openingHours now.dayOfWeek) now.minutes).or
      ((List.range' 1 7).findSome? (statusAfter openingHours now.dayOfWeek))).getD .unknown

end GetOpenStatus

/-! ## Times of day -/

section Times

variable {t t' : TimeOfDay} {c c' : Char} {max : Nat}

theorem isDigitTo_iff : isDigitTo max c = true ↔ 48 ≤ c.toNat ∧ c.toNat ≤ 48 + max := by
  rw [isDigitTo, Bool.and_eq_true, decide_eq_true_eq, decide_eq_true_eq]
  rfl

/-- The digits of a time of day, as numbers. -/
structure Digits (h h' m m' : Nat) : Prop where
  hour : h ≤ 1 ∧ h' ≤ 9 ∨ h = 2 ∧ h' ≤ 3
  minute : m ≤ 5 ∧ m' ≤ 9

theorem minutesOf_eq {h h' m m' : Char} (hlist : t.val.toList = [h, h', ':', m, m'])
    (hne : ':' ∉ [h, h']) (hne' : ':' ∉ [m, m']) :
    minutesOf t = ((h.toNat - 48) * 10 + (h'.toNat - 48)) * 60 +
      ((m.toNat - 48) * 10 + (m'.toNat - 48)) := by
  have hsplit : t.val.toList.splitOn ':' = [[h, h'], [m, m']] := by
    rw [hlist, show [h, h', ':', m, m'] = [h, h'] ++ ':' :: [m, m'] from rfl,
      List.splitOn_append_cons_self_of_not_mem hne, List.splitOn_eq_singleton hne']
  rw [minutesOf, hsplit]
  simp only [List.map_cons, List.map_nil, number, List.foldl_cons, List.foldl_nil]
  simp

/-- A time of day is two digits, a colon and two digits, and `minutesOf` reads them. -/
theorem exists_digits (t : TimeOfDay) : ∃ h h' m m' : Char,
    t.val.toList = [h, h', ':', m, m'] ∧
      minutesOf t = ((h.toNat - 48) * 10 + (h'.toNat - 48)) * 60 +
        ((m.toNat - 48) * 10 + (m'.toNat - 48)) ∧
      Digits (h.toNat - 48) (h'.toNat - 48) (m.toNat - 48) (m'.toNat - 48) := by
  have ht := t.property
  rw [timePattern] at ht
  split at ht
  · next h h' colon m m' hlist =>
    simp only [Bool.and_eq_true, Bool.or_eq_true, isDigitTo_iff, decide_eq_true_eq] at ht
    obtain ⟨hhour, rfl, hm, hm'⟩ := ht
    have htwo : h = '2' → h.toNat = 50 := by rintro rfl; rfl
    have hcolon : ':'.toNat = 58 := rfl
    have hbounds : 48 ≤ h.toNat ∧ h.toNat ≤ 50 ∧ 48 ≤ h'.toNat ∧ h'.toNat ≤ 57 := by
      rcases hhour with ⟨hh, hh'⟩ | ⟨hh, hh'⟩
      · omega
      · have := htwo hh
        omega
    have hne : ∀ c : Char, c.toNat ≤ 57 → ':' ≠ c := by
      rintro c hc rfl
      omega
    refine ⟨h, h', m, m', hlist, minutesOf_eq hlist ?_ ?_, ?_, by omega⟩
    · simp only [List.mem_cons, List.not_mem_nil, or_false, not_or]
      exact ⟨hne h (by omega), hne h' (by omega)⟩
    · simp only [List.mem_cons, List.not_mem_nil, or_false, not_or]
      exact ⟨hne m (by omega), hne m' (by omega)⟩
    · rcases hhour with ⟨hh, hh'⟩ | ⟨hh, hh'⟩
      · omega
      · have := htwo hh
        omega
  · cases ht

theorem minutesOf_lt (t : TimeOfDay) : minutesOf t < 1440 := by
  obtain ⟨h, h', m, m', _, heq, hhour, hminute⟩ := exists_digits t
  omega

example : minutesOf ⟨"09:30", by decide⟩ = 570 := by decide

end Times

end OpeningHours

end FoodDelivery
