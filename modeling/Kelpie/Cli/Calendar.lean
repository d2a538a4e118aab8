/-
  Kelpie.Cli.Calendar

  Moments on the command line: `--due-at` reads a UTC timestamp, and receipts and
  reports print one.
-/

import Kelpie.Lib.Calendar
import Kelpie.Lib.Texts

namespace Kelpie

open Lib

-- ============================================================================
-- Moments
-- ============================================================================

/-- The release build of the client wraps at the bounds of `i64`. -/
def wrapI64 (n : Int) : Int := n.bmod (2 ^ 64)

/-- A checked operation on `i64`. -/
def checkedI64 (n : Int) : Option Int := if -2 ^ 63 ≤ n ∧ n < 2 ^ 63 then some n else none

/-- Days since 1970-01-01 for a proleptic Gregorian date.  For years that fit no timestamp the
    last sum wraps. -/
def daysFromCivil (year month day : Int) : Int :=
  let year := if month ≤ 2 then year - 1 else year
  let era := (if year ≥ 0 then year else year - 399).tdiv 400
  let yearOfEra := year - era * 400
  let dayOfYear := (153 * (month + if month > 2 then -3 else 9) + 2).tdiv 5 + day - 1
  let dayOfEra := yearOfEra * 365 + yearOfEra.tdiv 4 - yearOfEra.tdiv 100 + dayOfYear
  wrapI64 (era * 146097 + dayOfEra - 719468)

/-- Year, month and day of a day, the inverse of `daysFromCivil`. -/
def civilFromDays (days : Int) : Int × Int × Int :=
  let z := days + 719468
  let era := (if z ≥ 0 then z else z - 146096).tdiv 146097
  let dayOfEra := z - era * 146097
  let yearOfEra := (dayOfEra - dayOfEra.tdiv 1460 + dayOfEra.tdiv 36524 -
    dayOfEra.tdiv 146096).tdiv 365
  let dayOfYear := dayOfEra - (365 * yearOfEra + yearOfEra.tdiv 4 - yearOfEra.tdiv 100)
  let monthPrime := (5 * dayOfYear + 2).tdiv 153
  let day := dayOfYear - (153 * monthPrime + 2).tdiv 5 + 1
  let month := monthPrime + if monthPrime < 10 then 3 else -9
  let year := yearOfEra + era * 400 + if month ≤ 2 then 1 else 0
  (year, month, day)

/-- `{n:0width}` -/
def padded (width : Nat) (n : Int) : List Char :=
  let sign := if n < 0 then ['-'] else []
  let digits := Nat.toDigits 10 n.natAbs
  sign ++ List.replicate (width - sign.length - digits.length) '0' ++ digits

/-- Render epoch milliseconds as a UTC timestamp, the inverse of `--due-at`. -/
def formatUtcMs (ms : Int) : String :=
  let days := ms / 86400000
  let millisOfDay := ms % 86400000
  let hours := millisOfDay.tdiv 3600000
  let minutes := (millisOfDay.tdiv 60000).tmod 60
  let seconds := (millisOfDay.tdiv 1000).tmod 60
  match civilFromDays days with
  | (year, month, day) =>
    let date := padded 4 year ++ '-' :: padded 2 month ++ '-' :: padded 2 day
    let time := padded 2 hours ++ ':' :: padded 2 minutes ++ ':' :: padded 2 seconds
    String.ofList (date ++ 'T' :: time ++ ['Z'])

/-- The next part of a date, as a number. -/
def nextNumber (parts : List (List Char)) (error : String) :
    Except String (Int × List (List Char)) :=
  match parts with
  | [] => .error error
  | part :: parts =>
    if part = [] ∨ ¬ part.all Char.isDigit then .error error
    else match checkedI64 (Nat.ofDigitChars 10 part 0) with
      | some n => .ok (n, parts)
      | none => .error error

/-- Year, month and day. -/
def parseDate (date : List Char) : Except String (Int × Int × Int) := do
  let (year, parts) ← nextNumber (date.splitOn '-') "--due-at date is invalid"
  let (month, parts) ← nextNumber parts "--due-at date is invalid"
  let (day, parts) ← nextNumber parts "--due-at date is invalid"
  if parts ≠ [] ∨ ¬ (1 ≤ month ∧ month ≤ 12) ∨ ¬ (1 ≤ day ∧ day ≤ 31) then
    .error "--due-at date is invalid"
  else .ok (year, month, day)

/-- The second of the day. -/
def parseTime (time : List Char) : Except String Int := do
  -- Seconds may carry a fractional part; whole milliseconds are enough here.
  let time := ((splitOnce '.' time).map Prod.fst).getD time
  let (hour, parts) ← nextNumber (time.splitOn ':') "--due-at time is invalid"
  let (minute, parts) ← nextNumber parts "--due-at time is invalid"
  let (second, parts) ← nextNumber parts "--due-at time is invalid"
  if parts ≠ [] ∨ ¬ (0 ≤ hour ∧ hour ≤ 23) ∨ ¬ (0 ≤ minute ∧ minute ≤ 59) ∨
      ¬ (0 ≤ second ∧ second ≤ 60) then
    .error "--due-at time is invalid"
  else .ok (hour * 3600 + minute * 60 + second)

/-- The moment of a second of a day, unless it is no `i64`. -/
def momentMs (days secondOfDay : Int) : Except String Int :=
  let moment := do
    let seconds ← checkedI64 (days * 86400)
    let seconds ← checkedI64 (seconds + secondOfDay)
    checkedI64 (seconds * 1000)
  match moment with
  | some ms => .ok ms
  | none => .error "--due-at overflowed"

/-- Parse a UTC RFC3339 timestamp into Unix epoch milliseconds. -/
def parseUtcRfc3339Ms (value : String) : Except String Int :=
  match (value.toList.dropSuffix? ['Z']).or (value.toList.dropSuffix? "+00:00".toList) with
  | none => .error "--due-at must be UTC RFC3339 ending in Z or +00:00"
  | some body =>
    match splitOnce 'T' body with
    | none => .error "--due-at must be UTC RFC3339 like 2026-08-12T20:00:00Z"
    | some (date, time) => do
      let (year, month, day) ← parseDate date
      let secondOfDay ← parseTime time
      momentMs (daysFromCivil year month day) secondOfDay

-- ============================================================================
-- Days
-- ============================================================================

/-- The division of the source, which rounds to zero, on a numerator that makes it round down. -/
theorem tdiv_era_years (n : Int) : (if n ≥ 0 then n else n - 399).tdiv 400 = n / 400 := by
  have h_sign : Int.sign 400 = 1 := rfl
  rw [Int.tdiv_eq_ediv]
  split_ifs <;> omega

theorem tdiv_era_days (n : Int) :
    (if n ≥ 0 then n else n - 146096).tdiv 146097 = n / 146097 := by
  have h_sign : Int.sign 146097 = 1 := rfl
  rw [Int.tdiv_eq_ediv]
  split_ifs <;> omega

/-- The days of a year that begins in March, in the year of the era. -/
theorem daysBeforeYear_era {year : Int} : daysBeforeYear (year + 1) = year / 400 * 146097 +
    ((year - year / 400 * 400) * 365 + (year - year / 400 * 400) / 4 -
      (year - year / 400 * 400) / 100) := by
  unfold daysBeforeYear
  omega

/-- The number of a day, counted in years that begin in March. -/
theorem dayNumber_march (d : Date) :
    d.dayNumber = daysBeforeYear ((if (d.month : Int) ≤ 2 then d.year - 1 else d.year) + 1) +
      (153 * ((d.month : Int) + if (d.month : Int) > 2 then -3 else 9) + 2) / 5 + d.day - 306 := by
  obtain ⟨year, month, day, h_pos, h_le, h_day, h_day'⟩ := d
  simp only [Date.dayNumber]
  by_cases h_two : month ≤ 2
  · rw [if_pos (by omega), if_neg (by omega), sub_add_cancel]
    interval_cases month
    · simp [daysBeforeMonth]
      omega
    · simp [daysBeforeMonth, daysInMonth]
      omega
  · rw [if_neg (by omega), if_pos (by omega), daysBeforeYear_succ]
    unfold daysInYear
    by_cases h_leap : LeapYear year <;> interval_cases month <;>
      simp [daysBeforeMonth, Finset.sum_Ico_succ_top, daysInMonth, h_leap] <;> omega

theorem daysFromCivil_date (d : Date) :
    daysFromCivil d.year d.month d.day = wrapI64 (d.dayNumber - 719163) := by
  have h_month := d.month_pos
  rw [dayNumber_march, daysBeforeYear_era]
  simp only [daysFromCivil, tdiv_era_years]
  generalize (if (d.month : Int) ≤ 2 then d.year - 1 else d.year) = year
  rw [Int.tdiv_eq_ediv_of_nonneg (by omega), Int.tdiv_eq_ediv_of_nonneg (by omega),
    Int.tdiv_eq_ediv_of_nonneg (by split_ifs <;> omega)]
  congr 1
  omega

/-- The year of a day of an era, by the centuries, the leap periods and the years before it. -/
theorem yearOfEra_eq {dayOfEra c q s dayOfYear : Int} (h_c : 0 ≤ c ∧ c ≤ 3)
    (h_q : 0 ≤ q ∧ q ≤ 24) (h_s : 0 ≤ s ∧ s ≤ 3) (h : 0 ≤ dayOfYear)
    (h_leap : dayOfYear ≤ 364 ∨ (dayOfYear = 365 ∧ s = 3 ∧ (q ≤ 23 ∨ c = 3)))
    (h_day : dayOfEra = 36524 * c + 1461 * q + 365 * s + dayOfYear) :
    (dayOfEra - dayOfEra / 1460 + dayOfEra / 36524 - dayOfEra / 146096) / 365 =
      100 * c + 4 * q + s := by
  have h_quad : dayOfEra / 1460 = 25 * c + q ∨
      (dayOfEra / 1460 = 25 * c + q + 1 ∧ 1 ≤ dayOfYear) := by omega
  have h_last : dayOfYear = 365 → dayOfEra / 1460 = 25 * c + q + 1 := by omega
  have h_cent : (dayOfEra / 36524 = c ∧ dayOfEra / 146096 = 0) ∨
      (dayOfEra / 36524 = 4 ∧ dayOfEra / 146096 = 1 ∧ dayOfYear = 365 ∧ c = 3) := by omega
  omega

/-- Every day of an era is one of a year of it. -/
theorem exists_yearOfEra {dayOfEra : Int} (h : 0 ≤ dayOfEra) (h' : dayOfEra ≤ 146096) :
    ∃ year dayOfYear : Int, 0 ≤ year ∧ year ≤ 399 ∧ 0 ≤ dayOfYear ∧
      (dayOfYear ≤ 364 ∨ (dayOfYear = 365 ∧ LeapYear (year + 1))) ∧
      dayOfEra = 365 * year + year / 4 - year / 100 + dayOfYear ∧
      (dayOfEra - dayOfEra / 1460 + dayOfEra / 36524 - dayOfEra / 146096) / 365 = year := by
  -- The last day of an era is day 36524 of its last century, which has no such day but this.
  obtain ⟨c, h_c, h_r, h_r'⟩ : ∃ c, (0 ≤ c ∧ c ≤ 3) ∧ 0 ≤ dayOfEra - 36524 * c ∧
      (dayOfEra - 36524 * c ≤ 36523 ∨ (dayOfEra - 36524 * c = 36524 ∧ c = 3)) :=
    ⟨min 3 (dayOfEra / 36524), by omega⟩
  generalize h_century : dayOfEra - 36524 * c = r at h_r h_r'
  obtain ⟨q, h_q, h_t, h_t'⟩ : ∃ q, (0 ≤ q ∧ q ≤ 24) ∧ 0 ≤ r - 1461 * q ∧ r - 1461 * q ≤ 1460 :=
    ⟨r / 1461, by omega⟩
  generalize h_period : r - 1461 * q = t at h_t h_t'
  obtain ⟨s, h_s, h_d, h_d'⟩ : ∃ s, (0 ≤ s ∧ s ≤ 3) ∧ 0 ≤ t - 365 * s ∧
      (t - 365 * s ≤ 364 ∨ (t - 365 * s = 365 ∧ s = 3)) := ⟨min 3 (t / 365), by omega⟩
  refine ⟨100 * c + 4 * q + s, t - 365 * s, by omega, by omega, h_d, ?_, by omega, ?_⟩
  · unfold LeapYear
    omega
  · exact yearOfEra_eq h_c h_q h_s h_d (by omega) (by omega)

theorem leapYear_era {year era : Int} : LeapYear (year + era * 400) ↔ LeapYear year := by
  unfold LeapYear
  omega

/-- The date of a month that is counted from March, if its last one is February. -/
theorem exists_date {year dayOfYear : Int} (h : 0 ≤ dayOfYear)
    (h_leap : dayOfYear ≤ 364 ∨ (dayOfYear = 365 ∧ LeapYear (year + 1))) :
    let monthPrime := (5 * dayOfYear + 2) / 153
    let month := monthPrime + if monthPrime < 10 then 3 else -9
    ∃ d : Date, d.year = year + (if month ≤ 2 then 1 else 0) ∧ d.month = month ∧
      d.day = dayOfYear - (153 * monthPrime + 2) / 5 + 1 ∧
      d.dayNumber = daysBeforeYear (year + 1) + dayOfYear - 305 := by
  intro monthPrime month
  have h_prime : 0 ≤ monthPrime ∧ monthPrime ≤ 11 := by omega
  have h_day : 1 ≤ dayOfYear - (153 * monthPrime + 2) / 5 + 1 := by omega
  obtain ⟨m, h_m⟩ : ∃ m : Nat, (m : Int) = month := ⟨month.toNat, by omega⟩
  obtain ⟨day, h_d⟩ : ∃ day : Nat, (day : Int) = dayOfYear - (153 * monthPrime + 2) / 5 + 1 :=
    ⟨(dayOfYear - (153 * monthPrime + 2) / 5 + 1).toNat, by omega⟩
  have h_le : day ≤ daysInMonth (year + if month ≤ 2 then 1 else 0) m := by
    have h_short : monthPrime = 1 ∨ monthPrime = 3 ∨ monthPrime = 6 ∨ monthPrime = 8 ↔
        m = 4 ∨ m = 6 ∨ m = 9 ∨ m = 11 := by omega
    have h_february : monthPrime = 11 ↔ m = 2 := by omega
    unfold daysInMonth
    by_cases h_two : m = 2
    · rw [if_pos h_two, if_pos (show month ≤ 2 by omega)]
      split_ifs with h_leap'
      · omega
      · -- The year after it has no day 365, as it is no leap year.
        have h_common := h_leap.resolve_right fun h => h_leap' h.2
        omega
    · rw [if_neg h_two]
      split_ifs <;> omega
  refine ⟨⟨_, m, day, by omega, by omega, by omega, h_le⟩, rfl, h_m, h_d, ?_⟩
  rw [dayNumber_march]
  simp only [h_m, h_d]
  by_cases h_two : month ≤ 2
  · rw [if_pos h_two, if_pos h_two, if_neg (by omega), add_sub_cancel_right]
    omega
  · rw [if_neg h_two, if_neg h_two, if_pos (by omega), add_zero]
    omega

theorem civilFromDays_date (days : Int) : ∃ d : Date,
    civilFromDays days = (d.year, (d.month : Int), (d.day : Int)) ∧
      d.dayNumber = days + 719163 := by
  simp only [civilFromDays, tdiv_era_days]
  generalize h_era : (days + 719468) / 146097 = era
  generalize h_dayOfEra : days + 719468 - era * 146097 = dayOfEra
  have h_range : 0 ≤ dayOfEra ∧ dayOfEra ≤ 146096 := by omega
  obtain ⟨year, dayOfYear, h_year, h_year', h_doy, h_leap, h_eq, h_formula⟩ :=
    exists_yearOfEra h_range.1 h_range.2
  rw [Int.tdiv_eq_ediv_of_nonneg h_range.1, Int.tdiv_eq_ediv_of_nonneg h_range.1,
    Int.tdiv_eq_ediv_of_nonneg h_range.1, Int.tdiv_eq_ediv_of_nonneg (by omega), h_formula,
    Int.tdiv_eq_ediv_of_nonneg h_year, Int.tdiv_eq_ediv_of_nonneg h_year,
    show dayOfEra - (365 * year + year / 4 - year / 100) = dayOfYear by omega,
    Int.tdiv_eq_ediv_of_nonneg (by omega), Int.tdiv_eq_ediv_of_nonneg (by omega)]
  have h_leap' : dayOfYear ≤ 364 ∨ (dayOfYear = 365 ∧ LeapYear (year + era * 400 + 1)) := by
    rw [add_right_comm, leapYear_era]
    exact h_leap
  obtain ⟨d, h_d_year, h_d_month, h_d_day, h_number⟩ := exists_date h_doy h_leap'
  refine ⟨d, ?_, ?_⟩
  · rw [h_d_year, h_d_month, h_d_day]
  · have h_quot : (year + era * 400) / 400 = era := by omega
    rw [h_number, daysBeforeYear_era, h_quot, add_sub_cancel_right]
    omega

-- ============================================================================
-- Timestamps
-- ============================================================================

section Timestamps

variable {width : Nat} {n : Int}

theorem padded_of_nonneg (width : Nat) (h : 0 ≤ n) : ∃ k, padded width n =
    List.replicate k '0' ++ Nat.toDigits 10 n.natAbs := by
  unfold padded
  rw [if_neg (not_lt.mpr h)]
  exact ⟨_, rfl⟩

/-- A number below 0 is printed with its sign first. -/
theorem padded_of_neg (width : Nat) (h : n < 0) : ∃ k, padded width n =
    '-' :: (List.replicate k '0' ++ Nat.toDigits 10 n.natAbs) := by
  unfold padded
  rw [if_pos h]
  exact ⟨_, rfl⟩

theorem padded_ne_nil : padded width n ≠ [] := by
  unfold padded
  exact List.append_ne_nil_of_right_ne_nil _ Nat.toDigits_ne_nil

theorem isDigit_of_mem_digits {k m : Nat} {ch : Char}
    (h : ch ∈ List.replicate k '0' ++ Nat.toDigits 10 m) : ch.isDigit := by
  rcases List.mem_append.mp h with h_zero | h_digit
  · rw [List.eq_of_mem_replicate h_zero]
    rfl
  · exact Nat.isDigit_of_mem_toDigits (by decide) (by decide) h_digit

theorem isDigit_of_mem_padded (h : 0 ≤ n) {ch : Char} (h_ch : ch ∈ padded width n) :
    ch.isDigit := by
  obtain ⟨k, h_eq⟩ := padded_of_nonneg width h
  rw [h_eq] at h_ch
  exact isDigit_of_mem_digits h_ch

theorem ofDigitChars_padded (h : 0 ≤ n) : (Nat.ofDigitChars 10 (padded width n) 0 : Int) = n := by
  obtain ⟨k, h_eq⟩ := padded_of_nonneg width h
  rw [h_eq, Nat.ofDigitChars_append, Nat.ofDigitChars_replicate_zero, Nat.mul_zero,
    Nat.ofDigitChars_ten_toDigits]
  exact Int.natAbs_of_nonneg h

/-- A number that was printed is read back. -/
theorem nextNumber_padded (h : 0 ≤ n) (h' : n < 2 ^ 63) {parts : List (List Char)}
    {error : String} : nextNumber (padded width n :: parts) error = .ok (n, parts) := by
  have h_all : (padded width n).all Char.isDigit :=
    List.all_eq_true.mpr fun ch h_ch => isDigit_of_mem_padded h h_ch
  rw [nextNumber, if_neg (by simp [padded_ne_nil, h_all]), ofDigitChars_padded h, checkedI64,
    if_pos (by omega)]

theorem not_mem_padded (h : 0 ≤ n) {ch : Char} (h_ch : ch.isDigit = false) :
    ch ∉ padded width n := by
  intro h_mem
  rw [isDigit_of_mem_padded h h_mem] at h_ch
  cases h_ch

theorem not_mem_padded_of_neg (h : n < 0) {ch : Char} (h_ch : ch.isDigit = false)
    (h_sign : ch ≠ '-') : ch ∉ padded width n := by
  obtain ⟨k, h_eq⟩ := padded_of_neg width h
  rw [h_eq, List.mem_cons, not_or]
  refine ⟨h_sign, fun h_mem => ?_⟩
  rw [isDigit_of_mem_digits h_mem] at h_ch
  cases h_ch

end Timestamps

/-- The parts of a date or of a time, all printed as numbers. -/
theorem splitOn_padded {sep : Char} (h_sep : sep.isDigit = false) {w w' w'' : Nat}
    {a b c : Int} (h_a : 0 ≤ a) (h_b : 0 ≤ b) (h_c : 0 ≤ c) :
    (padded w a ++ sep :: padded w' b ++ sep :: padded w'' c).splitOn sep =
      [padded w a, padded w' b, padded w'' c] := by
  rw [List.append_assoc, List.cons_append,
    List.splitOn_append_cons_self_of_not_mem (not_mem_padded h_a h_sep),
    List.splitOn_append_cons_self_of_not_mem (not_mem_padded h_b h_sep),
    List.splitOn_eq_singleton (not_mem_padded h_c h_sep)]

theorem checkedI64_eq_some {n : Int} (h : -2 ^ 63 ≤ n) (h' : n < 2 ^ 63) :
    checkedI64 n = some n :=
  if_pos ⟨h, h'⟩

theorem parseDate_padded {year month day : Int} (h_year : 0 ≤ year ∧ year < 2 ^ 63)
    (h_month : 1 ≤ month ∧ month ≤ 12) (h_day : 1 ≤ day ∧ day ≤ 31) :
    parseDate (padded 4 year ++ '-' :: padded 2 month ++ '-' :: padded 2 day) =
      .ok (year, month, day) := by
  unfold parseDate
  rw [splitOn_padded rfl h_year.1 (by omega) (by omega)]
  simp only [nextNumber_padded h_year.1 h_year.2,
    nextNumber_padded (n := month) (by omega) (by omega),
    nextNumber_padded (n := day) (by omega) (by omega), bind, Except.bind]
  exact if_neg (by simp [h_month, h_day])

theorem parseDate_neg {year : Int} (h : year < 0) {rest : List Char} :
    parseDate (padded 4 year ++ rest) = .error "--due-at date is invalid" := by
  obtain ⟨k, h_eq⟩ := padded_of_neg 4 h
  unfold parseDate
  rw [h_eq, List.cons_append, List.splitOn_cons_eq_if_modifyHead, if_pos (beq_self_eq_true '-')]
  rfl

theorem parseTime_padded {hour minute second : Int} (h_hour : 0 ≤ hour ∧ hour ≤ 23)
    (h_minute : 0 ≤ minute ∧ minute ≤ 59) (h_second : 0 ≤ second ∧ second ≤ 59) :
    parseTime (padded 2 hour ++ ':' :: padded 2 minute ++ ':' :: padded 2 second) =
      .ok (hour * 3600 + minute * 60 + second) := by
  have h_dot : '.' ∉ padded 2 hour ++ ':' :: padded 2 minute ++ ':' :: padded 2 second := by
    simp only [List.mem_append, List.mem_cons, not_or]
    exact ⟨⟨not_mem_padded h_hour.1 rfl, by decide, not_mem_padded h_minute.1 rfl⟩, by decide,
      not_mem_padded h_second.1 rfl⟩
  unfold parseTime
  dsimp only
  rw [splitOnce_eq_none h_dot, Option.map_none, Option.getD_none,
    splitOn_padded rfl h_hour.1 h_minute.1 h_second.1]
  simp only [nextNumber_padded (n := hour) (by omega) (by omega),
    nextNumber_padded (n := minute) (by omega) (by omega),
    nextNumber_padded (n := second) (by omega) (by omega), bind, Except.bind]
  exact if_neg (by simp; omega)

theorem momentMs_ok {days secondOfDay : Int} (h : 0 ≤ secondOfDay ∧ secondOfDay < 86400)
    (h_moment : -2 ^ 63 ≤ (days * 86400 + secondOfDay) * 1000 ∧
      (days * 86400 + secondOfDay) * 1000 < 2 ^ 63) :
    momentMs days secondOfDay = .ok ((days * 86400 + secondOfDay) * 1000) := by
  unfold momentMs
  simp only [checkedI64_eq_some (n := days * 86400) (by omega) (by omega),
    checkedI64_eq_some (n := days * 86400 + secondOfDay) (by omega) (by omega),
    checkedI64_eq_some h_moment.1 h_moment.2, Option.bind_eq_bind, Option.bind_some]

/-- A printed timestamp is cut into its date and its time. -/
theorem parseUtcRfc3339Ms_cut {date time : List Char} (h_date : 'T' ∉ date) :
    parseUtcRfc3339Ms (String.ofList (date ++ 'T' :: time ++ ['Z'])) = (do
      let (year, month, day) ← parseDate date
      let secondOfDay ← parseTime time
      momentMs (daysFromCivil year month day) secondOfDay) := by
  have h_body : (date ++ 'T' :: time ++ ['Z']).dropSuffix? ['Z'] = some (date ++ 'T' :: time) :=
    List.dropSuffix?_eq_some_iff.mpr ⟨['Z'], rfl, by rfl⟩
  unfold parseUtcRfc3339Ms
  rw [String.toList_ofList, h_body, Option.some_or]
  simp only [splitOnce_append h_date]

/-- A year has a sign exactly when it is before year 0. -/
theorem year_nonneg_iff (d : Date) : 0 ≤ d.year ↔ -366 < d.dayNumber := by
  obtain ⟨h_lt, h_le⟩ := d.dayNumber_mem
  have h_zero : daysBeforeYear 0 = -366 := by decide
  constructor
  · intro h
    have h_mono := daysBeforeYear_mono h
    omega
  · intro h
    by_contra h_neg
    have h_mono := daysBeforeYear_mono (show d.year + 1 ≤ 0 by omega)
    omega

/-- The timestamp of a second of a date. -/
def timestamp (d : Date) (hour minute second : Int) : String :=
  let date := padded 4 d.year ++ '-' :: padded 2 d.month ++ '-' :: padded 2 d.day
  let time := padded 2 hour ++ ':' :: padded 2 minute ++ ':' :: padded 2 second
  String.ofList (date ++ 'T' :: time ++ ['Z'])

/-- The second of a day that begins with `days` days after the epoch. -/
def epochSecond (days hour minute second : Int) : Int :=
  ((days * 24 + hour) * 60 + minute) * 60 + second

section Moments

variable {d : Date} {hour minute second : Int}

/-- The timestamp of a moment that fits is read as that moment. -/
theorem parseUtcRfc3339Ms_timestamp (h_year : 0 ≤ d.year) (h_hour : 0 ≤ hour ∧ hour ≤ 23)
    (h_minute : 0 ≤ minute ∧ minute ≤ 59) (h_second : 0 ≤ second ∧ second ≤ 59)
    (h : epochSecond (d.dayNumber - 719163) hour minute second * 1000 < 2 ^ 63) :
    parseUtcRfc3339Ms (timestamp d hour minute second) =
      .ok (epochSecond (d.dayNumber - 719163) hour minute second * 1000) := by
  have h_month := d.month_pos
  have h_month' := d.month_le
  have h_day := d.day_pos
  have h_day' := d.day_le.trans daysInMonth_le
  have h_first := (year_nonneg_iff d).mp h_year
  unfold epochSecond at h ⊢
  have h_year_lt : d.year < 2 ^ 63 := by
    have h_mem := d.dayNumber_mem
    unfold daysBeforeYear at h_mem
    omega
  unfold timestamp
  rw [parseUtcRfc3339Ms_cut, parseDate_padded ⟨h_year, h_year_lt⟩ (by omega) (by omega),
    parseTime_padded h_hour h_minute h_second]
  · simp only [bind, Except.bind]
    rw [daysFromCivil_date, wrapI64, Int.bmod_eq_of_le (by omega) (by omega),
      momentMs_ok (by omega) (by omega)]
    congr 1
    omega
  · simp only [List.mem_append, List.mem_cons, not_or]
    exact ⟨⟨not_mem_padded h_year rfl, by decide, not_mem_padded (by omega) rfl⟩,
      by decide, not_mem_padded (by omega) rfl⟩

theorem parseUtcRfc3339Ms_timestamp_neg (h : d.year < 0) :
    parseUtcRfc3339Ms (timestamp d hour minute second) = .error "--due-at date is invalid" := by
  unfold timestamp
  rw [parseUtcRfc3339Ms_cut, List.append_assoc, parseDate_neg h]
  · rfl
  · simp only [List.mem_append, List.mem_cons, not_or]
    exact ⟨⟨not_mem_padded_of_neg h rfl (by decide), by decide,
      not_mem_padded (by omega) rfl⟩, by decide, not_mem_padded (by omega) rfl⟩

theorem formatUtcMs_timestamp (ms : Int) (h : civilFromDays (ms / 86400000) =
    (d.year, (d.month : Int), (d.day : Int))) : ∃ hour minute second : Int,
      (0 ≤ hour ∧ hour ≤ 23) ∧ (0 ≤ minute ∧ minute ≤ 59) ∧ (0 ≤ second ∧ second ≤ 59) ∧
        epochSecond (ms / 86400000) hour minute second = ms / 1000 ∧
        formatUtcMs ms = timestamp d hour minute second := by
  simp only [formatUtcMs, h]
  refine ⟨_, _, _, ?_, ?_, ?_, ?_, rfl⟩
  · rw [Int.tdiv_eq_ediv_of_nonneg (by omega)]
    omega
  · rw [Int.tdiv_eq_ediv_of_nonneg (by omega), Int.tmod_eq_emod_of_nonneg (by omega)]
    omega
  · rw [Int.tdiv_eq_ediv_of_nonneg (by omega), Int.tmod_eq_emod_of_nonneg (by omega)]
    omega
  · unfold epochSecond
    simp only [Int.tdiv_eq_ediv_of_nonneg (Int.emod_nonneg ms (by decide : (86400000 : Int) ≠ 0))]
    rw [Int.tmod_eq_emod_of_nonneg (by omega), Int.tmod_eq_emod_of_nonneg (by omega)]
    omega

end Moments

/-- What `--due-at` makes of a timestamp that the client printed: the moment, to the second,
    unless its year is before year 0, of which the sign is no digit. -/
theorem parseUtcRfc3339Ms_format {ms : Int} (h : ms < 2 ^ 63) :
    parseUtcRfc3339Ms (formatUtcMs ms) =
      if -62167219200000 ≤ ms then .ok (ms - ms % 1000)
      else .error "--due-at date is invalid" := by
  obtain ⟨d, h_civil, h_number⟩ := civilFromDays_date (ms / 86400000)
  obtain ⟨hour, minute, second, h_hour, h_minute, h_second, h_moment, h_text⟩ :=
    formatUtcMs_timestamp ms h_civil
  have h_days : d.dayNumber - 719163 = ms / 86400000 := by omega
  have h_year := year_nonneg_iff d
  rw [h_text]
  split_ifs with h_ms
  · rw [parseUtcRfc3339Ms_timestamp (h_year.mpr (by omega)) h_hour h_minute h_second, h_days,
      h_moment]
    · congr 1
      omega
    · rw [h_days, h_moment]
      omega
  · exact parseUtcRfc3339Ms_timestamp_neg (not_le.mp fun h => absurd (h_year.mp h) (by omega))

theorem parseUtcRfc3339Ms_format_evening :
    parseUtcRfc3339Ms (formatUtcMs 1786564800500) = .ok 1786564800000 := by
  rw [parseUtcRfc3339Ms_format (by decide)]
  rfl

/-- The printed dates are those of the calendar: day 0 is 1 January 1970, each day is followed by
    the next date, and the time of day is that of the moment. -/
theorem formatUtcMs_calendar : ∃ date : Int → Date,
    ((date 0).year, (date 0).month, (date 0).day) = (1970, 1, 1) ∧
      (∀ n, date (n + 1) = (date n).next) ∧
      ∀ ms, ∃ hour minute second : Int,
        (0 ≤ hour ∧ hour ≤ 23) ∧ (0 ≤ minute ∧ minute ≤ 59) ∧ (0 ≤ second ∧ second ≤ 59) ∧
          epochSecond (ms / 86400000) hour minute second = ms / 1000 ∧
          formatUtcMs ms = timestamp (date (ms / 86400000)) hour minute second := by
  choose date h_civil h_number using civilFromDays_date
  refine ⟨date, ?_, ?_, fun ms => formatUtcMs_timestamp ms (h_civil _)⟩
  · have h_first := h_civil 0
    rw [show civilFromDays 0 = (1970, 1, 1) by decide] at h_first
    simp only [Prod.mk.injEq] at h_first ⊢
    omega
  · intro n
    refine Date.dayNumber_injective ?_
    rw [h_number, Date.dayNumber_next, h_number]
    omega

end Kelpie
