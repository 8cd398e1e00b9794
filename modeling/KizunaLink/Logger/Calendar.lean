import Mathlib.Tactic.IntervalCases
import Mathlib.Logic.Function.Iterate

/-!
# The date of a day

Model of `days_to_ymd` (common/logger/writer.rs), whose years begin in March.  An operation
on `u32` whose result does not fit has none here.
-/

set_option autoImplicit false

namespace KizunaLink.Logger

open Option

structure Ymd where
  year : Nat
  month : Nat
  day : Nat
  deriving DecidableEq

def addU32 (left right : Nat) : Option Nat :=
  if left + right < 2 ^ 32 then some (left + right) else none

def mulU32 (left right : Nat) : Option Nat :=
  if left * right < 2 ^ 32 then some (left * right) else none

def subU32 (left right : Nat) : Option Nat :=
  if right ≤ left then some (left - right) else none

def yearOfEra (doe : Nat) : Option Nat := do
  return (← subU32 (← addU32 (← subU32 doe (doe / 1460)) (doe / 36524)) (doe / 146096)) / 365

def dayOfYear (doe yoe : Nat) : Option Nat := do
  subU32 doe (← subU32 (← addU32 (← mulU32 365 yoe) (yoe / 4)) (yoe / 100))

def monthAndDay (y doy : Nat) : Option Ymd := do
  let mp := (← addU32 (← mulU32 5 doy) 2) / 153
  let d ← addU32 (← subU32 doy ((← addU32 (← mulU32 153 mp) 2) / 5)) 1
  let m ← if mp < 10 then addU32 mp 3 else subU32 mp 9
  let y ← if m ≤ 2 then addU32 y 1 else some y
  return ⟨y, m, d⟩

def daysToYmd (days : Nat) : Option Ymd := do
  let days ← addU32 days 719468
  let era := days / 146097
  let doe ← subU32 days (← mulU32 era 146097)
  let yoe ← yearOfEra doe
  let y ← addU32 yoe (← mulU32 era 400)
  let doy ← dayOfYear doe yoe
  monthAndDay y doy

theorem addU32_ok {left right : Nat} (fits : left + right < 2 ^ 32) :
    addU32 left right = some (left + right) := if_pos fits

theorem mulU32_ok {left right : Nat} (fits : left * right < 2 ^ 32) :
    mulU32 left right = some (left * right) := if_pos fits

theorem subU32_ok {left right : Nat} (enough : right ≤ left) :
    subU32 left right = some (left - right) := if_pos enough

def IsLeap (year : Nat) : Prop := year % 4 = 0 ∧ (year % 100 ≠ 0 ∨ year % 400 = 0)

instance (year : Nat) : Decidable (IsLeap year) := inferInstanceAs (Decidable (_ ∧ _))

def monthDays (year : Nat) : Nat → Nat
  | 2 => if IsLeap year then 29 else 28
  | 4 | 6 | 9 | 11 => 30
  | _ => 31

def Ymd.Valid (date : Ymd) : Prop :=
  1 ≤ date.month ∧ date.month ≤ 12 ∧ 1 ≤ date.day ∧ date.day ≤ monthDays date.year date.month

def Ymd.next (date : Ymd) : Ymd :=
  if date.day < monthDays date.year date.month then { date with day := date.day + 1 }
  else if date.month < 12 then ⟨date.year, date.month + 1, 1⟩
  else ⟨date.year + 1, 1, 1⟩

def epoch : Ymd := ⟨1970, 1, 1⟩

/-- The days from 1 March of the year 0 to 1 March of a year. -/
def marchStart (year : Nat) : Nat := 365 * year + year / 4 - year / 100 + year / 400

/-- A year that begins in March ends in the February of the next one. -/
def marchLength (year : Nat) : Nat := if IsLeap (year + 1) then 366 else 365

def fromMarch (year day : Nat) : Ymd :=
  let mp := (5 * day + 2) / 153
  ⟨if mp < 10 then year else year + 1, if mp < 10 then mp + 3 else mp - 9,
    day - (153 * mp + 2) / 5 + 1⟩

theorem marchLength_eq (year : Nat) : marchLength year = 365 ∨ marchLength year = 366 := by
  unfold marchLength
  split <;> simp

theorem marchStart_succ (year : Nat) :
    marchStart (year + 1) = marchStart year + marchLength year := by
  have fewer : year / 100 ≤ year / 4 := by omega
  have leap : IsLeap (year + 1) ↔ 4 ∣ year + 1 ∧ (¬ 100 ∣ year + 1 ∨ 400 ∣ year + 1) := by
    unfold IsLeap
    omega
  simp only [marchStart, marchLength, leap, Nat.succ_div]
  by_cases fourth : 4 ∣ year + 1
  · by_cases hundredth : 100 ∣ year + 1
    · by_cases last : 400 ∣ year + 1 <;> simp [fourth, hundredth, last] <;> omega
    · have last : ¬ 400 ∣ year + 1 := by omega
      simp [fourth, hundredth, last]
      omega
  · have hundredth : ¬ 100 ∣ year + 1 := by omega
    have last : ¬ 400 ∣ year + 1 := by omega
    simp [fourth, hundredth, last]
    omega

theorem exists_march (count : Nat) :
    ∃ year day, count = marchStart year + day ∧ day < marchLength year := by
  induction count with
  | zero => exact ⟨0, 0, rfl, by decide⟩
  | succ count ih =>
    obtain ⟨year, day, same, short⟩ := ih
    by_cases last : day + 1 < marchLength year
    · exact ⟨year, day + 1, by omega, last⟩
    · have length := marchLength_eq (year + 1)
      exact ⟨year + 1, 0, by rw [marchStart_succ]; omega, by omega⟩

/-- The centuries, the cycles of four years and the years of an era. -/
theorem march_digits {year day : Nat} (short : day < marchLength year) :
    ∃ era century cycle rest, century < 4 ∧ cycle < 25 ∧ rest < 4 ∧ day ≤ 365 ∧
      (day = 365 → rest = 3 ∧ (cycle = 24 → century = 3)) ∧
      year = 400 * era + 100 * century + 4 * cycle + rest ∧
      marchStart year = 146097 * era + 36524 * century + 1461 * cycle + 365 * rest := by
  obtain ⟨era, century, cycle, rest, few, cycles, years, same⟩ : ∃ era century cycle rest,
      century < 4 ∧ cycle < 25 ∧ rest < 4 ∧ year = 400 * era + 100 * century + 4 * cycle + rest :=
    ⟨year / 400, year % 400 / 100, year % 100 / 4, year % 4, by omega, by omega, by omega, by omega⟩
  refine ⟨era, century, cycle, rest, few, cycles, years, ?_, fun last => ?_, same, ?_⟩
  · have length := marchLength_eq year
    omega
  · have leap : IsLeap (year + 1) := by
      by_contra common
      rw [marchLength, if_neg common, last] at short
      omega
    unfold IsLeap at leap
    omega
  · have fourths : year / 4 = 100 * era + 25 * century + cycle := by omega
    have hundredths : year / 100 = 4 * era + century := by omega
    have eras : year / 400 = era := by omega
    rw [marchStart, fourths, hundredths, eras]
    omega

section

variable {century cycle rest day doe : Nat} (few : century < 4) (cycles : cycle < 25)
  (years : rest < 4) (bounded : day ≤ 365)
  (leap : day = 365 → rest = 3 ∧ (cycle = 24 → century = 3))
  (same : doe = 36524 * century + 1461 * cycle + 365 * rest + day)
include few cycles years bounded leap same

theorem yearOfEra_eq : yearOfEra doe = some (100 * century + 4 * cycle + rest) := by
  have centuries : doe / 36524 = century + doe / 146096 := by
    obtain within | ⟨rfl, rfl⟩ : 1461 * cycle + 365 * rest + day < 36524 ∨
        doe = 146096 ∧ century = 3 := by omega
    · rw [Nat.div_eq_of_lt (by omega : doe < 146096)]
      omega
    · rfl
  have fourths : doe / 1460 =
      25 * century + cycle + (24 * century + cycle + 365 * rest + day) / 1460 := by omega
  have quotient : (doe - doe / 1460 + doe / 36524 - doe / 146096) / 365 =
      100 * century + 4 * cycle + rest := by
    rw [centuries, fourths]
    omega
  clear fourths
  simp (disch := omega) only [yearOfEra, addU32_ok, subU32_ok, bind_eq_bind,
    bind_some, quotient, Option.pure_def]

omit bounded leap in
theorem dayOfYear_eq : dayOfYear doe (100 * century + 4 * cycle + rest) = some day := by
  have fourths : (100 * century + 4 * cycle + rest) / 4 = 25 * century + cycle := by omega
  have hundredths : (100 * century + 4 * cycle + rest) / 100 = century := by omega
  simp (disch := omega) only [dayOfYear, addU32_ok, mulU32_ok, subU32_ok, bind_eq_bind,
    bind_some, fourths, hundredths]
  congr
  omega

end

theorem monthAndDay_eq {y doy : Nat} (bounded : doy ≤ 365) (fits : y + 1 < 2 ^ 32) :
    monthAndDay y doy = some (fromMarch y doy) := by
  by_cases early : (5 * doy + 2) / 153 < 10
  · have late : ¬ (5 * doy + 2) / 153 + 3 ≤ 2 := by omega
    simp (disch := omega) only [monthAndDay, addU32_ok, mulU32_ok, subU32_ok, bind_eq_bind,
      bind_some, fromMarch, if_pos early, if_neg late, Option.pure_def]
  · have low : (5 * doy + 2) / 153 - 9 ≤ 2 := by omega
    simp (disch := omega) only [monthAndDay, addU32_ok, mulU32_ok, subU32_ok, bind_eq_bind,
      bind_some, fromMarch, if_neg early, if_pos low, Option.pure_def]

theorem daysToYmd_eq {days year day : Nat} (fits : days + 719468 < 2 ^ 32)
    (same : days + 719468 = marchStart year + day) (short : day < marchLength year) :
    daysToYmd days = some (fromMarch year day) := by
  obtain ⟨era, century, cycle, rest, few, cycles, years, bounded, leap, rfl, start⟩ :=
    march_digits short
  obtain ⟨doe, isDoe⟩ : ∃ doe, doe = 36524 * century + 1461 * cycle + 365 * rest + day := ⟨_, rfl⟩
  obtain ⟨total, added, small, isTotal⟩ : ∃ total, addU32 days 719468 = some total ∧
      total < 2 ^ 32 ∧ total = era * 146097 + doe :=
    ⟨_, addU32_ok fits, fits, by omega⟩
  have era_eq : total / 146097 = era := by omega
  have doe_eq : total - era * 146097 = doe := by omega
  have year_eq : 100 * century + 4 * cycle + rest + era * 400 =
      400 * era + 100 * century + 4 * cycle + rest := by omega
  -- the sum is rewritten away first: the kernel would count up to the literal in it
  rw [daysToYmd, added, bind_eq_bind, bind_some]
  simp only [era_eq]
  rw [mulU32_ok (by omega), bind_some, subU32_ok (by omega), bind_some, doe_eq,
    yearOfEra_eq few cycles years bounded leap isDoe, bind_some, mulU32_ok (by omega),
    bind_some, addU32_ok (by omega), bind_some,
    dayOfYear_eq few cycles years isDoe, bind_some, year_eq]
  exact monthAndDay_eq bounded (by omega)

theorem monthDays_fromMarch (year : Nat) {mp : Nat} (within : mp < 12) :
    monthDays (if mp < 10 then year else year + 1) (if mp < 10 then mp + 3 else mp - 9) =
      min ((153 * (mp + 1) + 2) / 5) (marchLength year) - (153 * mp + 2) / 5 := by
  by_cases leap : IsLeap (year + 1) <;> interval_cases mp <;> simp [monthDays, marchLength, leap]

theorem fromMarch_next {year day : Nat} (short : day < marchLength year) :
    (fromMarch year day).Valid ∧ (fromMarch year day).next =
      if day + 1 < marchLength year then fromMarch year (day + 1) else fromMarch (year + 1) 0 := by
  have length := marchLength_eq year
  obtain ⟨mp, isMp⟩ : ∃ mp, mp = (5 * day + 2) / 153 := ⟨_, rfl⟩
  have within : mp < 12 := by omega
  have days := monthDays_fromMarch year within
  simp only [fromMarch, ← isMp, Ymd.Valid, Ymd.next, days]
  refine ⟨by split <;> omega, ?_⟩
  by_cases inMonth : day + 1 < min ((153 * (mp + 1) + 2) / 5) (marchLength year)
  · have same : (5 * (day + 1) + 2) / 153 = mp := by omega
    have inYear : day + 1 < marchLength year := by omega
    have later : day - (153 * mp + 2) / 5 + 1 + 1 = day + 1 - (153 * mp + 2) / 5 + 1 := by omega
    rw [if_pos (by omega), if_pos inYear, same, later]
  · rw [if_neg (by omega)]
    by_cases inYear : day + 1 < marchLength year
    · have same : (5 * (day + 1) + 2) / 153 = mp + 1 := by omega
      have first : day + 1 - (153 * (mp + 1) + 2) / 5 = 0 := by omega
      have before : mp < 11 := by omega
      rw [if_pos inYear, same, first]
      clear isMp days inMonth inYear same first
      interval_cases mp <;> rfl
    · obtain rfl : mp = 11 := by omega
      rw [if_neg inYear]
      rfl

theorem daysToYmd_succ (days : Nat) (fits : days + 719468 < 2 ^ 32) :
    ∃ date, daysToYmd days = some date ∧ date.Valid ∧
      (days + 1 + 719468 < 2 ^ 32 → daysToYmd (days + 1) = some date.next) := by
  obtain ⟨year, day, same, short⟩ := exists_march (days + 719468)
  obtain ⟨valid, next⟩ := fromMarch_next short
  refine ⟨_, daysToYmd_eq fits same short, valid, fun later => ?_⟩
  rw [next]
  by_cases inYear : day + 1 < marchLength year
  · rw [if_pos inYear]
    exact daysToYmd_eq later (by omega) inYear
  · have length := marchLength_eq (year + 1)
    rw [if_neg inYear]
    exact daysToYmd_eq later (by rw [marchStart_succ]; omega) (by omega)

theorem daysToYmd_iterate (days : Nat) (fits : days + 719468 < 2 ^ 32) :
    daysToYmd days = some (Ymd.next^[days] epoch) := by
  induction days with
  | zero =>
    have start : 0 + 719468 = marchStart 1969 + 306 := rfl
    exact daysToYmd_eq fits start (by decide)
  | succ days ih =>
    have before := ih (by omega)
    obtain ⟨date, same, -, next⟩ := daysToYmd_succ days (by omega)
    obtain rfl : Ymd.next^[days] epoch = date := Option.some.inj (before.symm.trans same)
    rw [next fits, Function.iterate_succ_apply']

/-- Every day count that the conversion can take has its date, which is reached from
1 January 1970 one day after the other. -/
theorem days_to_ymd_gregorian :
    daysToYmd 0 = some epoch ∧ ∀ days, days + 719468 < 2 ^ 32 →
      ∃ date, daysToYmd days = some date ∧ date.Valid ∧ date = Ymd.next^[days] epoch ∧
        (days + 1 + 719468 < 2 ^ 32 → daysToYmd (days + 1) = some date.next) := by
  refine ⟨daysToYmd_iterate 0 (by decide), fun days fits => ?_⟩
  obtain ⟨date, same, valid, next⟩ := daysToYmd_succ days fits
  have reached : date = Ymd.next^[days] epoch :=
    Option.some.inj (same.symm.trans (daysToYmd_iterate days fits))
  exact ⟨date, same, valid, reached, next⟩

/-- 29 February 2000 and the day after it. -/
theorem days_to_ymd_leap_day :
    daysToYmd 11016 = some ⟨2000, 2, 29⟩ ∧ daysToYmd 11017 = some ⟨2000, 3, 1⟩ := by
  obtain ⟨date, same, -, -, next⟩ := days_to_ymd_gregorian.2 11016 (by decide)
  have leapDay : daysToYmd 11016 = some ⟨2000, 2, 29⟩ := by decide
  obtain rfl : date = ⟨2000, 2, 29⟩ := Option.some.inj (same.symm.trans leapDay)
  exact ⟨leapDay, next (by decide)⟩

def Ymd.Before (date other : Ymd) : Prop :=
  date.year < other.year ∨ date.year = other.year ∧
    (date.month < other.month ∨ date.month = other.month ∧ date.day < other.day)

theorem Ymd.before_next (date : Ymd) : date.Before date.next := by
  unfold next
  split
  · exact .inr ⟨rfl, .inr ⟨rfl, Nat.lt_succ_self _⟩⟩
  · split
    · exact .inr ⟨rfl, .inl (Nat.lt_succ_self _)⟩
    · exact .inl (Nat.lt_succ_self _)

theorem Ymd.before_iterate (date : Ymd) (count : Nat) : date.Before (next^[count + 1] date) := by
  induction count with
  | zero => exact date.before_next
  | succ count ih =>
    have last := (next^[count + 1] date).before_next
    rw [Function.iterate_succ_apply']
    unfold Before at ih last ⊢
    omega

theorem later_day_later_date (first second : Nat) (earlier : first < second)
    (fits : second + 719468 < 2 ^ 32) :
    ∃ date other, daysToYmd first = some date ∧ daysToYmd second = some other ∧
      date.Before other := by
  refine ⟨_, _, daysToYmd_iterate first (by omega), daysToYmd_iterate second fits, ?_⟩
  obtain ⟨count, rfl⟩ : ∃ count, second = count + 1 + first := ⟨second - first - 1, by omega⟩
  rw [Function.iterate_add_apply]
  exact Ymd.before_iterate _ count

theorem century_later :
    ∃ date other, daysToYmd 0 = some date ∧ daysToYmd 36524 = some other ∧ date.Before other :=
  later_day_later_date 0 36524 (by decide) (by decide)

end KizunaLink.Logger
