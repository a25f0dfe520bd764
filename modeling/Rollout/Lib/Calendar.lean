import Mathlib.Logic.Function.Iterate
import Mathlib.Tactic.IntervalCases

/-!
# The proleptic Gregorian calendar

* `Date` — a year, a month and a day; `Date.Valid` — the month and the day exist.
* `Date.succ` — the date of the next day; `Date.epoch` — the first of January 1970.
* `Date.days` — the number of a date, counted from the epoch by summing the years and the months
  before it. `days_succ`: the next day has the next number; `days_iterate`: a date that many days
  after the epoch has that number, so `days` is the count of days it is meant to be.
-/

set_option linter.unusedSectionVars false

namespace Rollout.Lib

/-- A date of the calendar. Source: none: infrastructure. Kind: D -/
structure Date where
  /-- The year; there is a year 0. -/
  year : Int
  /-- The month, from 1. -/
  month : Nat
  /-- The day of the month, from 1. -/
  day : Nat
deriving DecidableEq

/-- A leap year. Source: none: infrastructure. Kind: D -/
def Leap (y : Int) : Prop := y % 4 = 0 ∧ (y % 100 ≠ 0 ∨ y % 400 = 0)

instance (y : Int) : Decidable (Leap y) := inferInstanceAs (Decidable (_ ∧ _))

/-- The length of a month; there are twelve. Source: none: infrastructure. Kind: D -/
def daysInMonth (y : Int) : Nat → Nat
  | 1 | 3 | 5 | 7 | 8 | 10 | 12 => 31
  | 4 | 6 | 9 | 11 => 30
  | 2 => if Leap y then 29 else 28
  | _ => 0

/-- The days of a year before a month. Source: none: infrastructure. Kind: D -/
def daysBeforeMonth (y : Int) : Nat → Nat
  | 0 => 0
  | m + 1 => daysBeforeMonth y m + daysInMonth y m

/-- The days before a year, since the epoch. Source: none: infrastructure. Kind: D -/
def daysBeforeYear (y : Int) : Int :=
  365 * (y - 1970) + ((y - 1) / 4 - (y - 1) / 100 + (y - 1) / 400) - 477

namespace Date

/-- The date exists. Source: none: infrastructure. Kind: D -/
structure Valid (d : Date) : Prop where
  month_pos : 1 ≤ d.month
  month_le : d.month ≤ 12
  day_pos : 1 ≤ d.day
  day_le : d.day ≤ daysInMonth d.year d.month

/-- The date of the next day. Source: none: infrastructure. Kind: D -/
def succ (d : Date) : Date :=
  if d.day < daysInMonth d.year d.month then { d with day := d.day + 1 }
  else if d.month < 12 then ⟨d.year, d.month + 1, 1⟩
  else ⟨d.year + 1, 1, 1⟩

/-- The first of January 1970. Source: none: infrastructure. Kind: D -/
def epoch : Date := ⟨1970, 1, 1⟩

/-- The number of a date: the days between the epoch and it.
Source: none: infrastructure. Kind: D -/
def days (d : Date) : Int :=
  daysBeforeYear d.year + daysBeforeMonth d.year d.month + d.day - 1

end Date

/-! ## Years and months -/

theorem daysInMonth_pos (y : Int) {m : Nat} (h : 1 ≤ m) (h' : m ≤ 12) : 1 ≤ daysInMonth y m := by
  by_cases hleap : Leap y <;> interval_cases m <;> simp [daysInMonth, hleap]

theorem daysBeforeMonth_succ (y : Int) (m : Nat) :
    daysBeforeMonth y (m + 1) = daysBeforeMonth y m + daysInMonth y m := rfl

/-- A year is 365 days long, a leap year 366. Source: none: infrastructure. Kind: L -/
theorem daysBeforeMonth_thirteen (y : Int) :
    daysBeforeMonth y 13 = if Leap y then 366 else 365 := by
  simp only [daysBeforeMonth, daysInMonth]
  split <;> rfl

theorem daysBeforeYear_succ (y : Int) :
    daysBeforeYear (y + 1) = daysBeforeYear y + if Leap y then 366 else 365 := by
  unfold daysBeforeYear
  by_cases h : Leap y
  · rw [if_pos h]
    obtain ⟨hfour, hhundred⟩ := h
    omega
  · rw [if_neg h]
    unfold Leap at h
    omega

namespace Date

theorem valid_epoch : epoch.Valid := ⟨by decide, by decide, by decide, by decide⟩

theorem days_epoch : epoch.days = 0 := by decide

theorem Valid.succ {d : Date} (h : d.Valid) : d.succ.Valid := by
  unfold Date.succ
  split
  · next hday => exact ⟨h.month_pos, h.month_le, Nat.le_add_left 1 _, hday⟩
  split
  · next hmonth =>
    have hpos : 1 ≤ daysInMonth d.year (d.month + 1) :=
      daysInMonth_pos d.year (Nat.le_add_left 1 _) hmonth
    exact ⟨Nat.le_add_left 1 _, hmonth, Nat.le_refl 1, hpos⟩
  · have hpos : 1 ≤ daysInMonth (d.year + 1) 1 := daysInMonth_pos _ (Nat.le_refl 1) (by omega)
    exact ⟨Nat.le_refl 1, Nat.le_add_left 1 11, Nat.le_refl 1, hpos⟩

/-- **The next day has the next number.** Source: none: infrastructure. Kind: P -/
theorem days_succ {d : Date} (h : d.Valid) : d.succ.days = d.days + 1 := by
  unfold Date.succ
  split
  · simp only [days]
    omega
  have hlast : d.day = daysInMonth d.year d.month := by
    have := h.day_le
    omega
  split
  · simp only [days, daysBeforeMonth_succ, hlast]
    omega
  · have hmonth : d.month = 12 := by
      have := h.month_le
      omega
    have hyear := daysBeforeMonth_thirteen d.year
    rw [daysBeforeMonth_succ] at hyear
    simp only [days, daysBeforeYear_succ, hlast, hmonth]
    simp only [daysBeforeMonth, daysInMonth] at hyear ⊢
    split at hyear <;> simp_all <;> omega

theorem valid_iterate (n : Nat) : (succ^[n] epoch).Valid := by
  induction n with
  | zero => exact valid_epoch
  | succ n ih =>
      rw [Function.iterate_succ_apply']
      exact ih.succ

/-- **The date a number of days after the epoch has that number.**
Source: none: infrastructure. Kind: P -/
theorem days_iterate (n : Nat) : (succ^[n] epoch).days = n := by
  induction n with
  | zero => exact days_epoch
  | succ n ih =>
      rw [Function.iterate_succ_apply', days_succ (valid_iterate n), ih]
      rfl

end Date

/-! ## Years that start in March -/

/-- A date in years that start in March. Source: none: infrastructure. Kind: D -/
structure March where
  /-- The year. -/
  year : Int
  /-- The month, March being 0. -/
  month : Int
  /-- The day of the month, from 1. -/
  day : Int

/-- Source: none: infrastructure. Kind: D -/
def Date.march (d : Date) : March :=
  if 2 < d.month then ⟨d.year, d.month - 3, d.day⟩ else ⟨d.year - 1, d.month + 9, d.day⟩

namespace March

/-- The four hundred years the year is one of. Source: none: infrastructure. Kind: D -/
def era (m : March) : Int := m.year / 400

/-- The year of its era. Source: none: infrastructure. Kind: D -/
def yoe (m : March) : Int := m.year % 400

/-- The day of the year, from 0. Source: none: infrastructure. Kind: D -/
def doy (m : March) : Int := (153 * m.month + 2) / 5 + m.day - 1

/-- The day of the era, from 0. Source: none: infrastructure. Kind: D -/
def doe (m : March) : Int := 365 * m.yoe + m.yoe / 4 - m.yoe / 100 + m.doy

end March

theorem daysBeforeMonth_eq (y : Int) {m : Nat} (h : 1 ≤ m) (h' : m ≤ 12) :
    (daysBeforeMonth y m : Int) =
      if 2 < m then (153 * ((m : Int) - 3) + 2) / 5 + 59 + (if Leap y then 1 else 0)
      else 31 * ((m : Int) - 1) := by
  by_cases hleap : Leap y <;> interval_cases m <;> simp [daysBeforeMonth, daysInMonth, hleap]

theorem daysInMonth_le (y : Int) {m : Nat} (h : 1 ≤ m) (h' : m ≤ 12) :
    (daysInMonth y m : Int) ≤
      if m = 2 then 28 + (if Leap y then 1 else 0)
      else if m = 1 then 31
      else (153 * ((m : Int) - 2) + 2) / 5 - (153 * ((m : Int) - 3) + 2) / 5 := by
  by_cases hleap : Leap y <;> interval_cases m <;> simp [daysInMonth, hleap]

namespace Date

variable {d : Date}

/-- **The number of a date**, by eras of 146097 days. Source: none: infrastructure. Kind: L -/
theorem days_eq_march (h : d.Valid) : d.days + 719468 = 146097 * d.march.era + d.march.doe := by
  have hbefore := daysBeforeMonth_eq d.year h.month_pos h.month_le
  have hmonth := h.month_pos
  unfold march March.doe March.doy March.era March.yoe days daysBeforeYear
  by_cases hleap : Leap d.year
  · rw [if_pos hleap] at hbefore
    obtain ⟨hfour, hhundred⟩ := hleap
    split at hbefore <;> simp [*] <;> omega
  · rw [if_neg hleap] at hbefore
    unfold Leap at hleap
    split at hbefore <;> simp [*] <;> omega

/-- The months of 153 days in five give the month back. Source: none: infrastructure. Kind: L -/
theorem march_month (h : d.Valid) : (5 * d.march.doy + 2) / 153 = d.march.month := by
  have hlen := daysInMonth_le d.year h.month_pos h.month_le
  obtain ⟨hmonth, hmonth', hday, hday'⟩ := h
  unfold march March.doy
  split at hlen
  · split at hlen <;> simp [*] <;> omega
  · split at hlen <;> split <;> simp <;> omega

/-- A date from its year that starts in March. Source: none: infrastructure. Kind: L -/
theorem march_back (h : d.Valid) : 0 ≤ d.march.month ∧ d.march.month < 12 ∧
    (d.month : Int) = (if d.march.month < 10 then d.march.month + 3 else d.march.month - 9) ∧
    d.year = d.march.yoe + d.march.era * 400 + (if d.month ≤ 2 then 1 else 0) ∧
    (d.day : Int) = d.march.doy - (153 * d.march.month + 2) / 5 + 1 := by
  obtain ⟨hmonth, hmonth', -, -⟩ := h
  unfold march March.yoe March.era March.doy
  by_cases hmarch : 2 < d.month
  · rw [if_pos hmarch, if_neg (show ¬ d.month ≤ 2 by omega)]
    dsimp only
    rw [if_pos (by omega)]
    omega
  · rw [if_neg hmarch, if_pos (show d.month ≤ 2 by omega)]
    dsimp only
    rw [if_neg (by omega)]
    omega

/-- The day of a year that starts in March; only a leap year has 366 of them.
Source: none: infrastructure. Kind: L -/
theorem march_doy (h : d.Valid) : 0 ≤ d.march.doy ∧ d.march.doy ≤ 365 ∧
    (d.march.doy = 365 → (d.march.yoe + 1) % 4 = 0 ∧
      ((d.march.yoe + 1) % 100 ≠ 0 ∨ d.march.yoe = 399)) := by
  have hlen := daysInMonth_le d.year h.month_pos h.month_le
  obtain ⟨hmonth, hmonth', hday, hday'⟩ := h
  unfold march March.doy March.yoe
  by_cases hmarch : 2 < d.month
  · rw [if_neg (by omega), if_neg (by omega)] at hlen
    rw [if_pos hmarch]
    dsimp only
    omega
  · rw [if_neg hmarch]
    dsimp only
    by_cases hleap : Leap d.year
    · rw [if_pos hleap] at hlen
      obtain ⟨hfour, hhundred⟩ := hleap
      split at hlen <;> omega
    · rw [if_neg hleap] at hlen
      split at hlen <;> omega

/-- **The year of the era from the day of the era.** A year too many is counted for each day that
four, a hundred or four hundred years have over their years of 365 days, which are taken away first.
Source: none: infrastructure. Kind: P -/
theorem march_yoe (h : d.Valid) :
    (d.march.doe - d.march.doe / 1460 + d.march.doe / 36524 - d.march.doe / 146096) / 365 =
      d.march.yoe := by
  obtain ⟨hd0, hd1, hleap⟩ := march_doy h
  have h0 : 0 ≤ d.march.yoe := Int.emod_nonneg _ (by decide)
  have h1 : d.march.yoe < 400 := Int.emod_lt_of_pos _ (by decide)
  have hdoe : d.march.doe = 365 * d.march.yoe + d.march.yoe / 4 - d.march.yoe / 100 + d.march.doy :=
    rfl
  generalize d.march.doe = doe at *
  generalize d.march.yoe = yoe at *
  generalize d.march.doy = doy at *
  -- the hundred years of the era, the four years of these, and the year of these
  obtain ⟨b, hb⟩ : ∃ b, b = yoe / 100 := ⟨_, rfl⟩
  obtain ⟨q, hq⟩ : ∃ q, q = yoe % 100 / 4 := ⟨_, rfl⟩
  obtain ⟨r, hr⟩ : ∃ r, r = yoe % 4 := ⟨_, rfl⟩
  have hyoe : yoe = 100 * b + 4 * q + r := by omega
  have hb1 : 0 ≤ b ∧ b ≤ 3 := by omega
  have hq1 : 0 ≤ q ∧ q ≤ 24 := by omega
  have hr1 : 0 ≤ r ∧ r ≤ 3 := by omega
  have hlast : doy = 365 → r = 3 ∧ (q ≠ 24 ∨ b = 3) := by omega
  have hday : doe = 36524 * b + 1461 * q + 365 * r + doy := by omega
  clear hdoe hleap hb hq hr
  have hfour : doe / 1460 = 25 * b + q ∧ doy < 365 ∨ doe / 1460 = 25 * b + q + 1 ∧ 1 ≤ doy := by
    omega
  have hhundred : doe / 36524 = b ∧ doe < 146096 ∨ doe / 36524 = b + 1 ∧ doe = 146096 := by omega
  rcases hhundred with ⟨hcount, hlt⟩ | ⟨hcount, rfl⟩
  · have hera : doe / 146096 = 0 := by omega
    omega
  · omega

end Date

end Rollout.Lib
