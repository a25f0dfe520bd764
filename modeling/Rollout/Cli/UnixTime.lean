import Rollout.Lib.Calendar

/-!
# Time stamps of the metadata

* `i64` — a result that a machine integer holds; arithmetic that leaves the range has none.
* `civilFromDays`, `formatUnixMs` — the formatter of `rollout infer batch`, every sum, difference and
  product of it checked and every cast taken modulo its width.
* `UtcTime` — a date of the calendar and a time of day; `UtcTime.unixMs` is its instant.
  `formatUnixMs_correct`: the formatter writes the time that has the instant.
-/

set_option linter.unusedSectionVars false

namespace Rollout.Cli

open Rollout.Lib

/-! ## The formatter -/

/-- A result an `i64` holds. Source: none: infrastructure. Kind: D -/
def i64 (x : Int) : Option Int :=
  if -9223372036854775808 ≤ x ∧ x ≤ 9223372036854775807 then some x else none

/-- A cast to `i32`. Source: none: infrastructure. Kind: D -/
def asI32 (x : Int) : Int := x.bmod 4294967296

/-- A cast to `u32`. Source: none: infrastructure. Kind: D -/
def asU32 (x : Int) : Nat := (x % 4294967296).toNat

namespace I64

/-- Source: none: infrastructure. Kind: D -/
def add (a b : Int) : Option Int := i64 (a + b)

/-- Source: none: infrastructure. Kind: D -/
def sub (a b : Int) : Option Int := i64 (a - b)

/-- Source: none: infrastructure. Kind: D -/
def mul (a b : Int) : Option Int := i64 (a * b)

/-- Division towards zero. Source: none: infrastructure. Kind: D -/
def div (a b : Int) : Option Int := if b = 0 then none else i64 (a.tdiv b)

/-- Source: none: infrastructure. Kind: D -/
def divEuclid (a b : Int) : Option Int := if b = 0 then none else i64 (a / b)

/-- Source: none: infrastructure. Kind: D -/
def remEuclid (a b : Int) : Option Int := if b = 0 then none else i64 (a % b)

end I64

/-- Source: `rollout-cli/src/infer.rs` `civil_from_days` (`yoe`). Kind: D -/
def yearOfEra (doe : Int) : Option Int := do
  let years ← I64.sub doe (← I64.div doe 1460)
  let years ← I64.add years (← I64.div doe 36524)
  let years ← I64.sub years (← I64.div doe 146096)
  I64.div years 365

/-- Source: `rollout-cli/src/infer.rs` `civil_from_days` (`doy`). Kind: D -/
def dayOfYear (doe yoe : Int) : Option Int := do
  let before ← I64.add (← I64.mul 365 yoe) (← I64.div yoe 4)
  let before ← I64.sub before (← I64.div yoe 100)
  I64.sub doe before

/-- Source: `rollout-cli/src/infer.rs` `civil_from_days` (`mp`). Kind: D -/
def monthFromMarch (doy : Int) : Option Int := do
  let fifths ← I64.add (← I64.mul 5 doy) 2
  I64.div fifths 153

/-- Source: `rollout-cli/src/infer.rs` `civil_from_days` (`day`). Kind: D -/
def dayOfMonth (doy mp : Int) : Option Int := do
  let fifths ← I64.add (← I64.mul 153 mp) 2
  let day ← I64.sub doy (← I64.div fifths 5)
  I64.add day 1

/-- Source: `rollout-cli/src/infer.rs` `civil_from_days` (`month`). Kind: D -/
def monthFromJanuary (mp : Int) : Option Int :=
  if mp < 10 then I64.add mp 3 else I64.sub mp 9

/-- Source: `rollout-cli/src/infer.rs` `civil_from_days` (`year_final`). Kind: D -/
def yearFromJanuary (month yearCivil : Int) : Option Int :=
  if month ≤ 2 then I64.add yearCivil 1 else some yearCivil

/-- The date of a day, counted from the epoch. Source: `rollout-cli/src/infer.rs` `civil_from_days`.
Kind: D -/
def civilFromDays (days : Int) : Option Date := do
  let z ← I64.add days 719468
  let era ← I64.divEuclid z 146097
  let doe ← I64.remEuclid z 146097
  let yoe ← yearOfEra doe
  let yearCivil ← I64.add yoe (← I64.mul era 400)
  let doy ← dayOfYear doe yoe
  let mp ← monthFromMarch doy
  let day ← dayOfMonth doy mp
  let month ← monthFromJanuary mp
  let yearFinal ← yearFromJanuary month yearCivil
  return ⟨asI32 yearFinal, asU32 month, asU32 day⟩

/-- A number with at least as many digits. Source: none: infrastructure. Kind: D -/
def zeroPadded (width n : Nat) : String := String.ofList (List.leftpad width '0' (Nat.toDigits 10 n))

/-- The same for a number with a sign. Source: none: infrastructure. Kind: D -/
def zeroPaddedInt (width : Nat) (x : Int) : String :=
  if x < 0 then "-" ++ zeroPadded (width - 1) x.natAbs else zeroPadded width x.natAbs

/-- The text of a date and a time of day. Source: `rollout-cli/src/infer.rs` `format_unix_ms`.
Kind: D -/
def renderTime (date : Date) (hour minute second millis : Nat) : String :=
  zeroPaddedInt 4 date.year ++ "-" ++ zeroPadded 2 date.month ++ "-" ++ zeroPadded 2 date.day ++
    "T" ++ zeroPadded 2 hour ++ ":" ++ zeroPadded 2 minute ++ ":" ++ zeroPadded 2 second ++ "." ++
    zeroPadded 3 millis ++ "Z"

/-- Source: `rollout-cli/src/infer.rs` `format_unix_ms`. Kind: D -/
def formatUnixMs (unixMs : BitVec 64) : Option String := do
  let secs := unixMs / 1000#64
  let millis := unixMs % 1000#64
  let days := (i64 (secs / 86400#64).toNat).getD 0
  let rem := secs % 86400#64
  let hour := rem / 3600#64
  let minute := (rem % 3600#64) / 60#64
  let second := rem % 60#64
  let date ← civilFromDays days
  return renderTime date hour.toNat minute.toNat second.toNat millis.toNat

example : formatUnixMs 0#64 = some "1970-01-01T00:00:00.000Z" := by decide +kernel

/-! ## What it writes -/

theorem i64_eq {x : Int} (h : -9223372036854775808 ≤ x) (h' : x ≤ 9223372036854775807) :
    i64 x = some x := if_pos ⟨h, h'⟩

theorem asI32_eq {x : Int} (h : -2147483648 ≤ x) (h' : x ≤ 2147483647) : asI32 x = x := by
  unfold asI32
  rw [Int.bmod_def]
  split <;> omega

theorem asU32_eq {n : Nat} (h : n < 4294967296) : asU32 n = n := by
  unfold asU32
  omega

namespace I64

variable {a b : Int}

theorem add_eq (h : -9223372036854775808 ≤ a + b) (h' : a + b ≤ 9223372036854775807) :
    add a b = some (a + b) := i64_eq h h'

theorem sub_eq (h : -9223372036854775808 ≤ a - b) (h' : a - b ≤ 9223372036854775807) :
    sub a b = some (a - b) := i64_eq h h'

theorem mul_eq (h : -9223372036854775808 ≤ a * b) (h' : a * b ≤ 9223372036854775807) :
    mul a b = some (a * b) := i64_eq h h'

theorem ediv_le (h : 0 ≤ a) (hb : 0 < b) (h' : a ≤ 9223372036854775807) :
    i64 (a / b) = some (a / b) := by
  have hdiv : a / b ≤ a := Int.ediv_le_self b h
  have hnonneg : 0 ≤ a / b := Int.ediv_nonneg h (Int.le_of_lt hb)
  exact i64_eq (by omega) (by omega)

theorem div_eq (h : 0 ≤ a) (hb : 0 < b) (h' : a ≤ 9223372036854775807) :
    div a b = some (a / b) := by
  rw [div, if_neg (by omega), Int.tdiv_eq_ediv_of_nonneg h, ediv_le h hb h']

theorem divEuclid_eq (h : 0 ≤ a) (hb : 0 < b) (h' : a ≤ 9223372036854775807) :
    divEuclid a b = some (a / b) := by
  rw [divEuclid, if_neg (by omega), ediv_le h hb h']

theorem remEuclid_eq (h : 0 ≤ a) (hb : 0 < b) (h' : a ≤ 9223372036854775807) :
    remEuclid a b = some (a % b) := by
  have hnonneg := Int.emod_nonneg a (by omega : b ≠ 0)
  have hmod := Int.emod_add_mul_ediv a b
  have hdiv : 0 ≤ b * (a / b) := Int.mul_nonneg (Int.le_of_lt hb) (Int.ediv_nonneg h (Int.le_of_lt hb))
  rw [remEuclid, if_neg (by omega), i64_eq (by omega) (by omega)]

end I64

section parts

variable {doe yoe doy mp : Int}

theorem yearOfEra_eq (h : 0 ≤ doe) (h' : doe < 146097) :
    yearOfEra doe = some ((doe - doe / 1460 + doe / 36524 - doe / 146096) / 365) := by
  unfold yearOfEra
  simp (disch := omega) [I64.add_eq, I64.sub_eq, I64.div_eq]

theorem dayOfYear_eq (h : 0 ≤ doe) (h' : doe < 146097) (hy : 0 ≤ yoe) (hy' : yoe < 400) :
    dayOfYear doe yoe = some (doe - (365 * yoe + yoe / 4 - yoe / 100)) := by
  unfold dayOfYear
  simp (disch := omega) [I64.add_eq, I64.sub_eq, I64.mul_eq, I64.div_eq]

theorem monthFromMarch_eq (h : 0 ≤ doy) (h' : doy ≤ 365) :
    monthFromMarch doy = some ((5 * doy + 2) / 153) := by
  unfold monthFromMarch
  simp (disch := omega) [I64.add_eq, I64.mul_eq, I64.div_eq]

theorem dayOfMonth_eq (h : 0 ≤ doy) (h' : doy ≤ 365) (hm : 0 ≤ mp) (hm' : mp < 12) :
    dayOfMonth doy mp = some (doy - (153 * mp + 2) / 5 + 1) := by
  unfold dayOfMonth
  simp (disch := omega) [I64.add_eq, I64.sub_eq, I64.mul_eq, I64.div_eq]

end parts

/-- The last day of a `u64` of milliseconds. Source: `rollout-cli/src/infer.rs` `format_unix_ms`.
Kind: D -/
def lastDay : Int := 213503982334

/-- **The date of a day is the one that has its number**, for every day a `u64` of milliseconds
reaches: no operation leaves its range and no cast changes its number.
Source: `rollout-cli/src/infer.rs` `civil_from_days`. Kind: P -/
theorem civilFromDays_days {d : Date} (h : d.Valid) (h0 : 0 ≤ d.days) (hlast : d.days ≤ lastDay) :
    civilFromDays d.days = some d := by
  have hdays := Date.days_eq_march h
  have hyoe := Date.march_yoe h
  have hmonth := Date.march_month h
  obtain ⟨hd0, hd1, -⟩ := Date.march_doy h
  obtain ⟨hm0, hm1, hmonth', hyear, hday⟩ := Date.march_back h
  have hy0 : 0 ≤ d.march.yoe := Int.emod_nonneg _ (by decide)
  have hy1 : d.march.yoe < 400 := Int.emod_lt_of_pos _ (by decide)
  have hdoe : d.march.doe = 365 * d.march.yoe + d.march.yoe / 4 - d.march.yoe / 100 + d.march.doy :=
    rfl
  unfold lastDay at hlast
  have he0 : 0 ≤ d.march.doe := by omega
  have he1 : d.march.doe < 146097 := by omega
  have hera : (d.days + 719468) / 146097 = d.march.era := by omega
  have hrest : (d.days + 719468) % 146097 = d.march.doe := by omega
  have hdoy : d.march.doe - (365 * d.march.yoe + d.march.yoe / 4 - d.march.yoe / 100) =
      d.march.doy := by omega
  unfold civilFromDays
  rw [I64.add_eq (by omega) (by omega), Option.bind_eq_bind, Option.bind_some,
    I64.divEuclid_eq (by omega) (by omega) (by omega), hera, Option.bind_some,
    I64.remEuclid_eq (by omega) (by omega) (by omega), hrest, Option.bind_some,
    yearOfEra_eq he0 he1, hyoe, Option.bind_some, I64.mul_eq (by omega) (by omega),
    Option.bind_some, I64.add_eq (by omega) (by omega), Option.bind_some,
    dayOfYear_eq he0 he1 hy0 hy1, hdoy, Option.bind_some, monthFromMarch_eq hd0 hd1, hmonth,
    Option.bind_some, dayOfMonth_eq hd0 hd1 hm0 hm1, Option.bind_some, ← hday]
  have hmonths : monthFromJanuary d.march.month = some (d.month : Int) := by
    rw [monthFromJanuary, hmonth']
    split
    · exact I64.add_eq (by omega) (by omega)
    · exact I64.sub_eq (by omega) (by omega)
  have hyears : yearFromJanuary d.month (d.march.yoe + d.march.era * 400) = some d.year := by
    rw [yearFromJanuary, hyear]
    by_cases hm : d.month ≤ 2
    · rw [if_pos hm, if_pos (by omega), I64.add_eq (by omega) (by omega)]
    · rw [if_neg hm, if_neg (by omega), Int.add_zero]
  rw [hmonths, Option.bind_some, hyears, Option.bind_some]
  obtain ⟨-, hmonth12, -, hday31⟩ := h
  rw [asI32_eq (by omega) (by omega), asU32_eq (by omega), asU32_eq (by omega)]
  rfl

/-! ## The time of an instant -/

/-- A date and a time of day, in UTC. Source: `rollout-cli/src/infer.rs` `format_unix_ms`. Kind: D -/
structure UtcTime where
  /-- The date. -/
  date : Date
  /-- The hour. -/
  hour : Nat
  /-- The minute. -/
  minute : Nat
  /-- The second. -/
  second : Nat
  /-- The millisecond. -/
  millis : Nat
deriving DecidableEq

namespace UtcTime

/-- The date and the time exist. Source: none: infrastructure. Kind: D -/
structure Valid (t : UtcTime) : Prop where
  date : t.date.Valid
  hour : t.hour < 24
  minute : t.minute < 60
  second : t.second < 60
  millis : t.millis < 1000

/-- The instant: the milliseconds since the epoch. Source: none: infrastructure. Kind: D -/
def unixMs (t : UtcTime) : Int :=
  (((t.date.days * 24 + t.hour) * 60 + t.minute) * 60 + t.second) * 1000 + t.millis

/-- Source: `rollout-cli/src/infer.rs` `format_unix_ms`. Kind: D -/
def render (t : UtcTime) : String := renderTime t.date t.hour t.minute t.second t.millis

/-- The time of an instant, counted day by day from the epoch. Source: none: infrastructure. Kind: D -/
def ofUnixMs (ms : Nat) : UtcTime :=
  ⟨Date.succ^[ms / 86400000] Date.epoch, ms / 3600000 % 24, ms / 60000 % 60, ms / 1000 % 60,
    ms % 1000⟩

theorem valid_ofUnixMs (ms : Nat) : (ofUnixMs ms).Valid where
  date := Date.valid_iterate _
  hour := Nat.mod_lt _ (by decide)
  minute := Nat.mod_lt _ (by decide)
  second := Nat.mod_lt _ (by decide)
  millis := Nat.mod_lt _ (by decide)

theorem unixMs_ofUnixMs (ms : Nat) : (ofUnixMs ms).unixMs = ms := by
  unfold unixMs ofUnixMs
  rw [Date.days_iterate]
  dsimp only
  omega

end UtcTime

/-- The date of a day by the formatter is the one counted day by day.
Source: `rollout-cli/src/infer.rs` `civil_from_days`. Kind: L -/
theorem civilFromDays_iterate {n : Nat} (h : (n : Int) ≤ lastDay) :
    civilFromDays n = some (Date.succ^[n] Date.epoch) := by
  have hdays := Date.days_iterate n
  have hcivil := civilFromDays_days (Date.valid_iterate n) (by omega) (by omega)
  rwa [hdays] at hcivil

/-- An instant is that of one time. Source: `rollout-cli/src/infer.rs` `format_unix_ms`. Kind: L -/
theorem UtcTime.eq_of_unixMs {t u : UtcTime} (ht : t.Valid) (hu : u.Valid) (h : t.unixMs = u.unixMs)
    (h0 : 0 ≤ t.unixMs) (hlast : t.unixMs < 18446744073709551616) : t = u := by
  obtain ⟨htdate, hth, htm, hts, htms⟩ := ht
  obtain ⟨hudate, huh, hum, hus, hums⟩ := hu
  obtain ⟨tdate, thour, tminute, tsecond, tmillis⟩ := t
  obtain ⟨udate, uhour, uminute, usecond, umillis⟩ := u
  simp only [unixMs] at *
  have hdays : tdate.days = udate.days := by omega
  have hdate : tdate = udate := by
    have hleft := civilFromDays_days htdate (by omega) (by unfold lastDay; omega)
    have hright := civilFromDays_days hudate (by omega) (by unfold lastDay; omega)
    rw [hdays, hright] at hleft
    exact (Option.some.inj hleft).symm
  rw [UtcTime.mk.injEq]
  exact ⟨hdate, by omega, by omega, by omega, by omega⟩

/-- What the formatter writes. Source: `rollout-cli/src/infer.rs` `format_unix_ms`. Kind: L -/
theorem formatUnixMs_eq (unixMs : BitVec 64) :
    formatUnixMs unixMs = some (UtcTime.ofUnixMs unixMs.toNat).render := by
  have hms := unixMs.isLt
  have hday : (unixMs / 1000#64 / 86400#64).toNat = unixMs.toNat / 86400000 := by
    simp [BitVec.toNat_udiv, Nat.div_div_eq_div_mul]
  have hhour : (unixMs / 1000#64 % 86400#64 / 3600#64).toNat = unixMs.toNat / 3600000 % 24 := by
    simp only [BitVec.toNat_udiv, BitVec.toNat_umod, BitVec.toNat_ofNat, Nat.reducePow,
      Nat.reduceMod]
    omega
  have hminute : (unixMs / 1000#64 % 86400#64 % 3600#64 / 60#64).toNat =
      unixMs.toNat / 60000 % 60 := by
    simp only [BitVec.toNat_udiv, BitVec.toNat_umod, BitVec.toNat_ofNat, Nat.reducePow,
      Nat.reduceMod]
    omega
  have hsecond : (unixMs / 1000#64 % 86400#64 % 60#64).toNat = unixMs.toNat / 1000 % 60 := by
    simp only [BitVec.toNat_udiv, BitVec.toNat_umod, BitVec.toNat_ofNat, Nat.reducePow,
      Nat.reduceMod]
    omega
  have hmillis : (unixMs % 1000#64).toNat = unixMs.toNat % 1000 := BitVec.toNat_umod
  have hcivil := civilFromDays_iterate (n := unixMs.toNat / 86400000) (by unfold lastDay; omega)
  unfold formatUnixMs
  dsimp only
  rw [hday, i64_eq (by omega) (by omega), Option.getD_some, hcivil, hhour, hminute, hsecond, hmillis]
  rfl

/-- **The formatter writes the date and the time of its instant**, for every number of milliseconds:
there is one time with that instant, it is the one written, and its date is the date of its day, which
has the number of the day; and the date of the next day is the next date.
Source: `rollout-cli/src/infer.rs` `format_unix_ms`, `civil_from_days`. Kind: C -/
theorem formatUnixMs_correct :
    (∀ unixMs : BitVec 64, ∃ t : UtcTime, t.Valid ∧ t.unixMs = unixMs.toNat ∧
      (∀ u : UtcTime, u.Valid → u.unixMs = unixMs.toNat → u = t) ∧
      formatUnixMs unixMs = some t.render ∧
      civilFromDays (unixMs.toNat / 86400000 : Nat) = some t.date ∧
      t.date.days = (unixMs.toNat / 86400000 : Nat)) ∧
    ∀ n : Fin 213503982334, ∃ d : Date, d.Valid ∧ civilFromDays n.val = some d ∧
      civilFromDays (n.val + 1) = some d.succ := by
  refine ⟨fun unixMs => ?_, fun n => ?_⟩
  · have hms := unixMs.isLt
    have hvalid := UtcTime.valid_ofUnixMs unixMs.toNat
    have hunix := UtcTime.unixMs_ofUnixMs unixMs.toNat
    refine ⟨_, hvalid, hunix, fun u hu hsame => ?_, formatUnixMs_eq unixMs,
      civilFromDays_iterate (by unfold lastDay; omega), Date.days_iterate _⟩
    exact UtcTime.eq_of_unixMs hu hvalid (hsame.trans hunix.symm) (by omega) (by omega)
  · have hn := n.isLt
    refine ⟨_, Date.valid_iterate n.val, civilFromDays_iterate (by unfold lastDay; omega), ?_⟩
    have hnext := civilFromDays_iterate (n := n.val + 1) (by unfold lastDay; omega)
    rwa [Function.iterate_succ_apply'] at hnext

end Rollout.Cli
