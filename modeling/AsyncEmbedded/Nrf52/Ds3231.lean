import Mathlib.Data.Nat.Bitwise
import AsyncEmbedded.Nrf52.Twim

/-!
# The DS3231 real-time clock driver of `nrf52`

The DS3231 keeps the time and date in BCD registers: seconds, minutes and hours
at `00h`-`02h`, the day of the week at `03h`, and the date, month (with the
century in bit 7) and year at `04h`-`06h`.  `set_time` and `set_date` encode a
`chrono` value with `to_bcd` and write it with one I2C write that starts with
the first register's address; `get_time`, `get_date` and `get_datetime` set the
register pointer with a one-byte write and read the registers back, decoding
them with `from_bcd`, `time_from_regs` and `date_from_regs`.

## What the model keeps

Registers are `u8`, modelled as `BitVec 8` with the code's own `&`, `|`, `!`,
`<<`, `>>`, `*` and `+`.  No `+` or `*` of the driver can overflow: `from_bcd`
computes at most `10 * 15 + 15`, and the `12 + (regs[2] & !PM)` of the 12-hour
branch at most `12 + 223`.

The device is its register file, a function from addresses to bytes; a write
transfer stores its bytes from the address in its first byte on, and a read
transfer after the pointer write reads from that address on, the pointer
wrapping from `12h` to `00h` (`writeRegs`, `readRegs`).  Every transfer succeeds here:
what a failed TWIM transfer does is the subject of `Nrf52.Twim`, and the driver
only passes its error up with `?`.  The `chrono` types are kept to what the
driver uses: `NaiveTime` as an hour, minute and second with a nanosecond
fraction (of `10 ^ 9` or more during a leap second), and `NaiveDate` as a year,
month and day that form a date of the proleptic Gregorian calendar.  The driver
writes no fraction and reads none back.  `NaiveTime::from_hms` panics on an invalid time;
the model returns `none` there.

## What follows

`set_time` always selects the 24-hour mode, and `set_date` accepts exactly the
years 2000-2199; on those, `get_time`, `get_date` and `get_datetime` read back
the time and date that were set, the time without its fraction
(`setDate_setTime_round_trip`).  The 12-hour
branch of `time_from_regs`, though, keeps the `12/24` bit in the value it
decodes: every hours register in 12-hour mode decodes to an hour of 40 or more,
and `get_time` panics (`getTime_of_hour12`).
-/

namespace AsyncEmbedded.Nrf52

/-! ## The `chrono` values the driver reads and writes -/

/-- **`chrono::NaiveTime`**: a time of day and its nanosecond fraction, which
is `10 ^ 9` or more during a leap second. -/
@[ext] structure NaiveTime where
  hour : Nat
  minute : Nat
  second : Nat
  nanosecond : Nat
  hour_lt : hour < 24
  minute_lt : minute < 60
  second_lt : second < 60
  nanosecond_lt : nanosecond < 2000000000
  deriving DecidableEq

/-- `NaiveTime::from_hms`: the time with no fraction, or `none` where `chrono`
panics. -/
def NaiveTime.fromHms (hour min sec : Nat) : Option NaiveTime :=
  if h : hour < 24 ∧ min < 60 ∧ sec < 60 then some ⟨hour, min, sec, 0, h.1, h.2.1, h.2.2, by decide⟩
  else none

/-- `from_hms` gives a time back from its hour, minute and second exactly when
it has no fraction. -/
theorem NaiveTime.fromHms_eq_some_iff (t : NaiveTime) :
    NaiveTime.fromHms t.hour t.minute t.second = some t ↔ t.nanosecond = 0 := by
  rw [NaiveTime.fromHms, dif_pos ⟨t.hour_lt, t.minute_lt, t.second_lt⟩, Option.some.injEq]
  exact ⟨fun h => h ▸ rfl, fun h => by ext <;> simp [h]⟩

/-- Leap years of the proleptic Gregorian calendar. -/
def isLeapYear (year : Int) : Bool := year % 4 = 0 && (year % 100 ≠ 0 || year % 400 = 0)

/-- The number of days of a month. -/
def daysInMonth (year : Int) : Nat → Nat
  | 2 => if isLeapYear year then 29 else 28
  | 4 | 6 | 9 | 11 => 30
  | _ => 31

/-- **`chrono::NaiveDate`**: a year, month and day that form a date. -/
@[ext] structure NaiveDate where
  year : Int
  month : Nat
  day : Nat
  month_mem : 1 ≤ month ∧ month ≤ 12
  day_mem : 1 ≤ day ∧ day ≤ daysInMonth year month
  deriving DecidableEq

/-- `NaiveDate::from_ymd_opt`. -/
def NaiveDate.fromYmdOpt (year : Int) (month day : Nat) : Option NaiveDate :=
  if h : (1 ≤ month ∧ month ≤ 12) ∧ (1 ≤ day ∧ day ≤ daysInMonth year month) then
    some ⟨year, month, day, h.1, h.2⟩
  else none

/-- `chrono::NaiveDateTime`, built by `date.and_time(time)`. -/
structure NaiveDateTime where
  date : NaiveDate
  time : NaiveTime
  deriving DecidableEq

namespace Ds3231

/-! ## Registers and their codec -/

/-- `SECONDS`: the address of the seconds register. -/
def SECONDS : BitVec 8 := 0

/-- `DATE`: the address of the date register. -/
def DATE : BitVec 8 := 4

/-- `HOUR12`: bit 6 of the hours register, the 12-hour mode. -/
def HOUR12 : BitVec 8 := 1 <<< 6

/-- `PM`: bit 5 of the hours register in 12-hour mode. -/
def PM : BitVec 8 := 1 <<< 5

/-- `CENTURY`: bit 7 of the month register. -/
def CENTURY : BitVec 8 := 1 <<< 7

/-- `ds3231::Error`. -/
inductive Error
  | invalidDate
  | twim (e : Nrf52.Error)
  deriving DecidableEq

/-- **`from_bcd`** (lines 151-156). -/
def fromBcd (bcd : BitVec 8) : BitVec 8 :=
  let units := bcd &&& 0b1111
  let tens := bcd >>> 4
  10 * tens + units

/-- **`to_bcd`** (lines 159-163). -/
def toBcd (x : BitVec 8) : BitVec 8 :=
  let units := x % 10
  let tens := x / 10
  tens <<< 4 ||| units

theorem toNat_fromBcd (b : BitVec 8) : (fromBcd b).toNat = 10 * (b.toNat / 16) + b.toNat % 16 := by
  have := b.isLt
  have h15 : (0b1111 : BitVec 8).toNat = 2 ^ 4 - 1 := rfl
  have h10 : (10 : BitVec 8).toNat = 10 := rfl
  simp only [fromBcd, BitVec.toNat_add, BitVec.toNat_mul, BitVec.toNat_and, h15, h10,
    Nat.and_pow_two_sub_one_eq_mod, BitVec.toNat_ushiftRight, Nat.shiftRight_eq_div_pow]
  omega

/-- `to_bcd` puts the tens in the high nibble, dropping what does not fit. -/
theorem toNat_toBcd (x : BitVec 8) : (toBcd x).toNat = x.toNat / 10 % 16 * 16 + x.toNat % 10 := by
  have hor := Nat.mul_add_lt_is_or (i := 4)
    ((Nat.mod_lt x.toNat (by decide : 10 > 0)).trans (by decide)) (x.toNat / 10 % 16)
  have h10 : (10 : BitVec 8).toNat = 10 := rfl
  simp only [toBcd, BitVec.toNat_or, BitVec.toNat_shiftLeft, BitVec.toNat_umod,
    BitVec.toNat_udiv, Nat.shiftLeft_eq, h10]
  rw [show x.toNat / 10 * 2 ^ 4 % 2 ^ 8 = 2 ^ 4 * (x.toNat / 10 % 16) by omega, ← hor]
  omega

/-- **`from_bcd` undoes `to_bcd`** on every value whose tens fit a nibble. -/
theorem fromBcd_toBcd {x : BitVec 8} (h : x.toNat < 160) : (fromBcd (toBcd x)).toNat = x.toNat := by
  rw [toNat_fromBcd, toNat_toBcd]
  omega

/-- The same for a field `n` of a `chrono` value, cast with `as u8`. -/
theorem fromBcd_toBcd_ofNat {n : Nat} (h : n < 160) : (fromBcd (toBcd (.ofNat 8 n))).toNat = n := by
  rw [fromBcd_toBcd] <;> rw [BitVec.toNat_ofNat] <;> omega

/-- The same for the year of `set_date`, an `i32` cast with `as u8`. -/
theorem fromBcd_toBcd_ofInt {y : Int} (h0 : 0 ≤ y) (h : y < 100) :
    ((fromBcd (toBcd (.ofInt 8 y))).toNat : Int) = y := by
  rw [fromBcd_toBcd] <;> rw [BitVec.toNat_ofInt] <;> omega

/-- The test `b & m != 0` of a one-bit mask `m = 2 ^ i`, in arithmetic. -/
theorem and_bit_ne_zero (b : BitVec 8) {m : BitVec 8} {i : Nat} (hm : m.toNat = 2 ^ i) :
    b &&& m ≠ 0 ↔ b.toNat / 2 ^ i % 2 = 1 := by
  rw [Ne, BitVec.toNat_eq, BitVec.toNat_and, hm, Nat.and_two_pow, Nat.testBit_to_div_mod]
  by_cases h : b.toNat / 2 ^ i % 2 = 1 <;> simp [h]

theorem and_HOUR12_ne_zero (b : BitVec 8) : b &&& HOUR12 ≠ 0 ↔ b.toNat / 64 % 2 = 1 :=
  and_bit_ne_zero b (show HOUR12.toNat = 2 ^ 6 from rfl)

theorem and_CENTURY_ne_zero (b : BitVec 8) : b &&& CENTURY ≠ 0 ↔ b.toNat / 128 % 2 = 1 :=
  and_bit_ne_zero b (show CENTURY.toNat = 2 ^ 7 from rfl)

/-- `b & !CENTURY` keeps the low seven bits. -/
theorem toNat_and_not_CENTURY (b : BitVec 8) : (b &&& ~~~CENTURY).toNat = b.toNat % 128 := by
  rw [BitVec.toNat_and, show (~~~CENTURY).toNat = 2 ^ 7 - 1 from rfl, Nat.and_pow_two_sub_one_eq_mod]

/-- `b | CENTURY` sets bit 7 of a byte that has it clear. -/
theorem toNat_or_CENTURY {b : BitVec 8} (hb : b.toNat < 128) : (b ||| CENTURY).toNat = 128 + b.toNat := by
  rw [BitVec.toNat_or, show CENTURY.toNat = 2 ^ 7 * 1 from rfl, Nat.lor_comm,
    ← Nat.mul_add_lt_is_or (show b.toNat < 2 ^ 7 from hb), Nat.mul_one]

/-- **`time_from_regs`** (lines 126-141) on the seconds, minutes and hours
registers; `none` where `NaiveTime::from_hms` panics. -/
def timeFromRegs (r0 r1 r2 : BitVec 8) : Option NaiveTime :=
  let sec := fromBcd r0
  let min := fromBcd r1
  let hour :=
    if r2 &&& HOUR12 ≠ 0 then
      if r2 &&& PM ≠ 0 then fromBcd (12 + (r2 &&& ~~~PM)) else fromBcd r2
    else
      -- 24-hour format
      fromBcd r2
  NaiveTime.fromHms hour.toNat min.toNat sec.toNat

/-- **`date_from_regs`** (lines 143-149) on the date, month and year
registers. -/
def dateFromRegs (r0 r1 r2 : BitVec 8) : Except Error NaiveDate :=
  let day := fromBcd r0
  let month := fromBcd (r1 &&& ~~~CENTURY)
  let year : Int := (fromBcd r2).toNat + if r1 &&& CENTURY ≠ 0 then 2100 else 2000
  match NaiveDate.fromYmdOpt year month.toNat day.toNat with
  | some date => .ok date
  | none => .error .invalidDate

/-! ## The device and the driver -/

/-- The bytes of a write transfer from register `p` on: each is stored at the
register pointer, which then advances, wrapping from `12h` to `00h`. -/
def store (regs : Nat → BitVec 8) (p : Nat) : List (BitVec 8) → Nat → BitVec 8
  | [] => regs
  | b :: bs => store (Function.update regs p b) ((p + 1) % 19) bs

/-- **A write transfer** to the DS3231: its first byte sets the register
pointer and the rest are stored from there on. -/
def writeRegs (regs : Nat → BitVec 8) : List (BitVec 8) → Nat → BitVec 8
  | [] => regs
  | ptr :: bytes => store regs ptr.toNat bytes

/-- **A read transfer** after the pointer write `[ptr]`: byte `i` of the buffer
comes from register `ptr + i`, the pointer wrapping from `12h` to `00h`. -/
def readRegs (regs : Nat → BitVec 8) (ptr : BitVec 8) (i : Nat) : BitVec 8 := regs ((ptr.toNat + i) % 19)

/-- **`Ds3231::get_time`** (lines 78-87): three registers from `SECONDS`. -/
def getTime (regs : Nat → BitVec 8) : Option NaiveTime :=
  let buf := readRegs regs SECONDS
  timeFromRegs (buf 0) (buf 1) (buf 2)

/-- **`Ds3231::get_date`** (lines 51-60): three registers from `DATE`. -/
def getDate (regs : Nat → BitVec 8) : Except Error NaiveDate :=
  let buf := readRegs regs DATE
  dateFromRegs (buf 0) (buf 1) (buf 2)

/-- **`Ds3231::get_datetime`** (lines 63-75): seven registers from `SECONDS`,
the time from `buf[..3]` and the date from `buf[4..]`; `none` where
`time_from_regs` panics. -/
def getDatetime (regs : Nat → BitVec 8) : Option (Except Error NaiveDateTime) :=
  let buf := readRegs regs SECONDS
  (timeFromRegs (buf 0) (buf 1) (buf 2)).map fun time => do
    let date ← dateFromRegs (buf 4) (buf 5) (buf 6)
    pure ⟨date, time⟩

/-- **`Ds3231::set_time`** (lines 113-123): the registers after the write
`[SECONDS, sec, min, hour]`. -/
def setTime (regs : Nat → BitVec 8) (time : NaiveTime) : Nat → BitVec 8 :=
  let sec := toBcd (BitVec.ofNat 8 time.second)
  let min := toBcd (BitVec.ofNat 8 time.minute)
  let hour := toBcd (BitVec.ofNat 8 time.hour)
  writeRegs regs [SECONDS, sec, min, hour]

/-- **`Ds3231::set_date`** (lines 90-110): `Err(InvalidDate)` outside the years
2000-2199, and otherwise the registers after the write
`[DATE, day, month, year]`, with the century in the month's bit 7. -/
def setDate (regs : Nat → BitVec 8) (date : NaiveDate) : Except Error (Nat → BitVec 8) :=
  let day := toBcd (BitVec.ofNat 8 date.day)
  let month := toBcd (BitVec.ofNat 8 date.month)
  let year := date.year
  if year < 2000 ∨ 2199 < year then .error .invalidDate
  else
    let year := year - 2000
    let (month, year) := if year ≥ 100 then (month ||| CENTURY, year - 100) else (month, year)
    .ok (writeRegs regs [DATE, day, month, toBcd (BitVec.ofInt 8 year)])

/-! ## The 12-hour mode -/

theorem fromHms_of_le {hour : Nat} (h : 24 ≤ hour) (min sec : Nat) :
    NaiveTime.fromHms hour min sec = none :=
  dif_neg fun h' => by omega

/-- `from_bcd` of a byte with bit 6 or 7 set is 40 or more. -/
theorem le_fromBcd {x : BitVec 8} (hx : 64 ≤ x.toNat) : 40 ≤ (fromBcd x).toNat := by
  rw [toNat_fromBcd]
  omega

/-- **In 12-hour mode the decoded hour is 40 or more**: the `12/24` bit stays in
the byte handed to `from_bcd`, in the `AM` branch as it is, and in the `PM`
branch under the added 12, since `!PM` clears bit 5 only. -/
theorem timeFromRegs_of_hour12 (r0 r1 : BitVec 8) {r2 : BitVec 8} (h : r2 &&& HOUR12 ≠ 0) :
    timeFromRegs r0 r1 r2 = none := by
  have h6 := (and_HOUR12_ne_zero r2).mp h
  unfold timeFromRegs
  rw [if_pos h]
  split
  · -- `PM`: the byte is `12 + (regs[2] & !PM)`, with bit 6 still set
    have hclear : (r2 &&& ~~~PM) &&& HOUR12 ≠ 0 := by
      rwa [BitVec.and_assoc, show ~~~PM &&& HOUR12 = HOUR12 by decide]
    have hlo := (and_HOUR12_ne_zero _).mp hclear
    have hhi : (r2 &&& ~~~PM).toNat ≤ 223 := by
      rw [BitVec.toNat_and]
      exact Nat.and_le_right
    have h12 : (12 : BitVec 8).toNat = 12 := rfl
    have hbyte : 64 ≤ (12 + (r2 &&& ~~~PM)).toNat := by
      rw [BitVec.toNat_add, h12]
      omega
    exact fromHms_of_le ((le_fromBcd hbyte).trans' (by decide)) _ _
  · -- `AM`: the byte is `regs[2]` itself
    exact fromHms_of_le ((le_fromBcd (by omega)).trans' (by decide)) _ _

/-- **`get_time` and `get_datetime` panic whenever the clock is in 12-hour
mode**, whatever the other registers hold. -/
theorem getTime_of_hour12 {regs : Nat → BitVec 8} (h : regs 2 &&& HOUR12 ≠ 0) :
    getTime regs = none ∧ getDatetime regs = none := by
  have hnone := timeFromRegs_of_hour12 (regs 0) (regs 1) h
  exact ⟨hnone, by simp [getDatetime, readRegs, SECONDS, hnone]⟩

/-! ## Round trips through the registers -/

/-- **The time registers `set_time` writes decode to the time written**, less
its fraction: each field is below 160, so `from_bcd` undoes `to_bcd`, and the
hours byte is at most `23h`, so the `12/24` bit is clear. -/
theorem timeFromRegs_toBcd (t : NaiveTime) :
    timeFromRegs (toBcd (.ofNat 8 t.second)) (toBcd (.ofNat 8 t.minute)) (toBcd (.ofNat 8 t.hour)) =
      NaiveTime.fromHms t.hour t.minute t.second := by
  have := t.hour_lt
  have := t.minute_lt
  have := t.second_lt
  have hbyte : (toBcd (.ofNat 8 t.hour)).toNat < 64 := by
    rw [toNat_toBcd, BitVec.toNat_ofNat]
    omega
  have h24 : ¬ toBcd (.ofNat 8 t.hour) &&& HOUR12 ≠ 0 := by
    rw [and_HOUR12_ne_zero, Nat.div_eq_of_lt hbyte]
    decide
  dsimp only [timeFromRegs]
  rw [if_neg h24, fromBcd_toBcd_ofNat (by omega), fromBcd_toBcd_ofNat (by omega),
    fromBcd_toBcd_ofNat (by omega)]

theorem daysInMonth_le (year : Int) (month : Nat) : daysInMonth year month ≤ 31 := by
  unfold daysInMonth
  split <;> (try split) <;> omega

/-- `date_from_regs` returns the date whose day, month and year the three
registers decode to. -/
theorem dateFromRegs_of_toNat {r0 r1 r2 : BitVec 8} {d : NaiveDate}
    (hday : (fromBcd r0).toNat = d.day) (hmonth : (fromBcd (r1 &&& ~~~CENTURY)).toNat = d.month)
    (hyear : ((fromBcd r2).toNat : Int) + (if r1 &&& CENTURY ≠ 0 then 2100 else 2000) = d.year) :
    dateFromRegs r0 r1 r2 = .ok d := by
  dsimp only [dateFromRegs]
  rw [hday, hmonth, hyear, NaiveDate.fromYmdOpt, dif_pos ⟨d.month_mem, d.day_mem⟩]

/-- **What `set_date` writes for a date of 2000-2199**: the date's register
address, the day, and a month and a year byte that `date_from_regs` decodes,
with the day, to the date.  Below 2100 the century bit stays clear and the year
byte holds `year - 2000`; from 2100 on the bit is set and the byte holds
`year - 2100`. -/
theorem setDate_of_mem (regs : Nat → BitVec 8) {d : NaiveDate} (hy : 2000 ≤ d.year ∧ d.year ≤ 2199) :
    ∃ mb yb, setDate regs d = .ok (writeRegs regs [DATE, toBcd (.ofNat 8 d.day), mb, yb]) ∧
      dateFromRegs (toBcd (.ofNat 8 d.day)) mb yb = .ok d := by
  have hday : d.day < 32 := Nat.lt_succ_of_le (d.day_mem.2.trans (daysInMonth_le _ _))
  have hmonth := d.month_mem
  have hm : (toBcd (.ofNat 8 d.month)).toNat < 128 := by
    rw [toNat_toBcd, BitVec.toNat_ofNat]
    omega
  have hok : ¬(d.year < 2000 ∨ 2199 < d.year) := by omega
  by_cases hc : d.year - 2000 ≥ 100
  · -- the 22nd century
    refine ⟨_, _, by simp only [setDate, hc, if_true, if_neg hok]; rfl,
      dateFromRegs_of_toNat (fromBcd_toBcd_ofNat (by omega)) ?_ ?_⟩
    · have hmask : (toBcd (.ofNat 8 d.month) ||| CENTURY) &&& ~~~CENTURY = toBcd (.ofNat 8 d.month) := by
        rw [BitVec.toNat_eq, toNat_and_not_CENTURY, toNat_or_CENTURY hm]
        omega
      rw [hmask, fromBcd_toBcd_ofNat (by omega)]
    · have hcent : (toBcd (.ofNat 8 d.month) ||| CENTURY) &&& CENTURY ≠ 0 := by
        rw [and_CENTURY_ne_zero, toNat_or_CENTURY hm]
        omega
      rw [if_pos hcent, fromBcd_toBcd_ofInt (by omega) (by omega)]
      omega
  · -- the 21st century
    refine ⟨_, _, by simp only [setDate, hc, if_false, if_neg hok]; rfl,
      dateFromRegs_of_toNat (fromBcd_toBcd_ofNat (by omega)) ?_ ?_⟩
    · have hmask : toBcd (.ofNat 8 d.month) &&& ~~~CENTURY = toBcd (.ofNat 8 d.month) := by
        rw [BitVec.toNat_eq, toNat_and_not_CENTURY]
        omega
      rw [hmask, fromBcd_toBcd_ofNat (by omega)]
    · have hcent : ¬toBcd (.ofNat 8 d.month) &&& CENTURY ≠ 0 := by
        rw [and_CENTURY_ne_zero]
        omega
      rw [if_neg hcent, fromBcd_toBcd_ofInt (by omega) (by omega)]
      omega

/-- **What the clock reads back after `set_time` and `set_date`** on a date
`set_date` accepts: `get_date` returns the date, and `get_time` and
`get_datetime` the time without its fraction.  `set_time` writes registers
`00h`-`02h` in 24-hour mode and `set_date` registers `04h`-`06h`, which the
reads take from the same addresses. -/
theorem get_setDate_setTime (regs : Nat → BitVec 8) (t : NaiveTime) {d : NaiveDate}
    (hy : 2000 ≤ d.year ∧ d.year ≤ 2199) :
    ∃ regs', setDate (setTime regs t) d = .ok regs' ∧
      getTime regs' = NaiveTime.fromHms t.hour t.minute t.second ∧ getDate regs' = .ok d ∧
      getDatetime regs' = (NaiveTime.fromHms t.hour t.minute t.second).map fun t' => .ok ⟨d, t'⟩ := by
  obtain ⟨mb, yb, hset, hdate⟩ := setDate_of_mem (setTime regs t) hy
  refine ⟨_, hset, ?_, ?_, ?_⟩ <;>
    simp [getTime, getDate, getDatetime, readRegs, setTime, writeRegs, store, SECONDS, DATE,
      Function.update_apply, timeFromRegs_toBcd, hdate]

/-- **The clock reads back what was set**: after `set_time` and `set_date`,
`get_time`, `get_date` and `get_datetime` return the time and date written
exactly when `set_date` accepts the date, a year of 2000-2199, and the time has
no fraction. -/
theorem setDate_setTime_round_trip (regs : Nat → BitVec 8) (t : NaiveTime) (d : NaiveDate) :
    (∃ regs', setDate (setTime regs t) d = .ok regs' ∧ getTime regs' = some t ∧
      getDate regs' = .ok d ∧ getDatetime regs' = some (.ok ⟨d, t⟩)) ↔
      2000 ≤ d.year ∧ d.year ≤ 2199 ∧ t.nanosecond = 0 := by
  by_cases hy : 2000 ≤ d.year ∧ d.year ≤ 2199
  · obtain ⟨regs', hset, htime, hdate, hdt⟩ := get_setDate_setTime regs t hy
    rw [← NaiveTime.fromHms_eq_some_iff]
    constructor
    · rintro ⟨r, h, ht, -⟩
      rw [hset, Except.ok.injEq] at h
      subst h
      exact ⟨hy.1, hy.2, htime ▸ ht⟩
    · rintro ⟨-, -, ht⟩
      exact ⟨regs', hset, htime.trans ht, hdate, by rw [hdt, ht]; rfl⟩
  · refine iff_of_false (fun ⟨r, h, _⟩ => hy ?_) (fun h => hy ⟨h.1, h.2.1⟩)
    dsimp only [setDate] at h
    split at h
    · cases h
    · omega

end Ds3231

end AsyncEmbedded.Nrf52
