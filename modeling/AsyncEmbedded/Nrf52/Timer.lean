import Mathlib.Data.List.Basic
import Mathlib.Algebra.Group.Nat.Basic

/-!
# The RTC0 timer of `nrf52`

`Timer::wait(dur)` masks RTC0 in the NVIC, clears `EVENTS_COMPARE[0]` and sets
`CC[0]`, then awaits a `Wait` future.  A poll of `Wait` asks `has_expired()`,
which reads and clears the compare event.  If it has expired the poll returns
`Ready`, first taking the waker down if `installed_waker` is set.  Otherwise it
writes its waker into the `WAKER` static and unmasks RTC0 if `installed_waker`
is clear, or only unmasks RTC0 if it is set.  The `RTC0` handler wakes the
waker in `WAKER` and masks itself.

## What the model keeps

`Rtc0` holds `EVENTS_COMPARE[0]`, the NVIC mask of RTC0 and `WAKER` (a waker is
the number of the task it wakes).  It also keeps `accesses`, a record the
program does not have: the NVIC mask at each foreground write or take of
`WAKER`, oldest first.  `COUNTER` and `CC[0]` only decide when the hardware
raises the compare event, so the model leaves them out and lets the event come
at any time (`TimerAction.compare`).  The interrupt is taken while the event is
set and RTC0 is unmasked (`init` enables the `COMPARE0` interrupt).

No statement of `Wait::poll` sets `installed_waker`, so it stays `false`.  Every
`Pending` poll therefore takes the first branch again and rewrites `WAKER`.  Only
the first of those writes comes after the mask of `Timer::wait`: the second one
runs with RTC0 unmasked (`wait_rewrites_waker_unmasked`).

The wake itself is not lost: RTC0 is unmasked only with a waker in `WAKER`, so
a compare event on an unmasked line always reaches a waker
(`compare_wakes_installed_waker`).

`Timer::wait` computes its tick count in `u64`, and the model follows a release
build, where `as_secs() * F` wraps.  Its `assert!(ticks < (1 << 24))` then
passes exactly when the whole seconds are below 512 modulo `2 ^ 49`
(`step_wait_isSome_iff`), so a wait of `2 ^ 49 + 1` s is armed with the ticks
of one second, against the doc comment's "Waits for at least `dur`".  A debug
build panics on the overflow instead.
-/

namespace AsyncEmbedded.Nrf52

/-- **RTC0 as the driver sees it**: the compare event, the NVIC mask of RTC0,
the `WAKER` static, and the mask at each foreground access of `WAKER`. -/
structure Rtc0 where
  eventsCompare : Bool
  masked : Bool
  waker : Option Nat
  accesses : List Bool
  deriving DecidableEq, Repr

namespace Rtc0

/-- After reset: no event, RTC0 masked, no waker, nothing recorded. -/
def reset : Rtc0 := ⟨false, true, none, []⟩

/-- **`has_expired()`** (lines 139-148): whether `EVENTS_COMPARE[0]` is set,
and the state after it is cleared. -/
def hasExpired (r : Rtc0) : Bool × Rtc0 :=
  if r.eventsCompare then (true, { r with eventsCompare := false }) else (false, r)

/-- `WAKER = Some(waker)`, recorded with the mask at that moment. -/
def setWaker (r : Rtc0) (w : Nat) : Rtc0 :=
  { r with waker := some w, accesses := r.accesses ++ [r.masked] }

/-- `WAKER.take()`, recorded with the mask at that moment. -/
def takeWaker (r : Rtc0) : Rtc0 := { r with waker := none, accesses := r.accesses ++ [r.masked] }

end Rtc0

/-- **`Wait::poll`** (lines 64-113) by task `w`, for a future whose
`installed_waker` is `installedWaker`: the state and whether the poll returned
`Ready`. -/
def Wait.poll (installedWaker : Bool) (w : Nat) (r : Rtc0) : Rtc0 × Bool :=
  match r.hasExpired with
  | (true, r) => (if installedWaker then { r with masked := true }.takeWaker else r, true)
  | (false, r) =>
    if !installedWaker then ({ r.setWaker w with masked := false }, false)
    else ({ r with masked := false }, false)

/-- **`RTC0`** (lines 90-103): wake the installed waker and mask the line.  The
state and the task woken. -/
def rtc0 (r : Rtc0) : Rtc0 × Option Nat :=
  match r.waker with
  | some w => ({ r with masked := true }, some w)
  | none => (r, none)

/-- The ticks of a duration of `secs` seconds and `nanos` nanoseconds at the
LFCLK's 32 768 Hz (lines 117-118): `as_secs() * F + (nanos * F) / 10 ^ 9`,
every operation in `u64`, which wraps in a release build. -/
def ticks (secs nanos : Nat) : Nat :=
  (secs * 32768 % 2 ^ 64 + nanos * 32768 % 2 ^ 64 / 1000000000) % 2 ^ 64

/-! ## The timer and its task -/

/-- **The timer**: RTC0, the `Wait` future being awaited (by its
`installed_waker`), and the tasks the interrupt woke. -/
structure TimerSystem where
  rtc : Rtc0
  wait : Option Bool
  woken : List Nat

/-- What happens next. -/
inductive TimerAction
  /-- `Timer::wait(dur)` for `secs` seconds and `nanos` nanoseconds. -/
  | wait (secs nanos : Nat)
  /-- The `Wait` future is polled by task `w`. -/
  | poll (w : Nat)
  /-- The `Wait` future is dropped. -/
  | drop
  /-- The counter reaches `CC[0]`: `EVENTS_COMPARE[0]`. -/
  | compare
  /-- The interrupt handler runs. -/
  | irq

namespace TimerSystem

/-- After `init`: no future. -/
def init : TimerSystem := ⟨Rtc0.reset, none, []⟩

/-- **One step**; `none` when it is not possible or panics (the `assert!` of
`Timer::wait`). -/
def step (s : TimerSystem) : TimerAction → Option TimerSystem
  | .wait secs nanos =>
    if s.wait.isNone && decide (ticks secs nanos < 2 ^ 24) then
      some { s with rtc := { s.rtc with masked := true, eventsCompare := false }, wait := some false }
    else none
  | .poll w =>
    match s.wait with
    | some installedWaker =>
      let r := Wait.poll installedWaker w s.rtc
      some { s with rtc := r.1, wait := if r.2 then none else some installedWaker }
    | none => none
  | .drop => if s.wait.isSome then some { s with wait := none } else none
  | .compare => some { s with rtc := { s.rtc with eventsCompare := true } }
  | .irq =>
    if s.rtc.eventsCompare && !s.rtc.masked then
      let r := rtc0 s.rtc
      some { s with rtc := r.1, woken := s.woken ++ r.2.toList }
    else none

/-- A sequence of steps. -/
def run (s : TimerSystem) : List TimerAction → Option TimerSystem
  | [] => some s
  | a :: as => (s.step a).bind fun s' => s'.run as

/-- A run followed by one more step. -/
theorem run_snoc {s t : TimerSystem} {a : TimerAction} :
    ∀ {as : List TimerAction}, s.run as = some t → s.run (as ++ [a]) = t.step a
  | [], h => by cases h; simp [run]
  | _ :: _, h => by
    obtain ⟨s', hstep, hrun⟩ := Option.bind_eq_some.mp h
    simp [run, hstep, run_snoc hrun]

end TimerSystem

/-! ## `WAKER` written on an unmasked line -/

namespace TimerSystem

/-- A state some run from `init` reaches. -/
def Reachable (s : TimerSystem) : Prop := ∃ as, init.run as = some s

/-- **No step sets `installed_waker`**: a new `Wait` starts with it clear, and
a poll keeps the future's flag as it was. -/
theorem step_wait_ne_true {s s' : TimerSystem} {a : TimerAction} (h : s.step a = some s')
    (hs : s.wait ≠ some true) : s'.wait ≠ some true := by
  cases a <;> simp only [step] at h <;> (try split at h) <;> cases h <;> (try split) <;> simp_all

/-- Along every run `installed_waker` stays clear. -/
theorem Reachable.wait_ne_true {s : TimerSystem} (hs : Reachable s) : s.wait ≠ some true := by
  obtain ⟨as, h⟩ := hs
  suffices ∀ as (t : TimerSystem), t.wait ≠ some true → t.run as = some s → s.wait ≠ some true from
    this as init (by simp [init]) h
  intro as
  induction as with
  | nil => intro t ht h; cases h; exact ht
  | cons a as ih =>
    intro t ht h
    obtain ⟨t', hstep, hrun⟩ := Option.bind_eq_some.mp h
    exact ih t' (step_wait_ne_true hstep ht) hrun

/-- **Every poll of a waiting `Wait` on an unmasked line before the timer fires
writes `WAKER` unmasked**, from every reachable state. -/
theorem poll_writes_waker_unmasked {s : TimerSystem} (hs : Reachable s) (hw : s.wait.isSome)
    (hc : s.rtc.eventsCompare = false) (hm : s.rtc.masked = false) (w : Nat) :
    ∃ s', s.step (.poll w) = some s' ∧ s'.rtc.accesses = s.rtc.accesses ++ [false] ∧
      s'.rtc.masked = false ∧ s'.wait = s.wait := by
  obtain ⟨b, hb⟩ := Option.isSome_iff_exists.mp hw
  have hb' : b = false := by simpa using (hb ▸ hs.wait_ne_true : some b ≠ some true)
  subst hb'
  refine ⟨⟨{ s.rtc.setWaker w with masked := false }, some false, s.woken⟩, ?_, by
    simp [Rtc0.setWaker, hm], rfl, hb.symm⟩
  simp [step, hb, Wait.poll, Rtc0.hasExpired, hc]

/-- **RTC0 is unmasked only with a waker in `WAKER`**. -/
def Armed (s : TimerSystem) : Prop := s.rtc.masked = false → s.rtc.waker.isSome

/-- Every step keeps RTC0 armed, while `installed_waker` is clear: `wait` and
the handler mask the line, and the only unmasking poll writes `WAKER` first. -/
theorem Armed.step {s t : TimerSystem} {a : TimerAction} (hs : s.Armed)
    (hw : s.wait ≠ some true) (h : s.step a = some t) : t.Armed := by
  intro hm
  cases a with
  | wait secs nanos =>
    simp only [TimerSystem.step] at h
    split at h
    · cases h; cases hm
    · cases h
  | poll w =>
    simp only [TimerSystem.step] at h
    split at h
    · next b hb =>
      cases h
      have hb' : b = false := by simpa [hb] using hw
      subst hb'
      by_cases hc : s.rtc.eventsCompare
      · simp only [Wait.poll, Rtc0.hasExpired, hc, if_true] at hm ⊢
        exact hs hm
      · simp [Wait.poll, Rtc0.hasExpired, hc, Rtc0.setWaker]
    · cases h
  | drop =>
    simp only [TimerSystem.step] at h
    split at h
    · cases h; exact hs hm
    · cases h
  | compare => cases h; exact hs hm
  | irq =>
    simp only [TimerSystem.step] at h
    split at h
    · next hc =>
      cases h
      obtain ⟨w, hw⟩ := Option.isSome_iff_exists.mp (hs (by simp at hc; exact hc.2))
      simp [rtc0, hw] at hm
    · cases h

/-- Along every run RTC0 stays armed. -/
theorem Reachable.armed {s : TimerSystem} (hs : Reachable s) : s.Armed := by
  obtain ⟨as, h⟩ := hs
  suffices ∀ as (t : TimerSystem), t.wait ≠ some true → t.Armed → t.run as = some s → s.Armed from
    this as init (by simp [init]) (fun h => by simp [init, Rtc0.reset] at h) h
  intro as
  induction as with
  | nil => intro t _ ht h; cases h; exact ht
  | cons a as ih =>
    intro t hw ht h
    obtain ⟨t', hstep, hrun⟩ := Option.bind_eq_some.mp h
    exact ih t' (step_wait_ne_true hstep hw) (ht.step hw hstep) hrun

/-- **An unmasked RTC0 answers the compare event**: in every reachable state in
which RTC0 is unmasked, `WAKER` holds a waker, and when the counter reaches
`CC[0]` the handler runs, wakes that waker and masks the line.  The `else`
branch of `RTC0` ("triggered by the user") is not reached by the driver. -/
theorem compare_wakes_installed_waker {s : TimerSystem} (hs : Reachable s)
    (hm : s.rtc.masked = false) :
    ∃ w, s.rtc.waker = some w ∧ ∃ t u, s.step .compare = some t ∧ t.step .irq = some u ∧
      u.woken.getLast? = some w ∧ u.rtc.masked = true := by
  obtain ⟨w, hw⟩ := Option.isSome_iff_exists.mp (hs.armed hm)
  refine ⟨w, hw, _, ⟨{ s.rtc with eventsCompare := true, masked := true }, s.wait, s.woken ++ [w]⟩,
    rfl, ?_, by simp, rfl⟩
  simp [step, hm, hw, rtc0]

/-- After the first `Pending` poll of a one-second wait. -/
theorem compare_wakes_after_first_poll :
    ∃ s, init.run [.wait 1 0, .poll 0] = some s ∧ s.rtc.masked = false ∧
      ∃ w, s.rtc.waker = some w ∧ ∃ t u, s.step .compare = some t ∧ t.step .irq = some u ∧
        u.woken.getLast? = some w ∧ u.rtc.masked = true :=
  ⟨_, rfl, rfl, compare_wakes_installed_waker ⟨[.wait 1 0, .poll 0], rfl⟩ rfl⟩

/-- **In a release build `Timer::wait` accepts the durations whose whole
seconds are below 512 modulo `2 ^ 49`.**  With no wait in progress, its
`assert!(ticks < (1 << 24))` passes exactly when `secs % 2 ^ 49 < 512`: the
`u64` product `as_secs() * 32768` keeps the seconds modulo `2 ^ 49`, and a
`Duration`'s nanoseconds add less than one second of ticks.  So durations of
`2 ^ 49` s and more can pass the assert with the ticks of a short wait. -/
theorem step_wait_isSome_iff {s : TimerSystem} (hs : s.wait = none) (secs : Nat) {nanos : Nat}
    (hn : nanos < 1000000000) : (s.step (.wait secs nanos)).isSome ↔ secs % 2 ^ 49 < 512 := by
  have hfrac : nanos * 32768 % 2 ^ 64 / 1000000000 < 32768 := by
    rw [Nat.mod_eq_of_lt (by omega)]
    omega
  have hsecs : secs * 32768 % 2 ^ 64 = secs % 2 ^ 49 * 32768 := by
    rw [show (2 : Nat) ^ 64 = 2 ^ 49 * 32768 from rfl, Nat.mul_mod_mul_right]
  have hlt : secs % 2 ^ 49 < 2 ^ 49 := Nat.mod_lt _ (Nat.two_pow_pos 49)
  have hticks : ticks secs nanos < 2 ^ 24 ↔ secs % 2 ^ 49 < 512 := by
    unfold ticks
    rw [hsecs, Nat.mod_eq_of_lt (by omega)]
    omega
  simpa [step, hs] using hticks

/-- A wait of `2 ^ 49 + 1` s passes the assert with the ticks of one second. -/
theorem step_wait_of_wrapped_secs :
    init.wait = none ∧ 0 < 1000000000 ∧ ticks (2 ^ 49 + 1) 0 = 32768 ∧
      ((init.step (.wait (2 ^ 49 + 1) 0)).isSome ↔ (2 ^ 49 + 1) % 2 ^ 49 < 512) :=
  ⟨rfl, by decide, by decide, step_wait_isSome_iff rfl (2 ^ 49 + 1) (by decide)⟩

end TimerSystem

/-- **A second `Pending` poll writes `WAKER` with RTC0 unmasked.**  `wait`
masks RTC0, the first poll writes `WAKER` and unmasks it, and a second poll,
caused by another wake of the task before the timer fires, writes `WAKER`
again while RTC0 can interrupt. -/
theorem wait_rewrites_waker_unmasked :
    ∃ s, TimerSystem.init.run [.wait 1 0, .poll 0, .poll 0] = some s ∧
      s.rtc.accesses = [true, false] ∧ s.wait = some false := by
  have h₀ : TimerSystem.init.run [.wait 1 0, .poll 0] = some _ := rfl
  obtain ⟨s, hs, hacc, -, hwait⟩ := TimerSystem.poll_writes_waker_unmasked ⟨_, h₀⟩ rfl rfl rfl 0
  exact ⟨s, (TimerSystem.run_snoc h₀).trans hs, hacc, hwait⟩

end AsyncEmbedded.Nrf52
