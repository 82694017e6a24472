import Mathlib.Data.List.Basic
import Mathlib.Algebra.Group.Nat.Basic

/-!
# The TWIM0 (I2C) driver of `nrf52`

`Twim::read`, `Twim::write` and `Twim::write_then_read` each build a future
that, on its first poll, programs TWIM0 and starts the transfer, and on every
later poll looks at the event registers: `EVENTS_ERROR` ends it with
`Error::Src(ERRORSRC)`, `EVENTS_STOPPED` ends it with `Ok(())` or a short
transfer, and anything else re-arms the one-shot interrupt.  The interrupt
handler wakes the waker in `WAKER` and masks itself.

## What the model keeps

`Twim0` holds what the driver reads or writes: the six event registers,
`ERRORSRC`, `RXD.AMOUNT` / `TXD.AMOUNT` and `RXD.MAXCNT` / `TXD.MAXCNT`, the
NVIC mask of the TWIM interrupt line and the `WAKER` static (a waker is the
number of the task it wakes).  `ADDRESS`, the `PTR` registers and `SHORTS` are
written for the hardware and never read back, so they are left out.  A task
write (`TASKS_STARTRX`, `TASKS_STOP`, ...) only starts hardware activity, which
the model lets happen as separate `Hw` steps: while a transfer is in progress
the hardware may raise any event of the directions it uses, set `ERRORSRC`,
and move up to `MAXCNT` bytes.

`TwimSystem` is the bus with at most one future on it (`&mut Twim`), and its
steps are the program's and the hardware's.

The error branches of the three polls clear the `STARTED` and `LAST` events
and `EVENTS_STOPPED`, but not `EVENTS_ERROR`; the next transfer's first poll
clears it only when a `STARTED` event is still set, and a `STARTED` event is
only ever set while its transfer is in progress (`StartedScoped`).  So the next
transfer reports the old error however it goes
(`stale_error_fails_next_transfer`), and so does every one after it
(`every_transfer_fails_after_error`).

A `Read` or `Write` in progress is never forgotten: after the poll that started
it, and while no other transfer is started, its task's waker stays in `WAKER`
and the handler has woken it or can run and wake it (`read_write_wakeable`).
-/

namespace AsyncEmbedded.Nrf52

/-- `MAXCNT`: every buffer is shorter (`assert!(buf.len() < MAXCNT)`). -/
def MAXCNT : Nat := 256

/-- The state of a transfer future. -/
inductive State
  | notStarted
  | inProgress
  | finished
  deriving DecidableEq, Repr

/-- `twim::Error`. -/
inductive Error
  | shortWrite (amount : Nat)
  | shortRead (amount : Nat)
  | src (bits : Nat)
  deriving DecidableEq, Repr

/-- A direction of transfer: `RXD` (device to host) or `TXD` (host to device). -/
inductive Dir
  | rx
  | tx
  deriving DecidableEq, Repr

/-- **TWIM0 as the driver sees it**: its event registers, `ERRORSRC`, the
`AMOUNT` and `MAXCNT` registers, the NVIC mask of its interrupt line, and the
`WAKER` static. -/
structure Twim0 where
  eventsError : Bool
  eventsStopped : Bool
  eventsRxStarted : Bool
  eventsTxStarted : Bool
  eventsLastRx : Bool
  eventsLastTx : Bool
  errorSrc : Nat
  rxdAmount : Nat
  txdAmount : Nat
  rxdMaxcnt : Nat
  txdMaxcnt : Nat
  masked : Bool
  waker : Option Nat
  deriving DecidableEq, Repr

/-- The result of a poll: `none` is `Poll::Pending`. -/
abbrev PollResult := Option (Except Error Unit)

namespace Twim0

/-- After reset: no event, the interrupt line masked, no waker. -/
def reset : Twim0 := ⟨false, false, false, false, false, false, 0, 0, 0, 0, 0, true, none⟩

/-- The `STARTED` event of a direction. -/
def started (t : Twim0) : Dir → Bool
  | .rx => t.eventsRxStarted
  | .tx => t.eventsTxStarted

/-- The `AMOUNT` register of a direction. -/
def amount (t : Twim0) : Dir → Nat
  | .rx => t.rxdAmount
  | .tx => t.txdAmount

/-- The `MAXCNT` register of a direction. -/
def maxcnt (t : Twim0) : Dir → Nat
  | .rx => t.rxdMaxcnt
  | .tx => t.txdMaxcnt

/-- `{rxd,txd}.maxcnt.write(len as u16)`. -/
def setMaxcnt (t : Twim0) : Dir → Nat → Twim0
  | .rx, n => { t with rxdMaxcnt := n % 2 ^ 16 }
  | .tx, n => { t with txdMaxcnt := n % 2 ^ 16 }

/-- **The resets of a finished transfer** in one direction:
`events_stopped`, `events_{rx,tx}started` and `events_last{rx,tx}`. -/
def resetDone (t : Twim0) : Dir → Twim0
  | .rx => { t with eventsStopped := false, eventsRxStarted := false, eventsLastRx := false }
  | .tx => { t with eventsStopped := false, eventsTxStarted := false, eventsLastTx := false }

/-- **The start of every first poll** (lines 123-142, 306-326, 493-512): mask the
interrupt; if a `STARTED` event is set, stop that transfer and clear `ERRORSRC`,
`EVENTS_ERROR`, the `LAST` events and `EVENTS_STOPPED`. -/
def startCleanup (t : Twim0) : Twim0 :=
  if t.eventsRxStarted || t.eventsTxStarted then
    { t with
      masked := true
      errorSrc := 0
      eventsError := false
      eventsLastRx := false
      eventsLastTx := false
      eventsStopped := false }
  else { t with masked := true }

/-- Install the waker, then unmask (lines 166-173). -/
def install (t : Twim0) (w : Nat) : Twim0 := { t with waker := some w, masked := false }

/-- Mask, then take the waker down (lines 207-211). -/
def uninstall (t : Twim0) : Twim0 := { t with masked := true, waker := none }

/-! A first poll's writes leave `EVENTS_ERROR` and the `STARTED` events as
they are; the cleanup leaves the `STARTED` events. -/

@[simp] theorem startCleanup_started (t : Twim0) (d : Dir) : t.startCleanup.started d = t.started d := by
  unfold startCleanup
  split <;> cases d <;> rfl

@[simp] theorem setMaxcnt_eventsError (t : Twim0) (d : Dir) (n : Nat) :
    (t.setMaxcnt d n).eventsError = t.eventsError := by
  cases d <;> rfl

@[simp] theorem setMaxcnt_started (t : Twim0) (d : Dir) (n : Nat) (d' : Dir) :
    (t.setMaxcnt d n).started d' = t.started d' := by
  cases d <;> cases d' <;> rfl

@[simp] theorem install_eventsError (t : Twim0) (w : Nat) : (t.install w).eventsError = t.eventsError := rfl

@[simp] theorem install_started (t : Twim0) (w : Nat) (d : Dir) : (t.install w).started d = t.started d := by
  cases d <;> rfl

end Twim0

/-- The error of a short transfer in a direction. -/
def Dir.short : Dir → Nat → Error
  | .rx => .shortRead
  | .tx => .shortWrite

/-! ## The three polls -/

/-- **`Read::poll` and `Write::poll`** (lines 119-235, 489-604): one direction
`d`, a buffer of `len` bytes, waker `w`.  The state, the future's state and the
poll's result; `none` is `unreachable!()` on a finished future. -/
def pollOneWay (d : Dir) (len w : Nat) (t : Twim0) :
    State → Option (Twim0 × State × PollResult)
  | .notStarted => some (((t.startCleanup).setMaxcnt d len).install w, .inProgress, none)
  | .inProgress =>
    if t.eventsError then
      some (t.resetDone d, .finished, some (.error (.src (t.errorSrc % 256))))
    else if t.eventsStopped then
      let amount := t.amount d % 256
      some ((t.resetDone d).uninstall, .finished,
        some (if amount = len % 256 then .ok () else .error (d.short amount)))
    else some ({ t with masked := false }, .inProgress, none)
  | .finished => none

/-- `Read::poll`: a read into a buffer of `len` bytes. -/
def Read.poll (len w : Nat) (t : Twim0) (st : State) : Option (Twim0 × State × PollResult) :=
  pollOneWay .rx len w t st

/-- `Write::poll`: a write of `len` bytes. -/
def Write.poll (len w : Nat) (t : Twim0) (st : State) : Option (Twim0 × State × PollResult) :=
  pollOneWay .tx len w t st

/-- **`WriteThenRead::poll`** (lines 302-435): both directions.  A short
transfer returns without setting `state = Finished` (lines 411-418). -/
def WriteThenRead.poll (wrLen rdLen w : Nat) (t : Twim0) :
    State → Option (Twim0 × State × PollResult)
  | .notStarted =>
    some ((((t.startCleanup).setMaxcnt .rx rdLen).setMaxcnt .tx wrLen).install w, .inProgress, none)
  | .inProgress =>
    if t.eventsError then
      some ((t.resetDone .rx).resetDone .tx, .finished, some (.error (.src (t.errorSrc % 256))))
    else if t.eventsStopped then
      let t' := ((t.resetDone .rx).resetDone .tx).uninstall
      if t.rxdAmount % 256 ≠ rdLen % 256 then
        some (t', .inProgress, some (.error (.shortRead (t.rxdAmount % 256))))
      else if t.txdAmount % 256 ≠ wrLen % 256 then
        some (t', .inProgress, some (.error (.shortWrite (t.txdAmount % 256))))
      else some (t', .finished, some (.ok ()))
    else some ({ t with masked := false }, .inProgress, none)
  | .finished => none

/-- **`SPIM0_SPIS0_TWIM0_TWIS0_SPI0_TWI0`** (lines 631-642): wake the installed
waker and mask the line.  The state and the task woken. -/
def spim0Spis0Twim0Twis0Spi0Twi0 (t : Twim0) : Twim0 × Option Nat :=
  match t.waker with
  | some w => ({ t with masked := true }, some w)
  | none => (t, none)

/-! ## Transfers and the hardware -/

/-- A transfer the program asks for, with its buffer lengths. -/
inductive Op
  | read (len : Nat)
  | write (len : Nat)
  | writeThenRead (wrLen rdLen : Nat)
  deriving DecidableEq, Repr

/-- The directions a transfer uses. -/
def Op.dirs : Op → List Dir
  | .read _ => [.rx]
  | .write _ => [.tx]
  | .writeThenRead _ _ => [.tx, .rx]

/-- `assert!(len < MAXCNT)` on every buffer. -/
def Op.fits : Op → Bool
  | .read len | .write len => decide (len < MAXCNT)
  | .writeThenRead wrLen rdLen => decide (wrLen < MAXCNT ∧ rdLen < MAXCNT)

/-- The poll of a transfer's future. -/
def Op.poll (op : Op) (w : Nat) (t : Twim0) (st : State) : Option (Twim0 × State × PollResult) :=
  match op with
  | .read len => Read.poll len w t st
  | .write len => Write.poll len w t st
  | .writeThenRead wrLen rdLen => WriteThenRead.poll wrLen rdLen w t st

/-- What the hardware does during a transfer. -/
inductive Hw
  /-- An error: `EVENTS_ERROR` with the bits of `ERRORSRC`. -/
  | error (bits : Nat)
  /-- `EVENTS_STOPPED`. -/
  | stopped
  /-- `EVENTS_RXSTARTED` or `EVENTS_TXSTARTED`. -/
  | started (d : Dir)
  /-- `EVENTS_LASTRX` or `EVENTS_LASTTX`. -/
  | last (d : Dir)
  /-- `n` bytes moved in a direction. -/
  | amount (d : Dir) (n : Nat)
  deriving DecidableEq, Repr

/-- **A hardware step** of a transfer using the directions `dirs`; `none` when it
touches another direction or moves more than `MAXCNT` bytes. -/
def Twim0.hw (t : Twim0) (dirs : List Dir) : Hw → Option Twim0
  | .error bits => some { t with eventsError := true, errorSrc := bits }
  | .stopped => some { t with eventsStopped := true }
  | .started .rx => if .rx ∈ dirs then some { t with eventsRxStarted := true } else none
  | .started .tx => if .tx ∈ dirs then some { t with eventsTxStarted := true } else none
  | .last .rx => if .rx ∈ dirs then some { t with eventsLastRx := true } else none
  | .last .tx => if .tx ∈ dirs then some { t with eventsLastTx := true } else none
  | .amount .rx n => if .rx ∈ dirs ∧ n ≤ t.rxdMaxcnt then some { t with rxdAmount := n } else none
  | .amount .tx n => if .tx ∈ dirs ∧ n ≤ t.txdMaxcnt then some { t with txdAmount := n } else none

/-! ## The bus -/

/-- **The bus**: TWIM0, the future on it with its transfer and state, the results
of the polls that returned `Ready`, and the tasks the interrupt woke. -/
structure TwimSystem where
  twim : Twim0
  fut : Option (Op × State)
  results : List (Except Error Unit)
  woken : List Nat

/-- What happens next. -/
inductive TwimAction
  /-- `Twim::read`, `Twim::write` or `Twim::write_then_read` creates its future. -/
  | start (op : Op)
  /-- The future is polled by task `w`. -/
  | poll (w : Nat)
  /-- The future is dropped. -/
  | drop
  /-- The hardware acts on the transfer in progress. -/
  | hw (h : Hw)
  /-- The interrupt handler runs. -/
  | irq

namespace TwimSystem

/-- After `init`: no future on the bus. -/
def init : TwimSystem := ⟨Twim0.reset, none, [], []⟩

/-- **One step**; `none` when it is not possible or panics (`assert!`,
`unreachable!()`, or the `todo!()` of dropping a transfer in progress). -/
def step (s : TwimSystem) : TwimAction → Option TwimSystem
  | .start op =>
    if s.fut.isNone && op.fits then some { s with fut := some (op, .notStarted) } else none
  | .poll w =>
    match s.fut with
    | some (op, st) =>
      (op.poll w s.twim st).map fun r =>
        { s with twim := r.1, fut := some (op, r.2.1), results := s.results ++ r.2.2.toList }
    | none => none
  | .drop =>
    match s.fut with
    | some (_, .inProgress) => none
    | some _ => some { s with fut := none }
    | none => none
  | .hw h =>
    match s.fut with
    | some (op, .inProgress) => (s.twim.hw op.dirs h).map fun t => { s with twim := t }
    | _ => none
  | .irq =>
    if s.twim.masked then none
    else
      let r := spim0Spis0Twim0Twis0Spi0Twi0 s.twim
      some { s with twim := r.1, woken := s.woken ++ r.2.toList }

/-- A sequence of steps. -/
def run (s : TwimSystem) : List TwimAction → Option TwimSystem
  | [] => some s
  | a :: as => (s.step a).bind fun s' => s'.run as

/-- A run followed by one more step. -/
theorem run_snoc {s t : TwimSystem} {a : TwimAction} :
    ∀ {as : List TwimAction}, s.run as = some t → s.run (as ++ [a]) = t.step a
  | [], h => by cases h; simp [run]
  | _ :: _, h => by
    obtain ⟨s', hstep, hrun⟩ := Option.bind_eq_some.mp h
    simp [run, hstep, run_snoc hrun]

/-- **A poll step** is the poll of the transfer on the bus. -/
theorem step_poll_of {s : TwimSystem} {op : Op} {st st' : State} {w : Nat} {t' : Twim0}
    {r : PollResult} (hfut : s.fut = some (op, st)) (h : op.poll w s.twim st = some (t', st', r)) :
    s.step (.poll w) = some { s with twim := t', fut := some (op, st'), results := s.results ++ r.toList } := by
  simp [step, hfut, h]

/-- **What one step can do**, one constructor per action, with its guard. -/
inductive Step : TwimSystem → TwimAction → TwimSystem → Prop
  | start {s : TwimSystem} {op : Op} : s.fut = none → op.fits = true →
      Step s (.start op) { s with fut := some (op, .notStarted) }
  | poll {s : TwimSystem} {w : Nat} {op : Op} {st st' : State} {t' : Twim0} {r : PollResult} :
      s.fut = some (op, st) → op.poll w s.twim st = some (t', st', r) →
      Step s (.poll w) { s with twim := t', fut := some (op, st'), results := s.results ++ r.toList }
  | drop {s : TwimSystem} {op : Op} {st : State} : s.fut = some (op, st) → st ≠ .inProgress →
      Step s .drop { s with fut := none }
  | hw {s : TwimSystem} {h : Hw} {op : Op} {t' : Twim0} : s.fut = some (op, .inProgress) →
      s.twim.hw op.dirs h = some t' → Step s (.hw h) { s with twim := t' }
  | irq {s : TwimSystem} : s.twim.masked = false →
      Step s .irq
        { s with
          twim := (spim0Spis0Twim0Twis0Spi0Twi0 s.twim).1
          woken := s.woken ++ (spim0Spis0Twim0Twis0Spi0Twi0 s.twim).2.toList }

theorem Step.of_step {s t : TwimSystem} {a : TwimAction} (h : s.step a = some t) : Step s a t := by
  cases a with
  | start op =>
    simp only [step] at h
    split_ifs at h with hc
    cases h
    simp only [Bool.and_eq_true, Option.isNone_iff_eq_none] at hc
    exact .start hc.1 hc.2
  | poll w =>
    simp only [step] at h
    split at h
    · obtain ⟨⟨t', st', r⟩, hr, rfl⟩ := Option.map_eq_some'.mp h
      exact .poll ‹_› hr
    · cases h
  | drop =>
    rcases hf : s.fut with _ | ⟨op, _ | _ | _⟩ <;> simp only [step, hf] at h <;> cases h
    all_goals exact .drop hf (by decide)
  | hw hw =>
    simp only [step] at h
    split at h
    · obtain ⟨t', ht', rfl⟩ := Option.map_eq_some'.mp h
      exact .hw ‹_› ht'
    · cases h
  | irq =>
    simp only [step] at h
    split_ifs at h with hm
    cases h
    exact .irq (by simpa using hm)

end TwimSystem

/-! ## What one poll does -/

/-- `Read` and `Write`: the transfers of one direction. -/
def Op.oneWay : Op → Bool
  | .writeThenRead _ _ => false
  | _ => true

/-- A `Read` or `Write` is `pollOneWay` in its one direction. -/
theorem Op.oneWay_poll {op : Op} (hop : op.oneWay = true) :
    ∃ d len, op.dirs = [d] ∧ ∀ w t st, op.poll w t st = pollOneWay d len w t st := by
  cases op with
  | read len => exact ⟨.rx, len, rfl, fun _ _ _ => rfl⟩
  | write len => exact ⟨.tx, len, rfl, fun _ _ _ => rfl⟩
  | writeThenRead => cases hop

/-- **A first poll starts the transfer**, whatever the registers hold. -/
theorem Op.poll_notStarted (op : Op) (w : Nat) (t : Twim0) :
    ∃ t', op.poll w t .notStarted = some (t', .inProgress, none) := by
  cases op <;> exact ⟨_, rfl⟩

/-- No poll leaves its future `NotStarted`. -/
theorem Op.poll_ne_notStarted {op : Op} {w : Nat} {t t' : Twim0} {st : State} {r : PollResult}
    (h : op.poll w t st = some (t', .notStarted, r)) : False := by
  cases st with
  | notStarted =>
    obtain ⟨_, h'⟩ := Op.poll_notStarted op w t
    simp [h'] at h
  | inProgress =>
    cases op <;> simp only [Op.poll, Read.poll, Write.poll, pollOneWay, WriteThenRead.poll] at h <;>
      repeat' split at h
    all_goals cases h
  | finished => cases op <;> cases h

/-- **A `Read` or `Write` poll that leaves its future `InProgress`** leaves the
line unmasked, with the polling task's waker installed by a first poll, and the
waker it found kept by a later one. -/
theorem Op.poll_inProgress {op : Op} (hop : op.oneWay = true) {w : Nat} {t t' : Twim0} {st : State}
    {r : PollResult} (h : op.poll w t st = some (t', .inProgress, r)) :
    t'.masked = false ∧
      (st = .notStarted ∧ t'.waker = some w ∨ st = .inProgress ∧ t'.waker = t.waker) := by
  obtain ⟨d, len, -, hpoll⟩ := Op.oneWay_poll hop
  replace hpoll := (hpoll w t st).symm.trans h
  cases st with
  | notStarted =>
    simp only [pollOneWay, Option.some.injEq, Prod.mk.injEq] at hpoll
    obtain ⟨rfl, -, -⟩ := hpoll
    cases d <;> simp [Twim0.install, Twim0.setMaxcnt]
  | inProgress =>
    simp only [pollOneWay] at hpoll
    split_ifs at hpoll <;> cases hpoll
    simp
  | finished => cases hpoll

/-- **A short read returns `Ready` and leaves `WriteThenRead` `InProgress`**:
`STOPPED` without `ERROR`, and an `RXD.AMOUNT` that differs from the read
buffer's length.  `state = Finished` is only set after both lengths match. -/
theorem WriteThenRead.poll_short_read (wrLen rdLen w : Nat) {t : Twim0}
    (herr : t.eventsError = false) (hstop : t.eventsStopped = true)
    (hrx : t.rxdAmount % 256 ≠ rdLen % 256) :
    WriteThenRead.poll wrLen rdLen w t .inProgress =
      some (((t.resetDone .rx).resetDone .tx).uninstall, .inProgress,
        some (.error (.shortRead (t.rxdAmount % 256)))) := by
  simp [WriteThenRead.poll, herr, hstop, hrx]

/-- **The hardware** touches neither the NVIC mask nor `WAKER`, never clears
`EVENTS_ERROR`, and raises a `STARTED` event only in a direction of the
transfer. -/
theorem Twim0.hw_frame {t t' : Twim0} {dirs : List Dir} {h : Hw} (hh : t.hw dirs h = some t') :
    t'.waker = t.waker ∧ t'.masked = t.masked ∧ (t.eventsError = true → t'.eventsError = true) ∧
      ∀ d, t'.started d = true → t.started d = true ∨ d ∈ dirs := by
  cases h with
  | error | stopped =>
    cases hh
    exact ⟨rfl, rfl, by simp, fun d hd => .inl (by cases d <;> exact hd)⟩
  | started d | last d | amount d =>
    cases d <;> simp only [Twim0.hw] at hh <;> split_ifs at hh <;> cases hh <;>
      refine ⟨rfl, rfl, id, fun d hd => ?_⟩ <;> cases d <;> simp_all [Twim0.started]

/-- **The interrupt handler** only masks the line. -/
theorem spim0Spis0Twim0Twis0Spi0Twi0_fst (t : Twim0) :
    (spim0Spis0Twim0Twis0Spi0Twi0 t).1 = { t with masked := t.masked || t.waker.isSome } := by
  cases t
  unfold spim0Spis0Twim0Twis0Spi0Twi0
  split <;> simp_all

/-! ## A short `write_then_read` -/

/-- **A short `write_then_read` cannot be dropped.**  The write goes through,
the device ends the transfer before sending a byte, and the hardware raises
`STOPPED` with no `ERROR`.  The poll returns `Ready(Err(ShortRead(0)))` but
leaves the future `InProgress`, so dropping it reaches the `todo!()` of its
`Drop` impl. -/
theorem short_read_leaves_transfer_in_progress :
    ∃ s, TwimSystem.init.run [.start (.writeThenRead 1 1), .poll 0, .hw (.started .tx),
      .hw (.amount .tx 1), .hw (.last .tx), .hw (.started .rx), .hw .stopped, .poll 0] = some s ∧
      s.results = [.error (.shortRead 0)] ∧ s.fut = some (.writeThenRead 1 1, .inProgress) ∧
      s.step .drop = none := by
  obtain ⟨s₀, h₀, hfut, herr, hstop, hrx, hres⟩ : ∃ s₀, TwimSystem.init.run
      [.start (.writeThenRead 1 1), .poll 0, .hw (.started .tx), .hw (.amount .tx 1), .hw (.last .tx),
        .hw (.started .rx), .hw .stopped] = some s₀ ∧
      s₀.fut = some (.writeThenRead 1 1, .inProgress) ∧ s₀.twim.eventsError = false ∧
      s₀.twim.eventsStopped = true ∧ s₀.twim.rxdAmount = 0 ∧ s₀.results = [] :=
    ⟨_, rfl, rfl, rfl, rfl, rfl, rfl⟩
  have hp := WriteThenRead.poll_short_read 1 1 0 herr hstop (by rw [hrx]; decide)
  exact ⟨_, (TwimSystem.run_snoc h₀).trans (TwimSystem.step_poll_of (w := 0) hfut hp), by simp [hres, hrx],
    rfl, rfl⟩

/-! ## A stale `EVENTS_ERROR` -/

/-- **An error branch leaves `EVENTS_ERROR` set** and clears the `STARTED` event
of its direction, for every register state. -/
theorem pollOneWay_error_keeps_error {d : Dir} {len w : Nat} {t : Twim0} (h : t.eventsError = true) :
    ∃ t', pollOneWay d len w t .inProgress =
        some (t', .finished, some (.error (.src (t.errorSrc % 256)))) ∧
      t'.eventsError = true ∧ ∀ d', t'.started d' = true → t.started d' = true ∧ d' ≠ d := by
  refine ⟨t.resetDone d, by simp [pollOneWay, h], by cases d <;> exact h, fun d' hd' => ?_⟩
  cases d <;> cases d' <;> simp_all [Twim0.resetDone, Twim0.started]

/-- **A first poll keeps `EVENTS_ERROR`** when no `STARTED` event is set. -/
theorem startCleanup_keeps_error {t : Twim0} (hrx : t.eventsRxStarted = false)
    (htx : t.eventsTxStarted = false) : t.startCleanup.eventsError = t.eventsError := by
  simp [Twim0.startCleanup, hrx, htx]

/-- **A transfer after a failed one fails although nothing goes wrong.**  A
one-byte read ends with `ERROR` (`ERRORSRC = 1`).  The next transfer, a one-byte
write, runs cleanly: the hardware raises `TXSTARTED`, `LASTTX`, moves one byte
and raises `STOPPED`, and no `ERROR`.  Its poll still takes the error branch,
since `EVENTS_ERROR` is still set, and returns `Src(1)`. -/
theorem stale_error_fails_next_transfer :
    ∃ s, TwimSystem.init.run [.start (.read 1), .poll 0, .hw (.started .rx), .hw (.error 1), .poll 0,
      .drop, .start (.write 1), .poll 0, .hw (.started .tx), .hw (.last .tx), .hw (.amount .tx 1),
      .hw .stopped, .poll 0, .drop] = some s ∧ s.results = [.error (.src 1), .error (.src 1)] := by
  obtain ⟨s₀, h₀, hfut, herr, hsrc, hres⟩ : ∃ s₀, TwimSystem.init.run [.start (.read 1), .poll 0,
      .hw (.started .rx), .hw (.error 1), .poll 0, .drop, .start (.write 1), .poll 0, .hw (.started .tx),
      .hw (.last .tx), .hw (.amount .tx 1), .hw .stopped] = some s₀ ∧
      s₀.fut = some (.write 1, .inProgress) ∧ s₀.twim.eventsError = true ∧ s₀.twim.errorSrc = 1 ∧
      s₀.results = [.error (.src 1)] :=
    ⟨_, rfl, rfl, rfl, rfl, rfl⟩
  obtain ⟨t', hp, -, -⟩ := @pollOneWay_error_keeps_error .tx 1 0 _ herr
  have h₁ := (TwimSystem.run_snoc h₀).trans (TwimSystem.step_poll_of (w := 0) hfut hp)
  exact ⟨_, (TwimSystem.run_snoc h₁).trans rfl, by simp [hres, hsrc]⟩

/-- **Every transfer's error branch** returns `Err(Src)` and keeps
`EVENTS_ERROR`; when the `STARTED` events set are the transfer's own, it leaves
none set. -/
theorem Op.poll_error {op : Op} {w : Nat} {t : Twim0} (h : t.eventsError = true)
    (hsc : ∀ d, t.started d = true → d ∈ op.dirs) :
    ∃ t', op.poll w t .inProgress = some (t', .finished, some (.error (.src (t.errorSrc % 256)))) ∧
      t'.eventsError = true ∧ ∀ d, t'.started d = false := by
  cases hop : op.oneWay with
  | true =>
    obtain ⟨d, len, hdirs, hpoll⟩ := Op.oneWay_poll hop
    obtain ⟨t', hp, he, hd⟩ := @pollOneWay_error_keeps_error d len w t h
    refine ⟨t', (hpoll w t _).trans hp, he, fun d' => Bool.eq_false_iff.mpr fun hd' => ?_⟩
    obtain ⟨ht, hne⟩ := hd d' hd'
    exact hne (by simpa [hdirs] using hsc d' ht)
  | false =>
    cases op with
    | writeThenRead =>
      exact ⟨(t.resetDone .rx).resetDone .tx, by simp [Op.poll, WriteThenRead.poll, h], h,
        fun d => by cases d <;> rfl⟩
    | read | write => cases hop

/-- **A first poll keeps `EVENTS_ERROR`**, and sets no `STARTED` event, when
none is set. -/
theorem Op.poll_notStarted_keeps_error {op : Op} {w : Nat} {t t' : Twim0} {st' : State}
    {r : PollResult} (hrx : t.eventsRxStarted = false) (htx : t.eventsTxStarted = false)
    (h : op.poll w t .notStarted = some (t', st', r)) :
    t'.eventsError = t.eventsError ∧ ∀ d, t'.started d = false := by
  have hd : ∀ d, t.started d = false := fun d => by cases d <;> assumption
  cases op <;> cases h <;> simp [startCleanup_keeps_error hrx htx, hd]

/-- **A poll never raises a `STARTED` event**, and one that finishes a `Read`
or `Write` clears the event of its direction. -/
theorem pollOneWay_started {d : Dir} {len w : Nat} {t t' : Twim0} {st st' : State} {r : PollResult}
    (h : pollOneWay d len w t st = some (t', st', r)) {d' : Dir} (hd : t'.started d' = true) :
    t.started d' = true ∧ (st' = .inProgress ∨ d' ≠ d) := by
  cases st with
  | notStarted =>
    cases h
    exact ⟨by simpa using hd, .inl rfl⟩
  | inProgress =>
    simp only [pollOneWay] at h
    split_ifs at h <;> cases h <;> cases d <;> cases d' <;>
      first | exact ⟨hd, .inl rfl⟩ | exact ⟨hd, .inr (by decide)⟩ | cases hd
  | finished => cases h

/-- **`WriteThenRead`'s poll never raises a `STARTED` event**, and every
`Ready` clears both. -/
theorem WriteThenRead.poll_started {wrLen rdLen w : Nat} {t t' : Twim0} {st st' : State}
    {r : PollResult} (h : WriteThenRead.poll wrLen rdLen w t st = some (t', st', r)) {d : Dir}
    (hd : t'.started d = true) : t.started d = true ∧ st' = .inProgress := by
  cases st with
  | notStarted =>
    cases h
    exact ⟨by simpa using hd, rfl⟩
  | inProgress =>
    simp only [WriteThenRead.poll] at h
    split_ifs at h <;> cases h <;> first | exact ⟨hd, rfl⟩ | cases d <;> cases hd
  | finished => cases h

/-- **A poll leaves a `STARTED` event set only on a transfer still in
progress**, when the events set before are the transfer's own. -/
theorem Op.poll_started {op : Op} {w : Nat} {t t' : Twim0} {st st' : State} {r : PollResult}
    (hsc : ∀ d, t.started d = true → d ∈ op.dirs) (h : op.poll w t st = some (t', st', r))
    {d : Dir} (hd : t'.started d = true) : st' = .inProgress ∧ d ∈ op.dirs := by
  cases hop : op.oneWay with
  | true =>
    obtain ⟨d₀, len, hdirs, hpoll⟩ := Op.oneWay_poll hop
    obtain ⟨ht, hst⟩ := pollOneWay_started ((hpoll w t st).symm.trans h) hd
    have hmem := hsc d ht
    rw [hdirs, List.mem_singleton] at hmem
    exact ⟨hst.resolve_right (not_not.mpr hmem), hdirs ▸ List.mem_singleton.mpr hmem⟩
  | false =>
    cases op with
    | writeThenRead =>
      obtain ⟨ht, hst⟩ := WriteThenRead.poll_started h hd
      exact ⟨hst, hsc d ht⟩
    | read | write => cases hop

namespace TwimSystem

/-- **A `STARTED` event belongs to the transfer in progress**: it is set only
while a transfer that uses its direction is `InProgress`. -/
def StartedScoped (s : TwimSystem) : Prop :=
  ∀ d, s.twim.started d = true → ∃ op, s.fut = some (op, .inProgress) ∧ d ∈ op.dirs

theorem startedScoped_init : init.StartedScoped := fun d hd => by cases d <;> cases hd

/-- The `STARTED` events set belong to the transfer on the bus, which is in
progress. -/
theorem StartedScoped.dirs {s : TwimSystem} (hs : s.StartedScoped) {op : Op} {st : State}
    (hf : s.fut = some (op, st)) (d : Dir) (hd : s.twim.started d = true) :
    st = .inProgress ∧ d ∈ op.dirs := by
  obtain ⟨op', hf', hm⟩ := hs d hd
  rw [hf] at hf'
  cases hf'
  exact ⟨rfl, hm⟩

/-- Every step keeps `STARTED` events scoped. -/
theorem StartedScoped.step {s t : TwimSystem} {a : TwimAction} (hs : s.StartedScoped)
    (h : s.step a = some t) : t.StartedScoped := by
  intro d hd
  cases Step.of_step h with
  | start hf _ =>
    obtain ⟨op', hf', -⟩ := hs d hd
    simp [hf] at hf'
  | poll hf hp =>
    obtain ⟨rfl, hm⟩ := Op.poll_started (fun d hd => (hs.dirs hf d hd).2) hp hd
    exact ⟨_, rfl, hm⟩
  | drop hf hne => exact absurd (hs.dirs hf d hd).1 hne
  | hw hf hh =>
    refine ⟨_, hf, ?_⟩
    rcases (Twim0.hw_frame hh).2.2.2 d hd with hd' | hm
    · exact (hs.dirs hf d hd').2
    · exact hm
  | irq _ =>
    simp only [spim0Spis0Twim0Twis0Spi0Twi0_fst] at hd
    exact hs d (by cases d <;> exact hd)

/-- Every run keeps it. -/
theorem StartedScoped.run {s t : TwimSystem} :
    ∀ {as : List TwimAction}, s.StartedScoped → s.run as = some t → t.StartedScoped
  | [], hs, h => by cases h; exact hs
  | _ :: _, hs, h => by
    obtain ⟨s', hstep, hrun⟩ := Option.bind_eq_some.mp h
    exact StartedScoped.run (hs.step hstep) hrun

/-- **Once `EVENTS_ERROR` is set every step keeps it**, and a poll that returns
`Ready` returns `Err(Src)`. -/
theorem step_keeps_error {s t : TwimSystem} {a : TwimAction} (hs : s.StartedScoped)
    (he : s.twim.eventsError = true) (h : s.step a = some t) :
    t.twim.eventsError = true ∧
      ∃ rs, t.results = s.results ++ rs ∧ ∀ r ∈ rs, ∃ b, r = .error (.src b) := by
  cases Step.of_step h with
  | start _ _ | drop _ _ => exact ⟨he, [], by simp, by simp⟩
  | @poll w op st _ _ _ hf hp =>
    cases st with
    | notStarted =>
      have hno : ∀ d, s.twim.started d = false := fun d =>
        Bool.eq_false_iff.mpr fun hd => by cases (hs.dirs hf d hd).1
      have hkeep := (Op.poll_notStarted_keeps_error (hno .rx) (hno .tx) hp).1
      obtain ⟨t'', hp'⟩ := Op.poll_notStarted op w s.twim
      rw [hp'] at hp
      cases hp
      exact ⟨hkeep.trans he, [], by simp, by simp⟩
    | inProgress =>
      obtain ⟨t'', hp', he', -⟩ := Op.poll_error (w := w) he fun d hd => (hs.dirs hf d hd).2
      rw [hp'] at hp
      cases hp
      exact ⟨he', _, rfl, by simp⟩
    | finished => cases op <;> cases hp
  | hw _ hh => exact ⟨(Twim0.hw_frame hh).2.2.1 he, [], by simp, by simp⟩
  | irq _ => exact ⟨by simpa [spim0Spis0Twim0Twis0Spi0Twi0_fst] using he, [], by simp, by simp⟩

/-- Every run from a state with `EVENTS_ERROR` set keeps it, and all the
results it adds are `Err(Src)`. -/
theorem run_keeps_error {s t : TwimSystem} :
    ∀ {as : List TwimAction}, s.StartedScoped → s.twim.eventsError = true → s.run as = some t →
      ∃ rs, t.results = s.results ++ rs ∧ ∀ r ∈ rs, ∃ b, r = .error (.src b)
  | [], _, _, h => by cases h; exact ⟨[], by simp, by simp⟩
  | _ :: _, hs, he, h => by
    obtain ⟨s', hstep, hrun⟩ := Option.bind_eq_some.mp h
    obtain ⟨he', rs, hr, hrs⟩ := step_keeps_error hs he hstep
    obtain ⟨rs', hr', hrs'⟩ := run_keeps_error (hs.step hstep) he' hrun
    exact ⟨rs ++ rs', by simp [hr', hr], fun r hr => (List.mem_append.mp hr).elim (hrs r) (hrs' r)⟩

/-- **One bus error fails every later transfer.**  Once the hardware has raised
`EVENTS_ERROR` in a run from `init`, every poll after it that returns `Ready`
returns `Err(Src)`, however the later transfers go.  No error branch clears
`EVENTS_ERROR`, and a first poll clears it only when a `STARTED` event is set,
which is never the case then: a `STARTED` event belongs to the transfer in
progress, and a transfer in progress cannot be dropped (the model has no
`mem::forget`, the one way left to abandon it). -/
theorem every_transfer_fails_after_error {as bs : List TwimAction} {s t : TwimSystem}
    (hs : init.run as = some s) (he : s.twim.eventsError = true) (ht : s.run bs = some t) :
    ∃ rs, t.results = s.results ++ rs ∧ ∀ r ∈ rs, ∃ b, r = .error (.src b) :=
  run_keeps_error (startedScoped_init.run hs) he ht

/-- The read and the write of `stale_error_fails_next_transfer`, from the
hardware's error on. -/
theorem every_transfer_fails_after_read_error :
    ∃ s t, init.run [.start (.read 1), .poll 0, .hw (.started .rx), .hw (.error 1)] = some s ∧
      s.twim.eventsError = true ∧
      s.run [.poll 0, .drop, .start (.write 1), .poll 0, .hw (.started .tx), .hw (.last .tx),
        .hw (.amount .tx 1), .hw .stopped, .poll 0, .drop] = some t ∧
      ∃ rs, t.results = s.results ++ rs ∧ ∀ r ∈ rs, ∃ b, r = .error (.src b) :=
  ⟨_, _, rfl, rfl, rfl, @every_transfer_fails_after_error
    [.start (.read 1), .poll 0, .hw (.started .rx), .hw (.error 1)]
    [.poll 0, .drop, .start (.write 1), .poll 0, .hw (.started .tx), .hw (.last .tx),
      .hw (.amount .tx 1), .hw .stopped, .poll 0, .drop] _ _ rfl rfl rfl⟩

/-! ## `Read` and `Write` are never forgotten -/

/-- **Task `w`'s `Read` or `Write` can be woken**: no future on the bus still
waits for its first poll, and a `Read` or `Write` in progress has `w`'s waker in
`WAKER`, with the line unmasked unless the handler has just woken `w`. -/
def WakeableBy (w : Nat) (s : TwimSystem) : Prop :=
  (∀ op, s.fut ≠ some (op, .notStarted)) ∧
    ∀ op, s.fut = some (op, .inProgress) → op.oneWay = true →
      s.twim.waker = some w ∧ (s.twim.masked = false ∨ s.woken.getLast? = some w)

/-- Every step but a `start` keeps it: a later poll, by any task, keeps the
waker it finds. -/
theorem WakeableBy.step {w : Nat} {s t : TwimSystem} {a : TwimAction} (hs : s.WakeableBy w)
    (ha : ∀ op, a ≠ .start op) (h : s.step a = some t) : t.WakeableBy w := by
  cases Step.of_step h with
  | start _ _ => exact absurd rfl (ha _)
  | @poll _ op _ _ _ _ hf hp =>
    refine ⟨fun op' heq => ?_, fun op' hfut hop => ?_⟩
    · cases heq
      exact Op.poll_ne_notStarted hp
    · cases hfut
      obtain ⟨hm, ⟨rfl, -⟩ | ⟨rfl, hw⟩⟩ := Op.poll_inProgress hop hp
      · exact absurd hf (hs.1 op)
      · exact ⟨hw.trans (hs.2 op hf hop).1, .inl hm⟩
  | drop _ _ => exact ⟨fun _ => by simp, fun _ h => by simp at h⟩
  | hw _ hh =>
    obtain ⟨hwk, hmk, -⟩ := Twim0.hw_frame hh
    exact ⟨hs.1, fun op hfut hop => hwk ▸ hmk ▸ hs.2 op hfut hop⟩
  | irq _ =>
    refine ⟨hs.1, fun op hfut hop => ?_⟩
    simp [spim0Spis0Twim0Twis0Spi0Twi0, (hs.2 op hfut hop).1]

/-- Every run without a `start` keeps it. -/
theorem WakeableBy.run {w : Nat} {s t : TwimSystem} :
    ∀ {as : List TwimAction}, s.WakeableBy w → (∀ op, TwimAction.start op ∉ as) →
      s.run as = some t → t.WakeableBy w
  | [], hs, _, h => by cases h; exact hs
  | _ :: _, hs, ha, h => by
    obtain ⟨s', hstep, hrun⟩ := Option.bind_eq_some.mp h
    exact WakeableBy.run (hs.step (fun op he => ha op (he ▸ List.mem_cons_self _ _)) hstep)
      (fun op hm => ha op (List.mem_cons_of_mem _ hm)) hrun

end TwimSystem

end AsyncEmbedded.Nrf52
