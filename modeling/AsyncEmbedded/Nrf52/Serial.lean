import AsyncEmbedded.Nrf52.Twim

/-!
# The UARTE0 serial driver of `nrf52`

`Rx::read` and `Tx::write_from_ram` each build a future that, on its first
poll, clears its end event (`EVENTS_ENDRX` / `EVENTS_ENDTX`), installs its
waker in `RX_WAKER` / `TX_WAKER` with the interrupt line masked, unmasks it and
starts the transfer.  Every later poll reads the end event.  If it is set, the
poll clears it, masks the line, takes its waker down, and unmasks the line
again if the other direction's waker is installed.  Otherwise it re-arms the
one-shot interrupt.  The two directions share one interrupt, `UARTE0_UART0`,
which wakes both installed wakers and then masks the line.

## What the model keeps

Each direction (`Side`) has its end event, whether a transfer it started is
still running, its waker cell, its future (buffer length and state) and the
`ready` flag of the task that awaits the future.  A waker is the direction
whose task it wakes.  `SerialSystem` adds the NVIC mask of `UARTE0_UART0`, the
poll in progress, and `accesses`, a record the program does not have: the mask
at each foreground write or take of a waker cell, oldest first.  `MAXCNT`,
`PTR`, the pins and the baud rate are written for the hardware and never read
back, so they are left out, and so is the value a poll returns, which nothing
modelled reads.

A poll runs one statement at a time (`PollPc`, one constructor per statement
that another context can observe), and the hardware and the handler may act
between any two of them.  The executor's clearing of a task's `ready` flag
starts the poll (`SerialAction.poll`).  The hardware ends a transfer it was
asked to start (`SerialAction.done`).  The interrupt is taken while an end event
is set and the line is unmasked (`init` enables `ENDRX` and `ENDTX`), and the
handler runs to its end.

## The result

Between two polls, every `InProgress` future has its waker installed, and while
the line is masked its task's `ready` flag is set (`SerialSystem.Served`).  The
handler only masks the line after waking every installed waker.  Each poll that
masks the line unmasks it before returning, or finishes its own future and
leaves no other `InProgress`.  So a transfer that has ended is never forgotten
(`end_event_is_served`): its task is ready, or the interrupt is pending and
makes it ready (`end_event_wakes`).  Every write or take of a waker cell comes
right after a mask (`Reachable.waker_accesses_masked`).
-/

namespace AsyncEmbedded.Nrf52

/-- The other direction. -/
def Dir.other : Dir → Dir
  | .rx => .tx
  | .tx => .rx

@[simp] theorem Dir.other_other (d : Dir) : d.other.other = d := by cases d <;> rfl

@[simp] theorem Dir.other_ne (d : Dir) : d.other ≠ d := by cases d <;> decide

@[simp] theorem Dir.ne_other (d : Dir) : d ≠ d.other := by cases d <;> decide

theorem Dir.eq_or_eq_other (d e : Dir) : e = d ∨ e = d.other := by
  cases d <;> cases e <;> simp [Dir.other]

/-- **One direction of UARTE0 and the task that uses it**: `EVENTS_END{RX,TX}`,
a transfer started by `TASKS_START{RX,TX}` and not yet ended, the
`{RX,TX}_WAKER` cell, the future's buffer length and state, and the `ready`
flag of the task that awaits the future. -/
structure Side where
  eventsEnd : Bool
  busy : Bool
  waker : Option Dir
  len : Nat
  state : State
  ready : Bool
  deriving DecidableEq, Repr

/-- **A statement of `Read::poll` or `Write::poll`** that another context can
observe, in program order. -/
inductive PollPc
  /-- `State::NotStarted if len == 0`: `self.state = State::Finished`. -/
  | finishEmpty
  /-- `events_end{rx,tx}.reset()` before the transfer. -/
  | resetEnd
  /-- `NVIC::mask(INTERRUPT)` before the waker is installed. -/
  | maskInstall
  /-- `{RX,TX}_WAKER = Some(cx.waker().clone())`. -/
  | install
  /-- `NVIC::unmask(INTERRUPT)` after it. -/
  | unmaskInstall
  /-- `tasks_start{rx,tx}.write(1)`. -/
  | start
  /-- `self.state = State::InProgress`. -/
  | setInProgress
  /-- `State::InProgress`: `if events_end{rx,tx}.read().bits() != 0`. -/
  | test
  /-- `events_end{rx,tx}.reset()` after the transfer. -/
  | resetDone
  /-- `self.state = State::Finished`. -/
  | setFinished
  /-- `NVIC::mask(INTERRUPT)` before the waker is taken down. -/
  | maskTake
  /-- `drop({RX,TX}_WAKER.take())`. -/
  | take
  /-- `if {TX,RX}_WAKER.is_some() { NVIC::unmask(INTERRUPT) }`. -/
  | unmaskIfOther
  /-- A spurious wake: `NVIC::unmask(INTERRUPT)`. -/
  | rearm
  deriving DecidableEq, Repr

/-- The first statement of a poll of a future of `len` bytes in state `st`;
`none` is the `unreachable!()` of a finished future. -/
def PollPc.entry (len : Nat) : State → Option PollPc
  | .notStarted => some (if len = 0 then .finishEmpty else .resetEnd)
  | .inProgress => some .test
  | .finished => none

/-- **UARTE0, its two tasks and the foreground**: both directions, the NVIC mask
of `UARTE0_UART0`, the poll in progress (its direction and next statement),
and the mask at each foreground access of a waker cell. -/
structure SerialSystem where
  rx : Side
  tx : Side
  masked : Bool
  fg : Option (Dir × PollPc)
  accesses : List Bool
  deriving DecidableEq, Repr

namespace SerialSystem

/-- A direction of the system. -/
def side (s : SerialSystem) : Dir → Side
  | .rx => s.rx
  | .tx => s.tx

/-- The system with direction `d` changed by `f`. -/
def modify (s : SerialSystem) (d : Dir) (f : Side → Side) : SerialSystem :=
  match d with
  | .rx => { s with rx := f s.rx }
  | .tx => { s with tx := f s.tx }

@[simp] theorem side_modify_self (s : SerialSystem) (d : Dir) (f : Side → Side) :
    (s.modify d f).side d = f (s.side d) := by
  cases d <;> rfl

@[simp] theorem side_modify_other (s : SerialSystem) (d : Dir) (f : Side → Side) :
    (s.modify d f).side d.other = s.side d.other := by
  cases d <;> rfl

@[simp] theorem masked_modify (s : SerialSystem) (d : Dir) (f : Side → Side) :
    (s.modify d f).masked = s.masked := by
  cases d <;> rfl

@[simp] theorem fg_modify (s : SerialSystem) (d : Dir) (f : Side → Side) :
    (s.modify d f).fg = s.fg := by
  cases d <;> rfl

@[simp] theorem accesses_modify (s : SerialSystem) (d : Dir) (f : Side → Side) :
    (s.modify d f).accesses = s.accesses := by
  cases d <;> rfl

/-- `NVIC::mask(INTERRUPT)`. -/
def mask (s : SerialSystem) : SerialSystem := { s with masked := true }

/-- `NVIC::unmask(INTERRUPT)`. -/
def unmask (s : SerialSystem) : SerialSystem := { s with masked := false }

/-- Record a foreground access of a waker cell with the mask at that moment. -/
def log (s : SerialSystem) : SerialSystem := { s with accesses := s.accesses ++ [s.masked] }

/-- The system with the poll in progress set to `c`. -/
def setFg (s : SerialSystem) (c : Option (Dir × PollPc)) : SerialSystem := { s with fg := c }

@[simp] theorem side_mask (s : SerialSystem) (d : Dir) : s.mask.side d = s.side d := by cases d <;> rfl
@[simp] theorem side_unmask (s : SerialSystem) (d : Dir) : s.unmask.side d = s.side d := by cases d <;> rfl
@[simp] theorem side_log (s : SerialSystem) (d : Dir) : s.log.side d = s.side d := by cases d <;> rfl
@[simp] theorem side_setFg (s : SerialSystem) (c : Option (Dir × PollPc)) (d : Dir) :
    (s.setFg c).side d = s.side d := by cases d <;> rfl
@[simp] theorem masked_mask (s : SerialSystem) : s.mask.masked = true := rfl
@[simp] theorem masked_unmask (s : SerialSystem) : s.unmask.masked = false := rfl
@[simp] theorem masked_log (s : SerialSystem) : s.log.masked = s.masked := rfl
@[simp] theorem masked_setFg (s : SerialSystem) (c : Option (Dir × PollPc)) :
    (s.setFg c).masked = s.masked := rfl
@[simp] theorem fg_mask (s : SerialSystem) : s.mask.fg = s.fg := rfl
@[simp] theorem fg_unmask (s : SerialSystem) : s.unmask.fg = s.fg := rfl
@[simp] theorem fg_log (s : SerialSystem) : s.log.fg = s.fg := rfl
@[simp] theorem fg_setFg (s : SerialSystem) (c : Option (Dir × PollPc)) : (s.setFg c).fg = c := rfl
@[simp] theorem accesses_mask (s : SerialSystem) : s.mask.accesses = s.accesses := rfl
@[simp] theorem accesses_unmask (s : SerialSystem) : s.unmask.accesses = s.accesses := rfl
@[simp] theorem accesses_log (s : SerialSystem) : s.log.accesses = s.accesses ++ [s.masked] := rfl
@[simp] theorem accesses_setFg (s : SerialSystem) (c : Option (Dir × PollPc)) :
    (s.setFg c).accesses = s.accesses := rfl

/-- **One statement of the poll of direction `d`**: `Read::poll` (lines 111-193)
for `rx`, `Write::poll` (lines 254-336) for `tx`.  The state after it and the
next statement, `none` when the poll returns. -/
def exec (s : SerialSystem) (d : Dir) : PollPc → SerialSystem × Option PollPc
  | .finishEmpty => (s.modify d fun h => { h with state := .finished }, none)
  | .resetEnd => (s.modify d fun h => { h with eventsEnd := false }, some .maskInstall)
  | .maskInstall => (s.mask, some .install)
  | .install => ((s.modify d fun h => { h with waker := some d }).log, some .unmaskInstall)
  | .unmaskInstall => (s.unmask, some .start)
  | .start => (s.modify d fun h => { h with busy := true }, some .setInProgress)
  | .setInProgress => (s.modify d fun h => { h with state := .inProgress }, none)
  | .test => (s, some (if (s.side d).eventsEnd then .resetDone else .rearm))
  | .resetDone => (s.modify d fun h => { h with eventsEnd := false }, some .setFinished)
  | .setFinished => (s.modify d fun h => { h with state := .finished }, some .maskTake)
  | .maskTake => (s.mask, some .take)
  | .take => ((s.modify d fun h => { h with waker := none }).log, some .unmaskIfOther)
  | .unmaskIfOther => (if (s.side d.other).waker.isSome then s.unmask else s, none)
  | .rearm => (s.unmask, none)

/-- The executor's `wake_by_ref` on the task a waker names: set its `ready`
flag. -/
def wake (s : SerialSystem) : Option Dir → SerialSystem
  | some w => s.modify w fun h => { h with ready := true }
  | none => s

/-- **`UARTE0_UART0`** (lines 363-383): wake `RX_WAKER`, then `TX_WAKER`, and
mask the line if one of them ran. -/
def uarte0Uart0 (s : SerialSystem) : SerialSystem :=
  let s' := (s.wake (s.side .rx).waker).wake (s.side .tx).waker
  if (s.side .rx).waker.isSome || (s.side .tx).waker.isSome then s'.mask else s'

end SerialSystem

/-- What happens next. -/
inductive SerialAction
  /-- The executor clears the `ready` flag of the task on direction `d` and
  polls its future. -/
  | poll (d : Dir)
  /-- The poll in progress runs its next statement. -/
  | next
  /-- The transfer running on direction `d` ends: `EVENTS_END{RX,TX}`. -/
  | done (d : Dir)
  /-- `UARTE0_UART0` runs. -/
  | irq
  /-- The task on direction `d` drops its future and calls `Rx::read` or
  `Tx::write_from_ram` on a buffer of `len` bytes. -/
  | call (d : Dir) (len : Nat)

namespace SerialSystem

/-- Before its first call a direction is as after a finished future: nothing to
poll.  The line is masked, no waker is installed, and both tasks are ready. -/
def init : SerialSystem :=
  ⟨⟨false, false, none, 0, .finished, true⟩, ⟨false, false, none, 0, .finished, true⟩, true, none, []⟩

/-- **One step**; `none` when it is not possible or panics (the `assert!` of a
call, the `todo!()` of dropping a transfer in progress, or the
`unreachable!()` of polling a finished future). -/
def step (s : SerialSystem) : SerialAction → Option SerialSystem
  | .poll d =>
    match s.fg, PollPc.entry (s.side d).len (s.side d).state with
    | none, some pc => some ((s.modify d fun h => { h with ready := false }).setFg (some (d, pc)))
    | _, _ => none
  | .next =>
    match s.fg with
    | some (d, pc) => some ((s.exec d pc).1.setFg ((s.exec d pc).2.map ((d, ·))))
    | none => none
  | .done d =>
    if (s.side d).busy then some (s.modify d fun h => { h with busy := false, eventsEnd := true })
    else none
  | .irq =>
    if ((s.side .rx).eventsEnd || (s.side .tx).eventsEnd) && !s.masked then some s.uarte0Uart0
    else none
  | .call d len =>
    if s.fg.isNone && (s.side d).state != .inProgress && decide (len < 1024) then
      some (s.modify d fun h => { h with len := len, state := .notStarted })
    else none

/-- A sequence of steps. -/
def run (s : SerialSystem) : List SerialAction → Option SerialSystem
  | [] => some s
  | a :: as => (s.step a).bind fun s' => s'.run as

/-- A state some run from `init` reaches. -/
def Reachable (s : SerialSystem) : Prop := ∃ as, init.run as = some s

end SerialSystem

/-! ## What the handler and the hardware may do -/

namespace SerialSystem

/-- **`wake` sets the `ready` flag of the task its waker names.** -/
theorem side_wake (s : SerialSystem) (w : Option Dir) (d : Dir) :
    (s.wake w).side d = { s.side d with ready := (s.side d).ready || decide (w = some d) } := by
  rcases w with _ | w
  · simp [wake]
  · rcases Dir.eq_or_eq_other w d with rfl | rfl <;> simp [wake]

@[simp] theorem masked_wake (s : SerialSystem) (w : Option Dir) : (s.wake w).masked = s.masked := by
  cases w <;> simp [wake]

@[simp] theorem fg_wake (s : SerialSystem) (w : Option Dir) : (s.wake w).fg = s.fg := by
  cases w <;> simp [wake]

@[simp] theorem accesses_wake (s : SerialSystem) (w : Option Dir) :
    (s.wake w).accesses = s.accesses := by
  cases w <;> simp [wake]

/-- **The handler wakes both installed wakers.** -/
theorem side_uarte0Uart0 (s : SerialSystem) (d : Dir) :
    s.uarte0Uart0.side d = { s.side d with
      ready := (s.side d).ready || decide ((s.side .rx).waker = some d) ||
        decide ((s.side .tx).waker = some d) } := by
  unfold uarte0Uart0
  split <;> simp [side_wake]

/-- **The handler masks the line exactly when it ran a waker.** -/
theorem masked_uarte0Uart0 (s : SerialSystem) :
    s.uarte0Uart0.masked = ((s.side .rx).waker.isSome || (s.side .tx).waker.isSome || s.masked) := by
  unfold uarte0Uart0
  split <;> simp_all

@[simp] theorem fg_uarte0Uart0 (s : SerialSystem) : s.uarte0Uart0.fg = s.fg := by
  unfold uarte0Uart0
  split <;> simp

@[simp] theorem accesses_uarte0Uart0 (s : SerialSystem) : s.uarte0Uart0.accesses = s.accesses := by
  unfold uarte0Uart0
  split <;> simp

/-- **What another context may do to the state the foreground relies on**: the
wakers, the futures, the record and the poll in progress stay; `ready` flags
and the mask are only set; and the line is masked only once every installed
waker's task is ready. -/
structure Interferes (s t : SerialSystem) : Prop where
  fg : t.fg = s.fg
  accesses : t.accesses = s.accesses
  waker : ∀ d, (t.side d).waker = (s.side d).waker
  state : ∀ d, (t.side d).state = (s.side d).state
  ready : ∀ d, (s.side d).ready = true → (t.side d).ready = true
  masked_mono : s.masked = true → t.masked = true
  masked : t.masked = true → s.masked = true ∨ ∀ d, (s.side d).waker = some d → (t.side d).ready = true

/-- The end of a transfer touches only its direction's event and transfer. -/
theorem interferes_done {s t : SerialSystem} {d : Dir} (h : s.step (.done d) = some t) :
    Interferes s t := by
  simp only [step] at h
  split at h <;> cases h
  refine ⟨by simp, by simp, fun e => ?_, fun e => ?_, fun e => ?_, by simp, fun hm => .inl (by simpa using hm)⟩ <;>
    rcases Dir.eq_or_eq_other d e with rfl | rfl <;> simp

/-- The handler wakes every installed waker before it masks the line. -/
theorem interferes_irq {s t : SerialSystem} (h : s.step .irq = some t) : Interferes s t := by
  simp only [step] at h
  split at h <;> cases h
  refine ⟨by simp, by simp, fun e => by simp [side_uarte0Uart0],
    fun e => by simp [side_uarte0Uart0], fun e he => by simp [side_uarte0Uart0, he],
    fun hm => by simp [masked_uarte0Uart0, hm], fun _ => .inr fun e he => ?_⟩
  cases e <;> simp_all [side_uarte0Uart0]

end SerialSystem

/-! ## The invariant -/

namespace SerialSystem

variable {s t : SerialSystem} {d : Dir}

/-- **An `InProgress` future has its waker installed** in its direction's
cell. -/
def Armed (s : SerialSystem) (d : Dir) : Prop :=
  (s.side d).state = .inProgress → (s.side d).waker = some d

/-- **A direction is served**: it is armed, and while the line is masked the
task of its `InProgress` future is ready. -/
def Served (s : SerialSystem) (d : Dir) : Prop :=
  s.Armed d ∧ (s.masked = true → (s.side d).state = .inProgress → (s.side d).ready = true)

theorem Armed.interferes (h : Interferes s t) (ha : s.Armed d) : t.Armed d := fun hst => by
  rw [h.waker]
  exact ha (h.state d ▸ hst)

theorem Served.interferes (h : Interferes s t) (hs : s.Served d) : t.Served d := by
  refine ⟨hs.1.interferes h, fun hm hst => ?_⟩
  rw [h.state] at hst
  rcases h.masked hm with hm' | hall
  · exact h.ready d (hs.2 hm' hst)
  · exact hall d (hs.1 hst)

end SerialSystem

/-- **What holds of the polled direction before each statement**: the line is
masked from each mask of the poll to the next write of its cell, its waker is
installed from the install to the end of a pending poll, its task is ready
while the line is masked once the waker is installed, and its future is
finished once it says so. -/
def PollPc.Holds (pc : PollPc) (s : SerialSystem) (d : Dir) : Prop :=
  match pc with
  | .install => s.masked = true
  | .unmaskInstall => s.masked = true ∧ (s.side d).waker = some d
  | .start | .setInProgress =>
    (s.side d).waker = some d ∧ (s.masked = true → (s.side d).ready = true)
  | .test | .rearm => (s.side d).waker = some d
  | .maskTake => (s.side d).state = .finished
  | .take | .unmaskIfOther => (s.side d).state = .finished ∧ s.masked = true
  | .finishEmpty | .resetEnd | .maskInstall | .resetDone | .setFinished => True

/-- **The masked stretches of a poll**: the statements after one of its masks
and up to the unmask that ends it. -/
def PollPc.masking : PollPc → Bool
  | .install | .unmaskInstall | .take | .unmaskIfOther => true
  | _ => false

theorem PollPc.Holds.interferes {pc : PollPc} {s t : SerialSystem} {d : Dir}
    (h : SerialSystem.Interferes s t) (hp : pc.Holds s d) : pc.Holds t d := by
  have hw := h.waker d
  have hst := h.state d
  have hready : (s.side d).waker = some d → (s.masked = true → (s.side d).ready = true) →
      t.masked = true → (t.side d).ready = true := fun hwd hr hm =>
    (h.masked hm).elim (fun hm' => h.ready d (hr hm')) (fun hall => hall d hwd)
  cases pc with
  | install => exact h.masked_mono hp
  | unmaskInstall => exact ⟨h.masked_mono hp.1, hw.trans hp.2⟩
  | start => exact ⟨hw.trans hp.1, hready hp.1 hp.2⟩
  | setInProgress => exact ⟨hw.trans hp.1, hready hp.1 hp.2⟩
  | test => exact hw.trans hp
  | rearm => exact hw.trans hp
  | maskTake => exact hst.trans hp
  | take => exact ⟨hst.trans hp.1, h.masked_mono hp.2⟩
  | unmaskIfOther => exact ⟨hst.trans hp.1, h.masked_mono hp.2⟩
  | finishEmpty | resetEnd | maskInstall | resetDone | setFinished => trivial

namespace SerialSystem

variable {s t : SerialSystem} {d : Dir}

/-- **The foreground's part of the invariant**: between polls both directions
are served; during a poll of `d`, its statement's fact holds, the other
direction is armed, and it is served outside the poll's masked stretches. -/
def Calm (s : SerialSystem) : Option (Dir × PollPc) → Prop
  | none => ∀ d, s.Served d
  | some (d, pc) => pc.Holds s d ∧ s.Armed d.other ∧ (pc.masking = false → s.Served d.other)

/-- **The invariant of the serial system**: every recorded access of a waker
cell came with the line masked, and the foreground is calm. -/
structure Inv (s : SerialSystem) : Prop where
  accesses_masked : ∀ b ∈ s.accesses, b = true
  calm : s.Calm s.fg

theorem Calm.interferes (h : Interferes s t) : ∀ {c}, s.Calm c → t.Calm c
  | none, hc => fun d => (hc d).interferes h
  | some _, ⟨hp, ha, hs⟩ => ⟨hp.interferes h, ha.interferes h, fun hm => (hs hm).interferes h⟩

theorem Inv.interferes (h : Interferes s t) (hi : s.Inv) : t.Inv where
  accesses_masked := h.accesses ▸ hi.accesses_masked
  calm := by rw [h.fg]; exact hi.calm.interferes h

/-- Both directions served, from each one's facts. -/
theorem served_both (d : Dir) (h₁ : s.Served d) (h₂ : s.Served d.other) : ∀ e, s.Served e :=
  fun e => by
  rcases Dir.eq_or_eq_other d e with rfl | rfl
  · exact h₁
  · exact h₂

/-- A statement of the poll of `d` leaves the other direction as it was. -/
@[simp] theorem side_exec_other (s : SerialSystem) (d : Dir) (pc : PollPc) :
    (s.exec d pc).1.side d.other = s.side d.other := by
  cases pc <;> simp [exec]
  split <;> simp

/-- **A statement records an access of its waker cell only on a masked line.** -/
theorem exec_accesses {pc : PollPc} (hp : pc.Holds s d) (hacc : ∀ b ∈ s.accesses, b = true) :
    ∀ b ∈ (s.exec d pc).1.accesses, b = true := by
  cases pc <;> simp_all [exec, PollPc.Holds]
  split <;> simpa using hacc

/-- **Each statement of a poll keeps the foreground calm**, and a poll that
returns leaves both directions served. -/
theorem exec_calm {pc : PollPc} (hp : pc.Holds s d) (ha : s.Armed d.other)
    (hs : pc.masking = false → s.Served d.other) :
    (s.exec d pc).1.Calm ((s.exec d pc).2.map ((d, ·))) := by
  have ha' : (s.exec d pc).1.Armed d.other := by simpa [Armed] using ha
  cases pc with
  | finishEmpty =>
    exact served_both d (by simp [exec, Served, Armed]) (by simpa [exec, Served, Armed] using hs rfl)
  | resetEnd => exact ⟨trivial, ha', fun _ => by simpa [exec, Served, Armed] using hs rfl⟩
  | maskInstall => exact ⟨rfl, ha', fun h => absurd h (by decide)⟩
  | install => exact ⟨⟨by simpa [exec] using hp, by simp [exec]⟩, ha', fun h => absurd h (by decide)⟩
  | unmaskInstall => exact ⟨⟨by simpa [exec] using hp.2, by simp [exec]⟩, ha', fun _ => ⟨ha', by simp [exec]⟩⟩
  | start =>
    exact ⟨by simpa [exec, PollPc.Holds] using hp, ha', fun _ => by simpa [exec, Served, Armed] using hs rfl⟩
  | setInProgress =>
    refine served_both d ⟨fun _ => ?_, fun hm _ => ?_⟩ (by simpa [exec, Served, Armed] using hs rfl)
    · simpa [exec] using hp.1
    · simpa [exec] using hp.2 (by simpa [exec] using hm)
  | test =>
    simp only [exec]
    split
    · exact ⟨trivial, ha, fun _ => hs rfl⟩
    · exact ⟨hp, ha, fun _ => hs rfl⟩
  | resetDone => exact ⟨trivial, ha', fun _ => by simpa [exec, Served, Armed] using hs rfl⟩
  | setFinished =>
    exact ⟨by simp [exec, PollPc.Holds], ha', fun _ => by simpa [exec, Served, Armed] using hs rfl⟩
  | maskTake => exact ⟨⟨by simpa [exec] using hp, rfl⟩, ha', fun h => absurd h (by decide)⟩
  | take =>
    exact ⟨⟨by simpa [exec] using hp.1, by simpa [exec] using hp.2⟩, ha', fun h => absurd h (by decide)⟩
  | unmaskIfOther =>
    -- the line stays masked only when the other direction has no waker, so no future
    refine served_both d (by simp only [exec]; split <;> simp [Served, Armed, hp.1]) ⟨ha', ?_⟩
    simp only [exec]
    split
    · simp
    · intro _ hst
      exact absurd (ha hst) (by simp_all)
  | rearm =>
    exact served_both d ⟨fun _ => by simpa [exec] using hp, by simp [exec]⟩ ⟨ha', by simp [exec]⟩

/-- The foreground's invariant reads only the two directions and the mask. -/
theorem Calm.of_sides (hside : ∀ e, t.side e = s.side e) (hm : t.masked = s.masked) :
    ∀ {c}, s.Calm c → t.Calm c
  | none, hc => fun e => by simpa [Served, Armed, hside, hm] using hc e
  | some (_, pc), ⟨hp, ha, hs⟩ =>
    ⟨by cases pc <;> simp_all [PollPc.Holds], by simpa [Armed, hside] using ha,
      fun h => by simpa [Served, Armed, hside, hm] using hs h⟩

/-- A poll begins on a served direction: its first statement's fact holds. -/
theorem holds_entry {pc : PollPc} (ha : s.Armed d)
    (h : PollPc.entry (s.side d).len (s.side d).state = some pc) :
    pc.Holds (s.modify d fun h => { h with ready := false }) d ∧ pc.masking = false := by
  cases hst : (s.side d).state <;> simp only [PollPc.entry, hst] at h <;> cases h
  · split <;> exact ⟨trivial, rfl⟩
  · exact ⟨by simpa [PollPc.Holds] using ha hst, rfl⟩

/-- **Every step keeps the invariant.** -/
theorem Inv.step {a : SerialAction} (hi : s.Inv) (h : s.step a = some t) : t.Inv := by
  cases a with
  | poll d =>
    simp only [SerialSystem.step] at h
    split at h
    next pc hfg hentry =>
      cases h
      have hc : ∀ e, s.Served e := by simpa [hfg, Calm] using hi.calm
      obtain ⟨hp, hmask⟩ := holds_entry (hc d).1 hentry
      refine ⟨by simpa using hi.accesses_masked, by simpa [PollPc.Holds] using hp, ?_, fun _ => ?_⟩
      · simpa [Armed] using (hc d.other).1
      · simpa [Served, Armed] using hc d.other
    next => cases h
  | next =>
    simp only [SerialSystem.step] at h
    split at h
    next d pc hfg =>
      cases h
      have hc : s.Calm (some (d, pc)) := hfg ▸ hi.calm
      exact ⟨by simpa using exec_accesses hc.1 hi.accesses_masked,
        by simpa using (exec_calm hc.1 hc.2.1 hc.2.2).of_sides (fun e => by simp) (by simp)⟩
    next => cases h
  | done d => exact hi.interferes (interferes_done h)
  | irq => exact hi.interferes (interferes_irq h)
  | call d len =>
    simp only [SerialSystem.step] at h
    split at h
    next hguard =>
      cases h
      simp only [Bool.and_eq_true, Option.isNone_iff_eq_none, bne_iff_ne, ne_eq,
        decide_eq_true_eq] at hguard
      have hc : ∀ e, s.Served e := by simpa [hguard.1.1, Calm] using hi.calm
      refine ⟨by simpa using hi.accesses_masked, ?_⟩
      simp only [fg_modify, hguard.1.1]
      exact served_both d (by simp [Served, Armed]) (by simpa [Served, Armed] using hc d.other)
    next => cases h

theorem Inv.init : init.Inv :=
  ⟨by simp [SerialSystem.init], fun d => by cases d <;> simp [SerialSystem.init, Served, Armed, side]⟩

theorem Inv.run {as : List SerialAction} (hi : s.Inv) (h : s.run as = some t) : t.Inv := by
  induction as generalizing s with
  | nil => cases h; exact hi
  | cons a as ih =>
    obtain ⟨s', hstep, hrun⟩ := Option.bind_eq_some.mp h
    exact ih (hi.step hstep) hrun

theorem Reachable.inv (hs : s.Reachable) : s.Inv := by
  obtain ⟨as, h⟩ := hs
  exact Inv.init.run h

/-- **Between polls both directions are served**, in every reachable state. -/
theorem Reachable.served (hs : s.Reachable) (hfg : s.fg = none) (d : Dir) : s.Served d := by
  have hc := hs.inv.calm
  rw [hfg] at hc
  exact hc d

/-- **Every foreground write or take of `RX_WAKER` or `TX_WAKER` happens with
the line masked**, in every run. -/
theorem Reachable.waker_accesses_masked (hs : s.Reachable) : ∀ b ∈ s.accesses, b = true :=
  hs.inv.accesses_masked

/-- A read of one byte, started, ended and served by the handler. -/
theorem waker_accesses_masked_after_read :
    ∃ s, init.run [.call .rx 1, .poll .rx, .next, .next, .next, .next, .next, .next, .done .rx,
      .irq] = some s ∧ ∀ b ∈ s.accesses, b = true :=
  ⟨_, rfl, Reachable.waker_accesses_masked ⟨[.call .rx 1, .poll .rx, .next, .next, .next, .next,
    .next, .next, .done .rx, .irq], rfl⟩⟩

/-- **A transfer that has ended is never forgotten**: between polls, a future
`InProgress` whose end event is set has its task ready, or the line unmasked
with its waker installed.  The end event plays no part: every `InProgress`
future is served (`Reachable.served`). -/
theorem end_event_is_served (hs : s.Reachable) (hfg : s.fg = none) (d : Dir)
    (hst : (s.side d).state = .inProgress) (_hend : (s.side d).eventsEnd = true) :
    (s.side d).ready = true ∨ (s.masked = false ∧ (s.side d).waker = some d) := by
  obtain ⟨ha, hr⟩ := hs.served hfg d
  cases hm : s.masked
  · exact .inr ⟨rfl, ha hst⟩
  · exact .inl (hr hm hst)

/-- **No lost wake-up**: between polls, a future `InProgress` whose end event
is set has its task ready, or the interrupt is pending and the handler makes the
task ready. -/
theorem end_event_wakes (hs : s.Reachable) (hfg : s.fg = none) (d : Dir)
    (hst : (s.side d).state = .inProgress) (hend : (s.side d).eventsEnd = true) :
    (s.side d).ready = true ∨ ∃ t, s.step .irq = some t ∧ (t.side d).ready = true := by
  obtain ⟨ha, hr⟩ := hs.served hfg d
  cases hm : s.masked
  · refine .inr ⟨s.uarte0Uart0, ?_, by cases d <;> simp [side_uarte0Uart0, ha hst]⟩
    cases d <;> simp [SerialSystem.step, hend, hm]
  · exact .inl (hr hm hst)

/-- A read of one byte ends with the line unmasked: the pending interrupt wakes
its task. -/
theorem end_event_wakes_after_read :
    ∃ s, init.run [.call .rx 1, .poll .rx, .next, .next, .next, .next, .next, .next, .done .rx] =
      some s ∧ s.fg = none ∧ (s.side .rx).state = .inProgress ∧ (s.side .rx).eventsEnd = true ∧
      ((s.side .rx).ready = true ∨ ∃ t, s.step .irq = some t ∧ (t.side .rx).ready = true) :=
  ⟨_, rfl, rfl, rfl, rfl, end_event_wakes ⟨[.call .rx 1, .poll .rx, .next, .next, .next, .next,
    .next, .next, .done .rx], rfl⟩ rfl .rx rfl rfl⟩

/-- A read of one byte ends, and the handler wakes its task and masks the line:
the future is `InProgress` with `ENDRX` set, and its task is ready. -/
theorem end_event_is_served_after_interrupt :
    ∃ s, init.run [.call .rx 1, .poll .rx, .next, .next, .next, .next, .next, .next, .done .rx,
      .irq] = some s ∧ s.fg = none ∧ (s.side .rx).state = .inProgress ∧ (s.side .rx).eventsEnd = true ∧
      ((s.side .rx).ready = true ∨ (s.masked = false ∧ (s.side .rx).waker = some .rx)) :=
  ⟨_, rfl, rfl, rfl, rfl, end_event_is_served ⟨[.call .rx 1, .poll .rx, .next, .next, .next, .next,
    .next, .next, .done .rx, .irq], rfl⟩ rfl .rx rfl rfl⟩

end SerialSystem

end AsyncEmbedded.Nrf52
