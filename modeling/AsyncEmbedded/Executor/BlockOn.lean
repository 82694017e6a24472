import AsyncEmbedded.Basic

/-!
# `Executor::block_on` as a step function

`block_on` runs one loop in the foreground.  Each iteration clears
`task_woken`, polls the main future if its `ready` flag is set, reads the
length of the task table once (the statement marked `(A)`), polls every task
below that length whose flag is set, and then either starts the next iteration
(some poll happened) or calls the platform's `wait_for_event`.  A flag is read
by one atomic load and cleared by one atomic store just before the poll.

## What the model keeps

`BlockOn σ` is the loop's state: the program counter `pc` (one value per
statement of lines 67-123), the main future's `ready`, the ready flags of the
task table in table order, the locals `task_woken` and `len`, and the state `σ`
of the platform hooks.  `advance` runs the statement at `pc`.

Everything the loop does not control is an action of the environment:

* a poll returns, with a `PollEffect`: the flags its `wake` / `wake_by_ref`
  calls stored `true` into, whether it called `signal_event_ready`, and how
  many tasks it `spawn`ed (each new task starts with `ready = true`);
* an interrupt handler runs between any two statements, stores `true` into
  some flags, and acts on the platform state.

A poll is one step: interrupts that land during a poll are the same as
interrupts right after it, since the poll's own effect is arbitrary.  A
spawned task whose future completes, a `spawn` past `NTASKS` and a nested
`block_on` abort the program: those runs simply stop.

`Platform σ` abstracts the hooks: `signal_event_ready`, what an interrupt does
to the hook state, and `wait_for_event` as entering a wait that returns once
`canReturn` holds.  The ARM hooks (`sev` / `wfe`) and the RISC-V
`riscv-wait-wfi-single-hart` hooks are two instances (`Executor.Wake`).

Each step emits an `Event`: the start of a new iteration (`round`), a load of a
flag with the value read, the store of `false` that begins a poll (`clear`), the
return of a poll, an interrupt, or nothing observable.
-/

namespace AsyncEmbedded.Executor

/-- A computation the loop polls: the main future, or task `i` of the table. -/
inductive Comp
  | main
  | task (i : Nat)
  deriving DecidableEq, Repr

/-- **What a poll does that the loop can see**: the flags it stores `true`
into, whether it calls `signal_event_ready`, and how many tasks it spawns. -/
structure PollEffect where
  wakes : List Comp
  signal : Bool
  spawns : Nat
  deriving DecidableEq, Repr

/-- **The platform hooks.**  `σ` is their state; `wait_for_event` enters a
wait (`enterWait`) that returns (`exitWait`) once `canReturn` holds. -/
structure Platform (σ : Type) where
  signalEventReady : σ → σ
  interrupt : σ → σ
  enterWait : σ → σ
  canReturn : σ → Bool
  exitWait : σ → σ

/-! ## The hooks of `async-embedded` (lib.rs) -/

/-- **ARM** (`sev` / `wfe`): the hook state is the event register.
`signal_event_ready` (`sev`) sets it, and so does every interrupt;
`wait_for_event` (`wfe`) returns at once if it is set, clearing it, and
otherwise sleeps until the next event. -/
def Platform.arm : Platform Bool where
  signalEventReady _ := true
  interrupt _ := true
  enterWait h := h
  canReturn h := h
  exitWait _ := false

/-- **`riscv-wait-nop`**: both hooks do nothing, so `wait_for_event` never
sleeps. -/
def Platform.nop : Platform Unit where
  signalEventReady _ := ()
  interrupt _ := ()
  enterWait _ := ()
  canReturn _ := true
  exitWait _ := ()

/-- The state of the `riscv-wait-wfi-single-hart` hooks: `TASK_READY`, whether
the hart is in `wfi`, and whether an interrupt became pending since `wfi`
began. -/
structure WfiHook where
  taskReady : Bool
  inWfi : Bool
  pending : Bool
  deriving DecidableEq, Repr

/-- **`riscv-wait-wfi-single-hart`**: `signal_event_ready` sets `TASK_READY`;
`wait_for_event` returns at once when `TASK_READY` is set, and otherwise runs
`wfi`, which returns once an interrupt becomes pending after it started, and
then clears `TASK_READY` (lines 94-99). -/
def Platform.wfi : Platform WfiHook where
  signalEventReady h := { h with taskReady := true }
  interrupt h := { h with pending := true }
  enterWait h := if h.taskReady then h else { h with inWfi := true, pending := false }
  canReturn h := !h.inWfi || h.pending
  exitWait h := if h.inWfi then { h with taskReady := false, inWfi := false } else h

/-- The statements of the loop. -/
inductive Pc
  /-- Line 68: `let mut task_woken = false`. -/
  | top
  /-- Line 71: `ready.load(Ordering::Acquire)`. -/
  | loadMain
  /-- Lines 72-73: `task_woken = true; ready.store(false, ..)`. -/
  | clearMain
  /-- Lines 75-78: poll the main future. -/
  | pollMain
  /-- Line 84 `(A)`: `let len = tasks.len()`. -/
  | readLen
  /-- Lines 85-92: loop index `i`; `task.ready.load(..)` when `i < len`. -/
  | loadTask (i : Nat)
  /-- Lines 93-96: `task_woken = true; task.ready.store(false, ..)`. -/
  | clearTask (i : Nat)
  /-- Lines 100-111: poll task `i`. -/
  | pollTask (i : Nat)
  /-- Lines 115-122: `continue` if `task_woken`, else `wait_for_event()`. -/
  | sleep
  /-- Inside `wait_for_event`. -/
  | waiting
  /-- Line 124: `block_on` returned. -/
  | done
  deriving DecidableEq, Repr

/-- The loop is inside a poll: only its return, or an interrupt, comes next. -/
def Pc.polling : Pc → Bool
  | .pollMain | .pollTask _ => true
  | _ => false

/-- **The state of a running `block_on`.** -/
structure BlockOn (σ : Type) where
  pc : Pc
  ready : Bool
  tasks : List Bool
  taskWoken : Bool
  len : Nat
  hook : σ

/-- What the environment does next. -/
inductive Action
  /-- The loop runs its next statement (not a poll). -/
  | next
  /-- The poll the loop is in returns, with its effect and `Poll::Ready` or not. -/
  | poll (e : PollEffect) (ready : Bool)
  /-- An interrupt handler runs and stores `true` into `wakes`. -/
  | irq (wakes : List Comp)

/-- What a step shows. -/
inductive Event
  /-- The loop starts a new iteration (line 117 `continue`, or the return of
  `wait_for_event` at line 122). -/
  | round
  /-- The flag of `c` was loaded and read `b`. -/
  | load (c : Comp) (b : Bool)
  /-- The loop stored `false` into the flag of `c`: its poll begins. -/
  | clear (c : Comp)
  /-- `c` was polled. -/
  | poll (c : Comp) (e : PollEffect)
  /-- An interrupt handler ran. -/
  | irq (wakes : List Comp)
  /-- Any other statement. -/
  | internal
  deriving DecidableEq

namespace BlockOn

variable {σ : Type} (P : Platform σ)

/-- The ready flag of a computation (`false` past the end of the table). -/
def flag (s : BlockOn σ) : Comp → Bool
  | .main => s.ready
  | .task i => s.tasks.getD i false

/-- Whether the computation exists: the main future always, task `i` once spawned. -/
def has (s : BlockOn σ) : Comp → Bool
  | .main => true
  | .task i => decide (i < s.tasks.length)

/-- `wake` / `wake_by_ref`: `store(true, Ordering::Release)` into a flag. -/
def store (s : BlockOn σ) : Comp → BlockOn σ
  | .main => { s with ready := true }
  | .task i => { s with tasks := s.tasks.set i true }

/-- A list of `wake`s. -/
def storeAll (s : BlockOn σ) (cs : List Comp) : BlockOn σ := cs.foldl store s

/-- `n` calls of `Executor::spawn`: each pushes a task whose flag is `true`. -/
def spawn (s : BlockOn σ) (n : Nat) : BlockOn σ :=
  { s with tasks := s.tasks ++ List.replicate n true }

/-- A poll effect the program survives: the table has room for its spawns
(`push` fails and aborts otherwise), and it wakes existing computations. -/
def fits (s : BlockOn σ) (e : PollEffect) : Bool :=
  decide (s.tasks.length + e.spawns ≤ NTASKS) && e.wakes.all (s.spawn e.spawns).has

/-- The state after a poll's own effect. -/
def afterPoll (s : BlockOn σ) (e : PollEffect) : BlockOn σ :=
  let s₁ := (s.spawn e.spawns).storeAll e.wakes
  if e.signal then { s₁ with hook := P.signalEventReady s₁.hook } else s₁

/-- **The loop's next statement**, other than a poll.  `none` while it waits
for a poll to return, while `wait_for_event` cannot return yet, and after
`block_on` returned. -/
def advance (s : BlockOn σ) : Option (Event × BlockOn σ) :=
  match s.pc with
  | .top => some (.internal, { s with pc := .loadMain, taskWoken := false })
  | .loadMain => some (.load .main s.ready, { s with pc := if s.ready then .clearMain else .readLen })
  | .clearMain => some (.clear .main, { s with pc := .pollMain, taskWoken := true, ready := false })
  | .readLen => some (.internal, { s with pc := .loadTask 0, len := s.tasks.length })
  | .loadTask i =>
    if i < s.len then
      some (.load (.task i) (s.flag (.task i)),
        { s with pc := if s.flag (.task i) then .clearTask i else .loadTask (i + 1) })
    else some (.internal, { s with pc := .sleep })
  | .clearTask i =>
    some (.clear (.task i), { s with pc := .pollTask i, taskWoken := true, tasks := s.tasks.set i false })
  | .sleep =>
    if s.taskWoken then some (.round, { s with pc := .top })
    else some (.internal, { s with pc := .waiting, hook := P.enterWait s.hook })
  | .waiting =>
    if P.canReturn s.hook then some (.round, { s with pc := .top, hook := P.exitWait s.hook })
    else none
  | .pollMain | .pollTask _ | .done => none

/-- **A poll returns** with effect `e`; `r` is `Poll::Ready`.  The main future's
`Ready` ends `block_on`; a task's aborts the program. -/
def pollReturns (s : BlockOn σ) (e : PollEffect) (r : Bool) : Option (Event × BlockOn σ) :=
  if s.fits e then
    match s.pc, r with
    | .pollMain, _ => some (.poll .main e, { s.afterPoll P e with pc := if r then .done else .readLen })
    | .pollTask i, false => some (.poll (.task i) e, { s.afterPoll P e with pc := .loadTask (i + 1) })
    | _, _ => none
  else none

/-- **An interrupt handler** stores `true` into existing flags and acts on the
platform state; it can run at any point before `block_on` returns. -/
def interrupt (s : BlockOn σ) (wakes : List Comp) : Option (Event × BlockOn σ) :=
  if s.pc ≠ .done ∧ wakes.all s.has then
    some (.irq wakes, { s.storeAll wakes with hook := P.interrupt s.hook })
  else none

/-- **One step** of `block_on` and its environment. -/
def step (s : BlockOn σ) : Action → Option (Event × BlockOn σ)
  | .next => s.advance P
  | .poll e r => s.pollReturns P e r
  | .irq wakes => s.interrupt P wakes

/-- `block_on` called with the table's flags `flags` and the hooks in state
`h`: `ready` starts `true`. -/
def init (flags : List Bool) (h : σ) : BlockOn σ := ⟨.top, true, flags, false, 0, h⟩

/-! ### What stores, spawns and polls change -/

variable {P}

@[simp] theorem store_pc (s : BlockOn σ) (c : Comp) : (s.store c).pc = s.pc := by cases c <;> rfl
@[simp] theorem store_len (s : BlockOn σ) (c : Comp) : (s.store c).len = s.len := by cases c <;> rfl
@[simp] theorem store_taskWoken (s : BlockOn σ) (c : Comp) :
    (s.store c).taskWoken = s.taskWoken := by cases c <;> rfl
@[simp] theorem store_hook (s : BlockOn σ) (c : Comp) : (s.store c).hook = s.hook := by cases c <;> rfl
@[simp] theorem store_tasks_length (s : BlockOn σ) (c : Comp) :
    (s.store c).tasks.length = s.tasks.length := by cases c <;> simp [store]

/-- Only an existing task can have its flag set. -/
theorem lt_of_flag_task {s : BlockOn σ} {i : Nat} (h : s.flag (.task i) = true) :
    i < s.tasks.length := by
  by_contra hi
  simp [flag, List.getElem?_eq_none (Nat.le_of_not_lt hi)] at h

/-- A store creates no computation. -/
@[simp] theorem has_store (s : BlockOn σ) (c z : Comp) : (s.store c).has z = s.has z := by
  cases z <;> simp [has]

/-- A store only sets flags. -/
theorem flag_store {s : BlockOn σ} {z : Comp} (c : Comp) (h : s.flag z = true) :
    (s.store c).flag z = true := by
  cases c with
  | main => cases z <;> simp_all [store, flag]
  | task j =>
    cases z with
    | main => exact h
    | task i =>
      have hi := lt_of_flag_task h
      simp only [flag, store, List.getD_eq_getElem?_getD, List.getElem?_set] at h ⊢
      split <;> simp_all

theorem storeAll_cons (s : BlockOn σ) (c : Comp) (cs : List Comp) :
    s.storeAll (c :: cs) = (s.store c).storeAll cs := rfl

@[simp] theorem storeAll_pc (s : BlockOn σ) (cs : List Comp) : (s.storeAll cs).pc = s.pc := by
  induction cs generalizing s <;> simp_all [storeAll_cons, storeAll]
@[simp] theorem storeAll_len (s : BlockOn σ) (cs : List Comp) : (s.storeAll cs).len = s.len := by
  induction cs generalizing s <;> simp_all [storeAll_cons, storeAll]
@[simp] theorem storeAll_taskWoken (s : BlockOn σ) (cs : List Comp) :
    (s.storeAll cs).taskWoken = s.taskWoken := by
  induction cs generalizing s <;> simp_all [storeAll_cons, storeAll]
@[simp] theorem storeAll_hook (s : BlockOn σ) (cs : List Comp) : (s.storeAll cs).hook = s.hook := by
  induction cs generalizing s <;> simp_all [storeAll_cons, storeAll]
@[simp] theorem storeAll_tasks_length (s : BlockOn σ) (cs : List Comp) :
    (s.storeAll cs).tasks.length = s.tasks.length := by
  induction cs generalizing s <;> simp_all [storeAll_cons, storeAll]

theorem flag_storeAll {s : BlockOn σ} {z : Comp} (cs : List Comp) (h : s.flag z = true) :
    (s.storeAll cs).flag z = true := by
  induction cs generalizing s with
  | nil => exact h
  | cons c cs ih => exact ih (flag_store c h)

/-- Spawning leaves the existing flags alone. -/
theorem flag_spawn {s : BlockOn σ} {z : Comp} (n : Nat) (h : s.flag z = true) :
    (s.spawn n).flag z = true := by
  cases z with
  | main => exact h
  | task i =>
    simp only [flag, spawn, List.getD_eq_getElem?_getD] at h ⊢
    rcases Nat.lt_or_ge i s.tasks.length with hi | hi
    · rwa [List.getElem?_append_left hi]
    · simp [List.getElem?_eq_none hi] at h

@[simp] theorem afterPoll_pc (s : BlockOn σ) (e : PollEffect) : (s.afterPoll P e).pc = s.pc := by
  unfold afterPoll; split <;> simp [spawn]
@[simp] theorem afterPoll_len (s : BlockOn σ) (e : PollEffect) : (s.afterPoll P e).len = s.len := by
  unfold afterPoll; split <;> simp [spawn]
@[simp] theorem afterPoll_taskWoken (s : BlockOn σ) (e : PollEffect) :
    (s.afterPoll P e).taskWoken = s.taskWoken := by
  unfold afterPoll; split <;> simp [spawn]
@[simp] theorem afterPoll_tasks_length (s : BlockOn σ) (e : PollEffect) :
    (s.afterPoll P e).tasks.length = s.tasks.length + e.spawns := by
  unfold afterPoll; split <;> simp [spawn]

@[simp] theorem afterPoll_hook (s : BlockOn σ) (e : PollEffect) :
    (s.afterPoll P e).hook = if e.signal then P.signalEventReady s.hook else s.hook := by
  unfold afterPoll; split <;> simp_all [spawn]

/-- A `wake` sets the flag of an existing computation. -/
theorem flag_store_self {s : BlockOn σ} {c : Comp} (h : s.has c = true) :
    (s.store c).flag c = true := by
  cases c with
  | main => rfl
  | task i =>
    simp only [has, decide_eq_true_eq] at h
    simp [store, flag, List.getD_eq_getElem?_getD, h]

theorem flag_storeAll_of_mem {s : BlockOn σ} {c : Comp} {cs : List Comp} (hc : c ∈ cs)
    (hall : cs.all s.has = true) : (s.storeAll cs).flag c = true := by
  induction cs generalizing s with
  | nil => cases hc
  | cons d cs ih =>
    simp only [List.all_cons, Bool.and_eq_true] at hall
    rw [storeAll_cons]
    rcases List.mem_cons.mp hc with rfl | hc
    · exact flag_storeAll cs (flag_store_self hall.1)
    · exact ih hc (by simpa using hall.2)

/-- A poll's `wake`s set their flags. -/
theorem flag_afterPoll_of_mem {s : BlockOn σ} {c : Comp} {e : PollEffect} (hc : c ∈ e.wakes)
    (hfit : s.fits e = true) : (s.afterPoll P e).flag c = true := by
  simp only [fits, Bool.and_eq_true] at hfit
  have := flag_storeAll_of_mem hc hfit.2
  unfold afterPoll; split <;> simpa [flag] using this

/-- A poll only sets flags. -/
theorem flag_afterPoll {s : BlockOn σ} {z : Comp} (e : PollEffect) (h : s.flag z = true) :
    (s.afterPoll P e).flag z = true := by
  have := flag_storeAll e.wakes (flag_spawn e.spawns h)
  unfold afterPoll; split <;> simpa [flag] using this

/-- **The loop always has a next statement**, unless it is inside a poll, has
returned, or waits in a `wait_for_event` that cannot return yet. -/
theorem advance_isSome {s : BlockOn σ} (hd : s.pc ≠ .done) (hp : s.pc.polling = false)
    (hw : s.pc = .waiting → P.canReturn s.hook = true) : (s.advance P).isSome = true := by
  unfold advance
  split <;> (try split) <;> simp_all [Pc.polling]

/-- So a loop that is not blocked in `wait_for_event` goes on, unless it is
inside a poll or has returned. -/
theorem progress {s : BlockOn σ} (hw : s.pc = .waiting → P.canReturn s.hook = true) :
    s.pc = .done ∨ s.pc.polling = true ∨ (s.advance P).isSome = true := by
  by_cases hd : s.pc = .done
  · exact .inl hd
  · cases hp : s.pc.polling
    · exact .inr (.inr (advance_isSome hd hp hw))
    · exact .inr (.inl rfl)

end BlockOn

open BlockOn

variable {σ : Type} (P : Platform σ)

/-- **The steps, one constructor per statement**: the shape of every step
`step` can take (`Step.of_step`). -/
inductive Step : BlockOn σ → Event → BlockOn σ → Prop
  | top {s : BlockOn σ} : s.pc = .top → Step s .internal { s with pc := .loadMain, taskWoken := false }
  | loadMain {s : BlockOn σ} : s.pc = .loadMain →
      Step s (.load .main s.ready) { s with pc := if s.ready then .clearMain else .readLen }
  | clearMain {s : BlockOn σ} : s.pc = .clearMain →
      Step s (.clear .main) { s with pc := .pollMain, taskWoken := true, ready := false }
  | pollMain {s : BlockOn σ} (e : PollEffect) (r : Bool) : s.pc = .pollMain → s.fits e = true →
      Step s (.poll .main e) { s.afterPoll P e with pc := if r then .done else .readLen }
  | readLen {s : BlockOn σ} : s.pc = .readLen →
      Step s .internal { s with pc := .loadTask 0, len := s.tasks.length }
  | loadTask {s : BlockOn σ} {i : Nat} : s.pc = .loadTask i → i < s.len →
      Step s (.load (.task i) (s.flag (.task i)))
        { s with pc := if s.flag (.task i) then .clearTask i else .loadTask (i + 1) }
  | endLoop {s : BlockOn σ} {i : Nat} : s.pc = .loadTask i → s.len ≤ i →
      Step s .internal { s with pc := .sleep }
  | clearTask {s : BlockOn σ} {i : Nat} : s.pc = .clearTask i →
      Step s (.clear (.task i)) { s with pc := .pollTask i, taskWoken := true, tasks := s.tasks.set i false }
  | pollTask {s : BlockOn σ} {i : Nat} (e : PollEffect) : s.pc = .pollTask i → s.fits e = true →
      Step s (.poll (.task i) e) { s.afterPoll P e with pc := .loadTask (i + 1) }
  | proceed {s : BlockOn σ} : s.pc = .sleep → s.taskWoken = true → Step s .round { s with pc := .top }
  | sleep {s : BlockOn σ} : s.pc = .sleep → s.taskWoken = false →
      Step s .internal { s with pc := .waiting, hook := P.enterWait s.hook }
  | wake {s : BlockOn σ} : s.pc = .waiting → P.canReturn s.hook = true →
      Step s .round { s with pc := .top, hook := P.exitWait s.hook }
  | irq {s : BlockOn σ} (wakes : List Comp) : s.pc ≠ .done → wakes.all s.has = true →
      Step s (.irq wakes) { s.storeAll wakes with hook := P.interrupt s.hook }

/-- Every step of `step` is one of the statements. -/
theorem Step.of_step {s t : BlockOn σ} {e : Event} {a : Action} (h : s.step P a = some (e, t)) :
    Step P s e t := by
  cases a with
  | next =>
    simp only [step, advance] at h
    split at h
    · cases h; exact .top ‹_›
    · cases h; exact .loadMain ‹_›
    · cases h; exact .clearMain ‹_›
    · cases h; exact .readLen ‹_›
    · split at h
      · cases h; exact .loadTask ‹_› ‹_›
      · cases h; exact .endLoop ‹_› (Nat.le_of_not_lt ‹_›)
    · cases h; exact .clearTask ‹_›
    · split at h
      · cases h; exact .proceed ‹_› ‹_›
      · cases h; exact .sleep ‹_› (by simpa using ‹¬s.taskWoken = true›)
    · split at h
      · cases h; exact .wake ‹_› ‹_›
      · cases h
    all_goals cases h
  | poll eff r =>
    simp only [step, pollReturns] at h
    split at h
    · split at h
      · cases h; exact .pollMain eff _ ‹_› ‹_›
      · cases h; exact .pollTask eff ‹_› ‹_›
      · cases h
    · cases h
  | irq ws =>
    simp only [step, interrupt] at h
    split at h
    · obtain ⟨hpc, hall⟩ := ‹_ ∧ _›
      cases h; exact .irq ws hpc hall
    · cases h

/-- **Runs**: a sequence of steps and the events they show. -/
inductive Run : BlockOn σ → List Event → BlockOn σ → Prop
  | refl (s : BlockOn σ) : Run s [] s
  | step {s t u : BlockOn σ} {e : Event} {es : List Event} (a : Action) :
      s.step P a = some (e, t) → Run t es u → Run s (e :: es) u

/-- **A run driven by a list of actions**, computed: its events and last state,
or `none` when an action is not possible. -/
def BlockOn.exec (s : BlockOn σ) : List Action → Option (List Event × BlockOn σ)
  | [] => some ([], s)
  | a :: as =>
    match s.step P a with
    | some (e, t) => (t.exec as).map fun r => (e :: r.1, r.2)
    | none => none

/-- **The states a `block_on` call can reach**, from any table of at most
`NTASKS` tasks and any state of the hooks. -/
def Reachable (s : BlockOn σ) : Prop :=
  ∃ flags h es, flags.length ≤ NTASKS ∧ Run P (BlockOn.init flags h) es s

variable {P}

namespace Run

/-- The first step of a run, as a statement. -/
theorem cons_inv {s u : BlockOn σ} {e : Event} {es : List Event} (h : Run P s (e :: es) u) :
    ∃ t, Step P s e t ∧ Run P t es u := by
  cases h with
  | step a hst hr => exact ⟨_, Step.of_step P hst, hr⟩

theorem append {s m u : BlockOn σ} {es₁ es₂ : List Event} (h₁ : Run P s es₁ m)
    (h₂ : Run P m es₂ u) : Run P s (es₁ ++ es₂) u := by
  induction h₁ with
  | refl => exact h₂
  | step a hst _ ih => exact .step a hst (ih h₂)

/-- A run splits at any point of its events. -/
theorem of_append {s u : BlockOn σ} {es₁ es₂ : List Event} (h : Run P s (es₁ ++ es₂) u) :
    ∃ m, Run P s es₁ m ∧ Run P m es₂ u := by
  induction es₁ generalizing s with
  | nil => exact ⟨s, .refl s, h⟩
  | cons e es₁ ih =>
    cases h with
    | step a hst hr =>
      obtain ⟨m, h₁, h₂⟩ := ih hr
      exact ⟨m, .step a hst h₁, h₂⟩

/-- `exec` computes runs. -/
theorem of_exec {s u : BlockOn σ} {es : List Event} (as : List Action)
    (h : s.exec P as = some (es, u)) : Run P s es u := by
  induction as generalizing s es with
  | nil => cases h; exact .refl _
  | cons a as ih =>
    simp only [BlockOn.exec] at h
    split at h
    · obtain ⟨⟨es', u'⟩, hr, he⟩ := Option.map_eq_some'.mp h
      cases he
      exact .step a ‹_› (ih hr)
    · cases h

end Run

/-- A step from a reachable state reaches a reachable state. -/
theorem Reachable.step {s t : BlockOn σ} {a : Action} {e : Event} (hs : Reachable P s)
    (h : s.step P a = some (e, t)) : Reachable P t := by
  obtain ⟨flags, hk, es, hlen, hr⟩ := hs
  exact ⟨flags, hk, es ++ [e], hlen, hr.append (.step a h (.refl t))⟩

end AsyncEmbedded.Executor
