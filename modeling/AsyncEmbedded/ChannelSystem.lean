import AsyncEmbedded.Channel

/-!
# Channel futures (`Channel::send`, `Channel::recv`)

`send(v)` returns a `Send` future holding the message and an `opt_key`; each
poll takes the message, removes the previous registry key, and calls
`try_send`, re-registering under a new key when the buffer is full.
`recv()` returns a `Recv` future that does the same with `try_recv` on the
receiving side.  Unlike `Lock`, neither future has a `Drop` impl: a future
dropped while registered leaves its entry in the registry.

`ChannelSystem` is one channel with the futures created on it.  A waker is the
index of the future whose task polled it, on its own side.  Its actions are the
program's: create, poll or drop a future, or call `try_send` / `try_recv`
directly.  `recv_entry_outlives_dropped_future` is the shortest run in which an
entry is left behind by a dropped future.

The futures only reach the ring buffer through `try_send` and `try_recv`, and
their registry work changes nothing that `Represents` reads.  So every
interleaving of them is a run of the FIFO on the calls it makes
(`interleaving_is_fifo`), the refinement of `Channel.new_run_is_fifo` lifted
from sequences of calls to the futures, and a `Recv` gets the head of that
queue (`recv_gets_oldest`).  And a drop is the only way to leave an
entry behind: in a run without one, every occupied key is the `opt_key` of a
live future of its side (`entries_owned_without_drops`).  So in such a run,
while at most `NTASKS` futures of a side are alive, no poll panics
(`polls_defined_without_drops`); one more live `Send` on a full channel does
hit the registry's `expect("OOM")`.
-/

namespace AsyncEmbedded

variable {α : Type}

/-- A `Send` future: alive with the message it still holds and its `opt_key`,
or finished (completed or dropped). -/
inductive SendState (α : Type)
  | alive (msg : Option α) (optKey : Option Nat)
  | finished
  deriving DecidableEq

/-- A `Recv` future: alive with its `opt_key`, or finished. -/
inductive RecvState
  | alive (optKey : Option Nat)
  | finished
  deriving DecidableEq

namespace Channel

/-- **`Send::poll`** of a `Send` holding `msg` and `optKey`, with waker `wk`:
the channel and the future's fields afterwards, and whether it is ready.
`none` is a panic: `expect("UNREACHABLE")` on a missing message, or the
registry's `OOM`. -/
def pollSend (w : Nat) (c : Channel α) (msg : Option α) (optKey : Option Nat) (wk : Nat) :
    Option (Channel α × SendState α × Bool) :=
  match msg with
  | none => none
  | some v =>
    let c₁ := { c with sendWakers := c.sendWakers.removeOpt optKey }
    match c₁.trySend w v with
    | .ok c₂ => some (c₂, .finished, true)
    | .error v =>
      (c₁.sendWakers.insert wk).map fun r =>
        ({ c₁ with sendWakers := r.1 }, .alive (some v) (some r.2), false)

/-- **`Recv::poll`** of a `Recv` holding `optKey`, with waker `wk`: the channel,
the future afterwards, and the received value when ready.  `none` is the
registry's `OOM` panic or an uninitialised read. -/
def pollRecv (w : Nat) (c : Channel α) (optKey : Option Nat) (wk : Nat) :
    Option (Channel α × RecvState × Option α) :=
  let c₁ := { c with recvWakers := c.recvWakers.removeOpt optKey }
  match c₁.tryRecv w with
  | some (some v, c₂) => some (c₂, .finished, some v)
  | some (none, c₂) =>
    (c₂.recvWakers.insert wk).map fun r => ({ c₂ with recvWakers := r.1 }, .alive (some r.2), none)
  | none => none

end Channel

/-- One channel and the `Send` and `Recv` futures created on it, by index. -/
structure ChannelSystem (α : Type) where
  chan : Channel α
  sends : List (SendState α)
  recvs : List RecvState

/-- What the program can do next. -/
inductive ChannelAction (α : Type)
  /-- `Channel::send(v)` creates a `Send` future. -/
  | send (v : α)
  /-- `Channel::recv()` creates a `Recv` future. -/
  | recv
  /-- `Send` future `i` is polled by its task. -/
  | pollSend (i : Nat)
  /-- `Recv` future `i` is polled by its task. -/
  | pollRecv (i : Nat)
  /-- `Send` future `i` is dropped (no `Drop` impl runs). -/
  | dropSend (i : Nat)
  /-- `Recv` future `i` is dropped (no `Drop` impl runs). -/
  | dropRecv (i : Nat)
  /-- `Channel::try_send(v)` from outside a future. -/
  | trySend (v : α)
  /-- `Channel::try_recv()` from outside a future. -/
  | tryRecv

namespace ChannelSystem

/-- A fresh channel. -/
def init : ChannelSystem α := ⟨Channel.new, [], []⟩

/-- **One action** at `usize` width `w`; `none` when it is not possible or
panics. -/
def step (w : Nat) (s : ChannelSystem α) : ChannelAction α → Option (ChannelSystem α)
  | .send v => some { s with sends := s.sends ++ [.alive (some v) none] }
  | .recv => some { s with recvs := s.recvs ++ [.alive none] }
  | .pollSend i =>
    match s.sends[i]? with
    | some (.alive msg k) =>
      (s.chan.pollSend w msg k i).map fun r => ⟨r.1, s.sends.set i r.2.1, s.recvs⟩
    | _ => none
  | .pollRecv i =>
    match s.recvs[i]? with
    | some (.alive k) => (s.chan.pollRecv w k i).map fun r => ⟨r.1, s.sends, s.recvs.set i r.2.1⟩
    | _ => none
  | .dropSend i =>
    match s.sends[i]? with
    | some (.alive _ _) => some { s with sends := s.sends.set i .finished }
    | _ => none
  | .dropRecv i =>
    match s.recvs[i]? with
    | some (.alive _) => some { s with recvs := s.recvs.set i .finished }
    | _ => none
  | .trySend v =>
    match s.chan.trySend w v with
    | .ok c => some { s with chan := c }
    | .error _ => some s
  | .tryRecv => (s.chan.tryRecv w).map fun r => { s with chan := r.2 }

/-- A sequence of actions. -/
def run (w : Nat) (s : ChannelSystem α) : List (ChannelAction α) → Option (ChannelSystem α)
  | [] => some s
  | a :: as => (s.step w a).bind fun s' => s'.run w as

/-- **Every registry entry belongs to a live future of its side**: each
occupied key of `recv_wakers` is the `opt_key` of a live `Recv`, and each
occupied key of `send_wakers` that of a live `Send`. -/
def EntriesOwned (s : ChannelSystem α) : Prop :=
  (∀ k < s.chan.recvWakers.entries.slots.length,
    s.chan.recvWakers.entries.slots[k]? ≠ some none → RecvState.alive (some k) ∈ s.recvs) ∧
  (∀ k < s.chan.sendWakers.entries.slots.length,
    s.chan.sendWakers.entries.slots[k]? ≠ some none → ∃ msg, SendState.alive msg (some k) ∈ s.sends)

/-- **A dropped `Recv` leaves its entry behind.**  A `Recv` polled on an empty
channel registers under key 0; dropping it runs no registry code, so key 0
keeps a present waker that no live future owns.  The next `try_send` will
spend its `notify_one` on it. -/
theorem recv_entry_outlives_dropped_future :
    ∃ s : ChannelSystem Nat, init.run 32 [.recv, .pollRecv 0, .dropRecv 0] = some s ∧
      0 < s.chan.recvWakers.live ∧ ¬ s.EntriesOwned := by
  refine ⟨_, rfl, by decide, fun h => ?_⟩
  exact absurd (h.1 0 (by decide) (by decide)) (by decide)

end ChannelSystem

/-! ## Every interleaving is a run of the FIFO -/

namespace Channel

/-- `Represents` reads only the buffer and the cursors: a channel that agrees
with `c` on them holds the same queue, whatever its registries. -/
theorem Represents.congr {w : Nat} {c c' : Channel α} {q : List α} (h : Represents w c q)
    (hb : c'.buffer = c.buffer) (hr : c'.read = c.read) (hw : c'.write = c.write) :
    Represents w c' q where
  read_le_write := hr ▸ hw ▸ h.read_le_write
  length_eq := hr ▸ hw ▸ h.length_eq
  length_le := h.length_le
  write_lt := hw ▸ h.write_lt
  slot j hj := hb ▸ hr ▸ h.slot j hj

/-- **A poll of a `Send` holding `v` is a `try_send(v)`** on the queue; its
registry work does not touch the buffer. -/
theorem pollSend_represents {w : Nat} {c : Channel α} {q : List α} (h : Represents w c q)
    (hw : c.read + NTASKS < 2 ^ w) {v : α} {k : Option Nat} {wk : Nat} {r}
    (hp : c.pollSend w (some v) k wk = some r) :
    Represents w r.1 (Fifo.apply q (.send v)) ∧ r.1.read = c.read := by
  have h₁ : Represents w { c with sendWakers := c.sendWakers.removeOpt k } q := h.congr rfl rfl rfl
  by_cases hlt : q.length < NTASKS
  · obtain ⟨c', hs, h', hr⟩ := trySend_of_lt h₁ hw hlt v
    simp only [pollSend, hs, Option.some.injEq] at hp
    subst hp
    exact ⟨by simpa [Fifo.apply, hlt] using h', hr⟩
  · have hfull : q.length = NTASKS := le_antisymm h.length_le (not_lt.mp hlt)
    simp only [pollSend, trySend_of_full h₁ hfull v, Option.map_eq_some'] at hp
    obtain ⟨_, -, rfl⟩ := hp
    exact ⟨by rw [Fifo.apply, if_neg hlt]; exact h.congr rfl rfl rfl, rfl⟩

/-- A poll of a `Send` never leaves it alive without its message. -/
theorem pollSend_keeps_msg {w : Nat} {c : Channel α} {msg : Option α} {k : Option Nat} {wk : Nat}
    {r} (hp : c.pollSend w msg k wk = some r) (k' : Option Nat) : r.2.1 ≠ .alive none k' := by
  dsimp only [pollSend] at hp
  split at hp
  · cases hp
  · split at hp
    · cases hp
      simp
    · obtain ⟨_, -, rfl⟩ := Option.map_eq_some'.mp hp
      simp

/-- **A poll of a `Recv` is a `try_recv`** on the queue, and the value it
returns is the oldest one queued. -/
theorem pollRecv_represents {w : Nat} {c : Channel α} {q : List α} (h : Represents w c q)
    {k : Option Nat} {wk : Nat} {r} (hp : c.pollRecv w k wk = some r) :
    Represents w r.1 (Fifo.apply q .recv) ∧ r.1.read ≤ c.read + 1 ∧ r.2.2 = q.head? := by
  have h₁ : Represents w { c with recvWakers := c.recvWakers.removeOpt k } q := h.congr rfl rfl rfl
  cases q with
  | nil =>
    simp only [pollRecv, tryRecv_of_nil h₁, Option.map_eq_some'] at hp
    obtain ⟨_, -, rfl⟩ := hp
    exact ⟨h.congr rfl rfl rfl, Nat.le_succ _, rfl⟩
  | cons v q =>
    obtain ⟨c', hr, h', hread⟩ := tryRecv_of_cons h₁
    simp only [pollRecv, hr, Option.some.injEq] at hp
    subst hp
    exact ⟨h', hread.le, rfl⟩

/-- A direct call acts as `apply_represents` says: `apply` is a function. -/
theorem apply_refines {w : Nat} {c c' : Channel α} {q : List α} (h : Represents w c q)
    (hw : c.read + NTASKS < 2 ^ w) {op : ChanOp α} (happ : c.apply w op = some c') :
    Represents w c' (Fifo.apply q op) ∧ c'.read ≤ c.read + 1 := by
  obtain ⟨c'', happ', h', hread⟩ := apply_represents h hw op
  cases happ.symm.trans happ'
  exact ⟨h', hread⟩

/-- Below the wrap point `try_recv` never reads an uninitialised slot. -/
theorem tryRecv_isSome {w : Nat} {c : Channel α} {q : List α} (h : Represents w c q) :
    (c.tryRecv w).isSome := by
  cases q with
  | nil => simp [tryRecv_of_nil h]
  | cons v q =>
    obtain ⟨c', hr, -⟩ := tryRecv_of_cons h
    simp [hr]

end Channel

namespace ChannelSystem

open Channel

/-- **What one action does**, one constructor per action that can take place:
the inversion of `step`.  A poll of a `Send` without its message and a
`try_recv` that reads an uninitialised slot are not steps. -/
inductive Step (w : Nat) : ChannelSystem α → ChannelAction α → ChannelSystem α → Prop
  | send {s : ChannelSystem α} (v : α) :
      Step w s (.send v) { s with sends := s.sends ++ [.alive (some v) none] }
  | recv {s : ChannelSystem α} : Step w s .recv { s with recvs := s.recvs ++ [.alive none] }
  | pollSend {s : ChannelSystem α} {i : Nat} {v : α} {k : Option Nat} {r} :
      s.sends[i]? = some (.alive (some v) k) → s.chan.pollSend w (some v) k i = some r →
      Step w s (.pollSend i) ⟨r.1, s.sends.set i r.2.1, s.recvs⟩
  | pollRecv {s : ChannelSystem α} {i : Nat} {k : Option Nat} {r} :
      s.recvs[i]? = some (.alive k) → s.chan.pollRecv w k i = some r →
      Step w s (.pollRecv i) ⟨r.1, s.sends, s.recvs.set i r.2.1⟩
  | dropSend {s : ChannelSystem α} {i : Nat} {msg : Option α} {k : Option Nat} :
      s.sends[i]? = some (.alive msg k) →
      Step w s (.dropSend i) { s with sends := s.sends.set i .finished }
  | dropRecv {s : ChannelSystem α} {i : Nat} {k : Option Nat} :
      s.recvs[i]? = some (.alive k) →
      Step w s (.dropRecv i) { s with recvs := s.recvs.set i .finished }
  | trySend {s : ChannelSystem α} {v : α} {c : Channel α} :
      s.chan.apply w (.send v) = some c → Step w s (.trySend v) { s with chan := c }
  | tryRecv {s : ChannelSystem α} {c : Channel α} :
      s.chan.apply w .recv = some c → Step w s .tryRecv { s with chan := c }

theorem Step.of_step {w : Nat} {s t : ChannelSystem α} {a : ChannelAction α}
    (h : s.step w a = some t) : Step w s a t := by
  cases a with
  | send v => cases h; exact .send v
  | recv => cases h; exact .recv
  | pollSend i =>
    simp only [ChannelSystem.step] at h
    split at h
    · next msg k hi =>
      obtain ⟨r, hr, rfl⟩ := Option.map_eq_some'.mp h
      cases msg with
      | none => simp [Channel.pollSend] at hr
      | some v => exact .pollSend hi hr
    · cases h
  | pollRecv i =>
    simp only [ChannelSystem.step] at h
    split at h
    · obtain ⟨r, hr, rfl⟩ := Option.map_eq_some'.mp h
      exact .pollRecv ‹_› hr
    · cases h
  | dropSend i =>
    simp only [ChannelSystem.step] at h
    split at h
    · cases h; exact .dropSend ‹_›
    · cases h
  | dropRecv i =>
    simp only [ChannelSystem.step] at h
    split at h
    · cases h; exact .dropRecv ‹_›
    · cases h
  | trySend v =>
    simp only [ChannelSystem.step] at h
    split at h <;> cases h <;> exact .trySend (by simp [apply, *])
  | tryRecv =>
    simp only [ChannelSystem.step] at h
    obtain ⟨r, hr, rfl⟩ := Option.map_eq_some'.mp h
    exact .tryRecv (by simp [apply, hr])

/-- **The channel call an action makes**: a poll of a live `Send` holding `v`
calls `try_send(v)`, a poll of a live `Recv` calls `try_recv`, and so do the
direct calls; creating or dropping a future calls nothing. -/
def call (s : ChannelSystem α) : ChannelAction α → Option (ChanOp α)
  | .pollSend i =>
    match s.sends[i]? with
    | some (.alive (some v) _) => some (.send v)
    | _ => none
  | .pollRecv i =>
    match s.recvs[i]? with
    | some (.alive _) => some .recv
    | _ => none
  | .trySend v => some (.send v)
  | .tryRecv => some .recv
  | _ => none

/-- The calls a run makes, in order, as far as it goes. -/
def calls (w : Nat) (s : ChannelSystem α) : List (ChannelAction α) → List (ChanOp α)
  | [] => []
  | a :: as => (s.call a).toList ++ ((s.step w a).map fun t => t.calls w as).getD []

/-- **Every live `Send` still holds its message**, so the
`expect("UNREACHABLE")` of `Send::poll` cannot fire. -/
def SendsHold (s : ChannelSystem α) : Prop := ∀ k, SendState.alive none k ∉ s.sends

theorem SendsHold.step {w : Nat} {s t : ChannelSystem α} {a : ChannelAction α}
    (hs : s.SendsHold) (h : Step w s a t) : t.SendsHold := by
  intro k hk
  cases h with
  | send v =>
    rcases List.mem_append.mp hk with hk | hk
    · exact hs k hk
    · simp at hk
  | pollSend _ hr =>
    rcases List.mem_or_eq_of_mem_set hk with hk | hk
    · exact hs k hk
    · exact pollSend_keeps_msg hr k hk.symm
  | dropSend _ =>
    rcases List.mem_or_eq_of_mem_set hk with hk | hk
    · exact hs k hk
    · cases hk
  | _ => exact hs k hk

/-- **One step moves the buffer as the FIFO moves on the call it makes**, below
the wrap point, and advances `read` by at most one. -/
theorem step_refines_fifo {w : Nat} {s t : ChannelSystem α} {a : ChannelAction α} {q : List α}
    (hq : Represents w s.chan q) (hw : s.chan.read + NTASKS < 2 ^ w) (h : Step w s a t) :
    Represents w t.chan (Fifo.run q (s.call a).toList) ∧ t.chan.read ≤ s.chan.read + 1 := by
  cases h with
  | pollSend hi hr =>
    obtain ⟨h', hread⟩ := pollSend_represents hq hw hr
    simpa [call, hi, Fifo.run, hread] using h'
  | pollRecv hi hr =>
    obtain ⟨h', hread, -⟩ := pollRecv_represents hq hr
    exact ⟨by simpa [call, hi, Fifo.run] using h', hread⟩
  | trySend happ | tryRecv happ =>
    obtain ⟨h', hread⟩ := apply_refines hq hw happ
    exact ⟨by simpa [call, Fifo.run] using h', hread⟩
  | _ => exact ⟨hq, Nat.le_succ _⟩

/-- Every run below the wrap point moves the buffer as the FIFO moves on the
calls the run makes, and keeps every live `Send`'s message. -/
theorem run_refines_fifo {w : Nat} :
    ∀ (as : List (ChannelAction α)) {s t : ChannelSystem α} {q : List α},
      Represents w s.chan q → s.SendsHold → s.chan.read + as.length + NTASKS < 2 ^ w →
      s.run w as = some t → Represents w t.chan (Fifo.run q (s.calls w as)) ∧ t.SendsHold
  | [], _, _, _, hq, hs, _, h => by cases h; exact ⟨hq, hs⟩
  | a :: as, s, _, _, hq, hs, hw, h => by
    obtain ⟨s', hstep, hrun⟩ := Option.bind_eq_some.mp h
    simp only [List.length_cons] at hw
    obtain ⟨hq', hread⟩ := step_refines_fifo hq (by omega) (Step.of_step hstep)
    obtain ⟨h', hs'⟩ := run_refines_fifo as hq' (hs.step (Step.of_step hstep)) (by omega) hrun
    simpa [calls, hstep, Fifo.run] using And.intro h' hs'

/-- **Every interleaving of `Send` and `Recv` futures is a run of the FIFO.**
Whatever the order in which futures are created, polled and dropped and the
direct `try_send` / `try_recv` calls are made, a run from a fresh channel of
fewer than `2 ^ w - NTASKS` actions leaves the ring buffer holding exactly the
queue that the calls the run makes give on a FIFO list of capacity `NTASKS`:
nothing lost, duplicated or reordered.  On the way no `try_recv` reads an
uninitialised slot and no `Send` is left without its message, so the only panic
a poll can still reach is the registry's `expect("OOM")`. -/
theorem interleaving_is_fifo {w : Nat} {as : List (ChannelAction α)} {s : ChannelSystem α}
    (h : init.run w as = some s) (hw : as.length + NTASKS < 2 ^ w) :
    Represents w s.chan (Fifo.run [] (init.calls w as)) ∧ (s.chan.tryRecv w).isSome ∧
      s.SendsHold := by
  obtain ⟨hq, hs⟩ := run_refines_fifo as (represents_new w) (fun _ hk => by simp [init] at hk)
    (by simpa [init, new] using hw) h
  exact ⟨hq, tryRecv_isSome hq, hs⟩

/-- A `Recv` that registers on the empty channel and a `Send` that fills it. -/
theorem interleaving_is_fifo_recv_first :
    ∃ s : ChannelSystem Nat,
      init.run 32 [.recv, .pollRecv 0, .send 7, .send 8, .pollSend 0, .pollSend 1, .pollRecv 0] =
        some s ∧ [ChannelAction.recv, .pollRecv 0, .send 7, .send 8, .pollSend 0, .pollSend 1,
          .pollRecv 0].length + NTASKS < 2 ^ 32 ∧
      Represents 32 s.chan [8] ∧ (s.chan.tryRecv 32).isSome ∧ s.SendsHold := by
  refine ⟨_, rfl, by decide, ?_⟩
  exact @interleaving_is_fifo Nat 32
    [.recv, .pollRecv 0, .send 7, .send 8, .pollSend 0, .pollSend 1, .pollRecv 0] _ rfl (by decide)

/-- **A `Recv` future receives the oldest value sent and not yet received.**
In every state a run from a fresh channel reaches below the wrap point, a poll
of a `Recv`, whatever its `opt_key` and waker, returns `Ready` with the head of
the FIFO queue of the calls made so far, and `Pending` exactly when that queue
is empty. -/
theorem recv_gets_oldest {w : Nat} {as : List (ChannelAction α)} {s : ChannelSystem α}
    (h : init.run w as = some s) (hw : as.length + NTASKS < 2 ^ w) {k : Option Nat} {wk : Nat}
    {r : Channel α × RecvState × Option α} (hp : s.chan.pollRecv w k wk = some r) :
    r.2.2 = (Fifo.run [] (init.calls w as)).head? := by
  obtain ⟨hq, -⟩ := run_refines_fifo as (represents_new w) (fun _ hk => by simp [init] at hk)
    (by simpa [init, new] using hw) h
  exact (pollRecv_represents hq hp).2.2

/-- Two values sent, then a `Recv` gets the first. -/
theorem recv_gets_oldest_after_two_sends :
    ∃ s : ChannelSystem Nat, init.run 32 [.send 7, .send 8, .pollSend 0, .pollSend 1, .recv] = some s ∧
      [ChannelAction.send 7, .send 8, .pollSend 0, .pollSend 1, .recv].length + NTASKS < 2 ^ 32 ∧
      ∃ r, s.chan.pollRecv 32 none 0 = some r ∧ r.2.2 = some 7 ∧
        r.2.2 = (Fifo.run [] (init.calls 32 [.send 7, .send 8, .pollSend 0, .pollSend 1, .recv])).head? :=
  ⟨_, rfl, by decide, _, rfl, rfl, @recv_gets_oldest Nat 32
    [.send 7, .send 8, .pollSend 0, .pollSend 1, .recv] _ rfl (by decide) none 0 _ rfl⟩

end ChannelSystem

/-! ## Without drops no entry is left behind -/

/-- The `opt_key` of a `Send` future (`none` once finished). -/
def SendState.optKey : SendState α → Option Nat
  | .alive _ k => k
  | .finished => none

/-- The `opt_key` of a `Recv` future (`none` once finished). -/
def RecvState.optKey : RecvState → Option Nat
  | .alive k => k
  | .finished => none

/-- Whether a `Send` future is alive. -/
def SendState.isAlive : SendState α → Bool
  | .alive _ _ => true
  | .finished => false

/-- Whether a `Recv` future is alive. -/
def RecvState.isAlive : RecvState → Bool
  | .alive _ => true
  | .finished => false

theorem SendState.isAlive_of_optKey : ∀ x : SendState α, x.optKey.isSome → x.isAlive
  | .alive _ _, _ => rfl
  | .finished, h => by simp [optKey] at h

theorem RecvState.isAlive_of_optKey : ∀ x : RecvState, x.optKey.isSome → x.isAlive
  | .alive _, _ => rfl
  | .finished, h => by simp [optKey] at h

namespace Channel

/-- `try_send` notifies the receivers' registry and leaves the senders'. -/
theorem trySend_wakers {w : Nat} {c c' : Channel α} {v : α} (h : c.trySend w v = .ok c') :
    c'.sendWakers = c.sendWakers ∧
      ∀ k, occupied c'.recvWakers.entries.slots k = occupied c.recvWakers.entries.slots k := by
  unfold trySend at h
  split at h
  · cases h
    exact ⟨rfl, fun k => by simp [Inner.notifyOne]⟩
  · cases h

/-- `try_recv` notifies the senders' registry at most, and leaves the receivers'. -/
theorem tryRecv_wakers {w : Nat} {c c' : Channel α} {x : Option α} (h : c.tryRecv w = some (x, c')) :
    c'.recvWakers = c.recvWakers ∧
      ∀ k, occupied c'.sendWakers.entries.slots k = occupied c.sendWakers.entries.slots k := by
  unfold tryRecv at h
  split at h
  · split at h
    · cases h
      exact ⟨rfl, fun k => by simp [Inner.notifyOne]⟩
    · cases h
  · cases h
    exact ⟨rfl, fun _ => rfl⟩

/-- **A direct call frees and occupies no key**: it only takes a waker out of
an entry. -/
theorem apply_occupied {w : Nat} {c c' : Channel α} {op : ChanOp α} (h : c.apply w op = some c') :
    (∀ k, occupied c'.sendWakers.entries.slots k = occupied c.sendWakers.entries.slots k) ∧
      ∀ k, occupied c'.recvWakers.entries.slots k = occupied c.recvWakers.entries.slots k := by
  cases op with
  | send v =>
    simp only [apply] at h
    split at h
    · cases h
      obtain ⟨hsend, hrecv⟩ := trySend_wakers ‹_›
      exact ⟨fun k => by rw [hsend], hrecv⟩
    · cases h
      exact ⟨fun _ => rfl, fun _ => rfl⟩
  | recv =>
    obtain ⟨_, hr, rfl⟩ := Option.map_eq_some'.mp h
    obtain ⟨hrecv, hsend⟩ := tryRecv_wakers hr
    exact ⟨hsend, fun k => by rw [hrecv]⟩

/-- **The keys a `Send` poll leaves occupied**: in the senders' registry, its
new key or an old key other than the one it removed; in the receivers', the
same keys as before. -/
theorem pollSend_occupied {w : Nat} {c : Channel α} {v : α} {k₀ : Option Nat} {wk : Nat} {r}
    (hp : c.pollSend w (some v) k₀ wk = some r) :
    (∀ k, occupied r.1.sendWakers.entries.slots k = true →
      r.2.1.optKey = some k ∨ (occupied c.sendWakers.entries.slots k = true ∧ k₀ ≠ some k)) ∧
    ∀ k, occupied r.1.recvWakers.entries.slots k = occupied c.recvWakers.entries.slots k := by
  dsimp only [pollSend] at hp
  split at hp
  · next c₂ hs =>
    cases hp
    obtain ⟨hsend, hrecv⟩ := trySend_wakers hs
    refine ⟨fun k hk => .inr ?_, hrecv⟩
    rwa [hsend, Inner.occupied_removeOpt] at hk
  · obtain ⟨r', hr', rfl⟩ := Option.map_eq_some'.mp hp
    refine ⟨fun k hk => ?_, fun _ => rfl⟩
    rcases (Inner.occupied_insert hr' k).mp hk with hk | rfl
    · exact .inr ((Inner.occupied_removeOpt _ _ _).mp hk)
    · exact .inl rfl

/-- **The keys a `Recv` poll leaves occupied**, as for `pollSend_occupied` with
the sides swapped. -/
theorem pollRecv_occupied {w : Nat} {c : Channel α} {k₀ : Option Nat} {wk : Nat} {r}
    (hp : c.pollRecv w k₀ wk = some r) :
    (∀ k, occupied r.1.recvWakers.entries.slots k = true →
      r.2.1.optKey = some k ∨ (occupied c.recvWakers.entries.slots k = true ∧ k₀ ≠ some k)) ∧
    ∀ k, occupied r.1.sendWakers.entries.slots k = occupied c.sendWakers.entries.slots k := by
  dsimp only [pollRecv] at hp
  split at hp
  · next v c₂ hr =>
    cases hp
    obtain ⟨hrecv, hsend⟩ := tryRecv_wakers hr
    refine ⟨fun k hk => .inr ?_, hsend⟩
    rwa [hrecv, Inner.occupied_removeOpt] at hk
  · next c₂ hr =>
    obtain ⟨r', hr', rfl⟩ := Option.map_eq_some'.mp hp
    obtain ⟨hrecv, hsend⟩ := tryRecv_wakers hr
    refine ⟨fun k hk => ?_, hsend⟩
    rcases (Inner.occupied_insert hr' k).mp hk with hk | rfl
    · rw [hrecv, Inner.occupied_removeOpt] at hk
      exact .inr hk
    · exact .inl rfl
  · cases hp

/-- **A `Send` poll is defined** when the senders' registry, its old key
removed, has room for the waker. -/
theorem pollSend_isSome {w : Nat} {c : Channel α} {v : α} {k₀ : Option Nat} {wk : Nat}
    (hroom : ((c.sendWakers.removeOpt k₀).insert wk).isSome) :
    (c.pollSend w (some v) k₀ wk).isSome := by
  dsimp only [pollSend]
  split
  · rfl
  · simpa using hroom

/-- **A `Recv` poll is defined** below the wrap point when the receivers'
registry, its old key removed, has room for the waker. -/
theorem pollRecv_isSome {w : Nat} {c : Channel α} {q : List α} (h : Represents w c q)
    {k₀ : Option Nat} {wk : Nat} (hroom : ((c.recvWakers.removeOpt k₀).insert wk).isSome) :
    (c.pollRecv w k₀ wk).isSome := by
  have h₁ : Represents w { c with recvWakers := c.recvWakers.removeOpt k₀ } q := h.congr rfl rfl rfl
  cases q with
  | nil =>
    simp only [pollRecv, tryRecv_of_nil h₁]
    simpa using hroom
  | cons v q =>
    obtain ⟨c', hr, -⟩ := tryRecv_of_cons h₁
    simp [pollRecv, hr]

end Channel

namespace ChannelSystem

open Channel

/-- **Each registry's occupied keys are `opt_key`s of its side's futures.** -/
def Owns (s : ChannelSystem α) : Prop :=
  Owned s.chan.recvWakers (s.recvs.map RecvState.optKey) ∧
    Owned s.chan.sendWakers (s.sends.map SendState.optKey)

/-- `Owns` is `EntriesOwned` read through the futures' keys. -/
theorem Owns.entriesOwned {s : ChannelSystem α} (h : s.Owns) : s.EntriesOwned := by
  have hocc : ∀ {l : List (Option (Option Nat))} {k}, k < l.length → l[k]? ≠ some none →
      occupied l k = true := by
    intro l k hk hne
    have hslot : l[k] ≠ none := fun he => hne (by rw [List.getElem?_eq_getElem hk, he])
    simpa [occupied, List.getElem?_eq_getElem hk, Option.isSome_iff_ne_none] using hslot
  refine ⟨fun k hk hne => ?_, fun k hk hne => ?_⟩
  · obtain ⟨x, hx, hkx⟩ := List.mem_map.mp (h.1 k (hocc hk hne))
    cases x <;> simp_all [RecvState.optKey]
  · obtain ⟨x, hx, hkx⟩ := List.mem_map.mp (h.2 k (hocc hk hne))
    cases x with
    | alive msg k' => exact ⟨msg, by simp_all [SendState.optKey]⟩
    | finished => simp [SendState.optKey] at hkx

/-- Every step but a drop keeps each registry owned. -/
theorem Owns.step {w : Nat} {s t : ChannelSystem α} {a : ChannelAction α} (hs : s.Owns)
    (hsend : ∀ i, a ≠ .dropSend i) (hrecv : ∀ i, a ≠ .dropRecv i) (h : Step w s a t) :
    t.Owns := by
  cases h with
  | send v => exact ⟨hs.1, by simpa using hs.2.append [none]⟩
  | recv => exact ⟨by simpa using hs.1.append [none], hs.2⟩
  | pollSend hi hr =>
    obtain ⟨hsd, hrv⟩ := pollSend_occupied hr
    exact ⟨hs.1.frame hrv, by simpa using hs.2.poll (by simp [hi, SendState.optKey]) hsd⟩
  | pollRecv hi hr =>
    obtain ⟨hrv, hsd⟩ := pollRecv_occupied hr
    exact ⟨by simpa using hs.1.poll (by simp [hi, RecvState.optKey]) hrv, hs.2.frame hsd⟩
  | dropSend => exact absurd rfl (hsend _)
  | dropRecv => exact absurd rfl (hrecv _)
  | trySend happ | tryRecv happ =>
    obtain ⟨hsd, hrv⟩ := apply_occupied happ
    exact ⟨hs.1.frame hrv, hs.2.frame hsd⟩

/-- A fresh channel has no occupied key. -/
theorem owns_init : (init : ChannelSystem α).Owns :=
  ⟨fun _ hk => by simp [init, new, Inner.new, Slab.empty, occupied] at hk,
    fun _ hk => by simp [init, new, Inner.new, Slab.empty, occupied] at hk⟩

/-- Every run without a drop keeps each registry owned. -/
theorem Owns.run {w : Nat} {s t : ChannelSystem α} :
    ∀ {as : List (ChannelAction α)}, s.Owns → (∀ i, .dropSend i ∉ as ∧ .dropRecv i ∉ as) →
      s.run w as = some t → t.Owns
  | [], hs, _, h => by cases h; exact hs
  | a :: _, hs, hdrop, h => by
    obtain ⟨s', hstep, hrun⟩ := Option.bind_eq_some.mp h
    refine Owns.run (hs.step (fun i he => ?_) (fun i he => ?_) (Step.of_step hstep)) (fun i => ?_) hrun
    · exact (hdrop i).1 (he ▸ List.mem_cons_self _ _)
    · exact (hdrop i).2 (he ▸ List.mem_cons_self _ _)
    · exact ⟨fun hm => (hdrop i).1 (List.mem_cons_of_mem a hm),
        fun hm => (hdrop i).2 (List.mem_cons_of_mem a hm)⟩

/-- **Only a drop leaves an entry behind.**  In every run from a fresh channel
in which no future is dropped, each occupied key of either registry is the
`opt_key` of a live future of its side: a poll removes its old key before it
registers again, and `try_send` / `try_recv` only take wakers out of entries.
The orphaned entry of `recv_entry_outlives_dropped_future` needs the drop. -/
theorem entries_owned_without_drops {w : Nat} {as : List (ChannelAction α)} {s : ChannelSystem α}
    (hdrop : ∀ i, .dropSend i ∉ as ∧ .dropRecv i ∉ as) (h : init.run w as = some s) :
    s.EntriesOwned :=
  (Owns.run owns_init hdrop h).entriesOwned

/-- The run of `recv_entry_outlives_dropped_future` with the `Recv` polled to
completion instead of dropped. -/
theorem entries_owned_after_recv_completes :
    (∀ i, ChannelAction.dropSend i ∉ [.recv, .pollRecv 0, .send 7, .pollSend 0, .pollRecv 0] ∧
      ChannelAction.dropRecv i ∉ [.recv, .pollRecv 0, .send 7, .pollSend 0, .pollRecv 0]) ∧
    ∃ s : ChannelSystem Nat,
      init.run 32 [.recv, .pollRecv 0, .send 7, .pollSend 0, .pollRecv 0] = some s ∧ s.EntriesOwned :=
  have hdrop : ∀ i, ChannelAction.dropSend i ∉
      [.recv, .pollRecv 0, .send (7 : Nat), .pollSend 0, .pollRecv 0] ∧
      ChannelAction.dropRecv i ∉ [.recv, .pollRecv 0, .send (7 : Nat), .pollSend 0, .pollRecv 0] :=
    fun i => by simp
  ⟨hdrop, _, rfl, @entries_owned_without_drops Nat 32 _ _ hdrop rfl⟩

/-- **Without drops, a poll panics only past `NTASKS` live futures.**  In a
run from a fresh channel with no drop and below the wrap point, while at most
`NTASKS` futures of each side are alive, every poll of a live `Send` or `Recv`
future is defined: its message is there, `try_recv` reads no uninitialised
slot, and the registry has a vacant key for its waker, since every occupied
key belongs to one of the other live futures of its side.  As every result of
the model, this is about a release build: there the decrement of `notifiable`
in `Inner::remove` wraps, where a debug build panics on the re-poll of a
notified future (`notifiable_underflows_after_notify_one`). -/
theorem polls_defined_without_drops {w : Nat} {as : List (ChannelAction α)} {s : ChannelSystem α}
    (hdrop : ∀ i, .dropSend i ∉ as ∧ .dropRecv i ∉ as) (h : init.run w as = some s)
    (hw : as.length + NTASKS < 2 ^ w) (hsends : s.sends.countP SendState.isAlive ≤ NTASKS)
    (hrecvs : s.recvs.countP RecvState.isAlive ≤ NTASKS) :
    (∀ i msg k, s.sends[i]? = some (.alive msg k) → (s.step w (.pollSend i)).isSome) ∧
      ∀ i k, s.recvs[i]? = some (.alive k) → (s.step w (.pollRecv i)).isSome := by
  obtain ⟨hq, hhold⟩ := run_refines_fifo as (represents_new w) (fun _ hk => by simp [init] at hk)
    (by simpa [init, new] using hw) h
  have hown := Owns.run owns_init hdrop h
  refine ⟨fun i msg k hi => ?_, fun i k hi => ?_⟩
  · cases msg with
    | none => exact absurd (List.mem_iff_getElem?.mpr ⟨i, hi⟩) (hhold k)
    | some v =>
      simpa [ChannelSystem.step, hi] using pollSend_isSome
        (hown.2.room SendState.isAlive_of_optKey .finished rfl rfl hi rfl hsends i)
  · simpa [ChannelSystem.step, hi] using pollRecv_isSome hq
      (hown.1.room RecvState.isAlive_of_optKey .finished rfl rfl hi rfl hrecvs i)

/-- A `Recv` registered on the empty channel and a fresh `Send`. -/
theorem polls_defined_after_registration :
    (∀ i, ChannelAction.dropSend i ∉ [.recv, .pollRecv 0, .send 7] ∧
      ChannelAction.dropRecv i ∉ [.recv, .pollRecv 0, .send 7]) ∧
    ∃ s : ChannelSystem Nat, init.run 32 [.recv, .pollRecv 0, .send 7] = some s ∧
      [ChannelAction.recv, .pollRecv 0, .send 7].length + NTASKS < 2 ^ 32 ∧
      s.sends.countP SendState.isAlive ≤ NTASKS ∧ s.recvs.countP RecvState.isAlive ≤ NTASKS ∧
      (∀ i msg k, s.sends[i]? = some (.alive msg k) → (s.step 32 (.pollSend i)).isSome) ∧
        ∀ i k, s.recvs[i]? = some (.alive k) → (s.step 32 (.pollRecv i)).isSome :=
  have hdrop : ∀ i, ChannelAction.dropSend i ∉ [.recv, .pollRecv 0, .send (7 : Nat)] ∧
      ChannelAction.dropRecv i ∉ [.recv, .pollRecv 0, .send (7 : Nat)] :=
    fun i => by simp
  ⟨hdrop, _, rfl, by decide, by decide, by decide,
    @polls_defined_without_drops Nat 32 _ _ hdrop rfl (by decide) (by decide) (by decide)⟩

/- The bound is tight: with the buffer full, `NTASKS + 1` live `Send` futures
cannot all register, and the last poll hits `expect("OOM")`.  `block_on` runs
up to `NTASKS` spawned tasks and the main future. -/
example : ∃ s : ChannelSystem Nat,
    init.run 32 (List.replicate 8 (.trySend 0) ++ List.replicate 9 (.send 0) ++
      (List.range 8).map .pollSend) = some s ∧
    s.sends.countP SendState.isAlive = NTASKS + 1 ∧ s.step 32 (.pollSend 8) = none :=
  ⟨_, rfl, rfl, rfl⟩

end ChannelSystem

end AsyncEmbedded
