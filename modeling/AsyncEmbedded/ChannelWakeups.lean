import AsyncEmbedded.ChannelSystem

/-!
# No wake-up is lost on the channel

`try_send` ends with `recv_wakers.notify_one()` and `try_recv` with
`send_wakers.notify_one()`.  So each value written owes a wake-up to a blocked
receiver, and each slot freed owes one to a blocked sender.

`RecvsWoken` says the receivers' wake-ups have gone out: the receivers'
registry covers the values in the buffer (`Inner.Covers`).  That is, at least
`write - read` entries are notified, or no receiver still waits with a waker.
A receiver registers only after `try_recv` found the buffer empty, when nothing
is owed.  A poll that removes its notified key and then takes a value pays the
wake-up back with the value.  So `RecvsWoken` holds in every run, drops
included (`recv_wakeups_cover_buffer`).

`SendsWoken` is the mirror image for the senders and free slots, and it holds
below the wrap point (`send_wakeups_cover_free_slots`).  Past that point
`try_send` refuses values even when slots are free
(`trySend_refused_on_empty_channel`), so a sender registers while wake-ups are
still owed.

Ownership turns these counts into progress.  In a run without a drop, every
entry belongs to a live future of its side.  So while a value waits and a
receiver is blocked, some live `Recv` future holds a notified key: its task has
been woken (`waiting_recv_woken_without_drops`).  The senders' side is the same
with a free slot (`waiting_send_woken_without_drops`).  A future that is
dropped takes its wake-up with it, as the example after the receivers' theorem
shows.
-/

namespace AsyncEmbedded

variable {α : Type}

namespace Channel

/-! ### What `try_send` and `try_recv` change -/

theorem trySend_eq_ok {w : Nat} {c c' : Channel α} {v : α} (h : c.trySend w v = .ok c') :
    c.write < wrappingAdd w c.read NTASKS ∧ c'.read = c.read ∧ c'.write = wrappingAdd w c.write 1 ∧
      c'.sendWakers = c.sendWakers ∧ c'.recvWakers = c.recvWakers.notifyOne.1 := by
  unfold trySend at h
  split at h
  · cases h
    exact ⟨‹_›, rfl, rfl, rfl, rfl⟩
  · cases h

theorem trySend_eq_error {w : Nat} {c : Channel α} {v v' : α} (h : c.trySend w v = .error v') :
    wrappingAdd w c.read NTASKS ≤ c.write := by
  unfold trySend at h
  split at h
  · cases h
  · omega

theorem tryRecv_eq_some {w : Nat} {c c' : Channel α} {v : α} (h : c.tryRecv w = some (some v, c')) :
    c.read < c.write ∧ c'.read = wrappingAdd w c.read 1 ∧ c'.write = c.write ∧
      c'.sendWakers = c.sendWakers.notifyOne.1 ∧ c'.recvWakers = c.recvWakers := by
  unfold tryRecv at h
  split at h
  · split at h
    · cases h
      exact ⟨‹_›, rfl, rfl, rfl, rfl⟩
    · cases h
  · cases h

theorem tryRecv_eq_none {w : Nat} {c c' : Channel α} (h : c.tryRecv w = some (none, c')) :
    c.write ≤ c.read ∧ c' = c := by
  unfold tryRecv at h
  split at h
  · split at h <;> cases h
  · cases h
    exact ⟨by omega, rfl⟩

/-- A `try_recv` that takes a value advances `read` by one: `read < write`, and
`write` is a `usize`. -/
theorem tryRecv_read {w : Nat} {c c' : Channel α} {v : α} (h : c.tryRecv w = some (some v, c'))
    (hw : c.write < 2 ^ w) : c'.read = c.read + 1 := by
  obtain ⟨hlt, hread, -⟩ := tryRecv_eq_some h
  rw [hread, wrappingAdd_of_lt (by omega)]

/-! ### The receivers' side -/

/-- **Every buffered value has woken a receiver**, unless no receiver waits with
a waker; and `write` is a `usize` at width `w`. -/
structure RecvsWoken (w : Nat) (c : Channel α) : Prop where
  write_lt : c.write < 2 ^ w
  covers : c.recvWakers.Covers (c.write - c.read)

theorem recvsWoken_new (w : Nat) : RecvsWoken w (new : Channel α) :=
  ⟨Nat.two_pow_pos w, Inner.covers_zero _⟩

/-- `try_send` adds at most one value and wakes one more receiver. -/
theorem RecvsWoken.trySend {w : Nat} {c c' : Channel α} {v : α} (h : RecvsWoken w c)
    (hs : c.trySend w v = .ok c') : RecvsWoken w c' := by
  obtain ⟨-, hread, hwrite, -, hrecv⟩ := trySend_eq_ok hs
  have hle : c'.write ≤ c.write + 1 := hwrite ▸ wrappingAdd_le _ _ _
  exact ⟨hwrite ▸ wrappingAdd_lt _ _ _, hrecv ▸ h.covers.notifyOne.mono (by omega)⟩

theorem RecvsWoken.tryRecv {w : Nat} {c c' : Channel α} {x : Option α} (h : RecvsWoken w c)
    (hr : c.tryRecv w = some (x, c')) : RecvsWoken w c' := by
  cases x with
  | none => exact (tryRecv_eq_none hr).2 ▸ h
  | some v =>
    obtain ⟨-, -, hwrite, -, hrecv⟩ := tryRecv_eq_some hr
    have hread := tryRecv_read hr h.write_lt
    exact ⟨hwrite ▸ h.write_lt, hrecv ▸ h.covers.mono (by omega)⟩

theorem RecvsWoken.apply {w : Nat} {c c' : Channel α} {op : ChanOp α} (h : RecvsWoken w c)
    (happ : c.apply w op = some c') : RecvsWoken w c' := by
  cases op with
  | send v =>
    simp only [Channel.apply] at happ
    split at happ <;> cases happ
    · exact h.trySend ‹_›
    · exact h
  | recv =>
    obtain ⟨⟨x, c''⟩, hr, rfl⟩ := Option.map_eq_some'.mp happ
    exact h.tryRecv hr

/-- A `Send` poll touches the receivers only through `try_send`. -/
theorem RecvsWoken.pollSend {w : Nat} {c : Channel α} {msg : Option α} {k : Option Nat} {wk : Nat}
    {r} (h : RecvsWoken w c) (hp : c.pollSend w msg k wk = some r) : RecvsWoken w r.1 := by
  have h₁ : RecvsWoken w { c with sendWakers := c.sendWakers.removeOpt k } := ⟨h.1, h.2⟩
  dsimp only [Channel.pollSend] at hp
  split at hp
  · cases hp
  · split at hp
    · next c₂ hs =>
      cases hp
      exact h₁.trySend hs
    · obtain ⟨_, -, rfl⟩ := Option.map_eq_some'.mp hp
      exact ⟨h.1, h.2⟩

/-- **A `Recv` poll pays back what it removes.**  Removing its key takes back at
most one wake-up; then either it takes a value, which owes one less, or the
buffer is empty and nothing is owed when it registers. -/
theorem RecvsWoken.pollRecv {w : Nat} {c : Channel α} {k : Option Nat} {wk : Nat} {r}
    (h : RecvsWoken w c) (hp : c.pollRecv w k wk = some r) : RecvsWoken w r.1 := by
  dsimp only [Channel.pollRecv] at hp
  split at hp
  · next v c₂ hr =>
    cases hp
    obtain ⟨-, -, hwrite, -, hrecv⟩ := tryRecv_eq_some hr
    have hread := tryRecv_read hr h.write_lt
    simp only at hwrite hread
    show RecvsWoken w c₂
    exact ⟨hwrite ▸ h.write_lt, hrecv ▸ (h.covers.removeOpt k).mono (by omega)⟩
  · next c₂ hr =>
    obtain ⟨_, -, rfl⟩ := Option.map_eq_some'.mp hp
    obtain ⟨hempty, rfl⟩ := tryRecv_eq_none hr
    exact ⟨h.write_lt, (Inner.covers_zero _).mono (by simp only at hempty ⊢; omega)⟩
  · cases hp

/-! ### The senders' side -/

/-- **Every free slot has woken a sender**, unless no sender waits with a
waker. -/
structure SendsWoken (c : Channel α) : Prop where
  covers : c.sendWakers.Covers (NTASKS - (c.write - c.read))

/-- A fresh channel has no sender waiting. -/
theorem sendsWoken_new : (new : Channel α).SendsWoken := ⟨.inl rfl⟩

/-- Below the wrap point a `try_send` that succeeds fills a slot, and one that
fails found none free. -/
theorem trySend_of_ok_lt {w : Nat} {c c' : Channel α} {v : α} (h : c.trySend w v = .ok c')
    (hw : c.read + NTASKS < 2 ^ w) : c.write < c.read + NTASKS ∧ c'.write = c.write + 1 := by
  obtain ⟨hlt, -, hwrite, -⟩ := trySend_eq_ok h
  rw [wrappingAdd_of_lt hw] at hlt
  exact ⟨hlt, by rw [hwrite, wrappingAdd_of_lt (by omega)]⟩

theorem SendsWoken.trySend {w : Nat} {c c' : Channel α} {v : α} (h : c.SendsWoken)
    (hw : c.read + NTASKS < 2 ^ w) (hs : c.trySend w v = .ok c') : c'.SendsWoken := by
  obtain ⟨-, hread, -, hsend, -⟩ := trySend_eq_ok hs
  have hwrite := (trySend_of_ok_lt hs hw).2
  exact ⟨hsend ▸ h.covers.mono (by omega)⟩

theorem SendsWoken.tryRecv {w : Nat} {c c' : Channel α} {x : Option α} (h : c.SendsWoken)
    (hwl : c.write < 2 ^ w) (hr : c.tryRecv w = some (x, c')) : c'.SendsWoken := by
  cases x with
  | none => exact (tryRecv_eq_none hr).2 ▸ h
  | some v =>
    obtain ⟨hlt, -, hwrite, hsend, -⟩ := tryRecv_eq_some hr
    have hread := tryRecv_read hr hwl
    exact ⟨hsend ▸ h.covers.notifyOne.mono (by omega)⟩

theorem SendsWoken.apply {w : Nat} {c c' : Channel α} {op : ChanOp α} (h : c.SendsWoken)
    (hw : c.read + NTASKS < 2 ^ w) (hwl : c.write < 2 ^ w) (happ : c.apply w op = some c') :
    c'.SendsWoken := by
  cases op with
  | send v =>
    simp only [Channel.apply] at happ
    split at happ <;> cases happ
    · exact h.trySend hw ‹_›
    · exact h
  | recv =>
    obtain ⟨⟨x, c''⟩, hr, rfl⟩ := Option.map_eq_some'.mp happ
    exact h.tryRecv hwl hr

/-- **A `Send` poll pays back what it removes**, as `RecvsWoken.pollRecv` does:
it sends its value into a free slot, or registers on a full buffer. -/
theorem SendsWoken.pollSend {w : Nat} {c : Channel α} {msg : Option α} {k : Option Nat} {wk : Nat}
    {r} (h : c.SendsWoken) (hw : c.read + NTASKS < 2 ^ w) (hle : c.read ≤ c.write)
    (hp : c.pollSend w msg k wk = some r) : r.1.SendsWoken := by
  dsimp only [Channel.pollSend] at hp
  split at hp
  · cases hp
  · split at hp
    · next c₂ hs =>
      cases hp
      obtain ⟨-, hread, -, hsend, -⟩ := trySend_eq_ok hs
      obtain ⟨hroom, hwrite⟩ := trySend_of_ok_lt hs hw
      simp only at hread hroom hwrite hsend
      show c₂.SendsWoken
      exact ⟨hsend ▸ (h.covers.removeOpt k).mono (by omega)⟩
    · next hs =>
      obtain ⟨_, -, rfl⟩ := Option.map_eq_some'.mp hp
      have hfull := trySend_eq_error hs
      rw [wrappingAdd_of_lt hw] at hfull
      exact ⟨(Inner.covers_zero _).mono (by simp only at hfull ⊢; omega)⟩

theorem SendsWoken.pollRecv {w : Nat} {c : Channel α} {k : Option Nat} {wk : Nat} {r}
    (h : c.SendsWoken) (hwl : c.write < 2 ^ w) (hp : c.pollRecv w k wk = some r) :
    r.1.SendsWoken := by
  have h₁ : SendsWoken { c with recvWakers := c.recvWakers.removeOpt k } := ⟨h.1⟩
  dsimp only [Channel.pollRecv] at hp
  split at hp
  · next v c₂ hr =>
    cases hp
    exact h₁.tryRecv hwl hr
  · next c₂ hr =>
    obtain ⟨_, -, rfl⟩ := Option.map_eq_some'.mp hp
    obtain ⟨-, rfl⟩ := tryRecv_eq_none hr
    exact ⟨h.1⟩
  · cases hp

end Channel

namespace ChannelSystem

open Channel

/-! ### Over every run -/

theorem recvsWoken_step {w : Nat} {s t : ChannelSystem α} {a : ChannelAction α}
    (hs : RecvsWoken w s.chan) (h : Step w s a t) : RecvsWoken w t.chan := by
  cases h with
  | pollSend _ hr => exact hs.pollSend hr
  | pollRecv _ hr => exact hs.pollRecv hr
  | trySend happ | tryRecv happ => exact hs.apply happ
  | _ => exact hs

theorem recvsWoken_run {w : Nat} :
    ∀ {as : List (ChannelAction α)} {s t : ChannelSystem α}, RecvsWoken w s.chan →
      s.run w as = some t → RecvsWoken w t.chan
  | [], _, _, hs, h => by cases h; exact hs
  | _ :: _, _, _, hs, h => by
    obtain ⟨s', hstep, hrun⟩ := Option.bind_eq_some.mp h
    exact recvsWoken_run (recvsWoken_step hs (Step.of_step hstep)) hrun

/-- Below the wrap point every step keeps the senders woken; `Represents`
bounds `write`. -/
theorem sendsWoken_step {w : Nat} {s t : ChannelSystem α} {a : ChannelAction α} {q : List α}
    (hq : Represents w s.chan q) (hw : s.chan.read + NTASKS < 2 ^ w) (hs : s.chan.SendsWoken)
    (h : Step w s a t) : t.chan.SendsWoken := by
  cases h with
  | pollSend _ hr => exact hs.pollSend hw hq.read_le_write hr
  | pollRecv _ hr => exact hs.pollRecv hq.write_lt hr
  | trySend happ | tryRecv happ => exact hs.apply hw hq.write_lt happ
  | _ => exact hs

theorem sendsWoken_run {w : Nat} :
    ∀ (as : List (ChannelAction α)) {s t : ChannelSystem α} {q : List α},
      Represents w s.chan q → s.chan.SendsWoken → s.chan.read + as.length + NTASKS < 2 ^ w →
      s.run w as = some t → t.chan.SendsWoken
  | [], _, _, _, _, hs, _, h => by cases h; exact hs
  | a :: as, s, _, _, hq, hs, hw, h => by
    obtain ⟨s', hstep, hrun⟩ := Option.bind_eq_some.mp h
    simp only [List.length_cons] at hw
    obtain ⟨hq', hread⟩ := step_refines_fifo hq (by omega) (Step.of_step hstep)
    exact sendsWoken_run as hq' (sendsWoken_step hq (by omega) hs (Step.of_step hstep)) (by omega) hrun

/-- **Every buffered value has woken a receiver.**  In every run from a fresh
channel, whatever futures are created, polled or dropped and whatever direct
calls are made, at least as many entries of the receivers' registry are
notified as there are values in the buffer, unless no entry still holds a
waker: each `try_send` wakes one more receiver while one waits. -/
theorem recv_wakeups_cover_buffer {w : Nat} {as : List (ChannelAction α)} {s : ChannelSystem α}
    (h : init.run w as = some s) :
    s.chan.recvWakers.live = 0 ∨ s.chan.write - s.chan.read ≤ s.chan.recvWakers.notified :=
  (recvsWoken_run (recvsWoken_new w) h).covers

/-- Two receivers wait and one value is sent: one receiver is woken. -/
theorem recv_wakeups_cover_buffer_two_waiting :
    ∃ s : ChannelSystem Nat, init.run 32 [.recv, .recv, .pollRecv 0, .pollRecv 1, .trySend 5] = some s ∧
      s.chan.recvWakers.live = 1 ∧ s.chan.recvWakers.notified = 1 ∧
      (s.chan.recvWakers.live = 0 ∨ s.chan.write - s.chan.read ≤ s.chan.recvWakers.notified) :=
  ⟨_, rfl, rfl, rfl, @recv_wakeups_cover_buffer Nat 32
    [.recv, .recv, .pollRecv 0, .pollRecv 1, .trySend 5] _ rfl⟩

/-- **Every free slot has woken a sender.**  In every run from a fresh channel
below the wrap point, at least as many entries of the senders' registry are
notified as the buffer has free slots, unless no entry still holds a waker:
each `try_recv` that takes a value wakes one more sender while one waits. -/
theorem send_wakeups_cover_free_slots {w : Nat} {as : List (ChannelAction α)} {s : ChannelSystem α}
    (h : init.run w as = some s) (hw : as.length + NTASKS < 2 ^ w) :
    s.chan.sendWakers.live = 0 ∨ NTASKS - (s.chan.write - s.chan.read) ≤ s.chan.sendWakers.notified :=
  (sendsWoken_run as (represents_new w) sendsWoken_new (by simpa [init, new] using hw) h).covers

/-- The buffer is filled, two senders wait, and one value is received: one
sender is woken. -/
theorem send_wakeups_cover_free_slots_two_waiting :
    ∃ s : ChannelSystem Nat, init.run 32 (List.replicate 8 (.trySend 0) ++
        [.send 1, .send 2, .pollSend 0, .pollSend 1, .tryRecv]) = some s ∧
      (List.replicate 8 (ChannelAction.trySend 0) ++
        [ChannelAction.send 1, .send 2, .pollSend 0, .pollSend 1, .tryRecv]).length + NTASKS < 2 ^ 32 ∧
      s.chan.sendWakers.live = 1 ∧ s.chan.sendWakers.notified = 1 ∧
      (s.chan.sendWakers.live = 0 ∨
        NTASKS - (s.chan.write - s.chan.read) ≤ s.chan.sendWakers.notified) := by
  have hrun : init.run 32 (List.replicate 8 (ChannelAction.trySend (0 : Nat)) ++
      [.send 1, .send 2, .pollSend 0, .pollSend 1, .tryRecv]) = some _ := rfl
  exact ⟨_, hrun, by decide, rfl, rfl, send_wakeups_cover_free_slots hrun (by decide)⟩

/-! ### Without drops, a waiting future is woken -/

/-- **A value never waits while every receiver sleeps.**  In a run from a fresh
channel in which no future is dropped, while the buffer holds a value and a
receiver waits with a waker, some live `Recv` future holds a notified key: its
task has been woken and will poll again. -/
theorem waiting_recv_woken_without_drops {w : Nat} {as : List (ChannelAction α)}
    {s : ChannelSystem α} (hdrop : ∀ i, .dropSend i ∉ as ∧ .dropRecv i ∉ as)
    (h : init.run w as = some s) (hbuf : s.chan.read < s.chan.write)
    (hwait : 0 < s.chan.recvWakers.live) :
    ∃ k, s.chan.recvWakers.entries.slots[k]? = some (some none) ∧ RecvState.alive (some k) ∈ s.recvs := by
  obtain ⟨k, hk⟩ := (recvsWoken_run (recvsWoken_new w) h).covers.exists_notified (by omega) hwait
  exact ⟨k, hk, (Owns.run owns_init hdrop h).entriesOwned.1 k
    (List.getElem?_eq_some_iff.mp hk).1 (by simp [hk])⟩

/-- The run of `recv_wakeups_cover_buffer_two_waiting`: receiver 0 is woken. -/
theorem waiting_recv_woken_two_waiting :
    (∀ i, ChannelAction.dropSend i ∉ [.recv, .recv, .pollRecv 0, .pollRecv 1, .trySend 5] ∧
      ChannelAction.dropRecv i ∉ [.recv, .recv, .pollRecv 0, .pollRecv 1, .trySend 5]) ∧
    ∃ s : ChannelSystem Nat, init.run 32 [.recv, .recv, .pollRecv 0, .pollRecv 1, .trySend 5] = some s ∧
      s.chan.read < s.chan.write ∧ 0 < s.chan.recvWakers.live ∧
      ∃ k, s.chan.recvWakers.entries.slots[k]? = some (some none) ∧ RecvState.alive (some k) ∈ s.recvs :=
  have hdrop : ∀ i, ChannelAction.dropSend i ∉
      [.recv, .recv, .pollRecv 0, .pollRecv 1, .trySend (5 : Nat)] ∧
      ChannelAction.dropRecv i ∉ [.recv, .recv, .pollRecv 0, .pollRecv 1, .trySend (5 : Nat)] :=
    fun i => by simp
  ⟨hdrop, _, rfl, by decide, by decide,
    @waiting_recv_woken_without_drops Nat 32 _ _ hdrop rfl (by decide) (by decide)⟩

/- A dropped receiver takes its wake-up with it.  Receivers 0 and 1 wait; the
value sent wakes receiver 0, which is dropped: a value waits, receiver 1 sleeps
with its waker, and the only notified key belongs to no live future. -/
example : ∃ s : ChannelSystem Nat,
    init.run 32 [.recv, .recv, .pollRecv 0, .pollRecv 1, .trySend 5, .dropRecv 0] = some s ∧
      s.chan.read < s.chan.write ∧ 0 < s.chan.recvWakers.live ∧
      s.chan.recvWakers.entries.slots = [some none, some (some 1)] ∧
      RecvState.alive (some 0) ∉ s.recvs :=
  ⟨_, rfl, by decide, by decide, rfl, by decide⟩

/-- **A free slot never waits while every sender sleeps.**  In a run from a
fresh channel below the wrap point in which no future is dropped, while a slot
is free and a sender waits with a waker, some live `Send` future holds a
notified key. -/
theorem waiting_send_woken_without_drops {w : Nat} {as : List (ChannelAction α)}
    {s : ChannelSystem α} (hdrop : ∀ i, .dropSend i ∉ as ∧ .dropRecv i ∉ as)
    (h : init.run w as = some s) (hw : as.length + NTASKS < 2 ^ w)
    (hfree : s.chan.write - s.chan.read < NTASKS) (hwait : 0 < s.chan.sendWakers.live) :
    ∃ k msg, s.chan.sendWakers.entries.slots[k]? = some (some none) ∧
      SendState.alive msg (some k) ∈ s.sends := by
  have hs : s.chan.SendsWoken :=
    sendsWoken_run as (represents_new w) sendsWoken_new (by simpa [init, new] using hw) h
  obtain ⟨k, hk⟩ := hs.covers.exists_notified (by omega) hwait
  obtain ⟨msg, hmsg⟩ := (Owns.run owns_init hdrop h).entriesOwned.2 k
    (List.getElem?_eq_some_iff.mp hk).1 (by simp [hk])
  exact ⟨k, msg, hk, hmsg⟩

/-- The run of `send_wakeups_cover_free_slots_two_waiting`: sender 0 is woken. -/
theorem waiting_send_woken_two_waiting :
    (∀ i, ChannelAction.dropSend i ∉ (List.replicate 8 (.trySend 0) ++
        [.send 1, .send 2, .pollSend 0, .pollSend 1, .tryRecv]) ∧
      ChannelAction.dropRecv i ∉ (List.replicate 8 (.trySend 0) ++
        [.send 1, .send 2, .pollSend 0, .pollSend 1, .tryRecv])) ∧
    ∃ s : ChannelSystem Nat, init.run 32 (List.replicate 8 (.trySend 0) ++
        [.send 1, .send 2, .pollSend 0, .pollSend 1, .tryRecv]) = some s ∧
      (List.replicate 8 (ChannelAction.trySend 0) ++
        [ChannelAction.send 1, .send 2, .pollSend 0, .pollSend 1, .tryRecv]).length + NTASKS < 2 ^ 32 ∧
      s.chan.write - s.chan.read < NTASKS ∧ 0 < s.chan.sendWakers.live ∧
      ∃ k msg, s.chan.sendWakers.entries.slots[k]? = some (some none) ∧
        SendState.alive msg (some k) ∈ s.sends :=
  have hdrop : ∀ i, ChannelAction.dropSend i ∉ (List.replicate 8 (.trySend (0 : Nat)) ++
        [.send 1, .send 2, .pollSend 0, .pollSend 1, .tryRecv]) ∧
      ChannelAction.dropRecv i ∉ (List.replicate 8 (.trySend (0 : Nat)) ++
        [.send 1, .send 2, .pollSend 0, .pollSend 1, .tryRecv]) :=
    fun i => by simp [List.mem_replicate]
  ⟨hdrop, _, rfl, by decide, by decide, by decide,
    @waiting_send_woken_without_drops Nat 32 _ _ hdrop rfl (by decide) (by decide) (by decide)⟩

end ChannelSystem

end AsyncEmbedded
