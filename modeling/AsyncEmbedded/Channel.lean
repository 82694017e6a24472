import AsyncEmbedded.WakerSet

/-!
# The channel's ring buffer (`unsync::channel`)

A `Channel<T>` is a ring buffer of `NTASKS` slots with two `usize` cursors,
`read` and `write`, advanced by `wrapping_add`; slot `i % NTASKS` holds the
`i`-th value sent.  `try_send` writes at `write % NTASKS` when
`write < read + cap`, and `try_recv` reads at `read % NTASKS` when
`write > read`; each then notifies one waiter of the other side.

## The FIFO it implements, and where it stops

`Represents c q` says that the cursors and slots of `c` hold the FIFO queue
`q`: `write - read` is the length of `q`, and the slot of cursor `read + j` is
`q[j]` for `j` below that length and uninitialised above it (the spec's
invariant).  `trySend_of_lt`, `trySend_of_full`, `tryRecv_of_nil` and
`tryRecv_of_cons` show that each operation acts on `q` as a bounded FIFO queue
does, as long as `read + cap` does not overflow; `apply_represents` gathers them
against `Fifo.apply`, the queue the channel is meant to be, and
`new_run_is_fifo` carries that refinement over every run short of the wrap
point.  `Fifo.call` adds what each call returns (`Ok` or `Err(v)`, the value
received or `None`), and `new_run_returns_fifo` shows that the channel's calls
return the same along every such run.

The comparisons are not modular, though.  Once `read` reaches `2 ^ w - NTASKS`
(after `2 ^ w - NTASKS` values, about four billion on a 32-bit target),
`read + cap` overflows, and a release build compares `write` with the wrapped
sum: `try_send` refuses every value, on an empty channel too.
`trySend_refused_on_empty_channel` is that run.
-/

namespace AsyncEmbedded

variable {α : Type}

/-- **`Channel<T>`**: the ring buffer (slot `none` is uninitialised memory, the
`MaybeUninit`), the cursors, and the registries of blocked senders and
receivers. -/
structure Channel (α : Type) where
  buffer : List (Option α)
  buffer_length : buffer.length = NTASKS
  read : Nat
  write : Nat
  sendWakers : Inner Nat
  recvWakers : Inner Nat

namespace Channel

/-- `Channel::new`: uninitialised slots, cursors at `0`, empty registries. -/
def new : Channel α := ⟨List.replicate NTASKS none, List.length_replicate _ _, 0, 0, Inner.new, Inner.new⟩

/-- The buffer with slot `i` replaced. -/
def setSlot (c : Channel α) (i : Nat) (v : Option α) : Channel α :=
  { c with buffer := c.buffer.set i v, buffer_length := (List.length_set _ _ _).trans c.buffer_length }

/-- **`Channel::try_send`** at `usize` width `w`: `Ok(())` with the channel
after the write, or `Err(val)`.  `read + cap` is the `usize` sum, which wraps
in a release build. -/
def trySend (w : Nat) (c : Channel α) (v : α) : Except α (Channel α) :=
  if c.write < wrappingAdd w c.read NTASKS then
    let c₁ := c.setSlot (c.write % NTASKS) (some v)
    .ok { c₁ with write := wrappingAdd w c.write 1, recvWakers := c.recvWakers.notifyOne.1 }
  else .error v

/-- **`Channel::try_recv`** at `usize` width `w`: the value moved out of slot
`read % cap` (or `none` when empty) and the channel after it.  The outer `none`
is a read of an uninitialised slot, undefined behaviour. -/
def tryRecv (w : Nat) (c : Channel α) : Option (Option α × Channel α) :=
  if c.write > c.read then
    match c.buffer[c.read % NTASKS]? with
    | some (some v) =>
      let c₁ := c.setSlot (c.read % NTASKS) none
      some (some v,
        { c₁ with read := wrappingAdd w c.read 1, sendWakers := c.sendWakers.notifyOne.1 })
    | _ => none
  else some (none, c)

@[simp] theorem setSlot_read (c : Channel α) (i : Nat) (v : Option α) :
    (c.setSlot i v).read = c.read := rfl

@[simp] theorem setSlot_write (c : Channel α) (i : Nat) (v : Option α) :
    (c.setSlot i v).write = c.write := rfl

@[simp] theorem setSlot_buffer (c : Channel α) (i : Nat) (v : Option α) :
    (c.setSlot i v).buffer = c.buffer.set i v := rfl

/-! ## The FIFO queue the buffer holds -/

/-- **The cursors and slots hold the queue `q`**: `write - read` values wait,
the slot of cursor `read + j` holds `q[j]` below that and is uninitialised
above it, and `write` has not wrapped. -/
structure Represents (w : Nat) (c : Channel α) (q : List α) : Prop where
  read_le_write : c.read ≤ c.write
  length_eq : c.write - c.read = q.length
  length_le : q.length ≤ NTASKS
  write_lt : c.write < 2 ^ w
  slot : ∀ j < NTASKS, c.buffer[(c.read + j) % NTASKS]? = some q[j]?

theorem represents_new (w : Nat) : Represents w (new : Channel α) [] where
  read_le_write := le_rfl
  length_eq := rfl
  length_le := Nat.zero_le _
  write_lt := Nat.two_pow_pos w
  slot j hj := by
    simp only [new, Nat.zero_add, Nat.mod_eq_of_lt hj, List.getElem?_replicate, hj,
      if_true, List.getElem?_nil]

/-- A full queue refuses the value, whatever the cursors' width. -/
theorem trySend_of_full {c : Channel α} {q : List α} {w : Nat} (h : Represents w c q)
    (hfull : q.length = NTASKS) (v : α) : c.trySend w v = .error v := by
  have hmod := Nat.mod_le (c.read + NTASKS) (2 ^ w)
  have := h.length_eq
  have := h.read_le_write
  unfold trySend wrappingAdd
  rw [if_neg (by omega)]

/-- **`try_send` appends** to a queue that is not full, as long as `read + cap`
does not overflow. -/
theorem trySend_of_lt {c : Channel α} {q : List α} {w : Nat} (h : Represents w c q)
    (hw : c.read + NTASKS < 2 ^ w) (hlt : q.length < NTASKS) (v : α) :
    ∃ c', c.trySend w v = .ok c' ∧ Represents w c' (q ++ [v]) ∧ c'.read = c.read := by
  obtain ⟨hle, hlen, -, -, hslot⟩ := h
  refine ⟨_, if_pos (by rw [wrappingAdd_of_lt hw]; omega), ⟨?_, ?_, ?_, ?_, ?_⟩, rfl⟩
  all_goals simp only [setSlot_read, setSlot_write, setSlot_buffer, List.length_append,
    List.length_singleton, wrappingAdd_of_lt (show c.write + 1 < 2 ^ w by omega)]
  · omega
  · omega
  · omega
  · omega
  · intro j hj
    rw [List.getElem?_set]
    split
    -- the written slot is the one just past the queue
    · have : j = q.length := by unfold NTASKS at *; omega
      subst this
      simp [c.buffer_length, Nat.mod_lt, NTASKS]
    · rw [hslot j hj]
      have hne : j ≠ q.length := by rintro rfl; unfold NTASKS at *; omega
      rcases Nat.lt_or_gt_of_ne hne with hj' | hj'
      · rw [List.getElem?_append_left hj']
      · rw [List.getElem?_eq_none (by omega), List.getElem?_eq_none (by simp; omega)]

theorem tryRecv_of_nil {c : Channel α} {w : Nat} (h : Represents w c []) :
    c.tryRecv w = some (none, c) := by
  have hlen := h.length_eq
  have := h.read_le_write
  rw [List.length_nil] at hlen
  unfold tryRecv
  rw [if_neg (by omega)]

/-- **`try_recv` moves the oldest value out**, and leaves its slot
uninitialised. -/
theorem tryRecv_of_cons {c : Channel α} {v : α} {q : List α} {w : Nat}
    (h : Represents w c (v :: q)) :
    ∃ c', c.tryRecv w = some (some v, c') ∧ Represents w c' q ∧ c'.read = c.read + 1 := by
  obtain ⟨hle, hlen, hcap, hw, hslot⟩ := h
  simp only [List.length_cons] at hlen hcap
  have hfront : c.buffer[c.read % NTASKS]? = some (some v) := by
    simpa using hslot 0 (by decide)
  have hread : wrappingAdd w c.read 1 = c.read + 1 := wrappingAdd_of_lt (by omega)
  unfold tryRecv
  rw [if_pos (by omega), hfront]
  refine ⟨_, rfl, ⟨?_, ?_, by omega, hw, ?_⟩, hread⟩
  all_goals simp only [setSlot_write, setSlot_buffer, hread]
  · omega
  · omega
  · intro j hj
    rw [List.getElem?_set]
    split
    -- the vacated slot is the last one of the new window
    · have : j = NTASKS - 1 := by unfold NTASKS at *; omega
      subst this
      simp [c.buffer_length, Nat.mod_lt _ (show 0 < NTASKS by decide),
        List.getElem?_eq_none (show q.length ≤ NTASKS - 1 by unfold NTASKS at *; omega)]
    · have hj' : j + 1 < NTASKS := by unfold NTASKS at *; omega
      simpa [Nat.add_assoc, Nat.add_comm 1 j] using hslot (j + 1) hj'

/-- **Past the wrap point `try_send` refuses everything.**  Once `read + cap`
reaches `2 ^ w`, the wrapped sum is at most `read`, so `write < read + cap`
fails whatever the queue holds. -/
theorem trySend_of_overflow {c : Channel α} {q : List α} {w : Nat} (h : Represents w c q)
    (hov : 2 ^ w ≤ c.read + NTASKS) (hcap : NTASKS ≤ 2 ^ w) (v : α) :
    c.trySend w v = .error v := by
  have := h.read_le_write
  have := h.write_lt
  have hwrap : wrappingAdd w c.read NTASKS = c.read + NTASKS - 2 ^ w := by
    unfold wrappingAdd
    rw [Nat.mod_eq_sub_mod hov, Nat.mod_eq_of_lt (by omega)]
  unfold trySend
  rw [if_neg (by omega)]

/-! ## Runs of calls -/

/-- A call on the channel (a poll of a `Send` or `Recv` future makes one too). -/
inductive ChanOp (α : Type)
  | send (v : α)
  | recv

/-- The channel after one call; `none` is undefined behaviour. -/
def apply (w : Nat) (c : Channel α) : ChanOp α → Option (Channel α)
  | .send v =>
    match c.trySend w v with
    | .ok c' => some c'
    | .error _ => some c
  | .recv => (c.tryRecv w).map Prod.snd

/-- A sequence of calls. -/
def run (w : Nat) (c : Channel α) : List (ChanOp α) → Option (Channel α)
  | [] => some c
  | op :: ops => (c.apply w op).bind fun c' => c'.run w ops

theorem run_append (w : Nat) (c : Channel α) (ops₁ ops₂ : List (ChanOp α)) :
    c.run w (ops₁ ++ ops₂) = (c.run w ops₁).bind fun c' => c'.run w ops₂ := by
  induction ops₁ generalizing c with
  | nil => rfl
  | cons op ops ih =>
    rw [List.cons_append]
    simp only [run, ih, Option.bind_assoc]

/-- `n` rounds of one `try_send` and one `try_recv` on an empty channel leave it
empty, with both cursors advanced by `n`, while `read + cap` stays below
`2 ^ w`. -/
theorem run_pairs {c : Channel α} {w : Nat} (v : α) :
    ∀ n, Represents w c [] → c.read + n + NTASKS ≤ 2 ^ w →
      ∃ c', c.run w (List.replicate n [.send v, .recv]).flatten = some c' ∧
        Represents w c' [] ∧ c'.read = c.read + n := by
  intro n
  induction n generalizing c with
  | zero => intro h _; exact ⟨c, rfl, h, rfl⟩
  | succ n ih =>
    intro h hw
    obtain ⟨c₁, hsend, h₁, hread₁⟩ := trySend_of_lt h (by omega) (Nat.succ_pos _) v
    obtain ⟨c₂, hrecv, h₂, hread₂⟩ := tryRecv_of_cons h₁
    obtain ⟨c', hrun, h', hread'⟩ := ih h₂ (by omega)
    refine ⟨c', ?_, h', by omega⟩
    rw [List.replicate_succ, List.flatten_cons, run_append]
    simp [run, apply, hsend, hrecv, hrun]

/-! ## The bounded FIFO queue it implements -/

/-- **What a channel is for**: a FIFO queue of at most `NTASKS` values.  A send
to a full queue is refused and leaves the queue as it is; a receive takes the
oldest value out, if there is one. -/
def Fifo.apply (q : List α) : ChanOp α → List α
  | .send v => if q.length < NTASKS then q ++ [v] else q
  | .recv => q.tail

/-- The queue after a sequence of calls. -/
def Fifo.run (q : List α) (ops : List (ChanOp α)) : List α := ops.foldl Fifo.apply q

/-- **One call refines the FIFO**: below the wrap point, a call on a channel
holding `q` is defined and leaves it holding what the same call gives on the
FIFO list, with `read` advanced by at most one. -/
theorem apply_represents {c : Channel α} {q : List α} {w : Nat} (h : Represents w c q)
    (hw : c.read + NTASKS < 2 ^ w) :
    ∀ op, ∃ c', c.apply w op = some c' ∧ Represents w c' (Fifo.apply q op) ∧ c'.read ≤ c.read + 1
  | .send v => by
    by_cases hlt : q.length < NTASKS
    · obtain ⟨c', hs, h', hr⟩ := trySend_of_lt h hw hlt v
      exact ⟨c', by simp [apply, hs], by simpa [Fifo.apply, hlt] using h', by omega⟩
    · have hfull : q.length = NTASKS := le_antisymm h.length_le (not_lt.mp hlt)
      exact ⟨c, by simp [apply, trySend_of_full h hfull v], by simpa [Fifo.apply, hlt] using h,
        Nat.le_succ _⟩
  | .recv => by
    cases q with
    | nil => exact ⟨c, by simp [apply, tryRecv_of_nil h], h, Nat.le_succ _⟩
    | cons v q =>
      obtain ⟨c', hr, h', hread⟩ := tryRecv_of_cons h
      exact ⟨c', by simp [apply, hr], h', hread.le⟩

/-- **Every run below the wrap point refines the FIFO**: if `read + cap` stays
below `2 ^ w` for as many calls as the run makes, no call reads an
uninitialised slot, and the channel ends holding the queue the FIFO list gives. -/
theorem run_represents {w : Nat} :
    ∀ (ops : List (ChanOp α)) {c : Channel α} {q : List α}, Represents w c q →
      c.read + ops.length + NTASKS < 2 ^ w →
      ∃ c', c.run w ops = some c' ∧ Represents w c' (Fifo.run q ops)
  | [], c, _, h, _ => ⟨c, rfl, h⟩
  | op :: ops, c, _, h, hw => by
    obtain ⟨c₁, hstep, h₁, hread⟩ := apply_represents h (by simp at hw; omega) op
    obtain ⟨c', hrun, h'⟩ := run_represents ops h₁ (by simp at hw; omega)
    exact ⟨c', by simp [run, hstep, hrun], h'⟩

/-- **A channel is a bounded FIFO queue until its cursors near the wrap
point**: every run from `Channel::new` of fewer than `2 ^ w - NTASKS` calls
reads no uninitialised slot, and leaves the ring buffer holding exactly the
queue that the same sends and receives give on a FIFO list of capacity
`NTASKS`: nothing lost, duplicated or reordered. -/
theorem new_run_is_fifo (w : Nat) (ops : List (ChanOp α)) (hw : ops.length + NTASKS < 2 ^ w) :
    ∃ c, (new : Channel α).run w ops = some c ∧ Represents w c (Fifo.run [] ops) :=
  run_represents ops (represents_new w) (by simpa [new] using hw)

/-- Two sends and a receive at `w = 32` leave the second value queued. -/
theorem new_run_is_fifo_send_send_recv :
    [ChanOp.send 7, .send 8, .recv].length + NTASKS < 2 ^ 32 ∧
      ∃ c, (new : Channel Nat).run 32 [.send 7, .send 8, .recv] = some c ∧
        Represents 32 c [8] :=
  ⟨by decide, new_run_is_fifo 32 _ (by decide)⟩

/-! ## What the calls return -/

/-- What a call returns: `try_send`'s `Ok(())` or `Err(val)`, and `try_recv`'s
`Some(val)` or `None`. -/
inductive ChanRet (α : Type)
  | sent
  | refused (v : α)
  | received (v : Option α)
  deriving DecidableEq

/-- **One call and what it returns**; `none` is undefined behaviour. -/
def call (w : Nat) (c : Channel α) : ChanOp α → Option (ChanRet α × Channel α)
  | .send v =>
    match c.trySend w v with
    | .ok c' => some (.sent, c')
    | .error v => some (.refused v, c)
  | .recv => (c.tryRecv w).map fun r => (.received r.1, r.2)

/-- A sequence of calls and what each returns. -/
def runRets (w : Nat) (c : Channel α) : List (ChanOp α) → Option (List (ChanRet α) × Channel α)
  | [] => some ([], c)
  | op :: ops => (c.call w op).bind fun r => (r.2.runRets w ops).map fun r' => (r.1 :: r'.1, r'.2)

/-- What a call returns on the FIFO queue, and the queue after it. -/
def Fifo.call (q : List α) : ChanOp α → ChanRet α × List α
  | .send v => if q.length < NTASKS then (.sent, q ++ [v]) else (.refused v, q)
  | .recv => (.received q.head?, q.tail)

/-- What a sequence of calls returns on the FIFO queue. -/
def Fifo.rets (q : List α) : List (ChanOp α) → List (ChanRet α)
  | [] => []
  | op :: ops => (Fifo.call q op).1 :: Fifo.rets (Fifo.call q op).2 ops

@[simp] theorem Fifo.call_snd (q : List α) (op : ChanOp α) : (Fifo.call q op).2 = Fifo.apply q op := by
  cases op <;> simp [Fifo.call, Fifo.apply, apply_ite]

/-- **One call returns what the FIFO returns**, below the wrap point: `Ok` or
`Err` as the queue has room or not, and the oldest value or `None`. -/
theorem call_represents {c : Channel α} {q : List α} {w : Nat} (h : Represents w c q)
    (hw : c.read + NTASKS < 2 ^ w) :
    ∀ op, ∃ c', c.call w op = some ((Fifo.call q op).1, c') ∧ Represents w c' (Fifo.apply q op) ∧
      c'.read ≤ c.read + 1
  | .send v => by
    by_cases hlt : q.length < NTASKS
    · obtain ⟨c', hs, h', hr⟩ := trySend_of_lt h hw hlt v
      exact ⟨c', by simp [call, hs, Fifo.call, hlt], by simpa [Fifo.apply, hlt] using h', by omega⟩
    · have hfull : q.length = NTASKS := le_antisymm h.length_le (not_lt.mp hlt)
      exact ⟨c, by simp [call, trySend_of_full h hfull v, Fifo.call, hlt],
        by simpa [Fifo.apply, hlt] using h, Nat.le_succ _⟩
  | .recv => by
    cases q with
    | nil => exact ⟨c, by simp [call, tryRecv_of_nil h, Fifo.call], h, Nat.le_succ _⟩
    | cons v q =>
      obtain ⟨c', hr, h', hread⟩ := tryRecv_of_cons h
      exact ⟨c', by simp [call, hr, Fifo.call], h', hread.le⟩

/-- Every run below the wrap point returns what the FIFO returns. -/
theorem runRets_represents {w : Nat} :
    ∀ (ops : List (ChanOp α)) {c : Channel α} {q : List α}, Represents w c q →
      c.read + ops.length + NTASKS < 2 ^ w →
      ∃ c', c.runRets w ops = some (Fifo.rets q ops, c') ∧ Represents w c' (Fifo.run q ops)
  | [], c, _, h, _ => ⟨c, rfl, h⟩
  | op :: ops, c, q, h, hw => by
    obtain ⟨c₁, hstep, h₁, hread⟩ := call_represents h (by simp at hw; omega) op
    obtain ⟨c', hrun, h'⟩ := runRets_represents ops h₁ (by simp at hw; omega)
    exact ⟨c', by simp [runRets, hstep, Fifo.rets, hrun], h'⟩

/-- **Every call returns what the bounded FIFO queue returns**: in every run
from `Channel::new` of fewer than `2 ^ w - NTASKS` calls, `try_send` returns
`Ok(())` exactly when the queue has room and `Err(val)` with the value it was
given otherwise, and `try_recv` returns the oldest value queued, or `None` on
an empty queue; and the ring buffer ends holding the queue. -/
theorem new_run_returns_fifo (w : Nat) (ops : List (ChanOp α)) (hw : ops.length + NTASKS < 2 ^ w) :
    ∃ c, (new : Channel α).runRets w ops = some (Fifo.rets [] ops, c) ∧ Represents w c (Fifo.run [] ops) :=
  runRets_represents ops (represents_new w) (by simpa [new] using hw)

/-- A full queue refuses the ninth value, and the first value comes out first. -/
theorem new_run_returns_fifo_full :
    (List.replicate 9 (ChanOp.send 5) ++ [ChanOp.recv]).length + NTASKS < 2 ^ 32 ∧
      ∃ c, (new : Channel Nat).runRets 32 (List.replicate 9 (ChanOp.send 5) ++ [ChanOp.recv]) =
        some (List.replicate 8 (ChanRet.sent : ChanRet Nat) ++ [.refused 5, .received (some 5)], c) ∧
        (new : Channel Nat).runRets 32 (List.replicate 9 (ChanOp.send 5) ++ [ChanOp.recv]) =
          some (Fifo.rets [] (List.replicate 9 (ChanOp.send 5) ++ [ChanOp.recv]), c) ∧
        Represents 32 c (Fifo.run [] (List.replicate 9 (ChanOp.send 5) ++ [ChanOp.recv])) := by
  obtain ⟨c, h, hc⟩ := new_run_returns_fifo 32 (List.replicate 9 (ChanOp.send 5) ++ [ChanOp.recv]) (by decide)
  exact ⟨by decide, c, h.trans (by rfl), h, hc⟩

end Channel

/-- **`try_send` refuses a value on an empty channel.**  At `w = 32`, after
`2 ^ 32 - NTASKS` values have been sent and received, `read = write`: the
channel is empty.  `read + cap` overflows `usize`: a release build compares
`write` with the wrapped sum `0` and returns `Err(v)`, as if the buffer were
full (a debug build panics on the addition instead). -/
theorem trySend_refused_on_empty_channel (v : α) :
    ∃ c : Channel α, Channel.new.run 32 (List.replicate (2 ^ 32 - NTASKS) [.send v, .recv]).flatten =
      some c ∧ c.read = c.write ∧ 2 ^ 32 ≤ c.read + NTASKS ∧ c.trySend 32 v = .error v := by
  obtain ⟨c, hrun, h, hread⟩ :=
    Channel.run_pairs v (2 ^ 32 - NTASKS) (@Channel.represents_new α 32)
      (show 0 + (2 ^ 32 - NTASKS) + NTASKS ≤ 2 ^ 32 by decide)
  have hempty : c.read = c.write := by have := h.length_eq; have := h.read_le_write; simp at *; omega
  have hov : 2 ^ 32 ≤ c.read + NTASKS := by
    rw [hread]; show 2 ^ 32 ≤ 0 + (2 ^ 32 - NTASKS) + NTASKS; decide
  exact ⟨c, hrun, hempty, hov, Channel.trySend_of_overflow h hov (by decide) v⟩

end AsyncEmbedded
