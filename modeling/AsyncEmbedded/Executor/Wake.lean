import AsyncEmbedded.Executor.Round

/-!
# Wakes are not lost on ARM, and are on the `wfi` port

A `wake` (from an interrupt handler, or from a poll through `wake` /
`wake_by_ref`) stores `true` into a ready flag.  On ARM the store is followed by
a poll of the woken computation in the same round or the next, and the loop
never blocks in between (`store_is_followed_by_poll`): either the flag's `clear`
is still ahead in the round, and the round cannot end before it; or it is
behind, and `task_woken` (set by the poll that stored) or the event register
(set by the interrupt that stored) keeps the end of the round from sleeping,
so that the next round reaches it.

The `riscv-wait-wfi-single-hart` hooks have no such register: an interrupt
that lands after the round's last load and returns before `wfi` leaves its
flag set while the hart sleeps (`wfi_blocks_with_main_ready`).

Only the sleeping is the platform's: on every platform a stored flag is reached
within the next round (`flag_round_bound`), and on `riscv-wait-nop`, whose
`wait_for_event` never sleeps, a wake is followed by a poll as on ARM
(`store_is_followed_by_poll_nop`).  A spawned task's flag starts set, and the
loop reads the table's length again at every round, so on ARM a spawned task
is polled in the same round or the next (`spawned_is_followed_by_poll`).
-/

namespace AsyncEmbedded.Executor

open BlockOn

variable {σ : Type} {P : Platform σ}

/-- The flags an event stores `true` into. -/
def Event.stores : Event → List Comp
  | .irq ws => ws
  | .poll _ e => e.wakes
  | _ => []

/-- A store sets the flag. -/
theorem flag_of_stores {s t : BlockOn σ} {e : Event} {x : Comp} (hst : Step P s e t)
    (hx : x ∈ e.stores) : t.flag x = true := by
  cases hst with
  | pollMain e r _ hfit => exact flag_afterPoll_of_mem hx hfit
  | pollTask e _ hfit => exact flag_afterPoll_of_mem hx hfit
  | irq ws _ hall => exact flag_storeAll_of_mem hx hall
  | _ => simp [Event.stores] at hx

/-- **What follows a store into the flag of `x`**: every run from there that has
not begun a poll of `x` crosses at most one round, is not blocked in
`wait_for_event`, runs at most two rounds' worth of statements, and ends where
the loop goes on, is inside a poll, or has returned. -/
def PollFollows (P : Platform σ) (s : BlockOn σ) (x : Comp) : Prop :=
  ∀ {es u}, Run P s es u → .clear x ∉ es →
    es.count .round ≤ 1 ∧ (u.pc = .waiting → P.canReturn u.hook = true) ∧
      steps es ≤ 2 * (7 + 3 * NTASKS) ∧
      (u.pc = .done ∨ u.pc.polling = true ∨ (u.advance P).isSome = true)

/-- On ARM, `task_woken` or the event register, once set inside a round, stays
set until the round ends. -/
theorem armGo_step {s t : BlockOn Bool} {e : Event} (hst : Step Platform.arm s e t)
    (he : e ≠ .round) (htop : s.pc ≠ .top) (h : s.taskWoken = true ∨ s.hook = true) :
    t.taskWoken = true ∨ t.hook = true := by
  rcases h with h | h <;> cases hst <;> simp_all [Platform.arm]

/-- **On ARM a wake is followed by a poll of the woken computation**, in the same
round or the next, with the loop never blocked in between. -/
theorem store_is_followed_by_poll {s s₁ : BlockOn Bool} {a : Action} {e : Event} {x : Comp}
    (hs : Reachable Platform.arm s) (hst : s.step Platform.arm a = some (e, s₁))
    (hx : x ∈ e.stores) : PollFollows Platform.arm s₁ x := by
  intro es u hr hc
  have hst := Step.of_step _ hst
  have hi₁ := hs.inv.step hst
  have hiu := hr.inv hi₁
  have hf := flag_of_stores hst hx
  suffices h : es.count .round ≤ 1 ∧ (u.pc = .waiting → u.hook = true) ∧
      steps es ≤ 2 * (7 + 3 * NTASKS) from ⟨h.1, h.2.1, h.2.2, progress h.2.1⟩
  by_cases ha : s₁.Ahead x
  · -- the flag's `clear` is still ahead in this round
    obtain ⟨hnr, hau, hfu⟩ := ahead_run hr ha hf hc
    have := (segment hi₁ hr hnr).1
    have := hau.rank_le hiu hfu
    exact ⟨by simp [List.count_eq_zero.mpr hnr], fun hw => absurd hw hau.not_sleep.2, by omega⟩
  · -- it is behind: `task_woken` or the event register ends the round without sleeping
    have htop : s₁.pc ≠ .top := fun h => ha (ahead_of_top h x)
    have hgo : s₁.taskWoken = true ∨ s₁.hook = true := by
      cases e with
      | irq ws => cases hst; exact .inr rfl
      | poll y eff => exact .inl (poll_step hs.inv hst).2.2.2.1
      | _ => simp [Event.stores] at hx
    obtain ⟨hcount, hgo', hsteps⟩ := behind_run (fun s => s.taskWoken = true ∨ s.hook = true)
      (fun _ hst he htop h => armGo_step hst he htop h) hi₁ hr hf hc htop hgo
    refine ⟨hcount, fun hw => ?_, by omega⟩
    rcases hgo' with h | h
    · simpa [hiu.waiting hw] using h
    · exact absurd hw h.not_sleep.2

/-- Two interrupts that wake the main future.  The first comes at the top of
`block_on`'s first round, with the load of the main flag still ahead.  The
second comes in the second round, after the round's last load: the main
future's poll in the first round returned `Pending`, the second round read its
flag `false` and polled nothing, so `task_woken` is clear and the loop is about
to call `wait_for_event`.  There only the event register keeps it awake. -/
theorem store_is_followed_by_poll_before_and_after_load :
    (Reachable Platform.arm (BlockOn.init [] false) ∧
      (BlockOn.init [] false).step Platform.arm (.irq [.main]) =
        some (.irq [.main], ⟨.top, true, [], false, 0, true⟩) ∧
      Comp.main ∈ (Event.irq [.main]).stores ∧
      PollFollows Platform.arm ⟨.top, true, [], false, 0, true⟩ .main) ∧
    (Reachable Platform.arm ⟨.sleep, false, [], false, 0, false⟩ ∧
      (⟨.sleep, false, [], false, 0, false⟩ : BlockOn Bool).step Platform.arm (.irq [.main]) =
        some (.irq [.main], ⟨.sleep, true, [], false, 0, true⟩) ∧
      Comp.main ∈ (Event.irq [.main]).stores ∧
      PollFollows Platform.arm ⟨.sleep, true, [], false, 0, true⟩ .main) :=
  have hs₀ : Reachable Platform.arm (BlockOn.init [] false) := ⟨[], false, [], by decide, .refl _⟩
  have hst₀ : (BlockOn.init [] false).step Platform.arm (.irq [.main]) =
      some (.irq [.main], ⟨.top, true, [], false, 0, true⟩) := rfl
  have hs : Reachable Platform.arm ⟨.sleep, false, [], false, 0, false⟩ :=
    ⟨[], false, _, by decide, Run.of_exec [.next, .next, .next, .poll ⟨[], false, 0⟩ false,
      .next, .next, .next, .next, .next, .next, .next] rfl⟩
  have hst : (⟨.sleep, false, [], false, 0, false⟩ : BlockOn Bool).step Platform.arm (.irq [.main]) =
      some (.irq [.main], ⟨.sleep, true, [], false, 0, true⟩) := rfl
  ⟨⟨hs₀, hst₀, List.mem_singleton_self _, store_is_followed_by_poll hs₀ hst₀ (List.mem_singleton_self _)⟩,
    ⟨hs, hst, List.mem_singleton_self _, store_is_followed_by_poll hs hst (List.mem_singleton_self _)⟩⟩

/-! ## What does not depend on the platform -/

/-- **On every platform a set flag is reached within the next round**: a run
from a reachable state in which `x`'s flag is set, that has not begun a poll of
`x`, crosses at most one round and runs at most two rounds' worth of
statements.  Only whether `wait_for_event` returns in between is the
platform's. -/
theorem flag_round_bound {P : Platform σ} {s u : BlockOn σ} {x : Comp} {es : List Event}
    (hi : Inv s) (hf : s.flag x = true) (hr : Run P s es u) (hc : .clear x ∉ es) :
    es.count .round ≤ 1 ∧ steps es ≤ 2 * (7 + 3 * NTASKS) := by
  by_cases ha : s.Ahead x
  · -- the flag's `clear` is still ahead in this round
    obtain ⟨hnr, hau, hfu⟩ := ahead_run hr ha hf hc
    have := (segment hi hr hnr).1
    have := hau.rank_le (hr.inv hi) hfu
    exact ⟨by simp [List.count_eq_zero.mpr hnr], by omega⟩
  · -- it is behind: the next round has it ahead
    obtain ⟨hcount, -, hsteps⟩ := behind_run (fun _ => True) (fun _ _ _ _ _ => trivial) hi hr hf hc
      (fun h => ha (ahead_of_top h x)) trivial
    exact ⟨hcount, by omega⟩

/-- **On `riscv-wait-nop` a wake is followed by a poll of the woken
computation**, in the same round or the next: `wait_for_event` never sleeps, so
nothing but the round structure stands between the store and the poll. -/
theorem store_is_followed_by_poll_nop {s s₁ : BlockOn Unit} {a : Action} {e : Event} {x : Comp}
    (hs : Reachable Platform.nop s) (hst : s.step Platform.nop a = some (e, s₁))
    (hx : x ∈ e.stores) : PollFollows Platform.nop s₁ x := by
  intro es u hr hc
  have hst := Step.of_step _ hst
  have hwait : u.pc = .waiting → Platform.nop.canReturn u.hook = true := fun _ => rfl
  obtain ⟨hcount, hsteps⟩ := flag_round_bound (hs.inv.step hst) (flag_of_stores hst hx) hr hc
  exact ⟨hcount, hwait, hsteps, progress hwait⟩

/-- An interrupt at the start of `block_on` on `riscv-wait-nop`. -/
theorem store_is_followed_by_poll_nop_at_start :
    Reachable Platform.nop (BlockOn.init [] ()) ∧
      (BlockOn.init [] ()).step Platform.nop (.irq [.main]) =
        some (.irq [.main], ⟨.top, true, [], false, 0, ()⟩) ∧
      Comp.main ∈ (Event.irq [.main]).stores ∧
      PollFollows Platform.nop ⟨.top, true, [], false, 0, ()⟩ .main :=
  have hs : Reachable Platform.nop (BlockOn.init [] ()) := ⟨[], (), [], by decide, .refl _⟩
  have hst : (BlockOn.init [] ()).step Platform.nop (.irq [.main]) =
      some (.irq [.main], ⟨.top, true, [], false, 0, ()⟩) := rfl
  ⟨hs, hst, List.mem_singleton_self _, store_is_followed_by_poll_nop hs hst (List.mem_singleton_self _)⟩

/-! ## Spawned tasks -/

/-- `spawn` pushes tasks whose flag is set: a poll's spawned tasks are ready. -/
theorem flag_of_spawns {s t : BlockOn σ} {y : Comp} {eff : PollEffect}
    (hst : Step P s (.poll y eff) t) {i : Nat} (hi₁ : s.tasks.length ≤ i)
    (hi₂ : i < s.tasks.length + eff.spawns) : t.flag (.task i) = true := by
  have hsp : (s.spawn eff.spawns).flag (.task i) = true := by
    simp only [flag, spawn, List.getD_eq_getElem?_getD, List.getElem?_append_right hi₁,
      List.getElem?_replicate]
    simp [show i - s.tasks.length < eff.spawns by omega]
  have := flag_storeAll eff.wakes hsp
  cases hst <;> (unfold afterPoll; split) <;> simpa [flag] using this

/-- **On ARM a flagged computation is polled within the next round**, from a
reachable state whose round, once past its top, cannot sleep: `task_woken` or
the event register is set. -/
theorem follows_of_flag_arm {s : BlockOn Bool} {x : Comp} (hi : Inv s) (hf : s.flag x = true)
    (hgo : s.pc ≠ .top → s.taskWoken = true ∨ s.hook = true) : PollFollows Platform.arm s x := by
  intro es u hr hc
  obtain ⟨hcount, hsteps⟩ := flag_round_bound hi hf hr hc
  have hwait : u.pc = .waiting → u.hook = true := by
    by_cases ha : s.Ahead x
    · exact fun hw => absurd hw (ahead_run hr ha hf hc).2.1.not_sleep.2
    · have htop : s.pc ≠ .top := fun h => ha (ahead_of_top h x)
      obtain ⟨-, hgo', -⟩ := behind_run (fun s => s.taskWoken = true ∨ s.hook = true)
        (fun _ hst he htop h => armGo_step hst he htop h) hi hr hf hc htop (hgo htop)
      intro hw
      rcases hgo' with h | h
      · simpa [(hr.inv hi).waiting hw] using h
      · exact absurd hw h.not_sleep.2
  exact ⟨hcount, hwait, hsteps, progress hwait⟩

/-- **On ARM a spawned task is polled in the same round or the next**, with the
loop never blocked in between.  The loop reads the table's length again at
every round (line (A)), and the spawning poll set `task_woken`, so the round in
which the task was pushed does not sleep. -/
theorem spawned_is_followed_by_poll {s s₁ : BlockOn Bool} {a : Action} {y : Comp}
    {eff : PollEffect} {i : Nat} (hs : Reachable Platform.arm s)
    (hst : s.step Platform.arm a = some (.poll y eff, s₁)) (hi₁ : s.tasks.length ≤ i)
    (hi₂ : i < s.tasks.length + eff.spawns) : PollFollows Platform.arm s₁ (.task i) :=
  have hst := Step.of_step _ hst
  follows_of_flag_arm (hs.inv.step hst) (flag_of_spawns hst hi₁ hi₂)
    fun _ => .inl (poll_step hs.inv hst).2.2.2.1

/-- The main future's first poll spawns a task. -/
theorem spawned_is_followed_by_poll_first :
    ∃ s s₁, Reachable Platform.arm s ∧
      s.step Platform.arm (.poll ⟨[], false, 1⟩ false) = some (.poll .main ⟨[], false, 1⟩, s₁) ∧
      s.tasks.length ≤ 0 ∧ 0 < s.tasks.length + 1 ∧ PollFollows Platform.arm s₁ (.task 0) :=
  have hs : Reachable Platform.arm ⟨.pollMain, false, [], true, 0, false⟩ :=
    ⟨[], false, _, by decide, Run.of_exec [.next, .next, .next] rfl⟩
  have hst : (⟨.pollMain, false, [], true, 0, false⟩ : BlockOn Bool).step Platform.arm
      (.poll ⟨[], false, 1⟩ false) =
      some (.poll .main ⟨[], false, 1⟩, ⟨.readLen, false, [true], true, 0, false⟩) := rfl
  ⟨_, _, hs, hst, le_rfl, Nat.one_pos, spawned_is_followed_by_poll hs hst le_rfl Nat.one_pos⟩

/-! ## The `wfi` port -/

/-- **The `wfi` port blocks with the main future's flag set.**  The first round
polls the main future, which returns `Pending`; the second round reads its flag
`false`, finds no task, and reaches `wait_for_event`.  An interrupt then wakes
the main future, and returns, before `wfi` begins: `TASK_READY` is clear, so
`wfi` starts and waits for an interrupt that will not come. -/
theorem wfi_blocks_with_main_ready :
    ∃ es u, Run Platform.wfi (BlockOn.init [] ⟨false, false, false⟩) es u ∧
      u.pc = .waiting ∧ u.advance Platform.wfi = none ∧ u.flag .main = true :=
  ⟨_, _, Run.of_exec [.next, .next, .next, .poll ⟨[], false, 0⟩ false, .next, .next, .next, .next,
    .next, .next, .next, .irq [.main], .next] rfl, rfl, rfl, rfl⟩

end AsyncEmbedded.Executor
