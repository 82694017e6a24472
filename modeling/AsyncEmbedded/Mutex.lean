import AsyncEmbedded.WakerSet

/-!
# The mutex (`unsync::mutex`)

A `Mutex<T>` is a `locked` flag and a `WakerSet` of the `Lock` futures waiting
for it.  `try_lock` sets the flag and hands out a `MutexGuard`; dropping the
guard clears the flag and calls `notify_any`.  `Mutex::lock` returns a `Lock`
future whose poll removes its previous registry key, tries the lock, and
registers again when the lock is taken; dropping a `Lock` that still holds a key
calls `cancel`.

`MutexSystem` is one mutex together with everything that refers to it: the
`Lock` futures created so far and the guards alive.  Its actions are the
program's: create a `Lock`, poll one, drop one, `try_lock` from outside a
future, drop a guard, leak a guard (`mem::forget`).  A waker is the index of the
`Lock` future whose task polled it.

`guards_exclusive` is the mutual exclusion the type promises: at most one guard
is alive, and the flag is set while one is.  The registry side does not hold up
as well: `lost_wakeup_after_notified_lock_dropped` is a run in which a notified
waiter is dropped and its pending wake-up is lost, and
`two_notified_after_key_reuse` one in which `notify_any` adds a second
notification while the first is still in flight.  The lost wake-up needs the
drop: in a run in which no `Lock` is dropped, a free mutex with a waiter always
has a wake-up in flight (`waiter_woken_without_drops`), and while at most
`NTASKS` `Lock` futures are alive no poll of one panics
(`lock_polls_defined_without_drops`).
-/

namespace AsyncEmbedded

variable {W : Type}

/-- **`Mutex<T>`**: the flag and the registry (the protected value is only read
through the guard's `Deref`, which the model leaves out). -/
structure Mutex (W : Type) where
  locked : Bool
  wakers : Inner W

namespace Mutex

/-- `Mutex::new`. -/
def new : Mutex W := ⟨false, Inner.new⟩

/-- **`Mutex::try_lock`**: the mutex after handing out a guard, or `none` if it
is held. -/
def tryLock (m : Mutex W) : Option (Mutex W) :=
  if !m.locked then some { m with locked := true } else none

/-- **`Drop for MutexGuard`**: clear the flag, then `notify_any`; also returns
the woken waker. -/
def dropGuard (m : Mutex W) : Mutex W × Option W :=
  let r := m.wakers.notifyAny
  (⟨false, r.1⟩, r.2)

/-- What `Lock::poll` returns. -/
inductive LockPoll
  /-- `Poll::Ready(guard)`. -/
  | ready
  /-- `Poll::Pending`, with the key the poll registered under. -/
  | pending (key : Nat)

/-- **`Lock::poll`** of a `Lock` whose `opt_key` is `optKey`, with waker `w`:
remove the old key, try the lock, and register on failure.  `none` is the
`OOM` panic of a full registry. -/
def pollLock (m : Mutex W) (optKey : Option Nat) (w : W) : Option (Mutex W × LockPoll) :=
  let m₁ : Mutex W := { m with wakers := m.wakers.removeOpt optKey }
  match m₁.tryLock with
  | some m₂ => some (m₂, .ready)
  | none => (m₁.wakers.insert w).map fun r => ({ m₁ with wakers := r.1 }, .pending r.2)

/-- **`Drop for Lock`**: `cancel` the key the future still holds. -/
def dropLock (m : Mutex W) (optKey : Option Nat) : Mutex W × Option W :=
  match optKey with
  | some k => let r := m.wakers.cancel k; ({ m with wakers := r.1 }, r.2)
  | none => (m, none)

theorem tryLock_eq_some {m m' : Mutex W} (h : m.tryLock = some m') :
    m.locked = false ∧ m' = { m with locked := true } := by
  unfold tryLock at h
  split at h <;> simp_all

theorem tryLock_eq_none {m : Mutex W} (h : m.tryLock = none) : m.locked = true := by
  unfold tryLock at h
  split at h <;> simp_all

/-- **A poll takes a free lock, or registers on a held one.** -/
theorem pollLock_eq_some {m m' : Mutex W} {optKey : Option Nat} {w : W} {r : LockPoll}
    (h : m.pollLock optKey w = some (m', r)) :
    (r = .ready ∧ m.locked = false ∧ m'.locked = true) ∨
      (m.locked = true ∧ m'.locked = true ∧ ∃ k, r = .pending k) := by
  dsimp only [pollLock] at h
  split at h
  · obtain ⟨hfree, rfl⟩ := tryLock_eq_some ‹_›
    cases h; exact .inl ⟨rfl, hfree, rfl⟩
  · have hheld := tryLock_eq_none ‹_›
    simp only [Option.map_eq_some'] at h
    obtain ⟨_, _, h⟩ := h
    cases h; exact .inr ⟨hheld, hheld, _, rfl⟩

@[simp] theorem dropLock_locked (m : Mutex W) (optKey : Option Nat) :
    (m.dropLock optKey).1.locked = m.locked := by
  cases optKey <;> rfl

@[simp] theorem dropGuard_locked (m : Mutex W) : m.dropGuard.1.locked = false := rfl

end Mutex

/-! ## The system -/

/-- A `Lock` future: alive with its `opt_key`, or finished (it returned its
guard, or was dropped). -/
inductive LockState
  | alive (optKey : Option Nat)
  | finished
  deriving DecidableEq, Repr

/-- One mutex, the `Lock` futures created on it (by index), and the number of
guards alive. -/
structure MutexSystem where
  mutex : Mutex Nat
  locks : List LockState
  guards : Nat

/-- What the program can do next. -/
inductive MutexAction
  /-- `Mutex::lock` creates a `Lock` future. -/
  | lock
  /-- The task owning `Lock` future `f` polls it. -/
  | poll (f : Nat)
  /-- `Lock` future `f` is dropped. -/
  | dropLock (f : Nat)
  /-- `Mutex::try_lock` from outside a `Lock` future. -/
  | tryLock
  /-- A guard is dropped. -/
  | dropGuard
  /-- A guard is leaked and never dropped. -/
  | leakGuard

namespace MutexSystem

/-- A fresh mutex: nothing refers to it yet. -/
def init : MutexSystem := ⟨Mutex.new, [], 0⟩

/-- **One action.**  `none` when the action is not possible (no such live
future, no guard) or panics (`OOM`). -/
def step (s : MutexSystem) : MutexAction → Option MutexSystem
  | .lock => some { s with locks := s.locks ++ [.alive none] }
  | .poll f =>
    match s.locks[f]? with
    | some (.alive k) =>
      (s.mutex.pollLock k f).map fun r =>
        match r.2 with
        | .ready => ⟨r.1, s.locks.set f .finished, s.guards + 1⟩
        | .pending k' => ⟨r.1, s.locks.set f (.alive (some k')), s.guards⟩
    | _ => none
  | .dropLock f =>
    match s.locks[f]? with
    | some (.alive k) => some ⟨(s.mutex.dropLock k).1, s.locks.set f .finished, s.guards⟩
    | _ => none
  | .tryLock => s.mutex.tryLock.map fun m => ⟨m, s.locks, s.guards + 1⟩
  | .dropGuard => if 0 < s.guards then some ⟨s.mutex.dropGuard.1, s.locks, s.guards - 1⟩ else none
  | .leakGuard => if 0 < s.guards then some { s with guards := s.guards - 1 } else none

/-- A sequence of actions. -/
def run (s : MutexSystem) : List MutexAction → Option MutexSystem
  | [] => some s
  | a :: as => (s.step a).bind fun s' => s'.run as

theorem run_cons {s s' : MutexSystem} {a : MutexAction} {as : List MutexAction}
    (h : s.run (a :: as) = some s') : ∃ s₁, s.step a = some s₁ ∧ s₁.run as = some s' := by
  simpa only [run, Option.bind_eq_some] using h

/-- **What an action does to the flag and the guard count**: nothing, or a
guard handed out on a free mutex, or a guard given up (dropped, which clears
the flag, or leaked, which leaves it). -/
theorem step_guards {s s' : MutexSystem} {a : MutexAction} (h : s.step a = some s') :
    (s'.mutex.locked = s.mutex.locked ∧ s'.guards = s.guards) ∨
    (s.mutex.locked = false ∧ s'.mutex.locked = true ∧ s'.guards = s.guards + 1) ∨
    (0 < s.guards ∧ s'.guards = s.guards - 1 ∧
      (s'.mutex.locked = false ∨ s'.mutex.locked = s.mutex.locked)) := by
  cases a with
  | lock => cases h; exact .inl ⟨rfl, rfl⟩
  | poll f =>
    simp only [step] at h
    split at h
    · simp only [Option.map_eq_some'] at h
      obtain ⟨⟨m, r⟩, hp, rfl⟩ := h
      rcases Mutex.pollLock_eq_some hp with ⟨rfl, hfree, htaken⟩ | ⟨hheld, htaken, k', rfl⟩
      · exact .inr (.inl ⟨hfree, htaken, rfl⟩)
      · exact .inl ⟨htaken.trans hheld.symm, rfl⟩
    · cases h
  | dropLock f =>
    simp only [step] at h
    split at h
    · cases h; exact .inl ⟨Mutex.dropLock_locked _ _, rfl⟩
    · cases h
  | tryLock =>
    simp only [step, Option.map_eq_some'] at h
    obtain ⟨m, hm, rfl⟩ := h
    obtain ⟨hfree, rfl⟩ := Mutex.tryLock_eq_some hm
    exact .inr (.inl ⟨hfree, rfl, rfl⟩)
  | dropGuard =>
    simp only [step] at h
    split at h
    · cases h; exact .inr (.inr ⟨‹_›, rfl, .inl rfl⟩)
    · cases h
  | leakGuard =>
    simp only [step] at h
    split at h
    · cases h; exact .inr (.inr ⟨‹_›, rfl, .inr rfl⟩)
    · cases h

/-- **Mutual exclusion**: at most one guard is alive, and the flag is set
while one is. -/
structure Exclusive (s : MutexSystem) : Prop where
  guards_le_one : s.guards ≤ 1
  locked_of_guard : 0 < s.guards → s.mutex.locked = true

theorem Exclusive.step {s s' : MutexSystem} {a : MutexAction} (hs : Exclusive s)
    (h : s.step a = some s') : Exclusive s' := by
  obtain ⟨hle, hlocked⟩ := hs
  rcases step_guards h with ⟨hl, hg⟩ | ⟨hfree, hl, hg⟩ | ⟨_, hg, hl | hl⟩
  · exact ⟨hg ▸ hle, fun h => hl ▸ hlocked (hg ▸ h)⟩
  -- the mutex was free, so no guard was alive
  · have : s.guards = 0 := Nat.eq_zero_of_not_pos fun h => by simp [hlocked h] at hfree
    exact ⟨by omega, fun _ => hl⟩
  all_goals exact ⟨by omega, fun _ => by omega⟩

theorem Exclusive.run {s s' : MutexSystem} {as : List MutexAction} (hs : Exclusive s)
    (h : s.run as = some s') : Exclusive s' := by
  induction as generalizing s with
  | nil => cases h; exact hs
  | cons a as ih =>
    obtain ⟨s₁, h₁, h⟩ := run_cons h
    exact ih (hs.step h₁) h

/-- **At most one `MutexGuard`**: after any sequence of `try_lock` calls, polls
and drops of `Lock` futures, and drops and leaks of guards, at most one guard of
the mutex is alive, and `locked` is set whenever one is. -/
theorem guards_exclusive {s : MutexSystem} {as : List MutexAction} (h : init.run as = some s) :
    s.guards ≤ 1 ∧ (0 < s.guards → s.mutex.locked = true) :=
  let hs := Exclusive.run ⟨Nat.zero_le 1, fun h => absurd h (Nat.lt_irrefl 0)⟩ h
  ⟨hs.guards_le_one, hs.locked_of_guard⟩

/-- A hand-off: a waiter registers behind a guard and takes the lock after its
release. -/
theorem guards_exclusive_after_handoff :
    ∃ s, init.run [.tryLock, .lock, .poll 0, .dropGuard, .poll 0] = some s ∧
      s.guards ≤ 1 ∧ (0 < s.guards → s.mutex.locked = true) :=
  ⟨_, rfl, @guards_exclusive _ [.tryLock, .lock, .poll 0, .dropGuard, .poll 0] rfl⟩

/-! ## Notifications in flight -/

/-- **A wake-up in flight**: an entry whose waker was taken, under a key still
held by a live `Lock` future, which will re-poll and try the lock. -/
def WakeInFlight (s : MutexSystem) : Prop :=
  ∃ k < s.mutex.wakers.entries.slots.length,
    s.mutex.wakers.entries.slots[k]? = some (some none) ∧ LockState.alive (some k) ∈ s.locks

instance (s : MutexSystem) : Decidable s.WakeInFlight :=
  inferInstanceAs (Decidable (∃ k < _, _ ∧ _))

/-- **A notified waiter dropped before it re-polls takes the wake-up with it.**
A guard is out; `Lock` futures 0 and 1 register (keys 0 and 1); the guard's drop
notifies key 0; future 0 is dropped.  `cancel(0)` gets `Some(None)` from the
slab, takes the `Some(_)` arm and wakes nobody: the mutex is free, future 1
still waits with a present waker, and no wake-up is in flight. -/
theorem lost_wakeup_after_notified_lock_dropped :
    ∃ s, init.run [.tryLock, .lock, .lock, .poll 0, .poll 1, .dropGuard, .dropLock 0] = some s ∧
      s.mutex.locked = false ∧ 0 < s.mutex.wakers.live ∧ ¬ s.WakeInFlight :=
  ⟨_, rfl, rfl, by decide, by decide⟩

/-- **`notify_any` adds a notification while one is in flight.**  Futures 0, 1
and 2 wait (keys 0, 1, 2); releases hand the lock to future 0 and then notify
key 1; a `try_lock` takes the free lock before future 1 re-polls; future 3
registers under the reused key 0; the next release notifies it.  `Notify::Any`
looks only at the first entry, so keys 0 and 1 are both notified. -/
theorem two_notified_after_key_reuse :
    ∃ s, init.run [.tryLock, .lock, .lock, .lock, .poll 0, .poll 1, .poll 2, .dropGuard,
      .poll 0, .dropGuard, .tryLock, .lock, .poll 3, .dropGuard] = some s ∧
      s.mutex.wakers.notified = 2 :=
  ⟨_, rfl, rfl⟩

end MutexSystem

/-! ## Without drops no wake-up is lost -/

/-- The `opt_key` of a `Lock` future (`none` once finished). -/
def LockState.optKey : LockState → Option Nat
  | .alive k => k
  | .finished => none

/-- Whether a `Lock` future is alive. -/
def LockState.isAlive : LockState → Bool
  | .alive _ => true
  | .finished => false

theorem LockState.isAlive_of_optKey : ∀ x : LockState, x.optKey.isSome → x.isAlive
  | .alive _, _ => rfl
  | .finished, h => by simp [optKey] at h

/-- **A `Lock` poll is defined** when the registry, its old key removed, has
room for the waker. -/
theorem Mutex.pollLock_isSome {m : Mutex W} {k₀ : Option Nat} {w : W}
    (hroom : ((m.wakers.removeOpt k₀).insert w).isSome) : (m.pollLock k₀ w).isSome := by
  dsimp only [Mutex.pollLock]
  split
  · rfl
  · simpa using hroom

/-- **The keys a `Lock` poll leaves occupied**: the key it registered under, or
an old key other than the one it removed. -/
theorem Mutex.pollLock_occupied {m m' : Mutex W} {k₀ : Option Nat} {w : W} {r : LockPoll}
    (h : m.pollLock k₀ w = some (m', r)) (k : Nat)
    (hk : occupied m'.wakers.entries.slots k = true) :
    r = .pending k ∨ (occupied m.wakers.entries.slots k = true ∧ k₀ ≠ some k) := by
  dsimp only [Mutex.pollLock] at h
  split at h
  · obtain ⟨-, rfl⟩ := Mutex.tryLock_eq_some ‹_›
    cases h
    exact .inr ((Inner.occupied_removeOpt _ _ _).mp hk)
  · obtain ⟨r', hr', h⟩ := Option.map_eq_some'.mp h
    cases h
    rcases (Inner.occupied_insert hr' k).mp hk with hk | rfl
    · exact .inr ((Inner.occupied_removeOpt _ _ _).mp hk)
    · exact .inl rfl

namespace MutexSystem

/-- A notified entry under a key held by a live `Lock` is a wake-up in flight. -/
theorem WakeInFlight.of_notified {s : MutexSystem}
    (hown : Owned s.mutex.wakers (s.locks.map LockState.optKey)) {k : Nat}
    (hk : s.mutex.wakers.entries.slots[k]? = some (some none)) : s.WakeInFlight := by
  obtain ⟨x, hx, hkx⟩ := List.mem_map.mp (hown k (by simp [occupied, hk]))
  cases x with
  | alive k' =>
    cases hkx
    exact ⟨k, (List.getElem?_eq_some_iff.mp hk).1, hk, hx⟩
  | finished => cases hkx

/-- **No waiter is stranded**: every occupied key of the registry is the
`opt_key` of a live `Lock`, and while the mutex is free and some key is
occupied, a wake-up is in flight. -/
structure Serviced (s : MutexSystem) : Prop where
  owned : Owned s.mutex.wakers (s.locks.map LockState.optKey)
  inFlight : s.mutex.locked = false → (∃ k, occupied s.mutex.wakers.entries.slots k = true) →
    s.WakeInFlight

/-- Every step but a `Lock` drop keeps the waiters serviced.  The mutex only
becomes free when a guard is dropped, and that guard's `notify_any` leaves the
first occupied entry notified; while it is free, any poll or `try_lock` takes
it. -/
theorem Serviced.step {s t : MutexSystem} {a : MutexAction} (hs : s.Serviced)
    (hdrop : ∀ f, a ≠ .dropLock f) (h : s.step a = some t) : t.Serviced := by
  cases a with
  | lock =>
    cases h
    refine ⟨by simpa using hs.owned.append [none], fun hfree hocc => ?_⟩
    obtain ⟨k, hk, hslot, hmem⟩ := hs.inFlight hfree hocc
    exact ⟨k, hk, hslot, List.mem_append_left _ hmem⟩
  | poll f =>
    simp only [MutexSystem.step] at h
    split at h
    · next k₀ hi =>
      obtain ⟨⟨m, r⟩, hp, rfl⟩ := Option.map_eq_some'.mp h
      have hlocked : m.locked = true := by
        rcases Mutex.pollLock_eq_some hp with ⟨-, -, h⟩ | ⟨-, h, -⟩ <;> exact h
      have hi' : (s.locks.map LockState.optKey)[f]? = some k₀ := by simp [hi, LockState.optKey]
      cases r with
      | ready =>
        have hown : Owned m.wakers ((s.locks.map LockState.optKey).set f none) :=
          hs.owned.poll hi' fun k hk => (Mutex.pollLock_occupied hp k hk).imp (fun h => by cases h) id
        exact ⟨by simpa [LockState.optKey] using hown, fun hfree => by simp [hlocked] at hfree⟩
      | pending k' =>
        have hown : Owned m.wakers ((s.locks.map LockState.optKey).set f (some k')) :=
          hs.owned.poll hi' fun k hk =>
            (Mutex.pollLock_occupied hp k hk).imp (fun h => by cases h; rfl) id
        exact ⟨by simpa [LockState.optKey] using hown, fun hfree => by simp [hlocked] at hfree⟩
    · cases h
  | dropLock f => exact absurd rfl (hdrop f)
  | tryLock =>
    simp only [MutexSystem.step, Option.map_eq_some'] at h
    obtain ⟨m, hm, rfl⟩ := h
    obtain ⟨-, rfl⟩ := Mutex.tryLock_eq_some hm
    exact ⟨hs.owned, fun hfree => by simp at hfree⟩
  | dropGuard =>
    simp only [MutexSystem.step] at h
    split at h
    · cases h
      have hown : Owned s.mutex.dropGuard.1.wakers (s.locks.map LockState.optKey) :=
        hs.owned.frame fun k => Inner.occupied_notify _ _ k
      refine ⟨hown, fun _ ⟨k, hk⟩ => ?_⟩
      have hk' : occupied s.mutex.wakers.entries.slots k = true := by
        rwa [← Inner.occupied_notify _ .any]
      obtain ⟨k', hk'⟩ := Inner.notifyLoop_any_notified hk'
      exact WakeInFlight.of_notified hown hk'
    · cases h
  | leakGuard =>
    simp only [MutexSystem.step] at h
    split at h
    · cases h
      exact ⟨hs.owned, hs.inFlight⟩
    · cases h

/-- Every run without a `Lock` drop keeps the waiters serviced. -/
theorem Serviced.run {s t : MutexSystem} :
    ∀ {as : List MutexAction}, s.Serviced → (∀ f, .dropLock f ∉ as) → s.run as = some t →
      t.Serviced
  | [], hs, _, h => by cases h; exact hs
  | a :: _, hs, hdrop, h => by
    obtain ⟨s₁, h₁, h⟩ := run_cons h
    exact Serviced.run (hs.step (fun f he => hdrop f (he ▸ List.mem_cons_self _ _)) h₁)
      (fun f hm => hdrop f (List.mem_cons_of_mem a hm)) h

/-- A fresh mutex has no occupied key. -/
theorem serviced_init : init.Serviced :=
  ⟨fun _ hk => by simp [init, Mutex.new, Inner.new, Slab.empty, occupied] at hk,
    fun _ ⟨_, hk⟩ => by simp [init, Mutex.new, Inner.new, Slab.empty, occupied] at hk⟩

/-- **Only a dropped `Lock` loses a wake-up.**  In every run from a fresh
mutex in which no `Lock` future is dropped, a free mutex with a present waker
in its registry always has a wake-up in flight: a notified entry under the key
of a live `Lock`, whose task will poll and take the lock.  The run of
`lost_wakeup_after_notified_lock_dropped` needs its drop. -/
theorem waiter_woken_without_drops {as : List MutexAction} {s : MutexSystem}
    (hdrop : ∀ f, .dropLock f ∉ as) (h : init.run as = some s) (hfree : s.mutex.locked = false)
    (hwait : 0 < s.mutex.wakers.live) : s.WakeInFlight :=
  (serviced_init.run hdrop h).inFlight hfree (Inner.occupied_of_liveCount_pos hwait)

/-- The run of `lost_wakeup_after_notified_lock_dropped` stopped before the
drop: future 0 holds the notified key. -/
theorem waiter_woken_after_release :
    (∀ f, MutexAction.dropLock f ∉ [.tryLock, .lock, .lock, .poll 0, .poll 1, .dropGuard]) ∧
    ∃ s, init.run [.tryLock, .lock, .lock, .poll 0, .poll 1, .dropGuard] = some s ∧
      s.mutex.locked = false ∧ 0 < s.mutex.wakers.live ∧ s.WakeInFlight :=
  have hdrop : ∀ f, MutexAction.dropLock f ∉ [.tryLock, .lock, .lock, .poll 0, .poll 1, .dropGuard] :=
    fun f => by simp
  ⟨hdrop, _, rfl, rfl, by decide, waiter_woken_without_drops hdrop rfl rfl (by decide)⟩

/-- **Without drops, a `Lock` poll panics only past `NTASKS` live `Lock`
futures.**  In a run from a fresh mutex in which no `Lock` future is dropped,
while at most `NTASKS` of them are alive, every poll of a live `Lock` is
defined: the registry keeps a vacant key for its waker, since every occupied
key belongs to one of the other live `Lock` futures.  This is about a release
build: the re-poll of a `Lock` woken by a guard's drop calls `Inner::remove` on
its notified key, whose decrement of `notifiable` wraps there and panics in a
debug build. -/
theorem lock_polls_defined_without_drops {as : List MutexAction} {s : MutexSystem}
    (hdrop : ∀ f, .dropLock f ∉ as) (h : init.run as = some s)
    (hlive : s.locks.countP LockState.isAlive ≤ NTASKS) :
    ∀ f k, s.locks[f]? = some (.alive k) → (s.step (.poll f)).isSome := by
  intro f k hf
  simpa [MutexSystem.step, hf] using Mutex.pollLock_isSome ((serviced_init.run hdrop h).owned.room
    LockState.isAlive_of_optKey .finished rfl rfl hf rfl hlive f)

/-- A waiter registered behind a guard. -/
theorem lock_polls_defined_behind_guard :
    (∀ f, MutexAction.dropLock f ∉ [.tryLock, .lock, .poll 0]) ∧
    ∃ s, init.run [.tryLock, .lock, .poll 0] = some s ∧ s.locks.countP LockState.isAlive ≤ NTASKS ∧
      ∀ f k, s.locks[f]? = some (.alive k) → (s.step (.poll f)).isSome :=
  have hdrop : ∀ f, MutexAction.dropLock f ∉ [.tryLock, .lock, .poll 0] := fun f => by simp
  ⟨hdrop, _, rfl, by decide, lock_polls_defined_without_drops hdrop rfl (by decide)⟩

end MutexSystem

end AsyncEmbedded
