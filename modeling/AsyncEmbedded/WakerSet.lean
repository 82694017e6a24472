import AsyncEmbedded.Basic

/-!
# The waker registry (`unsync::waker_set`)

A `WakerSet` keeps the wakers of the operations blocked on one synchronisation
object: the two sides of a channel, or the waiters of a mutex.  It is a port of
`async-std` 1.5's `WakerSet` onto a fixed-capacity slab.  `Inner` holds

* `entries`, a slab of `Option<Waker>`: an occupied key holds `Some(waker)`
  while its operation is blocked, and `None` once the waker was taken and woken
  but the owner has not yet removed the entry;
* `notifiable`, meant to count the entries that still hold a waker.

## What the port changed

`async-std` keeps its entries in a `slab::Slab`, whose `remove(key)` returns the
stored `Option<Waker>` itself.  heapless's `Slab::remove` returns an
`Option<Option<Waker>>`, `Some` for every occupied key.  `Inner::remove` and
`Inner::cancel` kept `async-std`'s tests (`.is_some()`, `Some(_) =>`), which now
see an occupied key instead of a present waker.  `drift_remove` and
`drift_cancel` below are the general form of that difference for one call:
a `remove` or `cancel` of a key whose waker was already taken decrements the
count although no present waker went.  Over a run, the count falls short of the
present wakers by exactly the number of such calls
(`notifiable_eq_live_sub_hits`), and `notifiable_underflows_after_notify_one`
is the shortest run that takes it below zero.

`notifiable` is kept as an integer, as a release build holds it: the `usize`
the code holds is its value modulo `2 ^ w`, and a decrement wraps exactly when
it takes this value below zero.  The count is never read by the code, only
decremented, so the slab evolves the same whatever the count is.  A debug build
panics at the first decrement below zero instead, which the same theorem
locates: the first call at which `live - hits` would turn negative.
-/

namespace AsyncEmbedded

/-! ## The slab -/

/-- Modelled from the spec: heapless's `Slab`, in which `Inner` keeps its
entries, is not in the source tree.  The spec fixes its capacity (`NTASKS`) and
says that keys are reused after removal; the model hands out the lowest vacant
key.  Slot `k` is `some v` while key `k` holds `v` and `none` while it is
vacant.  The capacity is a field, so an over-full slab cannot be built. -/
structure Slab (α : Type) where
  slots : List (Option α)
  length_le : slots.length ≤ NTASKS

namespace Slab

variable {α : Type}

/-- The empty slab (`i::Slab::new()`). -/
def empty : Slab α := ⟨[], Nat.zero_le _⟩

/-- The slab with its slots replaced by a list of the same length. -/
def setSlots (s : Slab α) (l : List (Option α)) (h : l.length = s.slots.length) : Slab α :=
  ⟨l, h ▸ s.length_le⟩

/-- The lowest vacant slot of a slot list filled with `v`, and its key. -/
def fillVacant (v : α) : List (Option α) → Option (List (Option α) × Nat)
  | [] => none
  | none :: rest => some (some v :: rest, 0)
  | some x :: rest => (fillVacant v rest).map fun r => (some x :: r.1, r.2 + 1)

theorem fillVacant_length {v : α} :
    ∀ {l : List (Option α)} {r}, fillVacant v l = some r → r.1.length = l.length
  | [], _, h => by simp [fillVacant] at h
  | none :: _, _, h => by cases h; rfl
  | some _ :: _, _, h => by
    simp only [fillVacant, Option.map_eq_some'] at h
    obtain ⟨r, hr, rfl⟩ := h
    simp [fillVacant_length hr]

/-- **`Slab::insert`**: store `v` under the lowest vacant key, or under a new
key while fewer than `NTASKS` keys exist.  `none` when every key is taken: the
registry's `expect("OOM")` panics there. -/
def insert (s : Slab α) (v : α) : Option (Nat × Slab α) :=
  match h : fillVacant v s.slots with
  | some r => some (r.2, s.setSlots r.1 (fillVacant_length h))
  | none =>
    if hlt : s.slots.length < NTASKS then
      some (s.slots.length,
        ⟨s.slots ++ [some v], by rw [List.length_append, List.length_singleton]; exact hlt⟩)
    else none

/-- **`Slab::remove`**: vacate key `k` and return the entry it held, or `none`
if `k` was vacant. -/
def remove (s : Slab α) (k : Nat) : Option α × Slab α :=
  match s.slots[k]? with
  | some (some v) => (some v, s.setSlots (s.slots.set k none) (List.length_set _ _ _))
  | _ => (none, s)

end Slab

/-! ## `Inner` -/

/-- `Notify`: how many entries `notify` wakes. -/
inductive Notify
  /-- Make sure at least one entry is notified. -/
  | any
  /-- Notify one additional entry. -/
  | one
  deriving DecidableEq, Repr

/-- **`Inner`**: the slab of entries and the `notifiable` count.  `W` is what a
waker wakes. -/
structure Inner (W : Type) where
  entries : Slab (Option W)
  notifiable : Int

variable {W : Type}

/-- The number of slots that hold a waker. -/
def liveCount : List (Option (Option W)) → Nat
  | [] => 0
  | some (some _) :: rest => liveCount rest + 1
  | _ :: rest => liveCount rest

/-- The number of occupied slots whose waker was taken. -/
def notifiedCount : List (Option (Option W)) → Nat
  | [] => 0
  | some none :: rest => notifiedCount rest + 1
  | _ :: rest => notifiedCount rest

/-- **The `for` loop of `Inner::notify`** over the occupied entries in key
order: the slots afterwards and the waker it took and woke.  A present waker is
taken and the loop breaks under both modes (`One` by its `break`, `Any` by the
test after it); an already notified entry ends the loop under `Any` and is
skipped under `One`.  `Inner::cancel`'s loop is the `One` loop. -/
def notifyLoop (n : Notify) : List (Option (Option W)) → List (Option (Option W)) × Option W
  | [] => ([], none)
  | none :: rest => let r := notifyLoop n rest; (none :: r.1, r.2)
  | some (some w) :: rest => (some none :: rest, some w)
  | some none :: rest =>
    match n with
    | .any => (some none :: rest, none)
    | .one => let r := notifyLoop n rest; (some none :: r.1, r.2)

theorem notifyLoop_length (n : Notify) :
    ∀ l : List (Option (Option W)), (notifyLoop n l).1.length = l.length
  | [] => rfl
  | none :: rest => by simp [notifyLoop, notifyLoop_length n rest]
  | some (some _) :: _ => rfl
  | some none :: rest => by cases n <;> simp [notifyLoop, notifyLoop_length _ rest]

namespace Inner

/-- `Inner::new`. -/
def new : Inner W := ⟨Slab.empty, 0⟩

/-- The count after one `self.notifiable -= 1` when `woke`. -/
def decrementIf (i : Inner W) (woke : Bool) : Int :=
  if woke then i.notifiable - 1 else i.notifiable

/-- **`Inner::notify`**: run the loop, decrementing `notifiable` for the waker it
woke.  Returns the new registry and the woken waker (the code returns whether
there is one). -/
def notify (i : Inner W) (n : Notify) : Inner W × Option W :=
  let r := notifyLoop n i.entries.slots
  (⟨i.entries.setSlots r.1 (notifyLoop_length n _), i.decrementIf r.2.isSome⟩, r.2)

/-- **`Inner::notify_any`**. -/
def notifyAny (i : Inner W) : Inner W × Option W := i.notify .any

/-- **`Inner::notify_one`**. -/
def notifyOne (i : Inner W) : Inner W × Option W := i.notify .one

/-- **`Inner::insert`**: store a clone of the caller's waker and count it.
`none` is the `expect("OOM")` panic of a full slab. -/
def insert (i : Inner W) (w : W) : Option (Inner W × Nat) :=
  (i.entries.insert (some w)).map fun r => (⟨r.2, i.notifiable + 1⟩, r.1)

/-- **`Inner::remove`**: `if self.entries.remove(key).is_some() { self.notifiable -= 1 }`. -/
def remove (i : Inner W) (key : Nat) : Inner W :=
  let r := i.entries.remove key
  ⟨r.2, i.decrementIf r.1.isSome⟩

/-- **`Inner::cancel`**: on `Some(_)` from the slab, decrement; on `None`, wake
the first entry that still holds a waker instead.  Returns the woken waker (the
code returns whether there is one). -/
def cancel (i : Inner W) (key : Nat) : Inner W × Option W :=
  match i.entries.remove key with
  | (some _, e) => (⟨e, i.notifiable - 1⟩, none)
  | (none, e) =>
    let r := notifyLoop .one e.slots
    (⟨e.setSlots r.1 (notifyLoop_length _ _), i.decrementIf r.2.isSome⟩, r.2)

/-- **`if let Some(key) = self.opt_key.take() { ...remove(key) }`**, the first
statement of the polls of `Lock`, `Send` and `Recv`. -/
def removeOpt (i : Inner W) : Option Nat → Inner W
  | some k => i.remove k
  | none => i

/-- The number of entries that hold a waker. -/
def live (i : Inner W) : Nat := liveCount i.entries.slots

/-- The number of entries whose waker was taken but that are still present. -/
def notified (i : Inner W) : Nat := notifiedCount i.entries.slots

end Inner

/-! ## Bookkeeping

`drift` is how far `notifiable` has fallen below the number of present wakers.
Inserting and notifying keep it; removing or cancelling a key keeps it when the
key still holds a waker, and raises it by one when the key was already
notified.  That second case is the one `async-std`'s `slab` never reached. -/

/-- `1` if slot `k` holds a waker. -/
def liveAt (l : List (Option (Option W))) (k : Nat) : Nat :=
  match l[k]? with
  | some (some (some _)) => 1
  | _ => 0

/-- `1` if slot `k` is occupied by an entry whose waker was taken. -/
def notifiedAt (l : List (Option (Option W))) (k : Nat) : Nat :=
  match l[k]? with
  | some (some none) => 1
  | _ => 0

theorem liveCount_append (l₁ l₂ : List (Option (Option W))) :
    liveCount (l₁ ++ l₂) = liveCount l₁ + liveCount l₂ := by
  induction l₁ with
  | nil => simp [liveCount]
  | cons e rest ih => rcases e with _ | _ | _ <;> simp [liveCount, ih, Nat.add_right_comm]

theorem liveCount_set_none : ∀ (l : List (Option (Option W))) (k : Nat),
    liveCount (l.set k none) + liveAt l k = liveCount l
  | [], _ => rfl
  | e :: _, 0 => by rcases e with _ | _ | _ <;> simp [liveCount, liveAt]
  | e :: rest, k + 1 => by
    have ih := liveCount_set_none rest k
    rcases e with _ | _ | _ <;> simp only [List.set_cons_succ, liveCount, liveAt,
      List.getElem?_cons_succ] at ih ⊢ <;> omega

theorem notifiedCount_set_none : ∀ (l : List (Option (Option W))) (k : Nat),
    notifiedCount (l.set k none) + notifiedAt l k = notifiedCount l
  | [], _ => rfl
  | e :: _, 0 => by rcases e with _ | _ | _ <;> simp [notifiedCount, notifiedAt]
  | e :: rest, k + 1 => by
    have ih := notifiedCount_set_none rest k
    rcases e with _ | _ | _ <;> simp only [List.set_cons_succ, notifiedCount, notifiedAt,
      List.getElem?_cons_succ] at ih ⊢ <;> omega

theorem liveCount_notifyLoop (n : Notify) : ∀ l : List (Option (Option W)),
    liveCount (notifyLoop n l).1 + (if (notifyLoop n l).2.isSome then 1 else 0) = liveCount l
  | [] => rfl
  | none :: rest => by simpa [notifyLoop, liveCount] using liveCount_notifyLoop n rest
  | some (some _) :: _ => by simp [notifyLoop, liveCount]
  | some none :: rest => by
    cases n
    · simp [notifyLoop, liveCount]
    · simpa [notifyLoop, liveCount] using liveCount_notifyLoop .one rest

theorem notifiedCount_notifyLoop (n : Notify) : ∀ l : List (Option (Option W)),
    notifiedCount (notifyLoop n l).1 = notifiedCount l + (if (notifyLoop n l).2.isSome then 1 else 0)
  | [] => rfl
  | none :: rest => by simpa [notifyLoop, notifiedCount] using notifiedCount_notifyLoop n rest
  | some (some _) :: _ => by simp [notifyLoop, notifiedCount]
  | some none :: rest => by
    cases n
    · simp [notifyLoop, notifiedCount]
    · have ih := notifiedCount_notifyLoop .one rest
      simp only [notifyLoop, notifiedCount]
      omega

/-- The `One` loop wakes a waker exactly when some entry still holds one. -/
theorem notifyLoop_one_isSome : ∀ l : List (Option (Option W)),
    (notifyLoop .one l).2.isSome = decide (0 < liveCount l)
  | [] => rfl
  | none :: rest => by simpa [notifyLoop, liveCount] using notifyLoop_one_isSome rest
  | some (some _) :: _ => by simp [notifyLoop, liveCount]
  | some none :: rest => by simpa [notifyLoop, liveCount] using notifyLoop_one_isSome rest

theorem liveCount_fillVacant {w : W} : ∀ {l : List (Option (Option W))} {r},
    Slab.fillVacant (some w) l = some r → liveCount r.1 = liveCount l + 1
  | [], _, h => by simp [Slab.fillVacant] at h
  | none :: _, _, h => by cases h; simp [liveCount]
  | some e :: _, _, h => by
    simp only [Slab.fillVacant, Option.map_eq_some'] at h
    obtain ⟨r, hr, rfl⟩ := h
    rcases e with _ | _ <;> simp [liveCount, liveCount_fillVacant hr]

namespace Inner

/-- `live - notifiable`: zero exactly when the count is right. -/
def drift (i : Inner W) : Int := i.live - i.notifiable

theorem drift_insert {i i' : Inner W} {w : W} {k : Nat} (h : i.insert w = some (i', k)) :
    i'.drift = i.drift := by
  simp only [insert, Option.map_eq_some', Prod.mk.injEq] at h
  obtain ⟨⟨k', e⟩, he, rfl, rfl⟩ := h
  have hlive : liveCount e.slots = i.live + 1 := by
    unfold Slab.insert at he
    split at he
    · cases he; exact liveCount_fillVacant ‹_›
    · split at he <;> cases he
      simp [live, liveCount_append, liveCount]
  simp only [drift, live, hlive]
  omega

theorem drift_notify (i : Inner W) (n : Notify) : (i.notify n).1.drift = i.drift := by
  have hloop := liveCount_notifyLoop n i.entries.slots
  simp only [notify, drift, live, Slab.setSlots, decrementIf]
  split <;> simp_all
  omega

theorem drift_remove (i : Inner W) (k : Nat) :
    (i.remove k).drift = i.drift + notifiedAt i.entries.slots k := by
  have hset := liveCount_set_none i.entries.slots k
  simp only [remove, Slab.remove, drift, live, notifiedAt, liveAt] at hset ⊢
  rcases hk : i.entries.slots[k]? with _ | _ | _ | w <;>
    simp_all [decrementIf, Slab.setSlots] <;> omega

theorem drift_cancel (i : Inner W) (k : Nat) :
    (i.cancel k).1.drift = i.drift + notifiedAt i.entries.slots k := by
  have hset := liveCount_set_none i.entries.slots k
  have hloop := liveCount_notifyLoop .one i.entries.slots
  simp only [cancel, Slab.remove, drift, live, notifiedAt, liveAt] at hset ⊢
  rcases hk : i.entries.slots[k]? with _ | _ | _ | w <;>
    simp_all only [decrementIf, Slab.setSlots, Option.isSome_some]
  -- a vacant key: the loop wakes the first present waker instead
  · split <;> simp_all
    omega
  · split <;> simp_all
    omega
  all_goals omega

end Inner

/-! ## Runs of the registry -/

/-- A call on the registry, as `Send`, `Recv` and `Lock` make them. -/
inductive Op (W : Type)
  | insert (w : W)
  | remove (key : Nat)
  | cancel (key : Nat)
  | notifyOne
  | notifyAny

namespace Inner

/-- One call; `none` is the `OOM` panic of `insert`. -/
def apply (i : Inner W) : Op W → Option (Inner W)
  | .insert w => (i.insert w).map Prod.fst
  | .remove k => some (i.remove k)
  | .cancel k => some (i.cancel k).1
  | .notifyOne => some i.notifyOne.1
  | .notifyAny => some i.notifyAny.1

/-- A sequence of calls. -/
def run (i : Inner W) : List (Op W) → Option (Inner W)
  | [] => some i
  | op :: ops => (i.apply op).bind fun i' => i'.run ops

/-- **Calls that use keys as `opt_key` does**: every key passed to `remove` or
`cancel` was returned by an `insert` and has not been passed to `remove` or
`cancel` since.  `held` lists those keys. -/
def keysHeld (i : Inner W) (held : List Nat) : List (Op W) → Bool
  | [] => true
  | .insert w :: ops =>
    match i.insert w with
    | some (i', k) => i'.keysHeld (k :: held) ops
    | none => true
  | .remove k :: ops => held.contains k && (i.remove k).keysHeld (held.erase k) ops
  | .cancel k :: ops => held.contains k && (i.cancel k).1.keysHeld (held.erase k) ops
  | .notifyOne :: ops => i.notifyOne.1.keysHeld held ops
  | .notifyAny :: ops => i.notifyAny.1.keysHeld held ops

/-- `1` for a `remove` or `cancel` of a key whose waker was already taken: the
calls on which the count goes wrong. -/
def hits (i : Inner W) : Op W → Nat
  | .remove k | .cancel k => notifiedAt i.entries.slots k
  | _ => 0

/-- The calls of a run that `hits` counts. -/
def hitsAlong (i : Inner W) : List (Op W) → Nat
  | [] => 0
  | op :: ops => i.hits op + ((i.apply op).map fun i' => i'.hitsAlong ops).getD 0

theorem drift_apply {i i' : Inner W} {op : Op W} (h : i.apply op = some i') :
    i'.drift = i.drift + i.hits op := by
  cases op with
  | insert w =>
    simp only [apply, Option.map_eq_some'] at h
    obtain ⟨⟨i'', k⟩, hi, rfl⟩ := h
    simp [drift_insert hi, hits]
  | remove k => cases h; exact drift_remove i k
  | cancel k => cases h; exact drift_cancel i k
  | notifyOne => cases h; simp [drift_notify, hits, notifyOne]
  | notifyAny => cases h; simp [drift_notify, hits, notifyAny]

/-- **How far the count is off after a run**: `live - notifiable` grows by one
at every `remove` or `cancel` of a notified key, and by nothing else. -/
theorem drift_run : ∀ {i i' : Inner W} {ops : List (Op W)}, i.run ops = some i' →
    i'.drift = i.drift + i.hitsAlong ops
  | _, _, [], h => by cases h; simp [hitsAlong]
  | i, _, op :: ops, h => by
    simp only [run, Option.bind_eq_some] at h
    obtain ⟨i₁, h₁, h⟩ := h
    simp only [drift_run h, drift_apply h₁, hitsAlong, h₁, Option.map_some', Option.getD_some]
    omega

/-- **The count falls short by the notified keys removed.**  In every run of
registry calls from `Inner::new`, `notifiable` is the number of entries that
still hold a waker, less the number of `remove` and `cancel` calls that found
their key already notified.  It equals the number of present wakers, as its
name says, exactly as long as no such call has happened. -/
theorem notifiable_eq_live_sub_hits {i : Inner W} {ops : List (Op W)}
    (h : Inner.new.run ops = some i) : i.notifiable = i.live - Inner.new.hitsAlong ops := by
  have hd := drift_run h
  rw [show (Inner.new : Inner W).drift = 0 from rfl] at hd
  simp only [drift] at hd
  omega

/-- The shortest underflow: one notified key removed, no waker left. -/
theorem notifiable_eq_live_sub_hits_after_notify_one :
    ∃ i, (Inner.new : Inner Unit).run [.insert (), .notifyOne, .remove 0] = some i ∧
      (Inner.new : Inner Unit).hitsAlong [.insert (), .notifyOne, .remove 0] = 1 ∧ i.live = 0 ∧
      i.notifiable = i.live - (Inner.new : Inner Unit).hitsAlong [.insert (), .notifyOne, .remove 0] :=
  ⟨_, rfl, rfl, rfl, notifiable_eq_live_sub_hits rfl⟩

end Inner

/-! ## Which keys are occupied

A key is occupied while its slot holds an entry, with or without a waker.
Notifying only takes wakers out of entries, so it frees no key; `insert`
occupies the key it returns, and `remove` frees the key it is given. -/

section Occupied

variable {α : Type}

/-- Key `k` of a slot list holds an entry. -/
def occupied (l : List (Option α)) (k : Nat) : Bool := (l[k]?).join.isSome

theorem occupied_notifyLoop (n : Notify) :
    ∀ (l : List (Option (Option W))) (k : Nat), occupied (notifyLoop n l).1 k = occupied l k
  | [], _ => rfl
  | none :: _, 0 => by simp [notifyLoop, occupied]
  | none :: rest, k + 1 => by simpa [notifyLoop, occupied] using occupied_notifyLoop n rest k
  | some (some _) :: _, k => by cases k <;> simp [notifyLoop, occupied]
  | some none :: rest, k => by
    cases n with
    | any => rfl
    | one =>
      cases k with
      | zero => simp [notifyLoop, occupied]
      | succ k => simpa [notifyLoop, occupied] using occupied_notifyLoop .one rest k

theorem occupied_fillVacant {v : α} : ∀ {l : List (Option α)} {r}, Slab.fillVacant v l = some r →
    ∀ k, occupied r.1 k = true ↔ occupied l k = true ∨ k = r.2
  | [], _, h, _ => by simp [Slab.fillVacant] at h
  | none :: _, _, h, k => by cases h; cases k <;> simp [occupied]
  | some _ :: _, _, h, k => by
    simp only [Slab.fillVacant, Option.map_eq_some'] at h
    obtain ⟨r, hr, rfl⟩ := h
    cases k with
    | zero => simp [occupied]
    | succ k => simpa [occupied] using occupied_fillVacant hr k

theorem occupied_append_singleton (l : List (Option α)) (v : α) (k : Nat) :
    occupied (l ++ [some v]) k = true ↔ occupied l k = true ∨ k = l.length := by
  rcases Nat.lt_trichotomy k l.length with hk | rfl | hk
  · simp [occupied, List.getElem?_append_left hk, hk.ne]
  · simp [occupied]
  · simp [occupied, List.getElem?_eq_none (show (l ++ [some v]).length ≤ k by simp; omega),
      List.getElem?_eq_none hk.le, hk.ne']

theorem fillVacant_eq_none {v : α} : ∀ {l : List (Option α)}, Slab.fillVacant v l = none →
    ∀ k < l.length, occupied l k = true
  | [], _, _, hk => absurd hk (Nat.not_lt_zero _)
  | none :: _, h, _, _ => by simp [Slab.fillVacant] at h
  | some _ :: rest, h, k, hk => by
    cases k with
    | zero => simp [occupied]
    | succ k =>
      have hr : Slab.fillVacant v rest = none := by simpa [Slab.fillVacant] using h
      simpa [occupied] using fillVacant_eq_none hr k (by simpa using hk)

/-- `insert` panics only when all `NTASKS` keys are occupied. -/
theorem Slab.occupied_of_insert_eq_none {s : Slab α} {v : α} (h : s.insert v = none) :
    ∀ k < NTASKS, occupied s.slots k = true := by
  unfold Slab.insert at h
  split at h
  · cases h
  · next hf =>
    split at h
    · cases h
    · intro k hk
      exact fillVacant_eq_none hf k (by have := s.length_le; omega)

theorem Slab.occupied_insert {s s' : Slab α} {v : α} {k' : Nat} (h : s.insert v = some (k', s'))
    (k : Nat) : occupied s'.slots k = true ↔ occupied s.slots k = true ∨ k = k' := by
  unfold Slab.insert at h
  split at h
  · next r hr =>
    cases h
    exact occupied_fillVacant hr k
  · split at h
    · cases h
      exact occupied_append_singleton _ v k
    · cases h

theorem Slab.occupied_remove (s : Slab α) (k₀ k : Nat) :
    occupied (s.remove k₀).2.slots k = true ↔ occupied s.slots k = true ∧ k ≠ k₀ := by
  unfold Slab.remove
  split
  · next v hv =>
    by_cases hk : k = k₀
    · subst hk
      simp [Slab.setSlots, occupied, List.getElem?_set]
    · simp [Slab.setSlots, occupied, List.getElem?_set_ne (Ne.symm hk), hk]
  · next hv =>
    refine ⟨fun h => ⟨h, ?_⟩, And.left⟩
    rintro rfl
    obtain ⟨x, hx⟩ := Option.isSome_iff_exists.mp h
    exact hv x (Option.join_eq_some.mp hx)

end Occupied

namespace Inner

theorem occupied_removeOpt (i : Inner W) (k₀ : Option Nat) (k : Nat) :
    occupied (i.removeOpt k₀).entries.slots k = true ↔
      occupied i.entries.slots k = true ∧ k₀ ≠ some k := by
  cases k₀ with
  | none => simp [removeOpt]
  | some k₀ =>
    simp only [removeOpt, remove, Slab.occupied_remove, ne_eq, Option.some.injEq]
    exact and_congr_right fun _ => ⟨Ne.symm, Ne.symm⟩

theorem occupied_insert {i i' : Inner W} {w : W} {k' : Nat} (h : i.insert w = some (i', k'))
    (k : Nat) : occupied i'.entries.slots k = true ↔ occupied i.entries.slots k = true ∨ k = k' := by
  simp only [insert, Option.map_eq_some', Prod.mk.injEq] at h
  obtain ⟨⟨k'', e⟩, he, rfl, rfl⟩ := h
  exact Slab.occupied_insert he k

@[simp] theorem occupied_notify (i : Inner W) (n : Notify) (k : Nat) :
    occupied (i.notify n).1.entries.slots k = occupied i.entries.slots k :=
  occupied_notifyLoop n _ k

/-- `notify_any` on a registry with an occupied key leaves a notified entry:
the first occupied entry either had its waker taken now or had it taken before. -/
theorem notifyLoop_any_notified :
    ∀ {l : List (Option (Option W))} {k : Nat}, occupied l k = true →
      ∃ k' : Nat, (notifyLoop .any l).1[k']? = some (some none)
  | [], _, h => by simp [occupied] at h
  | none :: rest, 0, h => by simp [occupied] at h
  | none :: rest, k + 1, h => by
    obtain ⟨k', hk'⟩ := notifyLoop_any_notified (l := rest) (by simpa [occupied] using h)
    exact ⟨k' + 1, by simpa [notifyLoop] using hk'⟩
  | some (some _) :: _, _, _ | some none :: _, _, _ => ⟨0, by simp [notifyLoop]⟩

/-- A registry with a present waker has an occupied key. -/
theorem occupied_of_liveCount_pos : ∀ {l : List (Option (Option W))}, 0 < liveCount l →
    ∃ k, occupied l k = true
  | [], h => by simp [liveCount] at h
  | none :: rest, h | some none :: rest, h => by
    obtain ⟨k, hk⟩ := occupied_of_liveCount_pos (l := rest) (by simpa [liveCount] using h)
    exact ⟨k + 1, by simpa [occupied] using hk⟩
  | some (some _) :: _, _ => ⟨0, by simp [occupied]⟩

theorem notified_of_notifiedCount_pos : ∀ {l : List (Option (Option W))}, 0 < notifiedCount l →
    ∃ k : Nat, l[k]? = some (some none)
  | [], h => by simp [notifiedCount] at h
  | none :: rest, h | some (some _) :: rest, h => by
    obtain ⟨k, hk⟩ := notified_of_notifiedCount_pos (l := rest) (by simpa [notifiedCount] using h)
    exact ⟨k + 1, by simpa using hk⟩
  | some none :: _, _ => ⟨0, by simp⟩

end Inner

/-- **Every occupied key of the registry `e` is one of `keys`**, the `opt_key`s
of the futures of its side. -/
def Owned (e : Inner W) (keys : List (Option Nat)) : Prop :=
  ∀ k, occupied e.entries.slots k = true → some k ∈ keys

namespace Owned

theorem frame {e e' : Inner W} {keys : List (Option Nat)} (h : Owned e keys)
    (he : ∀ k, occupied e'.entries.slots k = occupied e.entries.slots k) : Owned e' keys :=
  fun k hk => h k ((he k).symm ▸ hk)

theorem append {e : Inner W} {keys : List (Option Nat)} (h : Owned e keys)
    (more : List (Option Nat)) : Owned e (keys ++ more) :=
  fun k hk => List.mem_append_left _ (h k hk)

/-- **A poll keeps the registry owned**: future `i` held key `k₀`, and afterwards
every occupied key is its new key `k₁`, or was occupied before and is not
`k₀` (the key its poll removed). -/
theorem poll {e e' : Inner W} {keys : List (Option Nat)} {i : Nat} {k₀ k₁ : Option Nat}
    (h : Owned e keys) (hi : keys[i]? = some k₀)
    (hocc : ∀ k, occupied e'.entries.slots k = true →
      k₁ = some k ∨ (occupied e.entries.slots k = true ∧ k₀ ≠ some k)) :
    Owned e' (keys.set i k₁) := by
  intro k hk
  rcases hocc k hk with hnew | ⟨hold, hne⟩
  · exact hnew ▸ List.mem_set keys i (List.getElem?_eq_some_iff.mp hi).1 k₁
  · obtain ⟨j, hj⟩ := List.mem_iff_getElem?.mp (h k hold)
    have hji : i ≠ j := by rintro rfl; exact hne (Option.some.inj (hi.symm.trans hj))
    exact List.mem_iff_getElem?.mpr ⟨j, by rw [List.getElem?_set_ne hji, hj]⟩

/-- **An owned registry has room** while fewer than `NTASKS` of its owners
hold a key: every occupied key is one of theirs, so `insert` finds a vacant
key and its `expect("OOM")` does not fire. -/
theorem insert_isSome {e : Inner W} {keys : List (Option Nat)} (h : Owned e keys)
    (hkeys : keys.countP Option.isSome < NTASKS) (w : W) : (e.insert w).isSome := by
  cases hi : e.entries.insert (some w) with
  | some r => simp [Inner.insert, hi]
  | none =>
    have hsub : (List.range NTASKS).map some ⊆ keys.filter Option.isSome := fun x hx => by
      obtain ⟨k, hk, rfl⟩ := List.mem_map.mp hx
      exact List.mem_filter.mpr
        ⟨h k (Slab.occupied_of_insert_eq_none hi k (List.mem_range.mp hk)), rfl⟩
    have hle := (List.subperm_of_subset
      (List.Pairwise.map some (fun _ _ hne he => hne (Option.some.inj he)) (List.nodup_range NTASKS))
      hsub).length_le
    rw [List.length_map, List.length_range, ← List.countP_eq_length_filter] at hle
    omega

end Owned

/-! ## Wake-ups owed

`Covers i n` says that `n` wake-ups owed to the waiters of `i` have gone out:
at least `n` entries are notified, or no entry still holds a waker to wake.
`notify_one` sends one more, `remove` takes back at most one, and nothing owed
is always covered.  The channel owes its receivers one wake-up per buffered
value, and its senders one per free slot. -/

namespace Inner

/-- At least `n` entries are notified, or none still holds a waker. -/
def Covers (i : Inner W) (n : Nat) : Prop := i.live = 0 ∨ n ≤ i.notified

theorem covers_zero (i : Inner W) : i.Covers 0 := .inr (Nat.zero_le _)

theorem Covers.mono {i : Inner W} {n m : Nat} (h : i.Covers n) (hm : m ≤ n) : i.Covers m :=
  h.imp_right hm.trans

/-- `notify_one` wakes a waker whenever one is present. -/
theorem Covers.notifyOne {i : Inner W} {n : Nat} (h : i.Covers n) : i.notifyOne.1.Covers (n + 1) := by
  have hl := liveCount_notifyLoop .one i.entries.slots
  have hn := notifiedCount_notifyLoop .one i.entries.slots
  have hs := notifyLoop_one_isSome i.entries.slots
  unfold Covers live notified at h ⊢
  simp only [Inner.notifyOne, notify, Slab.setSlots]
  by_cases hw : (notifyLoop .one i.entries.slots).2.isSome
  · rw [if_pos hw] at hl hn
    have : 0 < liveCount i.entries.slots := by simpa [hw] using hs.symm
    omega
  · rw [if_neg hw] at hl
    have : liveCount i.entries.slots = 0 := by simpa [hw] using hs.symm
    omega

/-- `remove` empties one slot: at most one present waker and at most one
notified entry go. -/
theorem remove_counts (i : Inner W) (k : Nat) :
    (i.remove k).live ≤ i.live ∧ i.notified ≤ (i.remove k).notified + 1 := by
  have hl := liveCount_set_none i.entries.slots k
  have hn := notifiedCount_set_none i.entries.slots k
  simp only [remove, Slab.remove, live, notified, notifiedAt, liveAt] at hl hn ⊢
  rcases hk : i.entries.slots[k]? with _ | _ | _ | w <;> simp_all [Slab.setSlots]
  omega

/-- While something is owed and a waker is still present, an entry is notified. -/
theorem Covers.exists_notified {i : Inner W} {n : Nat} (h : i.Covers n) (hn : 0 < n) (hlive : 0 < i.live) :
    ∃ k : Nat, i.entries.slots[k]? = some (some none) :=
  notified_of_notifiedCount_pos (by have := h.resolve_left hlive.ne'; unfold notified at this; omega)

theorem Covers.removeOpt {i : Inner W} {n : Nat} (h : i.Covers n) :
    ∀ k : Option Nat, (i.removeOpt k).Covers (n - 1)
  | none => h.mono (Nat.sub_le _ _)
  | some k => by
    obtain ⟨hl, hn⟩ := remove_counts i k
    unfold Covers at h ⊢
    show (i.remove k).live = 0 ∨ n - 1 ≤ (i.remove k).notified
    omega

end Inner

/-- **The keys of the futures other than `i`** number fewer than `NTASKS` when
at most `NTASKS` futures are alive and `i` is one of them: only live futures
hold keys. -/
theorem countP_keys_lt {σ : Type} {key : σ → Option Nat} {alive : σ → Bool}
    (hka : ∀ x, (key x).isSome → alive x) {fin : σ} (hfin : alive fin = false) {l : List σ}
    {i : Nat} {x : σ} (hi : l[i]? = some x) (hx : alive x) (hl : l.countP alive ≤ NTASKS) :
    ((l.set i fin).map key).countP Option.isSome < NTASKS := by
  obtain ⟨hlen, rfl⟩ := List.getElem?_eq_some_iff.mp hi
  have hkeys : ((l.set i fin).map key).countP Option.isSome ≤ (l.set i fin).countP alive := by
    rw [List.countP_map]
    exact List.countP_mono_left fun y _ hy => hka y hy
  have hset := List.countP_set alive l i fin hlen
  have hpos : 0 < l.countP alive := List.countP_pos_iff.mpr ⟨_, List.getElem_mem hlen, hx⟩
  simp only [hx, hfin, if_true, Bool.false_eq_true, if_false] at hset
  have : 0 < NTASKS := by decide
  omega

/-- **Room for the waker of a polling future.**  When every occupied key is the
key of one of the futures `l`, at most `NTASKS` of them are alive and future
`i` is alive, the registry with its key removed has a vacant key: the other
live futures hold fewer than `NTASKS` keys. -/
theorem Owned.room {σ : Type} {key : σ → Option Nat} {alive : σ → Bool}
    (hka : ∀ x, (key x).isSome → alive x) (fin : σ) (hfin : alive fin = false)
    (hkfin : key fin = none) {e : Inner W} {l : List σ} (h : Owned e (l.map key)) {i : Nat}
    {x : σ} (hi : l[i]? = some x) (hx : alive x) (hl : l.countP alive ≤ NTASKS) (wk : W) :
    ((e.removeOpt (key x)).insert wk).isSome := by
  have hlt := countP_keys_lt hka hfin hi hx hl
  rw [List.map_set, hkfin] at hlt
  exact (h.poll (by simp [hi]) fun k hk =>
    .inr ((Inner.occupied_removeOpt _ _ _).mp hk)).insert_isSome hlt wk

/-- **The registry miscounts on the shortest run.**  Insert a waker, notify it,
and remove its key as the woken operation does on its next poll: the slab
returns `Some(None)`, `is_some()` holds, and the decrement takes `notifiable`
from `0` to `-1` (`usize::MAX` in a release build, a panic in a debug build)
while no entry holds a waker. -/
theorem notifiable_underflows_after_notify_one :
    Inner.new.keysHeld [] [.insert (), .notifyOne, .remove 0] = true ∧
      (Inner.new.run [.insert (), .notifyOne, .remove 0]).map
        (fun i => (i.notifiable, i.live)) = some (-1, 0) := by
  decide

end AsyncEmbedded
