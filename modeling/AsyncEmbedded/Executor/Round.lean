import Mathlib.Data.List.Nodup
import AsyncEmbedded.Executor.BlockOn

/-!
# The rounds of `block_on`

One iteration of the loop (a *round*) loads the main future's flag, then reads
the table's length at `(A)` and loads the flag of every task below it, in
index order; whatever reads `true` is cleared and polled.  This file proves
that shape for every interleaving of interrupts, spawns and wakes, and its
consequence for a computation that wakes itself.

## How the proof goes

* **A rank** orders the statements of one round (`BlockOn.rank`): three per
  task, `sleep` and `waiting` after the last one.  Every step of the loop that
  does not start a round moves the rank forward; interrupts keep it.
* **Slots.**  The flag of the main future is loaded at rank 1, that of task `i`
  at rank `5 + 3 i` (`Comp.slot`).  A stretch of a round between two ranks loads
  exactly the slots in between (`slotsIn`), in rank order, and a flag that was
  set when the stretch began is read `true` (`segment`).
* **Ledgers.**  Over any run the `clear`s are the loads that read `true`, and
  the polls are the `clear`s, up to the one in progress at either end
  (`clears_ledger`, `polls_ledger`).
* **Ahead and behind.**  While a flagged computation's `clear` is still ahead in
  the round (`BlockOn.Ahead`), the round cannot end before it; once it is
  behind, the round ends without waiting if `task_woken` (or, on ARM, the event
  latch) is set, and the next round puts it ahead again (`behind_run`).

`block_on_round_order` collects the results: the polls of a round, the bound of
every `get_unchecked`, and what happens between a poll that leaves its own flag
set and the next poll of the same computation, including that the loop cannot
stall before that poll (`BlockOn.progress`).
-/

namespace AsyncEmbedded.Executor

variable {σ : Type} {P : Platform σ}

/-! ## What a run shows -/

namespace Event

/-- The flag an event loads, with the value read. -/
def loaded : Event → Option (Comp × Bool)
  | .load c b => some (c, b)
  | _ => none

/-- The flag an event clears before a poll. -/
def cleared : Event → Option Comp
  | .clear c => some c
  | _ => none

/-- The computation whose poll an event returns from. -/
def polled : Event → Option Comp
  | .poll c _ => some c
  | _ => none

/-- Whether the loop made the step: every event but an interrupt. -/
def byLoop : Event → Bool
  | .irq _ => false
  | _ => true

end Event

/-- The loads of a run, with the values read. -/
def loads (es : List Event) : List (Comp × Bool) := es.filterMap Event.loaded

/-- The flags a run clears, that is the polls it begins. -/
def clears (es : List Event) : List Comp := es.filterMap Event.cleared

/-- The polls a run returns from. -/
def polls (es : List Event) : List Comp := es.filterMap Event.polled

/-- The number of statements the loop runs. -/
def steps (es : List Event) : Nat := es.countP Event.byLoop

/-- The computations whose load read `true`. -/
def filterTrue (l : List (Comp × Bool)) : List Comp := (l.filter fun p => p.2).map Prod.fst

@[simp] theorem loads_nil : loads [] = [] := rfl
@[simp] theorem clears_nil : clears [] = [] := rfl
@[simp] theorem polls_nil : polls [] = [] := rfl
@[simp] theorem steps_nil : steps [] = 0 := rfl

@[simp] theorem loads_cons (e : Event) (es : List Event) :
    loads (e :: es) = e.loaded.toList ++ loads es := by
  cases h : e.loaded <;> simp [loads, List.filterMap_cons, h]

@[simp] theorem clears_cons (e : Event) (es : List Event) :
    clears (e :: es) = e.cleared.toList ++ clears es := by
  cases h : e.cleared <;> simp [clears, List.filterMap_cons, h]

@[simp] theorem polls_cons (e : Event) (es : List Event) :
    polls (e :: es) = e.polled.toList ++ polls es := by
  cases h : e.polled <;> simp [polls, List.filterMap_cons, h]

@[simp] theorem steps_cons (e : Event) (es : List Event) :
    steps (e :: es) = steps es + if e.byLoop then 1 else 0 := by
  simp [steps, List.countP_cons]

@[simp] theorem loads_append (es₁ es₂ : List Event) :
    loads (es₁ ++ es₂) = loads es₁ ++ loads es₂ := List.filterMap_append ..

@[simp] theorem clears_append (es₁ es₂ : List Event) :
    clears (es₁ ++ es₂) = clears es₁ ++ clears es₂ := List.filterMap_append ..

@[simp] theorem polls_append (es₁ es₂ : List Event) :
    polls (es₁ ++ es₂) = polls es₁ ++ polls es₂ := List.filterMap_append ..

@[simp] theorem steps_append (es₁ es₂ : List Event) :
    steps (es₁ ++ es₂) = steps es₁ + steps es₂ := List.countP_append ..

@[simp] theorem filterTrue_nil : filterTrue [] = [] := rfl

@[simp] theorem filterTrue_append (l₁ l₂ : List (Comp × Bool)) :
    filterTrue (l₁ ++ l₂) = filterTrue l₁ ++ filterTrue l₂ := by
  simp [filterTrue]

/-- What a ledger from an empty start lists was loaded. -/
theorem sublist_of_ledger {xs r : List Comp} {l : List (Comp × Bool)}
    (h : xs ++ r = [] ++ filterTrue l) : xs.Sublist (l.map Prod.fst) := by
  rw [List.nil_append] at h
  exact (h ▸ List.sublist_append_left xs r).trans ((List.filter_sublist _).map Prod.fst)

/-- A computation loaded once, and read `true` then, is in `filterTrue`. -/
theorem mem_filterTrue {z : Comp} {l : List (Comp × Bool)} (hz : z ∈ l.map Prod.fst)
    (htrue : ∀ b, (z, b) ∈ l → b = true) : z ∈ filterTrue l := by
  obtain ⟨⟨c, b⟩, hp, rfl⟩ := List.mem_map.mp hz
  exact List.mem_map.mpr ⟨(c, b), List.mem_filter.mpr ⟨hp, by simpa using htrue b hp⟩, rfl⟩

/-! ## Where the loop is in its round -/

/-- **The rank at which a flag is loaded**: 1 for the main future, `5 + 3 i`
for task `i`. -/
def Comp.slot : Comp → Nat
  | .main => 1
  | .task i => 5 + 3 * i

/-- Distinct computations load at least three ranks apart. -/
theorem Comp.slot_lt_of_ne {z y : Comp} (hne : z ≠ y) (h : z.slot < y.slot + 3) :
    z.slot < y.slot := by
  cases z <;> cases y <;> simp_all [Comp.slot] <;> omega

/-- The main future and the tasks below `L` load below rank `5 + 3 L`. -/
theorem Comp.slot_lt_of_scope {z : Comp} {L : Nat} (h : ∀ i, z = .task i → i < L) :
    z.slot < 5 + 3 * L := by
  cases z with
  | main => simp only [Comp.slot]; omega
  | task i => have := h i rfl; simp only [Comp.slot]; omega

/-- **The position of a statement in its round**: the statements in program
order, three per task (load, clear, poll), then `sleep` and `waiting`; `done`
follows the main future's poll. -/
def Pc.rank (len : Nat) : Pc → Nat
  | .top => 0
  | .loadMain => 1
  | .clearMain => 2
  | .pollMain => 3
  | .readLen | .done => 4
  | .loadTask i => 5 + 3 * i
  | .clearTask i => 6 + 3 * i
  | .pollTask i => 7 + 3 * i
  | .sleep => 6 + 3 * len
  | .waiting => 7 + 3 * len

namespace BlockOn

/-- The position of the loop in its round. -/
def rank (s : BlockOn σ) : Nat := s.pc.rank s.len

/-- **The length `(A)` reads in the current round**: `len` once `(A)` has run,
the table's current length before. -/
def lenA (s : BlockOn σ) : Nat := if s.rank < 5 then s.tasks.length else s.len

theorem lenA_of_le {s : BlockOn σ} (h : 5 ≤ s.rank) : s.lenA = s.len := if_neg (by omega)

theorem lenA_of_lt {s : BlockOn σ} (h : s.rank < 5) : s.lenA = s.tasks.length := if_pos h

/-- The computation whose flag was read `true` and is about to be cleared. -/
def unclear (s : BlockOn σ) : List Comp :=
  match s.pc with
  | .clearMain => [.main]
  | .clearTask i => [.task i]
  | _ => []

/-- The computation whose flag was read `true` and whose poll has not returned. -/
def inService (s : BlockOn σ) : List Comp :=
  match s.pc with
  | .clearMain | .pollMain => [.main]
  | .clearTask i | .pollTask i => [.task i]
  | _ => []

/-- The top of a round: rank `0`, nothing in service. -/
theorem rank_inService_of_top {s : BlockOn σ} (h : s.pc = .top) : s.rank = 0 ∧ s.inService = [] := by
  simp [rank, inService, Pc.rank, h]

end BlockOn

/-! ## Slots -/

/-- The computation whose flag is loaded at rank `r`, when `(A)` read `L`. -/
def slotAt (L r : Nat) : Option Comp :=
  if r = 1 then some .main
  else if 5 ≤ r ∧ (r - 5) % 3 = 0 ∧ (r - 5) / 3 < L then some (.task ((r - 5) / 3))
  else none

/-- **The flags loaded between ranks `lo` and `hi`**, in order. -/
def slotsIn (L lo hi : Nat) : List Comp := (List.range' lo (hi - lo)).filterMap (slotAt L)

theorem slotAt_eq_some {L r : Nat} {c : Comp} (h : slotAt L r = some c) :
    c.slot = r ∧ ∀ i, c = .task i → i < L := by
  unfold slotAt at h
  split_ifs at h with h1 h2 <;> cases h
  · exact ⟨h1.symm, by simp⟩
  · refine ⟨?_, fun i hi => ?_⟩
    · simp only [Comp.slot]; omega
    · cases hi; exact h2.2.2

theorem slotAt_eq_none {L r : Nat} (h1 : r ≠ 1) (h2 : 5 ≤ r → (r - 5) % 3 = 0 → L ≤ (r - 5) / 3) :
    slotAt L r = none := by
  unfold slotAt
  split_ifs with ha hb
  · exact absurd ha h1
  · exact absurd (h2 hb.1 hb.2.1) (by omega)
  · rfl

@[simp] theorem slotAt_main (L : Nat) : slotAt L 1 = some .main := rfl

theorem slotAt_task {L i : Nat} (h : i < L) : slotAt L (5 + 3 * i) = some (.task i) := by
  unfold slotAt
  rw [if_neg (by omega), if_pos (by omega)]
  congr; omega

theorem slotsIn_eq_nil {L lo hi : Nat} (h : ∀ r, lo ≤ r → r < hi → slotAt L r = none) :
    slotsIn L lo hi = [] := by
  refine List.filterMap_eq_nil_iff.mpr fun r hr => h r ?_ ?_ <;>
    simp only [List.mem_range'_1] at hr <;> omega

theorem slotsIn_append {L lo mid hi : Nat} (h₁ : lo ≤ mid) (h₂ : mid ≤ hi) :
    slotsIn L lo mid ++ slotsIn L mid hi = slotsIn L lo hi := by
  obtain ⟨a, rfl⟩ := Nat.exists_eq_add_of_le h₁
  obtain ⟨b, rfl⟩ := Nat.exists_eq_add_of_le h₂
  unfold slotsIn
  rw [show lo + a - lo = a by omega, show lo + a + b - (lo + a) = b by omega,
    show lo + a + b - lo = b + a by omega, ← List.filterMap_append, List.range'_append_1]

theorem slotsIn_cons {L lo hi : Nat} (h : lo < hi) :
    slotsIn L lo hi = (slotAt L lo).toList ++ slotsIn L (lo + 1) hi := by
  rw [← slotsIn_append (Nat.le_succ lo) h]
  cases hs : slotAt L lo <;> simp [slotsIn, hs]

@[simp] theorem slotsIn_self (L r : Nat) : slotsIn L r r = [] := by simp [slotsIn]

theorem mem_slotsIn {L lo hi : Nat} {c : Comp} (h : c ∈ slotsIn L lo hi) :
    lo ≤ c.slot ∧ c.slot < hi ∧ ∀ i, c = .task i → i < L := by
  obtain ⟨r, hr, hc⟩ := List.mem_filterMap.mp h
  obtain ⟨rfl, hL⟩ := slotAt_eq_some hc
  simp only [List.mem_range'_1] at hr
  exact ⟨hr.1, by omega, hL⟩

theorem mem_slotsIn_of {L lo hi : Nat} {c : Comp} (hlo : lo ≤ c.slot) (hhi : c.slot < hi)
    (hL : ∀ i, c = .task i → i < L) : c ∈ slotsIn L lo hi := by
  refine List.mem_filterMap.mpr ⟨c.slot, List.mem_range'_1.mpr ⟨hlo, by omega⟩, ?_⟩
  cases c with
  | main => rfl
  | task i => exact slotAt_task (hL i rfl)

theorem slotsIn_nodup (L lo hi : Nat) : (slotsIn L lo hi).Nodup :=
  List.Nodup.filterMap (fun _ _ _ h h' => (slotAt_eq_some h).1.symm.trans (slotAt_eq_some h').1)
    (List.nodup_range' _ _)

/-- **A whole table's worth of slots**: the main future, then the tasks in index
order. -/
theorem slotsIn_table {L n : Nat} (h : n ≤ L) :
    slotsIn L 0 (5 + 3 * n) = .main :: (List.range n).map .task := by
  induction n with
  | zero =>
    rw [slotsIn_cons (by omega), slotsIn_cons (by omega), slotsIn_eq_nil fun r _ _ =>
      slotAt_eq_none (by omega) (by omega)]
    rfl
  | succ n ih =>
    rw [← slotsIn_append (by omega : 0 ≤ 5 + 3 * n) (by omega : 5 + 3 * n ≤ 5 + 3 * (n + 1)),
      ih (by omega), slotsIn_cons (by omega), slotAt_task (by omega),
      slotsIn_eq_nil fun r _ _ => slotAt_eq_none (by omega) (by omega)]
    simp [List.range_succ]

/-- Every stretch of a round that starts at its top loads a prefix of the table. -/
theorem slotsIn_prefix_table (L r : Nat) : slotsIn L 0 r <+: .main :: (List.range L).map .task := by
  rw [← slotsIn_table (le_refl L)]
  rcases Nat.le_total r (5 + 3 * L) with h | h
  · exact ⟨_, slotsIn_append (Nat.zero_le r) h⟩
  · have hnil : slotsIn L (5 + 3 * L) r = [] :=
      slotsIn_eq_nil fun r' _ _ => slotAt_eq_none (by omega) (by omega)
    exact ⟨[], by rw [List.append_nil, ← slotsIn_append (Nat.zero_le _) h, hnil, List.append_nil]⟩

/-! ## The structural invariant -/

/-- **What the loop's position requires**: the loop index within `len` (or at
it, for a load), `task_woken` set during a poll and clear while waiting. -/
def Pc.Fine (len : Nat) (woken : Bool) : Pc → Prop
  | .pollMain => woken = true
  | .loadTask i => i ≤ len
  | .clearTask i => i < len
  | .pollTask i => i < len ∧ woken = true
  | .waiting => woken = false
  | _ => True

/-- **What every reachable state satisfies**: the table fits `NTASKS`, `len` is
at most the table's length, and the position's requirement holds. -/
structure Inv (s : BlockOn σ) : Prop where
  tasks_le : s.tasks.length ≤ NTASKS
  len_le : s.len ≤ s.tasks.length
  fine : s.pc.Fine s.len s.taskWoken

section InvFields

variable {s : BlockOn σ} {i : Nat} (hi : Inv s)
include hi

theorem Inv.loadTask_le (h : s.pc = .loadTask i) : i ≤ s.len := by
  have := hi.fine; rw [h] at this; exact this

theorem Inv.clearTask_lt (h : s.pc = .clearTask i) : i < s.len := by
  have := hi.fine; rw [h] at this; exact this

theorem Inv.pollTask_lt (h : s.pc = .pollTask i) : i < s.len := by
  have := hi.fine; rw [h] at this; exact this.1

theorem Inv.woken_main (h : s.pc = .pollMain) : s.taskWoken = true := by
  have := hi.fine; rw [h] at this; exact this

theorem Inv.woken_task (h : s.pc = .pollTask i) : s.taskWoken = true := by
  have := hi.fine; rw [h] at this; exact this.2

theorem Inv.waiting (h : s.pc = .waiting) : s.taskWoken = false := by
  have := hi.fine; rw [h] at this; exact this

end InvFields

theorem BlockOn.fits_length {s : BlockOn σ} {e : PollEffect} (h : s.fits e = true) :
    s.tasks.length + e.spawns ≤ NTASKS := by
  simp only [fits, Bool.and_eq_true, decide_eq_true_eq] at h
  exact h.1

theorem Inv.init {flags : List Bool} (h : σ) (hlen : flags.length ≤ NTASKS) :
    Inv (BlockOn.init flags h) :=
  ⟨hlen, Nat.zero_le _, trivial⟩

/-- **Every step keeps the invariant.** -/
theorem Inv.step {s t : BlockOn σ} {e : Event} (hi : Inv s) (hst : Step P s e t) : Inv t := by
  have h₁ := hi.tasks_le
  have h₂ := hi.len_le
  have hf := hi.fine
  cases hst with
  | top => exact ⟨h₁, h₂, trivial⟩
  | loadMain => exact ⟨h₁, h₂, by split <;> trivial⟩
  | clearMain => exact ⟨h₁, h₂, rfl⟩
  | pollMain e r _ hfit =>
    have := BlockOn.fits_length hfit
    exact ⟨by simp; omega, by simp; omega, by cases r <;> trivial⟩
  | readLen => exact ⟨h₁, le_refl _, Nat.zero_le _⟩
  | loadTask _ hlt => exact ⟨h₁, h₂, by split <;> exact hlt⟩
  | endLoop => exact ⟨h₁, h₂, trivial⟩
  | clearTask hpc =>
    rw [hpc] at hf
    exact ⟨by simpa using h₁, by simpa using h₂, hf, rfl⟩
  | pollTask e hpc hfit =>
    have := BlockOn.fits_length hfit
    rw [hpc] at hf
    exact ⟨by simp; omega, by simp; omega, by simpa [Pc.Fine] using hf.1⟩
  | proceed => exact ⟨h₁, h₂, trivial⟩
  | sleep _ hw => exact ⟨h₁, h₂, hw⟩
  | wake => exact ⟨h₁, h₂, trivial⟩
  | irq => exact ⟨by simpa using h₁, by simpa using h₂, by simpa using hf⟩

theorem Run.inv {s u : BlockOn σ} {es : List Event} (hr : Run P s es u) (hi : Inv s) : Inv u := by
  induction hr with
  | refl => exact hi
  | step a hst _ ih => exact ih (hi.step (Step.of_step P hst))

theorem Reachable.inv {s : BlockOn σ} (hs : Reachable P s) : Inv s := by
  obtain ⟨flags, h, es, hlen, hr⟩ := hs
  exact hr.inv (Inv.init h hlen)

/-! ## What one step does -/

open BlockOn

variable {s t : BlockOn σ} {e : Event}

/-- **Flags are cleared only by the loop's `clear`.** -/
theorem flag_step {z : Comp} (hst : Step P s e t) (hf : s.flag z = true) (hc : e ≠ .clear z) :
    t.flag z = true := by
  cases hst with
  | clearMain => cases z <;> simp_all [flag]
  | clearTask =>
    cases z with
    | main => exact hf
    | task m =>
      simp only [flag, List.getD_eq_getElem?_getD, List.getElem?_set] at hf ⊢
      split <;> simp_all
  | pollMain e r => exact flag_afterPoll e hf
  | pollTask e => exact flag_afterPoll e hf
  | irq ws => exact flag_storeAll ws hf
  | _ => cases z <;> exact hf

/-- The table only grows. -/
theorem tasks_length_step (hst : Step P s e t) : s.tasks.length ≤ t.tasks.length := by
  cases hst <;> simp

/-- A load reads the flag as it is. -/
theorem loaded_step {z : Comp} {b : Bool} (hst : Step P s e t) (h : e.loaded = some (z, b)) :
    s.flag z = b := by
  cases hst <;> simp [Event.loaded] at h <;> obtain ⟨rfl, rfl⟩ := h <;> rfl

/-- A `clear` moves the loop to the poll, two ranks past the flag's slot. -/
theorem rank_clear_step {z : Comp} (hst : Step P s (.clear z) t) : t.rank = z.slot + 2 := by
  cases hst with
  | clearMain => rfl
  | clearTask => simp [rank, Pc.rank, Comp.slot]; omega

/-- **The loop moves forward within a round**: a step other than `round` raises
the rank, by one at least when the loop makes it; only `(A)` sets `len`, to the
table's length. -/
theorem rank_step (hi : Inv s) (hst : Step P s e t) (hr : e ≠ .round) :
    s.rank + (if e.byLoop then 1 else 0) ≤ t.rank ∧ (5 ≤ s.rank → t.len = s.len) ∧
      (s.rank < 5 → 5 ≤ t.rank → t.len = s.tasks.length) := by
  cases hst with
  | proceed => exact absurd rfl hr
  | wake => exact absurd rfl hr
  | endLoop hpc hle =>
    have := hi.loadTask_le hpc
    simp [rank, hpc, Pc.rank, Event.byLoop]; omega
  | loadMain hpc => cases s.ready <;> simp [rank, hpc, Pc.rank, Event.byLoop]
  | loadTask hpc => cases s.flag (.task _) <;> simp [rank, hpc, Pc.rank, Event.byLoop] <;> omega
  | pollMain e r hpc => cases r <;> simp [rank, hpc, Pc.rank, Event.byLoop]
  | irq ws => simp [rank, Event.byLoop]; omega
  | top hpc | clearMain hpc | readLen hpc | clearTask hpc | pollTask _ hpc _ | sleep hpc _ =>
    simp [rank, hpc, Pc.rank, Event.byLoop] <;> omega

/-- The length `(A)` reads does not shrink within a round. -/
theorem lenA_step (hi : Inv s) (hst : Step P s e t) (hr : e ≠ .round) : s.lenA ≤ t.lenA := by
  obtain ⟨hrank, hlen, hlenA⟩ := rank_step hi hst hr
  by_cases hs : 5 ≤ s.rank
  · rw [lenA_of_le hs, lenA_of_le (by omega), hlen hs]
  · rw [lenA_of_lt (by omega)]
    by_cases ht : 5 ≤ t.rank
    · rw [lenA_of_le ht, hlenA (by omega) ht]
    · rw [lenA_of_lt (by omega)]
      exact tasks_length_step hst

/-- **A step loads the slots it passes.** -/
theorem slots_step {L : Nat} (hi : Inv s) (hst : Step P s e t) (hr : e ≠ .round)
    (hL : 5 ≤ s.rank → s.len = L) : e.loaded.toList.map Prod.fst = slotsIn L s.rank t.rank := by
  have gap : ∀ lo hi, (∀ r, lo ≤ r → r < hi → r ≠ 1 ∧ (5 ≤ r → (r - 5) % 3 = 0 → L ≤ (r - 5) / 3)) →
      slotsIn L lo hi = [] := fun lo hi h =>
    slotsIn_eq_nil fun r h₁ h₂ => slotAt_eq_none (h r h₁ h₂).1 (h r h₁ h₂).2
  cases hst with
  | proceed => exact absurd rfl hr
  | wake => exact absurd rfl hr
  | loadMain hpc =>
    cases s.ready <;> simp only [rank, hpc, Pc.rank, Bool.false_eq_true, if_false, if_true,
      eq_self_iff_true] <;>
      rw [slotsIn_cons (by omega), slotAt_main, gap _ _ fun r h₁ h₂ => by omega] <;> rfl
  | loadTask hpc hlt =>
    have hL := hL (by simp [rank, hpc, Pc.rank])
    cases s.flag (.task _) <;> simp only [rank, hpc, Pc.rank, Bool.false_eq_true, if_false, if_true,
      eq_self_iff_true] <;>
      rw [slotsIn_cons (by omega), slotAt_task (by omega), gap _ _ fun r h₁ h₂ => by omega] <;> rfl
  | endLoop hpc hle =>
    have := hi.loadTask_le hpc
    have hL := hL (by simp [rank, hpc, Pc.rank])
    simp only [rank, hpc, Pc.rank]
    exact (gap _ _ fun r h₁ h₂ => by omega).symm
  | irq ws => simp [rank, Event.loaded]
  | pollMain e r hpc =>
    cases r <;> simp only [rank, hpc, afterPoll_len, Pc.rank, Bool.false_eq_true, if_false, if_true,
      eq_self_iff_true] <;> exact (gap _ _ fun r h₁ h₂ => by omega).symm
  | _ => simp only [rank, Pc.rank, *]; exact (gap _ _ fun r h₁ h₂ => by omega).symm

/-- One step of the ledger of `clear`s. -/
theorem clears_step (hst : Step P s e t) :
    e.cleared.toList ++ t.unclear = s.unclear ++ filterTrue e.loaded.toList := by
  cases hst <;> (try split) <;> simp_all [unclear, filterTrue, Event.cleared, Event.loaded]

/-- One step of the ledger of polls. -/
theorem polls_step (hst : Step P s e t) :
    e.polled.toList ++ t.inService = s.inService ++ filterTrue e.loaded.toList := by
  cases hst <;> (try split) <;> simp_all [inService, filterTrue, Event.polled, Event.loaded]

/-! ## Runs -/

variable {u : BlockOn σ} {es : List Event}

/-- **The `clear`s of a run are its loads that read `true`**, up to the one
pending at either end. -/
theorem clears_ledger (hr : Run P s es u) :
    clears es ++ u.unclear = s.unclear ++ filterTrue (loads es) := by
  induction hr with
  | refl => simp
  | step a hst _ ih =>
    simp only [clears_cons, loads_cons, filterTrue_append, List.append_assoc, ih]
    rw [← List.append_assoc, clears_step (Step.of_step P hst), List.append_assoc]

/-- **The polls of a run are its loads that read `true`**, up to the one in
service at either end. -/
theorem polls_ledger (hr : Run P s es u) :
    polls es ++ u.inService = s.inService ++ filterTrue (loads es) := by
  induction hr with
  | refl => simp
  | step a hst _ ih =>
    simp only [polls_cons, loads_cons, filterTrue_append, List.append_assoc, ih]
    rw [← List.append_assoc, polls_step (Step.of_step P hst), List.append_assoc]

/-- A flag no `clear` touches stays set. -/
theorem flag_run {z : Comp} (hr : Run P s es u) (hf : s.flag z = true) (hc : .clear z ∉ es) :
    u.flag z = true := by
  induction hr with
  | refl => exact hf
  | step a hst _ ih =>
    simp only [List.mem_cons, not_or] at hc
    exact ih (flag_step (Step.of_step P hst) hf (Ne.symm hc.1)) hc.2

/-- **A stretch of a round**: it runs at most as many statements as it moves
the rank; `len` is the one `(A)` read; its loads are the slots between its two
ranks, in order; and a flag set at its start is read `true`. -/
theorem segment (hi : Inv s) (hr : Run P s es u) (hnr : .round ∉ es) :
    steps es + s.rank ≤ u.rank ∧ (5 ≤ s.rank → u.len = s.len) ∧ (5 ≤ u.rank → s.lenA ≤ u.len) ∧
      (loads es).map Prod.fst = slotsIn u.len s.rank u.rank ∧
      ∀ z b, (z, b) ∈ loads es → s.flag z = true → b = true := by
  induction hr with
  | refl => exact ⟨by simp, fun _ => rfl, fun h => by simp [lenA, Nat.not_lt.mpr h], by simp, by simp⟩
  | @step s t u e es a hst hr ih =>
    have hst := Step.of_step P hst
    simp only [List.mem_cons, not_or] at hnr
    obtain ⟨hsteps, hlen, hlenA, hloads, hflags⟩ := ih (hi.step hst) hnr.2
    obtain ⟨hrank, hlen₁, -⟩ := rank_step hi hst (Ne.symm hnr.1)
    have hlen' : 5 ≤ s.rank → u.len = s.len := fun h => (hlen (by omega)).trans (hlen₁ h)
    refine ⟨by simp only [steps_cons]; omega, hlen', fun h => (lenA_step hi hst (Ne.symm hnr.1)).trans
      (hlenA h), ?_, fun z b hz hf => ?_⟩
    · rw [loads_cons, List.map_append, hloads, slots_step hi hst (Ne.symm hnr.1)
        fun h => (hlen' h).symm, slotsIn_append (by omega) (by omega)]
    · rw [loads_cons, List.mem_append] at hz
      rcases hz with hz | hz
      · rw [← loaded_step hst (Option.mem_toList.mp hz), hf]
      · by_cases hc : e = .clear z
        · subst hc
          have hz' : z ∈ (loads es).map Prod.fst := List.mem_map_of_mem Prod.fst hz
          have := (mem_slotsIn (hloads ▸ hz')).1
          rw [rank_clear_step hst] at this
          omega
        · exact hflags z b hz (flag_step hst hf hc)

/-! ## Ahead of a flagged computation -/

/-- **The `clear` of `x` is still to come in this round**: the loop has not
passed it, and a task lies below the length `(A)` read. -/
def BlockOn.Ahead (s : BlockOn σ) : Comp → Prop
  | .main => s.rank ≤ 2
  | .task m => s.rank ≤ 6 + 3 * m ∧ (5 ≤ s.rank → m < s.len)

variable {x : Comp}

theorem ahead_of_top (h : s.pc = .top) (x : Comp) : s.Ahead x := by
  cases x <;> simp [Ahead, rank, Pc.rank, h]

/-- A round does not end while a flagged computation is ahead. -/
theorem BlockOn.Ahead.not_sleep (h : s.Ahead x) : s.pc ≠ .sleep ∧ s.pc ≠ .waiting := by
  constructor <;> intro hpc <;> cases x <;> simp [Ahead, rank, Pc.rank, hpc] at h <;> omega

theorem BlockOn.Ahead.rank_le (hi : Inv s) (hf : s.flag x = true) (h : s.Ahead x) :
    s.rank ≤ 3 + 3 * NTASKS := by
  have := hi.tasks_le
  cases x with
  | main => simp only [Ahead] at h; omega
  | task m => have := lt_of_flag_task hf; simp only [Ahead] at h; omega

theorem rank_le (hi : Inv s) : s.rank ≤ 7 + 3 * NTASKS := by
  have := hi.tasks_le
  have := hi.len_le
  cases h : s.pc with
  | loadTask i => have := hi.loadTask_le h; simp [rank, h, Pc.rank]; omega
  | clearTask i => have := hi.clearTask_lt h; simp [rank, h, Pc.rank]; omega
  | pollTask i => have := hi.pollTask_lt h; simp [rank, h, Pc.rank]; omega
  | _ => simp only [rank, h, Pc.rank]; omega

/-- A `round` step starts the next round and changes no flag. -/
theorem round_step (hst : Step P s .round t) :
    (s.pc = .sleep ∨ s.pc = .waiting) ∧ t.pc = .top ∧ ∀ z, t.flag z = s.flag z := by
  cases hst <;> simp_all <;> intro z <;> cases z <;> rfl

/-- **While `x` is ahead, its flag stays set and the loop approaches it**: a step
that is not its `clear` neither ends the round nor passes it. -/
theorem ahead_step (hst : Step P s e t) (ha : s.Ahead x) (hf : s.flag x = true)
    (hc : e ≠ .clear x) : e ≠ .round ∧ t.Ahead x ∧ t.flag x = true := by
  refine ⟨fun he => ?_, ?_, flag_step hst hf hc⟩
  · subst he
    exact (round_step hst).1.elim ha.not_sleep.1 ha.not_sleep.2
  cases x with
  | main =>
    simp only [Ahead, rank] at ha ⊢
    cases hst with
    | top => exact Nat.le_succ 1
    | loadMain => simp only [flag] at hf; simp [hf, Pc.rank]
    | clearMain => exact absurd rfl hc
    | irq => simpa using ha
    | _ => simp only [*, Pc.rank] at ha; omega
  | task m =>
    have hm := lt_of_flag_task hf
    simp only [Ahead, rank] at ha ⊢
    cases hst with
    | top hpc | clearMain hpc | readLen hpc | proceed hpc _ | sleep hpc _ | wake hpc _ =>
      simp only [hpc, Pc.rank] at ha ⊢; omega
    | loadMain hpc => split <;> simp only [hpc, Pc.rank] at ha ⊢ <;> omega
    | pollMain e r hpc => cases r <;> simp [hpc, Pc.rank] at ha ⊢ <;> omega
    | loadTask hpc hlt =>
      rename_i i
      simp only [hpc, Pc.rank] at ha
      by_cases him : i = m
      · subst him; rw [if_pos hf]; simp only [Pc.rank]; omega
      · split <;> simp only [Pc.rank] <;> omega
    | endLoop hpc hle => simp only [hpc, Pc.rank] at ha; omega
    | clearTask hpc =>
      rename_i i
      simp only [hpc, Pc.rank] at ha ⊢
      have : i ≠ m := fun h => hc (by rw [h])
      omega
    | pollTask e hpc => simp only [hpc, Pc.rank, afterPoll_len] at ha ⊢; omega
    | irq => simpa using ha

/-- **A flagged computation ahead is reached**: a run with no `clear` of it stays
in the round, ahead of it, with its flag set. -/
theorem ahead_run (hr : Run P s es u) (ha : s.Ahead x) (hf : s.flag x = true)
    (hc : .clear x ∉ es) : .round ∉ es ∧ u.Ahead x ∧ u.flag x = true := by
  induction hr with
  | refl => exact ⟨List.not_mem_nil _, ha, hf⟩
  | step a hst _ ih =>
    have hst := Step.of_step P hst
    simp only [List.mem_cons, not_or] at hc ⊢
    obtain ⟨hne, ha', hf'⟩ := ahead_step hst ha hf (Ne.symm hc.1)
    obtain ⟨h₁, h₂, h₃⟩ := ih ha' hf' hc.2
    exact ⟨⟨Ne.symm hne, h₁⟩, h₂, h₃⟩

/-- Only a `round` step enters the top of the loop. -/
theorem pc_ne_top_step (hst : Step P s e t) (he : e ≠ .round) (hs : s.pc ≠ .top) : t.pc ≠ .top := by
  cases hst <;> (try split) <;> simp_all

section Behind

/-! ## Behind a flagged computation

`go` is what keeps the round from waiting once a computation's `clear` is
behind: `task_woken` in general, and on ARM also the event latch.  Every step of
the loop inside a round, after its top, keeps it. -/

variable (go : BlockOn σ → Prop)
  (go_step : ∀ {s t : BlockOn σ} {e : Event}, Inv s → Step P s e t → e ≠ .round →
    s.pc ≠ .top → go s → go t)

include go_step in
/-- **Behind a flagged computation**: the round ends with `go` holding, and the
next round has the computation ahead.  So a run with no `clear` of it crosses
at most one round and runs at most two rounds' worth of statements. -/
theorem behind_run (hi : Inv s) (hr : Run P s es u) (hf : s.flag x = true) (hc : .clear x ∉ es)
    (htop : s.pc ≠ .top) (hgo : go s) :
    es.count .round ≤ 1 ∧ (go u ∨ u.Ahead x) ∧ steps es + s.rank ≤ 2 * (7 + 3 * NTASKS) := by
  induction hr with
  | refl => exact ⟨by simp, .inl hgo, by have := rank_le hi; simp; omega⟩
  | @step s t u e es a hst hr ih =>
    have hst := Step.of_step P hst
    simp only [List.mem_cons, not_or] at hc
    by_cases he : e = .round
    · subst he
      obtain ⟨-, htop', hflag⟩ := round_step hst
      have hi' := hi.step hst
      have hf' : t.flag x = true := (hflag x).trans hf
      obtain ⟨hnr, ha, hfu⟩ := ahead_run hr (ahead_of_top htop' x) hf' hc.2
      have hseg := (segment hi' hr hnr).1
      have := ha.rank_le (hr.inv hi') hfu
      have := rank_le hi
      have := (rank_inService_of_top htop').1
      refine ⟨by simp [List.count_eq_zero.mpr hnr], .inr ha, ?_⟩
      simp only [steps_cons, Event.byLoop, ite_true]
      omega
    · have htop' := pc_ne_top_step hst he htop
      obtain ⟨h₁, h₂, h₃⟩ := ih (hi.step hst) (flag_step hst hf (Ne.symm hc.1)) hc.2 htop'
        (go_step hi hst he htop hgo)
      have := (rank_step hi hst he).1
      refine ⟨by simpa [List.count_cons, he] using h₁, h₂, ?_⟩
      simp only [steps_cons]
      omega

end Behind

/-! ## From one poll of a computation to the next -/

/-- Past a poll that returned: the rank just after the poll, nothing in
service, `task_woken` set. -/
theorem poll_step {y : Comp} {eff : PollEffect} (hi : Inv s) (hst : Step P s (.poll y eff) t) :
    t.rank = y.slot + 3 ∧ t.inService = [] ∧ t.unclear = [] ∧ t.taskWoken = true ∧ t.pc ≠ .top := by
  cases hst with
  | pollMain e r hpc => have := hi.woken_main hpc; cases r <;> simp_all [rank, Pc.rank, inService, unclear, Comp.slot]
  | pollTask e hpc =>
    have := hi.woken_task hpc
    simp_all [rank, Pc.rank, inService, unclear, Comp.slot]; omega

/-- Before a `clear`: its computation in service, one rank past its slot, and a
task below `len`. -/
theorem clear_step {y : Comp} (hi : Inv s) (hst : Step P s (.clear y) t) :
    s.inService = [y] ∧ s.rank = y.slot + 1 ∧ ∀ j, y = .task j → j < s.len := by
  cases hst with
  | clearMain hpc => simp [inService, rank, Pc.rank, hpc, Comp.slot]
  | clearTask hpc =>
    have := hi.clearTask_lt hpc
    simp [inService, rank, Pc.rank, hpc, Comp.slot, this]; omega

/-- `task_woken` stays set until the top of the next round. -/
theorem taskWoken_step (hst : Step P s e t) (he : e ≠ .round) (htop : s.pc ≠ .top)
    (h : s.taskWoken = true) : t.taskWoken = true := by
  cases hst <;> simp_all

/-- The flags cleared in a run from a state with none pending are among its loads. -/
theorem clears_sublist (hr : Run P s es u) (h : s.unclear = []) :
    (clears es).Sublist ((loads es).map Prod.fst) :=
  sublist_of_ledger (h ▸ clears_ledger hr)

/-- The polls of a run from a state with nothing in service are among its loads. -/
theorem polls_sublist (hr : Run P s es u) (h : s.inService = []) :
    (polls es).Sublist ((loads es).map Prod.fst) :=
  sublist_of_ledger (h ▸ polls_ledger hr)

/-- **No computation is polled twice in a stretch of a round.** -/
theorem count_polls_le_one (hi : Inv s) (hr : Run P s es u) (hnr : .round ∉ es)
    (h : s.inService = []) (z : Comp) : (polls es).count z ≤ 1 := by
  have hn := slotsIn_nodup u.len s.rank u.rank
  rw [← (segment hi hr hnr).2.2.2.1] at hn
  exact ((polls_sublist hr h).count_le z).trans (List.nodup_iff_count_le_one.mp hn z)

/-- A load in a stretch of a round is of a slot the stretch passes. -/
theorem slot_of_mem_loads {z : Comp} (hi : Inv s) (hr : Run P s es u) (hnr : .round ∉ es)
    (hz : z ∈ (loads es).map Prod.fst) : s.rank ≤ z.slot ∧ z.slot < u.rank := by
  rw [(segment hi hr hnr).2.2.2.1] at hz
  exact ⟨(mem_slotsIn hz).1, (mem_slotsIn hz).2.1⟩

/-- **A flag set at the start of a stretch, in a slot the stretch passes, is
polled in it**, or is in service at its end. -/
theorem polled_of_flag {z : Comp} (hi : Inv s) (hr : Run P s es u) (hnr : .round ∉ es)
    (h : s.inService = []) (hf : s.flag z = true) (hlo : s.rank ≤ z.slot) (hhi : z.slot < u.rank)
    (hL : ∀ i, z = .task i → i < u.len) : z ∈ polls es ++ u.inService := by
  obtain ⟨-, -, -, hloads, htrue⟩ := segment hi hr hnr
  rw [polls_ledger hr, h, List.nil_append]
  exact mem_filterTrue (hloads ▸ mem_slotsIn_of hlo hhi hL) fun b hb => htrue z b hb hf

/-- A run that crosses exactly one round: the stretch before it and the one after. -/
theorem Run.split_round (hr : Run P s es u) (h1 : es.count .round = 1) :
    ∃ es₁ es₂ a b, es = es₁ ++ .round :: es₂ ∧ .round ∉ es₁ ∧ .round ∉ es₂ ∧
      Run P s es₁ a ∧ Step P a .round b ∧ Run P b es₂ u := by
  obtain ⟨es₁, es₂, rfl⟩ := List.append_of_mem (List.count_pos_iff.mp (show 0 < es.count .round by omega))
  simp only [List.count_append, List.count_cons_self] at h1
  obtain ⟨a, h₁, h₂⟩ := Run.of_append hr
  obtain ⟨b, hst, h₃⟩ := Run.cons_inv h₂
  exact ⟨es₁, es₂, a, b, rfl, List.count_eq_zero.mp (by omega), List.count_eq_zero.mp (by omega),
    h₁, hst, h₃⟩

section NextPoll

variable {y : Comp} {eff : PollEffect} (hi : Inv s) (hp : Step P s (.poll y eff) t)
  (hy : t.flag y = true) (hr : Run P t es u) (hc : .clear y ∉ es)
include hi hp hy hr hc

/-- **Between a poll that leaves its flag set and the next poll of the same
computation** the loop crosses at most one round, never waits, runs at most two
rounds' worth of statements, and polls no computation twice. -/
theorem next_poll_window :
    es.count .round ≤ 1 ∧ u.pc ≠ .waiting ∧ steps es ≤ 2 * (7 + 3 * NTASKS) ∧
      ∀ z, (polls es).count z ≤ 1 := by
  obtain ⟨hrank, hsvc, -, hwoken, htop⟩ := poll_step hi hp
  have hi' := hi.step hp
  obtain ⟨hcount, hgo, hsteps⟩ := behind_run (fun s => s.taskWoken = true)
    (fun _ hst he htop h => taskWoken_step hst he htop h) hi' hr hy hc htop hwoken
  have hw : u.pc ≠ .waiting := fun hw => by
    rcases hgo with h | h
    · simp [(hr.inv hi').waiting hw] at h
    · exact h.not_sleep.2 hw
  refine ⟨hcount, hw, by omega, fun z => ?_⟩
  by_cases hnr : .round ∈ es
  · obtain ⟨es₁, es₂, a, b, rfl, hn₁, hn₂, h₁, hst, h₂⟩ :=
      Run.split_round hr (le_antisymm hcount (List.count_pos_iff.mpr hnr))
    obtain ⟨-, htopb, hflag⟩ := round_step hst
    have hib := (h₁.inv hi').step hst
    have hyb : b.flag y = true := (hflag y).trans (flag_run h₁ hy fun h => hc (by simp [h]))
    have hcb : .clear y ∉ es₂ := fun h => hc (by simp [h])
    have ha := (ahead_run h₂ (ahead_of_top htopb y) hyb hcb).2.1
    obtain ⟨hb0, hbsvc⟩ := rank_inService_of_top htopb
    simp only [polls_append, polls_cons, Event.polled, Option.toList_none, List.nil_append,
      List.count_append]
    have c₁ := count_polls_le_one hi' h₁ hn₁ hsvc z
    have c₂ := count_polls_le_one hib h₂ hn₂ hbsvc z
    by_contra hgt
    have m₁ := slot_of_mem_loads hi' h₁ hn₁
      ((polls_sublist h₁ hsvc).subset (List.count_pos_iff.mp (show 0 < (polls es₁).count z by omega)))
    have m₂ := slot_of_mem_loads hib h₂ hn₂
      ((polls_sublist h₂ hbsvc).subset (List.count_pos_iff.mp (show 0 < (polls es₂).count z by omega)))
    have : u.rank ≤ y.slot + 1 := by cases y <;> simp only [Ahead, Comp.slot] at ha ⊢ <;> omega
    omega
  · exact count_polls_le_one hi' hr hnr hsvc z

/-- **When the computation's next poll begins**, the loop has crossed exactly one
round, and every other computation whose flag was set as the poll returned, and
that is the main future or a task below the length `(A)` read in that round, has
been polled exactly once. -/
theorem next_poll_serves {v : BlockOn σ} (hv : Step P u (.clear y) v) :
    es.count .round = 1 ∧ ∀ z, z ≠ y → t.flag z = true → (∀ i, z = .task i → i < t.lenA) →
      (polls es).count z = 1 := by
  obtain ⟨hrank, hsvc, hunc, -, -⟩ := poll_step hi hp
  have hi' := hi.step hp
  obtain ⟨hcount, -, -, hle⟩ := next_poll_window hi hp hy hr hc
  obtain ⟨husvc, hurank, hulen⟩ := clear_step (hr.inv hi') hv
  have h1 : es.count .round = 1 := by
    by_contra hne
    have := (segment hi' hr (List.count_eq_zero.mp (by omega))).1
    omega
  refine ⟨h1, fun z hne hz hscope => le_antisymm (hle z) (List.count_pos_iff.mpr ?_)⟩
  obtain ⟨es₁, es₂, a, b, rfl, hn₁, hn₂, h₁, hst, h₂⟩ := Run.split_round hr h1
  obtain ⟨hsleep, htopb, hflag⟩ := round_step hst
  have hib := (h₁.inv hi').step hst
  simp only [polls_append, polls_cons, Event.polled, Option.toList_none, List.nil_append,
    List.mem_append]
  by_cases hlate : t.rank ≤ z.slot
  · -- `z` comes after `y` in the same round
    left
    obtain ⟨-, -, hlenA, -, -⟩ := segment hi' h₁ hn₁
    have hasvc : a.inService = [] := by rcases hsleep with h | h <;> simp [inService, h]
    have harank : 6 + 3 * a.len ≤ a.rank := by rcases hsleep with h | h <;> simp [rank, Pc.rank, h]
    have hA : ∀ i, z = .task i → i < a.len := fun i hi => (hscope i hi).trans_le (hlenA (by omega))
    have := Comp.slot_lt_of_scope hA
    simpa [hasvc] using polled_of_flag hi' h₁ hn₁ hsvc hz hlate (by omega) hA
  · -- `z` comes before `y`, in the next round
    right
    have hzy : z.slot < y.slot := Comp.slot_lt_of_ne hne (by omega)
    have hclear : .clear z ∉ es₁ := fun h => hlate (slot_of_mem_loads hi' h₁ hn₁
      ((clears_sublist h₁ hunc).subset (List.mem_filterMap.mpr ⟨_, h, rfl⟩))).1
    have hzb : b.flag z = true := (hflag z).trans (flag_run h₁ hz hclear)
    obtain ⟨hb0, hbsvc⟩ := rank_inService_of_top htopb
    have := polled_of_flag hib h₂ hn₂ hbsvc hzb (by omega) (by omega) fun i hi => by
      subst hi
      cases y with
      | main => simp [Comp.slot] at hzy
      | task j => simp only [Comp.slot] at hzy; have := hulen j rfl; omega
    rw [husvc] at this
    simpa [hne] using this

end NextPoll

/-- **What `block_on` guarantees from a reachable state.** -/
structure RoundOrder (P : Platform σ) (s : BlockOn σ) : Prop where
  /-- Every `get_unchecked(i)` is within the table's current length. -/
  get_unchecked_lt : ∀ {i}, s.pc = .loadTask i → i < s.len → i < s.tasks.length
  /-- A round from its top: the polls are the loads that read `true` (up to the
  one in service), the loads are the main future then the tasks below the
  length `(A)` read, in index order, and all of them once the round reaches
  its end. -/
  round_polls : s.pc = .top → ∀ {es u}, Run P s es u → .round ∉ es →
    polls es ++ u.inService = filterTrue (loads es) ∧
    (loads es).map Prod.fst <+: .main :: (List.range u.len).map .task ∧
    (u.pc = .sleep → (loads es).map Prod.fst = .main :: (List.range u.len).map .task)
  /-- From a poll that leaves the polled computation's flag set to the next
  poll of it.  Every run that has not yet begun that next poll crosses at most
  one round, never waits in `wait_for_event`, runs at most two rounds' worth of
  statements, and ends where `block_on` has returned, a poll is in progress, or
  the loop has a next statement: so the next poll comes, within the next round,
  unless `block_on` returns first.  When it begins, exactly one round has been
  crossed and every other flagged computation of the round has been polled
  once. -/
  next_poll : ∀ {a y eff t}, s.step P a = some (.poll y eff, t) → t.flag y = true →
    ∀ {es u}, Run P t es u → .clear y ∉ es →
      es.count .round ≤ 1 ∧ u.pc ≠ .waiting ∧ steps es ≤ 2 * (7 + 3 * NTASKS) ∧
      (u.pc = .done ∨ u.pc.polling = true ∨ (u.advance P).isSome = true) ∧
      (∀ z, (polls es).count z ≤ 1) ∧
      (∀ {v}, Step P u (.clear y) v → es.count .round = 1 ∧
        ∀ z, z ≠ y → t.flag z = true → (∀ i, z = .task i → i < t.lenA) →
          (polls es).count z = 1)

/-- A round from its top loads the table in order and polls what reads `true`. -/
theorem round_from_top (hi : Inv s) (htop : s.pc = .top) (hr : Run P s es u) (hnr : .round ∉ es) :
    polls es ++ u.inService = filterTrue (loads es) ∧
      (loads es).map Prod.fst <+: .main :: (List.range u.len).map .task ∧
      (u.pc = .sleep → (loads es).map Prod.fst = .main :: (List.range u.len).map .task) := by
  obtain ⟨hs0, hsvc⟩ := rank_inService_of_top htop
  have hloads := (segment hi hr hnr).2.2.2.1
  rw [hs0] at hloads
  refine ⟨by simpa [hsvc] using polls_ledger hr, hloads ▸ slotsIn_prefix_table _ _, fun hu => ?_⟩
  have hur : u.rank = 5 + 3 * u.len + 1 := by simp [rank, hu, Pc.rank]; omega
  rw [hloads, hur, ← slotsIn_append (Nat.zero_le _) (Nat.le_succ _), slotsIn_table (le_refl _),
    slotsIn_cons (Nat.lt_succ_self _), slotAt_eq_none (by omega) (by omega)]
  simp

/-- **The rounds of `block_on`**, from every reachable state: each round polls
the main future and then the flagged tasks below the length read at `(A)`, in
index order, each at most once and within the table; and a computation that
wakes itself during its poll is polled again in the next round, after every
other flagged computation of the round, unless `block_on` returns first. -/
theorem block_on_round_order (hs : Reachable P s) : RoundOrder P s where
  get_unchecked_lt hpc hlt := hlt.trans_le hs.inv.len_le
  round_polls htop _ _ hr hnr := round_from_top hs.inv htop hr hnr
  next_poll hp hy _ _ hr hc := by
    have hp' := Step.of_step P hp
    obtain ⟨h₁, h₂, h₃, h₄⟩ := next_poll_window hs.inv hp' hy hr hc
    exact ⟨h₁, h₂, h₃, BlockOn.progress fun hw => absurd hw h₂, h₄,
      next_poll_serves hs.inv hp' hy hr hc⟩

theorem block_on_round_order_from_start :
    Reachable Platform.nop (BlockOn.init [true] ()) ∧
      RoundOrder Platform.nop (BlockOn.init [true] ()) :=
  have h : Reachable Platform.nop (BlockOn.init [true] ()) := ⟨[true], (), [], by decide, .refl _⟩
  ⟨h, block_on_round_order h⟩

end AsyncEmbedded.Executor
