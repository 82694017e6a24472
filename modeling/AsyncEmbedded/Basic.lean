import Mathlib.Data.List.Basic
import Mathlib.Algebra.Group.Nat.Basic

/-!
# Shared constants of the runtime

The crates fix one capacity for everything the runtime stores: the task table
of the executor, the ring buffer of a channel and the slab of a waker registry
all hold `NTASKS` elements (`typenum::consts::U8` in both `lib.rs` files).

Cursors and counters are `usize` values.  The targets are 32-bit (Cortex-M,
RV32), but nothing below depends on the width, so it is a parameter `w`:
`wrapping_add` is addition modulo `2 ^ w`, and a plain `+` or `-` that leaves
`[0, 2 ^ w)` is an overflow (a panic in a debug build, a wrap in a release
build).

## Build profile

The model follows a **release build**, in which integer overflow wraps.  These
are the places where the profile matters:

* `try_send`'s `read + cap` wraps (`Channel.trySend`, `trySend_refused_on_empty_channel`).
* The registry's `notifiable -= 1` wraps below zero.  The code never reads the
  count, so `Inner` keeps it as an integer: the `usize` value is that integer
  modulo `2 ^ w`, and the slab evolves the same whatever it is
  (`notifiable_underflows_after_notify_one`).
* `Timer::wait` computes its tick count in `u64` modulo `2 ^ 64`
  (`Nrf52.ticks`).

A debug build panics at the first of these overflows instead.  The results
that say a step is defined, or that an `assert!` passes, are about release
builds.
-/

namespace AsyncEmbedded

/-- **`NTASKS`**, the crates' fixed capacity (`typenum::consts::U8`). -/
def NTASKS : Nat := 8

/-- **`usize::wrapping_add`** at width `w`. -/
def wrappingAdd (w a b : Nat) : Nat := (a + b) % 2 ^ w

theorem wrappingAdd_lt (w a b : Nat) : wrappingAdd w a b < 2 ^ w := Nat.mod_lt _ (Nat.two_pow_pos w)

theorem wrappingAdd_le (w a b : Nat) : wrappingAdd w a b ≤ a + b := Nat.mod_le _ _

/-- A `wrapping_add` that does not reach `2 ^ w` is a plain sum. -/
theorem wrappingAdd_of_lt {w a b : Nat} (h : a + b < 2 ^ w) : wrappingAdd w a b = a + b :=
  Nat.mod_eq_of_lt h

end AsyncEmbedded
