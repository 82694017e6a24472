import AsyncEmbedded.Nrf52.Twim

/-!
# EasyDMA and the copies into RAM

UARTE0 and TWIM0 move data with EasyDMA, which reads RAM only.  So the drivers
test a slice with `slice_in_ram` (lib.rs) and, when the test fails, copy the
slice into a buffer on the stack first: `Tx::write` (serial.rs) in chunks of
`BUFSZ = 128` bytes, `Twim::write` and `Twim::write_then_read` (twim.rs) in one
piece into a `MAXCNT`-byte buffer, after asserting that the slices are shorter
than `MAXCNT`.

## What the model keeps

Memory is a function from addresses to bytes, and a slice is its address and
its length.  The chip's RAM is `[RAM_START, ramEnd)`; `slice_in_ram` assumes
`RAM_END ≤ ramEnd`, 128 KiB of it (the nRF52840 has 256 KiB).  A transfer
(`dma`) sends the bytes of its slice as memory holds them when it starts, and
fails (`none`) when the slice leaves RAM.  The stack buffer lies at address
`buf`, in RAM; `Tx::write` reads its slice again for every chunk, so there the
buffer is also apart from the slice, as Rust guarantees of a shared borrow and
a local.

The `Write` futures' polls, wakers and interrupts are the subject of
`Nrf52.Serial` and `Nrf52.Twim`.  Here a `write_from_ram` is the transfer its
first poll starts, and a whole call is the bytes its awaited transfers send, in
order; `none` is also a panic (an `assert!`).

## What follows

Every transfer the writes start lies in RAM, and the bytes they send, in order,
are the bytes of the slice, from flash as from RAM
(`Tx.write_sends_all_bytes`, `Twim.write_sends_bytes_from_ram`).  The copy path
of `Tx::write` cuts the slice into chunks and never panics, but its RAM path
hands the whole slice to `write_from_ram`, whose `assert!` stops every slice of
1024 bytes or more: the same bytes are sent from flash and panic from RAM.
-/

namespace AsyncEmbedded.Nrf52

/-- `RAM_START` of `slice_in_ram`. -/
def RAM_START : Nat := 0x20000000

/-- `RAM_SIZE` of `slice_in_ram`. -/
def RAM_SIZE : Nat := 128 * 1024

/-- `RAM_END` of `slice_in_ram`. -/
def RAM_END : Nat := RAM_START + RAM_SIZE

/-- A byte slice: its address and its length. -/
structure Slice where
  ptr : Nat
  len : Nat
  deriving DecidableEq, Repr

/-- **`slice_in_ram`** (lib.rs lines 92-101). -/
def sliceInRam (slice : Slice) : Bool :=
  RAM_START ≤ slice.ptr && slice.ptr + slice.len < RAM_END

namespace Slice

/-- The bytes of a slice as memory holds them. -/
def load (mem : Nat → BitVec 8) (s : Slice) : List (BitVec 8) :=
  (List.range s.len).map fun i => mem (s.ptr + i)

/-- **`<[u8]>::chunks(n)`**: consecutive subslices of `n` bytes, the last one
shorter. -/
def chunks (n : Nat) (s : Slice) : List Slice :=
  if _h : 0 < n ∧ 0 < s.len then
    ⟨s.ptr, min n s.len⟩ :: chunks n ⟨s.ptr + min n s.len, s.len - min n s.len⟩
  else []
termination_by s.len
decreasing_by omega

/-- The slices `s` and `[a, a + n)` share no byte. -/
def Apart (s : Slice) (a n : Nat) : Prop := s.ptr + s.len ≤ a ∨ a + n ≤ s.ptr

end Slice

/-- **An EasyDMA transfer** of the slice `s` on a chip whose RAM ends at
`ramEnd`: the bytes it sends, or `none` when the slice leaves RAM. -/
def dma (ramEnd : Nat) (mem : Nat → BitVec 8) (s : Slice) : Option (List (BitVec 8)) :=
  if RAM_START ≤ s.ptr ∧ s.ptr + s.len ≤ ramEnd then some (s.load mem) else none

/-- `dst[..n].copy_from_slice(src)`: memory after the `n = src.len()` bytes of
`src` are copied to address `dst`. -/
def copy (mem : Nat → BitVec 8) (dst : Nat) (src : Slice) : Nat → BitVec 8 :=
  fun a => if dst ≤ a ∧ a < dst + src.len then mem (src.ptr + (a - dst)) else mem a

namespace Slice

@[simp] theorem length_load (mem : Nat → BitVec 8) (s : Slice) : (s.load mem).length = s.len := by
  simp [load]

/-- A slice's bytes are those of its first `k` bytes followed by the rest's. -/
theorem load_split (mem : Nat → BitVec 8) (s : Slice) {k : Nat} (hk : k ≤ s.len) :
    s.load mem = load mem ⟨s.ptr, k⟩ ++ load mem ⟨s.ptr + k, s.len - k⟩ := by
  obtain ⟨m, hm⟩ := Nat.exists_eq_add_of_le hk
  simp [load, hm, List.range_add, Nat.add_assoc]

/-- **The chunks tile the slice**: their bytes, in order, are the slice's. -/
theorem flatMap_load_chunks (mem : Nat → BitVec 8) {n : Nat} (hn : 0 < n) (s : Slice) :
    (s.chunks n).flatMap (load mem) = s.load mem := by
  induction s using chunks.induct n with
  | case1 s h ih =>
    rw [chunks, dif_pos h, List.flatMap_cons, ih, ← load_split mem s (Nat.min_le_right _ _)]
  | case2 s h =>
    have hlen : s.len = 0 := by omega
    rw [chunks, dif_neg h, List.flatMap_nil, load, hlen, List.range_zero, List.map_nil]

/-- Every chunk is a nonempty piece of at most `n` bytes of the slice. -/
theorem mem_chunks {n : Nat} {s c : Slice} (hc : c ∈ s.chunks n) :
    0 < c.len ∧ c.len ≤ n ∧ s.ptr ≤ c.ptr ∧ c.ptr + c.len ≤ s.ptr + s.len := by
  induction s using chunks.induct n with
  | case1 s h ih =>
    rw [chunks, dif_pos h, List.mem_cons] at hc
    rcases hc with rfl | hc
    · simp only
      omega
    · have := ih hc
      simp only at this
      omega
  | case2 s h =>
    rw [chunks, dif_neg h] at hc
    cases hc

end Slice

/-- The copy holds the source's bytes. -/
theorem load_copy (mem : Nat → BitVec 8) (dst : Nat) (src : Slice) :
    Slice.load (copy mem dst src) ⟨dst, src.len⟩ = src.load mem := by
  refine List.map_congr_left fun i hi => ?_
  rw [List.mem_range] at hi
  simp [copy, hi]

/-- A copy into `[dst, dst + m)` leaves every slice apart from that range as it
was. -/
theorem load_copy_of_apart (mem : Nat → BitVec 8) {dst m : Nat} {src s : Slice} (hm : src.len ≤ m)
    (h : s.Apart dst m) : s.load (copy mem dst src) = s.load mem := by
  refine List.map_congr_left fun i hi => ?_
  rw [List.mem_range] at hi
  unfold Slice.Apart at h
  rw [copy, if_neg (by omega)]

/-- `slice_in_ram` holds only of slices inside its RAM window. -/
theorem sliceInRam_sound {s : Slice} (h : sliceInRam s = true) :
    RAM_START ≤ s.ptr ∧ s.ptr + s.len < RAM_END := by
  simpa [sliceInRam] using h

/-! ## `Tx::write` -/

/-- `BUFSZ`, the size of the stack buffer of `Tx::write`. -/
def BUFSZ : Nat := 128

namespace Tx

/-- **`Tx::write_from_ram`** (serial.rs lines 244-357) on the data: the
`assert!(bytes.len() < (1 << 10))`, then the transfer the `Write` future's
first poll starts; an empty slice finishes without one. -/
def writeFromRam (ramEnd : Nat) (mem : Nat → BitVec 8) (bytes : Slice) : Option (List (BitVec 8)) :=
  if bytes.len < 1 <<< 10 then
    if bytes.len = 0 then some [] else dma ramEnd mem bytes
  else none

/-- The loop of **`Tx::write`** over `bytes.chunks(BUFSZ)`: each chunk is copied
into the stack buffer at `buf` and sent from there. -/
def writeChunks (ramEnd buf : Nat) (mem : Nat → BitVec 8) : List Slice → Option (List (BitVec 8))
  | [] => some []
  | chunk :: chunks =>
    let mem := copy mem buf chunk
    (writeFromRam ramEnd mem ⟨buf, chunk.len⟩).bind fun sent =>
      (writeChunks ramEnd buf mem chunks).map (sent ++ ·)

/-- **`Tx::write`** (serial.rs lines 229-241): the bytes sent, in order. -/
def write (ramEnd buf : Nat) (mem : Nat → BitVec 8) (bytes : Slice) : Option (List (BitVec 8)) :=
  if sliceInRam bytes then writeFromRam ramEnd mem bytes
  else writeChunks ramEnd buf mem (bytes.chunks BUFSZ)

/-- A slice in RAM shorter than 1024 bytes is sent as memory holds it. -/
theorem writeFromRam_of_lt {ramEnd : Nat} (mem : Nat → BitVec 8) {s : Slice}
    (hs : RAM_START ≤ s.ptr ∧ s.ptr + s.len ≤ ramEnd) (hlt : s.len < 1024) :
    writeFromRam ramEnd mem s = some (s.load mem) := by
  rw [writeFromRam, if_pos (show s.len < 1 <<< 10 from hlt)]
  split
  · next h0 => simp [Slice.load, h0]
  · exact if_pos hs

section
variable {ramEnd buf : Nat} (hbuf : RAM_START ≤ buf ∧ buf + BUFSZ ≤ ramEnd)
include hbuf

/-- **Each chunk goes out through the stack buffer unchanged**: copies into the
buffer never touch the chunks still to come. -/
theorem writeChunks_eq :
    ∀ (cs : List Slice) (mem : Nat → BitVec 8), (∀ c ∈ cs, c.len ≤ BUFSZ ∧ c.Apart buf BUFSZ) →
      writeChunks ramEnd buf mem cs = some (cs.flatMap (Slice.load mem))
  | [], _, _ => rfl
  | c :: cs, mem, hcs => by
    have hle := (hcs c (List.mem_cons_self _ _)).1
    have hrest : ∀ c' ∈ cs, c'.len ≤ BUFSZ ∧ c'.Apart buf BUFSZ :=
      fun c' hc' => hcs c' (List.mem_cons_of_mem _ hc')
    have hsent : writeFromRam ramEnd (copy mem buf c) ⟨buf, c.len⟩ = some (c.load mem) := by
      have hc : c.len < 1024 := by unfold BUFSZ at hle; omega
      rw [@writeFromRam_of_lt ramEnd _ ⟨buf, c.len⟩ (by unfold BUFSZ at *; simp only; omega) hc,
        load_copy]
    rw [writeChunks, hsent, Option.some_bind, writeChunks_eq cs _ hrest, Option.map_some',
      List.flatMap_cons, List.flatMap_congr fun c' hc' => load_copy_of_apart mem hle (hrest c' hc').2]

/-- **`Tx::write` sends exactly its slice, from RAM only**, unless the slice is
in `slice_in_ram`'s window and 1024 bytes or longer: there the `assert!` of
`write_from_ram` panics, where the same bytes outside the window go out in
chunks. -/
theorem write_sends_all_bytes (hram : RAM_END ≤ ramEnd) (mem : Nat → BitVec 8) {bytes : Slice}
    (hapart : bytes.Apart buf BUFSZ) :
    write ramEnd buf mem bytes =
      if sliceInRam bytes ∧ 1024 ≤ bytes.len then none else some (bytes.load mem) := by
  unfold write
  by_cases hin : sliceInRam bytes
  · have hs := sliceInRam_sound hin
    by_cases hlen : 1024 ≤ bytes.len
    · rw [if_pos hin, if_pos ⟨hin, hlen⟩, writeFromRam,
        if_neg (Nat.not_lt.mpr ((by decide : 1 <<< 10 ≤ 1024).trans hlen))]
    · rw [if_pos hin, if_neg (fun h => hlen h.2), writeFromRam_of_lt mem (by omega) (by omega)]
  · -- the copy path: every chunk lies inside the slice, so apart from the buffer
    have hchunks : ∀ c ∈ bytes.chunks BUFSZ, c.len ≤ BUFSZ ∧ c.Apart buf BUFSZ := fun c hc => by
      have := Slice.mem_chunks hc
      unfold Slice.Apart at *
      omega
    rw [if_neg hin, if_neg (fun h => hin h.1), writeChunks_eq hbuf _ mem hchunks,
      Slice.flatMap_load_chunks mem (by decide) bytes]

end

/-- 300 bytes of flash, sent through a stack buffer at the top of the
nRF52840's 256 KiB of RAM. -/
theorem write_sends_all_bytes_from_flash :
    (RAM_START ≤ 0x2003FF80 ∧ 0x2003FF80 + BUFSZ ≤ 0x20040000) ∧ RAM_END ≤ 0x20040000 ∧
      Slice.Apart ⟨0x1000, 300⟩ 0x2003FF80 BUFSZ ∧
      write 0x20040000 0x2003FF80 (fun _ => 0) ⟨0x1000, 300⟩ =
        if sliceInRam ⟨0x1000, 300⟩ ∧ 1024 ≤ 300 then none else some (Slice.load (fun _ => 0) ⟨0x1000, 300⟩) :=
  ⟨⟨by decide, by decide⟩, by decide, Or.inl (by decide),
    write_sends_all_bytes ⟨by decide, by decide⟩ (by decide) _ (Or.inl (by decide))⟩

end Tx

/-! ## `Twim::write` and `Twim::write_then_read` -/

namespace Twim

/-- The slice handed to EasyDMA and the memory then, shared by `write` and
`write_then_read`: the slice itself when `slice_in_ram` holds, and otherwise
its copy in the `[0; MAXCNT]` stack buffer at `buf`. -/
def toRam (buf : Nat) (mem : Nat → BitVec 8) (s : Slice) : (Nat → BitVec 8) × Slice :=
  if sliceInRam s then (mem, s) else (copy mem buf s, ⟨buf, s.len⟩)

/-- **`Twim::write`** (twim.rs lines 463-475) on the data: the
`assert!(bytes.len() < MAXCNT)`, then the TXD transfer the `Write` future's
first poll starts, whatever the length. -/
def write (ramEnd buf : Nat) (mem : Nat → BitVec 8) (bytes : Slice) : Option (List (BitVec 8)) :=
  if bytes.len < MAXCNT then
    let (mem, bytes) := toRam buf mem bytes
    dma ramEnd mem bytes
  else none

/-- **`Twim::write_then_read`** (twim.rs lines 265-283) on the data written: the
assert on both buffers, then the TXD transfer the `WriteThenRead` future's
first poll starts. -/
def writeThenRead (ramEnd buf : Nat) (mem : Nat → BitVec 8) (wrBuf rdBuf : Slice) :
    Option (List (BitVec 8)) :=
  if wrBuf.len < MAXCNT ∧ rdBuf.len < MAXCNT then
    let (mem, wrBuf) := toRam buf mem wrBuf
    dma ramEnd mem wrBuf
  else none

section
variable {ramEnd buf : Nat} (hram : RAM_END ≤ ramEnd) (hbuf : RAM_START ≤ buf ∧ buf + MAXCNT ≤ ramEnd)
include hram hbuf

/-- **The slice handed to EasyDMA is in RAM and holds the bytes given**, for
every slice shorter than `MAXCNT`. -/
theorem dma_toRam (mem : Nat → BitVec 8) {s : Slice} (hlt : s.len < MAXCNT) :
    dma ramEnd (toRam buf mem s).1 (toRam buf mem s).2 = some (s.load mem) := by
  unfold toRam
  split
  · next hin =>
    have := sliceInRam_sound hin
    exact if_pos ⟨this.1, by simp only; omega⟩
  · rw [dma, if_pos ⟨hbuf.1, by simp only; omega⟩, load_copy]

/-- **`Twim::write` and `Twim::write_then_read` send exactly the slice
written, from RAM only**, and panic exactly when a buffer has `MAXCNT` bytes or
more. -/
theorem write_sends_bytes_from_ram (mem : Nat → BitVec 8) (bytes rdBuf : Slice) :
    write ramEnd buf mem bytes = (if bytes.len < MAXCNT then some (bytes.load mem) else none) ∧
      writeThenRead ramEnd buf mem bytes rdBuf =
        if bytes.len < MAXCNT ∧ rdBuf.len < MAXCNT then some (bytes.load mem) else none := by
  constructor
  · unfold write
    split
    · next hlt => exact dma_toRam hram hbuf mem hlt
    · rfl
  · unfold writeThenRead
    split
    · next hlt => exact dma_toRam hram hbuf mem hlt.1
    · rfl

end

end Twim

end AsyncEmbedded.Nrf52
