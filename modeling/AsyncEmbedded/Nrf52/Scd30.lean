import Mathlib.Data.Nat.Bitwise
import AsyncEmbedded.Nrf52.Twim

/-!
# The SCD30 gas sensor driver of `nrf52`

`Scd30::get_measurement` asks the sensor whether a measurement is ready
(`data_ready`: the command `0x0202`, then a 3-byte answer) until it is, then
sends `0x0300` and reads an 18-byte frame.  The SCD30 sends every 16-bit word
big-endian and follows it with a CRC-8 byte; a frame is six words: the CO2
concentration, the temperature and the relative humidity, each an `f32` split
over two words.  The driver checks every word with `crc_check` and rebuilds
each `f32` with `f32::from_le_bytes` from the four data bytes of its two words,
in reverse.

## What the model keeps

An answer is its bytes, by index.  The `f32` values are their bit patterns
(`BitVec 32`): the driver only moves bytes into them.  The bus transfers
succeed (their errors are the subject of `Nrf52.Twim`, and the driver passes
them up with `?`), and the command bytes the driver writes are left out: the
answers are what the sensor returns to them.

`crc_check` is a stub marked `TODO` that accepts every word, so
`Error::Checksum` is never returned: whatever CRC bytes the sensor sends,
`get_measurement` returns the three values of the frame read after the first
answer that says ready (`getMeasurement_of_ready`).
-/

namespace AsyncEmbedded.Nrf52.Scd30

/-- `scd30::Error`. -/
inductive Error
  | checksum
  | twim (e : Nrf52.Error)
  deriving DecidableEq

/-- **`Measurement`**, each `f32` as its bit pattern. -/
structure Measurement where
  co2 : BitVec 32
  rh : BitVec 32
  t : BitVec 32
  deriving DecidableEq

/-- **`crc_check`** (lines 96-99), a stub. -/
def crcCheck (_bytes : List (BitVec 8)) (_crc : BitVec 8) : Bool := true

/-- `f32::from_le_bytes`, as the bit pattern: the first byte is the least
significant. -/
def fromLeBytes (b0 b1 b2 b3 : BitVec 8) : BitVec 32 := b3 ++ b2 ++ b1 ++ b0

/-- The checks and the decoding of **`get_measurement`** (lines 66-76) on the
18 bytes read: `buf.chunks(3)` is the six words with their CRC bytes. -/
def decode (buf : Nat → BitVec 8) : Except Error Measurement :=
  if (List.range 6).all fun k => crcCheck [buf (3 * k), buf (3 * k + 1)] (buf (3 * k + 2)) then
    let co2 := fromLeBytes (buf 4) (buf 3) (buf 1) (buf 0)
    let t := fromLeBytes (buf 10) (buf 9) (buf 7) (buf 6)
    let rh := fromLeBytes (buf 16) (buf 15) (buf 13) (buf 12)
    .ok ⟨co2, rh, t⟩
  else .error .checksum

/-- The check and the answer of **`data_ready`** (lines 79-93) on the 3 bytes
read. -/
def dataReady (buf : Nat → BitVec 8) : Except Error Bool :=
  if !crcCheck [buf 0, buf 1] (buf 2) then .error .checksum else .ok (buf 1 == 1)

/-- **`get_measurement`** (lines 53-77) on the sensor's answers: the data-ready
answers in order and the frame read after the first that says ready; `none`
when the answers run out first (the loop is still asking). -/
def getMeasurement (frame : Nat → BitVec 8) : List (Nat → BitVec 8) → Option (Except Error Measurement)
  | [] => none
  | status :: rest =>
    match dataReady status with
    | .error e => some (.error e)
    | .ok false => getMeasurement frame rest
    | .ok true => some (decode frame)

/-! ## The frame the sensor sends -/

/-- **An SCD30 frame** of the values `co2`, `t` and `rh` (the interface
description's order): each value as two big-endian 16-bit words, every word
followed by a CRC byte, here any `crc k` for word `k`. -/
def sensorFrame (co2 t rh : BitVec 32) (crc : Nat → BitVec 8) (i : Nat) : BitVec 8 :=
  let v := match i / 6 with
    | 0 => co2
    | 1 => t
    | _ => rh
  match i % 6 with
  | 0 => v.extractLsb' 24 8
  | 1 => v.extractLsb' 16 8
  | 3 => v.extractLsb' 8 8
  | 4 => v.extractLsb' 0 8
  | _ => crc (i / 3)

theorem toNat_append_byte {n : Nat} (x : BitVec n) (y : BitVec 8) :
    (x ++ y).toNat = x.toNat * 256 + y.toNat := by
  rw [BitVec.toNat_append, Nat.shiftLeft_eq, Nat.mul_comm, Nat.mul_add_lt_is_or y.isLt]

/-- `from_le_bytes` of a value's bytes, least significant first, is the
value. -/
theorem fromLeBytes_extract (v : BitVec 32) :
    fromLeBytes (v.extractLsb' 0 8) (v.extractLsb' 8 8) (v.extractLsb' 16 8) (v.extractLsb' 24 8) = v := by
  have := v.isLt
  apply BitVec.eq_of_toNat_eq
  simp only [fromLeBytes, toNat_append_byte, BitVec.extractLsb'_toNat, Nat.shiftRight_eq_div_pow]
  omega

/-- **The driver decodes every frame to the values sent**, whatever its CRC
bytes: the indices `[4, 3, 1, 0]`, `[10, 9, 7, 6]` and `[16, 15, 13, 12]` pick
each value's data bytes, least significant first. -/
theorem decode_sensorFrame (co2 t rh : BitVec 32) (crc : Nat → BitVec 8) :
    decode (sensorFrame co2 t rh crc) = .ok ⟨co2, rh, t⟩ := by
  simp only [decode, crcCheck, List.all_eq_true, implies_true, if_true, sensorFrame,
    fromLeBytes_extract]

/-- **`get_measurement` returns the frame read after the first answer that
says ready**, whatever the CRC bytes of the answers and of the frame: answers
whose second byte is not 1 are skipped, and none is rejected. -/
theorem getMeasurement_of_ready (co2 t rh : BitVec 32) (crc : Nat → BitVec 8)
    {waiting : List (Nat → BitVec 8)} (hwait : ∀ s ∈ waiting, s 1 ≠ 1) {ready : Nat → BitVec 8}
    (hready : ready 1 = 1) (rest : List (Nat → BitVec 8)) :
    getMeasurement (sensorFrame co2 t rh crc) (waiting ++ ready :: rest) = some (.ok ⟨co2, rh, t⟩) := by
  induction waiting with
  | nil => simp [getMeasurement, dataReady, crcCheck, hready, decode_sensorFrame]
  | cons s waiting ih =>
    have hs : dataReady s = .ok false := by
      simpa [dataReady, crcCheck] using hwait s (List.mem_cons_self _ _)
    rw [List.cons_append, getMeasurement, hs]
    exact ih fun s' hs' => hwait s' (List.mem_cons_of_mem _ hs')

end AsyncEmbedded.Nrf52.Scd30
