import ImuGamepad.Library.BitField
import ImuGamepad.Library.Bytes
import Mathlib.Logic.Function.Basic

/-!
# Registers behind an I2C bus

`Adafruit_BusIO_Register` and `Adafruit_BusIO_RegisterBits` for one-byte registers. The bus is the
register file of every chip on it. A driver reaches a chip through its `i2c_dev`, which is null
until the driver's first `begin_I2C`: a write through a null device does nothing, and a read
through it returns all ones.

## Main definitions

* `Bus` — the registers of every chip
* `Bus.readBits`, `Bus.writeBits` — `RegisterBits::read` and `RegisterBits::write`
* `Bus.reset` — a chip returns to its power-on registers
* `Probe` — what a driver finds when it looks for its chip

## Main results

* `Bus.readBits_writeBits_eq_iff`, `readBits_writeBits_of_disjoint`, `readBits_writeBits_of_ne_reg`
-/

namespace ImuGamepad

/-- A 7-bit I2C address. -/
abbrev I2CAddr := BitVec 8

/-- A register address. -/
abbrev RegAddr := BitVec 8

/-- The registers of every chip on the bus. -/
abbrev Bus := I2CAddr → RegAddr → Byte

/-- What a `begin_I2C` finds at its address: whether a chip acknowledges, and its identity. -/
structure Probe where
  detected : Bool
  chipId : Byte
  deriving DecidableEq

namespace Bus

/-- `RegisterBits(reg, bits, shift).read()`. A read through a null device gives `0xFFFFFFFF`. -/
def readBits (bus : Bus) (dev : Option I2CAddr) (reg : RegAddr) (bits shift : ℕ) : Byte :=
  match dev with
  | some a => BitField.read bits shift (bus a reg)
  | none => BitField.mask bits

/-- `RegisterBits(reg, bits, shift).write(data)`: read, replace the field, write back. -/
def writeBits (bus : Bus) (dev : Option I2CAddr) (reg : RegAddr) (bits shift : ℕ) (data : Byte) :
    Bus :=
  match dev with
  | some a =>
    Function.update bus a
      (Function.update (bus a) reg (BitField.write bits shift data (bus a reg)))
  | none => bus

/-- `Register(reg).write(data)`: a whole register. -/
def writeReg (bus : Bus) (dev : Option I2CAddr) (reg : RegAddr) (data : Byte) : Bus :=
  match dev with
  | some a => Function.update bus a (Function.update (bus a) reg data)
  | none => bus

/-- The chip at `a` returns to its power-on registers. -/
def reset (bus : Bus) (a : I2CAddr) (powerOn : RegAddr → Byte) : Bus :=
  Function.update bus a powerOn

/-! ### Reading after writing -/

section

variable (bus : Bus) {a b : I2CAddr} {reg reg' : RegAddr} {bits shift bits' shift' : ℕ}

@[simp] theorem readBits_none : readBits bus none reg bits shift = BitField.mask bits := rfl

@[simp] theorem writeBits_none (data : Byte) : writeBits bus none reg bits shift data = bus := rfl

theorem readBits_writeBits_eq_iff (h : shift + bits ≤ 8) {data : Byte} :
    readBits (writeBits bus (some a) reg bits shift data) (some a) reg bits shift = data ↔
      data.toNat < 2 ^ bits := by
  simp only [readBits, writeBits, Function.update_self]
  exact BitField.read_write_eq_iff h _

theorem readBits_writeBits_self (h : shift + bits ≤ 8) {data : Byte} (hd : data.toNat < 2 ^ bits) :
    readBits (writeBits bus (some a) reg bits shift data) (some a) reg bits shift = data :=
  (readBits_writeBits_eq_iff bus h).mpr hd

theorem readBits_writeBits_of_disjoint (h : shift + bits ≤ shift' ∨ shift' + bits' ≤ shift)
    (data : Byte) :
    readBits (writeBits bus (some b) reg' bits' shift' data) (some a) reg bits shift
      = readBits bus (some a) reg bits shift := by
  simp only [readBits, writeBits]
  by_cases ha : a = b
  · subst ha
    by_cases hr : reg = reg'
    · subst hr
      rw [Function.update_self, Function.update_self, BitField.read_write_of_disjoint h]
    · rw [Function.update_self, Function.update_of_ne hr]
  · rw [Function.update_of_ne ha]

theorem readBits_writeBits_of_ne_reg (h : reg ≠ reg') (data : Byte) :
    readBits (writeBits bus (some b) reg' bits' shift' data) (some a) reg bits shift
      = readBits bus (some a) reg bits shift := by
  simp only [readBits, writeBits]
  by_cases ha : a = b
  · subst ha
    rw [Function.update_self, Function.update_of_ne h]
  · rw [Function.update_of_ne ha]

theorem readBits_writeReg_of_ne_reg (h : reg ≠ reg') (data : Byte) :
    readBits (writeReg bus (some b) reg' data) (some a) reg bits shift
      = readBits bus (some a) reg bits shift := by
  simp only [readBits, writeReg]
  by_cases ha : a = b
  · subst ha
    rw [Function.update_self, Function.update_of_ne h]
  · rw [Function.update_of_ne ha]

end

end Bus

end ImuGamepad
