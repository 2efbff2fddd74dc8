import ImuGamepad.BusIO
import ImuGamepad.SensorsEvent
import Mathlib.Tactic.NormNum

/-!
# The magnetometer driver

`Adafruit_LIS3MDL`, as far as the firmware uses it, in the shape of `LSM6DS3TRC`: an object and
the bus go in, both come out. `begin_I2C` installs the driver's own defaults, 155 Hz and 4 gauss.

## Main definitions

* `LIS3MDL` — the driver object
* `LIS3MDL.beginI2C` — bind, probe, reset, install the driver's defaults
* `LIS3MDL.configure` — the setter calls the firmware makes, in its order
* `LIS3MDL.settings`, `LIS3MDL.settingsAt` — what the chip behind the driver, or at an address,
  runs with

## Main results

* `LIS3MDL.settings_configure` — a bound driver's chip runs with what was last configured
* `LIS3MDL.settingsAt_beginI2C` — a successful `begin_I2C` installs the driver's own defaults
* `LIS3MDL.settings_of_unbound` — a driver that was never begun reports all ones
-/

namespace ImuGamepad

/-- An `Adafruit_LIS3MDL` object. -/
structure LIS3MDL where
  /-- The device it is bound to; null until `begin_I2C`. -/
  i2cDev : Option I2CAddr
  rangeBuffered : Byte
  deriving DecidableEq

namespace LIS3MDL

def chipID : Byte := 0x3D
def ctrlReg1 : RegAddr := 0x20
def ctrlReg2 : RegAddr := 0x21
def ctrlReg3 : RegAddr := 0x22
def ctrlReg4 : RegAddr := 0x23

def range4Gauss : Byte := 0b00
def range8Gauss : Byte := 0b01
def range12Gauss : Byte := 0b10
def range16Gauss : Byte := 0b11

def dataRate155Hz : Byte := 0b0001
def dataRate300Hz : Byte := 0b0011
def dataRate560Hz : Byte := 0b0101
def dataRate1000Hz : Byte := 0b0111

def lowPowerMode : Byte := 0b00
def mediumMode : Byte := 0b01
def highMode : Byte := 0b10
def ultraHighMode : Byte := 0b11

def continuousMode : Byte := 0b00

/-- The enumerators of `lis3mdl_dataRate_t`: the eight slow rates, and the four fast ones. -/
def dataRates : List Byte :=
  [0b0000, 0b0010, 0b0100, 0b0110, 0b1000, 0b1010, 0b1100, 0b1110,
    dataRate155Hz, dataRate300Hz, dataRate560Hz, dataRate1000Hz]

/-- The enumerators of `lis3mdl_range_t`. -/
def ranges : List Byte := [range4Gauss, range8Gauss, range12Gauss, range16Gauss]

/-! The enumerators fit into their register fields. -/

theorem dataRates_lt : ∀ r ∈ dataRates, r.toNat < 16 := by
  simp [dataRates, dataRate155Hz, dataRate300Hz, dataRate560Hz, dataRate1000Hz]

theorem ranges_lt : ∀ r ∈ ranges, r.toNat < 4 := by
  simp [ranges, range4Gauss, range8Gauss, range12Gauss, range16Gauss]

/-- A freshly constructed object. -/
def new : LIS3MDL := ⟨none, range4Gauss⟩

def setPerformanceMode (mode : Byte) (d : LIS3MDL) (bus : Bus) : LIS3MDL × Bus :=
  (d, (bus.writeBits d.i2cDev ctrlReg1 2 5 mode).writeBits d.i2cDev ctrlReg4 2 2 mode)

/-- The performance mode a fast data rate needs. -/
def performanceModeOf (dataRate : Byte) : Option Byte :=
  if dataRate = dataRate155Hz then some ultraHighMode
  else if dataRate = dataRate300Hz then some highMode
  else if dataRate = dataRate560Hz then some mediumMode
  else if dataRate = dataRate1000Hz then some lowPowerMode
  else none

def setDataRate (dataRate : Byte) (d : LIS3MDL) (bus : Bus) : LIS3MDL × Bus :=
  let (d, bus) :=
    match performanceModeOf dataRate with
    | some mode => d.setPerformanceMode mode bus
    | none => (d, bus)
  (d, bus.writeBits d.i2cDev ctrlReg1 4 1 dataRate)

def setRange (range : Byte) (d : LIS3MDL) (bus : Bus) : LIS3MDL × Bus :=
  ({ d with rangeBuffered := range }, bus.writeBits d.i2cDev ctrlReg2 2 5 range)

def setOperationMode (mode : Byte) (d : LIS3MDL) (bus : Bus) : LIS3MDL × Bus :=
  (d, bus.writeBits d.i2cDev ctrlReg3 2 0 mode)

def getDataRate (d : LIS3MDL) (bus : Bus) : Byte := bus.readBits d.i2cDev ctrlReg1 4 1

/-- `getRange()`: reading the range also buffers it. -/
def getRange (d : LIS3MDL) (bus : Bus) : Byte × LIS3MDL :=
  let range := bus.readBits d.i2cDev ctrlReg2 2 5
  (range, { d with rangeBuffered := range })

/-- `reset()`: back to the power-on registers, and buffer the range they hold. -/
def reset (powerOn : RegAddr → Byte) (d : LIS3MDL) (bus : Bus) : LIS3MDL × Bus :=
  let bus :=
    match d.i2cDev with
    | some a => bus.reset a powerOn
    | none => bus
  ((d.getRange bus).2, bus)

/-- `_init`: check the chip, reset it, install the defaults. -/
def init (powerOn : RegAddr → Byte) (chipId : Byte) (d : LIS3MDL) (bus : Bus) :
    Bool × LIS3MDL × Bus :=
  if chipId ≠ chipID then (false, d, bus)
  else
    let (d, bus) := d.reset powerOn bus
    let (d, bus) := d.setPerformanceMode ultraHighMode bus
    let (d, bus) := d.setDataRate dataRate155Hz bus
    let (d, bus) := d.setRange range4Gauss bus
    (true, d.setOperationMode continuousMode bus)

/-- `begin_I2C(addr)`: bind to the address, look for a chip, initialise it. -/
def beginI2C (powerOn : RegAddr → Byte) (probe : Probe) (addr : I2CAddr) (d : LIS3MDL)
    (bus : Bus) : Bool × LIS3MDL × Bus :=
  let d := { d with i2cDev := some addr }
  if probe.detected then d.init powerOn probe.chipId bus else (false, d, bus)

/-- `read()`: a 6-byte transfer in gauss, scaled by the buffered range. -/
def read (buffer : Bytes 6) (d : LIS3MDL) : Vec3 :=
  let scale : ℚ :=
    if d.rangeBuffered = range16Gauss then 1711
    else if d.rangeBuffered = range12Gauss then 2281
    else if d.rangeBuffered = range8Gauss then 3421
    else if d.rangeBuffered = range4Gauss then 6842
    else 1
  let gauss (a : ℕ) : ℚ := (buffer.getInt16 a).toInt / scale
  ⟨gauss 0, gauss 2, gauss 4⟩

/-- `getEvent(event)`: read a sample in gauss and fill the event in µT. -/
def getEvent (nw : NullWrite) (transfer : LIS3MDL → Vec3) (event : EventPtr) (d : LIS3MDL) :
    Except Fault SensorsEvent :=
  let gauss := transfer d
  fillEvent nw event ⟨.magneticField, gauss.x * 100, gauss.y * 100, gauss.z * 100⟩

/-! ### What the chip runs with -/

/-- The two setter calls the firmware makes on a driver, in its order. -/
def configure (dataRate range : Byte) (d : LIS3MDL) (bus : Bus) : LIS3MDL × Bus :=
  let (d, bus) := d.setDataRate dataRate bus
  d.setRange range bus

/-- Data rate and range, as the getters report them. -/
structure Settings where
  dataRate : Byte
  range : Byte
  deriving DecidableEq

/-- What the chip behind the driver runs with. -/
def settings (d : LIS3MDL) (bus : Bus) : Settings := ⟨d.getDataRate bus, (d.getRange bus).1⟩

/-- What the chip at an address runs with. -/
def settingsAt (a : I2CAddr) (bus : Bus) : Settings := settings { new with i2cDev := some a } bus

/-- A bound driver reports what its chip runs with. -/
theorem settings_eq_settingsAt {d : LIS3MDL} {a : I2CAddr} (hd : d.i2cDev = some a) (bus : Bus) :
    d.settings bus = settingsAt a bus := by
  simp [settings, settingsAt, getDataRate, getRange, hd]

theorem settingsAt_congr {a : I2CAddr} {bus bus' : Bus} (h : bus a = bus' a) :
    settingsAt a bus = settingsAt a bus' := by
  simp [settings, settingsAt, getDataRate, getRange, Bus.readBits, h]

/-- A driver that was never begun reports all ones. -/
theorem settings_of_unbound {d : LIS3MDL} (hd : d.i2cDev = none) (bus : Bus) :
    d.settings bus = ⟨0b1111, 0b11⟩ := by
  simp only [settings, getDataRate, getRange, hd, Bus.readBits_none]
  rfl

@[simp] theorem setDataRate_fst (dataRate : Byte) (d : LIS3MDL) (bus : Bus) :
    (d.setDataRate dataRate bus).1 = d := by
  rw [setDataRate]
  cases performanceModeOf dataRate <;> rfl

@[simp] theorem configure_i2cDev (dataRate range : Byte) (d : LIS3MDL) (bus : Bus) :
    (d.configure dataRate range bus).1.i2cDev = d.i2cDev := by
  simp [configure, setRange]

/-- **A bound driver's chip runs with what was last configured.** -/
theorem settings_configure {d : LIS3MDL} {a : I2CAddr} (hd : d.i2cDev = some a) (bus : Bus)
    {dataRate range : Byte} (hrate : dataRate.toNat < 16) (hrange : range.toNat < 4) :
    (d.configure dataRate range bus).1.settings (d.configure dataRate range bus).2
      = ⟨dataRate, range⟩ := by
  have hne : ctrlReg1 ≠ ctrlReg2 := by decide
  have hdata (bus : Bus) : ((d.setDataRate dataRate bus).2.readBits (some a) ctrlReg1 4 1)
      = dataRate := by
    simp only [setDataRate]
    cases performanceModeOf dataRate <;>
    · simp only [setPerformanceMode, hd]
      exact Bus.readBits_writeBits_self _ (by omega) hrate
  simp only [settings, configure, setRange, getDataRate, getRange, setDataRate_fst, hd,
    Settings.mk.injEq]
  exact ⟨by rw [Bus.readBits_writeBits_of_ne_reg _ hne, hdata],
    Bus.readBits_writeBits_self _ (by omega) hrange⟩

/-- The chip a driver is bound to runs with what was last configured. -/
theorem settingsAt_configure {d : LIS3MDL} {a : I2CAddr} (hd : d.i2cDev = some a) (bus : Bus)
    {dataRate range : Byte} (hrate : dataRate.toNat < 16) (hrange : range.toNat < 4) :
    settingsAt a (d.configure dataRate range bus).2 = ⟨dataRate, range⟩ := by
  rw [← settings_configure hd bus hrate hrange, settings_eq_settingsAt]
  rw [configure_i2cDev, hd]

theorem configure_bus_of_ne {d : LIS3MDL} {a b : I2CAddr} (hd : d.i2cDev = some b) (h : a ≠ b)
    (dataRate range : Byte) (bus : Bus) : (d.configure dataRate range bus).2 a = bus a := by
  simp only [configure, setRange, setDataRate]
  cases performanceModeOf dataRate <;>
    simp [setPerformanceMode, hd, Bus.writeBits, Function.update_of_ne h]

/-- The setters of a driver that was never begun reach no chip. -/
theorem configure_bus_of_unbound {d : LIS3MDL} (hd : d.i2cDev = none) (dataRate range : Byte)
    (bus : Bus) : (d.configure dataRate range bus).2 = bus := by
  simp only [configure, setRange, setDataRate]
  cases performanceModeOf dataRate <;> simp [setPerformanceMode, hd]

/-! ### What `begin_I2C` does -/

/-- The probe finds the right chip. -/
def found (p : Probe) : Bool := p.detected && p.chipId == chipID

/-- `begin_I2C` reports whether the probe found the chip. -/
theorem beginI2C_fst (powerOn : RegAddr → Byte) (probe : Probe) (addr : I2CAddr) (d : LIS3MDL)
    (bus : Bus) : (d.beginI2C powerOn probe addr bus).1 = found probe := by
  rw [beginI2C, init, found]
  cases probe.detected <;> by_cases h : probe.chipId = chipID <;> simp [h]

@[simp] theorem beginI2C_i2cDev (powerOn : RegAddr → Byte) (probe : Probe) (addr : I2CAddr)
    (d : LIS3MDL) (bus : Bus) :
    (d.beginI2C powerOn probe addr bus).2.1.i2cDev = some addr := by
  rw [beginI2C, init]
  cases probe.detected <;> by_cases h : probe.chipId = chipID <;>
    simp [h, reset, getRange, setPerformanceMode, setRange, setOperationMode]

theorem beginI2C_bus_of_ne (powerOn : RegAddr → Byte) (probe : Probe) {addr a : I2CAddr}
    (h : a ≠ addr) (d : LIS3MDL) (bus : Bus) :
    (d.beginI2C powerOn probe addr bus).2.2 a = bus a := by
  rw [beginI2C, init]
  cases probe.detected <;> by_cases hid : probe.chipId = chipID <;>
    simp [hid, reset, getRange, Bus.reset, setPerformanceMode, setDataRate, performanceModeOf,
      setRange, setOperationMode, Bus.writeBits, Function.update_of_ne h]

/-- A successful `begin_I2C` leaves the chip with the driver's own defaults. -/
theorem settingsAt_beginI2C (powerOn : RegAddr → Byte) {probe : Probe} (h : found probe = true)
    (addr : I2CAddr) (d : LIS3MDL) (bus : Bus) :
    settingsAt addr (d.beginI2C powerOn probe addr bus).2.2 = ⟨dataRate155Hz, range4Gauss⟩ := by
  obtain ⟨hdetected, hid⟩ : probe.detected = true ∧ probe.chipId = chipID := by
    simpa [found] using h
  -- after the reset and the performance mode come the setter calls of `configure`
  obtain ⟨d', bus', hdev, hbegin⟩ : ∃ (d' : LIS3MDL) (bus' : Bus), d'.i2cDev = some addr ∧
      d.beginI2C powerOn probe addr bus
        = (true, (d'.configure dataRate155Hz range4Gauss bus').1.setOperationMode continuousMode
            (d'.configure dataRate155Hz range4Gauss bus').2) := by
    simp only [beginI2C, init, hdetected, hid, if_true, ne_eq, not_true_eq_false, if_false]
    exact ⟨_, _, by simp [reset, getRange, setPerformanceMode], rfl⟩
  have hne₁ : ctrlReg1 ≠ ctrlReg3 := by decide
  have hne₂ : ctrlReg2 ≠ ctrlReg3 := by decide
  have hset : settingsAt addr (d'.configure dataRate155Hz range4Gauss bus').2
      = ⟨dataRate155Hz, range4Gauss⟩ := settingsAt_configure hdev bus' (by decide) (by decide)
  rw [hbegin, ← hset]
  simp only [setOperationMode, configure_i2cDev, hdev, settingsAt, settings, getDataRate, getRange,
    Bus.readBits_writeBits_of_ne_reg _ hne₁, Bus.readBits_writeBits_of_ne_reg _ hne₂]

/-! ### Events -/

@[simp] theorem getEvent_addr (nw : NullWrite) (transfer : LIS3MDL → Vec3) (d : LIS3MDL) :
    d.getEvent nw transfer .addr
      = .ok ⟨.magneticField, (transfer d).x * 100, (transfer d).y * 100, (transfer d).z * 100⟩ := by
  simp [getEvent]

end LIS3MDL

end ImuGamepad
