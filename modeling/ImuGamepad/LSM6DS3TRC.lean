import ImuGamepad.BusIO
import ImuGamepad.SensorsEvent
import Mathlib.Tactic.NormNum

/-!
# The accelerometer and gyroscope driver

`Adafruit_LSM6DS3TRC`, as far as the firmware uses it. A driver object holds the device it is bound
to and the ranges it has buffered for scaling; everything else it sets is in the chip's registers,
on the bus. A method takes the object and the bus and returns both. What the hardware answers to a
`begin_I2C` is a `Probe`, and what a chip's registers hold after a reset is an argument.

`getEvent` takes its sample from a transfer of the data registers, which is an argument too: any
function of the driver object. The driver's own transfer is `read`.

## Main definitions

* `LSM6DS3TRC` — the driver object
* `LSM6DS3TRC.beginI2C` — bind, probe, reset, install the driver's defaults
* `LSM6DS3TRC.configure` — the setter calls the firmware makes, in its order
* `LSM6DS3TRC.settings`, `LSM6DS3TRC.settingsAt` — what the chip behind the driver, or at an
  address, runs with
* `LSM6DS3TRC.getEvent` — read a sample and fill three events

## Main results

* `LSM6DS3TRC.settings_configure` — a bound driver's chip runs with what was last configured
* `LSM6DS3TRC.beginI2C_i2cDev`, `beginI2C_bus_of_ne` — `begin_I2C` binds in any case, and leaves
  the other chips alone
* `LSM6DS3TRC.getEvent_null_temp` — the temperature event is written whatever the caller passed
-/

namespace ImuGamepad

/-- An `Adafruit_LSM6DS3TRC` object. -/
structure LSM6DS3TRC where
  /-- The device it is bound to; null until `begin_I2C`. -/
  i2cDev : Option I2CAddr
  accelRangeBuffered : Byte
  gyroRangeBuffered : Byte
  deriving DecidableEq

/-- One transfer of the data registers: m/s², rad/s, °C. -/
structure LSM6DSReading where
  acc : Vec3
  gyro : Vec3
  temperature : ℚ

namespace LSM6DS3TRC

def chipID : Byte := 0x6A
def int1Ctrl : RegAddr := 0x0D
def ctrl1XL : RegAddr := 0x10
def ctrl2G : RegAddr := 0x11
def ctrl3C : RegAddr := 0x12
def md1Cfg : RegAddr := 0x5E

def rate12_5Hz : Byte := 1
def rate104Hz : Byte := 4
def accelRange2G : Byte := 0
def accelRange16G : Byte := 1
def accelRange4G : Byte := 2
def accelRange8G : Byte := 3
def gyroRange250Dps : Byte := 0b0000
def gyroRange4000Dps : Byte := 0b0001
def gyroRange125Dps : Byte := 0b0010
def gyroRange500Dps : Byte := 0b0100
def gyroRange1000Dps : Byte := 0b1000
def gyroRange2000Dps : Byte := 0b1100

/-- The enumerators of `lsm6ds_data_rate_t`. -/
def dataRates : List Byte := [0, 1, 2, 3, 4, 5, 6, 7, 8, 9, 10]

/-- The enumerators of `lsm6ds_accel_range_t`. -/
def accelRanges : List Byte := [accelRange2G, accelRange16G, accelRange4G, accelRange8G]

/-- The enumerators of `lsm6ds_gyro_range_t`. -/
def gyroRanges : List Byte :=
  [gyroRange125Dps, gyroRange250Dps, gyroRange500Dps, gyroRange1000Dps, gyroRange2000Dps,
    gyroRange4000Dps]

/-! The enumerators fit into their register fields. -/

theorem dataRates_lt : ∀ r ∈ dataRates, r.toNat < 16 := by
  simp [dataRates]

theorem accelRanges_lt : ∀ r ∈ accelRanges, r.toNat < 4 := by
  simp [accelRanges, accelRange2G, accelRange16G, accelRange4G, accelRange8G]

theorem gyroRanges_lt : ∀ r ∈ gyroRanges, r.toNat < 16 := by
  simp [gyroRanges, gyroRange125Dps, gyroRange250Dps, gyroRange500Dps, gyroRange1000Dps,
    gyroRange2000Dps, gyroRange4000Dps]

/-- A freshly constructed object. -/
def new : LSM6DS3TRC := ⟨none, accelRange2G, gyroRange250Dps⟩

def setAccelDataRate (rate : Byte) (d : LSM6DS3TRC) (bus : Bus) : LSM6DS3TRC × Bus :=
  (d, bus.writeBits d.i2cDev ctrl1XL 4 4 rate)

def setAccelRange (range : Byte) (d : LSM6DS3TRC) (bus : Bus) : LSM6DS3TRC × Bus :=
  ({ d with accelRangeBuffered := range }, bus.writeBits d.i2cDev ctrl1XL 2 2 range)

def setGyroDataRate (rate : Byte) (d : LSM6DS3TRC) (bus : Bus) : LSM6DS3TRC × Bus :=
  (d, bus.writeBits d.i2cDev ctrl2G 4 4 rate)

def setGyroRange (range : Byte) (d : LSM6DS3TRC) (bus : Bus) : LSM6DS3TRC × Bus :=
  ({ d with gyroRangeBuffered := range }, bus.writeBits d.i2cDev ctrl2G 4 0 range)

def getAccelDataRate (d : LSM6DS3TRC) (bus : Bus) : Byte := bus.readBits d.i2cDev ctrl1XL 4 4

def getAccelRange (d : LSM6DS3TRC) (bus : Bus) : Byte := bus.readBits d.i2cDev ctrl1XL 2 2

def getGyroDataRate (d : LSM6DS3TRC) (bus : Bus) : Byte := bus.readBits d.i2cDev ctrl2G 4 4

def getGyroRange (d : LSM6DS3TRC) (bus : Bus) : Byte := bus.readBits d.i2cDev ctrl2G 4 0

/-- `Adafruit_LSM6DS::_init`: the driver's defaults, 104 Hz, 4 G and 2000 dps. -/
def baseInit (d : LSM6DS3TRC) (bus : Bus) : LSM6DS3TRC × Bus :=
  let (d, bus) := d.setAccelDataRate rate104Hz bus
  let (d, bus) := d.setAccelRange accelRange4G bus
  let (d, bus) := d.setGyroDataRate rate104Hz bus
  d.setGyroRange gyroRange2000Dps bus

/-- `reset()`: the soft reset bit takes the chip back to its power-on registers. -/
def reset (powerOn : RegAddr → Byte) (d : LSM6DS3TRC) (bus : Bus) : Bus :=
  match d.i2cDev with
  | some a => bus.reset a powerOn
  | none => bus

/-- `_init`: check the chip, reset it, install the defaults, set block data update. -/
def init (powerOn : RegAddr → Byte) (chipId : Byte) (d : LSM6DS3TRC) (bus : Bus) :
    Bool × LSM6DS3TRC × Bus :=
  if chipId ≠ chipID then (false, d, bus)
  else
    let (d, bus) := d.baseInit (d.reset powerOn bus)
    (true, d, bus.writeBits d.i2cDev ctrl3C 1 6 1)

/-- `begin_I2C(addr)`: bind to the address, look for a chip, initialise it. -/
def beginI2C (powerOn : RegAddr → Byte) (probe : Probe) (addr : I2CAddr) (d : LSM6DS3TRC)
    (bus : Bus) : Bool × LSM6DS3TRC × Bus :=
  let d := { d with i2cDev := some addr }
  if probe.detected then d.init powerOn probe.chipId bus else (false, d, bus)

/-- `configInt1(drdy_temp, drdy_g, drdy_xl)`, with no step detection and no wakeup. -/
def configInt1 (drdyTemp drdyG drdyXl : Bool) (d : LSM6DS3TRC) (bus : Bus) : LSM6DS3TRC × Bus :=
  let value : Byte := BitVec.ofNat 8 (drdyTemp.toNat * 4 + drdyG.toNat * 2 + drdyXl.toNat)
  (d, (bus.writeReg d.i2cDev int1Ctrl value).writeBits d.i2cDev md1Cfg 1 5 0)

/-- A value as the 16-bit little-endian integer at `a` of a transfer buffer. -/
def rawAt (buffer : Bytes 14) (a : ℕ) : ℚ := (buffer.getInt16 a).toInt

/-- `_read`: scale a 14-byte transfer by the buffered ranges. A range the table does not know
scales by `1`. -/
def read (buffer : Bytes 14) (d : LSM6DS3TRC) : LSM6DSReading :=
  let gyroScale : ℚ :=
    if d.gyroRangeBuffered = gyroRange4000Dps then 140
    else if d.gyroRangeBuffered = gyroRange2000Dps then 70
    else if d.gyroRangeBuffered = gyroRange1000Dps then 35
    else if d.gyroRangeBuffered = gyroRange500Dps then 17.5
    else if d.gyroRangeBuffered = gyroRange250Dps then 8.75
    else if d.gyroRangeBuffered = gyroRange125Dps then 4.375
    else 1
  let accelScale : ℚ :=
    if d.accelRangeBuffered = accelRange16G then 0.488
    else if d.accelRangeBuffered = accelRange8G then 0.244
    else if d.accelRangeBuffered = accelRange4G then 0.122
    else if d.accelRangeBuffered = accelRange2G then 0.061
    else 1
  let gyro (a : ℕ) : ℚ := rawAt buffer a * gyroScale * 0.017453293 / 1000
  let acc (a : ℕ) : ℚ := rawAt buffer a * accelScale * 9.80665 / 1000
  { acc := ⟨acc 8, acc 10, acc 12⟩
    gyro := ⟨gyro 2, gyro 4, gyro 6⟩
    temperature := rawAt buffer 0 / 256 + 25 }

/-- `getEvent(accel, gyro, temp)`: read a sample and fill all three events. -/
def getEvent (nw : NullWrite) (transfer : LSM6DS3TRC → LSM6DSReading) (accel gyro temp : EventPtr)
    (d : LSM6DS3TRC) : Except Fault (SensorsEvent × SensorsEvent) := do
  let r := transfer d
  let a ← fillEvent nw accel ⟨.accelerometer, r.acc⟩
  let g ← fillEvent nw gyro ⟨.gyroscope, r.gyro⟩
  let _ ← fillEvent nw temp ⟨.ambientTemperature, r.temperature, 0, 0⟩
  return (a, g)

/-! ### What the chip runs with -/

/-- The four setter calls the firmware makes on a driver, in its order. -/
def configure (rate accelRange gyroRange : Byte) (d : LSM6DS3TRC) (bus : Bus) :
    LSM6DS3TRC × Bus :=
  let (d, bus) := d.setAccelDataRate rate bus
  let (d, bus) := d.setGyroDataRate rate bus
  let (d, bus) := d.setAccelRange accelRange bus
  d.setGyroRange gyroRange bus

/-- Data rates and ranges, as the getters report them. -/
structure Settings where
  accelDataRate : Byte
  gyroDataRate : Byte
  accelRange : Byte
  gyroRange : Byte
  deriving DecidableEq

/-- What the chip behind the driver runs with. -/
def settings (d : LSM6DS3TRC) (bus : Bus) : Settings :=
  ⟨d.getAccelDataRate bus, d.getGyroDataRate bus, d.getAccelRange bus, d.getGyroRange bus⟩

/-- What the chip at an address runs with. -/
def settingsAt (a : I2CAddr) (bus : Bus) : Settings := settings { new with i2cDev := some a } bus

/-- A bound driver reports what its chip runs with. -/
theorem settings_eq_settingsAt {d : LSM6DS3TRC} {a : I2CAddr} (hd : d.i2cDev = some a)
    (bus : Bus) : d.settings bus = settingsAt a bus := by
  simp [settings, settingsAt, getAccelDataRate, getGyroDataRate, getAccelRange, getGyroRange, hd]

theorem settingsAt_congr {a : I2CAddr} {bus bus' : Bus} (h : bus a = bus' a) :
    settingsAt a bus = settingsAt a bus' := by
  simp [settings, settingsAt, getAccelDataRate, getGyroDataRate, getAccelRange, getGyroRange,
    Bus.readBits, h]

@[simp] theorem configure_i2cDev (rate accelRange gyroRange : Byte) (d : LSM6DS3TRC) (bus : Bus) :
    (d.configure rate accelRange gyroRange bus).1.i2cDev = d.i2cDev := rfl

/-- **A bound driver's chip runs with what was last configured.** -/
theorem settings_configure {d : LSM6DS3TRC} {a : I2CAddr} (hd : d.i2cDev = some a) (bus : Bus)
    {rate accelRange gyroRange : Byte} (hrate : rate.toNat < 16) (haccel : accelRange.toNat < 4)
    (hgyro : gyroRange.toNat < 16) :
    (d.configure rate accelRange gyroRange bus).1.settings
        (d.configure rate accelRange gyroRange bus).2
      = ⟨rate, rate, accelRange, gyroRange⟩ := by
  simp only [settings, configure, setAccelDataRate, setGyroDataRate, setAccelRange, setGyroRange,
    getAccelDataRate, getGyroDataRate, getAccelRange, getGyroRange, hd, Settings.mk.injEq]
  have hne : ctrl1XL ≠ ctrl2G := by decide
  refine ⟨?_, ?_, ?_, ?_⟩
  · rw [Bus.readBits_writeBits_of_ne_reg _ hne, Bus.readBits_writeBits_of_disjoint _ (by omega),
      Bus.readBits_writeBits_of_ne_reg _ hne, Bus.readBits_writeBits_self _ (by omega) hrate]
  · rw [Bus.readBits_writeBits_of_disjoint _ (by omega),
      Bus.readBits_writeBits_of_ne_reg _ hne.symm, Bus.readBits_writeBits_self _ (by omega) hrate]
  · rw [Bus.readBits_writeBits_of_ne_reg _ hne, Bus.readBits_writeBits_self _ (by omega) haccel]
  · rw [Bus.readBits_writeBits_self _ (by omega) hgyro]

/-- The chip a driver is bound to runs with what was last configured. -/
theorem settingsAt_configure {d : LSM6DS3TRC} {a : I2CAddr} (hd : d.i2cDev = some a) (bus : Bus)
    {rate accelRange gyroRange : Byte} (hrate : rate.toNat < 16) (haccel : accelRange.toNat < 4)
    (hgyro : gyroRange.toNat < 16) :
    settingsAt a (d.configure rate accelRange gyroRange bus).2
      = ⟨rate, rate, accelRange, gyroRange⟩ := by
  rw [← settings_configure hd bus hrate haccel hgyro, settings_eq_settingsAt]
  rw [configure_i2cDev, hd]

theorem configure_bus_of_ne {d : LSM6DS3TRC} {a b : I2CAddr} (hd : d.i2cDev = some b)
    (h : a ≠ b) (rate accelRange gyroRange : Byte) (bus : Bus) :
    (d.configure rate accelRange gyroRange bus).2 a = bus a := by
  simp [configure, setAccelDataRate, setGyroDataRate, setAccelRange, setGyroRange, hd,
    Bus.writeBits, Function.update_of_ne h]

/-- The interrupt configuration is in registers of its own. -/
theorem settings_configInt1 {d : LSM6DS3TRC} {a : I2CAddr} (hd : d.i2cDev = some a)
    (drdyTemp drdyG drdyXl : Bool) (bus : Bus) :
    (d.configInt1 drdyTemp drdyG drdyXl bus).1.settings (d.configInt1 drdyTemp drdyG drdyXl bus).2
      = d.settings bus := by
  have h₁ : ctrl1XL ≠ md1Cfg := by decide
  have h₂ : ctrl2G ≠ md1Cfg := by decide
  have h₃ : ctrl1XL ≠ int1Ctrl := by decide
  have h₄ : ctrl2G ≠ int1Ctrl := by decide
  simp only [settings, configInt1, getAccelDataRate, getGyroDataRate, getAccelRange, getGyroRange,
    hd, Bus.readBits_writeBits_of_ne_reg _ h₁, Bus.readBits_writeBits_of_ne_reg _ h₂,
    Bus.readBits_writeReg_of_ne_reg _ h₃, Bus.readBits_writeReg_of_ne_reg _ h₄]

theorem configInt1_bus_of_ne {d : LSM6DS3TRC} {a b : I2CAddr} (hd : d.i2cDev = some b)
    (h : a ≠ b) (drdyTemp drdyG drdyXl : Bool) (bus : Bus) :
    (d.configInt1 drdyTemp drdyG drdyXl bus).2 a = bus a := by
  simp [configInt1, hd, Bus.writeBits, Bus.writeReg, Function.update_of_ne h]

/-! ### What `begin_I2C` does -/

/-- The probe finds the right chip. -/
def found (p : Probe) : Bool := p.detected && p.chipId == chipID

/-- `begin_I2C` reports whether the probe found the chip, and binds the driver in any case. -/
theorem beginI2C_fst (powerOn : RegAddr → Byte) (probe : Probe) (addr : I2CAddr) (d : LSM6DS3TRC)
    (bus : Bus) : (d.beginI2C powerOn probe addr bus).1 = found probe := by
  rw [beginI2C, init, found]
  cases probe.detected <;> by_cases h : probe.chipId = chipID <;> simp [h]

@[simp] theorem beginI2C_i2cDev (powerOn : RegAddr → Byte) (probe : Probe) (addr : I2CAddr)
    (d : LSM6DS3TRC) (bus : Bus) :
    (d.beginI2C powerOn probe addr bus).2.1.i2cDev = some addr := by
  rw [beginI2C, init]
  cases probe.detected <;> by_cases h : probe.chipId = chipID <;>
    simp [h, baseInit, setAccelDataRate, setGyroDataRate, setAccelRange, setGyroRange]

theorem beginI2C_bus_of_ne (powerOn : RegAddr → Byte) (probe : Probe) {addr a : I2CAddr}
    (h : a ≠ addr) (d : LSM6DS3TRC) (bus : Bus) :
    (d.beginI2C powerOn probe addr bus).2.2 a = bus a := by
  rw [beginI2C, init]
  cases probe.detected <;> by_cases hid : probe.chipId = chipID <;>
    simp [hid, baseInit, reset, Bus.reset, setAccelDataRate, setGyroDataRate, setAccelRange,
      setGyroRange, Bus.writeBits, Function.update_of_ne h]

/-! ### Events -/

/-- Where a null write goes unnoticed, `getEvent` delivers the transferred sample. -/
@[simp] theorem getEvent_ignored (transfer : LSM6DS3TRC → LSM6DSReading)
    (accel gyro temp : EventPtr) (d : LSM6DS3TRC) :
    d.getEvent .ignored transfer accel gyro temp
      = .ok (⟨.accelerometer, (transfer d).acc⟩, ⟨.gyroscope, (transfer d).gyro⟩) := by
  simp [getEvent, bind, Except.bind, pure, Except.pure]

/-- **The temperature event is written whatever the caller passed.** -/
@[simp] theorem getEvent_null_temp (transfer : LSM6DS3TRC → LSM6DSReading) (d : LSM6DS3TRC) :
    d.getEvent .faults transfer .addr .addr .null = .error .nullEvent := by
  simp [getEvent, bind, Except.bind]

end LSM6DS3TRC

end ImuGamepad
