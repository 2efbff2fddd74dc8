import Mathlib.Data.Rat.Defs
import Mathlib.Tactic.Common

/-!
# Sensor events

`sensors_event_t` of the unified sensor interface, and what can stop the firmware while it handles
pointers.

A driver fills the events its caller points at and does not look whether a pointer is null.
Whether such a write is an error or goes unnoticed is the argument `NullWrite`, so that the same
driver code can be read both ways: as a fault, or as a call that delivers its samples regardless.

## Main definitions

* `SensorsEvent` — one event: its type and its three components
* `Fault` — a call or a write through a null pointer
* `fillEvent` — a driver's write through an event pointer
-/

namespace ImuGamepad

/-- Three components. -/
structure Vec3 where
  x : ℚ
  y : ℚ
  z : ℚ
  deriving DecidableEq

/-- The sensor types that occur here. -/
inductive SensorType
  | accelerometer
  | magneticField
  | gyroscope
  | ambientTemperature
  deriving DecidableEq

/-- `sensors_event_t`: the type, and the union of the readings, which all share three floats. -/
structure SensorsEvent where
  type : SensorType
  data : Vec3
  deriving DecidableEq

/-- What stops the firmware. -/
inductive Fault
  /-- A method call through a null object pointer. -/
  | nullPointer
  /-- A driver's write through a null event pointer. -/
  | nullEvent
  deriving DecidableEq

/-- What a driver's write through a null event pointer does. -/
inductive NullWrite
  | faults
  | ignored
  deriving DecidableEq

/-- A `sensors_event_t *`: the address of a local, or null. -/
inductive EventPtr
  | addr
  | null
  deriving DecidableEq

/-- Fill the event behind a pointer. -/
def fillEvent (nw : NullWrite) (p : EventPtr) (event : SensorsEvent) : Except Fault SensorsEvent :=
  match p, nw with
  | .null, .faults => .error .nullEvent
  | _, _ => .ok event

@[simp] theorem fillEvent_addr (nw : NullWrite) (event : SensorsEvent) :
    fillEvent nw .addr event = .ok event := rfl

@[simp] theorem fillEvent_ignored (p : EventPtr) (event : SensorsEvent) :
    fillEvent .ignored p event = .ok event := by
  cases p <;> rfl

@[simp] theorem fillEvent_null_faults (event : SensorsEvent) :
    fillEvent .faults .null event = .error .nullEvent := rfl

end ImuGamepad
