import ImuGamepad.BleGamepad
import ImuGamepad.Library.Runs
import Mathlib.Data.List.Induction

/-!
# The event flags of the sensor service

A flag should be up exactly when its event has happened since the last reset, and the size flag
exactly when the latest write since then had the length its characteristic requires. For the
Config characteristic the callbacks do that. The UNIX time characteristic has no custom callback,
and its UUID would not be recognised if it had one, so no access to it is ever seen.

## Main definitions

* `ServiceEvent`, `serviceStep` — client accesses and resets
* `FlagsLaw` — what the flags should say after a trace
* `Installed` — the characteristics as `taskServer` leaves them

## Main results

* `flagsLaw_iff` — the law holds after every prefix of a trace exactly when the trace never
  touches the UNIX time characteristic
-/

namespace ImuGamepad

open Runs BleGamepad

/-! ### Traces -/

/-- The two characteristics a client writes. -/
inductive ClientCharacteristic
  | config
  | unixTime
  deriving DecidableEq

namespace ClientCharacteristic

def name : ClientCharacteristic → CharacteristicName
  | config => .Config
  | unixTime => .UNIXTime

/-- The length its values are required to have. -/
def requiredLength : ClientCharacteristic → ℕ
  | config => 15
  | unixTime => 8

end ClientCharacteristic

/-- An access by a client, or a reset by the firmware. A client's value is one that an attribute
can hold. -/
inductive ServiceEvent
  | write (c : ClientCharacteristic) (value : NimBLEAttValue)
  | read (c : ClientCharacteristic)
  | resetFlagsWrite
  | resetFlagsRead

/-- One event, as an atomic step. -/
def serviceStep (g : BleGamepad) : ServiceEvent → BleGamepad
  | .write c value => g.writeEvent c.name value.bytes
  | .read c => g.readEvent c.name
  | .resetFlagsWrite => g.resetFlagsWrite
  | .resetFlagsRead => g.resetFlagsRead

/-- The service after a trace, from the state `taskServer` sets up. -/
def serviceRun (trace : List ServiceEvent) : BleGamepad :=
  trace.foldl serviceStep BleGamepad.new.taskServer

theorem serviceRun_concat (trace : List ServiceEvent) (e : ServiceEvent) :
    serviceRun (trace ++ [e]) = serviceStep (serviceRun trace) e := by
  rw [serviceRun, List.foldl_concat]
  rfl

namespace ServiceEvent

def Writes (c : ClientCharacteristic) (e : ServiceEvent) : Prop := ∃ value, e = write c value

def Reads (c : ClientCharacteristic) (e : ServiceEvent) : Prop := e = read c

/-- A write of the length its characteristic requires. -/
def WritesRightSize (e : ServiceEvent) : Prop :=
  ∃ c value, e = write c value ∧ value.length = c.requiredLength

def ResetsWrite (e : ServiceEvent) : Prop := e = resetFlagsWrite

def ResetsRead (e : ServiceEvent) : Prop := e = resetFlagsRead

/-- After another write, or a reset, an earlier write is not the latest since the last reset. -/
def ResetsSize (e : ServiceEvent) : Prop := e = resetFlagsWrite ∨ ∃ c, e.Writes c

def Touches (c : ClientCharacteristic) (e : ServiceEvent) : Prop := e.Writes c ∨ e.Reads c

end ServiceEvent

open ServiceEvent

/-! ### The law -/

/-- What the flags should say after a trace. -/
structure FlagsLaw (trace : List ServiceEvent) (g : BleGamepad) : Prop where
  writeConfig : g.isOnWriteConfig = 1 ↔ Since (Writes .config) ResetsWrite trace
  writeUnixTime : g.isOnWriteUinixTime = 1 ↔ Since (Writes .unixTime) ResetsWrite trace
  readConfig : g.isOnReadConfig = 1 ↔ Since (Reads .config) ResetsRead trace
  readUnixTime : g.isOnReadUinixTime = 1 ↔ Since (Reads .unixTime) ResetsRead trace
  rightSize : g.isRightSize = 1 ↔ Since WritesRightSize ResetsSize trace

/-- The characteristics as `taskServer` leaves them, whatever values they have come to hold: the
custom callbacks on `Config`, none on `UNIXTime`. -/
structure Installed (g : BleGamepad) : Prop where
  config : ∃ value, g.characteristics .Config = some ⟨.ofString (uuid .Config), value, .custom⟩
  unixTime : ∃ value, g.characteristics .UNIXTime =
    some ⟨.ofString (uuid .UNIXTime), value, .default⟩

theorem installed_taskServer (g : BleGamepad) : Installed g.taskServer :=
  ⟨⟨.empty, rfl⟩, ⟨.empty, rfl⟩⟩

section

variable {g : BleGamepad}

theorem Installed.of_eq {g' : BleGamepad} (h : Installed g)
    (heq : g'.characteristics = g.characteristics) : Installed g' :=
  ⟨heq ▸ h.config, heq ▸ h.unixTime⟩

theorem onWrite_characteristics (name : CharacteristicName) (g : BleGamepad) :
    (g.onWrite name).characteristics = g.characteristics := by
  simp only [onWrite, customOnWrite]
  repeat' split
  all_goals rfl

theorem onRead_characteristics (name : CharacteristicName) (g : BleGamepad) :
    (g.onRead name).characteristics = g.characteristics := by
  simp only [onRead, customOnRead]
  repeat' split
  all_goals rfl

/-- Storing a value leaves the characteristics installed. -/
theorem Installed.setValue (h : Installed g) (c : ClientCharacteristic) (data : List Byte) :
    Installed (g.setValue c.name data) := by
  obtain ⟨⟨v, hv⟩, ⟨w, hw⟩⟩ := h
  cases c with
  | config =>
    refine ⟨⟨.setValue data, ?_⟩, ⟨w, ?_⟩⟩ <;>
      simp [ClientCharacteristic.name, BleGamepad.setValue, hv, hw, NimBLECharacteristic.setValue]
  | unixTime =>
    refine ⟨⟨v, ?_⟩, ⟨.setValue data, ?_⟩⟩ <;>
      simp [ClientCharacteristic.name, BleGamepad.setValue, hv, hw, NimBLECharacteristic.setValue]

theorem Installed.step (h : Installed g) (e : ServiceEvent) :
    Installed (serviceStep g e) := by
  cases e with
  | write c value => exact (h.setValue c value.bytes).of_eq (onWrite_characteristics _ _)
  | read c => exact h.of_eq (onRead_characteristics _ _)
  | resetFlagsWrite => exact h.of_eq rfl
  | resetFlagsRead => exact h.of_eq rfl

theorem installed_serviceRun (trace : List ServiceEvent) : Installed (serviceRun trace) := by
  induction trace using List.reverseRecOn with
  | nil => exact installed_taskServer _
  | append_singleton trace e ih => rw [serviceRun_concat]; exact ih.step e

/-! ### One event -/

/-- The callback on Config raises its flag, and the size flag by the length of the value. -/
theorem onWrite_config {value : NimBLEAttValue}
    (h : g.characteristics .Config = some ⟨.ofString (uuid .Config), value, .custom⟩) :
    g.onWrite .Config =
      { g with isOnWriteConfig := 1, isRightSize := if value.length = 15 then 1 else 0 } := by
  simp [onWrite, h, customOnWrite, config_toString]

/-- A write of Config raises its flag, and the size flag by the length. -/
theorem Installed.write_config (h : Installed g) (value : NimBLEAttValue) :
    ∃ cs, serviceStep g (.write .config value) =
      { g with
        characteristics := cs
        isOnWriteConfig := 1
        isRightSize := if value.length = 15 then 1 else 0 } := by
  obtain ⟨old, hold⟩ := h.config
  refine ⟨Function.update g.characteristics .Config
    (some ⟨.ofString (uuid .Config), .setValue value.bytes, .custom⟩), ?_⟩
  have hlen : (NimBLEAttValue.setValue value.bytes).length = value.length := by
    rw [NimBLEAttValue.length, NimBLEAttValue.bytes_setValue value.length_le]
    rfl
  have hstored : (g.setValue .Config value.bytes).characteristics .Config
      = some ⟨.ofString (uuid .Config), .setValue value.bytes, .custom⟩ := by
    simp [BleGamepad.setValue, hold, NimBLECharacteristic.setValue]
  rw [serviceStep, ClientCharacteristic.name, writeEvent, onWrite_config hstored, hlen]
  simp [BleGamepad.setValue, hold, NimBLECharacteristic.setValue]

/-- A write of the UNIX time changes no flag. -/
theorem Installed.write_unixTime (h : Installed g) (value : NimBLEAttValue) :
    ∃ cs, serviceStep g (.write .unixTime value) = { g with characteristics := cs } := by
  obtain ⟨old, hold⟩ := h.unixTime
  refine ⟨Function.update g.characteristics .UNIXTime
    (some ⟨.ofString (uuid .UNIXTime), .setValue value.bytes, .default⟩), ?_⟩
  simp [serviceStep, ClientCharacteristic.name, writeEvent, BleGamepad.setValue, hold,
    NimBLECharacteristic.setValue, onWrite]

theorem Installed.read_config (h : Installed g) :
    serviceStep g (.read .config) = { g with isOnReadConfig := 1 } := by
  obtain ⟨old, hold⟩ := h.config
  simp [serviceStep, ClientCharacteristic.name, readEvent, onRead, hold, customOnRead,
    config_toString]

theorem Installed.read_unixTime (h : Installed g) :
    serviceStep g (.read .unixTime) = g := by
  obtain ⟨old, hold⟩ := h.unixTime
  simp [serviceStep, ClientCharacteristic.name, readEvent, onRead, hold]

/-- An event that does not touch the UNIX time keeps the law. -/
theorem FlagsLaw.concat {trace : List ServiceEvent} (hlaw : FlagsLaw trace g)
    (h : Installed g) {e : ServiceEvent} (he : ¬ e.Touches .unixTime) :
    FlagsLaw (trace ++ [e]) (serviceStep g e) := by
  obtain ⟨hwc, hwu, hrc, hru, hsize⟩ := hlaw
  cases e with
  | write c value =>
    cases c with
    | unixTime => exact absurd (Or.inl ⟨value, rfl⟩) he
    | config =>
      obtain ⟨cs, hcs⟩ := h.write_config value
      rw [hcs]
      constructor
      · simp [since_concat, Writes]
      · simpa [since_concat, Writes, ResetsWrite] using hwu
      · simpa [since_concat, Reads, ResetsRead] using hrc
      · simpa [since_concat, Reads, ResetsRead] using hru
      · simp [since_concat, WritesRightSize, ResetsSize, Writes,
          ClientCharacteristic.requiredLength]
  | read c =>
    cases c with
    | unixTime => exact absurd (Or.inr rfl) he
    | config =>
      rw [h.read_config]
      constructor
      · simpa [since_concat, Writes, ResetsWrite] using hwc
      · simpa [since_concat, Writes, ResetsWrite] using hwu
      · simp [since_concat, Reads]
      · simpa [since_concat, Reads, ResetsRead] using hru
      · simpa [since_concat, WritesRightSize, ResetsSize, Writes] using hsize
  | resetFlagsWrite =>
    change FlagsLaw _ g.resetFlagsWrite
    constructor
    · simp [BleGamepad.resetFlagsWrite, since_concat, Writes, ResetsWrite]
    · simp [BleGamepad.resetFlagsWrite, since_concat, Writes, ResetsWrite]
    · simpa [BleGamepad.resetFlagsWrite, since_concat, Reads, ResetsRead] using hrc
    · simpa [BleGamepad.resetFlagsWrite, since_concat, Reads, ResetsRead] using hru
    · simp [BleGamepad.resetFlagsWrite, since_concat, WritesRightSize, ResetsSize]
  | resetFlagsRead =>
    change FlagsLaw _ g.resetFlagsRead
    constructor
    · simpa [BleGamepad.resetFlagsRead, since_concat, Writes, ResetsWrite] using hwc
    · simpa [BleGamepad.resetFlagsRead, since_concat, Writes, ResetsWrite] using hwu
    · simp [BleGamepad.resetFlagsRead, since_concat, Reads, ResetsRead]
    · simp [BleGamepad.resetFlagsRead, since_concat, Reads, ResetsRead]
    · simpa [BleGamepad.resetFlagsRead, since_concat, WritesRightSize, ResetsSize, Writes]
        using hsize

end

/-! ### Traces -/

/-- The flags of the UNIX time are never raised. -/
theorem unixTime_flags_serviceRun (trace : List ServiceEvent) :
    (serviceRun trace).isOnWriteUinixTime = 0 ∧ (serviceRun trace).isOnReadUinixTime = 0 := by
  induction trace using List.reverseRecOn with
  | nil => exact ⟨rfl, rfl⟩
  | append_singleton trace e ih =>
    have h := installed_serviceRun trace
    rw [serviceRun_concat]
    cases e with
    | write c value =>
      cases c with
      | config =>
        obtain ⟨cs, hcs⟩ := h.write_config value
        rw [hcs]
        exact ih
      | unixTime =>
        obtain ⟨cs, hcs⟩ := h.write_unixTime value
        rw [hcs]
        exact ih
    | read c =>
      cases c with
      | config => rw [h.read_config]; exact ih
      | unixTime => rw [h.read_unixTime]; exact ih
    | resetFlagsWrite => exact ⟨rfl, ih.2⟩
    | resetFlagsRead => exact ⟨ih.1, rfl⟩

/-- An access to the UNIX time breaks the law. -/
theorem not_flagsLaw_of_touches (trace : List ServiceEvent) {e : ServiceEvent}
    (he : e.Touches .unixTime) : ¬ FlagsLaw (trace ++ [e]) (serviceRun (trace ++ [e])) := by
  intro hlaw
  obtain ⟨hwrite, hread⟩ := unixTime_flags_serviceRun (trace ++ [e])
  rcases he with he | he
  · have hflag := hlaw.writeUnixTime.mpr (since_concat.mpr (Or.inl he))
    rw [hwrite] at hflag
    exact absurd hflag (by decide)
  · have hflag := hlaw.readUnixTime.mpr (since_concat.mpr (Or.inl he))
    rw [hread] at hflag
    exact absurd hflag (by decide)

/-- **The flags obey their law in every state a trace reaches exactly when the trace never touches
the UNIX time characteristic.** -/
theorem flagsLaw_iff (trace : List ServiceEvent) :
    (∀ pre, pre <+: trace → FlagsLaw pre (serviceRun pre)) ↔
      ∀ e ∈ trace, ¬ e.Touches .unixTime := by
  induction trace using List.reverseRecOn with
  | nil =>
    simp only [List.prefix_nil, forall_eq, List.not_mem_nil, false_implies, implies_true, iff_true]
    constructor <;> simp [serviceRun, BleGamepad.new, taskServer]
  | append_singleton trace e ih =>
    constructor
    · intro hlaw e' he'
      rcases List.mem_append.mp he' with hmem | hmem
      · exact ih.mp (fun pre hpre => hlaw pre (hpre.trans (List.prefix_append _ _))) e' hmem
      · obtain rfl := List.mem_singleton.mp hmem
        exact fun htouch => not_flagsLaw_of_touches trace htouch (hlaw _ List.prefix_rfl)
    · intro hno pre hpre
      have hlaw := ih.mpr fun e' he' => hno e' (List.mem_append_left _ he')
      rcases List.prefix_concat_iff.mp hpre with rfl | hpre
      · rw [serviceRun_concat]
        exact (hlaw trace List.prefix_rfl).concat (installed_serviceRun trace) (hno e (by simp))
      · exact hlaw pre hpre

/-- A client's write of eight bytes to the UNIX time raises no flag. -/
theorem not_flagsLaw_write_unixTime :
    ¬ FlagsLaw [.write .unixTime (.setValue (List.replicate 8 0))]
      (serviceRun [.write .unixTime (.setValue (List.replicate 8 0))]) :=
  not_flagsLaw_of_touches [] (Or.inl ⟨_, rfl⟩)

end ImuGamepad
