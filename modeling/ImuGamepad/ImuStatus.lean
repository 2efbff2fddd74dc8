import ImuGamepad.Steps

/-!
# The status of one IMU

The two IMUs share one ready flag and one interrupt handler, and the handler is attached only
where all four probes succeed, so that the status of either IMU is the status of both.

The interrupt controller and the flag are an abstract machine of their own, `InterruptLine`, that
sees edges and the attaching of the handler and nothing else. The firmware projects onto it, so
the flag after any run is computed from the run's events alone. From that, the statuses a boot
reports are computed from its input, and two boots that agree on everything about one IMU report
the same for it exactly when their ready sequences are the same.

## Main definitions

* `InterruptLine` — the abstract machine
* `BootRun` — a setup and the updates after it
* `BootRun.AgreeOn` — two boots that differ in the other IMU only
* `BootRun.ready` — the ready sequence, from the input

## Main results

* `interruptLine_of_path` — the firmware projects onto the abstract machine
* `statusesFrom_eq_ready` — the statuses of a boot are its ready sequence
* `independent_iff`
-/

namespace ImuGamepad

open Runs

/-! ### The interrupt line -/

/-- The pins the handler is attached to, and the flag it sets. -/
structure InterruptLine where
  attached : IntPin → Bool
  ready : Bool

namespace InterruptLine

/-- No handler attached, flag clear. -/
def idle : InterruptLine := ⟨fun _ => false, false⟩

/-- The handler attached to the pin of IMU 1. -/
def armed (ready : Bool) : InterruptLine := ⟨Function.update (fun _ => false) .imu1 true, ready⟩

/-- What an event does to the line. -/
def next (line : InterruptLine) : Event → InterruptLine
  | .edge pin => if line.attached pin then { line with ready := true } else line
  | .setupIMUInterrupts => { line with attached := Function.update line.attached .imu1 true }
  | .reboot _ _ => idle
  | _ => line

/-- Edges go unnoticed while no handler is attached. -/
theorem foldl_edges_idle (pins : List IntPin) :
    (pins.map Event.edge).foldl next idle = idle := by
  induction pins with
  | nil => rfl
  | cons pin pins ih => exact ih

/-- With the handler attached to the pin of IMU 1, its edges set the flag and no others do. -/
theorem foldl_edges_armed (pins : List IntPin) (ready : Bool) :
    (pins.map Event.edge).foldl next (armed ready) = armed (ready || pins.contains .imu1) := by
  induction pins generalizing ready with
  | nil => simp
  | cons pin pins ih =>
    rw [List.map_cons, List.foldl_cons]
    cases pin with
    | imu1 => rw [show next (armed ready) (.edge .imu1) = armed true from rfl, ih]; simp
    | imu2 => rw [show next (armed ready) (.edge .imu2) = armed ready from rfl, ih]; simp

/-- The setter calls and the interrupt setup arm the line. -/
theorem foldl_sensorScript (i : SetupInput) :
    (sensorScript i).foldl next idle = armed ((i.edges 6).contains .imu1) := by
  have hrate : next idle .setupIMUDataRate = idle := rfl
  have harm : next idle .setupIMUInterrupts = armed false := rfl
  simp only [sensorScript, List.cons_append, List.foldl_cons, List.foldl_append, hrate, harm,
    foldl_edges_idle, foldl_edges_armed, Bool.false_or]

theorem foldl_finalScript_idle (i : SetupInput) : (finalScript i).foldl next idle = idle := by
  have hload : next idle (.loadCalibration i.calibrationOk) = idle := rfl
  have hble : next idle .setupBLEGamepad = idle := rfl
  simp only [finalScript, List.cons_append, List.foldl_cons, List.foldl_append, hload, hble,
    foldl_edges_idle]

theorem foldl_finalScript_armed (i : SetupInput) (ready : Bool) :
    (finalScript i).foldl next (armed ready)
      = armed (ready || (i.edges 7).contains .imu1 || (i.edges 8).contains .imu1) := by
  have hload : next (armed ready) (.loadCalibration i.calibrationOk) = armed ready := rfl
  have hble (b : Bool) : next (armed b) .setupBLEGamepad = armed b := rfl
  simp only [finalScript, List.cons_append, List.foldl_cons, List.foldl_append, hload, hble,
    foldl_edges_armed]

end InterruptLine

/-- The firmware's part of the interrupt line. -/
def Firmware.interruptLine (s : Firmware) : InterruptLine := ⟨s.attached, s.imuDataReady⟩

theorem interruptLine_of_effect {p : Platform} {s t : Firmware} {e : Event} (h : Effect p s e t) :
    t.interruptLine = s.interruptLine.next e := by
  cases e with
  | edge pin =>
    rw [show t = edge pin s from h]
    cases ha : s.attached pin <;>
      simp [edge, InterruptLine.next, Firmware.interruptLine, imu1InterruptHandler, ha]
  | setupIMUInterrupts => rw [show t = _ from h]; rfl
  | reboot sensorGroup ble => rw [show t = _ from h]; rfl
  | _ => rw [show t = _ from frame_of_effect h]; rfl

/-- **The firmware projects onto the interrupt line.** -/
theorem interruptLine_of_path {p : Platform} {nw : NullWrite} {s t : Firmware} {es : List Event}
    (h : Path (OkStep (step p nw)) s es t) :
    t.interruptLine = es.foldl InterruptLine.next s.interruptLine :=
  h.view_eq_foldl fun _ _ _ hst => interruptLine_of_effect (effect_of_step hst)

/-! ### A boot and its updates -/

/-- The edges before an `updateOverallStatusData`, and what it reads from the fuel gauge. -/
structure Round where
  edges : List IntPin
  icVersion : BitVec 16

/-- Everything the outside decides from a boot on: the chips' registers, the setup, the updates
after it. -/
structure BootRun where
  bus : Bus
  setup : SetupInput
  rounds : List Round

/-- The status of one IMU. -/
def OverallStatusData.imuStatus (status : OverallStatusData) : IntPin → StatusCodeSensor
  | .imu1 => status.imu1Status
  | .imu2 => status.imu2Status

/-- The records after setup and after each update. -/
def statusesFrom (s : Firmware) : List Round → List OverallStatusData
  | [] => [s.overallStatusDatapPacked]
  | r :: rs =>
    s.overallStatusDatapPacked ::
      statusesFrom (updateOverallStatusData r.icVersion (edges r.edges s)) rs

namespace BootRun

/-- The addresses of an IMU's chips. -/
def chips : IntPin → List I2CAddr
  | .imu1 => [lsm6ds1Addr, lis3mdl1Addr]
  | .imu2 => [lsm6ds2Addr, lis3mdl2Addr]

/-- The probes of an IMU's chips. -/
def probes (pin : IntPin) (probes : ImuProbes) : Probe × Probe :=
  match pin with
  | .imu1 => (probes.lsm6ds1, probes.lis3mdl1)
  | .imu2 => (probes.lsm6ds2, probes.lis3mdl2)

/-- Two boots that agree on everything about one IMU, on the fuel gauge, the EEPROM and the clock,
and on the number of updates. -/
structure AgreeOn (pin : IntPin) (r r' : BootRun) : Prop where
  bus : ∀ a ∈ chips pin, r.bus a = r'.bus a
  probes : probes pin r.setup.probes = probes pin r'.setup.probes
  edges : ∀ k, (r.setup.edges k).count pin = (r'.setup.edges k).count pin
  eepromOk : r.setup.eepromOk = r'.setup.eepromOk
  uninit : r.setup.uninit = r'.setup.uninit
  calibrationOk : r.setup.calibrationOk = r'.setup.calibrationOk
  fuelGauge : r.setup.fuelGauge = r'.setup.fuelGauge
  icVersion : r.setup.icVersion = r'.setup.icVersion
  millis : r.setup.millis = r'.setup.millis
  rounds : r.rounds.map (fun q => (q.edges.count pin, q.icVersion))
    = r'.rounds.map fun q => (q.edges.count pin, q.icVersion)

/-- The ready flag now and after the edges of each round. -/
def readyFrom (attached : Bool) : Bool → List Round → List Bool
  | now, [] => [now]
  | now, r :: rs => now :: readyFrom attached (now || (attached && r.edges.contains .imu1)) rs

/-- The ready sequence of a boot. An edge counts if it is one of IMU 1 and comes after the handler
is attached, which takes all four probes. -/
def ready (r : BootRun) : List Bool :=
  let attached := r.setup.probes.allFound
  readyFrom attached
    (attached && (r.setup.edges 6 ++ r.setup.edges 7 ++ r.setup.edges 8).contains .imu1) r.rounds

end BootRun

/-! ### The statuses of a boot -/

/-- The line at the end of setup. -/
theorem interruptLine_setupApp {p : Platform} {i : SetupInput} {s t : Firmware}
    (hs : s.interruptLine = .idle) (h : setupApp p i s = .ok t) :
    t.interruptLine =
      if i.probes.allFound then
        .armed ((i.edges 6 ++ i.edges 7 ++ i.edges 8).contains .imu1)
      else .idle := by
  have hpath := interruptLine_of_path ((path_setupScript_iff .ignored).mpr h)
  rw [hpath, hs]
  have hdefault : (if settingsFound i.eepromOk s then []
      else Event.setDefaultSettings i.uninit :: (i.edges 2).map .edge).foldl
        InterruptLine.next .idle = .idle := by
    split
    · rfl
    · exact InterruptLine.foldl_edges_idle _
  simp only [setupScript, setupCalls, List.foldl_append, List.foldl_cons, List.foldl_nil,
    InterruptLine.foldl_edges_idle, InterruptLine.next, hdefault]
  cases i.probes.allFound with
  | false => exact InterruptLine.foldl_finalScript_idle i
  | true =>
    simp only [if_true, InterruptLine.foldl_sensorScript, InterruptLine.foldl_finalScript_armed]
    simp [Bool.or_assoc]

/-- What an update reports for either IMU. -/
def reported (ready : Bool) : StatusCodeSensor := if ready then .RUNNING else .FAILED

theorem interruptLine_edges (pins : List IntPin) (s : Firmware) :
    (edges pins s).interruptLine
      = (pins.map Event.edge).foldl InterruptLine.next s.interruptLine := by
  have hpath : Path (OkStep (step .bench .ignored)) s (pins.map .edge) (edges pins s) :=
    path_okStep_iff.mpr (run_edges s pins)
  exact interruptLine_of_path hpath

/-- The statuses from a state on, in which the record shows the flag. -/
theorem statusesFrom_eq_readyFrom (pin : IntPin) (attached : Bool) (rounds : List Round)
    {s : Firmware} {now : Bool}
    (hline : s.interruptLine = if attached then .armed now else .idle)
    (hnow : attached = false → now = false)
    (hstatus : s.overallStatusDatapPacked.imuStatus pin = reported now) :
    (statusesFrom s rounds).map (·.imuStatus pin)
      = (BootRun.readyFrom attached now rounds).map reported := by
  induction rounds generalizing s now with
  | nil => simp [statusesFrom, BootRun.readyFrom, hstatus]
  | cons r rs ih =>
    rw [statusesFrom, BootRun.readyFrom, List.map_cons, List.map_cons, hstatus]
    congr 1
    have hedges : (edges r.edges s).interruptLine
        = if attached then .armed (now || (attached && r.edges.contains .imu1)) else .idle := by
      rw [interruptLine_edges, hline]
      cases attached with
      | false => exact InterruptLine.foldl_edges_idle _
      | true => exact InterruptLine.foldl_edges_armed _ _
    refine ih hedges (fun ha => by simp [ha, hnow ha]) ?_
    have hflag : (edges r.edges s).imuDataReady
        = (now || (attached && r.edges.contains .imu1)) := by
      have := congrArg InterruptLine.ready hedges
      cases attached with
      | false => rw [hnow rfl]; exact this
      | true => exact this
    cases pin <;> simp only [OverallStatusData.imuStatus, updateOverallStatusData, hflag, reported]

/-- **The statuses of a boot are its ready sequence**, for either IMU. -/
theorem statusesFrom_eq_ready {p : Platform} {sensorGroup : SensorGroupIMU} {ble : Ble}
    {image : Image} {r : BootRun} {t : Firmware}
    (h : setupApp p r.setup (.powerOn sensorGroup ble r.bus image) = .ok t) (pin : IntPin) :
    (statusesFrom t r.rounds).map (·.imuStatus pin) = r.ready.map reported := by
  have hline := interruptLine_setupApp rfl h
  refine statusesFrom_eq_readyFrom pin r.setup.probes.allFound r.rounds ?_
    (fun ha => by simp [ha]) ?_
  · rw [hline]
    cases r.setup.probes.allFound <;> rfl
  · -- the last call of setup is an update, which leaves the flag as it is
    obtain ⟨u, -, rfl⟩ := setupApp_eq_update .ignored h
    have hflag : u.imuDataReady = (r.setup.probes.allFound &&
        (r.setup.edges 6 ++ r.setup.edges 7 ++ r.setup.edges 8).contains .imu1) := by
      have := congrArg InterruptLine.ready hline
      cases ha : r.setup.probes.allFound with
      | false => rw [ha] at this; exact this
      | true => rw [ha] at this; rw [Bool.true_and]; exact this
    cases pin <;> simp only [OverallStatusData.imuStatus, updateOverallStatusData, hflag, reported]

/-! ### Two boots -/

theorem reported_injective : Function.Injective reported := by
  intro a b h
  cases a <;> cases b <;> first | rfl | cases h

/-- Two boots that agree on everything about one IMU report the same for it, after setup and after
every update. -/
def Independent (pin : IntPin) (r r' : BootRun) (t t' : Firmware) : Prop :=
  r.AgreeOn pin r' →
    (statusesFrom t r.rounds).map (·.imuStatus pin)
      = (statusesFrom t' r'.rounds).map (·.imuStatus pin)

/-- **One IMU's status is independent of the other IMU exactly when the ready sequences agree.** -/
theorem independent_iff {p : Platform} {sensorGroup : SensorGroupIMU} {ble : Ble} {image : Image}
    {r r' : BootRun} {t t' : Firmware} (pin : IntPin)
    (h : setupApp p r.setup (.powerOn sensorGroup ble r.bus image) = .ok t)
    (h' : setupApp p r'.setup (.powerOn sensorGroup ble r'.bus image) = .ok t') :
    Independent pin r r' t t' ↔ (r.AgreeOn pin r' → r.ready = r'.ready) := by
  rw [Independent, statusesFrom_eq_ready h, statusesFrom_eq_ready h']
  exact imp_congr_right fun _ => (List.map_injective_iff.mpr reported_injective).eq_iff

/-- A boot that finds every chip and sees an edge of IMU 1. -/
def BootRun.bench : BootRun := ⟨fun _ _ => 0, .bench, []⟩

/-- The same boot without the accelerometer of IMU 1. -/
def BootRun.benchWithoutImu1 : BootRun :=
  ⟨fun _ _ => 0, { SetupInput.bench with probes := { ImuProbes.bench with lsm6ds1 := ⟨false, 0⟩ } },
    []⟩

theorem independent_iff_bench :
    ∃ t t', setupApp .bench BootRun.bench.setup (.bench fun _ => 0) = .ok t ∧
      setupApp .bench BootRun.benchWithoutImu1.setup (.bench fun _ => 0) = .ok t' ∧
      (Independent .imu2 .bench .benchWithoutImu1 t t' ↔
        (BootRun.bench.AgreeOn .imu2 .benchWithoutImu1 →
          BootRun.bench.ready = BootRun.benchWithoutImu1.ready)) := by
  obtain ⟨t, ht, -⟩ := setupApp_ok_of_valid .bench BootRun.bench.setup
    (Firmware.bench_pointersValid fun _ => 0)
  obtain ⟨t', ht', -⟩ := setupApp_ok_of_valid .bench BootRun.benchWithoutImu1.setup
    (Firmware.bench_pointersValid fun _ => 0)
  exact ⟨t, t', ht, ht', independent_iff .imu2 ht ht'⟩

/-- Without the accelerometer of IMU 1, the status of IMU 2 is `FAILED` instead of `RUNNING`. -/
theorem imu2Status_leaks :
    ∃ t t', setupApp .bench BootRun.bench.setup (.bench fun _ => 0) = .ok t ∧
      setupApp .bench BootRun.benchWithoutImu1.setup (.bench fun _ => 0) = .ok t' ∧
      ¬ Independent .imu2 .bench .benchWithoutImu1 t t' := by
  obtain ⟨t, ht, -⟩ := setupApp_ok_of_valid .bench BootRun.bench.setup
    (Firmware.bench_pointersValid fun _ => 0)
  obtain ⟨t', ht', -⟩ := setupApp_ok_of_valid .bench BootRun.benchWithoutImu1.setup
    (Firmware.bench_pointersValid fun _ => 0)
  refine ⟨t, t', ht, ht', fun hind => ?_⟩
  have hagree : BootRun.bench.AgreeOn .imu2 .benchWithoutImu1 := by
    constructor <;> intros <;> rfl
  have heq := hind hagree
  rw [statusesFrom_eq_ready (r := .bench) ht, statusesFrom_eq_ready (r := .benchWithoutImu1) ht']
    at heq
  exact absurd heq (by decide)

end ImuGamepad
