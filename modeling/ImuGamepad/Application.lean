import ImuGamepad.Imu

/-!
# Setup, loop and runs

`setupApp` and `processApp`, and the runs of the firmware: sequences of events, each of which is a
call, an edge on an interrupt pin between two calls, or a reboot. `setupApp` itself is such a
sequence (`setupApp_eq_run`), so that what holds of every step of a run holds inside `setupApp` as
well as after it.

The body of `processApp` is `void readDataIMU();`. That is a local declaration of a function and
no call, so that `loop` does nothing.

## Main definitions

* `SetupInput` — everything the outside decides during `setupApp`
* `setupApp`, `processApp`, `loop`
* `Event`, `step` — the calls as steps of a system
* `setupScript` — the events that one `setupApp` consists of

## Main results

* `setupApp_eq_run`
* `path_setupScript_iff` — the runs over the script are the completed setups
-/

namespace ImuGamepad

open Runs

/-! ### The two entry points -/

/-- What the outside decides during `setupApp`. `edges k` are the edges on interrupt pins between
its `k`-th call and the next one. -/
structure SetupInput where
  eepromOk : Bool
  uninit : Bytes 15
  fuelGauge : FuelGaugeProbe
  probes : ImuProbes
  millis : BitVec 32
  calibrationOk : Bool
  icVersion : BitVec 16
  edges : ℕ → List IntPin

/-- A sequence of edges. -/
def edges (pins : List IntPin) (s : Firmware) : Firmware := pins.foldl (fun s pin => edge pin s) s

/-- `setupApp`. `systemInit` and `ledRGB` touch pins only and are left out. -/
def setupApp (p : Platform) (i : SetupInput) (s : Firmware) : Except Fault Firmware := do
  let s := edges (i.edges 0) s
  let (restored, s) ← restoreSettings i.eepromOk s
  let s := edges (i.edges 1) s
  let s := if restored then s else edges (i.edges 2) (setDefaultSettings i.uninit s)
  let (_, s) := initFuelGauge i.fuelGauge s
  let s := edges (i.edges 3) s
  let (available, s) ← initIMU p i.probes i.millis s
  let s := edges (i.edges 4) s
  let s ←
    if available then do
      let s ← setupIMUDataRate s
      let s := edges (i.edges 5) s
      let s ← setupIMUInterrupts s
      pure (edges (i.edges 6) s)
    else pure s
  let (_, s) := loadCalibration i.calibrationOk s
  let s := edges (i.edges 7) s
  let s ← setupBLEGamepad s
  let s := edges (i.edges 8) s
  return updateOverallStatusData i.icVersion s

/-- `processApp`: its one statement declares a function and calls none. -/
def processApp (s : Firmware) : Except Fault Firmware := .ok s

/-- `loop`. -/
def loop (s : Firmware) : Except Fault Firmware := processApp s

/-! ### Events -/

/-- What happens to the firmware. -/
inductive Event
  | edge (pin : IntPin)
  | restoreSettings (eepromOk : Bool)
  | setDefaultSettings (uninit : Bytes 15)
  | initFuelGauge (probe : FuelGaugeProbe)
  | initIMU (probes : ImuProbes) (millis : BitVec 32)
  | setupIMUDataRate
  | setupIMUInterrupts
  | loadCalibration (eepromOk : Bool)
  | setupBLEGamepad
  | updateOverallStatusData (icVersion : BitVec 16)
  | readDataIMU (i : ImuInput)
  | senDataBLE (connected : Bool)
  | loop
  /-- All globals return to their initial values, with these pointers. The chips keep their
  registers, and the blob in flash survives. -/
  | reboot (sensorGroup : SensorGroupIMU) (ble : Ble)

/-- One event. -/
def step (p : Platform) (nw : NullWrite) (s : Firmware) : Event → Except Fault Firmware
  | .edge pin => .ok (ImuGamepad.edge pin s)
  | .restoreSettings eepromOk => (ImuGamepad.restoreSettings eepromOk s).map Prod.snd
  | .setDefaultSettings uninit => .ok (ImuGamepad.setDefaultSettings uninit s)
  | .initFuelGauge probe => .ok (ImuGamepad.initFuelGauge probe s).2
  | .initIMU probes millis => (ImuGamepad.initIMU p probes millis s).map Prod.snd
  | .setupIMUDataRate => ImuGamepad.setupIMUDataRate s
  | .setupIMUInterrupts => ImuGamepad.setupIMUInterrupts s
  | .loadCalibration eepromOk => .ok (ImuGamepad.loadCalibration eepromOk s).2
  | .setupBLEGamepad => ImuGamepad.setupBLEGamepad s
  | .updateOverallStatusData icVersion => .ok (ImuGamepad.updateOverallStatusData icVersion s)
  | .readDataIMU i => ImuGamepad.readDataIMU p nw i s
  | .senDataBLE connected => ImuGamepad.senDataBLE connected s
  | .loop => ImuGamepad.loop s
  | .reboot sensorGroup ble => .ok (Firmware.powerOn sensorGroup ble s.bus s.eeprom.committed)

/-! ### Setup is a run -/

/-- The calls that follow a successful `initIMU`. -/
def sensorScript (i : SetupInput) : List Event :=
  .setupIMUDataRate :: (i.edges 5).map .edge ++ .setupIMUInterrupts :: (i.edges 6).map .edge

/-- The calls from `loadCalibration` on, but for the last one. -/
def finalScript (i : SetupInput) : List Event :=
  .loadCalibration i.calibrationOk :: (i.edges 7).map .edge ++
    .setupBLEGamepad :: (i.edges 8).map .edge

/-- The events that `setupApp` consists of when it starts in `s`, but for its last call. -/
def setupCalls (i : SetupInput) (s : Firmware) : List Event :=
  (i.edges 0).map .edge ++ .restoreSettings i.eepromOk :: (i.edges 1).map .edge ++
    (if settingsFound i.eepromOk s then []
      else .setDefaultSettings i.uninit :: (i.edges 2).map .edge) ++
    .initFuelGauge i.fuelGauge :: (i.edges 3).map .edge ++
    .initIMU i.probes i.millis :: (i.edges 4).map .edge ++
    (if i.probes.allFound then sensorScript i else []) ++ finalScript i

/-- The events that `setupApp` consists of when it starts in `s`. -/
def setupScript (i : SetupInput) (s : Firmware) : List Event :=
  setupCalls i s ++ [.updateOverallStatusData i.icVersion]

section

variable {p : Platform} {nw : NullWrite}

/-- The run over a list of events. -/
def run (p : Platform) (nw : NullWrite) (s : Firmware) (es : List Event) : Except Fault Firmware :=
  es.foldlM (step p nw) s

theorem run_nil (s : Firmware) : run p nw s [] = .ok s := rfl

theorem run_cons (s : Firmware) (e : Event) (es : List Event) :
    run p nw s (e :: es) = step p nw s e >>= fun t => run p nw t es := List.foldlM_cons ..

theorem run_append (s : Firmware) (es fs : List Event) :
    run p nw s (es ++ fs) = run p nw s es >>= fun t => run p nw t fs := List.foldlM_append ..

theorem run_edges (s : Firmware) (pins : List IntPin) :
    run p nw s (pins.map .edge) = .ok (edges pins s) := by
  induction pins generalizing s with
  | nil => rfl
  | cons pin pins ih =>
    rw [List.map_cons, run_cons]
    exact ih (edge pin s)

/-- Edges change the data-ready flag at most. -/
theorem edges_frame (pins : List IntPin) (s : Firmware) :
    edges pins s = { s with imuDataReady := (edges pins s).imuDataReady } := by
  induction pins generalizing s with
  | nil => rfl
  | cons pin pins ih =>
    rw [edges, List.foldl_cons, ← edges, ih, edge]
    split <;> rfl

@[simp] theorem edges_eeprom (pins : List IntPin) (s : Firmware) :
    (edges pins s).eeprom = s.eeprom := by rw [edges_frame]

@[simp] theorem edges_bus (pins : List IntPin) (s : Firmware) : (edges pins s).bus = s.bus := by
  rw [edges_frame]

@[simp] theorem edges_sensorGroup (pins : List IntPin) (s : Firmware) :
    (edges pins s).sensorGroup = s.sensorGroup := by rw [edges_frame]

@[simp] theorem ok_bind {α β : Type} (a : α) (f : α → Except Fault β) :
    ((.ok a : Except Fault α) >>= f) = f a := rfl

@[simp] theorem error_bind {α β : Type} (e : Fault) (f : α → Except Fault β) :
    ((.error e : Except Fault α) >>= f) = .error e := rfl

/-- The setter calls after a successful `initIMU`, as a run. -/
theorem run_sensorScript (i : SetupInput) (s : Firmware) :
    run p nw s (sensorScript i) = (do
      let s ← setupIMUDataRate s
      let s := edges (i.edges 5) s
      let s ← setupIMUInterrupts s
      pure (edges (i.edges 6) s)) := by
  simp only [sensorScript, List.cons_append, run_cons, run_append, run_edges, step, ok_bind]
  rfl

/-- The calls from `loadCalibration` on, as a run. -/
theorem run_finalScript (i : SetupInput) (s : Firmware) :
    run p nw s (finalScript i) = (do
      let (_, s) := loadCalibration i.calibrationOk s
      let s := edges (i.edges 7) s
      let s ← setupBLEGamepad s
      return edges (i.edges 8) s) := by
  simp only [finalScript, List.cons_append, run_cons, run_append, run_edges, step, ok_bind]
  rfl

/-- **Setup is a run over its script.** -/
theorem setupApp_eq_run (p : Platform) (nw : NullWrite) (i : SetupInput) (s : Firmware) :
    setupApp p i s = run p nw s (setupScript i s) := by
  simp only [setupApp, setupScript, setupCalls, List.append_assoc, List.cons_append, run_append,
    run_edges, run_cons, run_nil, ok_bind, step]
  cases hrestore : restoreSettings i.eepromOk (edges (i.edges 0) s) with
  | error e => rfl
  | ok bt =>
  obtain ⟨restored, t⟩ := bt
  obtain rfl : restored = settingsFound i.eepromOk s := by
    simpa [settingsFound] using (restoreSettings_frame hrestore).1
  simp only [ok_bind, Except.map]
  have hdefault (u : Firmware) :
      run p nw u (if settingsFound i.eepromOk s then []
        else .setDefaultSettings i.uninit :: (i.edges 2).map .edge)
        = .ok (if settingsFound i.eepromOk s then u
            else edges (i.edges 2) (setDefaultSettings i.uninit u)) := by
    split
    · rfl
    · rw [run_cons]
      exact run_edges _ _
  rw [hdefault]
  simp only [ok_bind]
  generalize (initFuelGauge i.fuelGauge _).2 = u
  cases hinit : initIMU p i.probes i.millis (edges (i.edges 3) u) with
  | error e => rfl
  | ok bt =>
  obtain ⟨available, v⟩ := bt
  obtain rfl : available = i.probes.allFound := (initIMU_spec hinit).1
  simp only [ok_bind, run_finalScript, bind_assoc, pure_bind]
  cases i.probes.allFound with
  | false => rfl
  | true =>
    simp only [if_true, run_sensorScript, bind_assoc, pure_bind]
    rfl

end

/-- The runs over the script are the completed setups. -/
theorem path_setupScript_iff {p : Platform} (nw : NullWrite) {i : SetupInput} {s t : Firmware} :
    Path (OkStep (step p nw)) s (setupScript i s) t ↔ setupApp p i s = .ok t := by
  rw [path_okStep_iff, setupApp_eq_run p nw]
  rfl

/-- Setup ends with an update of the status record. -/
theorem setupApp_eq_update {p : Platform} (nw : NullWrite) {i : SetupInput} {s t : Firmware}
    (h : setupApp p i s = .ok t) :
    ∃ u, Path (OkStep (step p nw)) s (setupCalls i s) u ∧
      t = updateOverallStatusData i.icVersion u := by
  obtain ⟨u, hu, hlast⟩ := path_append_iff.mp ((path_setupScript_iff nw).mpr h)
  obtain ⟨v, hv, hnil⟩ := path_cons_iff.mp hlast
  obtain rfl := path_nil_iff.mp hnil
  exact ⟨u, hu, (Except.ok.inj hv).symm⟩

end ImuGamepad
