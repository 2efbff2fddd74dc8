import ImuGamepad.GamepadReport

/-!
# Runs of the gamepad

The calls of `BleGamepad` that change the inputs, and those that report them, in any order. With
`autoReport` every call but `resetButtons` reports what it has changed. Clients connect and
disconnect in between, and nothing is reported while none is connected.

## Main definitions

* `HidGamepad` — a gamepad whose services have been started
* `GamepadCall`, `HidGamepad.call` — the calls
* `HidGamepad.hostSees` — what a host makes of the published descriptor and the published report

## Main results

* `isPressed_iff` — a button is pressed if it has been since it was released
* `specialButton_iff` — the same for special buttons
* `run_ok_iff` — which runs go through
* `always_hostSees` — a host sees what was reported
-/

namespace ImuGamepad

open Bits Hid Runs

/-! ### The inputs -/

/-- A button and its bit, from a number between 1 and 128. -/
def buttonIndex (b : Byte) : Except GamepadFault (Fin 128) :=
  if h : 1 ≤ b.toNat ∧ b.toNat ≤ 128 then .ok ⟨b.toNat - 1, by omega⟩ else .error .buttonIndex

/-- `-32768` is no value of an axis. -/
def clampWord (v : BitVec 16) : BitVec 16 := if v = 0x8000 then 0x8001 else v

namespace HidInputs

/-- What the constructor leaves. -/
def new : HidInputs := ⟨fun _ => 0, 0, fun _ => 0, fun _ => 0, fun _ => 0⟩

/-- The byte of a button, -/
def index (i : Fin 128) : Fin 16 := ⟨i / 8, by omega⟩

/-- and its bit in there. -/
def bitmask (i : ℕ) : Byte := (1 : Byte) <<< (i % 8)

/-- The buttons after `press(b)`. -/
def press (b : Byte) (d : HidInputs) : Except GamepadFault HidInputs := do
  let i ← buttonIndex b
  return { d with
    buttons := Function.update d.buttons (index i) (d.buttons (index i) ||| bitmask i) }

/-- The buttons after `release(b)`. -/
def release (b : Byte) (d : HidInputs) : Except GamepadFault HidInputs := do
  let i ← buttonIndex b
  return { d with
    buttons := Function.update d.buttons (index i) (d.buttons (index i) &&& ~~~ bitmask i) }

/-- `isPressed(b)`. -/
def isPressed (b : Byte) (d : HidInputs) : Except GamepadFault Bool := do
  let i ← buttonIndex b
  return decide (0 < (bitmask i &&& d.buttons (index i)).toNat)

/-- The special buttons after `pressSpecialButton(b)`. -/
def pressSpecialButton (c : HidConfiguration) (b : Byte) (d : HidInputs) :
    Except GamepadFault HidInputs := do
  let button ← c.specialButtonBitPosition b
  return { d with specialButtons := d.specialButtons ||| bitmask button }

/-- The special buttons after `releaseSpecialButton(b)`. -/
def releaseSpecialButton (c : HidConfiguration) (b : Byte) (d : HidInputs) :
    Except GamepadFault HidInputs := do
  let button ← c.specialButtonBitPosition b
  return { d with specialButtons := d.specialButtons &&& ~~~ bitmask button }

/-- The buttons after `resetButtons()`. -/
def resetButtons (d : HidInputs) : HidInputs := { d with buttons := fun _ => 0 }

/-- Some axes are set. -/
def setAxes (values : List (Fin 8 × BitVec 16)) (d : HidInputs) : HidInputs :=
  { d with axes := values.foldl (fun axes v => Function.update axes v.1 (clampWord v.2)) d.axes }

/-- Some simulation controls are set. -/
def setSimulationControls (values : List (Fin 5 × BitVec 16)) (d : HidInputs) : HidInputs :=
  { d with
    simulationControls := values.foldl
      (fun controls v => Function.update controls v.1 (clampWord v.2)) d.simulationControls }

/-- Some hat switches are set, to a `signed char` each. -/
def setHats (values : List (Fin 4 × Byte)) (d : HidInputs) : HidInputs :=
  { d with
    hats := values.foldl (fun hats v => Function.update hats v.1 (v.2.signExtend 16)) d.hats }

end HidInputs

/-! ### The gamepad -/

/-- A `BleGamepad` once its services have been started. -/
structure HidGamepad where
  configuration : HidConfiguration
  globals : HidGlobals
  inputs : HidInputs
  /-- `connectionStatus->connected`. -/
  connected : Bool
  /-- The value of the input report's characteristic. -/
  inputGamepad : NimBLEAttValue

/-- The calls. -/
inductive GamepadCall
  | press (b : Byte)
  | release (b : Byte)
  | pressSpecialButton (b : Byte)
  | releaseSpecialButton (b : Byte)
  | resetButtons
  /-- A setter of some axes. -/
  | setAxis (values : List (Fin 8 × BitVec 16))
  /-- A setter of some simulation controls. -/
  | setSimulationControl (values : List (Fin 5 × BitVec 16))
  /-- A setter of some hat switches. -/
  | setHatSwitch (values : List (Fin 4 × Byte))
  | sendReport
  /-- A client connects, -/
  | onConnect
  /-- and disconnects. -/
  | onDisconnect

namespace GamepadCall

/-! The methods that set axes, simulation controls and hat switches. -/

def setAxes (x y z rZ rX rY s₁ s₂ : BitVec 16) : GamepadCall :=
  .setAxis [(xAxis, x), (yAxis, y), (zAxis, z), (rzAxis, rZ), (rxAxis, rX), (ryAxis, rY),
    (slider1, s₁), (slider2, s₂)]
def setLeftThumb (x y : BitVec 16) : GamepadCall := .setAxis [(xAxis, x), (yAxis, y)]
def setRightThumb (z rZ : BitVec 16) : GamepadCall := .setAxis [(zAxis, z), (rzAxis, rZ)]
def setLeftTrigger (rX : BitVec 16) : GamepadCall := .setAxis [(rxAxis, rX)]
def setRightTrigger (rY : BitVec 16) : GamepadCall := .setAxis [(ryAxis, rY)]
def setTriggers (rX rY : BitVec 16) : GamepadCall := .setAxis [(rxAxis, rX), (ryAxis, rY)]
def setSliders (s₁ s₂ : BitVec 16) : GamepadCall := .setAxis [(slider1, s₁), (slider2, s₂)]
def setX (x : BitVec 16) : GamepadCall := .setAxis [(xAxis, x)]
def setY (y : BitVec 16) : GamepadCall := .setAxis [(yAxis, y)]
def setZ (z : BitVec 16) : GamepadCall := .setAxis [(zAxis, z)]
def setRZ (rZ : BitVec 16) : GamepadCall := .setAxis [(rzAxis, rZ)]
def setRX (rX : BitVec 16) : GamepadCall := .setAxis [(rxAxis, rX)]
def setRY (rY : BitVec 16) : GamepadCall := .setAxis [(ryAxis, rY)]
def setSlider (s : BitVec 16) : GamepadCall := .setAxis [(slider1, s)]
def setSlider1 (s₁ : BitVec 16) : GamepadCall := .setAxis [(slider1, s₁)]
def setSlider2 (s₂ : BitVec 16) : GamepadCall := .setAxis [(slider2, s₂)]

def setSimulationControls (r t a b s : BitVec 16) : GamepadCall :=
  .setSimulationControl [(rudder, r), (throttle, t), (accelerator, a), (brake, b), (steering, s)]
def setRudder (r : BitVec 16) : GamepadCall := .setSimulationControl [(rudder, r)]
def setThrottle (t : BitVec 16) : GamepadCall := .setSimulationControl [(throttle, t)]
def setAccelerator (a : BitVec 16) : GamepadCall := .setSimulationControl [(accelerator, a)]
def setBrake (b : BitVec 16) : GamepadCall := .setSimulationControl [(brake, b)]
def setSteering (s : BitVec 16) : GamepadCall := .setSimulationControl [(steering, s)]

def setHats (h₁ h₂ h₃ h₄ : Byte) : GamepadCall :=
  .setHatSwitch [(0, h₁), (1, h₂), (2, h₃), (3, h₄)]
def setHat (h : Byte) : GamepadCall := .setHatSwitch [(0, h)]
def setHat1 (h₁ : Byte) : GamepadCall := .setHatSwitch [(0, h₁)]
def setHat2 (h₂ : Byte) : GamepadCall := .setHatSwitch [(1, h₂)]
def setHat3 (h₃ : Byte) : GamepadCall := .setHatSwitch [(2, h₃)]
def setHat4 (h₄ : Byte) : GamepadCall := .setHatSwitch [(3, h₄)]

/-- What a call does to the inputs. -/
def update (c : HidConfiguration) (d : HidInputs) : GamepadCall → Except GamepadFault HidInputs
  | press b => d.press b
  | release b => d.release b
  | pressSpecialButton b => d.pressSpecialButton c b
  | releaseSpecialButton b => d.releaseSpecialButton c b
  | resetButtons => .ok d.resetButtons
  | setAxis values => .ok (d.setAxes values)
  | setSimulationControl values => .ok (d.setSimulationControls values)
  | setHatSwitch values => .ok (d.setHats values)
  | sendReport => .ok d
  | onConnect => .ok d
  | onDisconnect => .ok d

/-- What it does to `connected`. -/
def connection (connected : Bool) : GamepadCall → Bool
  | onConnect => true
  | onDisconnect => false
  | _ => connected

/-- Whether it ends in a report. -/
def reports (c : HidConfiguration) : GamepadCall → Bool
  | resetButtons => false
  | sendReport => true
  | onConnect => false
  | onDisconnect => false
  | _ => c.autoReport

end GamepadCall

namespace HidGamepad

/-- After `begin(c)` on a fresh object, and with the services started. -/
def started (c : HidConfiguration) : Except GamepadFault HidGamepad := do
  let g ← HidGlobals.init.begin c
  return ⟨c, g, .new, false, .empty⟩

/-- `sendReport()`. -/
def sendReport (s : HidGamepad) : Except GamepadFault HidGamepad :=
  if s.connected then do
    let m ← s.inputs.report s.globals s.configuration
    return { s with inputGamepad := .setValue m }
  else .ok s

/-- One call. -/
def call (s : HidGamepad) (a : GamepadCall) : Except GamepadFault HidGamepad := do
  let d ← a.update s.configuration s.inputs
  let s := { s with inputs := d, connected := a.connection s.connected }
  if a.reports s.configuration then s.sendReport else .ok s

end HidGamepad

/-! ### Buttons -/

section

variable {d d' : HidInputs} {b : Byte}

@[simp] theorem getLsbD_bitmask (i k : ℕ) :
    (HidInputs.bitmask i).getLsbD k = decide (k = i % 8) := by
  rw [HidInputs.bitmask, BitVec.getLsbD_shiftLeft, show (1 : Byte) = 1#8 from rfl,
    BitVec.getLsbD_one]
  grind

theorem buttonIndex_eq_ok_iff {i : Fin 128} : buttonIndex b = .ok i ↔ b.toNat = i + 1 := by
  rw [buttonIndex]
  split
  · rw [Except.ok.injEq, Fin.ext_iff]
    simp only
    omega
  · constructor
    · intro h
      cases h
    · omega

/-- The bit of a button that is in the byte of another. -/
theorem getLsbD_index (d : HidInputs) {i : Fin 128} {j : ℕ} (h : j / 8 = i / 8) :
    (d.buttons (HidInputs.index i)).getLsbD (j % 8) = d.button j := by
  rw [HidInputs.button, dif_pos (by omega)]
  congr 2
  exact Fin.ext h.symm

/-- A byte of buttons is set. -/
theorem button_update (d : HidInputs) (i : Fin 128) (v : Byte) {j : ℕ} (hj : j < 128) :
    HidInputs.button { d with buttons := Function.update d.buttons (HidInputs.index i) v } j
      = if j / 8 = i / 8 then v.getLsbD (j % 8) else d.button j := by
  split
  · rename_i h
    rw [← getLsbD_index _ h]
    simp
  · rename_i h
    have hne : (⟨j / 8, by omega⟩ : Fin 16) ≠ HidInputs.index i := fun heq => h (Fin.ext_iff.mp heq)
    rw [HidInputs.button, HidInputs.button, dif_pos (by omega), dif_pos (by omega)]
    simp [hne]

/-- A press sets one button, -/
theorem button_press (h : d.press b = .ok d') {j : ℕ} (hj : j < 128) :
    d'.button j = (decide (b.toNat = j + 1) || d.button j) := by
  obtain ⟨i, hi, h⟩ := bind_eq_ok_iff.mp h
  obtain rfl := Except.ok.inj h
  rw [buttonIndex_eq_ok_iff] at hi
  rw [button_update d i _ hj]
  split
  · rename_i hbyte
    rw [BitVec.getLsbD_or, getLsbD_bitmask, getLsbD_index d hbyte, Bool.or_comm]
    congr 2
    exact propext (by omega)
  · rename_i hbyte
    rw [decide_eq_false (by rintro hb; exact hbyte (by omega)), Bool.false_or]

/-- a release clears it, -/
theorem button_release (h : d.release b = .ok d') {j : ℕ} (hj : j < 128) :
    d'.button j = (!decide (b.toNat = j + 1) && d.button j) := by
  obtain ⟨i, hi, h⟩ := bind_eq_ok_iff.mp h
  obtain rfl := Except.ok.inj h
  rw [buttonIndex_eq_ok_iff] at hi
  rw [button_update d i _ hj]
  split
  · rename_i hbyte
    rw [BitVec.getLsbD_and, BitVec.getLsbD_not, getLsbD_bitmask, getLsbD_index d hbyte,
      decide_eq_true (Nat.mod_lt j (by decide)), Bool.true_and, Bool.and_comm]
    congr 3
    exact propext (by omega)
  · rename_i hbyte
    rw [decide_eq_false (by rintro hb; exact hbyte (by omega)), Bool.not_false, Bool.true_and]

/-- and `isPressed` reads it. -/
theorem isPressed_eq (hb : 1 ≤ b.toNat ∧ b.toNat ≤ 128) :
    d.isPressed b = .ok (d.button (b.toNat - 1)) := by
  have hindex : buttonIndex b = .ok ⟨b.toNat - 1, by omega⟩ := dif_pos hb
  rw [HidInputs.isPressed, hindex]
  refine congrArg Except.ok ?_
  rw [← getLsbD_index d (i := ⟨b.toNat - 1, by omega⟩) rfl]
  generalize d.buttons _ = v
  rw [Bool.eq_iff_iff, decide_eq_true_iff]
  constructor
  · intro hpos
    by_contra hclear
    have hzero : HidInputs.bitmask (b.toNat - 1) &&& v = 0 := by
      refine BitVec.eq_of_getLsbD_eq fun k hk => ?_
      rw [BitVec.getLsbD_and, getLsbD_bitmask]
      grind
    rw [hzero] at hpos
    cases hpos
  · intro hset
    refine Nat.pos_of_ne_zero fun hzero => ?_
    have hbit : (HidInputs.bitmask (b.toNat - 1) &&& v).getLsbD ((b.toNat - 1) % 8) = true := by
      rw [BitVec.getLsbD_and, getLsbD_bitmask, hset, decide_eq_true rfl, Bool.and_true]
    rw [BitVec.eq_of_toNat_eq (y := 0) hzero] at hbit
    simp at hbit

end

/-! ### Special buttons -/

section

variable {c : HidConfiguration} {d d' : HidInputs} {b : Byte}

theorem bitPosition_lt (c : HidConfiguration) (b : Fin 8) : c.bitPosition b < 8 := by
  have hle : c.bitPosition b ≤ ((List.finRange 8).take b).length := by
    rw [HidConfiguration.bitPosition, countSet_eq_countP]
    exact List.countP_le_length
  rw [List.length_take] at hle
  omega

theorem specialButtonBitPosition_lt {k : ℕ} (h : c.specialButtonBitPosition b = .ok k) :
    k < 8 := by
  rw [HidConfiguration.specialButtonBitPosition] at h
  split at h
  · obtain rfl := Except.ok.inj h
    exact bitPosition_lt c _
  · cases h

/-- A press sets the bit of a special button, -/
theorem pressSpecialButton_bit (h : d.pressSpecialButton c b = .ok d') (k : ℕ) :
    d'.specialButtons.getLsbD k
      = (decide (c.specialButtonBitPosition b = .ok k) || d.specialButtons.getLsbD k) := by
  obtain ⟨i, hi, h⟩ := bind_eq_ok_iff.mp h
  obtain rfl := Except.ok.inj h
  have hlt := specialButtonBitPosition_lt hi
  rw [BitVec.getLsbD_or, getLsbD_bitmask, Nat.mod_eq_of_lt hlt, hi, Bool.or_comm]
  simp [eq_comm]

/-- and a release clears it. -/
theorem releaseSpecialButton_bit (h : d.releaseSpecialButton c b = .ok d') (k : ℕ) :
    d'.specialButtons.getLsbD k
      = (!decide (c.specialButtonBitPosition b = .ok k) && d.specialButtons.getLsbD k) := by
  obtain ⟨i, hi, h⟩ := bind_eq_ok_iff.mp h
  obtain rfl := Except.ok.inj h
  have hlt := specialButtonBitPosition_lt hi
  rw [BitVec.getLsbD_and, BitVec.getLsbD_not, getLsbD_bitmask, Nat.mod_eq_of_lt hlt, hi]
  by_cases hk : k < 8
  · simp [hk, Bool.and_comm, eq_comm]
  · rw [BitVec.getLsbD_of_ge d.specialButtons k (by omega)]
    simp

/-- The included buttons between two positions. -/
theorem bitPosition_add {b b' : Fin 8} (h : b' ≤ b) :
    c.bitPosition b = c.bitPosition b'
      + ((List.finRange 8).filter fun i => b' ≤ i ∧ i < b).countP c.whichSpecialButtons := by
  have hsplit : ∀ b' b : Fin 8, b' ≤ b → (List.finRange 8).take b
      = (List.finRange 8).take b' ++ (List.finRange 8).filter fun i => b' ≤ i ∧ i < b := by decide
  rw [HidConfiguration.bitPosition, HidConfiguration.bitPosition, countSet_eq_countP,
    countSet_eq_countP, hsplit b' b h, List.countP_append]

/-- A special button acts on an included one: it is this one, or none between them is included, nor
itself. -/
def ActsOn (c : HidConfiguration) (b : Fin 8) (b' : Byte) : Prop :=
  b'.toNat ≤ b ∧ ∀ i : Fin 8, b'.toNat ≤ i → i < b → c.whichSpecialButtons i = false

/-- It does so through the position it computes. -/
theorem specialButtonBitPosition_eq_ok_iff {b : Fin 8} (hb : c.whichSpecialButtons b = true)
    {b' : Byte} : c.specialButtonBitPosition b' = .ok (c.bitPosition b) ↔ ActsOn c b b' := by
  rw [HidConfiguration.specialButtonBitPosition, ActsOn]
  split
  · rename_i hlt
    rw [Except.ok.injEq]
    rcases le_or_gt (⟨b'.toNat, hlt⟩ : Fin 8) b with hle | hgt
    · have hadd := bitPosition_add (c := c) hle
      have hzero : ((List.finRange 8).filter fun i => (⟨b'.toNat, hlt⟩ : Fin 8) ≤ i ∧ i < b).countP
          c.whichSpecialButtons = 0 ↔ ∀ i : Fin 8, b'.toNat ≤ i → i < b →
            c.whichSpecialButtons i = false := by
        simp only [List.countP_eq_zero, List.mem_filter, List.mem_finRange, true_and,
          decide_eq_true_iff, Bool.not_eq_true, and_imp, Fin.le_def]
      rw [← hzero]
      exact ⟨fun h => ⟨hle, by omega⟩, fun h => by omega⟩
    · have hadd := bitPosition_add (c := c) hgt.le
      have hpos : 0 < ((List.finRange 8).filter fun i => b ≤ i ∧ i < ⟨b'.toNat, hlt⟩).countP
          c.whichSpecialButtons :=
        List.countP_pos_iff.mpr ⟨b, by simpa using hgt, hb⟩
      have hnot : ¬ b'.toNat ≤ b := not_le_of_gt hgt
      exact ⟨fun h => by omega, fun h => absurd h.1 hnot⟩
  · rename_i hge
    constructor
    · intro h
      cases h
    · intro h
      have := b.isLt
      have := h.1
      omega

end

/-! ### What has been pressed since -/

namespace GamepadCall

/-- A press of a special button that has some bit. -/
def PressesBit (c : HidConfiguration) (k : ℕ) (a : GamepadCall) : Prop :=
  ∃ b, a = pressSpecialButton b ∧ c.specialButtonBitPosition b = .ok k

/-- And a release. -/
def ReleasesBit (c : HidConfiguration) (k : ℕ) (a : GamepadCall) : Prop :=
  ∃ b, a = releaseSpecialButton b ∧ c.specialButtonBitPosition b = .ok k

/-- A release of a button, or of all of them. -/
def Releases (b : Byte) (a : GamepadCall) : Prop := a = release b ∨ a = resetButtons

end GamepadCall

open GamepadCall

section

variable {c : HidConfiguration} {d d' : HidInputs} {a : GamepadCall}

/-- What one call does to a button, -/
theorem button_update_call (h : a.update c d = .ok d') {b : Byte}
    (hb : 1 ≤ b.toNat ∧ b.toNat ≤ 128) :
    d'.button (b.toNat - 1) = true ↔
      a = press b ∨ (¬ Releases b a ∧ d.button (b.toNat - 1) = true) := by
  have hnumber (b' : Byte) : b'.toNat = b.toNat - 1 + 1 ↔ b' = b := by
    rw [Nat.sub_add_cancel hb.1, BitVec.toNat_inj]
  cases a with
  | press b' =>
    rw [button_press h (by omega), Bool.or_eq_true, decide_eq_true_iff, hnumber]
    simp [Releases]
  | release b' =>
    rw [button_release h (by omega), Bool.and_eq_true, Bool.not_eq_true', decide_eq_false_iff_not,
      hnumber]
    simp [Releases]
  | resetButtons =>
    obtain rfl := Except.ok.inj h
    simp [Releases, HidInputs.resetButtons, HidInputs.button]
  | pressSpecialButton b' =>
    obtain ⟨i, -, h⟩ := bind_eq_ok_iff.mp h
    obtain rfl := Except.ok.inj h
    simp [Releases, HidInputs.button]
  | releaseSpecialButton b' =>
    obtain ⟨i, -, h⟩ := bind_eq_ok_iff.mp h
    obtain rfl := Except.ok.inj h
    simp [Releases, HidInputs.button]
  | setAxis | setSimulationControl | setHatSwitch | sendReport | onConnect | onDisconnect =>
    obtain rfl := Except.ok.inj h
    simp [Releases, HidInputs.button, HidInputs.setAxes, HidInputs.setSimulationControls,
      HidInputs.setHats]

/-- and to the bit of a special button. -/
theorem specialButtons_update_call (h : a.update c d = .ok d') (k : ℕ) :
    d'.specialButtons.getLsbD k = true ↔
      PressesBit c k a ∨ (¬ ReleasesBit c k a ∧ d.specialButtons.getLsbD k = true) := by
  cases a with
  | pressSpecialButton b' =>
    rw [pressSpecialButton_bit h, Bool.or_eq_true, decide_eq_true_iff]
    simp [PressesBit, ReleasesBit]
  | releaseSpecialButton b' =>
    rw [releaseSpecialButton_bit h, Bool.and_eq_true, Bool.not_eq_true', decide_eq_false_iff_not]
    simp [PressesBit, ReleasesBit]
  | press b' | release b' =>
    obtain ⟨i, -, h⟩ := bind_eq_ok_iff.mp h
    obtain rfl := Except.ok.inj h
    simp [PressesBit, ReleasesBit]
  | resetButtons | setAxis | setSimulationControl | setHatSwitch | sendReport | onConnect
  | onDisconnect =>
    obtain rfl := Except.ok.inj h
    simp [PressesBit, ReleasesBit, HidInputs.resetButtons, HidInputs.setAxes,
      HidInputs.setSimulationControls, HidInputs.setHats]

/-- What the buttons should be after some calls. -/
structure ButtonsLaw (c : HidConfiguration) (trace : List GamepadCall) (d : HidInputs) : Prop where
  buttons : ∀ b : Byte, 1 ≤ b.toNat ∧ b.toNat ≤ 128 →
    (d.button (b.toNat - 1) = true ↔ Since (· = press b) (Releases b) trace)
  specialButtons : ∀ k,
    d.specialButtons.getLsbD k = true ↔ Since (PressesBit c k) (ReleasesBit c k) trace

theorem buttonsLaw_new (c : HidConfiguration) : ButtonsLaw c [] .new := by
  constructor
  · intro b hb
    simp [HidInputs.button, HidInputs.new]
  · intro k
    simp [HidInputs.new]

/-- One call keeps the law. -/
theorem ButtonsLaw.concat {trace : List GamepadCall} (hlaw : ButtonsLaw c trace d)
    (h : a.update c d = .ok d') : ButtonsLaw c (trace ++ [a]) d' := by
  constructor
  · intro b hb
    rw [button_update_call h hb, since_concat, hlaw.buttons b hb]
  · intro k
    rw [specialButtons_update_call h, since_concat, hlaw.specialButtons k]

end

/-! ### Runs -/

namespace HidGamepad

variable {c : HidConfiguration} {s t : HidGamepad} {a : GamepadCall} {as : List GamepadCall}

/-- A call that reports does not change the connection. -/
theorem connection_of_reports (h : a.reports c) (connected : Bool) :
    a.connection connected = connected := by
  cases a with
  | onConnect | onDisconnect => cases h
  | _ => rfl

/-- **What a call can do.** -/
theorem call_eq_ok_iff :
    s.call a = .ok t ↔
      t.configuration = s.configuration ∧ t.globals = s.globals ∧
        a.update s.configuration s.inputs = .ok t.inputs ∧
        t.connected = a.connection s.connected ∧
        if a.reports s.configuration ∧ s.connected then
          ∃ m, t.inputs.report s.globals s.configuration = .ok m ∧ t.inputGamepad = .setValue m
        else t.inputGamepad = s.inputGamepad := by
  obtain ⟨c, g, d, connected, value⟩ := t
  by_cases hreports : a.reports s.configuration
  · have hcall : s.call a = a.update s.configuration s.inputs >>= fun d =>
        sendReport { s with inputs := d } := by
      simp only [call, hreports, if_true, connection_of_reports hreports]
    rw [hcall, bind_eq_ok_iff, connection_of_reports hreports]
    by_cases hconnected : s.connected
    · simp only [sendReport, hconnected, hreports, if_true, and_self, bind_eq_ok_iff]
      constructor
      · rintro ⟨d', hd, m, hm, h⟩
        cases Except.ok.inj h
        exact ⟨rfl, rfl, hd, rfl, m, hm, rfl⟩
      · rintro ⟨rfl, rfl, hd, rfl, m, hm, rfl⟩
        exact ⟨d, hd, m, hm, rfl⟩
    · simp only [sendReport, hconnected, hreports, and_false, if_false, Bool.false_eq_true,
        Except.ok.injEq]
      constructor
      · rintro ⟨d', hd, h⟩
        cases h
        exact ⟨rfl, rfl, hd, by simp, rfl⟩
      · rintro ⟨rfl, rfl, hd, rfl, rfl⟩
        exact ⟨d, hd, by simp⟩
  · have hcall : s.call a = a.update s.configuration s.inputs >>= fun d =>
        .ok { s with inputs := d, connected := a.connection s.connected } := by
      simp only [call, hreports, if_false, Bool.false_eq_true]
    rw [hcall, bind_eq_ok_iff, if_neg fun h => hreports h.1]
    constructor
    · rintro ⟨d', hd, h⟩
      cases Except.ok.inj h
      exact ⟨rfl, rfl, hd, rfl, rfl⟩
    · rintro ⟨rfl, rfl, hd, rfl, rfl⟩
      exact ⟨d, hd, rfl⟩

/-- What holds of the state after every run from `started`. -/
structure Invariant (c : HidConfiguration) (trace : List GamepadCall) (s : HidGamepad) : Prop where
  configuration : s.configuration = c
  begin : HidGlobals.init.begin c = .ok s.globals
  buttons : ButtonsLaw c trace s.inputs
  connected : s.connected = true ↔ Since (· = onConnect) (· = onDisconnect) trace

theorem invariant_started (h : started c = .ok s) : Invariant c [] s := by
  obtain ⟨g, hg, h⟩ := bind_eq_ok_iff.mp h
  obtain rfl := Except.ok.inj h
  exact ⟨rfl, hg, buttonsLaw_new c, by simp⟩

theorem Invariant.concat {trace : List GamepadCall} (hinv : Invariant c trace s)
    (h : s.call a = .ok t) : Invariant c (trace ++ [a]) t := by
  obtain ⟨hconfiguration, hglobals, hupdate, hconnected, -⟩ := call_eq_ok_iff.mp h
  obtain ⟨rfl, hbegin, hbuttons, hsince⟩ := hinv
  refine ⟨hconfiguration, hglobals ▸ hbegin, hbuttons.concat hupdate, ?_⟩
  rw [since_concat, ← hsince, hconnected]
  cases a with
  | _ => simp [connection]

theorem invariant_run (hstart : started c = .ok s) (hrun : Path (OkStep call) s as t) :
    Invariant c as t :=
  hrun.traced_invariant (invariant_started hstart) fun _ _ _ _ hinv hstep => hinv.concat hstep

end HidGamepad

/-! ### Which runs go through -/

namespace GamepadCall

/-- The button that a call names is there. -/
def Valid : GamepadCall → Prop
  | press b | release b => 1 ≤ b.toNat ∧ b.toNat ≤ 128
  | pressSpecialButton b | releaseSpecialButton b => b.toNat < 8
  | _ => True

theorem update_ok_iff {c : HidConfiguration} {d : HidInputs} {a : GamepadCall} :
    (∃ d', a.update c d = .ok d') ↔ a.Valid := by
  have hbutton (b : Byte) : (∃ i, buttonIndex b = .ok i) ↔ 1 ≤ b.toNat ∧ b.toNat ≤ 128 := by
    rw [buttonIndex]
    split <;> simp [*]
  have hspecial (b : Byte) :
      (∃ i, c.specialButtonBitPosition b = .ok i) ↔ b.toNat < 8 := by
    rw [HidConfiguration.specialButtonBitPosition]
    split <;> simp [*]
  cases a with
  | press b | release b =>
    rw [Valid, ← hbutton]
    simp [update, HidInputs.press, HidInputs.release, bind_eq_ok_iff, pure, Except.pure]
  | pressSpecialButton b | releaseSpecialButton b =>
    rw [Valid, ← hspecial]
    simp [update, HidInputs.pressSpecialButton, HidInputs.releaseSpecialButton, bind_eq_ok_iff,
      pure, Except.pure]
  | _ => simp [Valid, update]

end GamepadCall

namespace HidGamepad

variable {c : HidConfiguration} {s t : HidGamepad} {as : List GamepadCall}

theorem Invariant.call_ok_iff {trace : List GamepadCall} (hinv : Invariant c trace s)
    {a : GamepadCall} :
    (∃ t, s.call a = .ok t) ↔ a.Valid ∧
      (c.Fits ∨ (a.reports c → ¬ Since (· = onConnect) (· = onDisconnect) trace)) := by
  obtain ⟨rfl, hbegin, -, hconnected⟩ := hinv
  obtain ⟨-, hsize, hbuttons⟩ := HidGlobals.begin_eq_ok_iff.mp hbegin
  rw [← hconnected, ← update_ok_iff (c := s.configuration) (d := s.inputs)]
  constructor
  · rintro ⟨t, ht⟩
    obtain ⟨-, -, hupdate, -, hvalue⟩ := call_eq_ok_iff.mp ht
    refine ⟨⟨_, hupdate⟩, ?_⟩
    by_cases hreports : a.reports s.configuration ∧ s.connected
    · rw [if_pos hreports] at hvalue
      obtain ⟨m, hm, -⟩ := hvalue
      exact Or.inl ((t.inputs.report_eq_ok_iff _ hsize hbuttons).mp hm).1
    · exact Or.inr fun h h' => hreports ⟨h, h'⟩
  · rintro ⟨⟨d, hupdate⟩, hfits⟩
    by_cases hreports : a.reports s.configuration ∧ s.connected
    · have hfits := hfits.resolve_right fun h => h hreports.1 hreports.2
      have hreport := (d.report_eq_ok_iff _ hsize hbuttons).mpr ⟨hfits, rfl⟩
      refine ⟨⟨_, _, d, a.connection s.connected, .setValue (d.reportBytes s.configuration)⟩,
        call_eq_ok_iff.mpr ⟨rfl, rfl, hupdate, rfl, ?_⟩⟩
      rw [if_pos hreports]
      exact ⟨_, hreport, rfl⟩
    · refine ⟨⟨_, _, d, a.connection s.connected, s.inputGamepad⟩,
        call_eq_ok_iff.mpr ⟨rfl, rfl, hupdate, rfl, ?_⟩⟩
      rw [if_neg hreports]

/-- `begin` goes through where the descriptor fits. -/
theorem exists_started (h : (hidReportDescriptor c).length ≤ 150) : ∃ s, started c = .ok s :=
  ⟨_, bind_eq_ok_iff.mpr ⟨_, HidGlobals.begin_of_le (g := .init) h, rfl⟩⟩

/-- **Which runs go through.** The calls must name buttons that are there, and unless reports fit
none may be sent while a client is connected. -/
theorem run_ok_iff (hstart : started c = .ok s) :
    (∃ t, Path (OkStep call) s as t) ↔
      (∀ a ∈ as, a.Valid) ∧ (c.Fits ∨ ∀ pre a, pre ++ [a] <+: as → a.reports c →
        ¬ Since (· = onConnect) (· = onDisconnect) pre) := by
  induction as using List.reverseRecOn with
  | nil => simp
  | append_singleton as a ih =>
    have hconcat : (∃ t, Path (OkStep call) s (as ++ [a]) t) ↔
        (∃ u, Path (OkStep call) s as u) ∧ a.Valid ∧
          (c.Fits ∨ (a.reports c → ¬ Since (· = onConnect) (· = onDisconnect) as)) := by
      simp only [path_concat_iff]
      constructor
      · rintro ⟨t, u, hpath, ht⟩
        exact ⟨⟨u, hpath⟩, (invariant_run hstart hpath).call_ok_iff.mp ⟨t, ht⟩⟩
      · rintro ⟨⟨u, hpath⟩, hcall⟩
        obtain ⟨t, ht⟩ := (invariant_run hstart hpath).call_ok_iff.mpr hcall
        exact ⟨t, u, hpath, ht⟩
    have hprefix : (∀ pre b, pre ++ [b] <+: as ++ [a] → b.reports c →
        ¬ Since (· = onConnect) (· = onDisconnect) pre) ↔
        (∀ pre b, pre ++ [b] <+: as → b.reports c →
          ¬ Since (· = onConnect) (· = onDisconnect) pre) ∧
        (a.reports c → ¬ Since (· = onConnect) (· = onDisconnect) as) := by
      constructor
      · intro h
        exact ⟨fun pre b hpre => h pre b (hpre.trans (List.prefix_append as [a])),
          h as a List.prefix_rfl⟩
      · rintro ⟨h, hlast⟩ pre b hpre
        rcases List.prefix_concat_iff.mp hpre with heq | hpre
        · obtain ⟨rfl, rfl⟩ : pre = as ∧ b = a := by simpa using List.append_inj' heq rfl
          exact hlast
        · exact h pre b hpre
    have hvalid : (∀ b ∈ as ++ [a], b.Valid) ↔ (∀ b ∈ as, b.Valid) ∧ a.Valid := by
      simp [or_imp, forall_and]
    rw [hconcat, ih, hprefix, hvalid, or_and_left]
    exact ⟨fun ⟨⟨h₁, h₂⟩, h₃, h₄⟩ => ⟨⟨h₁, h₃⟩, h₂, h₄⟩, fun ⟨⟨h₁, h₃⟩, h₂, h₄⟩ =>
      ⟨⟨h₁, h₂⟩, h₃, h₄⟩⟩

/-- A button is pressed before and after a client connects. -/
theorem run_ok_iff_new :
    ∃ s, started BleGamepadConfiguration.new.hid = .ok s ∧
      ((∃ t, Path (OkStep call) s [press 1, onConnect, press 2] t) ↔
        (∀ a ∈ [press 1, onConnect, press 2], a.Valid) ∧
          (BleGamepadConfiguration.new.hid.Fits ∨
            ∀ pre a, pre ++ [a] <+: [press 1, onConnect, press 2] →
              a.reports BleGamepadConfiguration.new.hid →
              ¬ Since (· = onConnect) (· = onDisconnect) pre)) := by
  obtain ⟨s, hs⟩ := exists_started (c := BleGamepadConfiguration.new.hid) (by decide +kernel)
  exact ⟨s, hs, run_ok_iff hs⟩

/-! ### Pressed buttons -/

/-- **A button is pressed** exactly if it has been pressed since it was last released, or all
buttons were reset. -/
theorem isPressed_iff (hstart : started c = .ok s) (hrun : Path (OkStep call) s as t) {b : Byte}
    (hb : 1 ≤ b.toNat ∧ b.toNat ≤ 128) :
    t.inputs.isPressed b = .ok true ↔ Since (· = press b) (Releases b) as := by
  rw [isPressed_eq hb, Except.ok.injEq, (invariant_run hstart hrun).buttons.buttons b hb]

/-- Button 1 is pressed. -/
theorem isPressed_iff_new :
    ∃ s t, started BleGamepadConfiguration.new.hid = .ok s ∧
      Path (OkStep call) s [press 1] t ∧
      (t.inputs.isPressed 1 = .ok true ↔ Since (· = press 1) (Releases 1) [press 1]) := by
  obtain ⟨s, hs⟩ := exists_started (c := BleGamepadConfiguration.new.hid) (by decide +kernel)
  obtain ⟨t, ht⟩ := (invariant_started hs).call_ok_iff (a := press 1) |>.mpr
    ⟨⟨by decide, by decide⟩, Or.inr fun _ => not_since_nil _ _⟩
  exact ⟨s, t, hs, .cons ht (.nil t), isPressed_iff hs (.cons ht (.nil t)) (by decide)⟩

/-- **An included special button is pressed** exactly if a special button that acts on it has been
pressed since one was last released. -/
theorem specialButton_iff (hstart : started c = .ok s) (hrun : Path (OkStep call) s as t)
    {b : Fin 8} (hb : c.whichSpecialButtons b = true) :
    t.inputs.specialButtons.getLsbD (c.bitPosition b) = true ↔
      Since (fun a => ∃ b', a = pressSpecialButton b' ∧ ActsOn c b b')
        (fun a => ∃ b', a = releaseSpecialButton b' ∧ ActsOn c b b') as := by
  have hpresses : PressesBit c (c.bitPosition b)
      = fun a => ∃ b', a = pressSpecialButton b' ∧ ActsOn c b b' := by
    funext a
    simp only [PressesBit, specialButtonBitPosition_eq_ok_iff hb]
  have hreleases : ReleasesBit c (c.bitPosition b)
      = fun a => ∃ b', a = releaseSpecialButton b' ∧ ActsOn c b b' := by
    funext a
    simp only [ReleasesBit, specialButtonBitPosition_eq_ok_iff hb]
  rw [(invariant_run hstart hrun).buttons.specialButtons, hpresses, hreleases]

/-- Only Volume Decrement is included, and Volume Increment is pressed. -/
theorem specialButton_iff_volume :
    let c := { BleGamepadConfiguration.new.hid with
      whichSpecialButtons := fun i => i = volumeDecButton }
    ∃ s t, started c = .ok s ∧ Path (OkStep call) s [pressSpecialButton 5] t ∧
      (t.inputs.specialButtons.getLsbD (c.bitPosition volumeDecButton) = true ↔
        Since (fun a => ∃ b', a = pressSpecialButton b' ∧ ActsOn c volumeDecButton b')
          (fun a => ∃ b', a = releaseSpecialButton b' ∧ ActsOn c volumeDecButton b')
          [pressSpecialButton 5]) := by
  intro c
  obtain ⟨s, hs⟩ := exists_started (c := c) (by decide +kernel)
  obtain ⟨t, ht⟩ := (invariant_started hs).call_ok_iff (a := pressSpecialButton 5) |>.mpr
    ⟨show (5 : Byte).toNat < 8 by decide, Or.inr fun _ => not_since_nil _ _⟩
  exact ⟨s, t, hs, .cons ht (.nil t), specialButton_iff hs (.cons ht (.nil t)) (by decide)⟩

/-! ### The host -/

/-- What a host makes of the descriptor and of the report that are published. -/
def hostSees (s : HidGamepad) : Option (List (Usage × Option ℤ)) :=
  (Hid.fields s.globals.tempHidReportDescriptor).map fun fs =>
    decode (inputReport s.configuration.hidReportId.toNat fs) (bits s.inputGamepad.bytes)

/-- A report of the inputs shows them. -/
theorem hostSees_of_report (hcount : s.configuration.buttonCount.toNat < 256)
    (hbegin : HidGlobals.init.begin s.configuration = .ok s.globals) {m : List Byte}
    (hreport : s.inputs.report s.globals s.configuration = .ok m)
    (hvalue : s.inputGamepad = .setValue m) :
    s.hostSees = some (s.inputs.seen s.configuration) := by
  obtain ⟨hbytes, hsize, hbuttons⟩ := HidGlobals.begin_eq_ok_iff.mp hbegin
  obtain ⟨hfits, rfl⟩ := (s.inputs.report_eq_ok_iff _ hsize hbuttons).mp hreport
  have hlength : (s.inputs.reportBytes s.configuration).length ≤ 512 := by
    have := hfits.byte
    rw [HidInputs.length_reportBytes]
    omega
  have hfields : Hid.fields s.globals.tempHidReportDescriptor
      = some (s.configuration.inputFields ++ s.configuration.outputFields) := by
    rw [hbytes]
    exact hidReportDescriptor_fields _ hcount
  rw [hostSees, hfields, hvalue, NimBLEAttValue.bytes_setValue hlength, Option.map_some,
    HidConfiguration.inputReport_fields, s.inputs.decode_reportBytes _ hcount]

/-- **A host sees what was reported.** In every run, a call that reports while a client is connected
shows the host the inputs as they are then. No other call changes the report. -/
theorem always_hostSees (hcount : c.buttonCount.toNat < 256) (hstart : started c = .ok s) :
    Always (OkStep call) (fun u a v => if a.reports c ∧ u.connected then
      v.hostSees = some (v.inputs.seen c) else v.inputGamepad = u.inputGamepad) s as := by
  have hinit := invariant_started hstart
  refine Always.of_invariant
    (I := fun u => u.configuration = c ∧ HidGlobals.init.begin c = .ok u.globals)
    ⟨hinit.configuration, hinit.begin⟩ fun u a v hu hstep => ?_
  obtain ⟨rfl, hbegin⟩ := hu
  obtain ⟨hconfiguration, hglobals, -, -, hvalue⟩ := call_eq_ok_iff.mp hstep
  rw [← hglobals] at hbegin hvalue
  rw [← hconfiguration] at hbegin hcount hvalue ⊢
  refine ⟨⟨rfl, hbegin⟩, ?_⟩
  split
  · rename_i hreports
    rw [if_pos hreports] at hvalue
    obtain ⟨m, hm, hvalue⟩ := hvalue
    exact hostSees_of_report hcount hbegin hm hvalue
  · rename_i hreports
    rwa [if_neg hreports] at hvalue

/-- A client connects, and the hat switch is set. -/
theorem always_hostSees_new :
    ∃ s, started BleGamepadConfiguration.new.hid = .ok s ∧
      Always (OkStep call) (fun u a v =>
        if a.reports BleGamepadConfiguration.new.hid ∧ u.connected then
          v.hostSees = some (v.inputs.seen BleGamepadConfiguration.new.hid)
        else v.inputGamepad = u.inputGamepad) s [onConnect, setHat 3] := by
  obtain ⟨s, hs⟩ := exists_started (c := BleGamepadConfiguration.new.hid) (by decide +kernel)
  exact ⟨s, hs, always_hostSees (by decide) hs⟩

end HidGamepad

end ImuGamepad
