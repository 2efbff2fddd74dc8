import ImuGamepad.BleGamepad
import ImuGamepad.Library.Hid
import ImuGamepad.Library.Runs
import Mathlib.Data.List.FinRange

/-!
# The HID report descriptor

`BleGamepad::begin` writes a report descriptor from the configuration, into a global buffer of 150
bytes behind what earlier calls of `begin` have written there, and computes the size of the reports.
`taskServer` publishes the buffer as the report map.

Each part of the descriptor is a definition of its own, in the order `begin` writes them. The part
of a group of usages is the table of the group, without the usages that are not included.

## Main definitions

* `HidConfiguration` — the configuration, with what only the HID part of the gamepad reads
* `hidReportDescriptor` — what a call of `begin` writes
* `HidConfiguration.reportSize` — the size that it computes
* `HidGlobals.begin` — the call, on the buffer
* `HidConfiguration.inputFields`, `outputFields` — the fields a host should find

## Main results

* `hidReportDescriptor_fields` — and does find
* `HidConfiguration.inputBits_inputFields` — together they are as long as a report
* `HidGlobals.begins_ok_iff` — when the descriptors of all calls fit
* `HidGlobals.begins_inputBits` — whether they still describe the reports
-/

namespace ImuGamepad

open Bits Hid

/-! ### The configuration -/

/-- `BleGamepadConfiguration`, with the fields that only the HID part reads. -/
structure HidConfiguration extends BleGamepadConfiguration where
  hidReportId : Byte
  whichSpecialButtons : Fin 8 → Bool
  whichAxes : Fin 8 → Bool
  whichSimulationControls : Fin 5 → Bool
  simulationMin : BitVec 16
  simulationMax : BitVec 16
  enableOutputReport : Bool
  outputReportLength : BitVec 16

/-- A configuration in which these are as the constructor leaves them. -/
def BleGamepadConfiguration.hid (c : BleGamepadConfiguration) : HidConfiguration :=
  { c with
    hidReportId := 3
    whichSpecialButtons := fun _ => false
    whichAxes := fun _ => true
    whichSimulationControls := fun _ => false
    simulationMin := 0
    simulationMax := 0x7FFF
    enableOutputReport := false
    outputReportLength := 64 }

def startButton : Fin 8 := 0
def selectButton : Fin 8 := 1
def menuButton : Fin 8 := 2
def homeButton : Fin 8 := 3
def backButton : Fin 8 := 4
def volumeIncButton : Fin 8 := 5
def volumeDecButton : Fin 8 := 6
def volumeMuteButton : Fin 8 := 7

def xAxis : Fin 8 := 0
def yAxis : Fin 8 := 1
def zAxis : Fin 8 := 2
def rxAxis : Fin 8 := 3
def ryAxis : Fin 8 := 4
def rzAxis : Fin 8 := 5
def slider1 : Fin 8 := 6
def slider2 : Fin 8 := 7

def rudder : Fin 5 := 0
def throttle : Fin 5 := 1
def accelerator : Fin 5 := 2
def brake : Fin 5 := 3
def steering : Fin 5 := 4

namespace HidConfiguration

/-- A loop that counts the flags set among some of an array. -/
def countSet {n : ℕ} (which : Fin n → Bool) (indices : List (Fin n)) : ℕ :=
  indices.foldl (fun count i => count + (which i).toNat) 0

variable (c : HidConfiguration)

def getTotalSpecialButtonCount : ℕ := countSet c.whichSpecialButtons (List.finRange 8)
def getDesktopSpecialButtonCount : ℕ := countSet c.whichSpecialButtons [0, 1, 2]
def getConsumerSpecialButtonCount : ℕ := countSet c.whichSpecialButtons [3, 4, 5, 6, 7]
def getAxisCount : ℕ := countSet c.whichAxes (List.finRange 8)
def getSimulationCount : ℕ := countSet c.whichSimulationControls (List.finRange 5)

/-! ### What `begin` computes -/

/-- The bits that are missing from the last byte. -/
def paddingBits (count : ℕ) : ℕ := if 8 - count % 8 = 8 then 0 else 8 - count % 8

/-- The bytes that hold so many bits, with the padding. -/
def bytesFor (count : ℕ) : ℕ := count / 8 + if 0 < paddingBits count then 1 else 0

/-- `numOfButtonBytes`, in one byte. -/
def numOfButtonBytes : Byte := BitVec.ofNat 8 (bytesFor c.buttonCount.toNat)

def numOfSpecialButtonBytes : ℕ := bytesFor c.getTotalSpecialButtonCount
def numOfAxisBytes : ℕ := c.getAxisCount * 2
def numOfSimulationBytes : ℕ := c.getSimulationCount * 2

/-- `reportSize`, in one byte. -/
def reportSize : Byte :=
  BitVec.ofNat 8 (c.numOfButtonBytes.toNat + c.numOfSpecialButtonBytes + c.numOfAxisBytes
    + c.numOfSimulationBytes + c.hatSwitchCount.toNat)

end HidConfiguration

/-! ### What `begin` writes -/

/-- `lowByte(w)`. -/
def lowByte (w : BitVec 16) : Byte := w.setWidth 8

/-- `highByte(w)`. -/
def highByte (w : BitVec 16) : Byte := (w >>> 8).setWidth 8

/-- The items of the usages that are included. -/
def usageItems {n : ℕ} (which : Fin n → Bool) (table : List (Fin n × List Byte)) : List Byte :=
  (table.filter fun entry => which entry.1).flatMap Prod.snd

/-- Start, Select and App Menu. -/
def desktopUsages : List (Fin 8 × List Byte) :=
  [(startButton, [0x09, 0x3D]), (selectButton, [0x09, 0x3E]), (menuButton, [0x09, 0x86])]

/-- Home, Back, Volume Increment, Volume Decrement and Mute. -/
def consumerUsages : List (Fin 8 × List Byte) :=
  [(homeButton, [0x0A, 0x23, 0x02]), (backButton, [0x0A, 0x24, 0x02]),
    (volumeIncButton, [0x09, 0xE9]), (volumeDecButton, [0x09, 0xEA]),
    (volumeMuteButton, [0x09, 0xE2])]

/-- X, Y, Z, Rz, Rx, Ry and two sliders. -/
def axisUsages : List (Fin 8 × List Byte) :=
  [(xAxis, [0x09, 0x30]), (yAxis, [0x09, 0x31]), (zAxis, [0x09, 0x32]), (rzAxis, [0x09, 0x35]),
    (rxAxis, [0x09, 0x33]), (ryAxis, [0x09, 0x34]), (slider1, [0x09, 0x36]),
    (slider2, [0x09, 0x36])]

/-- Rudder, Throttle, Accelerator, Brake and Steering. -/
def simulationUsages : List (Fin 5 × List Byte) :=
  [(rudder, [0x09, 0xBA]), (throttle, [0x09, 0xBB]), (accelerator, [0x09, 0xC4]),
    (brake, [0x09, 0xC5]), (steering, [0x09, 0xC8])]

section

variable (c : HidConfiguration)

/-- Report size 1, the number of padding bits, `Input (Const,Var,Abs)`. -/
def paddingItems (count : ℕ) : List Byte :=
  if 0 < HidConfiguration.paddingBits count then
    [0x75, 0x01, 0x95, BitVec.ofNat 8 (HidConfiguration.paddingBits count), 0x81, 0x03]
  else []

/-- Usage page, the kind of controller, the application collection, the report's identifier. -/
def headerItems : List Byte :=
  [0x05, 0x01, 0x09, c.controllerType, 0xA1, 0x01, 0x85, c.hidReportId]

/-- The usages up to the number of buttons, a bit each. -/
def buttonItems : List Byte :=
  if 0 < c.buttonCount.toNat then
    [0x05, 0x09, 0x15, 0x00, 0x25, 0x01, 0x75, 0x01, 0x19, 0x01, 0x29, lowByte c.buttonCount,
      0x95, lowByte c.buttonCount, 0x81, 0x02] ++ paddingItems c.buttonCount.toNat
  else []

/-- The special buttons of a page, a bit each. -/
def specialPageItems (page : Byte) (count : ℕ) (usages : List (Fin 8 × List Byte)) : List Byte :=
  if 0 < count then
    [0x05, page, 0x95, BitVec.ofNat 8 count] ++ usageItems c.whichSpecialButtons usages
      ++ [0x81, 0x02]
  else []

/-- The special buttons. -/
def specialButtonItems : List Byte :=
  if 0 < c.getTotalSpecialButtonCount then
    [0x15, 0x00, 0x25, 0x01, 0x75, 0x01]
      ++ specialPageItems c 0x01 c.getDesktopSpecialButtonCount desktopUsages
      ++ specialPageItems c 0x0C c.getConsumerSpecialButtonCount consumerUsages
      ++ paddingItems c.getTotalSpecialButtonCount
  else []

/-- The axes, 16 bits each, in a physical collection. -/
def axisItems : List Byte :=
  if 0 < c.getAxisCount then
    [0x05, 0x01, 0x09, 0x01, 0x16, lowByte c.axesMin, highByte c.axesMin,
      0x26, lowByte c.axesMax, highByte c.axesMax, 0x75, 0x10,
      0x95, BitVec.ofNat 8 c.getAxisCount, 0xA1, 0x00]
      ++ usageItems c.whichAxes axisUsages ++ [0x81, 0x02, 0xC0]
  else []

/-- The simulation controls, 16 bits each, in a physical collection. -/
def simulationItems : List Byte :=
  if 0 < c.getSimulationCount then
    [0x05, 0x02, 0x16, lowByte c.simulationMin, highByte c.simulationMin,
      0x26, lowByte c.simulationMax, highByte c.simulationMax, 0x75, 0x10,
      0x95, BitVec.ofNat 8 c.getSimulationCount, 0xA1, 0x00]
      ++ usageItems c.whichSimulationControls simulationUsages ++ [0x81, 0x02, 0xC0]
  else []

/-- The hat switches, a byte each, in a physical collection: from 1 to 8, or none of these. -/
def hatItems : List Byte :=
  if 0 < c.hatSwitchCount.toNat then
    [0xA1, 0x00, 0x05, 0x01]
      ++ (List.range c.hatSwitchCount.toNat).flatMap (fun _ => [0x09, 0x39])
      ++ [0x15, 0x01, 0x25, 0x08, 0x35, 0x00, 0x46, 0x3B, 0x01, 0x65, 0x12, 0x75, 0x08,
        0x95, c.hatSwitchCount, 0x81, 0x42, 0xC0]
  else []

/-- A report count, in one byte of data or in two. -/
def reportCountItem (count : BitVec 16) : List Byte :=
  if count.toNat ≤ 0xFF then [0x95, lowByte count] else [0x96, lowByte count, highByte count]

/-- The output report. -/
def outputItems : List Byte :=
  if c.enableOutputReport then
    [0x06, 0x00, 0xFF, 0x09, 0x01, 0x09, 0x01, 0x15, 0x00, 0x26, 0xFF, 0x00, 0x75, 0x08]
      ++ reportCountItem c.outputReportLength ++ [0x91, 0x02]
  else []

/-- The whole descriptor. -/
def hidReportDescriptor : List Byte :=
  headerItems c ++ buttonItems c ++ specialButtonItems c ++ axisItems c ++ simulationItems c
    ++ hatItems c ++ outputItems c ++ [0xC0]

end

/-! ### What a host should find -/

namespace HidConfiguration

variable (c : HidConfiguration)

/-- A variable of the input report. -/
def inputField (page id size : ℕ) (lo hi : ℤ) : Field :=
  ⟨.input, c.hidReportId.toNat, some ⟨page, id⟩, size, lo, hi⟩

/-- The padding after so many bits. -/
def padding (count : ℕ) : List Field :=
  .replicate (paddingBits count) ⟨.input, c.hidReportId.toNat, none, 1, 0, 0⟩

/-- A variable for each of the usages that are included. -/
def usageFields {n : ℕ} (which : Fin n → Bool) (table : List (Fin n × List Byte))
    (field : ℕ → Field) : List Field :=
  (table.filter fun entry => which entry.1).map fun entry => field (unsigned entry.2.tail)

def buttonFields : List Field :=
  (List.range c.buttonCount.toNat).map (fun i => c.inputField 0x09 (i + 1) 1 0 1)
    ++ c.padding c.buttonCount.toNat

def specialButtonFields : List Field :=
  usageFields c.whichSpecialButtons desktopUsages (fun u => c.inputField 0x01 u 1 0 1)
    ++ usageFields c.whichSpecialButtons consumerUsages (fun u => c.inputField 0x0C u 1 0 1)
    ++ c.padding c.getTotalSpecialButtonCount

def axisFields : List Field :=
  usageFields c.whichAxes axisUsages fun u =>
    c.inputField 0x01 u 16 c.axesMin.toInt c.axesMax.toInt

def simulationFields : List Field :=
  usageFields c.whichSimulationControls simulationUsages fun u =>
    c.inputField 0x02 u 16 c.simulationMin.toInt c.simulationMax.toInt

def hatFields : List Field := .replicate c.hatSwitchCount.toNat (c.inputField 0x01 0x39 8 1 8)

/-- The fields of the input report. -/
def inputFields : List Field :=
  c.buttonFields ++ c.specialButtonFields ++ c.axisFields ++ c.simulationFields ++ c.hatFields

/-- The fields of the output report. -/
def outputFields : List Field :=
  if c.enableOutputReport then
    .replicate c.outputReportLength.toNat
      ⟨.output, c.hidReportId.toNat, some ⟨0xFF00, 0x01⟩, 8, 0, 255⟩
  else []

end HidConfiguration

/-! ### Reading the parts -/

section

variable {n : ℕ} {which : Fin n → Bool} {table : List (Fin n × List Byte)}

/-- A usage of one byte or of two. -/
def isUsageItem : List Byte → Bool
  | [0x09, _] => true
  | [0x0A, _, _] => true
  | _ => false

theorem reads_of_isUsageItem {item : List Byte} (h : isUsageItem item) (s : State) :
    Reads s item { s with usages := s.usages ++ [unsigned item.tail] } := by
  match item, h with
  | [0x09, _], _ => exact .cons₁ (by decide) (by decide) rfl (.nil _)
  | [0x0A, _, _], _ => exact .cons₂ (by decide) (by decide) rfl (.nil _)

theorem reads_usageItems (h : ∀ entry ∈ table, isUsageItem entry.2) (s : State) :
    Reads s (usageItems which table) { s with
      usages := s.usages
        ++ (table.filter fun entry => which entry.1).map fun entry => unsigned entry.2.tail } := by
  refine .usages fun entry hentry t => reads_of_isUsageItem (h entry ?_) t
  exact List.mem_of_mem_filter hentry

/-- The usages of a table and an `Input` add a variable for each usage that is included. -/
theorem reads_usageItems_input {g : Globals} {stack : List Globals} {depth : ℕ}
    {before : List Field} {bs : List Byte} {t : State}
    (htable : ∀ entry ∈ table, isUsageItem entry.2)
    (hcount : g.reportCount = (table.filter fun entry => which entry.1).length)
    (hrest : Reads ⟨g, stack, [], 0, depth, before ++ HidConfiguration.usageFields which table
      fun u => ⟨.input, g.reportId, some ⟨g.usagePage, u⟩, g.reportSize, g.logicalMin,
        g.logicalMax⟩⟩ bs t) :
    Reads ⟨g, stack, [], 0, depth, before⟩ (usageItems which table ++ 0x81 :: 0x02 :: bs) t := by
  refine (reads_usageItems htable _).trans
    (.cons₁ (by decide) (by decide) (State.exec_input (by decide) (by decide) ?_) ?_)
  · simpa using hcount
  · simpa [State.clearLocals, State.field, HidConfiguration.usageFields, Function.comp_def]
      using hrest

/-- The rest of a part of 16-bit variables in a physical collection: their range, size and number,
and their usages. -/
theorem reads_wordItems (min max : BitVec 16) {count : ℕ}
    (htable : ∀ entry ∈ table, isUsageItem entry.2)
    (hcount : count = (table.filter fun entry => which entry.1).length) (hlt : count < 256)
    (g : Globals) (stack : List Globals) (usages : List ℕ) (depth : ℕ) (before : List Field) :
    Reads ⟨g, stack, usages, 0, depth, before⟩
      (0x16 :: lowByte min :: highByte min :: 0x26 :: lowByte max :: highByte max :: 0x75 :: 0x10 ::
        0x95 :: BitVec.ofNat 8 count :: 0xA1 :: 0x00 ::
        (usageItems which table ++ [0x81, 0x02, 0xC0]))
      ⟨⟨g.usagePage, min.toInt, max.toInt, 16, count, g.reportId⟩, stack, [], 0, depth,
        before ++ HidConfiguration.usageFields which table fun u =>
          ⟨.input, g.reportId, some ⟨g.usagePage, u⟩, 16, min.toInt, max.toInt⟩⟩ := by
  have hbyte : unsigned [BitVec.ofNat 8 count] = count := by
    rw [unsigned_singleton, BitVec.toNat_ofNat, Nat.mod_eq_of_lt hlt]
  have hmin : signed [lowByte min, highByte min] = min.toInt := signed_word min
  have hmax : signed [lowByte max, highByte max] = max.toInt := signed_word max
  refine .cons₂ (by decide) (by decide) rfl (.cons₂ (by decide) (by decide) rfl
    (.cons₁ (by decide) (by decide) rfl (.cons₁ (by decide) (by decide) rfl
    (.cons₁ (by decide) (by decide) rfl ?_))))
  rw [hmin, hmax, hbyte]
  refine reads_usageItems_input htable hcount (.cons₀ (by decide) (by decide) rfl ?_)
  exact .nil _

theorem countSet_eq_countP (which : Fin n → Bool) (indices : List (Fin n)) :
    HidConfiguration.countSet which indices = indices.countP which := by
  have key (count : ℕ) : indices.foldl (fun count i => count + (which i).toNat) count
      = count + indices.countP which := by
    induction indices generalizing count with
    | nil => rfl
    | cons i indices ih =>
      rw [List.foldl_cons, ih, List.countP_cons]
      cases which i <;> grind
  rw [HidConfiguration.countSet, key, Nat.zero_add]

/-- A table has as many usages as the loop over the array counts. -/
theorem length_filter_table {indices : List (Fin n)} (h : (table.map Prod.fst).Perm indices) :
    (table.filter fun entry => which entry.1).length
      = HidConfiguration.countSet which indices := by
  rw [countSet_eq_countP, ← h.countP_eq, List.countP_map, List.countP_eq_length_filter]
  rfl

end

section

variable (c : HidConfiguration)

/-- The registers name the configuration's report. -/
def HasReportId (g : Globals) : Prop := g.reportId = c.hidReportId.toNat

/-- And variables are single bits. -/
structure HasBits (g : Globals) : Prop where
  reportId : HasReportId c g
  logicalMin : g.logicalMin = 0
  logicalMax : g.logicalMax = 1
  reportSize : g.reportSize = 1

theorem paddingBits_lt (count : ℕ) : HidConfiguration.paddingBits count < 8 := by
  rw [HidConfiguration.paddingBits]
  split <;> omega

theorem adds_paddingItems (count : ℕ) :
    Adds (HasReportId c) (paddingItems count) (c.padding count) (HasReportId c) := by
  have hcount : unsigned [BitVec.ofNat 8 (HidConfiguration.paddingBits count)]
      = HidConfiguration.paddingBits count := by
    have := paddingBits_lt count
    rw [unsigned_singleton, BitVec.toNat_ofNat, Nat.mod_eq_of_lt (by omega)]
  rw [paddingItems]
  split
  · intro g stack depth before hid
    rw [HasReportId] at hid
    refine ⟨{ g with reportSize := 1, reportCount := HidConfiguration.paddingBits count }, hid,
      Reads.cast (.cons₁ (by decide) (by decide) rfl <| .cons₁ (by decide) (by decide) rfl <|
        .cons₁ (by decide) (by decide) rfl (.nil _)) ?_⟩
    simp only [State.clearLocals, State.padding, HidConfiguration.padding, hcount, ← hid]
    rfl
  · rename_i h
    rw [HidConfiguration.padding, Nat.eq_zero_of_not_pos h]
    exact .nil _

theorem adds_buttonItems (hcount : c.buttonCount.toNat < 256) :
    Adds (HasReportId c) (buttonItems c) c.buttonFields (HasReportId c) := by
  rw [buttonItems, HidConfiguration.buttonFields]
  split
  · refine .append ?_ (adds_paddingItems c c.buttonCount.toNat)
    intro g stack depth before hid
    rw [HasReportId] at hid
    have hlow : unsigned [lowByte c.buttonCount] = c.buttonCount.toNat := by
      rw [unsigned_singleton, lowByte, BitVec.toNat_setWidth, Nat.mod_eq_of_lt hcount]
    refine ⟨⟨0x09, 0, 1, 1, c.buttonCount.toNat, g.reportId⟩, hid,
      Reads.cast (.cons₁ (by decide) (by decide) rfl <| .cons₁ (by decide) (by decide) rfl <|
        .cons₁ (by decide) (by decide) rfl <| .cons₁ (by decide) (by decide) rfl <|
        .cons₁ (by decide) (by decide) rfl <| .cons₁ (by decide) (by decide) rfl <|
        .cons₁ (by decide) (by decide) rfl <|
        .cons₁ (by decide) (by decide) (State.exec_input (by decide) (by decide) ?_) (.nil _)) ?_⟩
    · simp [hlow]
    · simp [hlow, signed_singleton, State.clearLocals, State.field, HidConfiguration.inputField,
        hid, List.range'_eq_map_range, Nat.add_comm]
  · rename_i h
    rw [Nat.eq_zero_of_not_pos h]
    exact .nil _

theorem adds_specialPageItems (page : Byte) {count : ℕ} {table : List (Fin 8 × List Byte)}
    (htable : ∀ entry ∈ table, isUsageItem entry.2)
    (hcount : count = (table.filter fun entry => c.whichSpecialButtons entry.1).length)
    (hlt : count < 256) :
    Adds (HasBits c) (specialPageItems c page count table)
      (HidConfiguration.usageFields c.whichSpecialButtons table fun u =>
        c.inputField page.toNat u 1 0 1) (HasBits c) := by
  rw [specialPageItems, HidConfiguration.usageFields]
  split
  · intro g stack depth before hg
    have hbyte : unsigned [BitVec.ofNat 8 count] = count := by
      rw [unsigned_singleton, BitVec.toNat_ofNat, Nat.mod_eq_of_lt hlt]
    refine ⟨{ g with usagePage := page.toNat, reportCount := count },
      ⟨hg.reportId, hg.logicalMin, hg.logicalMax, hg.reportSize⟩, ?_⟩
    rw [List.append_assoc]
    refine .cons₁ (by decide) (by decide) rfl (.cons₁ (by decide) (by decide) rfl ?_)
    rw [unsigned_singleton, hbyte]
    refine reads_usageItems_input htable hcount ?_
    rw [show g.reportId = _ from hg.reportId, hg.logicalMin, hg.logicalMax, hg.reportSize]
    exact .nil _
  · rename_i h
    rw [Nat.eq_zero_of_not_pos h] at hcount
    rw [List.length_eq_zero_iff.mp hcount.symm]
    exact .nil _

theorem desktop_count :
    c.getDesktopSpecialButtonCount
      = (desktopUsages.filter fun entry => c.whichSpecialButtons entry.1).length :=
  (length_filter_table (by decide)).symm

theorem consumer_count :
    c.getConsumerSpecialButtonCount
      = (consumerUsages.filter fun entry => c.whichSpecialButtons entry.1).length :=
  (length_filter_table (by decide)).symm

theorem axis_count :
    c.getAxisCount = (axisUsages.filter fun entry => c.whichAxes entry.1).length :=
  (length_filter_table (by decide)).symm

theorem simulation_count :
    c.getSimulationCount
      = (simulationUsages.filter fun entry => c.whichSimulationControls entry.1).length :=
  (length_filter_table (by decide)).symm

theorem total_count :
    c.getTotalSpecialButtonCount
      = c.getDesktopSpecialButtonCount + c.getConsumerSpecialButtonCount := by
  have hsplit : List.finRange 8 = [0, 1, 2] ++ [3, 4, 5, 6, 7] := by decide
  rw [HidConfiguration.getTotalSpecialButtonCount, HidConfiguration.getDesktopSpecialButtonCount,
    HidConfiguration.getConsumerSpecialButtonCount, countSet_eq_countP, countSet_eq_countP,
    countSet_eq_countP, hsplit, List.countP_append]

/-- No count is larger than the table it counts in. -/
theorem counts_le :
    c.getDesktopSpecialButtonCount ≤ 3 ∧ c.getConsumerSpecialButtonCount ≤ 5 ∧
      c.getAxisCount ≤ 8 ∧ c.getSimulationCount ≤ 5 := by
  rw [desktop_count, consumer_count, axis_count, simulation_count]
  exact ⟨List.length_filter_le .., List.length_filter_le .., List.length_filter_le ..,
    List.length_filter_le ..⟩

theorem adds_specialButtonItems :
    Adds (HasReportId c) (specialButtonItems c) c.specialButtonFields (HasReportId c) := by
  obtain ⟨hdesktop, hconsumer, -, -⟩ := counts_le c
  rw [specialButtonItems, HidConfiguration.specialButtonFields]
  split
  · have hbits : Adds (HasReportId c) [0x15, 0x00, 0x25, 0x01, 0x75, 0x01] [] (HasBits c) := by
      intro g stack depth before hid
      refine ⟨{ g with logicalMin := 0, logicalMax := 1, reportSize := 1 },
        ⟨hid, rfl, rfl, rfl⟩, ?_⟩
      refine .cons₁ (by decide) (by decide) rfl (.cons₁ (by decide) (by decide) rfl
        (.cons₁ (by decide) (by decide) rfl ?_))
      rw [List.append_nil]
      exact .nil _
    have hdesktopItems := adds_specialPageItems c 0x01 (by decide) (desktop_count c) (by omega)
    have hconsumerItems := adds_specialPageItems c 0x0C (by decide) (consumer_count c) (by omega)
    have hpadding := adds_paddingItems c c.getTotalSpecialButtonCount
    exact ((hbits.append hdesktopItems).append hconsumerItems).append
      (hpadding.mono (fun _ h => h.reportId) fun _ h => h)
  · rename_i h
    have htotal := total_count c
    have hdesktop₀ : c.getDesktopSpecialButtonCount = 0 := by omega
    have hconsumer₀ : c.getConsumerSpecialButtonCount = 0 := by omega
    have hdesktopNil := List.length_eq_zero_iff.mp ((desktop_count c).symm.trans hdesktop₀)
    have hconsumerNil := List.length_eq_zero_iff.mp ((consumer_count c).symm.trans hconsumer₀)
    rw [HidConfiguration.usageFields, HidConfiguration.usageFields, hdesktopNil, hconsumerNil,
      Nat.eq_zero_of_not_pos h]
    exact .nil _

theorem adds_axisItems : Adds (HasReportId c) (axisItems c) c.axisFields (HasReportId c) := by
  obtain ⟨-, -, haxes, -⟩ := counts_le c
  rw [axisItems, HidConfiguration.axisFields]
  split
  · rintro ⟨page, lo, hi, size, count, id⟩ stack depth before hid
    obtain rfl : id = _ := hid
    have hwords := reads_wordItems c.axesMin c.axesMax (by decide) (axis_count c) (by omega)
      ⟨0x01, lo, hi, size, count, c.hidReportId.toNat⟩ stack [0x01] depth before
    refine ⟨_, ?_, .cons₁ (by decide) (by decide) rfl (.cons₁ (by decide) (by decide) rfl hwords)⟩
    exact rfl
  · rename_i h
    have hnil := List.length_eq_zero_iff.mp
      ((axis_count c).symm.trans (Nat.eq_zero_of_not_pos h))
    rw [HidConfiguration.usageFields, hnil]
    exact .nil _

theorem adds_simulationItems :
    Adds (HasReportId c) (simulationItems c) c.simulationFields (HasReportId c) := by
  obtain ⟨-, -, -, hsimulation⟩ := counts_le c
  rw [simulationItems, HidConfiguration.simulationFields]
  split
  · rintro ⟨page, lo, hi, size, count, id⟩ stack depth before hid
    obtain rfl : id = _ := hid
    have hwords := reads_wordItems c.simulationMin c.simulationMax (by decide)
      (simulation_count c) (by omega) ⟨0x02, lo, hi, size, count, c.hidReportId.toNat⟩ stack []
      depth before
    refine ⟨_, ?_, .cons₁ (by decide) (by decide) rfl hwords⟩
    exact rfl
  · rename_i h
    have hnil := List.length_eq_zero_iff.mp
      ((simulation_count c).symm.trans (Nat.eq_zero_of_not_pos h))
    rw [HidConfiguration.usageFields, hnil]
    exact .nil _

theorem adds_hatItems : Adds (HasReportId c) (hatItems c) c.hatFields (HasReportId c) := by
  rw [hatItems, HidConfiguration.hatFields]
  split
  · rintro ⟨page, lo, hi, size, count, id⟩ stack depth before hid
    obtain rfl : id = _ := hid
    have husages (s : State) :
        Reads s ((List.range c.hatSwitchCount.toNat).flatMap fun _ => [0x09, 0x39])
          { s with usages := s.usages ++ (List.range c.hatSwitchCount.toNat).map fun _ => 0x39 } :=
      .usages fun _ _ s => .cons₁ (by decide) (by decide) rfl (.nil _)
    refine ⟨⟨0x01, 1, 8, 8, c.hatSwitchCount.toNat, c.hidReportId.toNat⟩, rfl, ?_⟩
    rw [List.append_assoc]
    refine .cons₁ (by decide) (by decide) rfl (.cons₁ (by decide) (by decide) rfl
      ((husages _).trans ?_))
    refine .cons₁ (by decide) (by decide) rfl (.cons₁ (by decide) (by decide) rfl
      (.cons₁ (by decide) (by decide) rfl (.cons₂ (by decide) (by decide) rfl
      (.cons₁ (by decide) (by decide) rfl (.cons₁ (by decide) (by decide) rfl
      (.cons₁ (by decide) (by decide) rfl (.cons₁ (by decide) (by decide)
        (State.exec_input (by decide) (by decide) ?_) (.cons₀ (by decide) (by decide) rfl ?_))))))))
    · simp [State.clearLocals]
    · refine Reads.cast (.nil _) ?_
      simp [State.clearLocals, State.field, HidConfiguration.inputField, signed_singleton]
  · rename_i h
    rw [Nat.eq_zero_of_not_pos h]
    exact .nil _

theorem reads_reportCountItem (count : BitVec 16) (s : State) :
    Reads s (reportCountItem count)
      { s with globals := { s.globals with reportCount := count.toNat } } := by
  rw [reportCountItem]
  split
  · rename_i h
    have hlow : unsigned [lowByte count] = count.toNat := by
      rw [unsigned_singleton, lowByte, BitVec.toNat_setWidth, Nat.mod_eq_of_lt (by omega)]
    rw [← hlow]
    exact .cons₁ (by decide) (by decide) rfl (.nil _)
  · rw [← unsigned_word count]
    exact .cons₂ (by decide) (by decide) rfl (.nil _)

theorem adds_outputItems : Adds (HasReportId c) (outputItems c) c.outputFields (HasReportId c) := by
  rw [outputItems, HidConfiguration.outputFields]
  split
  · rintro ⟨page, lo, hi, size, count, id⟩ stack depth before hid
    obtain rfl : id = _ := hid
    have hvendor : Reads
        ⟨⟨page, lo, hi, size, count, c.hidReportId.toNat⟩, stack, [], 0, depth, before⟩
        [0x06, 0x00, 0xFF, 0x09, 0x01, 0x09, 0x01, 0x15, 0x00, 0x26, 0xFF, 0x00, 0x75, 0x08]
        ⟨⟨0xFF00, 0, 255, 8, count, c.hidReportId.toNat⟩, stack, [1, 1], 0, depth, before⟩ :=
      .cons₂ (by decide) (by decide) rfl (.cons₁ (by decide) (by decide) rfl
        (.cons₁ (by decide) (by decide) rfl (.cons₁ (by decide) (by decide) rfl
        (.cons₂ (by decide) (by decide) rfl (.cons₁ (by decide) (by decide) rfl (.nil _))))))
    have hcount := reads_reportCountItem c.outputReportLength
      ⟨⟨0xFF00, 0, 255, 8, count, c.hidReportId.toNat⟩, stack, [1, 1], 0, depth, before⟩
    -- both usages are the same, and so is every further one
    have husage (i : ℕ) : [1, 1].getD i 1 = 1 := by
      match i with
      | 0 | 1 | _ + 2 => rfl
    refine ⟨⟨0xFF00, 0, 255, 8, c.outputReportLength.toNat, c.hidReportId.toNat⟩, rfl,
      (hvendor.trans hcount).trans (Reads.cast (.cons₁ (by decide) (by decide) rfl (.nil _)) ?_)⟩
    have hfields : (List.range c.outputReportLength.toNat).map (fun i => State.field
          ⟨⟨0xFF00, 0, 255, 8, c.outputReportLength.toNat, c.hidReportId.toNat⟩, stack, [1, 1], 0,
            depth, before⟩ .output ⟨0xFF00, [1, 1].getD i 1⟩)
        = .replicate c.outputReportLength.toNat
          ⟨.output, c.hidReportId.toNat, some ⟨0xFF00, 0x01⟩, 8, 0, 255⟩ := by
      simp only [husage, List.map_const', List.length_range]
      rfl
    rw [← hfields]
    rfl
  · exact .nil _

/-- A descriptor adds its fields, whatever stands before it. -/
theorem adds_hidReportDescriptor (hcount : c.buttonCount.toNat < 256) :
    Adds (fun _ => True) (hidReportDescriptor c) (c.inputFields ++ c.outputFields)
      fun _ => True := by
  rintro ⟨page, lo, hi, size, count, id⟩ stack depth before -
  have hheader : Reads ⟨⟨page, lo, hi, size, count, id⟩, stack, [], 0, depth, before⟩
      (headerItems c)
      ⟨⟨0x01, lo, hi, size, count, c.hidReportId.toNat⟩, stack, [], 0, depth + 1, before⟩ := by
    refine .cons₁ (by decide) (by decide) rfl (.cons₁ (by decide) (by decide) rfl
      (.cons₁ (by decide) (by decide) rfl (.cons₁ (by decide) (by decide) rfl ?_)))
    rw [unsigned_singleton]
    exact .nil _
  have hbody := (((((adds_buttonItems c hcount).append (adds_specialButtonItems c)).append
    (adds_axisItems c)).append (adds_simulationItems c)).append (adds_hatItems c)).append
    (adds_outputItems c)
  obtain ⟨g, -, hreads⟩ := hbody ⟨0x01, lo, hi, size, count, c.hidReportId.toNat⟩ stack
    (depth + 1) before (by exact rfl)
  have hclose (fs : List Field) :
      Reads ⟨g, stack, [], 0, depth + 1, fs⟩ [0xC0] ⟨g, stack, [], 0, depth, fs⟩ :=
    .cons₀ (by decide) (by decide) rfl (.nil _)
  have hbytes : hidReportDescriptor c
      = headerItems c ++ (buttonItems c ++ specialButtonItems c ++ axisItems c ++ simulationItems c
        ++ hatItems c ++ outputItems c) ++ [0xC0] := by
    simp only [hidReportDescriptor, List.append_assoc]
  rw [hbytes]
  exact ⟨g, trivial, (hheader.trans hreads).trans (hclose _)⟩

/-- **A host finds the fields it should**, where the number of buttons fits into the byte that it is
written to. -/
theorem hidReportDescriptor_fields (hcount : c.buttonCount.toNat < 256) :
    Hid.fields (hidReportDescriptor c) = some (c.inputFields ++ c.outputFields) :=
  fields_of_adds (adds_hidReportDescriptor c hcount)

end

/-! ### The size of a report -/

namespace HidConfiguration

variable (c : HidConfiguration)

/-- The bytes of a report, before they are counted in one byte. -/
def reportLength : ℕ :=
  bytesFor c.buttonCount.toNat + c.numOfSpecialButtonBytes + c.numOfAxisBytes
    + c.numOfSimulationBytes + c.hatSwitchCount.toNat

/-- With its padding a number of bits fills its bytes. -/
theorem add_paddingBits (count : ℕ) : count + paddingBits count = 8 * bytesFor count := by
  rw [bytesFor, paddingBits]
  split <;> split <;> omega

/-- Every field of the input report belongs to it. -/
theorem inputFields_mem {f : Field} (hf : f ∈ c.inputFields) :
    f.kind = .input ∧ f.reportId = c.hidReportId.toNat := by
  simp only [inputFields, buttonFields, specialButtonFields, axisFields, simulationFields,
    hatFields, usageFields, padding, List.mem_append, List.mem_map, List.mem_replicate] at hf
  rcases hf with (((((⟨i, -, rfl⟩ | ⟨-, rfl⟩) | ((⟨u, -, rfl⟩ | ⟨u, -, rfl⟩) | ⟨-, rfl⟩)) |
    ⟨u, -, rfl⟩) | ⟨u, -, rfl⟩) | ⟨-, rfl⟩)
  all_goals exact ⟨rfl, rfl⟩

theorem inputReport_outputFields (reportId : ℕ) : inputReport reportId c.outputFields = [] := by
  refine inputReport_of_forall_not fun f hf => ?_
  rw [outputFields] at hf
  split at hf
  · rw [List.eq_of_mem_replicate hf]
    simp
  · cases hf

/-- Of all fields those of the input report are the input report. -/
theorem inputReport_fields :
    inputReport c.hidReportId.toNat (c.inputFields ++ c.outputFields) = c.inputFields := by
  rw [inputReport_append, inputReport_outputFields, List.append_nil,
    inputReport_of_forall fun f hf => c.inputFields_mem hf]

/-- Padding is constant. -/
theorem padding_constant (count : ℕ) : ∀ f ∈ c.padding count, f.usage = none := by
  intro f hf
  rw [List.eq_of_mem_replicate hf]

theorem sum_size_usageFields {n : ℕ} (which : Fin n → Bool) (table : List (Fin n × List Byte))
    (page size : ℕ) (lo hi : ℤ) :
    ((usageFields which table fun u => c.inputField page u size lo hi).map Field.size).sum
      = (table.filter fun entry => which entry.1).length * size := by
  simp [usageFields, inputField, Function.comp_def]

theorem sum_size_buttonFields :
    (c.buttonFields.map Field.size).sum = 8 * bytesFor c.buttonCount.toNat := by
  rw [← add_paddingBits]
  simp [buttonFields, inputField, padding, Function.comp_def]

theorem sum_size_specialButtonFields :
    (c.specialButtonFields.map Field.size).sum = 8 * c.numOfSpecialButtonBytes := by
  rw [numOfSpecialButtonBytes, ← add_paddingBits, total_count, desktop_count, consumer_count,
    specialButtonFields, List.map_append, List.sum_append, List.map_append, List.sum_append,
    sum_size_usageFields, sum_size_usageFields]
  simp [padding, total_count, desktop_count, consumer_count]

theorem sum_size_axisFields : (c.axisFields.map Field.size).sum = 8 * c.numOfAxisBytes := by
  rw [axisFields, sum_size_usageFields, numOfAxisBytes, axis_count]
  ring

theorem sum_size_simulationFields :
    (c.simulationFields.map Field.size).sum = 8 * c.numOfSimulationBytes := by
  rw [simulationFields, sum_size_usageFields, numOfSimulationBytes, simulation_count]
  ring

/-- **The fields are as long as the report.** -/
theorem inputBits_inputFields :
    inputBits c.hidReportId.toNat c.inputFields = 8 * c.reportLength := by
  have hhats : (c.hatFields.map Field.size).sum = 8 * c.hatSwitchCount.toNat := by
    simp [hatFields, inputField, Nat.mul_comm]
  rw [inputBits, inputReport_of_forall fun f hf => c.inputFields_mem hf, inputFields]
  simp only [List.map_append, List.sum_append, sum_size_buttonFields, sum_size_specialButtonFields,
    sum_size_axisFields, sum_size_simulationFields, hhats, reportLength]
  ring

end HidConfiguration

/-! ### The call -/

/-- What the HID part of the gamepad must not do. -/
inductive GamepadFault
  /-- A write past the end of `tempHidReportDescriptor`. -/
  | descriptorOverflow
  /-- A write past the end of the report. -/
  | reportOverflow
  /-- A read past the end of the four hat switches. -/
  | hatIndex
  /-- A button that is not one of the 128. -/
  | buttonIndex
  /-- `std::invalid_argument`: a special button that is not one of the eight. -/
  | invalidArgument
  deriving DecidableEq

/-- The globals that `begin` writes. -/
structure HidGlobals where
  /-- The bytes of `tempHidReportDescriptor` below `hidReportDescriptorSize`. -/
  tempHidReportDescriptor : List Byte
  length_le : tempHidReportDescriptor.length ≤ 150
  reportSize : Byte
  numOfButtonBytes : Byte

namespace HidGlobals

/-- Their static initial values. -/
def init : HidGlobals := ⟨[], by decide, 0, 0⟩

/-- `begin(config)`: the buffer is not emptied first. -/
def begin (c : HidConfiguration) (g : HidGlobals) : Except GamepadFault HidGlobals :=
  if h : (g.tempHidReportDescriptor ++ hidReportDescriptor c).length ≤ 150 then
    .ok ⟨g.tempHidReportDescriptor ++ hidReportDescriptor c, h, c.reportSize, c.numOfButtonBytes⟩
  else .error .descriptorOverflow

theorem begin_of_le {c : HidConfiguration} {g : HidGlobals}
    (h : (g.tempHidReportDescriptor ++ hidReportDescriptor c).length ≤ 150) :
    g.begin c = .ok ⟨g.tempHidReportDescriptor ++ hidReportDescriptor c, h, c.reportSize,
      c.numOfButtonBytes⟩ := dif_pos h

theorem begin_eq_ok_iff {c : HidConfiguration} {g t : HidGlobals} :
    g.begin c = .ok t ↔
      t.tempHidReportDescriptor = g.tempHidReportDescriptor ++ hidReportDescriptor c ∧
        t.reportSize = c.reportSize ∧ t.numOfButtonBytes = c.numOfButtonBytes := by
  constructor
  · intro h
    by_cases hle : (g.tempHidReportDescriptor ++ hidReportDescriptor c).length ≤ 150
    · rw [begin_of_le hle] at h
      obtain rfl := Except.ok.inj h
      exact ⟨rfl, rfl, rfl⟩
    · rw [begin, dif_neg hle] at h
      cases h
  · rintro ⟨hbytes, hsize, hbuttons⟩
    have hle := t.length_le
    rw [hbytes] at hle
    rw [begin_of_le hle]
    obtain ⟨bytes, _, size, buttons⟩ := t
    simp only at hbytes hsize hbuttons
    simp only [hbytes, hsize, hbuttons]

/-- The calls of one boot. -/
abbrev begins (cs : List HidConfiguration) (g : HidGlobals) : Except GamepadFault HidGlobals :=
  cs.foldlM (fun g c => g.begin c) g

/-- Each call leaves its descriptor behind those of the calls before it. -/
theorem begins_bytes {cs : List HidConfiguration} {g t : HidGlobals} (h : begins cs g = .ok t) :
    t.tempHidReportDescriptor = g.tempHidReportDescriptor ++ cs.flatMap hidReportDescriptor := by
  induction cs generalizing g with
  | nil =>
    cases h
    simp
  | cons c cs ih =>
    obtain ⟨u, hu, h⟩ := Runs.bind_eq_ok_iff.mp h
    rw [ih h, (begin_eq_ok_iff.mp hu).1, List.flatMap_cons, List.append_assoc]

/-- **The calls go through as long as all descriptors together fit.** -/
theorem begins_ok_iff {cs : List HidConfiguration} {g : HidGlobals} :
    (∃ t, begins cs g = .ok t) ↔
      (g.tempHidReportDescriptor ++ cs.flatMap hidReportDescriptor).length ≤ 150 := by
  constructor
  · rintro ⟨t, ht⟩
    rw [← begins_bytes ht]
    exact t.length_le
  · intro hle
    induction cs generalizing g with
    | nil => exact ⟨g, rfl⟩
    | cons c cs ih =>
      rw [List.flatMap_cons, ← List.append_assoc] at hle
      have hfirst : (g.tempHidReportDescriptor ++ hidReportDescriptor c).length ≤ 150 := by
        rw [List.length_append] at hle
        omega
      obtain ⟨t, ht⟩ := ih (g := ⟨_, hfirst, c.reportSize, c.numOfButtonBytes⟩) hle
      exact ⟨t, Runs.bind_eq_ok_iff.mpr ⟨_, begin_of_le hfirst, ht⟩⟩

/-- A host finds the fields of all calls. -/
theorem begins_fields {cs : List HidConfiguration} {t : HidGlobals}
    (hcount : ∀ c ∈ cs, c.buttonCount.toNat < 256) (h : begins cs .init = .ok t) :
    Hid.fields t.tempHidReportDescriptor
      = some (cs.flatMap fun c => c.inputFields ++ c.outputFields) := by
  rw [begins_bytes h]
  refine fields_of_adds ?_
  rw [show init.tempHidReportDescriptor = [] from rfl, List.nil_append]
  clear h
  induction cs with
  | nil => exact .nil _
  | cons c cs ih =>
    rw [List.forall_mem_cons] at hcount
    exact (adds_hidReportDescriptor c hcount.1).append (ih hcount.2)

/-- What a call adds to the input report with an identifier. -/
theorem inputBits_fields (c : HidConfiguration) (reportId : Byte) :
    inputBits reportId.toNat (c.inputFields ++ c.outputFields)
      = if c.hidReportId = reportId then 8 * c.reportLength else 0 := by
  rw [inputBits_append, inputBits, inputBits, c.inputReport_outputFields, List.map_nil,
    List.sum_nil, Nat.add_zero]
  split
  · rename_i hid
    rw [← hid, ← inputBits, c.inputBits_inputFields]
  · rename_i hid
    rw [inputReport_of_forall_not, List.map_nil, List.sum_nil]
    intro f hf hfield
    exact hid (BitVec.eq_of_toNat_eq ((c.inputFields_mem hf).2.symm.trans hfield.2))

/-- **Only the first call of a boot leaves a descriptor of the reports that are sent.** After more
than one, the report that the descriptor describes has the length of those sent exactly if every
earlier call with the same identifier had an empty report. -/
theorem begins_inputBits {cs : List HidConfiguration} {c : HidConfiguration} {t : HidGlobals}
    (hcount : ∀ c' ∈ cs ++ [c], c'.buttonCount.toNat < 256)
    (h : begins (cs ++ [c]) .init = .ok t) :
    ∃ fs, Hid.fields t.tempHidReportDescriptor = some fs ∧
      (inputBits c.hidReportId.toNat fs = 8 * c.reportLength ↔
        ∀ c' ∈ cs, c'.hidReportId = c.hidReportId → c'.reportLength = 0) := by
  refine ⟨_, begins_fields hcount h, ?_⟩
  clear hcount h
  rw [List.flatMap_append, inputBits_append, List.flatMap_singleton, inputBits_fields, if_pos rfl]
  induction cs with
  | nil => simp [inputBits, inputReport]
  | cons c' cs ih =>
    rw [List.forall_mem_cons, List.flatMap_cons, inputBits_append, inputBits_fields]
    split
    · rename_i hid
      grind
    · rename_i hid
      grind

/-- Two calls for sixteen buttons and two axes. -/
theorem begins_inputBits_two :
    let c := { BleGamepadConfiguration.new.hid with
      hatSwitchCount := 0
      whichAxes := fun i => i = xAxis ∨ i = yAxis }
    ∃ t fs, begins ([c] ++ [c]) .init = .ok t ∧ Hid.fields t.tempHidReportDescriptor = some fs ∧
      (inputBits c.hidReportId.toNat fs = 8 * c.reportLength ↔
        ∀ c' ∈ [c], c'.hidReportId = c.hidReportId → c'.reportLength = 0) := by
  intro c
  have hfits : (init.tempHidReportDescriptor
      ++ ([c] ++ [c]).flatMap hidReportDescriptor).length ≤ 150 := by decide +kernel
  obtain ⟨t, ht⟩ := begins_ok_iff.mpr hfits
  obtain ⟨fs, hfs, hbits⟩ := @begins_inputBits [c] c t (by decide) ht
  exact ⟨t, fs, ht, hfs, hbits⟩

end HidGlobals

end ImuGamepad
