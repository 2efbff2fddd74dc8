import ImuGamepad.HidDescriptor

/-!
# The gamepad's reports

`BleGamepad::sendReport` copies the inputs into a report: the buttons, a byte of special buttons,
the axes and simulation controls that are included, and the hat switches from the last to the first.
The report has the size `begin` has computed. Nothing in `sendReport` checks that the inputs fit.

## Main definitions

* `HidInputs` — the inputs
* `PartialReport` — the report while it is built
* `HidInputs.report` — the report that `sendReport` builds
* `HidInputs.seen` — what a host should see of the inputs

## Main results

* `HidInputs.report_eq_ok_iff` — when the report fits, and what it is
* `HidInputs.decode_reportBytes` — what a host decodes from it
* `HidInputs.report_seen` — with the descriptor of the same configuration
-/

namespace ImuGamepad

open Bits Hid

/-- What `BleGamepad` keeps of the inputs. -/
structure HidInputs where
  buttons : Bytes 16
  specialButtons : Byte
  /-- By the indices of the configuration. -/
  axes : Fin 8 → BitVec 16
  simulationControls : Fin 5 → BitVec 16
  hats : Fin 4 → BitVec 16

/-- A special button's bit: the included buttons before it are counted. -/
def HidConfiguration.bitPosition (c : HidConfiguration) (b : Fin 8) : ℕ :=
  countSet c.whichSpecialButtons ((List.finRange 8).take b)

/-- `specialButtonBitPosition(b)`. -/
def HidConfiguration.specialButtonBitPosition (c : HidConfiguration) (b : Byte) :
    Except GamepadFault ℕ :=
  if h : b.toNat < 8 then .ok (c.bitPosition ⟨b.toNat, h⟩) else .error .invalidArgument

/-! ### Building a report -/

/-- The report while it is built: `m` and `currentReportIndex`. -/
structure PartialReport where
  m : List Byte
  currentReportIndex : Byte

namespace PartialReport

/-- The beginning of `sendReport`: all sixteen bytes of buttons are copied, and those of the
configured buttons are skipped. -/
def start (g : HidGlobals) (buttons : Bytes 16) : Except GamepadFault PartialReport :=
  if 16 ≤ g.reportSize.toNat then
    .ok ⟨List.ofFn buttons ++ .replicate (g.reportSize.toNat - 16) 0, g.numOfButtonBytes⟩
  else .error .reportOverflow

/-- `m[currentReportIndex++] = b`. -/
def put (r : PartialReport) (b : Byte) : Except GamepadFault PartialReport :=
  if r.currentReportIndex.toNat < r.m.length then
    .ok ⟨r.m.set r.currentReportIndex.toNat b, r.currentReportIndex + 1⟩
  else .error .reportOverflow

/-- A series of these. -/
def puts (r : PartialReport) (bs : List Byte) : Except GamepadFault PartialReport :=
  bs.foldlM put r

/-- The words that are included, in some order, the low byte of each first. -/
def putWords {n : ℕ} (which : Fin n → Bool) (value : Fin n → BitVec 16) (order : List (Fin n))
    (r : PartialReport) : Except GamepadFault PartialReport :=
  order.foldlM (fun r i =>
    if which i then do
      let r ← r.put (lowByte (value i))
      r.put (highByte (value i))
    else .ok r) r

end PartialReport

namespace HidInputs

/-- `hats[i]`, as a byte. -/
def hat (d : HidInputs) (i : ℕ) : Except GamepadFault Byte :=
  if h : i < 4 then .ok (lowByte (d.hats ⟨i, h⟩)) else .error .hatIndex

/-- The byte of special buttons, where one is configured. -/
def putSpecialButtons (d : HidInputs) (c : HidConfiguration) (r : PartialReport) :
    Except GamepadFault PartialReport :=
  if 0 < c.getTotalSpecialButtonCount then r.put d.specialButtons else .ok r

/-- The loop over the hat switches, from the last to the first. -/
def putHats (d : HidInputs) (c : HidConfiguration) (r : PartialReport) :
    Except GamepadFault PartialReport :=
  (List.range c.hatSwitchCount.toNat).reverse.foldlM (fun r i => d.hat i >>= r.put) r

/-- The report that `sendReport` builds. -/
def report (d : HidInputs) (g : HidGlobals) (c : HidConfiguration) :
    Except GamepadFault (List Byte) := do
  let r ← PartialReport.start g d.buttons
  let r ← d.putSpecialButtons c r
  let r ← r.putWords c.whichAxes d.axes
    [xAxis, yAxis, zAxis, rzAxis, rxAxis, ryAxis, slider1, slider2]
  let r ← r.putWords c.whichSimulationControls d.simulationControls
    [rudder, throttle, accelerator, brake, steering]
  let r ← d.putHats c r
  return r.m

end HidInputs

namespace PartialReport

theorem puts_append (r : PartialReport) (bs cs : List Byte) :
    r.puts (bs ++ cs) = r.puts bs >>= fun t => t.puts cs := List.foldlM_append

/-- The first byte of a series, -/
theorem puts_cons {r : PartialReport} (h : r.currentReportIndex.toNat < r.m.length) (b : Byte)
    (bs : List Byte) :
    r.puts (b :: bs)
      = puts ⟨r.m.set r.currentReportIndex.toNat b, r.currentReportIndex + 1⟩ bs := by
  have hput : r.put b = .ok ⟨r.m.set r.currentReportIndex.toNat b, r.currentReportIndex + 1⟩ :=
    if_pos h
  have hcons : r.puts (b :: bs) = r.put b >>= fun t => t.puts bs := rfl
  rw [hcons, hput]
  rfl

/-- and where there is no room for it. -/
theorem puts_cons_ne_ok {r : PartialReport} (h : ¬ r.currentReportIndex.toNat < r.m.length)
    (b : Byte) (bs : List Byte) (t : PartialReport) : r.puts (b :: bs) ≠ .ok t := by
  have hput : r.put b = .error .reportOverflow := if_neg h
  have hcons : r.puts (b :: bs) = r.put b >>= fun t => t.puts bs := rfl
  rw [hcons, hput]
  intro heq
  cases heq

theorem take_set_succ {bs : List Byte} {i : ℕ} (h : i < bs.length) (b : Byte) :
    (bs.set i b).take (i + 1) = bs.take i ++ [b] := by
  rw [List.set_eq_take_append_cons_drop, if_pos h, List.take_append]
  simp [Nat.min_eq_left h.le]

/-- A series of bytes goes through exactly if it fits, and lies where the index was. -/
theorem puts_eq_ok_iff {r t : PartialReport} (bs : List Byte) (hlen : r.m.length < 256) :
    r.puts bs = .ok t ↔
      (bs ≠ [] → r.currentReportIndex.toNat + bs.length ≤ r.m.length) ∧
        t = ⟨r.m.take r.currentReportIndex.toNat ++ bs
          ++ r.m.drop (r.currentReportIndex.toNat + bs.length),
          r.currentReportIndex + BitVec.ofNat 8 bs.length⟩ := by
  induction bs generalizing r with
  | nil =>
    have hpure : r.puts [] = .ok r := rfl
    rw [hpure, Except.ok.injEq]
    simp [eq_comm]
  | cons b bs ih =>
    by_cases hput : r.currentReportIndex.toNat < r.m.length
    · have hindex : (r.currentReportIndex + 1).toNat = r.currentReportIndex.toNat + 1 := by
        rw [BitVec.toNat_add]
        simp only [BitVec.reduceToNat]
        omega
      have hdrop : (r.m.set r.currentReportIndex.toNat b).drop
          (r.currentReportIndex.toNat + 1 + bs.length)
            = r.m.drop (r.currentReportIndex.toNat + 1 + bs.length) :=
        List.drop_set_of_lt (by omega)
      rw [puts_cons hput, ih (by simpa using hlen)]
      simp only [hindex, take_set_succ hput, hdrop, List.length_set, List.length_cons]
      refine and_congr ⟨fun h _ => ?_, fun h _ => ?_⟩ (Eq.congr_right ?_)
      · cases bs with
        | nil =>
          rw [List.length_nil]
          omega
        | cons b' bs =>
          have := h (List.cons_ne_nil b' bs)
          omega
      · have := h (List.cons_ne_nil b bs)
        omega
      · congr 1
        · simp [Nat.add_assoc, Nat.add_comm 1]
        · rw [BitVec.add_assoc]
          congr 1
          apply BitVec.eq_of_toNat_eq
          simp [Nat.add_comm]
    · refine iff_of_false (puts_cons_ne_ok hput b bs t) ?_
      rintro ⟨h, -⟩
      have := h (List.cons_ne_nil b bs)
      rw [List.length_cons] at this
      omega

theorem putWords_eq_puts {n : ℕ} {which : Fin n → Bool} {value : Fin n → BitVec 16}
    {order : List (Fin n)} (r : PartialReport) :
    r.putWords which value order
      = r.puts ((order.filter which).flatMap fun i => [lowByte (value i), highByte (value i)]) := by
  induction order generalizing r with
  | nil => rfl
  | cons i order ih =>
    rw [List.filter_cons]
    by_cases hi : which i
    · rw [if_pos hi, List.flatMap_cons, puts_append]
      have hcons : r.putWords which value (i :: order)
          = r.puts [lowByte (value i), highByte (value i)]
            >>= fun t => t.putWords which value order := by
        simp [putWords, puts, hi]
      rw [hcons]
      exact congrArg _ (funext ih)
    · rw [if_neg hi, ← ih r]
      simp [putWords, hi, bind, Except.bind]

end PartialReport

/-! ### The report as a whole -/

namespace HidInputs

/-- The bytes of the words of a table that are included. -/
def wordBytes {n : ℕ} (which : Fin n → Bool) (table : List (Fin n × List Byte))
    (value : Fin n → BitVec 16) : List Byte :=
  (table.filter fun entry => which entry.1).flatMap fun entry =>
    [lowByte (value entry.1), highByte (value entry.1)]

variable (d : HidInputs) (c : HidConfiguration)

/-- The bytes of the configured buttons. There are inputs for 128 of them. -/
def buttonBytes : List Byte :=
  (List.ofFn d.buttons ++ .replicate (c.numOfButtonBytes.toNat - 16) 0).take
    c.numOfButtonBytes.toNat

def specialBytes : List Byte :=
  if 0 < c.getTotalSpecialButtonCount then [d.specialButtons] else []

/-- One of the hat switches, as a byte. -/
def hatByte (i : ℕ) : Byte := if h : i < 4 then lowByte (d.hats ⟨i, h⟩) else 0

/-- The hat switches, the last one first. -/
def hatBytes : List Byte := (List.range c.hatSwitchCount.toNat).reverse.map d.hatByte

/-- What comes after the buttons. -/
def tailBytes : List Byte :=
  d.specialBytes c ++ wordBytes c.whichAxes axisUsages d.axes
    ++ wordBytes c.whichSimulationControls simulationUsages d.simulationControls ++ d.hatBytes c

/-- The whole report. -/
def reportBytes : List Byte := d.buttonBytes c ++ d.tailBytes c

end HidInputs

/-- `reportSize`, before it is cut to a byte. -/
def HidConfiguration.fullSize (c : HidConfiguration) : ℕ :=
  c.numOfButtonBytes.toNat + c.numOfSpecialButtonBytes + c.numOfAxisBytes + c.numOfSimulationBytes
    + c.hatSwitchCount.toNat

/-- The report has room for the sixteen bytes of buttons, its size is not cut, and there are no more
hat switches than inputs for them. -/
structure HidConfiguration.Fits (c : HidConfiguration) : Prop where
  hats : c.hatSwitchCount.toNat ≤ 4
  buttons : 16 ≤ c.fullSize
  byte : c.fullSize < 256

section

variable (d : HidInputs) (c : HidConfiguration)

theorem toNat_numOfButtonBytes (hcount : c.buttonCount.toNat < 256) :
    c.numOfButtonBytes.toNat = HidConfiguration.bytesFor c.buttonCount.toNat := by
  rw [HidConfiguration.numOfButtonBytes, BitVec.toNat_ofNat, Nat.mod_eq_of_lt]
  rw [HidConfiguration.bytesFor]
  split <;> omega

theorem toNat_reportSize : c.reportSize.toNat = c.fullSize % 256 := by
  rw [HidConfiguration.reportSize, BitVec.toNat_ofNat, HidConfiguration.fullSize]

namespace HidInputs

theorem length_wordBytes {n : ℕ} (which : Fin n → Bool) (table : List (Fin n × List Byte))
    (value : Fin n → BitVec 16) :
    (wordBytes which table value).length
      = 2 * (table.filter fun entry => which entry.1).length := by
  simp [wordBytes, Nat.mul_comm]

theorem length_specialBytes : (d.specialBytes c).length = c.numOfSpecialButtonBytes := by
  have hle : c.getTotalSpecialButtonCount ≤ 8 := by
    rw [HidConfiguration.getTotalSpecialButtonCount, countSet_eq_countP]
    exact List.countP_le_length
  rw [specialBytes, HidConfiguration.numOfSpecialButtonBytes, HidConfiguration.bytesFor,
    HidConfiguration.paddingBits]
  split_ifs
  all_goals try simp only [List.length_singleton, List.length_nil]
  all_goals omega

theorem length_tailBytes :
    (d.tailBytes c).length + c.numOfButtonBytes.toNat = c.fullSize := by
  rw [tailBytes, List.length_append, List.length_append, List.length_append, length_specialBytes,
    length_wordBytes, length_wordBytes, ← axis_count, ← simulation_count, hatBytes, List.length_map,
    List.length_reverse, List.length_range, HidConfiguration.fullSize,
    HidConfiguration.numOfAxisBytes, HidConfiguration.numOfSimulationBytes]
  omega

theorem length_buttonBytes : (d.buttonBytes c).length = c.numOfButtonBytes.toNat := by
  simp [buttonBytes]
  omega

theorem length_reportBytes : (d.reportBytes c).length = c.fullSize := by
  rw [reportBytes, List.length_append, length_buttonBytes, Nat.add_comm, length_tailBytes]

/-- The words of a table, as `sendReport` writes them. -/
theorem putWords_eq_puts_wordBytes {n : ℕ} (which : Fin n → Bool) (table : List (Fin n × List Byte))
    (value : Fin n → BitVec 16) (r : PartialReport) :
    r.putWords which value (table.map Prod.fst) = r.puts (wordBytes which table value) := by
  rw [PartialReport.putWords_eq_puts, List.filter_map, List.flatMap_map]
  rfl

theorem putHats_eq_puts (h : c.hatSwitchCount.toNat ≤ 4) (r : PartialReport) :
    d.putHats c r = r.puts (d.hatBytes c) := by
  rw [putHats, hatBytes, PartialReport.puts, List.foldlM_map]
  have hlt : ∀ i ∈ (List.range c.hatSwitchCount.toNat).reverse, i < 4 := by
    intro i hi
    rw [List.mem_reverse, List.mem_range] at hi
    omega
  generalize (List.range c.hatSwitchCount.toNat).reverse = indices at hlt
  induction indices generalizing r with
  | nil => rfl
  | cons i indices ih =>
    rw [List.forall_mem_cons] at hlt
    have hhat : d.hat i = .ok (d.hatByte i) := by rw [hat, hatByte, dif_pos hlt.1, dif_pos hlt.1]
    rw [List.foldlM_cons, List.foldlM_cons, hhat]
    refine congrArg _ (funext fun t => ih t hlt.2)

theorem putHats_eq_error (h : 4 < c.hatSwitchCount.toNat) (r : PartialReport) :
    d.putHats c r = .error .hatIndex := by
  obtain ⟨n, hn⟩ : ∃ n, c.hatSwitchCount.toNat = n + 1 := ⟨c.hatSwitchCount.toNat - 1, by omega⟩
  have hhat : d.hat n = .error .hatIndex := by rw [hat, dif_neg (by omega)]
  rw [putHats, hn, List.range_succ, List.reverse_append, List.reverse_singleton,
    List.singleton_append, List.foldlM_cons, hhat]
  rfl

theorem putSpecialButtons_eq_puts (r : PartialReport) :
    d.putSpecialButtons c r = r.puts (d.specialBytes c) := by
  rw [putSpecialButtons, specialBytes]
  split
  · simp [PartialReport.puts]
  · rfl

/-- Up to the hat switches, `sendReport` writes a series of bytes. -/
theorem report_eq (g : HidGlobals) :
    d.report g c = do
      let r ← PartialReport.start g d.buttons
      let r ← r.puts (d.specialBytes c ++ wordBytes c.whichAxes axisUsages d.axes
        ++ wordBytes c.whichSimulationControls simulationUsages d.simulationControls)
      let r ← d.putHats c r
      return r.m := by
  have haxes (r : PartialReport) := putWords_eq_puts_wordBytes c.whichAxes axisUsages d.axes r
  have hsimulation (r : PartialReport) :=
    putWords_eq_puts_wordBytes c.whichSimulationControls simulationUsages d.simulationControls r
  simp only [axisUsages, simulationUsages, List.map_cons, List.map_nil] at haxes hsimulation
  simp only [report, putSpecialButtons_eq_puts, haxes, hsimulation, PartialReport.puts_append,
    bind_assoc]
  rfl

/-- With more than four hat switches there is no report. -/
theorem report_ne_ok (h : 4 < c.hatSwitchCount.toNat) (g : HidGlobals) (m : List Byte) :
    d.report g c ≠ .ok m := by
  intro hok
  rw [report_eq] at hok
  obtain ⟨r, -, hok⟩ := Runs.bind_eq_ok_iff.mp hok
  obtain ⟨r', -, hok⟩ := Runs.bind_eq_ok_iff.mp hok
  rw [d.putHats_eq_error c h r'] at hok
  cases hok

/-- Otherwise everything behind the buttons is a series of bytes. -/
theorem report_eq_puts (h : c.hatSwitchCount.toNat ≤ 4) (g : HidGlobals) :
    d.report g c = do
      let r ← PartialReport.start g d.buttons
      let r ← r.puts (d.tailBytes c)
      return r.m := by
  simp only [report_eq, d.putHats_eq_puts c h, tailBytes, PartialReport.puts_append, bind_assoc]

/-- In a longer buffer these are the same bytes of buttons. -/
theorem take_eq_buttonBytes {k : ℕ} (h : c.numOfButtonBytes.toNat - 16 ≤ k) :
    (List.ofFn d.buttons ++ .replicate k 0).take c.numOfButtonBytes.toNat = d.buttonBytes c := by
  rw [buttonBytes, List.take_append, List.take_append, List.length_ofFn, List.take_replicate,
    List.take_replicate, Nat.min_eq_left h, Nat.min_self]

/-- With the bytes of buttons in front, the tail fills the buffer. -/
theorem buttons_append_tail (hle : 16 ≤ c.fullSize) :
    (List.ofFn d.buttons ++ .replicate (c.fullSize - 16) 0).take c.numOfButtonBytes.toNat
      ++ d.tailBytes c ++ (List.ofFn d.buttons ++ .replicate (c.fullSize - 16) 0).drop
        (c.numOfButtonBytes.toNat + (d.tailBytes c).length) = d.reportBytes c := by
  have hlength := d.length_tailBytes c
  rw [d.take_eq_buttonBytes c (by omega), List.drop_eq_nil_of_le (by simp; omega),
    List.append_nil, reportBytes]

/-- A tail that fits into the buffer leaves no size that does not fit into a byte. -/
theorem fullSize_lt_of_tail_fits (hstart : 16 ≤ c.fullSize % 256)
    (hfits : d.tailBytes c ≠ [] → c.numOfButtonBytes.toNat + (d.tailBytes c).length
      ≤ (List.ofFn d.buttons ++ .replicate (c.fullSize % 256 - 16) (0 : Byte)).length) :
    c.fullSize < 256 := by
  have hlength := d.length_tailBytes c
  have := c.numOfButtonBytes.isLt
  rcases List.eq_nil_or_concat (d.tailBytes c) with hnil | ⟨_, _, hcons⟩
  · rw [hnil, List.length_nil] at hlength
    omega
  · have := hfits (by simp [hcons])
    simp at this
    omega

/-- **When the report fits, and what it is.** The buffer must be long enough for sixteen bytes of
buttons, however many are configured. -/
theorem report_eq_ok_iff {g : HidGlobals} {m : List Byte} (hsize : g.reportSize = c.reportSize)
    (hbuttons : g.numOfButtonBytes = c.numOfButtonBytes) :
    d.report g c = .ok m ↔ c.Fits ∧ m = d.reportBytes c := by
  have hlength := d.length_tailBytes c
  by_cases hhats : c.hatSwitchCount.toNat ≤ 4
  · rw [d.report_eq_puts c hhats, PartialReport.start, hsize, hbuttons, toNat_reportSize]
    by_cases hstart : 16 ≤ c.fullSize % 256
    · rw [if_pos hstart]
      have hputs (t : PartialReport) := PartialReport.puts_eq_ok_iff (t := t)
        (r := ⟨List.ofFn d.buttons ++ .replicate (c.fullSize % 256 - 16) 0, c.numOfButtonBytes⟩)
        (d.tailBytes c) (by simp; omega)
      constructor
      · intro h
        obtain ⟨r, hr, h⟩ := Runs.bind_eq_ok_iff.mp h
        obtain rfl := Except.ok.inj hr
        obtain ⟨t, ht, h⟩ := Runs.bind_eq_ok_iff.mp h
        obtain rfl := Except.ok.inj h
        obtain ⟨hfits, rfl⟩ := (hputs t).mp ht
        have hsize : c.fullSize < 256 := d.fullSize_lt_of_tail_fits c hstart hfits
        rw [Nat.mod_eq_of_lt hsize] at hstart ⊢
        exact ⟨⟨hhats, hstart, hsize⟩, d.buttons_append_tail c hstart⟩
      · rintro ⟨⟨-, -, hsize⟩, rfl⟩
        rw [Nat.mod_eq_of_lt hsize] at hstart hputs ⊢
        refine Runs.bind_eq_ok_iff.mpr ⟨_, rfl, Runs.bind_eq_ok_iff.mpr
          ⟨_, (hputs _).mpr ⟨fun _ => ?_, rfl⟩, ?_⟩⟩
        · simp
          omega
        · exact congrArg _ (d.buttons_append_tail c hstart)
    · rw [if_neg hstart]
      constructor
      · intro h
        cases h
      · rintro ⟨⟨-, h₁, h₂⟩, -⟩
        rw [Nat.mod_eq_of_lt h₂] at hstart
        exact absurd h₁ hstart
  · constructor
    · intro h
      exact absurd h (d.report_ne_ok c (by omega) g m)
    · rintro ⟨h, -⟩
      exact absurd h.hats hhats

end HidInputs

end

/-! ### What a host sees -/

namespace HidInputs

variable (d : HidInputs) (c : HidConfiguration)

/-- The bit of button `i + 1`. -/
def button (i : ℕ) : Bool :=
  if h : i / 8 < 16 then (d.buttons ⟨i / 8, h⟩).getLsbD (i % 8) else false

def buttonsSeen : List (Usage × Option ℤ) :=
  (List.range c.buttonCount.toNat).map fun i => (⟨0x09, i + 1⟩, some (d.button i).toInt)

/-- The special buttons of a page. -/
def specialPageSeen (page : ℕ) (table : List (Fin 8 × List Byte)) : List (Usage × Option ℤ) :=
  (table.filter fun entry => c.whichSpecialButtons entry.1).map fun entry =>
    (⟨page, unsigned entry.2.tail⟩, some (d.specialButtons.getLsbD (c.bitPosition entry.1)).toInt)

/-- A word as a field of some range holds it. It is signed if the range reaches below zero. -/
def wordSeen (min max v : BitVec 16) : Option ℤ :=
  inRange min.toInt max.toInt (if min.toInt < 0 then v.toInt else v.toNat)

/-- The words of a table. -/
def wordsSeen {n : ℕ} (which : Fin n → Bool) (table : List (Fin n × List Byte)) (page : ℕ)
    (min max : BitVec 16) (value : Fin n → BitVec 16) : List (Usage × Option ℤ) :=
  (table.filter fun entry => which entry.1).map fun entry =>
    (⟨page, unsigned entry.2.tail⟩, wordSeen min max (value entry.1))

/-- The hat switches, the last one first. One of them holds a direction from 1 to 8, or none. -/
def hatsSeen : List (Usage × Option ℤ) :=
  (List.range c.hatSwitchCount.toNat).reverse.map fun i =>
    (⟨0x01, 0x39⟩, inRange 1 8 (d.hatByte i).toNat)

/-- What a host should see of the inputs. -/
def seen : List (Usage × Option ℤ) :=
  d.buttonsSeen c
    ++ (d.specialPageSeen c 0x01 desktopUsages ++ d.specialPageSeen c 0x0C consumerUsages)
    ++ wordsSeen c.whichAxes axisUsages 0x01 c.axesMin c.axesMax d.axes
    ++ wordsSeen c.whichSimulationControls simulationUsages 0x02 c.simulationMin c.simulationMax
      d.simulationControls
    ++ d.hatsSeen c

/-! ### Decoding the parts -/

/-- Where each element of a list has as its position the number of chosen ones before it, the chosen
ones have the positions below their number. -/
theorem map_filter_eq_range {α : Type*} {l : List α} {p : α → Bool} {position : α → ℕ}
    (h : ∀ pre a post, l = pre ++ a :: post → position a = pre.countP p) :
    (l.filter p).map position = List.range (l.countP p) := by
  induction l using List.reverseRecOn with
  | nil => rfl
  | append_singleton l a ih =>
    have hinit := ih fun pre b post hl => h pre b (post ++ [a]) (by simp [hl])
    have hlast := h l a [] rfl
    rw [List.filter_append, List.map_append, hinit, List.countP_append]
    cases ha : p a
    · simp [ha]
    · simp [ha, hlast, List.range_succ]

/-- The bits of the report's first bytes are the buttons. -/
theorem getLsbD_buttonBytes {i : ℕ} (h : i < 8 * c.numOfButtonBytes.toNat) :
    ((d.buttonBytes c).getD (i / 8) 0).getLsbD (i % 8) = d.button i := by
  rw [buttonBytes, List.getD_eq_getElem?_getD, List.getElem?_take_of_lt (by omega), button]
  by_cases hi : i / 8 < 16
  · rw [List.getElem?_append_left (by simpa using hi), List.getElem?_ofFn, dif_pos hi, dif_pos hi,
      Option.getD_some]
  · rw [dif_neg hi, List.getElem?_append_right (by simp; omega), List.length_ofFn,
      List.getElem?_replicate, if_pos (by omega), Option.getD_some]
    simp

theorem decode_buttons (hcount : c.buttonCount.toNat < 256) :
    decode c.buttonFields (bits (d.buttonBytes c)) = d.buttonsSeen c := by
  have hbits : bits (d.buttonBytes c) = (List.range c.buttonCount.toNat).map d.button
      ++ (List.range (HidConfiguration.paddingBits c.buttonCount.toNat)).map fun i =>
        d.button (c.buttonCount.toNat + i) := by
    rw [bits_eq_map_range, length_buttonBytes,
      List.map_congr_left fun i hi => d.getLsbD_buttonBytes c (List.mem_range.mp hi),
      toNat_numOfButtonBytes c hcount,
      ← HidConfiguration.add_paddingBits, List.range_add, List.map_append, List.map_map]
    rfl
  rw [hbits, HidConfiguration.buttonFields,
    decode_append (by simp [HidConfiguration.inputField, Function.comp_def]),
    decode_map_bit (fun i => ⟨0x09, i + 1⟩) (fun _ _ => rfl) (fun _ _ => rfl)
      (fun _ _ => rfl) (fun _ _ => rfl), decode_constant (c.padding_constant _), List.append_nil,
    buttonsSeen]

theorem bits_specialBytes :
    bits (d.specialBytes c)
      = (List.range (8 * c.numOfSpecialButtonBytes)).map d.specialButtons.getLsbD := by
  have hlength := d.length_specialBytes c
  rw [bits_eq_map_range, hlength]
  refine List.map_congr_left fun i hi => ?_
  rw [specialBytes] at hlength ⊢
  split at hlength
  · rename_i hcount
    rw [List.mem_range, ← hlength, List.length_singleton] at hi
    rw [if_pos hcount, Nat.div_eq_of_lt (by omega), Nat.mod_eq_of_lt (by omega),
      List.getD_cons_zero]
  · rw [← hlength] at hi
    cases hi

/-- The positions of the included special buttons are the numbers below their count. -/
theorem map_bitPosition :
    ((desktopUsages ++ consumerUsages).filter fun entry => c.whichSpecialButtons entry.1).map
        (fun entry => c.bitPosition entry.1)
      = List.range c.getTotalSpecialButtonCount := by
  have hposition : ∀ pre b post, List.finRange 8 = pre ++ b :: post →
      c.bitPosition b = pre.countP c.whichSpecialButtons := by
    intro pre b post h
    have hb : b.val = pre.length := by
      have hget : (List.finRange 8)[pre.length]? = some b := by rw [h]; simp
      rw [List.getElem?_eq_some_iff] at hget
      obtain ⟨hlt, rfl⟩ := hget
      simp
    rw [HidConfiguration.bitPosition, countSet_eq_countP, h, hb, List.take_left]
  rw [HidConfiguration.getTotalSpecialButtonCount, countSet_eq_countP,
    ← map_filter_eq_range hposition,
    show List.finRange 8 = (desktopUsages ++ consumerUsages).map Prod.fst from by decide,
    List.filter_map, List.map_map]
  rfl

/-- The bits of the special buttons of a page. -/
def specialPageBits (table : List (Fin 8 × List Byte)) : List Bool :=
  (table.filter fun entry => c.whichSpecialButtons entry.1).map fun entry =>
    d.specialButtons.getLsbD (c.bitPosition entry.1)

theorem length_specialPageBits (page : ℕ) (table : List (Fin 8 × List Byte)) :
    (d.specialPageBits c table).length
      = ((HidConfiguration.usageFields c.whichSpecialButtons table fun u =>
          c.inputField page u 1 0 1).map Field.size).sum := by
  rw [c.sum_size_usageFields, Nat.mul_one, specialPageBits, List.length_map]

theorem decode_specialPage (page : ℕ) (table : List (Fin 8 × List Byte)) :
    decode (HidConfiguration.usageFields c.whichSpecialButtons table fun u =>
        c.inputField page u 1 0 1) (d.specialPageBits c table)
      = d.specialPageSeen c page table := by
  rw [HidConfiguration.usageFields, specialPageBits,
    decode_map_bit (fun entry => ⟨page, unsigned entry.2.tail⟩) (fun _ _ => rfl)
      (fun _ _ => rfl) (fun _ _ => rfl) (fun _ _ => rfl), specialPageSeen]

theorem decode_specialButtons :
    decode c.specialButtonFields (bits (d.specialBytes c))
      = d.specialPageSeen c 0x01 desktopUsages ++ d.specialPageSeen c 0x0C consumerUsages := by
  have hbits : bits (d.specialBytes c)
      = d.specialPageBits c desktopUsages ++ d.specialPageBits c consumerUsages
        ++ (List.range (HidConfiguration.paddingBits c.getTotalSpecialButtonCount)).map fun i =>
          d.specialButtons.getLsbD (c.getTotalSpecialButtonCount + i) := by
    rw [bits_specialBytes, HidConfiguration.numOfSpecialButtonBytes,
      ← HidConfiguration.add_paddingBits, List.range_add, List.map_append, ← map_bitPosition,
      List.filter_append, List.map_append, List.map_append, List.map_map, List.map_map,
      List.map_map]
    rfl
  have hdesktop := d.length_specialPageBits c 0x01 desktopUsages
  have hconsumer := d.length_specialPageBits c 0x0C consumerUsages
  rw [hbits, HidConfiguration.specialButtonFields,
    decode_append
      (by rw [List.length_append, List.map_append, List.sum_append, hdesktop, hconsumer]),
    decode_append hdesktop, decode_specialPage, decode_specialPage,
    decode_constant (c.padding_constant _), List.append_nil]

theorem decode_words {n page : ℕ} (which : Fin n → Bool) (table : List (Fin n × List Byte))
    (min max : BitVec 16) (value : Fin n → BitVec 16) :
    decode (HidConfiguration.usageFields which table fun u =>
        c.inputField page u 16 min.toInt max.toInt) (bits (wordBytes which table value))
      = wordsSeen which table page min max value := by
  rw [wordBytes, bits_flatMap, HidConfiguration.usageFields,
    decode_flatMap (fun entry => ⟨page, unsigned entry.2.tail⟩) (fun _ _ => rfl), wordsSeen]
  · refine List.map_congr_left fun entry _ => ?_
    have hvalue := Field.value_word (w := 16)
      (f := c.inputField page (unsigned entry.2.tail) 16 min.toInt max.toInt) rfl (value entry.1)
    rw [show bits [lowByte (value entry.1), highByte (value entry.1)] = _ from bits_word _, hvalue]
    rfl
  · intro entry _
    rw [length_bits]
    rfl

theorem decode_hats : decode c.hatFields (bits (d.hatBytes c)) = d.hatsSeen c := by
  have hfields : c.hatFields = (List.range c.hatSwitchCount.toNat).reverse.map
      fun _ => c.inputField 0x01 0x39 8 1 8 := by
    rw [List.map_const', List.length_reverse, List.length_range, HidConfiguration.hatFields]
  have hbytes : d.hatBytes c
      = (List.range c.hatSwitchCount.toNat).reverse.flatMap fun i => [d.hatByte i] :=
    List.map_eq_flatMap
  rw [hfields, hbytes, bits_flatMap,
    decode_flatMap (fun _ => ⟨0x01, 0x39⟩) (fun _ _ => rfl), hatsSeen]
  · refine List.map_congr_left fun i _ => ?_
    have hvalue := Field.value_word (w := 8) (f := c.inputField 0x01 0x39 8 1 8) rfl (d.hatByte i)
    rw [bits, List.flatMap_singleton, hvalue]
    rfl
  · intro i _
    rw [length_bits]
    rfl

theorem length_bits_buttonBytes (hcount : c.buttonCount.toNat < 256) :
    (bits (d.buttonBytes c)).length = (c.buttonFields.map Field.size).sum := by
  rw [length_bits, length_buttonBytes, toNat_numOfButtonBytes c hcount, c.sum_size_buttonFields]

theorem length_bits_specialBytes :
    (bits (d.specialBytes c)).length = (c.specialButtonFields.map Field.size).sum := by
  rw [length_bits, length_specialBytes, c.sum_size_specialButtonFields]

theorem length_bits_axisBytes :
    (bits (wordBytes c.whichAxes axisUsages d.axes)).length
      = (c.axisFields.map Field.size).sum := by
  rw [length_bits, length_wordBytes, c.sum_size_axisFields, HidConfiguration.numOfAxisBytes,
    axis_count, Nat.mul_comm 2]

theorem length_bits_simulationBytes :
    (bits (wordBytes c.whichSimulationControls simulationUsages d.simulationControls)).length
      = (c.simulationFields.map Field.size).sum := by
  rw [length_bits, length_wordBytes, c.sum_size_simulationFields,
    HidConfiguration.numOfSimulationBytes, simulation_count, Nat.mul_comm 2]

/-- **What a host decodes from a report.** -/
theorem decode_reportBytes (hcount : c.buttonCount.toNat < 256) :
    decode c.inputFields (bits (d.reportBytes c)) = d.seen c := by
  rw [HidConfiguration.inputFields, reportBytes, tailBytes, bits_append, bits_append, bits_append,
    bits_append]
  have hbuttons := d.length_bits_buttonBytes c hcount
  have hspecial := d.length_bits_specialBytes c
  have haxes := d.length_bits_axisBytes c
  have hsimulation := d.length_bits_simulationBytes c
  simp only [List.append_assoc]
  rw [decode_append hbuttons, decode_append hspecial, decode_append haxes,
    decode_append hsimulation, decode_buttons d c hcount, decode_specialButtons,
    HidConfiguration.axisFields, decode_words, HidConfiguration.simulationFields, decode_words,
    decode_hats, seen]
  simp only [List.append_assoc]

/-- **The descriptor describes the report.** Whatever the configuration, where neither `begin` nor
`sendReport` leaves its buffer, a host that reads the descriptor finds the inputs in the report. -/
theorem report_seen {g : HidGlobals} {m : List Byte} (hcount : c.buttonCount.toNat < 256)
    (hbegin : HidGlobals.init.begin c = .ok g) (h : d.report g c = .ok m) :
    ∃ fs, Hid.fields g.tempHidReportDescriptor = some fs ∧
      decode (inputReport c.hidReportId.toNat fs) (bits m) = d.seen c := by
  obtain ⟨hbytes, hsize, hbuttons⟩ := HidGlobals.begin_eq_ok_iff.mp hbegin
  obtain ⟨-, rfl⟩ := (d.report_eq_ok_iff c hsize hbuttons).mp h
  refine ⟨c.inputFields ++ c.outputFields, ?_, ?_⟩
  · rw [hbytes]
    exact hidReportDescriptor_fields c hcount
  · rw [c.inputReport_fields, d.decode_reportBytes c hcount]

/-- Two buttons, the start button, two axes and the hat switch. -/
theorem report_seen_pressed :
    let c : HidConfiguration :=
      { BleGamepadConfiguration.new.hid with whichSpecialButtons := fun i => i = startButton }
    let d : HidInputs :=
      { buttons := fun i => if i = 0 then 0x05 else 0
        specialButtons := 0x01
        axes := fun i => if i = xAxis then 0x1234 else if i = yAxis then 0x7FFF else 0
        simulationControls := fun _ => 0
        hats := fun i => if i = 0 then 3 else 0 }
    ∃ g m fs, HidGlobals.init.begin c = .ok g ∧ d.report g c = .ok m ∧
      Hid.fields g.tempHidReportDescriptor = some fs ∧
      decode (inputReport c.hidReportId.toNat fs) (bits m) = d.seen c := by
  intro c d
  have hbegin := HidGlobals.begin_of_le (c := c) (g := .init) (by decide +kernel)
  have hfits : c.Fits := ⟨by decide, by decide +kernel, by decide +kernel⟩
  obtain ⟨-, hsize, hbuttons⟩ := HidGlobals.begin_eq_ok_iff.mp hbegin
  have hreport := (d.report_eq_ok_iff c hsize hbuttons).mpr ⟨hfits, rfl⟩
  obtain ⟨fs, hfs, hseen⟩ := d.report_seen c (by decide) hbegin hreport
  exact ⟨_, _, fs, hbegin, hreport, hfs, hseen⟩

end HidInputs

end ImuGamepad
