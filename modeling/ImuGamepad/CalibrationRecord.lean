import ImuGamepad.Calibration
import ImuGamepad.Library.Crc

/-!
# Loading the sensor calibration

`Adafruit_Sensor_Calibration_EEPROM` loads the record that it has saved, if the remainder of the CRC
over the whole record, the saved checksum included, is zero and the magic bytes are there.

The record holds six of the nine soft-iron entries. The other three are taken from their mirror
images, so that a calibration comes back as it was if its matrix is symmetric.

## Main definitions

* `SensorCalibration.begin`, `SensorCalibration.loadCalibration`
* `SensorCalibration.symmetrized` — what a record can say of a calibration
* `SensorCalibration.wrongBits` — where the bytes in the EEPROM are not those that were saved

## Main results

* `crc16Update_eq` — the checksum is a CRC
* `SensorCalibration.loadCalibration_saved` — what has been saved is loaded
* `SensorCalibration.loadCalibration_corrupted` — what has been damaged is not
-/

namespace ImuGamepad

open Bits Crc

/-- `EEPROM.read(address)`. -/
def EEPROMClass.read (e : EEPROMClass) (address : ℕ) : Byte :=
  match e.data with
  | some img => if h : address < 512 then img ⟨address, h⟩ else 0
  | none => 0

namespace SensorCalibration

/-- `begin(eeprom_addr)`. What beginning the EEPROM returns is ignored. -/
def begin (eepromAddr : Byte) (ok : Bool) (c : SensorCalibration) (e : EEPROMClass) :
    SensorCalibration × EEPROMClass :=
  ({ c with eeAddr := eepromAddr.setWidth 16 }, (e.begin ok).2)

/-- The bytes that `loadCalibration` reads. -/
def readRecord (c : SensorCalibration) (e : EEPROMClass) : Bytes 68 :=
  fun a => e.read (a + c.eeAddr.toNat)

/-- `loadCalibration()`. -/
def loadCalibration (c : SensorCalibration) (e : EEPROMClass) : Bool × SensorCalibration :=
  let buf := c.readRecord e
  let crc := (List.finRange 68).foldl (fun crc a => crc16Update crc (buf a)) 0xFFFF
  if crc ≠ 0 ∨ buf 0 ≠ 0x75 ∨ buf 1 ≠ 0x54 then (false, c)
  else
    let offsets (i : Fin 16) : BitVec 32 := Bytes.toWord 32 (Bytes.slice buf (2 + 4 * i) 4)
    (true, { c with
      accelZerog := ![offsets 0, offsets 1, offsets 2]
      gyroZerorate := ![offsets 3, offsets 4, offsets 5]
      magHardiron := ![offsets 6, offsets 7, offsets 8]
      magField := offsets 9
      magSoftiron := ![offsets 10, offsets 13, offsets 14, offsets 13, offsets 11, offsets 15,
        offsets 14, offsets 15, offsets 12] })

/-- A calibration with the entries below the diagonal of its soft-iron matrix as they are above. -/
def symmetrized (c : SensorCalibration) : SensorCalibration :=
  { c with
    magSoftiron := fun i =>
      c.magSoftiron ⟨3 * min (i / 3 : ℕ) (i % 3) + max (i / 3 : ℕ) (i % 3), by omega⟩ }

end SensorCalibration

/-! ### The checksum -/

/-- The polynomial `x¹⁶ + x¹⁵ + x² + 1`. -/
def crcPoly : BitVec 16 := 0xA001

/-- **The checksum is a CRC.** -/
theorem crc16Update_eq (crc : BitVec 16) (a : Byte) :
    SensorCalibration.crc16Update crc a
      = remainder crcPoly (List.ofFn fun i : Fin 8 => a.getLsbD i) crc := by
  have hlow (crc : BitVec 16) : crc &&& 1 ≠ 0 ↔ crc.getLsbD 0 = true := by
    rw [show crc &&& 1 = (BitVec.ofBool (crc.getLsbD 0)).setWidth 16 from
      BitVec.and_one_eq_setWidth_ofBool_getLsbD]
    cases crc.getLsbD 0 <;> decide
  rw [remainder_eq_iterate (by decide), SensorCalibration.crc16Update]
  simp only [hlow]
  rfl

theorem foldl_crc16Update (bytes : List Byte) (crc : BitVec 16) :
    bytes.foldl SensorCalibration.crc16Update crc = remainder crcPoly (bits bytes) crc := by
  induction bytes generalizing crc with
  | nil => rfl
  | cons b bytes ih =>
    rw [List.foldl_cons, ih, crc16Update_eq, bits, bits, List.flatMap_cons, remainder_append]

theorem foldl_finRange_crc16Update {n : ℕ} (buf : Bytes n) (crc : BitVec 16) :
    (List.finRange n).foldl (fun crc a => SensorCalibration.crc16Update crc (buf a)) crc
      = remainder crcPoly (bits (List.ofFn buf)) crc := by
  rw [← foldl_crc16Update, List.ofFn_eq_map, List.foldl_map]

namespace SensorCalibration

variable {c c' : SensorCalibration} {e : EEPROMClass} {img : Image}

/-- The record ends with its checksum. -/
theorem ofFn_record (c : SensorCalibration) :
    List.ofFn c.record = List.ofFn (fun i : Fin 66 => c.body (i.castLE (by decide)))
      ++ [c.checksum.setWidth 8, (c.checksum >>> 8).setWidth 8] := by
  have hsplit : List.ofFn (n := 66 + 2) c.record
      = (List.ofFn fun i : Fin 66 => c.record (i.castLE (by decide)))
        ++ List.ofFn fun j : Fin 2 => c.record (j.natAdd 66) := List.ofFn_add
  have hbody (i : Fin 66) : c.record (i.castLE (by decide)) = c.body (i.castLE (by decide)) :=
    Bytes.splice_of_not_mem (Or.inl i.isLt)
  have hsum (j : Fin 2) : c.record (j.natAdd 66) = Bytes.ofWord 2 c.checksum j := by
    rw [record, Bytes.splice_of_mem (by simp) (by simp; omega)]
    congr 1
    simp
  simp only [hbody, hsum] at hsplit
  refine hsplit.trans (congrArg _ ?_)
  generalize c.checksum = v
  have hlow : Bytes.ofWord 2 v 0 = v.setWidth 8 := by
    apply BitVec.eq_of_getLsbD_eq
    intro i hi
    simp [Bytes.ofWord, hi]
  have hhigh : Bytes.ofWord 2 v 1 = (v >>> 8).setWidth 8 := by
    apply BitVec.eq_of_getLsbD_eq
    intro i hi
    simp [Bytes.ofWord, hi]
  rw [← hlow, ← hhigh]
  rfl

/-- **The remainder of a record is zero.** -/
theorem remainder_record (c : SensorCalibration) :
    remainder crcPoly (bits (List.ofFn c.record)) 0xFFFF = 0 := by
  have hchecksum : remainder crcPoly
      (bits (List.ofFn fun i : Fin 66 => c.body (i.castLE (by decide)))) 0xFFFF = c.checksum := by
    rw [← foldl_finRange_crc16Update]
    rfl
  rw [ofFn_record, bits_append, remainder_append, hchecksum, bits_word, remainder_bits_self]

/-! ### Saving and loading -/

theorem readRecord_of_data (h : e.data = some img) (hfit : c.eeAddr.toNat + 68 ≤ 512) :
    c.readRecord e = Bytes.slice img c.eeAddr.toNat 68 := by
  funext j
  have hlt : (j : ℕ) + c.eeAddr.toNat < 512 := by omega
  rw [readRecord, EEPROMClass.read, h, Bytes.slice_apply j (by omega)]
  simp only [dif_pos hlt, Nat.add_comm]

/-- The floats lie one after the other. -/
theorem offsets_record (c : SensorCalibration) (i : Fin 16) :
    Bytes.toWord 32 (Bytes.slice c.record (2 + 4 * i) 4) = c.offsets i := by
  have hword : Bytes.slice c.record (2 + 4 * i) 4 = Bytes.ofWord 4 (c.offsets i) := by
    funext j
    rw [Bytes.slice_apply j (by omega), record, Bytes.splice_of_not_mem (by simp only; omega), body,
      Bytes.splice_of_mem (by simp only; omega) (by simp only; omega)]
    have hi : (⟨(2 + 4 * (i : ℕ) + j - 2) / 4, by omega⟩ : Fin 16) = i :=
      Fin.ext (by simp only; omega)
    have hj : (⟨(2 + 4 * (i : ℕ) + j - 2) % 4, by omega⟩ : Fin 4) = j :=
      Fin.ext (by simp only; omega)
    simp only [hi, hj]
  rw [hword, Bytes.toWord_ofWord (by decide)]

/-- A record that is in the EEPROM is loaded. -/
theorem loadCalibration_of_record (hread : c.readRecord e = c'.record) :
    c.loadCalibration e = (true, { c'.symmetrized with eeAddr := c.eeAddr }) := by
  obtain ⟨hmagic₀, hmagic₁⟩ := c'.record_magic
  have hremainder := c'.remainder_record
  simp only [loadCalibration, hread, foldl_finRange_crc16Update, hremainder, hmagic₀, hmagic₁,
    offsets_record, ne_eq, not_true, or_false, if_false]
  have haccel : ![c'.offsets 0, c'.offsets 1, c'.offsets 2] = c'.accelZerog := by
    funext i
    fin_cases i <;> rfl
  have hgyro : ![c'.offsets 3, c'.offsets 4, c'.offsets 5] = c'.gyroZerorate := by
    funext i
    fin_cases i <;> rfl
  have hmag : ![c'.offsets 6, c'.offsets 7, c'.offsets 8] = c'.magHardiron := by
    funext i
    fin_cases i <;> rfl
  have hsoftiron : ![c'.offsets 10, c'.offsets 13, c'.offsets 14, c'.offsets 13, c'.offsets 11,
      c'.offsets 15, c'.offsets 14, c'.offsets 15, c'.offsets 12] = c'.symmetrized.magSoftiron := by
    funext i
    fin_cases i <;> rfl
  rw [haccel, hgyro, hmag, hsoftiron]
  rfl

/-- **What has been saved is loaded**, in whatever boot, but for the soft-iron entries below the
diagonal. -/
theorem loadCalibration_saved (c c' : SensorCalibration) (eepromAddr : Byte)
    (e e' : EEPROMClass)
    (hsaved : e'.committed = ((c'.begin eepromAddr true e).1.saveCalibration
      (c'.begin eepromAddr true e).2).committed) :
    (c.begin eepromAddr true e').1.loadCalibration (c.begin eepromAddr true e').2
      = (true, { c'.symmetrized with eeAddr := eepromAddr.setWidth 16 }) := by
  have haddr : (eepromAddr.setWidth 16).toNat + 68 ≤ 512 := by
    have hlt := eepromAddr.isLt
    rw [BitVec.toNat_setWidth]
    omega
  have hread : (c.begin eepromAddr true e').1.readRecord (c.begin eepromAddr true e').2
      = (c'.begin eepromAddr true e).1.record := by
    have hdata : (c'.begin eepromAddr true e).2.data = some e.committed := rfl
    have hdata' : (c.begin eepromAddr true e').2.data = some e'.committed := rfl
    rw [readRecord_of_data hdata' haddr, hsaved, saveCalibration_of_data hdata]
    exact Bytes.slice_splice_self haddr
  exact loadCalibration_of_record hread

/-- A soft-iron matrix with nine different entries, saved at the address that is the default of
`begin`: what is loaded has lost the three below the diagonal. -/
theorem loadCalibration_saved_asymmetric :
    let c' : SensorCalibration := { default with magSoftiron := fun i => BitVec.ofNat 32 (i + 1) }
    let e : EEPROMClass := ⟨fun _ => 0xFF, none⟩
    let e' : EEPROMClass := ⟨((c'.begin 60 true e).1.saveCalibration
      (c'.begin 60 true e).2).committed, none⟩
    (default.begin 60 true e').1.loadCalibration (default.begin 60 true e').2
        = (true, { c' with
          magSoftiron := ![1, 2, 3, 2, 5, 6, 3, 6, 9]
          eeAddr := 60 }) := by
  intro c' e e'
  have hlost : c'.symmetrized.magSoftiron = ![1, 2, 3, 2, 5, 6, 3, 6, 9] := by decide
  rw [← hlost]
  exact loadCalibration_saved default c' 60 e e' rfl

/-! ### Damage -/

/-- The bits that are not as they were saved. -/
def wrongBits (saved read : Bytes 68) : List Bool :=
  differences (bits (List.ofFn saved)) (bits (List.ofFn read))

theorem length_wrongBits (saved read : Bytes 68) : (wrongBits saved read).length = 544 := by
  rw [wrongBits, differences, List.length_zipWith, length_bits, length_bits, List.length_ofFn,
    List.length_ofFn]
  rfl

/-- The remainder that a load finds is that of the damage. -/
theorem remainder_wrongBits (c : SensorCalibration) (read : Bytes 68) :
    remainder crcPoly (wrongBits c.record read) 0
      = (List.finRange 68).foldl (fun crc a => crc16Update crc (read a)) 0xFFFF := by
  have hlength : (bits (List.ofFn c.record)).length = (bits (List.ofFn read)).length := by
    rw [length_bits, length_bits, List.length_ofFn, List.length_ofFn]
  rw [wrongBits, remainder_differences 0xFFFF hlength, remainder_record,
    foldl_finRange_crc16Update]
  exact BitVec.zero_xor

/-- The first 544 powers of the polynomial's root are not one. -/
theorem avoids_crcPoly : avoids crcPoly (bit 16 true) 544 (bit 16 true) = true := by
  decide +kernel

/-- **Damage is found**: bursts of at most sixteen bits, two wrong bits, and any odd number of
them. -/
theorem loadCalibration_corrupted (c c' : SensorCalibration) (e : EEPROMClass)
    (hwrong : true ∈ wrongBits c'.record (c.readRecord e))
    (h : IsBurst 16 (wrongBits c'.record (c.readRecord e)) ∨
      (wrongBits c'.record (c.readRecord e)).count true = 2 ∨
        Odd ((wrongBits c'.record (c.readRecord e)).count true)) :
    c.loadCalibration e = (false, c) := by
  have hpoly : crcPoly.getLsbD (16 - 1) = true := by decide
  have hne : remainder crcPoly (wrongBits c'.record (c.readRecord e)) 0 ≠ 0 := by
    rcases h with hburst | htwo | hodd
    · exact remainder_ne_zero_of_burst hpoly hburst hwrong
    · refine remainder_ne_zero_of_two hpoly htwo fun d hd => ?_
      exact iterate_ne_of_avoids avoids_crcPoly (by rwa [length_wrongBits] at hd)
    · exact remainder_ne_zero_of_odd (by decide) (by decide) hodd
  rw [remainder_wrongBits] at hne
  exact if_pos (Or.inl hne)

/-- An EEPROM with a record at address 0 of which one bit has been lost. -/
def damaged : EEPROMClass :=
  ⟨fun _ => 0xFF, some fun i =>
    if h : i.val < 68 then
      if i.val = 2 then default.record ⟨i, h⟩ ^^^ 1 else default.record ⟨i, h⟩
    else 0xFF⟩

theorem loadCalibration_corrupted_damaged : default.loadCalibration damaged = (false, default) := by
  have hcount : (wrongBits default.record (default.readRecord damaged)).count true = 1 := by
    decide +kernel
  exact loadCalibration_corrupted default default damaged (List.count_pos_iff.mp (by omega))
    (Or.inr (Or.inr (by rw [hcount]; decide)))

end SensorCalibration

end ImuGamepad
