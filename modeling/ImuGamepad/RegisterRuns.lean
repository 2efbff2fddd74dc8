import ImuGamepad.Library.Runs
import ImuGamepad.RegisterAccess

/-!
# Runs of register accesses

What becomes of the registers when fields of them are read and written, in any order and with any
of the transactions failing. A bit of a register is what it was last set or cleared to, but not only
writes to its own field do that: a write to another field of a register that could not be read sets
it. Where nothing fails, the transactions are those of the plain bus that the drivers are modelled
over.

## Main definitions

* `RegisterEvent`, `Wire.Step` — the accesses, with how they go and what they return
* `RegisterEvent.Sets`, `RegisterEvent.Clears` — what they do to a bit
* `Bus.Step` — the accesses on the plain bus

## Main results

* `Wire.bit_iff` — what a bit is after a run
* `Wire.read_of_written` — a field holds what was written to it
* `Wire.path_bus` — the plain bus
-/

namespace ImuGamepad

open Runs Words

/-- An access to a field, how it goes and what it returns. -/
inductive RegisterEvent
  | write (f : BusIORegisterBits) (data : BitVec 32) (ans : FieldAnswers) (ok : Bool)
  | read (f : BusIORegisterBits) (ans : ReadAnswers) (value : BitVec 32)

/-- An access takes place. -/
def Wire.Step (w : Wire) : RegisterEvent → Wire → Prop
  | .write f data ans ok, w' => f.write ans w data = (ok, w')
  | .read f ans value, w' => f.read ans w = (value, w')

/-! ### Bits -/

namespace RegisterEvent

variable {a : I2CAddr} {reg : RegAddr} {i : ℕ}

/-- An access sets a bit of a chip. -/
def Sets (a : I2CAddr) (reg : RegAddr) (i : ℕ) : RegisterEvent → Prop
  | .write f data ans _ => f.Sets ans data a reg i
  | .read .. => False

/-- An access clears a bit of a chip. -/
def Clears (a : I2CAddr) (reg : RegAddr) (i : ℕ) : RegisterEvent → Prop
  | .write f data ans _ => f.Clears ans data a reg i
  | .read .. => False

/-- An access sets or clears a bit of a field. -/
def Disturbs (f : BusIORegisterBits) (a : I2CAddr) (e : RegisterEvent) : Prop :=
  ∃ reg i, i < 8 ∧ (reg - f.register.address).toNat < f.register.width ∧ f.Covers reg i ∧
    (e.Sets a reg i ∨ e.Clears a reg i)

end RegisterEvent

namespace Wire

variable {w w' : Wire} {e : RegisterEvent} {es pre post : List RegisterEvent} {a : I2CAddr}
  {reg : RegAddr} {i : ℕ}

/-- What one access does to a bit. -/
theorem step_bit_iff (hi : i < 8) (hstep : w.Step e w') :
    (w'.bus a reg).getLsbD i = true ↔
      e.Sets a reg i ∨ ¬ e.Clears a reg i ∧ (w.bus a reg).getLsbD i = true := by
  cases e with
  | write f data ans ok =>
    have hstep : f.write ans w data = (ok, w') := hstep
    have hbit := f.getLsbD_write ans w data a reg hi
    rwa [hstep] at hbit
  | read f ans value =>
    have hstep : f.read ans w = (value, w') := hstep
    have hbus := f.bus_read ans w
    rw [hstep] at hbus
    simp [hbus, RegisterEvent.Sets, RegisterEvent.Clears]

/-- What a write leaves in a bit of its own field that it stores. -/
theorem bit_stored {f : BusIORegisterBits} {data : BitVec 32} {ans : FieldAnswers} {ok : Bool}
    (hi : i < 8) (hstep : w.Step (.write f data ans ok) w')
    (hstores : f.register.Stores ans.write a reg) (hcovers : f.Covers reg i) :
    (w'.bus a reg).getLsbD i = data.getLsbD (f.register.place reg i - f.shift) := by
  have hbit : (w'.bus a reg).getLsbD i = true ↔
      (RegisterEvent.write f data ans ok).Sets a reg i ∨
        ¬ (RegisterEvent.write f data ans ok).Clears a reg i ∧
          (w.bus a reg).getLsbD i = true := step_bit_iff hi hstep
  simp only [RegisterEvent.Sets, RegisterEvent.Clears, BusIORegisterBits.Sets,
    BusIORegisterBits.Clears, hstores, hcovers, true_and, not_true, false_and, or_false] at hbit
  rw [Bool.eq_iff_iff, hbit]
  cases data.getLsbD (f.register.place reg i - f.shift) <;> simp

/-- A bit that nothing sets or clears stays what it is. -/
theorem bit_kept (hi : i < 8) (hpath : Path Step w es w')
    (hkeep : ∀ e ∈ es, ¬ (e.Sets a reg i ∨ e.Clears a reg i)) :
    (w'.bus a reg).getLsbD i = (w.bus a reg).getLsbD i := by
  rw [Bool.eq_iff_iff, hpath.since_or fun _ _ _ hstep => step_bit_iff hi hstep]
  constructor
  · rintro (⟨pre, e, post, rfl, hsets, -⟩ | ⟨-, hbit⟩)
    · exact absurd (Or.inl hsets) (hkeep e (by simp))
    · exact hbit
  · intro hbit
    exact Or.inr ⟨fun e he hclears => hkeep e he (Or.inr hclears), hbit⟩

/-- **What a bit is after a run.** -/
theorem bit_iff (hi : i < 8) (hpath : Path Step w es w') :
    (w'.bus a reg).getLsbD i = true ↔
      Since (RegisterEvent.Sets a reg i) (RegisterEvent.Clears a reg i) es ∨
        (∀ e ∈ es, ¬ e.Clears a reg i) ∧ (w.bus a reg).getLsbD i = true :=
  hpath.since_or fun _ _ _ hstep => step_bit_iff hi hstep

/-- The range of the magnetometer is set after a read that failed. -/
theorem bit_iff_rangeSet :
    let f : BusIORegisterBits :=
      ⟨⟨some ⟨0x1C, 128, by decide, by decide⟩, 0x21, 1, .LSBFIRST, by decide⟩, 2, 5,
        by decide, by decide, by decide⟩
    let ans : FieldAnswers := ⟨⟨.notQueued, fun _ => .received⟩, .sent⟩
    let w : Wire := fun _ => ⟨0, fun _ => 0⟩
    (Wire.bus (f.write ans w 3).2 0x1C 0x21).getLsbD 2 = true ↔
      Since (RegisterEvent.Sets 0x1C 0x21 2) (RegisterEvent.Clears 0x1C 0x21 2)
          [.write f 3 ans true] ∨
        (∀ e ∈ [RegisterEvent.write f 3 ans true], ¬ e.Clears 0x1C 0x21 2) ∧
          (w.bus 0x1C 0x21).getLsbD 2 = true :=
  bit_iff (by decide) (.cons rfl (.nil _))

/-- **A field holds what was written to it**, once the write has returned true and until an access
disturbs it. -/
theorem read_of_written {f : BusIORegisterBits} {d : I2CDevice} {data : BitVec 32}
    {ans : FieldAnswers} {ans' : ReadAnswers} (hdev : f.register.i2cdevice = some d)
    (hpath : Path Step w (.write f data ans true :: es) w')
    (hkeep : ∀ e ∈ es, ¬ e.Disturbs f d.addr) (hread : f.register.Received ans') :
    (f.read ans' w').1 = data &&& BitField.mask f.bits := by
  have hfits := f.fits
  obtain ⟨u, hwrite, hpath⟩ := path_cons_iff.mp hpath
  have hsent : (f.register.write ans.write (f.register.read ans.read w).2
      (BitField.write f.bits f.shift data (f.register.read ans.read w).1) f.register.width).1
        = true := congrArg Prod.fst hwrite
  obtain ⟨d', hdev', hbuffer, hans⟩ := (BusIORegister.write_eq_true_iff _ _).mp hsent
  obtain rfl := Option.some.inj (hdev.symm.trans hdev')
  refine BitVec.eq_of_getLsbD_eq fun j hj => ?_
  rw [BusIORegisterBits.read, BitField.getLsbD_read, BitVec.getLsbD_and, BitField.getLsbD_mask,
    decide_eq_true hj, Bool.true_and, Bool.and_comm]
  by_cases hbits : j < f.bits
  · obtain ⟨reg, i, hi, hreg, hplace⟩ :=
      f.register.exists_place (show f.shift + j < 8 * f.register.width by omega)
    have hcovers : f.Covers reg i := by
      rw [BusIORegisterBits.Covers, hplace]
      omega
    have hstores : f.register.Stores ans.write d.addr reg :=
      ⟨d, hdev, rfl, hbuffer, hreg, by rw [hans]; rfl⟩
    have hwritten : (u.bus d.addr reg).getLsbD i = data.getLsbD j := by
      rw [bit_stored hi hwrite hstores hcovers, hplace, Nat.add_sub_cancel_left]
    have hkept : (w'.bus d.addr reg).getLsbD i = (u.bus d.addr reg).getLsbD i :=
      bit_kept hi hpath fun e he htouched => hkeep e he ⟨reg, i, hi, hreg, hcovers, htouched⟩
    rw [← hplace, BusIORegister.getLsbD_read hread w' hdev hreg hi, hkept, hwritten]
  · simp [hbits]

/-- The range of the magnetometer comes back. -/
theorem read_of_written_range :
    let f : BusIORegisterBits :=
      ⟨⟨some ⟨0x1C, 128, by decide, by decide⟩, 0x21, 1, .LSBFIRST, by decide⟩, 2, 5,
        by decide, by decide, by decide⟩
    let ans : FieldAnswers := ⟨⟨.notQueued, fun _ => .received⟩, .sent⟩
    let w : Wire := fun _ => ⟨0, fun _ => 0⟩
    (f.read ⟨.sent, fun _ => .received⟩ (f.write ans w 3).2).1 = 3 &&& BitField.mask 2 := by
  intro f ans w
  have hpath : Path Step w [.write f 3 ans true] (f.write ans w 3).2 := .cons rfl (.nil _)
  exact read_of_written rfl hpath (fun _ he => by cases he)
    ⟨_, rfl, rfl, fun _ _ => rfl⟩

end Wire

/-! ### The plain bus -/

namespace BusIORegisterBits

/-- The chip behind a field. -/
def chip (f : BusIORegisterBits) : Option I2CAddr := f.register.i2cdevice.map I2CDevice.addr

/-- A field of a register of one byte, which the library's buffer has room for. -/
structure OneByte (f : BusIORegisterBits) : Prop where
  width : f.register.width = 1
  buffer : ∀ d, f.register.i2cdevice = some d → 1 < d.maxBufferSize

end BusIORegisterBits

/-- Every transaction of a read succeeds. -/
structure ReadAnswers.Good (ans : ReadAnswers) : Prop where
  address : ans.address = .sent
  chunks : ∀ i, ans.chunks i = .received

namespace RegisterEvent

/-- The field that is accessed. -/
def field : RegisterEvent → BusIORegisterBits
  | write f .. | read f .. => f

/-- Every transaction of the access succeeds. -/
def Good : RegisterEvent → Prop
  | write _ _ ans _ => ans.read.Good ∧ ans.write = .sent
  | read _ ans _ => ans.Good

end RegisterEvent

/-- An access takes place on the plain bus. -/
def Bus.Step (bus : Bus) : RegisterEvent → Bus → Prop
  | .write f data _ ok, bus' =>
    ok = f.chip.isSome ∧
      bus' = bus.writeBits f.chip f.register.address f.bits f.shift (data.setWidth 8)
  | .read f _ value, bus' =>
    value = (bus.readBits f.chip f.register.address f.bits f.shift).setWidth 32 ∧ bus' = bus

section

variable {w w' : Wire} {f : BusIORegisterBits} {d : I2CDevice}

theorem ReadAnswers.Good.received {ans : ReadAnswers} (hans : ans.Good)
    (hdev : f.register.i2cdevice = some d) : f.register.Received ans :=
  ⟨d, hdev, hans.address, fun i _ => hans.chunks i⟩

/-- The only byte of a register is the lowest one. -/
theorem BusIORegisterBits.OneByte.place (hf : f.OneByte) (i : ℕ) :
    f.register.place f.register.address i = i := by
  rw [BusIORegister.place, hf.width, BitVec.sub_self]
  cases f.register.byteorder <;> simp [ByteOrder.index]

/-- What is sent reaches the one register. -/
theorem BusIORegisterBits.OneByte.stores_iff (hf : f.OneByte)
    (hdev : f.register.i2cdevice = some d) {ans : WriteAnswer} (hans : ans = .sent) (a : I2CAddr)
    (reg : RegAddr) :
    f.register.Stores ans a reg ↔ a = d.addr ∧ reg = f.register.address := by
  simp only [BusIORegister.Stores, hdev, Option.some.injEq, exists_eq_left', hf.width, hans,
    hf.buffer d hdev, true_and, WriteAnswer.stores, and_true, Nat.lt_one_iff]
  refine and_congr_right fun _ => ?_
  bv_omega

/-- A write that goes well is that of the plain bus, -/
theorem BusIORegisterBits.OneByte.bus_write (hf : f.OneByte) {ans : FieldAnswers}
    (hread : ans.read.Good) (hwrite : ans.write = .sent) (w : Wire) (data : BitVec 32) :
    Wire.bus (f.write ans w data).2
      = w.bus.writeBits f.chip f.register.address f.bits f.shift (data.setWidth 8) := by
  funext a reg
  refine BitVec.eq_of_getLsbD_eq fun i hi => ?_
  rw [Bool.eq_iff_iff, f.getLsbD_write ans w data a reg hi, chip]
  cases hdev : f.register.i2cdevice with
  | none =>
    have hstores : ¬ f.register.Stores ans.write a reg := by
      rintro ⟨d, hdev', -⟩
      rw [hdev] at hdev'
      cases hdev'
    simp [Sets, Clears, hstores]
  | some d =>
    have hstores := hf.stores_iff hdev hwrite a reg
    rw [Option.map_some, Bus.writeBits]
    by_cases hreg : a = d.addr ∧ reg = f.register.address
    · obtain ⟨rfl, rfl⟩ := hreg
      have hreceived := hread.received hdev
      have hstores := hstores.mpr ⟨rfl, rfl⟩
      rw [Function.update_self, Function.update_self, BitField.getLsbD_write]
      simp only [Sets, Clears, hstores, Covers, hf.place, hreceived, true_and, not_true,
        and_false, or_false]
      split
      · rename_i hcovers
        rw [decide_eq_true hi, BitVec.getLsbD_setWidth, decide_eq_true (by omega)]
        cases data.getLsbD (i - f.shift) <;> simp [hcovers]
      · rename_i hcovers
        simp [hcovers]
    · have hother : Function.update w.bus d.addr (Function.update (w.bus d.addr)
          f.register.address (BitField.write f.bits f.shift (data.setWidth 8)
            (w.bus d.addr f.register.address))) a reg = w.bus a reg := by
        by_cases ha : a = d.addr
        · subst ha
          rw [Function.update_self, Function.update_of_ne fun h => hreg ⟨rfl, h⟩]
        · rw [Function.update_of_ne ha]
      rw [hother]
      simp [Sets, Clears, hstores, hreg]

/-- and it returns whether there is a chip. -/
theorem BusIORegisterBits.OneByte.write_fst (hf : f.OneByte) {ans : FieldAnswers}
    (hwrite : ans.write = .sent) (w : Wire) (data : BitVec 32) :
    (f.write ans w data).1 = f.chip.isSome := by
  rw [Bool.eq_iff_iff, write, BusIORegister.write_eq_true_iff, chip, Option.isSome_map,
    Option.isSome_iff_exists]
  constructor
  · rintro ⟨d, hdev, -⟩
    exact ⟨d, hdev⟩
  · rintro ⟨d, hdev⟩
    exact ⟨d, hdev, by rw [hf.width]; exact hf.buffer d hdev, hwrite⟩

/-- A read that goes well returns what the plain bus does. -/
theorem BusIORegisterBits.OneByte.read_fst (hf : f.OneByte) {ans : ReadAnswers} (hans : ans.Good)
    (w : Wire) :
    (f.read ans w).1
      = (w.bus.readBits f.chip f.register.address f.bits f.shift).setWidth 32 := by
  have hfits := f.fits
  rw [hf.width] at hfits
  refine BitVec.eq_of_getLsbD_eq fun j hj => ?_
  rw [read, BitField.getLsbD_read, BitVec.getLsbD_setWidth, decide_eq_true hj, Bool.true_and, chip]
  cases hdev : f.register.i2cdevice with
  | none =>
    have hreceived : ¬ f.register.Received ans := by
      rintro ⟨d, hdev', -⟩
      rw [hdev] at hdev'
      cases hdev'
    rw [BusIORegister.read_of_not_received hreceived, BitVec.getLsbD_allOnes, Option.map_none,
      Bus.readBits, BitField.getLsbD_mask]
    by_cases hbits : j < f.bits
    · simp [hbits]
      omega
    · simp [hbits]
  | some d =>
    rw [Option.map_some, Bus.readBits, BitField.getLsbD_read]
    by_cases hbits : j < f.bits
    · have hself : (f.register.address - f.register.address).toNat < f.register.width := by
        rw [hf.width, BitVec.sub_self]
        decide
      have hbit := BusIORegister.getLsbD_read (hans.received hdev) w hdev hself
        (show f.shift + j < 8 by omega)
      rw [hf.place] at hbit
      rw [hbit]
    · simp [hbits]

/-- One access. -/
theorem Wire.Step.bus {e : RegisterEvent} (hf : e.field.OneByte) (hgood : e.Good)
    (hstep : w.Step e w') : w.bus.Step e w'.bus := by
  cases e with
  | write f data ans ok =>
    have hf : f.OneByte := hf
    obtain ⟨hread, hwrite⟩ := hgood
    have hstep : f.write ans w data = (ok, w') := hstep
    have hok := hf.write_fst hwrite w data
    have hbus := hf.bus_write hread hwrite w data
    rw [hstep] at hok hbus
    exact ⟨hok, hbus⟩
  | read f ans value =>
    have hf : f.OneByte := hf
    have hans : ans.Good := hgood
    have hstep : f.read ans w = (value, w') := hstep
    have hvalue := hf.read_fst hans w
    have hbus := f.bus_read ans w
    rw [hstep] at hvalue hbus
    exact ⟨hvalue, hbus⟩

/-- **Where nothing fails**, a run of transactions on registers of one byte is one of the plain
bus. -/
theorem Wire.path_bus {es : List RegisterEvent} (hone : ∀ e ∈ es, e.field.OneByte)
    (hgood : ∀ e ∈ es, e.Good) (hpath : Path Wire.Step w es w') :
    Path Bus.Step w.bus es w'.bus := by
  induction hpath with
  | nil w => exact .nil _
  | cons hstep _ ih =>
    rw [List.forall_mem_cons] at hone hgood
    exact .cons (Wire.Step.bus hone.1 hgood.1 hstep) (ih hone.2 hgood.2)

/-- The range of the magnetometer is read. -/
theorem Wire.path_bus_range :
    let f : BusIORegisterBits :=
      ⟨⟨some ⟨0x1C, 128, by decide, by decide⟩, 0x21, 1, .LSBFIRST, by decide⟩, 2, 5,
        by decide, by decide, by decide⟩
    let ans : ReadAnswers := ⟨.sent, fun _ => .received⟩
    let w : Wire := fun _ => ⟨0, fun _ => 0⟩
    Path Bus.Step w.bus [.read f ans (f.read ans w).1] (Wire.bus (f.read ans w).2) := by
  intro f ans w
  have hone : f.OneByte := by
    refine ⟨rfl, fun d hd => ?_⟩
    cases hd
    decide
  refine path_bus (fun e he => ?_) (fun e he => ?_) (.cons rfl (.nil _))
  · rw [List.mem_singleton.mp he]
    exact hone
  · rw [List.mem_singleton.mp he]
    exact ⟨rfl, fun _ => rfl⟩

end

end ImuGamepad
