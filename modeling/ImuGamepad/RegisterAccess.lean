import ImuGamepad.BusIO
import ImuGamepad.Library.Words

/-!
# Registers behind transactions

`Adafruit_I2CDevice`, `Adafruit_BusIO_Register` and `Adafruit_BusIO_RegisterBits`, down to the
transactions of the Wire library. A field is written by reading its register and writing it back.
Both are transactions, of which each can fail, at any byte. A register that could not be read has
all bits set, and it is written back all the same.

What a chip does is what the drivers rely on: a write transaction names a register and goes on to
the next one with each byte, and so does a read transaction, from where the last one has left off.
Its registers are plain memory. No bit is read-only, and none changes by itself, as the reset bits
of the sensors do.

## Main definitions

* `Chip`, `Wire` — the chips on the bus
* `WriteAnswer`, `ReadAnswer` — how a transaction goes
* `I2CDevice.write`, `I2CDevice.read` — transactions
* `BusIORegister.read`, `BusIORegister.write` — a register of up to four bytes
* `BusIORegisterBits.read`, `BusIORegisterBits.write` — a field of it

## Main results

* `I2CDevice.read_fst` — a read in pieces is one consecutive read
* `BusIORegister.getLsbD_read` — what a register is read as
* `BusIORegisterBits.getLsbD_write` — what a write to a field does to each bit of each chip
-/

namespace ImuGamepad

open Words

/-! ### The bus -/

/-- A chip: its registers, which keep what is written to them, and the one that is next. -/
structure Chip where
  pointer : RegAddr
  regs : RegAddr → Byte

namespace Chip

/-- A byte is written. -/
def store (c : Chip) (b : Byte) : Chip where
  pointer := c.pointer + 1
  regs := Function.update c.regs c.pointer b

/-- A write transaction: the first byte names a register. -/
def receive (c : Chip) : List Byte → Chip
  | [] => c
  | reg :: data => data.foldl store { c with pointer := reg }

/-- The bytes of a read transaction, -/
def send (c : Chip) (n : ℕ) : List Byte :=
  (List.range n).map fun i => c.regs (c.pointer + BitVec.ofNat 8 i)

/-- and the chip after it. -/
def skip (c : Chip) (n : ℕ) : Chip := { c with pointer := c.pointer + BitVec.ofNat 8 n }

end Chip

/-- The chips on the bus. -/
abbrev Wire := I2CAddr → Chip

/-- Their registers. -/
def Wire.bus (w : Wire) : Bus := fun a reg => (w a).regs reg

/-- How a write transaction goes. It is not sent if the bytes do not fit into the buffer of the
library, and it fails when the chip has taken some number of them. -/
inductive WriteAnswer
  | notQueued
  | failed (taken : ℕ)
  | sent
  deriving DecidableEq

/-- The bytes that the chip takes. -/
def WriteAnswer.taken : WriteAnswer → List Byte → List Byte
  | .notQueued, _ => []
  | .failed taken, bytes => bytes.take taken
  | .sent, bytes => bytes

/-- How a read transaction goes. It fails when the chip has given some number of bytes. -/
inductive ReadAnswer
  | failed (given : ℕ)
  | received
  deriving DecidableEq

/-- How a read from a register goes: the write transaction that names it, and the read
transactions. -/
structure ReadAnswers where
  address : WriteAnswer
  chunks : ℕ → ReadAnswer

/-! ### Transactions -/

/-- `Adafruit_I2CDevice`. The buffer of the library has 32 bytes, 128 or 250. -/
structure I2CDevice where
  addr : I2CAddr
  maxBufferSize : ℕ
  pos : 0 < maxBufferSize
  lt : maxBufferSize < 256

namespace I2CDevice

/-- `write(buffer, len, stop, prefix_buffer, prefix_len)`. -/
def write (d : I2CDevice) (ans : WriteAnswer) (w : Wire) (buffer prefixBuffer : List Byte) :
    Bool × Wire :=
  if d.maxBufferSize < buffer.length + prefixBuffer.length then (false, w)
  else (ans = .sent,
    Function.update w d.addr ((w d.addr).receive (ans.taken (prefixBuffer ++ buffer))))

/-- `_read(buffer, len, stop)`: one read transaction. -/
def readChunk (d : I2CDevice) (ans : ReadAnswer) (w : Wire) (len : ℕ) : Option (List Byte) × Wire :=
  match ans with
  | .failed given => (none, Function.update w d.addr ((w d.addr).skip given))
  | .received =>
    (some ((w d.addr).send len), Function.update w d.addr ((w d.addr).skip len))

/-- `read(buffer, len, stop)`: as many as it takes. -/
def read (d : I2CDevice) (ans : ℕ → ReadAnswer) (w : Wire) (len : ℕ) : Option (List Byte) × Wire :=
  if len = 0 then (some [], w)
  else
    match d.readChunk (ans 0) w (min len d.maxBufferSize) with
    | (none, w) => (none, w)
    | (some bytes, w) =>
      let rest := d.read (fun i => ans (i + 1)) w (len - min len d.maxBufferSize)
      (rest.1.map (bytes ++ ·), rest.2)
termination_by len
decreasing_by
  have hpos := d.pos
  omega

/-- `write_then_read(write_buffer, write_len, read_buffer, read_len, stop)`. -/
def writeThenRead (d : I2CDevice) (ans : ReadAnswers) (w : Wire) (writeBuffer : List Byte)
    (readLen : ℕ) : Option (List Byte) × Wire :=
  match d.write ans.address w writeBuffer [] with
  | (false, w) => (none, w)
  | (true, w) => d.read ans.chunks w readLen

/-- How many read transactions it takes. -/
def chunks (d : I2CDevice) (len : ℕ) : ℕ := (len + d.maxBufferSize - 1) / d.maxBufferSize

end I2CDevice

/-! ### Registers and fields -/

/-- `Adafruit_BusIO_Register`, behind I2C and with an address of one byte. -/
structure BusIORegister where
  i2cdevice : Option I2CDevice
  address : RegAddr
  width : ℕ
  byteorder : ByteOrder
  width_le : width ≤ 4

namespace BusIORegister

/-- `write(buffer, len)`. -/
def writeBuffer (r : BusIORegister) (ans : WriteAnswer) (w : Wire) (buffer : List Byte) :
    Bool × Wire :=
  match r.i2cdevice with
  | some d => d.write ans w buffer [r.address]
  | none => (false, w)

/-- `write(value, numbytes)`. -/
def write (r : BusIORegister) (ans : WriteAnswer) (w : Wire) (value : BitVec 32) (numbytes : ℕ) :
    Bool × Wire :=
  let numbytes := if numbytes = 0 then r.width else numbytes
  if 4 < numbytes then (false, w)
  else r.writeBuffer ans w (r.byteorder.arrange (littleEndian numbytes value))

/-- `read(buffer, len)`. -/
def readBuffer (r : BusIORegister) (ans : ReadAnswers) (w : Wire) (len : ℕ) :
    Option (List Byte) × Wire :=
  match r.i2cdevice with
  | some d => d.writeThenRead ans w [r.address] len
  | none => (none, w)

/-- `read()`. -/
def read (r : BusIORegister) (ans : ReadAnswers) (w : Wire) : BitVec 32 × Wire :=
  match r.readBuffer ans w r.width with
  | (none, w) => (0xFFFFFFFF, w)
  | (some buffer, w) => (ofLittleEndian (r.byteorder.arrange buffer), w)

end BusIORegister

/-- How a write to a field goes. -/
structure FieldAnswers where
  read : ReadAnswers
  write : WriteAnswer

/-- `Adafruit_BusIO_RegisterBits`, of a field that lies in its register and is not too wide for the
mask: `(1 << _bits) - 1` is an `int`. -/
structure BusIORegisterBits where
  register : BusIORegister
  bits : ℕ
  shift : ℕ
  pos : 0 < bits
  le : bits ≤ 30
  fits : shift + bits ≤ 8 * register.width

namespace BusIORegisterBits

/-- `read()`. -/
def read (f : BusIORegisterBits) (ans : ReadAnswers) (w : Wire) : BitVec 32 × Wire :=
  let val := f.register.read ans w
  (BitField.read f.bits f.shift val.1, val.2)

/-- `write(data)`. -/
def write (f : BusIORegisterBits) (ans : FieldAnswers) (w : Wire) (data : BitVec 32) :
    Bool × Wire :=
  let val := f.register.read ans.read w
  f.register.write ans.write val.2 (BitField.write f.bits f.shift data val.1) f.register.width

end BusIORegisterBits

/-! ### What a transaction does to the registers -/

section

variable {c : Chip} {w : Wire} {d : I2CDevice} {a : I2CAddr} {reg : RegAddr}

theorem Chip.foldl_store_regs {data : List Byte} (hlen : data.length ≤ 256) (c : Chip)
    (reg : RegAddr) :
    (data.foldl Chip.store c).regs reg = data[(reg - c.pointer).toNat]?.getD (c.regs reg) := by
  induction data generalizing c with
  | nil => rfl
  | cons b data ih =>
    rw [List.length_cons] at hlen
    rw [List.foldl_cons, ih (by omega), store]
    by_cases heq : reg = c.pointer
    · subst heq
      have hlast : (c.pointer - (c.pointer + 1)).toNat = 255 := by bv_omega
      simp only [hlast, BitVec.sub_self]
      rw [List.getElem?_eq_none (by omega), Function.update_self]
      rfl
    · have hnext : (reg - c.pointer).toNat = (reg - (c.pointer + 1)).toNat + 1 := by bv_omega
      simp only [hnext, List.getElem?_cons_succ, Function.update_of_ne heq]

/-- A write transaction changes the registers from the one it names on. -/
theorem Chip.receive_regs {data : List Byte} (hlen : data.length ≤ 256) (c : Chip)
    (first reg : RegAddr) :
    (c.receive (first :: data)).regs reg = data[(reg - first).toNat]?.getD (c.regs reg) :=
  foldl_store_regs hlen _ reg

/-- Whether the data byte `k` of a write transaction is stored. -/
def WriteAnswer.stores : WriteAnswer → ℕ → Bool
  | .notQueued, _ => false
  | .failed taken, k => k + 1 < taken
  | .sent, _ => true

theorem WriteAnswer.receive_taken {data : List Byte} (hlen : data.length ≤ 256)
    (ans : WriteAnswer) (c : Chip) (first : RegAddr) :
    (c.receive (ans.taken (first :: data))).regs reg =
      if ans.stores (reg - first).toNat then data[(reg - first).toNat]?.getD (c.regs reg)
      else c.regs reg := by
  cases ans with
  | notQueued => rfl
  | failed taken =>
    cases taken with
    | zero => simp [WriteAnswer.taken, WriteAnswer.stores, Chip.receive]
    | succ taken =>
      have hle : (data.take taken).length ≤ 256 := by
        rw [List.length_take]
        omega
      rw [WriteAnswer.taken, List.take_succ_cons, Chip.receive_regs hle, List.getElem?_take]
      simp only [stores, Nat.add_lt_add_iff_right, decide_eq_true_eq]
      split
      · rfl
      · rfl
  | sent => exact Chip.receive_regs hlen _ _ _

theorem Wire.bus_update (w : Wire) (a' : I2CAddr) (c : Chip) :
    Wire.bus (Function.update w a' c) a reg = if a = a' then c.regs reg else w.bus a reg := by
  rw [bus, Function.update_apply]
  split
  · rfl
  · rfl

namespace I2CDevice

/-- What is written to registers is stored as far as it goes. -/
theorem bus_write {buffer : List Byte} (hlen : buffer.length ≤ 256) (ans : WriteAnswer)
    (w : Wire) (first : RegAddr) :
    Wire.bus (d.write ans w buffer [first]).2 a reg =
      if a = d.addr ∧ buffer.length < d.maxBufferSize ∧ ans.stores (reg - first).toNat then
        buffer[(reg - first).toNat]?.getD (w.bus a reg)
      else w.bus a reg := by
  rw [write, List.length_singleton]
  by_cases hfit : buffer.length < d.maxBufferSize
  · rw [if_neg (by omega), Wire.bus_update, List.singleton_append, ans.receive_taken hlen]
    by_cases ha : a = d.addr
    · subst ha
      simp only [hfit, true_and, if_true]
      rfl
    · rw [if_neg ha, if_neg fun h => ha h.1]
  · rw [if_pos (by omega), if_neg fun h => hfit h.2.1]

/-- Naming a register changes none. -/
theorem bus_write_address (ans : WriteAnswer) (w : Wire) (first : RegAddr) :
    Wire.bus (d.write ans w [first] []).2 = w.bus := by
  have hpos := d.pos
  funext a reg
  rw [write, List.length_singleton, List.length_nil, if_neg (by omega), Wire.bus_update,
    List.nil_append, ans.receive_taken (by decide)]
  split
  · rename_i ha
    subst ha
    simp [Wire.bus]
  · rfl

theorem write_address (ans : WriteAnswer) (w : Wire) (first : RegAddr) :
    d.write ans w [first] [] =
      (decide (ans = .sent),
        Function.update w d.addr ((w d.addr).receive (ans.taken [first]))) := by
  have hpos := d.pos
  rw [write, List.length_singleton, List.length_nil, if_neg (by omega), List.nil_append]

end I2CDevice

/-! ### Reading -/

theorem Chip.send_add (m n : ℕ) : c.send (m + n) = c.send m ++ (c.skip m).send n := by
  simp only [send, skip, List.range_add, List.map_append, List.map_map]
  congr 1
  refine List.map_congr_left fun i _ => ?_
  simp only [Function.comp_apply, BitVec.ofNat_add]
  rw [BitVec.add_assoc]

theorem Wire.bus_skip (n : ℕ) :
    Wire.bus (Function.update w d.addr ((w d.addr).skip n)) = w.bus := by
  funext a reg
  rw [bus_update]
  split
  · rename_i ha
    subst ha
    rfl
  · rfl

namespace I2CDevice

theorem read_of_failed {ans : ℕ → ReadAnswer} {len given : ℕ} (hlen : len ≠ 0)
    (hans : ans 0 = .failed given) :
    d.read ans w len = (none, Function.update w d.addr ((w d.addr).skip given)) := by
  rw [read, if_neg hlen, hans]
  rfl

theorem read_of_received {ans : ℕ → ReadAnswer} {len : ℕ} (hlen : len ≠ 0)
    (hans : ans 0 = .received) :
    d.read ans w len =
      let rest := d.read (fun i => ans (i + 1))
        (Function.update w d.addr ((w d.addr).skip (min len d.maxBufferSize)))
        (len - min len d.maxBufferSize)
      (rest.1.map ((w d.addr).send (min len d.maxBufferSize) ++ ·), rest.2) := by
  rw [read, if_neg hlen, hans]
  rfl

theorem chunks_of_ne_zero {len : ℕ} (hlen : len ≠ 0) :
    d.chunks len = d.chunks (len - min len d.maxBufferSize) + 1 := by
  have hpos := d.pos
  rw [chunks, chunks, ← Nat.add_div_right _ hpos]
  rcases Nat.le_total len d.maxBufferSize with hle | hle
  · rw [Nat.min_eq_left hle, Nat.sub_self, Nat.zero_add]
    have hone : (len + d.maxBufferSize - 1) / d.maxBufferSize = 1 :=
      Nat.div_eq_of_lt_le (by omega) (by omega)
    have hone' : (d.maxBufferSize - 1 + d.maxBufferSize) / d.maxBufferSize = 1 :=
      Nat.div_eq_of_lt_le (by omega) (by omega)
    rw [hone, hone']
  · rw [Nat.min_eq_right hle]
    congr 1
    omega

/-- A read changes no register. -/
theorem bus_read (ans : ℕ → ReadAnswer) (w : Wire) (len : ℕ) :
    Wire.bus (d.read ans w len).2 = w.bus := by
  induction len using Nat.strong_induction_on generalizing ans w with
  | _ len ih =>
    rcases eq_or_ne len 0 with rfl | hlen
    · rw [read, if_pos rfl]
    · cases hans : ans 0 with
      | failed given =>
        rw [read_of_failed hlen hans]
        exact Wire.bus_skip given
      | received =>
        have hpos := d.pos
        rw [read_of_received hlen hans]
        exact (ih _ (by omega) _ _).trans (Wire.bus_skip _)

/-- **A read in pieces is one consecutive read**, unless a piece fails. -/
theorem read_fst (ans : ℕ → ReadAnswer) (w : Wire) (len : ℕ) :
    (d.read ans w len).1 =
      if ∀ i < d.chunks len, ans i = .received then some ((w d.addr).send len) else none := by
  induction len using Nat.strong_induction_on generalizing ans w with
  | _ len ih =>
    rcases eq_or_ne len 0 with rfl | hlen
    · have hnone : d.chunks 0 = 0 := by
        rw [chunks, Nat.zero_add]
        exact Nat.div_eq_of_lt (Nat.sub_lt d.pos (by decide))
      rw [read, if_pos rfl, if_pos (by simp [hnone])]
      rfl
    · cases hans : ans 0 with
      | failed given =>
        rw [read_of_failed hlen hans, if_neg]
        intro hall
        have hzero := hall 0 (by rw [chunks_of_ne_zero hlen]; omega)
        rw [hans] at hzero
        cases hzero
      | received =>
        have hpos := d.pos
        have hsplit : (w d.addr).send len = (w d.addr).send (min len d.maxBufferSize)
            ++ ((w d.addr).skip (min len d.maxBufferSize)).send
              (len - min len d.maxBufferSize) := by
          rw [← Chip.send_add]
          congr 1
          omega
        have hall : (∀ i < d.chunks len, ans i = .received) ↔
            ∀ i < d.chunks (len - min len d.maxBufferSize), ans (i + 1) = .received := by
          rw [chunks_of_ne_zero hlen]
          constructor
          · exact fun h i hi => h (i + 1) (by omega)
          · intro h i hi
            cases i with
            | zero => exact hans
            | succ i => exact h i (by omega)
        rw [read_of_received hlen hans]
        simp only [ih _ (show len - min len d.maxBufferSize < len by omega),
          Function.update_self, hall, hsplit]
        split
        · rfl
        · rfl

end I2CDevice

/-! ### Registers -/

namespace BusIORegister

variable {r : BusIORegister} {i : ℕ}

/-- A read gets through. -/
def Received (r : BusIORegister) (ans : ReadAnswers) : Prop :=
  ∃ d, r.i2cdevice = some d ∧ ans.address = .sent ∧
    ∀ i < d.chunks r.width, ans.chunks i = .received

/-- What is written reaches the register `reg` of the chip at `a`. -/
def Stores (r : BusIORegister) (ans : WriteAnswer) (a : I2CAddr) (reg : RegAddr) : Prop :=
  ∃ d, r.i2cdevice = some d ∧ a = d.addr ∧ r.width < d.maxBufferSize ∧
    (reg - r.address).toNat < r.width ∧ ans.stores (reg - r.address).toNat = true

/-- The bit of the value that is the bit `i` of the register `reg` of the chip. -/
def place (r : BusIORegister) (reg : RegAddr) (i : ℕ) : ℕ :=
  8 * r.byteorder.index r.width (reg - r.address).toNat + i

theorem readBuffer_fst (ans : ReadAnswers) (w : Wire) (len : ℕ) :
    (r.readBuffer ans w len).1 = match r.i2cdevice with
      | none => none
      | some d =>
        if ans.address = .sent ∧ ∀ i < d.chunks len, ans.chunks i = .received then
          some ((List.range len).map fun i => w.bus d.addr (r.address + BitVec.ofNat 8 i))
        else none := by
  rw [readBuffer]
  cases r.i2cdevice with
  | none => rfl
  | some d =>
    simp only [I2CDevice.writeThenRead, I2CDevice.write_address]
    by_cases hans : ans.address = .sent
    · simp only [hans, decide_true, I2CDevice.read_fst, Function.update_self, true_and]
      rfl
    · simp [hans]

theorem bus_readBuffer (ans : ReadAnswers) (w : Wire) (len : ℕ) :
    Wire.bus (r.readBuffer ans w len).2 = w.bus := by
  rw [readBuffer]
  cases r.i2cdevice with
  | none => rfl
  | some d =>
    have haddress := d.bus_write_address ans.address w r.address
    simp only [I2CDevice.writeThenRead]
    generalize d.write ans.address w [r.address] [] = written at haddress ⊢
    obtain ⟨_ | _, w'⟩ := written
    · exact haddress
    · exact (I2CDevice.bus_read _ _ _).trans haddress

/-- **A read of any length returns consecutive registers**, or it fails, and changes none. -/
theorem readBuffer_eq_some_iff {ans : ReadAnswers} {w : Wire} {len : ℕ} {bytes : List Byte} :
    ((r.readBuffer ans w len).1 = some bytes ↔
      ∃ d, r.i2cdevice = some d ∧ ans.address = .sent ∧
        (∀ i < d.chunks len, ans.chunks i = .received) ∧
          (List.range len).map (fun i => w.bus d.addr (r.address + BitVec.ofNat 8 i)) = bytes) ∧
      Wire.bus (r.readBuffer ans w len).2 = w.bus := by
  refine ⟨?_, r.bus_readBuffer ans w len⟩
  rw [readBuffer_fst]
  cases r.i2cdevice with
  | none => simp
  | some d =>
    simp only [Option.ite_none_right_eq_some, Option.some.injEq, exists_eq_left', and_assoc]

/-- A read changes no register. -/
theorem bus_read (ans : ReadAnswers) (w : Wire) : Wire.bus (r.read ans w).2 = w.bus := by
  have hbuffer := r.bus_readBuffer ans w r.width
  rw [read]
  generalize r.readBuffer ans w r.width = buffer at hbuffer ⊢
  obtain ⟨_ | buffer, w'⟩ := buffer
  · exact hbuffer
  · exact hbuffer

/-- A register that could not be read has all bits set. -/
theorem read_of_not_received {ans : ReadAnswers} (h : ¬ r.Received ans) (w : Wire) :
    (r.read ans w).1 = BitVec.allOnes 32 := by
  have hbuffer : (r.readBuffer ans w r.width).1 = none := by
    rw [readBuffer_fst]
    cases hdev : r.i2cdevice with
    | none => rfl
    | some d => exact if_neg fun hans => h ⟨d, hdev, hans⟩
  rw [read]
  generalize r.readBuffer ans w r.width = buffer at hbuffer ⊢
  obtain ⟨_ | buffer, w'⟩ := buffer
  · rfl
  · cases hbuffer

theorem read_of_received {ans : ReadAnswers} (h : r.Received ans) (w : Wire)
    (hdev : r.i2cdevice = some d) :
    (r.read ans w).1 = ofLittleEndian (r.byteorder.arrange ((List.range r.width).map
      fun i => w.bus d.addr (r.address + BitVec.ofNat 8 i))) := by
  obtain ⟨d', hdev', hans⟩ := h
  obtain rfl := Option.some.inj (hdev.symm.trans hdev')
  have hbuffer := r.readBuffer_fst ans w r.width
  simp only [hdev, if_pos hans] at hbuffer
  rw [read]
  generalize r.readBuffer ans w r.width = buffer at hbuffer ⊢
  obtain ⟨_ | buffer, w'⟩ := buffer
  · cases hbuffer
  · rw [← Option.some.inj hbuffer]

theorem place_lt {reg : RegAddr} (hreg : (reg - r.address).toNat < r.width) (hi : i < 8) :
    r.place reg i < 8 * r.width := by
  have hindex := r.byteorder.index_lt hreg
  rw [place]
  omega

/-- **What a register is read as.** -/
theorem getLsbD_read {ans : ReadAnswers} (h : r.Received ans) (w : Wire)
    (hdev : r.i2cdevice = some d) (hreg : (reg - r.address).toNat < r.width) (hi : i < 8) :
    (r.read ans w).1.getLsbD (r.place reg i) = (w.bus d.addr reg).getLsbD i := by
  have hplace := place_lt hreg hi
  have hwidth := r.width_le
  have hself : r.address + BitVec.ofNat 8 (reg - r.address).toNat = reg := by bv_omega
  have hindex := r.byteorder.index_lt hreg
  rw [read_of_received h w hdev, getLsbD_ofLittleEndian, List.getD_eq_getElem?_getD]
  have hdiv : r.place reg i / 8 = r.byteorder.index r.width (reg - r.address).toNat := by
    rw [place]
    omega
  have hmod : r.place reg i % 8 = i := by
    rw [place]
    omega
  rw [hdiv, hmod, ByteOrder.getElem?_arrange _ (by simpa using hindex), List.length_map,
    List.length_range, ByteOrder.index_index _ hreg, List.getElem?_map,
    List.getElem?_range hreg, Option.map_some, Option.getD_some, hself,
    decide_eq_true (by omega), Bool.true_and]

/-- Every bit of the value lies somewhere. -/
theorem exists_place {p : ℕ} (hp : p < 8 * r.width) :
    ∃ reg i, i < 8 ∧ (reg - r.address).toNat < r.width ∧ r.place reg i = p := by
  have hwidth := r.width_le
  have hk : p / 8 < r.width := by omega
  have hindex := r.byteorder.index_lt hk
  have hself : (r.address + BitVec.ofNat 8 (r.byteorder.index r.width (p / 8)) - r.address).toNat
      = r.byteorder.index r.width (p / 8) := by
    bv_omega
  refine ⟨r.address + BitVec.ofNat 8 (r.byteorder.index r.width (p / 8)), p % 8,
    Nat.mod_lt p (by decide), by rwa [hself], ?_⟩
  rw [place, hself, ByteOrder.index_index _ hk, Nat.div_add_mod]

/-- A value is written as it lies. -/
theorem write_eq (ans : WriteAnswer) (w : Wire) (value : BitVec 32) :
    r.write ans w value r.width
      = r.writeBuffer ans w (r.byteorder.arrange (littleEndian r.width value)) := by
  have hwidth := r.width_le
  rw [write]
  split
  · simp only [show ¬ 4 < r.width by omega, if_false]
  · simp only [show ¬ 4 < r.width by omega, if_false]

/-- What a write returns does not depend on what has been read before. -/
theorem write_eq_true_iff {ans : WriteAnswer} (w : Wire) (value : BitVec 32) :
    (r.write ans w value r.width).1 = true ↔
      ∃ d, r.i2cdevice = some d ∧ r.width < d.maxBufferSize ∧ ans = .sent := by
  rw [write_eq, writeBuffer]
  cases r.i2cdevice with
  | none => simp
  | some d =>
    simp only [I2CDevice.write, ByteOrder.length_arrange, length_littleEndian,
      List.length_singleton, Option.some.injEq, exists_eq_left']
    split
    · simp only [Bool.false_eq_true, false_iff, not_and]
      omega
    · simp only [decide_eq_true_eq, iff_and_self]
      omega

/-- What a value makes of a register that it reaches, -/
theorem getLsbD_write_of_stores {ans : WriteAnswer} (h : r.Stores ans a reg) (w : Wire)
    (value : BitVec 32) (hi : i < 8) :
    (Wire.bus (r.write ans w value r.width).2 a reg).getLsbD i = value.getLsbD (r.place reg i) := by
  obtain ⟨d, hdev, rfl, hfit, hreg, hstores⟩ := h
  have hwidth := r.width_le
  have hindex := r.byteorder.index_lt hreg
  rw [write_eq, writeBuffer, hdev]
  simp only
  rw [I2CDevice.bus_write (by simp only [ByteOrder.length_arrange, length_littleEndian]; omega),
    if_pos (by simpa using ⟨hfit, hstores⟩),
    ByteOrder.getElem?_arrange _ (by simpa using hreg), length_littleEndian,
    getElem?_littleEndian hindex, Option.getD_some, BitVec.getLsbD_setWidth,
    BitVec.getLsbD_ushiftRight]
  simp [hi, place]

/-- and that others stay as they are. -/
theorem write_of_not_stores {ans : WriteAnswer} (h : ¬ r.Stores ans a reg) (w : Wire)
    (value : BitVec 32) :
    Wire.bus (r.write ans w value r.width).2 a reg = w.bus a reg := by
  have hwidth := r.width_le
  rw [write_eq, writeBuffer]
  cases hdev : r.i2cdevice with
  | none => rfl
  | some d =>
    simp only
    rw [I2CDevice.bus_write (by simp only [ByteOrder.length_arrange, length_littleEndian]; omega)]
    split
    · rename_i hans
      rw [ByteOrder.length_arrange, length_littleEndian] at hans
      have hreg : ¬ (reg - r.address).toNat < r.width :=
        fun hreg => h ⟨d, hdev, hans.1, hans.2.1, hreg, hans.2.2⟩
      rw [List.getElem?_eq_none (by simpa using hreg), Option.getD_none]
    · rfl

end BusIORegister

/-! ### Fields -/

namespace BusIORegisterBits

variable {f : BusIORegisterBits} {i : ℕ}

/-- A bit of the chip belongs to the field. -/
def Covers (f : BusIORegisterBits) (reg : RegAddr) (i : ℕ) : Prop :=
  f.shift ≤ f.register.place reg i ∧ f.register.place reg i < f.shift + f.bits

/-- A write sets a bit: one of the field, or any other if the register could not be read. -/
def Sets (f : BusIORegisterBits) (ans : FieldAnswers) (data : BitVec 32) (a : I2CAddr)
    (reg : RegAddr) (i : ℕ) : Prop :=
  f.register.Stores ans.write a reg ∧
    (f.Covers reg i ∧ data.getLsbD (f.register.place reg i - f.shift) = true ∨
      ¬ f.Covers reg i ∧ ¬ f.register.Received ans.read)

/-- A write clears a bit: only one of the field. -/
def Clears (f : BusIORegisterBits) (ans : FieldAnswers) (data : BitVec 32) (a : I2CAddr)
    (reg : RegAddr) (i : ℕ) : Prop :=
  f.register.Stores ans.write a reg ∧ f.Covers reg i ∧
    data.getLsbD (f.register.place reg i - f.shift) = false

/-- **What a write to a field does to a bit**, of this chip or another one. -/
theorem getLsbD_write (ans : FieldAnswers) (w : Wire) (data : BitVec 32) (a : I2CAddr)
    (reg : RegAddr) (hi : i < 8) :
    (Wire.bus (f.write ans w data).2 a reg).getLsbD i = true ↔
      f.Sets ans data a reg i ∨
        ¬ f.Clears ans data a reg i ∧ (w.bus a reg).getLsbD i = true := by
  rw [write]
  by_cases hstores : f.register.Stores ans.write a reg
  · have hwidth := f.register.width_le
    obtain ⟨d, hdev, ha, -, hreg, -⟩ := id hstores
    have hplace := BusIORegister.place_lt hreg hi
    rw [BusIORegister.getLsbD_write_of_stores hstores _ _ hi, BitField.getLsbD_write]
    simp only [Sets, Clears, hstores, true_and]
    split
    · rename_i hcovers
      have hcovers : f.Covers reg i := hcovers
      rw [decide_eq_true (by omega), Bool.true_and]
      cases data.getLsbD (f.register.place reg i - f.shift) <;> simp [hcovers]
    · rename_i hcovers
      have hcovers : ¬ f.Covers reg i := hcovers
      by_cases hreceived : f.register.Received ans.read
      · rw [BusIORegister.getLsbD_read hreceived w hdev hreg hi, ha]
        simp [hcovers, hreceived]
      · rw [BusIORegister.read_of_not_received hreceived, BitVec.getLsbD_allOnes,
          decide_eq_true (by omega)]
        simp [hcovers, hreceived]
  · rw [BusIORegister.write_of_not_stores hstores, BusIORegister.bus_read]
    simp [Sets, Clears, hstores]

/-- A read changes no register. -/
theorem bus_read (ans : ReadAnswers) (w : Wire) : Wire.bus (f.read ans w).2 = w.bus :=
  f.register.bus_read ans w

end BusIORegisterBits

end

end ImuGamepad
