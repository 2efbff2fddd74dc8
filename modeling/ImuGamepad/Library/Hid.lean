import ImuGamepad.Library.Bits

/-!
# HID report descriptors

What a host makes of a report descriptor, and of a report.

A descriptor is a sequence of items: a byte that codes the kind of the item and the number of its
data bytes, and the data. Global items set a register each, local items name the usages of the next
field, and main items open and close collections and add fields to a report. Of the fields only
variable ones are read, not arrays; long items and usages of four bytes are not read either. The
interpreter gives up where it meets one.

The fields of a report follow each other without gaps, the first one in its lowest bits. `decode`
is what the host reads: a value for every usage, or none where the field's bits are out of its
logical range.

## Main definitions

* `Hid.State.exec`, `Hid.interpret` — one item, and a piece of a descriptor
* `Hid.fields` — the fields of a whole descriptor
* `Hid.Reads` — a piece of a descriptor leads from one state to another
* `Hid.Adds` — a triple: a piece of a descriptor adds some fields to the reports
* `Hid.decode` — what the fields of a report hold

## Main results

* `Hid.Reads.trans`, `Reads.item`, `Reads.usages` — the rules by which a descriptor is read
* `Hid.Adds.append`, `Adds.mono` — the rules for triples
* `Hid.decode_append`, `decode_flatMap` — fields that follow each other are decoded one after the
  other
* `Hid.ofBits_word` — the bits of a word are decoded to its number
-/

namespace Hid

open Bits

/-! ### Items -/

/-- The number of data bytes that an item's code announces. -/
def dataSize (code : Byte) : ℕ := if code.toNat % 4 = 3 then 4 else code.toNat % 4

/-- The number some data bytes spell, the lowest one first. -/
def unsigned (data : List Byte) : ℕ := data.foldr (fun b n => b.toNat + 256 * n) 0

/-- The same in two's complement. -/
def signed (data : List Byte) : ℤ :=
  if 256 ^ data.length ≤ 2 * unsigned data then unsigned data - 256 ^ data.length
  else unsigned data

@[simp] theorem unsigned_singleton (b : Byte) : unsigned [b] = b.toNat := by simp [unsigned]

theorem signed_singleton (b : Byte) : signed [b] = b.toInt := by
  rw [signed, unsigned_singleton, BitVec.toInt_eq_toNat_cond]
  have := b.isLt
  simp only [List.length_cons, List.length_nil]
  split <;> split <;> omega

/-- Two bytes of data are a word. -/
theorem unsigned_word (v : BitVec 16) :
    unsigned [v.setWidth 8, (v >>> 8).setWidth 8] = v.toNat := by
  have := v.isLt
  simp [unsigned, Nat.shiftRight_eq_div_pow]
  omega

/-- And in two's complement a word is its value. -/
theorem signed_word (v : BitVec 16) :
    signed [v.setWidth 8, (v >>> 8).setWidth 8] = v.toInt := by
  rw [signed, unsigned_word, BitVec.toInt_eq_toNat_cond]
  have := v.isLt
  simp only [List.length_cons, List.length_nil]
  split <;> split <;> omega

/-- The three kinds of reports. -/
inductive Kind
  | input
  | output
  | feature
  deriving DecidableEq

/-- A usage and the page it is on. -/
structure Usage where
  page : ℕ
  id : ℕ
  deriving DecidableEq

/-- A field of a report. -/
structure Field where
  kind : Kind
  reportId : ℕ
  /-- None for constant bits, which hold nothing. -/
  usage : Option Usage
  size : ℕ
  logicalMin : ℤ
  logicalMax : ℤ
  deriving DecidableEq

/-- The registers that global items set. -/
structure Globals where
  usagePage : ℕ
  logicalMin : ℤ
  logicalMax : ℤ
  reportSize : ℕ
  reportCount : ℕ
  reportId : ℕ
  deriving DecidableEq

/-- The state of the interpreter. -/
structure State where
  globals : Globals
  stack : List Globals
  /-- The usages named for the next main item. -/
  usages : List ℕ
  usageMin : ℕ
  /-- The number of open collections. -/
  depth : ℕ
  fields : List Field
  deriving DecidableEq

namespace State

/-- Before the first item. -/
def init : State := ⟨⟨0, 0, 0, 0, 0, 0⟩, [], [], 0, 0, []⟩

/-- A variable as the global items describe it. -/
def field (s : State) (kind : Kind) (usage : Usage) : Field where
  kind := kind
  reportId := s.globals.reportId
  usage := some usage
  size := s.globals.reportSize
  logicalMin := s.globals.logicalMin
  logicalMax := s.globals.logicalMax

/-- Constant bits. -/
def padding (s : State) (kind : Kind) : Field :=
  ⟨kind, s.globals.reportId, none, s.globals.reportSize, 0, 0⟩

/-- The usage of the field with index `i`. The last usage holds for all fields after it. -/
def usage (s : State) (i : ℕ) : Usage :=
  ⟨s.globals.usagePage, s.usages.getD i (s.usages.getLastD 0)⟩

/-- The local items hold up to the next main item. -/
def clearLocals (s : State) : State := { s with usages := [], usageMin := 0 }

/-- `Input`, `Output` and `Feature` with their flags: constant bits, or a variable for every
usage. -/
def addFields (s : State) (kind : Kind) (flags : ℕ) : Option State :=
  let added : Option (List Field) :=
    if flags % 2 = 1 then some (.replicate s.globals.reportCount (s.padding kind))
    else if flags / 2 % 2 = 1 then
      some ((List.range s.globals.reportCount).map fun i => s.field kind (s.usage i))
    else none
  added.map fun fs => { s.clearLocals with fields := s.fields ++ fs }

/-- One item. -/
def exec (s : State) (code : Byte) (data : List Byte) : Option State :=
  let g := s.globals
  match code.toNat / 4 with
  -- main items
  | 0x20 => s.addFields .input (unsigned data)
  | 0x24 => s.addFields .output (unsigned data)
  | 0x2C => s.addFields .feature (unsigned data)
  | 0x28 => some { s.clearLocals with depth := s.depth + 1 }
  | 0x30 => if s.depth = 0 then none else some { s.clearLocals with depth := s.depth - 1 }
  -- global items; physical extents and units do not change what a field holds
  | 0x01 => some { s with globals := { g with usagePage := unsigned data } }
  | 0x05 => some { s with globals := { g with logicalMin := signed data } }
  | 0x09 => some { s with globals := { g with logicalMax := signed data } }
  | 0x0D | 0x11 | 0x15 | 0x19 => some s
  | 0x1D => some { s with globals := { g with reportSize := unsigned data } }
  | 0x21 => some { s with globals := { g with reportId := unsigned data } }
  | 0x25 => some { s with globals := { g with reportCount := unsigned data } }
  | 0x29 => some { s with stack := g :: s.stack }
  | 0x2D =>
    match s.stack with
    | g :: stack => some { s with globals := g, stack := stack }
    | [] => none
  -- local items
  | 0x02 => if data.length = 4 then none else some { s with usages := s.usages ++ [unsigned data] }
  | 0x06 => if data.length = 4 then none else some { s with usageMin := unsigned data }
  | 0x0A =>
    if data.length = 4 then none
    else some { s with
      usages := s.usages ++ List.range' s.usageMin (unsigned data + 1 - s.usageMin) }
  | _ => none

/-- Where as many usages are named as there are fields, every field has its own. -/
theorem map_field_usage {s : State} (kind : Kind) (h : s.globals.reportCount = s.usages.length) :
    (List.range s.globals.reportCount).map (fun i => s.field kind (s.usage i))
      = s.usages.map fun u => s.field kind ⟨s.globals.usagePage, u⟩ := by
  rw [h]
  refine List.ext_getElem (by simp) fun i h₁ h₂ => ?_
  have hi : i < s.usages.length := by simpa using h₂
  simp [usage, hi]

/-- An `Input` of variables that has as many usages as fields. -/
theorem exec_input {s : State} {flags : Byte} (hdata : flags.toNat % 2 = 0)
    (hvariable : flags.toNat / 2 % 2 = 1) (h : s.globals.reportCount = s.usages.length) :
    s.exec 0x81 [flags] = some { s.clearLocals with
      fields := s.fields ++ s.usages.map fun u => s.field .input ⟨s.globals.usagePage, u⟩ } := by
  have hflags : unsigned [flags] % 2 ≠ 1 := by simp [hdata]
  have hflags' : unsigned [flags] / 2 % 2 = 1 := by simp [hvariable]
  rw [show s.exec 0x81 [flags] = s.addFields .input (unsigned [flags]) from rfl, addFields,
    if_neg hflags, if_pos hflags', map_field_usage .input h]
  rfl

end State

/-! ### Descriptors -/

/-- Read a piece of a descriptor. -/
def interpret (s : State) : List Byte → Option State
  | [] => some s
  | code :: rest =>
    if code = 0xFE ∨ rest.length < dataSize code then none
    else (s.exec code (rest.take (dataSize code))).bind fun t =>
      interpret t (rest.drop (dataSize code))
termination_by bs => bs.length
decreasing_by
  rw [List.length_drop, List.length_cons]
  exact Nat.lt_succ_of_le (Nat.sub_le _ _)

/-- The fields of a whole descriptor, in which every collection is closed. -/
def fields (descriptor : List Byte) : Option (List Field) :=
  (interpret .init descriptor).bind fun s => if s.depth = 0 then some s.fields else none

/-- Reading `bs` leads from one state to another, whatever comes after it. -/
def Reads (s : State) (bs : List Byte) (t : State) : Prop :=
  ∀ rest, interpret s (bs ++ rest) = interpret t rest

theorem interpret_nil (s : State) : interpret s [] = some s := by rw [interpret]

theorem Reads.interpret {s t : State} {bs : List Byte} (h : Reads s bs t) :
    Hid.interpret s bs = some t := by
  simpa [interpret_nil] using h []

theorem Reads.nil (s : State) : Reads s [] s := fun _ => rfl

theorem Reads.cast {s t u : State} {bs : List Byte} (h : Reads s bs t) (ht : t = u) :
    Reads s bs u := ht ▸ h

/-- One piece after another. -/
theorem Reads.trans {s t u : State} {bs cs : List Byte} (h₁ : Reads s bs t) (h₂ : Reads t cs u) :
    Reads s (bs ++ cs) u := by
  intro rest
  rw [List.append_assoc, h₁, h₂]

/-- One item, with as many data bytes as its code announces. -/
theorem Reads.item {s t : State} {code : Byte} {data : List Byte} (hcode : code ≠ 0xFE)
    (hdata : data.length = dataSize code) (h : s.exec code data = some t) :
    Reads s (code :: data) t := by
  intro rest
  have hlen : ¬ (code = 0xFE ∨ (data ++ rest).length < dataSize code) := by
    rw [List.length_append, ← hdata]
    rintro (h | h)
    · exact hcode h
    · omega
  rw [List.cons_append, Hid.interpret, if_neg hlen, ← hdata, List.take_left, List.drop_left, h,
    Option.bind_some]

section

variable {s t u : State} {code b c : Byte} {bs : List Byte}

/-- An item without data, -/
theorem Reads.cons₀ (hcode : code ≠ 0xFE) (hsize : dataSize code = 0)
    (h : s.exec code [] = some t) (hrest : Reads t bs u) : Reads s (code :: bs) u := by
  have hitem : Reads s [code] t := .item hcode hsize.symm h
  exact hitem.trans hrest

/-- with one byte of data, -/
theorem Reads.cons₁ (hcode : code ≠ 0xFE) (hsize : dataSize code = 1)
    (h : s.exec code [b] = some t) (hrest : Reads t bs u) : Reads s (code :: b :: bs) u := by
  have hitem : Reads s [code, b] t := .item hcode hsize.symm h
  exact hitem.trans hrest

/-- and with two. -/
theorem Reads.cons₂ (hcode : code ≠ 0xFE) (hsize : dataSize code = 2)
    (h : s.exec code [b, c] = some t) (hrest : Reads t bs u) :
    Reads s (code :: b :: c :: bs) u := by
  have hitem : Reads s [code, b, c] t := .item hcode hsize.symm h
  exact hitem.trans hrest

end

/-- A series of items that name a usage each. -/
theorem Reads.usages {α : Type*} {l : List α} {item : α → List Byte} {usage : α → ℕ} {s : State}
    (h : ∀ a ∈ l, ∀ s : State, Reads s (item a) { s with usages := s.usages ++ [usage a] }) :
    Reads s (l.flatMap item) { s with usages := s.usages ++ l.map usage } := by
  induction l generalizing s with
  | nil =>
    rw [List.map_nil, List.append_nil]
    exact .nil s
  | cons a l ih =>
    have hhead := h a List.mem_cons_self s
    have htail := ih (s := { s with usages := s.usages ++ [usage a] })
      fun b hb => h b (List.mem_cons_of_mem a hb)
    rw [List.flatMap_cons, List.map_cons, List.append_cons]
    exact hhead.trans htail

/-- From registers that satisfy `P`, with no usage pending, a piece of a descriptor adds the fields
`fs`, leaves no usage pending and no collection open, and leaves registers that satisfy `Q`. -/
def Adds (P : Globals → Prop) (bs : List Byte) (fs : List Field) (Q : Globals → Prop) : Prop :=
  ∀ g stack depth before, P g →
    ∃ g', Q g' ∧ Reads ⟨g, stack, [], 0, depth, before⟩ bs ⟨g', stack, [], 0, depth, before ++ fs⟩

section

variable {P Q R : Globals → Prop} {bs cs : List Byte} {fs gs : List Field}

theorem Adds.nil (P : Globals → Prop) : Adds P [] [] P := by
  intro g stack depth before hP
  refine ⟨g, hP, ?_⟩
  rw [List.append_nil]
  exact .nil _

/-- One piece after another. -/
theorem Adds.append (h₁ : Adds P bs fs Q) (h₂ : Adds Q cs gs R) :
    Adds P (bs ++ cs) (fs ++ gs) R := by
  intro g stack depth before hP
  obtain ⟨g', hQ, hread⟩ := h₁ g stack depth before hP
  obtain ⟨g'', hR, hread'⟩ := h₂ g' stack depth (before ++ fs) hQ
  refine ⟨g'', hR, ?_⟩
  rw [← List.append_assoc]
  exact hread.trans hread'

/-- What is required may be more, and what is left may be less. -/
theorem Adds.mono {P' Q' : Globals → Prop} (h : Adds P bs fs Q) (hP : ∀ g, P' g → P g)
    (hQ : ∀ g, Q g → Q' g) : Adds P' bs fs Q' := by
  intro g stack depth before hP'
  obtain ⟨g', hg', hread⟩ := h g stack depth before (hP g hP')
  exact ⟨g', hQ g' hg', hread⟩

end

theorem fields_of_reads {bs : List Byte} {s : State} (h : Reads .init bs s) (hdepth : s.depth = 0) :
    fields bs = some s.fields := by
  rw [fields, h.interpret, Option.bind_some, if_pos hdepth]

/-- A piece that adds fields from any registers is a descriptor of its own. -/
theorem fields_of_adds {bs : List Byte} {fs : List Field}
    (h : Adds (fun _ => True) bs fs fun _ => True) : fields bs = some fs := by
  obtain ⟨g, -, hreads⟩ := h ⟨0, 0, 0, 0, 0, 0⟩ [] 0 [] trivial
  exact fields_of_reads hreads rfl

/-! ### Reports -/

/-- The fields of the input report with an identifier. -/
def inputReport (reportId : ℕ) (fs : List Field) : List Field :=
  fs.filter fun f => f.kind = .input ∧ f.reportId = reportId

/-- Its length in bits. -/
def inputBits (reportId : ℕ) (fs : List Field) : ℕ :=
  ((inputReport reportId fs).map Field.size).sum

theorem inputReport_append (reportId : ℕ) (fs gs : List Field) :
    inputReport reportId (fs ++ gs) = inputReport reportId fs ++ inputReport reportId gs :=
  List.filter_append ..

theorem inputBits_append (reportId : ℕ) (fs gs : List Field) :
    inputBits reportId (fs ++ gs) = inputBits reportId fs + inputBits reportId gs := by
  rw [inputBits, inputReport_append, List.map_append, List.sum_append, inputBits, inputBits]

/-- Where all fields are of this report, -/
theorem inputReport_of_forall {reportId : ℕ} {fs : List Field}
    (h : ∀ f ∈ fs, f.kind = .input ∧ f.reportId = reportId) : inputReport reportId fs = fs :=
  List.filter_eq_self.mpr fun f hf => decide_eq_true (h f hf)

/-- and where none is. -/
theorem inputReport_of_forall_not {reportId : ℕ} {fs : List Field}
    (h : ∀ f ∈ fs, ¬ (f.kind = .input ∧ f.reportId = reportId)) : inputReport reportId fs = [] :=
  List.filter_eq_nil_iff.mpr fun f hf => by simpa using h f hf

/-- The number some bits spell, the lowest one first. -/
def ofBits (bs : List Bool) : ℕ := bs.foldr (fun b n => b.toNat + 2 * n) 0

/-- A number, if it is in a range. -/
def inRange (lo hi n : ℤ) : Option ℤ := if lo ≤ n ∧ n ≤ hi then some n else none

/-- What a field with these bits holds: none if they are out of its logical range. The bits are in
two's complement where the range reaches below zero. -/
def Field.value (f : Field) (bs : List Bool) : Option ℤ :=
  inRange f.logicalMin f.logicalMax <|
    if f.logicalMin < 0 ∧ 2 ^ f.size ≤ 2 * ofBits bs then ofBits bs - 2 ^ f.size else ofBits bs

/-- The values of the usages, field after field. -/
def decode : List Field → List Bool → List (Usage × Option ℤ)
  | [], _ => []
  | f :: fs, bs =>
    match f.usage with
    | some u => (u, f.value (bs.take f.size)) :: decode fs (bs.drop f.size)
    | none => decode fs (bs.drop f.size)

/-- **Fields that follow each other are decoded one after the other.** -/
theorem decode_append {fs gs : List Field} {bs cs : List Bool}
    (h : bs.length = (fs.map Field.size).sum) :
    decode (fs ++ gs) (bs ++ cs) = decode fs bs ++ decode gs cs := by
  induction fs generalizing bs with
  | nil =>
    obtain rfl := List.length_eq_zero_iff.mp h
    rfl
  | cons f fs ih =>
    rw [List.map_cons, List.sum_cons] at h
    have hlength : (bs.drop f.size).length = (fs.map Field.size).sum := by
      rw [List.length_drop]
      omega
    have htail := ih hlength
    rw [List.cons_append, decode, decode, List.take_append_of_le_length (by omega),
      List.drop_append_of_le_length (by omega), htail]
    cases f.usage with
    | none => rfl
    | some u => rfl

/-- A series of variables, each with its own bits. -/
theorem decode_flatMap {α : Type*} {l : List α} {field : α → Field} (usage : α → Usage)
    {held : α → List Bool} (husage : ∀ a ∈ l, (field a).usage = some (usage a))
    (hsize : ∀ a ∈ l, (held a).length = (field a).size) :
    decode (l.map field) (l.flatMap held)
      = l.map fun a => (usage a, (field a).value (held a)) := by
  induction l with
  | nil => rfl
  | cons a l ih =>
    rw [List.forall_mem_cons] at husage hsize
    rw [List.map_cons, List.flatMap_cons, decode, ← hsize.1, List.take_left, List.drop_left,
      ih husage.2 hsize.2, husage.1, List.map_cons]

/-- A bit is out of no range. -/
theorem Field.value_bit {f : Field} (hmin : f.logicalMin = 0) (hmax : f.logicalMax = 1) (b : Bool) :
    f.value [b] = some b.toInt := by
  cases b <;> simp [value, inRange, hmin, hmax, ofBits]

/-- A series of variables of a bit each. -/
theorem decode_map_bit {α : Type*} {l : List α} {field : α → Field} (usage : α → Usage)
    {bit : α → Bool} (husage : ∀ a ∈ l, (field a).usage = some (usage a))
    (hsize : ∀ a ∈ l, (field a).size = 1) (hmin : ∀ a ∈ l, (field a).logicalMin = 0)
    (hmax : ∀ a ∈ l, (field a).logicalMax = 1) :
    decode (l.map field) (l.map bit) = l.map fun a => (usage a, some (bit a).toInt) := by
  have hbits : l.map bit = l.flatMap fun a => [bit a] := List.map_eq_flatMap
  have hlength : ∀ a ∈ l, [bit a].length = (field a).size := fun a ha => (hsize a ha).symm
  rw [hbits, decode_flatMap usage husage hlength]
  exact List.map_congr_left fun a ha => by rw [Field.value_bit (hmin a ha) (hmax a ha)]

/-- Constant bits hold nothing. -/
theorem decode_constant {fs : List Field} (h : ∀ f ∈ fs, f.usage = none) (bs : List Bool) :
    decode fs bs = [] := by
  induction fs generalizing bs with
  | nil => rfl
  | cons f fs ih =>
    rw [List.forall_mem_cons] at h
    rw [decode, h.1]
    exact ih h.2 _

theorem ofBits_ofFn {n : ℕ} (v : ℕ) :
    ofBits (List.ofFn fun i : Fin n => v.testBit i) = v % 2 ^ n := by
  induction n generalizing v with
  | zero => simp [ofBits, Nat.mod_one]
  | succ n ih =>
    have htail : (fun i : Fin n => v.testBit i.succ) = fun i : Fin n => (v / 2).testBit i := by
      funext i
      rw [Fin.val_succ, Nat.testBit_succ]
    have hhead : (v.testBit 0).toNat = v % 2 := by
      rw [Nat.testBit_zero]
      rcases Nat.mod_two_eq_zero_or_one v with h | h <;> simp [h]
    have hcons : ofBits (List.ofFn fun i : Fin (n + 1) => v.testBit i)
        = (v.testBit 0).toNat + 2 * ofBits (List.ofFn fun i : Fin n => v.testBit i.succ) := by
      rw [List.ofFn_succ]
      rfl
    rw [hcons, htail, ih, hhead, pow_succ', Nat.mod_mul]

/-- **The bits of a word are decoded to its number.** -/
theorem ofBits_word {w : ℕ} (v : BitVec w) :
    ofBits (List.ofFn fun i : Fin w => v.getLsbD i) = v.toNat := by
  have h := ofBits_ofFn (n := w) v.toNat
  rwa [Nat.mod_eq_of_lt v.isLt] at h

/-- What a field holds whose bits are a word. -/
theorem Field.value_word {w : ℕ} {f : Field} (hsize : f.size = w) (v : BitVec w) :
    f.value (List.ofFn fun i : Fin w => v.getLsbD i)
      = inRange f.logicalMin f.logicalMax (if f.logicalMin < 0 then v.toInt else v.toNat) := by
  have hraw : (if f.logicalMin < 0 ∧ 2 ^ f.size ≤ 2 * v.toNat then (v.toNat : ℤ) - 2 ^ f.size
      else v.toNat) = if f.logicalMin < 0 then v.toInt else v.toNat := by
    rw [BitVec.toInt_eq_toNat_cond, hsize]
    push_cast
    by_cases hmin : f.logicalMin < 0
    · by_cases hv : 2 ^ w ≤ 2 * v.toNat
      · rw [if_pos ⟨hmin, hv⟩, if_pos hmin, if_neg (by omega)]
      · rw [if_neg fun h => hv h.2, if_pos hmin, if_pos (by omega)]
    · rw [if_neg fun h => hmin h.1, if_neg hmin]
  rw [value, ofBits_word, hraw]

end Hid
